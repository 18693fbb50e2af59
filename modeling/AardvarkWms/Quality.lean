import AardvarkWms.Inventory
import AardvarkWms.Statements
import Mathlib.Data.PNat.Basic

/-! Quality inspections: `src/quality/quality.service.ts`. Its statements are not in a transaction;
they run beside the transactions of reservations and inventory. -/
namespace AardvarkWms.Quality

open Transactions (Config Session Move)
open Relational (Db interface Lock database)
open Statements

inductive QualityInspectionStatus
  | OPEN | PASSED | FAILED | QUARANTINED | RELEASED | CANCELLED
  deriving DecidableEq

inductive QualityInspectionResult
  | PASS | FAIL | HOLD | QUARANTINE | RELEASE
  deriving DecidableEq

inductive LotQualityStatus
  | RELEASED | PENDING_QA | HOLD | REJECTED
  deriving DecidableEq

structure QualityInspection where
  id : ℕ
  warehouseId : ℕ
  ownerClientId : Option ℕ
  skuId : Option ℕ
  lotId : Option ℕ
  stockQuantId : Option ℕ
  inspectionNumber : Text
  status : QualityInspectionStatus
  result : Option QualityInspectionResult
  sampleQuantity : ℕ
  reasonCode : Option Text
  notes : Option Text
  createdByUserId : ℕ
  completedByUserId : Option ℕ
  deriving DecidableEq

structure CreateQualityInspectionDto where
  inspectionNumber : Text
  ownerClientReference : Option Text := none
  skuReference : Option Text := none
  lotReference : Option Text := none
  stockQuantId : Option Text := none
  sampleQuantity : Option ℕ+ := none
  reasonCode : Option Text := none

structure CompleteQualityInspectionDto where
  result : QualityInspectionResult
  notes : Option Text := none

structure QualityDisposition where
  result : QualityInspectionResult
  inspectionStatus : QualityInspectionStatus
  stockStatus : Option StockQuantStatus
  lotStatus : Option LotStatus
  lotQualityStatus : Option LotQualityStatus

def decideQualityDisposition : QualityInspectionResult → QualityDisposition
  | .PASS => ⟨.PASS,.PASSED,some .AVAILABLE,some .RELEASED,some .RELEASED⟩
  | .RELEASE => ⟨.RELEASE,.PASSED,some .AVAILABLE,some .RELEASED,some .RELEASED⟩
  | .HOLD => ⟨.HOLD,.QUARANTINED,some .BLOCKED,some .HOLD,some .HOLD⟩
  | .QUARANTINE => ⟨.QUARANTINE,.QUARANTINED,some .QUARANTINE,some .QUARANTINED,some .PENDING_QA⟩
  | .FAIL => ⟨.FAIL,.FAILED,some .DAMAGED,some .HOLD,some .REJECTED⟩

theorem decideQualityDisposition_closed (result : QualityInspectionResult) :
    (decideQualityDisposition result).inspectionStatus≠.OPEN := by
  cases result <;> decide

/-- The columns that completing an inspection writes: it is open no more. -/
structure Completion where
  status : QualityInspectionStatus
  result : QualityInspectionResult
  notes : Option Text
  completedByUserId : ℕ
  closed : status≠.OPEN
  deriving DecidableEq

def Completion.apply (u : Completion) (x : QualityInspection) : QualityInspection :=
  {x with status := u.status, result := some u.result, notes := u.notes,
          completedByUserId := some u.completedByUserId}

theorem Completion.apply_id (u : Completion) (x : QualityInspection) : (u.apply x).id=x.id := rfl

/-- The statements of the service. The UPDATE of a quant says for which inspection it is. -/
inductive Statement
  | warehouse (reference : Text)
  | client (reference : Text)
  | sku (reference : Text)
  | lot (warehouseId skuId : ℕ) (reference : Text)
  | inspection (warehouseId : ℕ) (reference : Text)
  | quant (warehouseId : ℕ) (reference : Text)
  | insertInspection (row : QualityInspection)
  | completeInspection (id : ℕ) (completion : Completion)
  | setQuantStatus (id : ℕ) (status : StockQuantStatus) (inspectionId : Option ℕ)
  | setLotStatus (id : ℕ) (status : LotStatus) (qualityStatus : LotQualityStatus)
  deriving DecidableEq

def Statement.Answer : Statement → Type
  | warehouse _ => Option Warehouse
  | client _ => Option WmsClient
  | sku _ => Option Sku
  | lot _ _ _ => Option SkuLot
  | inspection _ _ => Option QualityInspection
  | quant _ _ => Option StockQuant
  | insertInspection _ => Unit
  | completeInspection _ _ => Option QualityInspection
  | setQuantStatus _ _ _ => Unit
  | setLotStatus _ _ _ => Unit

abbrev quality : Interface := ⟨Statement,Statement.Answer,HttpException⟩

abbrev Call : Type → Type := Program quality

def resolveWarehouse (reference : Text) : Call Warehouse := do
  let row ← Program.statement (I := quality) (.warehouse reference)
  Program.demand row (.notFound "Warehouse was not found")

def resolveClient (reference : Text) : Call WmsClient := do
  let row ← Program.statement (I := quality) (.client reference)
  Program.demand row (.notFound "Client was not found")

def resolveSku (reference : Text) : Call Sku := do
  let row ← Program.statement (I := quality) (.sku reference)
  Program.demand row (.notFound "SKU was not found")

def resolveLot (warehouseId skuId : ℕ) (reference : Text) : Call SkuLot := do
  let row ← Program.statement (I := quality) (.lot warehouseId skuId reference)
  Program.demand row (.notFound "Lot was not found")

def resolveInspection (warehouseId : ℕ) (reference : Text) : Call QualityInspection := do
  let row ← Program.statement (I := quality) (.inspection warehouseId reference)
  Program.demand row (.notFound "Quality inspection was not found")

def resolveQuant (warehouseId : ℕ) (reference : Text) : Call StockQuant := do
  let row ← Program.statement (I := quality) (.quant warehouseId reference)
  Program.demand row (.notFound "Stock quant was not found")

/-- A reference that is given is resolved. -/
def ifGiven {α : Type} (resolve : Text → Call α) : Option Text → Call (Option α)
  | none => pure none
  | some reference => do
    let found ← resolve reference
    pure (some found)

def calculateSampleQuantity (quantity samplePercent minSampleQuantity : ℕ)
    (maxSampleQuantity : Option ℕ) : ℕ :=
  max minSampleQuantity (min (maxSampleQuantity.getD quantity) ((quantity*samplePercent+99)/100))

/-- The cast of the INSERT. -/
def quantIdOf : Option Text → Call (Option ℕ)
  | none => pure none
  | some (.uuid id) => pure (some id)
  | some (.word _) => .refuse .malformedUuid

def createInspection (warehouseReference : Text) (dto : CreateQualityInspectionDto)
    (actor generated : ℕ) : Call Unit := do
  let warehouse ← resolveWarehouse warehouseReference
  let ownerClient ← ifGiven resolveClient dto.ownerClientReference
  let sku ← ifGiven resolveSku dto.skuReference
  let lot ← match sku with
    | some sku => ifGiven (resolveLot warehouse.id sku.id) dto.lotReference
    | none => pure none
  Program.require (dto.lotReference.isSome=true → sku.isSome=true)
    (.conflict "lotReference requires skuReference.")
  let sampleQuantity := match dto.sampleQuantity with
    | some n => calculateSampleQuantity n 100 1 none
    | none => 1
  let stockQuantId ← quantIdOf dto.stockQuantId
  Program.statement (I := quality) (.insertInspection
    {id := generated, warehouseId := warehouse.id, ownerClientId := ownerClient.map (·.id),
     skuId := sku.map (·.id), lotId := lot.map (·.id), stockQuantId := stockQuantId,
     inspectionNumber := dto.inspectionNumber, status := .OPEN, result := none,
     sampleQuantity := sampleQuantity, reasonCode := dto.reasonCode, notes := none,
     createdByUserId := actor, completedByUserId := none})

def completionOf (dto : CompleteQualityInspectionDto) (actor : ℕ) : Completion where
  status := (decideQualityDisposition dto.result).inspectionStatus
  result := (decideQualityDisposition dto.result).result
  notes := dto.notes
  completedByUserId := actor
  closed := decideQualityDisposition_closed dto.result

def setStock (decision : QualityDisposition) (inspection : QualityInspection) : Call Unit :=
  match decision.stockStatus, inspection.stockQuantId with
  | some status, some quantId =>
    Program.statement (I := quality) (.setQuantStatus quantId status (some inspection.id))
  | _, _ => pure ()

def setLot (decision : QualityDisposition) (inspection : QualityInspection) : Call Unit :=
  match decision.lotStatus, decision.lotQualityStatus, inspection.lotId with
  | some status, some qualityStatus, some lotId =>
    Program.statement (I := quality) (.setLotStatus lotId status qualityStatus)
  | _, _, _ => pure ()

def completeInspection (warehouseReference inspectionReference : Text)
    (dto : CompleteQualityInspectionDto) (actor : ℕ) : Call Unit := do
  let warehouse ← resolveWarehouse warehouseReference
  let existing ← resolveInspection warehouse.id inspectionReference
  let decision := decideQualityDisposition dto.result
  let rows ← Program.statement (I := quality)
    (.completeInspection existing.id (completionOf dto actor))
  let inspection ← Program.demand rows (.conflict "Quality inspection was not completed")
  setStock decision inspection
  setLot decision inspection

def releaseQuarantine (warehouseReference quantReference : Text) : Call Unit := do
  let warehouse ← resolveWarehouse warehouseReference
  let quant ← resolveQuant warehouse.id quantReference
  Program.statement (I := quality) (.setQuantStatus quant.id .AVAILABLE none)

inductive Op
  | createInspection (warehouse : Text) (dto : CreateQualityInspectionDto) (actor generated : ℕ)
  | completeInspection (warehouse inspection : Text) (dto : CompleteQualityInspectionDto) (actor : ℕ)
  | releaseQuarantine (warehouse quant : Text)

def Op.prog : Op → Call Unit
  | .createInspection w dto actor generated => Quality.createInspection w dto actor generated
  | .completeInspection w x dto actor => Quality.completeInspection w x dto actor
  | .releaseQuarantine w q => Quality.releaseQuarantine w q

/-- The transactions beside it. -/
inductive StockCall
  | createReservation (warehouse : Text) (dto : CreateReservationDto)
  | releaseReservation (warehouse : Text) (reservation : ℕ) (target : ReleaseStatus)
  | block (warehouse quant : Text) (dto : TransferStockDto)
  | unblock (warehouse quant : Text) (dto : TransferStockDto)

def StockCall.prog : StockCall → Wms Unit
  | .createReservation w dto => AardvarkWms.createReservation w dto
  | .releaseReservation w r target => AardvarkWms.releaseReservation w r target
  | .block w q dto => (AardvarkWms.block w q dto).bind fun _ => .done ()
  | .unblock w q dto => (AardvarkWms.unblock w q dto).bind fun _ => .done ()

abbrev Stock : Type := Config (interface wms) (Db wms) StockCall

/-- One step of the transactions beside: any of them begins, makes a statement, commits or is
lost. -/
inductive StockStep : Stock → Stock → Prop
  | begin {c} (i : ℕ) (op : StockCall) : c.session i=none →
      StockStep c (c.put i (some ⟨op,op.prog,[],[],[]⟩))
  | move {c s s'} (i : ℕ) : c.session i=some s → Move (database wms) c.committed (c.Free i) s s' →
      StockStep c (c.put i (some s'))
  | flush {c p} {s : Session (interface wms) StockCall} (i : ℕ) : c.session i=some s →
      s.rest=.commit p → StockStep c
        ({c with committed := (database wms).applyAll s.writes c.committed}.put i
          (some ⟨s.op,p,[],[],s.log⟩))
  | finish {c} {s : Session (interface wms) StockCall} (i : ℕ) : c.session i=some s →
      s.rest=.done () → StockStep c
        ({c with committed := (database wms).applyAll s.writes c.committed}.put i none)
  | abort {c} (i : ℕ) : StockStep c (c.put i none)

structure State where
  stock : Stock
  lotQuality : ℕ → LotQualityStatus
  inspections : Table QualityInspection.id

namespace State

def quants (d : State) : Table StockQuant.id := d.stock.committed .stockQuants

def lots (d : State) : Table SkuLot.id := d.stock.committed .skuLots

def withQuants (d : State) (rows : Table StockQuant.id) : State :=
  {d with stock := {d.stock with committed := Function.update d.stock.committed .stockQuants rows}}

def withLots (d : State) (rows : Table SkuLot.id) : State :=
  {d with stock := {d.stock with committed := Function.update d.stock.committed .skuLots rows}}

/-- No transaction holds the row. -/
def Unlocked (d : State) (t : TableName) (id : t.Id) : Prop :=
  ∀ i s, d.stock.session i=some s → (Lock.row t id : Lock wms)∉s.locks

end State

def setStatus (status : StockQuantStatus) (q : StockQuant) : StockQuant := {q with status}

theorem setStatus_id (status : StockQuantStatus) (q : StockQuant) : (setStatus status q).id=q.id :=
  rfl

def setLotStatus (status : LotStatus) (l : SkuLot) : SkuLot := {l with status}

theorem setLotStatus_id (status : LotStatus) (l : SkuLot) : (setLotStatus status l).id=l.id := rfl

def exec : (s : Statement) → State → Except HttpException (s.Answer × State)
  | .warehouse r, d =>
    .ok ((d.stock.committed .warehouses).rows.find? fun w : Warehouse => r.names w.id w.code,d)
  | .client r, d =>
    .ok ((d.stock.committed .wmsClients).rows.find? fun c : WmsClient => r.names c.id c.code,d)
  | .sku r, d =>
    .ok ((d.stock.committed .skus).rows.find? fun s : Sku =>
      r.names s.id s.code || s.barcode=some r,d)
  | .lot w s r, d =>
    .ok (d.lots.rows.find? fun l => l.warehouseId=w && l.skuId=s && r.names l.id l.lotCode,d)
  | .inspection w r, d =>
    .ok (d.inspections.rows.find? fun x => x.warehouseId=w && r.names x.id x.inspectionNumber,d)
  | .quant w r, d => .ok (d.quants.rows.find? fun q => q.warehouseId=w && r=.uuid q.id,d)
  | .insertInspection row, d =>
    if d.inspections.get? row.id=none ∧ ∀ x∈d.inspections.rows,
        ¬(x.warehouseId=row.warehouseId ∧ x.inspectionNumber=row.inspectionNumber) then
      .ok ((),{d with inspections := d.inspections.insert row})
    else .error .uniqueViolation
  | .completeInspection id completion, d =>
    .ok ((d.inspections.get? id).map completion.apply,
      {d with inspections := d.inspections.modify id completion.apply completion.apply_id})
  | .setQuantStatus id status _, d =>
    .ok ((),d.withQuants (d.quants.modify id (setStatus status) (setStatus_id status)))
  | .setLotStatus id status qualityStatus, d =>
    .ok ((),{d.withLots (d.lots.modify id (setLotStatus status) (setLotStatus_id status)) with
      lotQuality := Function.update d.lotQuality id qualityStatus})

theorem exec_insertInspection (row : QualityInspection) (d : State) :
    exec (.insertInspection row) d=if d.inspections.get? row.id=none ∧ ∀ x∈d.inspections.rows,
        ¬(x.warehouseId=row.warehouseId ∧ x.inspectionNumber=row.inspectionNumber) then
      .ok ((),{d with inspections := d.inspections.insert row})
    else .error .uniqueViolation := rfl

theorem exec_completeInspection (id : ℕ) (u : Completion) (d : State) :
    exec (.completeInspection id u) d=.ok ((d.inspections.get? id).map u.apply,
      {d with inspections := d.inspections.modify id u.apply u.apply_id}) := rfl

/-- An UPDATE waits for the lock of its row, and keeps the row's CHECK constraints. -/
def Ready : Statement → State → Prop
  | .setQuantStatus id status _, d => d.Unlocked .stockQuants id ∧
      ∀ q, d.quants.get? id=some q → TableName.check (t := .stockQuants) (setStatus status q)=true
  | .setLotStatus id _ _, d => d.Unlocked .skuLots id
  | _, _ => True

def semantics : Semantics quality State := ⟨Ready,exec⟩

/-- The transactions change the stock only. -/
def Beside (d d' : State) : Prop := ∃ stock, StockStep d.stock stock ∧ d'={d with stock}

abbrev System : Type := Statements.System quality State Op

abbrev Event : Type := Statements.Event Op

end AardvarkWms.Quality
