import AardvarkWms.OrderUpdates
import Mathlib.Data.List.Sort

/-! Returns: a line is received, then inspected, and what is accepted goes on stock. Every
statement is a transaction of its own, and the calls are mixed statement by statement. -/
namespace AardvarkWms.Returns

open Messaging (Str trim)
open OrderUpdates (Uuid)

inductive ReturnOrderStatus
  | CREATED | RECEIVING | INSPECTION | CLOSED | CANCELLED
  deriving DecidableEq

inductive ReturnLineStatus
  | OPEN | PARTIALLY_RECEIVED | RECEIVED | PARTIALLY_INSPECTED | CLOSED | REJECTED
  deriving DecidableEq

inductive ReturnDisposition
  | RESTOCK | QUARANTINE | DAMAGED | SCRAP | SUPPLIER_RETURN
  deriving DecidableEq

inductive ReturnsError
  | notFound (message : String)
  | conflict (message : String)
  | outOfRange
  | notNullViolation
  | uniqueViolation
  deriving DecidableEq

/-- The language's upper case and the database's order of codes. -/
structure Env where
  toUpperCase : Str → Str
  codeLe : Str → Str → Bool

structure Warehouse where
  id : Uuid
  code : Str
  deriving DecidableEq

structure WarehouseLocation where
  id : Uuid
  warehouseId : Uuid
  code : Str
  barcode : Option Str
  type : OrderUpdates.WarehouseLocationType
  binType : Option String
  deriving DecidableEq

structure SkuLot where
  id : Uuid
  warehouseId : Uuid
  skuId : Uuid
  lotCode : Str
  deriving DecidableEq

structure ReturnOrder where
  id : Uuid
  warehouseId : Uuid
  ownerClientId : Option Uuid
  rmaNumber : Str
  status : ReturnOrderStatus
  deriving DecidableEq

structure ReturnOrderLine where
  id : Uuid
  returnOrderId : Uuid
  lineNumber : Str
  skuId : Uuid
  expectedQuantity : ℕ
  receivedQuantity : ℕ
  inspectedQuantity : ℕ
  disposition : Option ReturnDisposition
  status : ReturnLineStatus
  deriving DecidableEq

structure StockQuant where
  id : Uuid
  warehouseId : Uuid
  ownerClientId : Option Uuid
  locationId : Uuid
  skuId : Uuid
  handlingUnitId : Option Uuid
  lotId : Option Uuid
  quantity : ℕ
  status : StockQuantStatus
  deriving DecidableEq

/-- What is between `return:` and the end of an idempotency key of this service. -/
structure ReturnKey where
  returnLineId : Uuid
  status : StockQuantStatus
  quantity : ℕ
  deriving DecidableEq

/-- A movement; `returnKey` is its idempotency key where its source system is `RETURNS`. -/
structure StockMovement where
  id : Uuid
  warehouseId : Uuid
  ownerClientId : Option Uuid
  skuId : Uuid
  stockQuantId : Option Uuid
  type : StockMovementType
  quantity : ℕ
  toLocationId : Option Uuid
  returnKey : Option ReturnKey
  deriving DecidableEq

structure ReturnInspection where
  id : Uuid
  warehouseId : Uuid
  returnOrderId : Uuid
  returnOrderLineId : Uuid
  disposition : ReturnDisposition
  inspectedQuantity : ℕ
  acceptedQuantity : ℕ
  rejectedQuantity : ℕ
  stockQuantId : Option Uuid
  deriving DecidableEq

structure ReturnsDb where
  warehouses : List Warehouse
  locations : List WarehouseLocation
  lots : List SkuLot
  orders : List ReturnOrder
  lines : Table ReturnOrderLine.id
  quants : Table StockQuant.id
  movements : Table StockMovement.id
  inspections : List ReturnInspection

structure ReceiveReturnLineDto where
  quantity : ℕ

structure InspectReturnLineDto where
  disposition : ReturnDisposition
  inspectedQuantity : ℕ
  acceptedQuantity : Option ℕ := none
  rejectedQuantity : Option ℕ := none
  locationReference : Option Str := none
  lotReference : Option Str := none

def assertReturnQuantity (quantity : ℕ) (label : String) : Except ReturnsError ℕ :=
  if quantity=0 then throw (.conflict (label++" must be a positive integer.")) else pure quantity

structure Decision where
  disposition : ReturnDisposition
  createsStock : Bool
  stockStatus : Option StockQuantStatus
  closesLine : Bool

def decideReturnDisposition (disposition : ReturnDisposition) : Decision :=
  match disposition with
  | .RESTOCK => ⟨disposition,true,some .AVAILABLE,true⟩
  | .QUARANTINE => ⟨disposition,true,some .QUARANTINE,true⟩
  | .DAMAGED => ⟨disposition,true,some .DAMAGED,true⟩
  | .SCRAP => ⟨disposition,false,none,true⟩
  | .SUPPLIER_RETURN => ⟨disposition,false,none,true⟩

def nextReturnLineStatus (expectedQuantity receivedQuantity inspectedQuantity : ℕ)
    (disposition : Option ReturnDisposition) : ReturnLineStatus :=
  if disposition.isSome ∧ expectedQuantity ≤ inspectedQuantity then .CLOSED
  else if 0 < inspectedQuantity then .PARTIALLY_INSPECTED
  else if expectedQuantity ≤ receivedQuantity then .RECEIVED
  else if 0 < receivedQuantity then .PARTIALLY_RECEIVED
  else .OPEN

def nextReturnOrderStatus (lineStatuses : List ReturnLineStatus) : ReturnOrderStatus :=
  if lineStatuses=[] then .CREATED
  else if lineStatuses.all fun s => s=.CLOSED || s=.REJECTED then .CLOSED
  else if lineStatuses.any fun s => s=.PARTIALLY_INSPECTED || s=.CLOSED then .INSPECTION
  else if lineStatuses.any fun s => s≠.OPEN then .RECEIVING
  else .CREATED

def orNotFound {α : Type} (o : Option α) (message : String) : Except ReturnsError α :=
  o.elim (.error (.notFound message)) .ok

namespace Env
variable (env : Env) (db : ReturnsDb)

def normalizeReturnReference (value : Str) : Except ReturnsError Str :=
  if env.toUpperCase (trim value)=[] then throw (.conflict "Return reference cannot be empty.")
  else pure (env.toUpperCase (trim value))

def resolveWarehouse (reference : Str) : Except ReturnsError Warehouse := do
  let code ← env.normalizeReturnReference reference
  orNotFound (db.warehouses.find? fun w => w.id.val=reference || w.code=code)
    "Warehouse was not found"

def resolveReturnOrder (warehouseId : Uuid) (reference : Str) : Except ReturnsError ReturnOrder := do
  let rmaNumber ← env.normalizeReturnReference reference
  orNotFound (db.orders.find? fun o =>
      o.warehouseId=warehouseId && (o.id.val=reference || o.rmaNumber=rmaNumber))
    "Return order was not found"

def resolveReturnLine (returnOrderId : Uuid) (reference : Str) :
    Except ReturnsError ReturnOrderLine :=
  orNotFound (db.lines.rows.find? fun l =>
      l.returnOrderId=returnOrderId && (l.id.val=reference || l.lineNumber=trim reference))
    "Return order line was not found"

def resolveLocation (warehouseId : Uuid) (reference : Str) :
    Except ReturnsError WarehouseLocation := do
  let code ← env.normalizeReturnReference reference
  orNotFound (db.locations.find? fun l => l.warehouseId=warehouseId &&
      (l.id.val=reference || l.code=code || l.barcode=some (trim reference)))
    "Returns location was not found"

def defaultRank (l : WarehouseLocation) : ℕ :=
  if l.binType=some "RETURNS" then 0 else if l.type=.QUARANTINE then 1 else 2

def resolveDefaultReturnsLocation (warehouseId : Uuid) : Except ReturnsError WarehouseLocation :=
  let found := db.locations.filter fun l => l.warehouseId=warehouseId &&
    (l.type∈[.RECEIVING,.QUARANTINE,.BUFFER] || l.binType∈[some "RETURNS",some "QUARANTINE"])
  orNotFound (found.insertionSort fun a b => defaultRank a < defaultRank b ∨
      defaultRank a=defaultRank b ∧ env.codeLe a.code b.code=true).head?
    "Default returns location was not found"

def resolveLot (warehouseId skuId : Uuid) (reference : Str) : Except ReturnsError SkuLot :=
  orNotFound (db.lots.find? fun l => l.warehouseId=warehouseId && l.skuId=skuId &&
      (l.id.val=reference || l.lotCode=trim reference))
    "Lot was not found"

end Env
inductive ReturnDto
  | receive (dto : ReceiveReturnLineDto)
  | inspect (dto : InspectReturnLineDto)

structure Request where
  warehouseReference : Str
  returnReference : Str
  lineReference : Str
  dto : ReturnDto

/-- An inspection that passed its checks, with the line as it was read. -/
structure Inspection where
  order : ReturnOrder
  line : ReturnOrderLine
  decision : Decision
  inspectedQuantity : ℕ
  acceptedQuantity : ℕ
  rejectedQuantity : ℕ

/-- Where accepted stock goes. -/
structure Posting where
  warehouseId : Uuid
  ownerClientId : Option Uuid
  skuId : Uuid
  quantity : ℕ
  status : StockQuantStatus
  locationId : Uuid
  lotId : Option Uuid
  returnLineId : Uuid

/-- The statement that a call makes next, with what it has read so far. -/
inductive Phase
  | warehouse
  | order (warehouseId : Uuid)
  | line (order : ReturnOrder)
  | received (line : ReturnOrderLine) (nextReceived : ℕ)
  | location (x : Inspection)
  | lot (x : Inspection) (location : WarehouseLocation)
  | quants (x : Inspection) (posting : Posting)
  | quant (x : Inspection) (posting : Posting)
  | movement (x : Inspection) (posting : Posting) (quantId : Uuid)
  | inspection (x : Inspection) (stockQuantId : Option Uuid)
  | inspected (x : Inspection)
  | statuses (returnOrderId : Uuid)
  | orderStatus (returnOrderId : Uuid) (status : ReturnOrderStatus)

def InspectReturnLineDto.accepted (dto : InspectReturnLineDto) : ℕ :=
  dto.acceptedQuantity.getD
    (if (decideReturnDisposition dto.disposition).createsStock then dto.inspectedQuantity else 0)

def InspectReturnLineDto.rejected (dto : InspectReturnLineDto) : ℕ :=
  dto.rejectedQuantity.getD (dto.inspectedQuantity-dto.accepted)

def checkReceive (line : ReturnOrderLine) (dto : ReceiveReturnLineDto) : Except ReturnsError ℕ := do
  let quantity ← assertReturnQuantity dto.quantity "quantity"
  if line.expectedQuantity < line.receivedQuantity+quantity then
    throw (.conflict "Received quantity cannot exceed expected return quantity.")
  else pure (line.receivedQuantity+quantity)

/-- Where more was inspected than received the rest is negative, and any quantity exceeds it. -/
def checkInspect (order : ReturnOrder) (line : ReturnOrderLine) (dto : InspectReturnLineDto) :
    Except ReturnsError Inspection := do
  let inspectedQuantity ← assertReturnQuantity dto.inspectedQuantity "inspectedQuantity"
  if line.receivedQuantity=0 ∨ line.receivedQuantity-line.inspectedQuantity < inspectedQuantity then
    throw (.conflict "Inspected quantity cannot exceed uninspected received quantity.")
  else if dto.accepted+dto.rejected≠inspectedQuantity then
    throw (.conflict "Accepted + rejected quantity must equal inspected quantity.")
  else pure ⟨order,line,decideReturnDisposition dto.disposition,inspectedQuantity,dto.accepted,
    dto.rejected⟩

/-- Stock is posted only where the disposition makes some and something was accepted. -/
def afterChecks (x : Inspection) : Phase :=
  if x.decision.createsStock ∧ 0 < x.acceptedQuantity then .location x else .inspection x none

def Inspection.posting (x : Inspection) (location : WarehouseLocation) (lotId : Option Uuid) :
    Posting :=
  ⟨x.order.warehouseId,x.order.ownerClientId,x.line.skuId,x.acceptedQuantity,
    x.decision.stockStatus.getD .AVAILABLE,location.id,lotId,x.line.id⟩

/-- The rows that `UPDATE stock_quants` finds. -/
def Posting.finds (p : Posting) (q : StockQuant) : Bool :=
  q.warehouseId=p.warehouseId && q.locationId=p.locationId && q.skuId=p.skuId &&
    q.status=p.status && q.ownerClientId=p.ownerClientId && q.lotId=p.lotId &&
    q.handlingUnitId=none

def Posting.key (p : Posting) : ReturnKey := ⟨p.returnLineId,p.status,p.quantity⟩

/-- The largest integer of a column. -/
def maxInt : ℕ := 2147483647

namespace ReturnsDb
variable (db : ReturnsDb)

def receiveQuants (p : Posting) : Table StockQuant.id :=
  db.quants.modifyWhere p.finds (fun q => {q with quantity := q.quantity+p.quantity}) fun _ => rfl

def insertQuant (id : Uuid) (p : Posting) : Except ReturnsError (Table StockQuant.id) :=
  if db.quants.get? id=none then pure (db.quants.insert ⟨id,p.warehouseId,p.ownerClientId,
    p.locationId,p.skuId,none,p.lotId,p.quantity,p.status⟩)
  else throw .uniqueViolation

/-- `ON CONFLICT (source_system, idempotency_key) DO NOTHING`. -/
def insertMovement (id : Uuid) (p : Posting) (quantId : Uuid) :
    Except ReturnsError (Table StockMovement.id) :=
  if db.movements.rows.any fun m => m.returnKey=some p.key then pure db.movements
  else if db.movements.get? id=none then pure (db.movements.insert ⟨id,p.warehouseId,p.ownerClientId,
    p.skuId,some quantId,.RECEIVE,p.quantity,some p.locationId,some p.key⟩)
  else throw .uniqueViolation

end ReturnsDb

/-- The line as its reader knows it, with what was received. -/
def receivedLine (line : ReturnOrderLine) (nextReceived : ℕ) (l : ReturnOrderLine) :
    ReturnOrderLine :=
  {l with
    receivedQuantity := nextReceived
    status := nextReturnLineStatus line.expectedQuantity nextReceived line.inspectedQuantity
      line.disposition}

def inspectedLine (x : Inspection) (l : ReturnOrderLine) : ReturnOrderLine :=
  let nextInspected := x.line.inspectedQuantity+x.inspectedQuantity
  {l with
    inspectedQuantity := nextInspected
    disposition := some x.decision.disposition
    status := if x.decision.closesLine then .CLOSED else
      nextReturnLineStatus x.line.expectedQuantity x.line.receivedQuantity nextInspected
        (some x.decision.disposition)}

/-- The id of a new row, which no INSERT of this service names. -/
def newId (generated : Option Uuid) : Except ReturnsError Uuid :=
  generated.elim (.error .notNullViolation) .ok

/-- One statement of a call: what it leaves and what comes next, or the error that ends the call.
`generated` is what the database puts into a missing `id`. -/
def advance (env : Env) (generated : Option Uuid) (db : ReturnsDb) (request : Request) :
    Phase → Except ReturnsError (ReturnsDb × Option Phase)
  | .warehouse => do
    let warehouse ← env.resolveWarehouse db request.warehouseReference
    pure (db,some (.order warehouse.id))
  | .order warehouseId => do
    let order ← env.resolveReturnOrder db warehouseId request.returnReference
    pure (db,some (.line order))
  | .line order => do
    let line ← Env.resolveReturnLine db order.id request.lineReference
    match request.dto with
    | .receive dto => do
      let nextReceived ← checkReceive line dto
      pure (db,some (.received line nextReceived))
    | .inspect dto => do
      let x ← checkInspect order line dto
      pure (db,some (afterChecks x))
  | .received line nextReceived =>
    pure ({db with lines := db.lines.modify line.id (receivedLine line nextReceived) fun _ => rfl},
      some (.statuses line.returnOrderId))
  | .location x => do
    let reference := match request.dto with
      | .receive _ => none
      | .inspect dto => dto.locationReference.filter (·≠[])
    let location ← match reference with
      | some reference => env.resolveLocation db x.order.warehouseId reference
      | none => env.resolveDefaultReturnsLocation db x.order.warehouseId
    pure (db,some (.lot x location))
  | .lot x location =>
    let reference := match request.dto with
      | .receive _ => none
      | .inspect dto => dto.lotReference.filter (·≠[])
    match reference with
    | none => pure (db,some (.quants x (x.posting location none)))
    | some reference => do
      let lot ← Env.resolveLot db x.order.warehouseId x.line.skuId reference
      pure (db,some (.quants x (x.posting location (some lot.id))))
  | .quants x p =>
    if (db.quants.rows.filter p.finds).any fun q => maxInt < q.quantity+p.quantity then
      throw .outOfRange
    else pure ({db with quants := db.receiveQuants p},
      some (match db.quants.rows.find? p.finds with
        | some q => .movement x p q.id
        | none => .quant x p))
  | .quant x p => do
    let id ← newId generated
    let quants ← db.insertQuant id p
    pure ({db with quants},some (.movement x p id))
  | .movement x p quantId => do
    let id ← newId generated
    let movements ← db.insertMovement id p quantId
    pure ({db with movements},some (.inspection x (some quantId)))
  | .inspection x stockQuantId => do
    let id ← newId generated
    pure ({db with inspections := db.inspections++[⟨id,x.order.warehouseId,x.order.id,x.line.id,
        x.decision.disposition,x.inspectedQuantity,x.acceptedQuantity,x.rejectedQuantity,
        stockQuantId⟩]},some (.inspected x))
  | .inspected x =>
    pure ({db with lines := db.lines.modify x.line.id (inspectedLine x) fun _ => rfl},
      some (.statuses x.order.id))
  | .statuses returnOrderId =>
    pure (db,some (.orderStatus returnOrderId (nextReturnOrderStatus
      ((db.lines.rows.filter (·.returnOrderId=returnOrderId)).map (·.status)))))
  | .orderStatus returnOrderId status =>
    pure ({db with orders := db.orders.map fun o =>
      if o.id=returnOrderId then {o with status} else o},none)

/-- A call, with what its statements did to the stock and which RECEIVE movements they wrote. -/
structure Call where
  request : Request
  phase : Phase
  posted : ℤ
  moved : List ℕ

structure System where
  db : ReturnsDb
  call : ℕ → Option Call

inductive Action
  | start (i : ℕ) (request : Request)
  | advance (i : ℕ) (generated : Option Uuid)

inductive Event
  | done (request : Request) (posted : ℤ) (moved : List ℕ)
  | failed (request : Request) (e : ReturnsError)

def ReturnsDb.stock (db : ReturnsDb) : ℤ := db.quants.total fun q => q.quantity

/-- The RECEIVE movements that are in the second state and not in the first. -/
def receipts (db db' : ReturnsDb) : List ℕ :=
  ((db'.movements.rows.drop db.movements.rows.length).filter (·.type=.RECEIVE)).map (·.quantity)

def Call.moves (c : Call) (db db' : ReturnsDb) (phase : Phase) : Call :=
  ⟨c.request,phase,c.posted+(db'.stock-db.stock),c.moved++receipts db db'⟩

namespace System

def put (s : System) (i : ℕ) (c : Option Call) : System :=
  {s with call := Function.update s.call i c}

def act (env : Env) (s : System) : Action → System × List Event
  | .start i request =>
    match s.call i with
    | some _ => (s,[])
    | none => (s.put i (some ⟨request,.warehouse,0,[]⟩),[])
  | .advance i generated =>
    match s.call i with
    | none => (s,[])
    | some c =>
      match Returns.advance env generated s.db c.request c.phase with
      | .error e => (s.put i none,[.failed c.request e])
      | .ok (db,some phase) => (System.put ⟨db,s.call⟩ i (some (c.moves s.db db phase)),[])
      | .ok (db,none) => (System.put ⟨db,s.call⟩ i none,
          [.done c.request (c.posted+(db.stock-s.db.stock)) (c.moved++receipts s.db db)])

/-- A run and the calls that ended in it, in order. -/
def run (env : Env) : System → List Action → System × List Event
  | s, [] => (s,[])
  | s, a::as => let r := run env (s.act env a).1 as; (r.1,(s.act env a).2++r.2)

end System
end AardvarkWms.Returns
