import AardvarkWms.RfWorkflows

/-! Cycle counts: release, submit and approve, `src/cycle-counts/cycle-counts.service.ts`. -/
namespace AardvarkWms

open Transactions Transactions.Txn Relational

structure SubmitCycleCountDto where
  countedQuantity : ℤ
  countedQuantity_nonneg : 0≤countedQuantity

def resolvePlan (warehouseId : ℕ) (reference : Text) : Wms CycleCountPlan := do
  let p ← findFirst (D := wms) .cycleCountPlans fun p =>
    p.warehouseId=warehouseId && reference.names p.id p.code
  demand p (.notFound "Cycle count plan was not found")

def isCountTaskNamed (warehouseId reference : ℕ) (t : CycleCountTask) : Bool :=
  t.warehouseId=warehouseId && (t.id=reference || t.warehouseTaskId=some reference)

def resolveCountTask (warehouseId reference : ℕ) : Wms CycleCountTask := do
  let t ← findFirst (D := wms) .cycleCountTasks (isCountTaskNamed warehouseId reference)
  demand t (.notFound "Cycle count task was not found")

def resolveCountLocation (warehouseId : ℕ) (reference : Text) : Wms WarehouseLocation := do
  let l ← findFirst (D := wms) .warehouseLocations fun l =>
    l.warehouseId=warehouseId && (reference.names l.id l.code || l.barcode=some reference)
  demand l (.notFound "Warehouse location was not found")

def resolveCountSku (reference : Text) : Wms Sku := do
  let s ← findFirst (D := wms) .skus fun s =>
    reference.names s.id s.code || s.barcode=some reference
  demand s (.notFound "SKU was not found")

def isCountable (warehouseId : ℕ) (q : StockQuant) : Bool :=
  q.warehouseId=warehouseId && (q.status=.AVAILABLE || q.status=.RESERVED)

def findCountableQuants (warehouseId : ℕ) (p : StockQuant → Bool) : Wms (List StockQuant) :=
  findMany (D := wms) .stockQuants fun q => isCountable warehouseId q && p q

def findQuantsForPlan (warehouseId : ℕ) (plan : CycleCountPlan) : Wms (List StockQuant) :=
  match plan.scopeType, plan.scopeReference with
  | .ALL, _ => findCountableQuants warehouseId fun _ => true
  | .LOCATION, some reference => do
    let location ← resolveCountLocation warehouseId reference
    findCountableQuants warehouseId (·.locationId=location.id)
  | .SKU, some reference => do
    let sku ← resolveCountSku reference
    findCountableQuants warehouseId (·.skuId=sku.id)
  | .ZONE, some reference => do
    let zone ← findMany (D := wms) .warehouseLocations (·.zone=some reference)
    findCountableQuants warehouseId fun q => zone.any (·.id=q.locationId)
  | .LOCATION, none => refuse (.conflict "LOCATION cycle count requires a scope reference")
  | .SKU, none => refuse (.conflict "SKU cycle count requires a scope reference")
  | .ZONE, none => refuse (.conflict "ZONE cycle count requires a scope reference")

def countWarehouseTask (id warehouseId : ℕ) (quant : StockQuant) : WarehouseTask :=
  {WarehouseTask.record id warehouseId .COUNT with
    skuId := some quant.skuId, fromLocationId := some quant.locationId,
    quantity := some quant.quantity, priority := 80,
    metadata := ⟨none,none,some (.uuid quant.id),true⟩}

def countTaskOf (id warehouseId planId warehouseTaskId : ℕ) (quant : StockQuant) :
    CycleCountTask :=
  ⟨id,warehouseId,planId,some warehouseTaskId,quant.locationId,some quant.skuId,some quant.id,
   some quant.quantity,none,none,.OPEN⟩

def countFreeze (id warehouseId planId : ℕ) (quant : StockQuant) : StockFreeze :=
  ⟨id,warehouseId,some planId,some quant.locationId,some quant.skuId,some quant.id,.ACTIVE,
   "CYCLE_COUNT"⟩

def releaseQuant (warehouseId planId : ℕ) (quant : StockQuant) : Wms Unit := do
  let taskId ← fresh
  insert (D := wms) .warehouseTasks (countWarehouseTask taskId warehouseId quant)
  let countTaskId ← fresh
  insert (D := wms) .cycleCountTasks (countTaskOf countTaskId warehouseId planId taskId quant)
  let freezeId ← fresh
  insert (D := wms) .stockFreezes (countFreeze freezeId warehouseId planId quant)

def releasePlan (warehouseReference planReference : Text) : Wms Unit := do
  let warehouse ← resolveWarehouse warehouseReference
  let plan ← resolvePlan warehouse.id planReference
  require (plan.status=.DRAFT) (.conflict "Cycle count plan must be DRAFT before release")
  let quants ← findQuantsForPlan warehouse.id plan
  require (quants≠[]) (.conflict "No stock quants match the cycle count plan scope")
  let _ ← each quants (releaseQuant warehouse.id plan.id)
  update (D := wms) .cycleCountPlans plan.id .RELEASED

def submitTask (warehouseReference : Text) (taskReference : ℕ) (dto : SubmitCycleCountDto) :
    Wms Unit := do
  let warehouse ← resolveWarehouse warehouseReference
  let countTask ← resolveCountTask warehouse.id taskReference
  require (countTask.status=.OPEN ∨ countTask.status=.IN_PROGRESS)
    (.conflict "Cycle count task cannot be submitted from current status")
  match countTask.warehouseTaskId with
  | none => pure ()
  | some id => lockRow (D := wms) .warehouseTasks id
  let variance := calculateCountVariance countTask.expectedQuantity dto.countedQuantity
  update (D := wms) .cycleCountTasks countTask.id (submittedCount dto.countedQuantity variance)
  match countTask.warehouseTaskId with
  | none => pure ()
  | some id => update (D := wms) .warehouseTasks id {status := .DONE}
  update (D := wms) .cycleCountPlans countTask.planId (countedPlanStatus variance)

def approvedVariance (t : CycleCountTask) : ℤ :=
  t.varianceQuantity.getD (calculateCountVariance t.expectedQuantity (t.countedQuantity.getD 0))

def countMovement (id warehouseId skuId quantId : ℕ) (t : CycleCountTask) (variance : ℤ) :
    StockMovement :=
  {StockMovement.record id warehouseId skuId .ADJUST variance with
    stockQuantId := some quantId,
    fromLocationId := if variance<0 then some t.locationId else none,
    toLocationId := if 0<variance then some t.locationId else none,
    cycleCountTaskId := some t.id}

def adjustCountedQuant (warehouseId : ℕ) (countTask : CycleCountTask) (variance : ℤ) :
    Wms Unit := do
  let missing := HttpException.conflict
    "Variance approval requires stock quant, SKU, and counted quantity"
  let quantId ← demand countTask.stockQuantId missing
  let skuId ← demand countTask.skuId missing
  let counted ← demand countTask.countedQuantity missing
  lockRow (D := wms) .stockQuants quantId
  let found ← find (D := wms) .stockQuants quantId
  let stockQuant ← demand found (.notFound "Stock quant was not found")
  require (stockQuant.reservedQuantity≤counted)
    (.conflict "Cannot approve count below currently reserved quantity")
  update (D := wms) .stockQuants stockQuant.id {quantity := .set counted, version := 1}
  let id ← fresh
  insert (D := wms) .stockMovements
    (countMovement id warehouseId skuId stockQuant.id countTask variance)

def isOpenCount (t : CycleCountTask) : Bool :=
  t.status=.OPEN || t.status=.IN_PROGRESS || t.status=.SUBMITTED

/-- The approval itself: the freeze of the task goes, and the plan's with its last task. -/
def closeCount (countTask : CycleCountTask) : Wms Unit := do
  update (D := wms) .cycleCountTasks countTask.id {status := .APPROVED}
  updateMany (D := wms) .stockFreezes (fun f =>
    f.planId=some countTask.planId && f.stockQuantId=countTask.stockQuantId && f.status=.ACTIVE)
    .RELEASED
  let openTasks ← findMany (D := wms) .cycleCountTasks fun t =>
    t.planId=countTask.planId && isOpenCount t
  if openTasks=[] then do
    update (D := wms) .cycleCountPlans countTask.planId .APPROVED
    updateMany (D := wms) .stockFreezes (fun f =>
      f.planId=some countTask.planId && f.status=.ACTIVE) .RELEASED
  else return ()

def approveTask (warehouseReference : Text) (taskReference : ℕ) : Wms Unit := do
  let warehouse ← resolveWarehouse warehouseReference
  let countTask ← resolveCountTask warehouse.id taskReference
  require (countTask.status=.SUBMITTED)
    (.conflict "Cycle count task must be SUBMITTED before approval")
  let variance := approvedVariance countTask
  if variance≠0 then adjustCountedQuant warehouse.id countTask variance else pure ()
  closeCount countTask

end AardvarkWms
