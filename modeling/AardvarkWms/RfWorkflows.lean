import AardvarkWms.Fulfillment

/-! Scanner workflows: `src/rf-workflows/rf-workflows.service.ts` and its step plans. -/
namespace AardvarkWms

open Transactions Transactions.Txn Relational

inductive RfStepDefinitionKind
  | SOURCE_LOCATION | DESTINATION_LOCATION | ITEM_OR_HU | QUANTITY

/-- A step that a workflow leaves out where the task has nothing to scan for it, optional
or not. -/
structure RfStepDefinition where
  key : RfStepKey
  kind : RfStepDefinitionKind

structure RfStepPlan where
  key : RfStepKey
  expected : RfExpectedScan

def sourceStep : RfStepDefinition := ⟨.SCAN_SOURCE_LOCATION,.SOURCE_LOCATION⟩
def destinationStep : RfStepDefinition := ⟨.SCAN_DESTINATION_LOCATION,.DESTINATION_LOCATION⟩
def itemOrHuStep : RfStepDefinition := ⟨.SCAN_ITEM_OR_HANDLING_UNIT,.ITEM_OR_HU⟩
def confirmStep : RfStepDefinition := ⟨.CONFIRM_QUANTITY,.QUANTITY⟩

/-- `RF_WORKFLOW_DEFINITIONS`. -/
def rfWorkflowDefinitions : WarehouseTaskType → List RfStepDefinition
  | .RECEIVE => [itemOrHuStep,confirmStep,destinationStep]
  | .PUTAWAY => [itemOrHuStep,sourceStep,destinationStep,confirmStep]
  | .PICK => [sourceStep,itemOrHuStep,confirmStep,destinationStep]
  | .PACK => [itemOrHuStep,confirmStep,destinationStep]
  | .MOVE => [sourceStep,itemOrHuStep,confirmStep,destinationStep]
  | .COUNT => [sourceStep,itemOrHuStep,confirmStep]
  | .REPLENISH => [sourceStep,itemOrHuStep,confirmStep,destinationStep]
  | .LOAD => [itemOrHuStep,destinationStep]

/-- A task with the rows that its step plan shows. -/
structure RfTask where
  task : WarehouseTask
  fromLocation : Option WarehouseLocation
  toLocation : Option WarehouseLocation
  sku : Option Sku

-- Any quantity is accepted, so the expected one is not kept.
def quantityStep : RfStepPlan := ⟨.CONFIRM_QUANTITY,⟨.QUANTITY,[]⟩⟩

def locationStep (key : RfStepKey) (location : WarehouseLocation) : RfStepPlan :=
  ⟨key,⟨.LOCATION,location.code::location.barcode.toList⟩⟩

def itemStep (key : RfStepKey) (sku : Sku) : RfStepPlan :=
  ⟨key,⟨.SKU,sku.code::sku.barcode.toList⟩⟩

def handlingUnitStep (key : RfStepKey) (code : Text) : RfStepPlan :=
  ⟨key,⟨.HANDLING_UNIT,[code]⟩⟩

def stepPlanFromDefinition (t : RfTask) (d : RfStepDefinition) : Option RfStepPlan :=
  match d.kind with
  | .SOURCE_LOCATION => t.fromLocation.map (locationStep d.key)
  | .DESTINATION_LOCATION => t.toLocation.map (locationStep d.key)
  | .ITEM_OR_HU => t.task.handlingUnitCode.map (handlingUnitStep d.key)
      <|> t.sku.map (itemStep d.key)
  | .QUANTITY => some quantityStep

def dedupeConsecutiveStepKeys : Option RfStepKey → List RfStepPlan → List RfStepPlan
  | _, [] => []
  | previous, s::ss =>
    if previous=some s.key then dedupeConsecutiveStepKeys (some s.key) ss
    else s::dedupeConsecutiveStepKeys (some s.key) ss

def buildRfStepPlanSequence (t : RfTask) : List RfStepPlan :=
  match (rfWorkflowDefinitions t.task.type).filterMap (stepPlanFromDefinition t) with
  | [] => [quantityStep]
  | steps => dedupeConsecutiveStepKeys none steps

def getNextStepAfterScan (t : RfTask) (completed : RfStepKey) : Option RfStepPlan :=
  ((buildRfStepPlanSequence t).dropWhile (·.key≠completed)).tail.head?

def isExpectedScan (expected : RfExpectedScan) (scannedValue : Text) : Bool :=
  expected.type=.QUANTITY || expected.type=.NONE || expected.candidates.contains scannedValue

/-- `scannedValue` is the trimmed scan, or the text of the quantity where nothing was
scanned; `spelled` is the number that the scan spells. -/
structure ScanRfStepDto where
  scannedValue : Text
  spelled : Option ℤ
  quantity : Option ℤ
  spelled_nonneg : ∀ n∈spelled, 0≤n
  quantity_nonneg : ∀ n∈quantity, 0≤n

inductive RfExceptionCode
  | SHORT_PICK | OTHER
  deriving DecidableEq

inductive RfExceptionTaskStatus
  | BLOCKED | FAILED

def RfExceptionTaskStatus.status : RfExceptionTaskStatus → WarehouseTaskStatus
  | .BLOCKED => .BLOCKED
  | .FAILED => .FAILED

structure ReportRfExceptionDto where
  code : Option RfExceptionCode
  shortQuantity : Option ℤ
  releaseReservation : Bool
  taskStatus : Option RfExceptionTaskStatus
  shortQuantity_nonneg : ∀ n∈shortQuantity, 0≤n

def WarehouseTask.isNamedBy (t : WarehouseTask) (reference : Text) : Bool :=
  reference=.uuid t.id || t.externalReference=some reference

def resolveRfTask (warehouseId : ℕ) (reference : Text) : Wms WarehouseTask := do
  let t ← findFirst (D := wms) .warehouseTasks fun t =>
    t.warehouseId=warehouseId && t.isNamedBy reference
  demand t (.notFound "Warehouse task was not found")

def findOptional (t : TableName) : Option t.Id → Wms (Option t.Row)
  | none => pure none
  | some id => find (D := wms) t id

/-- The rows that a task's include joins. -/
def includeTask (task : WarehouseTask) : Wms RfTask := do
  let fromLocation ← findOptional .warehouseLocations task.fromLocationId
  let toLocation ← findOptional .warehouseLocations task.toLocationId
  let sku ← findOptional .skus task.skuId
  return ⟨task,fromLocation,toLocation,sku⟩

def resolveSessionTask (warehouseId : ℕ) : Option ℕ → Wms (Option RfTask)
  | none => pure none
  | some id => do
    let task ← resolveRfTask warehouseId (.uuid id)
    let joined ← includeTask task
    return some joined

def getOpenStep (sessionId : ℕ) : Wms (Option ScannerWorkflowStep) := do
  let steps ← findMany (D := wms) .scannerWorkflowSteps fun s =>
    s.sessionId=sessionId && s.status=.OPEN
  return (steps.insertionSort fun a b => a.sequence≤b.sequence).head?

def rfPickMovement (id warehouseId : ℕ) (task : WarehouseTask) (r : Reservation)
    (q : StockQuant) (quantity : ℤ) : StockMovement :=
  {StockMovement.record id warehouseId r.skuId .PICK quantity with
    stockQuantId := some q.id, reservationId := some r.id, taskId := some task.id,
    fromLocationId := some q.locationId}

def completePickTask (warehouseId : ℕ) (task : WarehouseTask) (dto : ScanRfStepDto) :
    Wms Unit := do
  let missing := HttpException.conflict
    "PICK task requires outbound order, line, and reservation context"
  let orderId ← demand task.outboundOrderId missing
  let lineId ← demand task.outboundOrderLineId missing
  let reservationId ← demand task.reservationId missing
  let quantity := (dto.quantity <|> task.quantity).getD 0
  require (0<quantity) (.conflict "Pick quantity must be a positive integer")
  let found ← find (D := wms) .reservations reservationId
  let reservation ← demand (found.filter (·.status=.ACTIVE))
    (.conflict "Active reservation was not found for RF pick")
  lockRow (D := wms) .stockQuants reservation.stockQuantId
  let found ← find (D := wms) .stockQuants reservation.stockQuantId
  let stockQuant ← demand found (.notFound "Stock quant was not found for RF pick")
  assertNoBlockingStockFreeze
    {warehouseId := warehouseId, stockQuantId := some stockQuant.id,
     locationId := some stockQuant.locationId, skuId := some stockQuant.skuId,
     operation := "RF pick confirmation"}
  require (quantity ≤ stockQuant.quantity ∧ quantity ≤ stockQuant.reservedQuantity
      ∧ quantity ≤ reservation.quantity)
    (.conflict "RF pick quantity exceeds available reserved stock")
  let found ← find (D := wms) .outboundOrderLines lineId
  let line ← demand found (.notFound "Outbound order line was not found for RF pick")
  require (line.pickedQuantity+quantity≤line.orderedQuantity)
    (.conflict "RF pick quantity exceeds remaining outbound quantity")
  update (D := wms) .stockQuants stockQuant.id
    {quantity := .decrement quantity, reservedQuantity := .decrement quantity, version := 1}
  update (D := wms) .reservations reservation.id (pickedReservation reservation.quantity quantity)
  update (D := wms) .outboundOrderLines line.id (.increment quantity)
  let id ← fresh
  insert (D := wms) .stockMovements
    (rfPickMovement id warehouseId task reservation stockQuant quantity)
  update (D := wms) .warehouseTasks task.id {status := .DONE}
  let lines ← findMany (D := wms) .outboundOrderLines (·.orderId=orderId)
  -- The lines were read after the increment, and the credited one gets the quantity again.
  if lines.all fun l =>
      if l.id=line.id then decide (l.orderedQuantity≤l.pickedQuantity+quantity)
      else decide (l.orderedQuantity≤l.pickedQuantity) then
    update (D := wms) .outboundOrders orderId
      {status := .PICKED, fulfillmentStatus := some (some .PICKED)}
  else return ()

/-- `calculateCycleCountVariance`. -/
def calculateCountVariance (expected : Option ℤ) (counted : ℤ) : ℤ := counted-expected.getD 0

def submittedCount (counted variance : ℤ) : CycleCountTaskUpdate :=
  {status := .SUBMITTED, countedQuantity := some counted, varianceQuantity := some variance}

def countedPlanStatus (variance : ℤ) : CycleCountPlanStatus :=
  if variance=0 then .COUNTING else .RECONCILING

def isCountTaskOf (warehouseId warehouseTaskId : ℕ) (t : CycleCountTask) : Bool :=
  t.warehouseId=warehouseId && t.warehouseTaskId=some warehouseTaskId

def submitCycleCountFromRf (warehouseId : ℕ) (task : WarehouseTask) (dto : ScanRfStepDto) :
    Wms Bool := do
  match ← findFirst (D := wms) .cycleCountTasks (isCountTaskOf warehouseId task.id) with
  | none =>
    require (task.metadata.cycleCount=false)
      (.notFound "Cycle count task was not found for RF count")
    return false
  | some countTask =>
    require (countTask.status=.OPEN ∨ countTask.status=.IN_PROGRESS)
      (.conflict "Cycle count task cannot be submitted from current status")
    let counted ← demand (dto.quantity <|> dto.spelled)
      (.conflict "RF cycle count requires a counted quantity")
    lockRow (D := wms) .warehouseTasks task.id
    let variance := calculateCountVariance countTask.expectedQuantity counted
    update (D := wms) .cycleCountTasks countTask.id (submittedCount counted variance)
    update (D := wms) .warehouseTasks task.id {status := .DONE, metadata := some task.metadata}
    update (D := wms) .cycleCountPlans countTask.planId (countedPlanStatus variance)
    return true

def submitIfCount (warehouseId : ℕ) (task : WarehouseTask) (dto : ScanRfStepDto) : Wms Bool :=
  if task.type=.COUNT then submitCycleCountFromRf warehouseId task dto else pure false

def completeTaskAfterRfScan (warehouseId : ℕ) (task : Option WarehouseTask)
    (dto : ScanRfStepDto) : Wms Unit :=
  match task with
  | none => pure ()
  | some task =>
    if task.type=.PICK then completePickTask warehouseId task dto
    else do
      let submitted ← submitIfCount warehouseId task dto
      if submitted then return ()
      else do
        update (D := wms) .warehouseTasks task.id
          {status := .DONE, metadata := some task.metadata}

def createScannerStep (sessionId : ℕ) (plan : RfStepPlan) (sequence : ℕ) : Wms Unit := do
  let id ← fresh
  insert (D := wms) .scannerWorkflowSteps ⟨id,sessionId,plan.key,sequence,.OPEN,plan.expected⟩

/-- What a session starts with. -/
structure StartRfSessionDto where
  scannerDeviceReference : Option Text := none
  taskReference : Option Text := none

def resolveScanner (warehouseId : ℕ) (reference : Text) : Wms ScannerDevice := do
  let s ← findFirst (D := wms) .scannerDevices fun s =>
    s.warehouseId=warehouseId && reference.names s.id s.code
  demand s (.notFound "Scanner device was not found")

def resolveGivenScanner (warehouseId : ℕ) : Option Text → Wms Unit
  | none => pure ()
  | some reference => do
    let _ ← resolveScanner warehouseId reference
    return ()

def resolveGivenTask (warehouseId : ℕ) : Option Text → Wms (Option RfTask)
  | none => pure none
  | some reference => do
    let task ← resolveRfTask warehouseId reference
    let joined ← includeTask task
    return some joined

def getInitialStepForTask (t : RfTask) : RfStepPlan :=
  (buildRfStepPlanSequence t).head?.getD quantityStep

/-- Without a task there is nothing to scan. -/
def firstStep (t : Option RfTask) : RfStepPlan :=
  (t.map getInitialStepForTask).getD ⟨.COMPLETE_TASK,⟨.NONE,[]⟩⟩

def startSession (warehouseReference : Text) (dto : StartRfSessionDto) : Wms Unit := do
  let warehouse ← resolveWarehouse warehouseReference
  resolveGivenScanner warehouse.id dto.scannerDeviceReference
  let task ← resolveGivenTask warehouse.id dto.taskReference
  let id ← fresh
  insert (D := wms) .scannerSessions ⟨id,warehouse.id,task.map (·.task.id),.ACTIVE⟩
  createScannerStep id (firstStep task) 1

def startTask (warehouseReference taskReference : Text) (dto : StartRfSessionDto)
    (actorId : ℕ) : Wms Unit := do
  let warehouse ← resolveWarehouse warehouseReference
  let task ← resolveRfTask warehouse.id taskReference
  lockRow (D := wms) .warehouseTasks task.id
  let lockedTask ← resolveRfTask warehouse.id (.uuid task.id)
  require (lockedTask.status=.OPEN ∨ lockedTask.status=.ASSIGNED ∨ lockedTask.status=.BLOCKED)
    (.conflict "Task cannot be started from the current status")
  update (D := wms) .warehouseTasks lockedTask.id
    {status := .IN_PROGRESS, assignedUserId := some (lockedTask.assignedUserId.getD actorId)}
  let updatedTask ← includeTask lockedTask
  resolveGivenScanner warehouse.id dto.scannerDeviceReference
  let id ← fresh
  insert (D := wms) .scannerSessions ⟨id,warehouse.id,some lockedTask.id,.ACTIVE⟩
  createScannerStep id (getInitialStepForTask updatedTask) 1

def resolveSession (warehouseId sessionId : ℕ) : Wms ScannerSession := do
  let s ← findWhere (D := wms) .scannerSessions sessionId (·.warehouseId=warehouseId)
  demand s (.notFound "RF session was not found")

def scan (warehouseReference : Text) (sessionReference : ℕ) (dto : ScanRfStepDto) :
    Wms Unit := do
  let warehouse ← resolveWarehouse warehouseReference
  let session ← resolveSession warehouse.id sessionReference
  require (session.status=.ACTIVE) (.conflict "RF session is not active")
  let task ← resolveSessionTask warehouse.id session.taskId
  let found ← getOpenStep session.id
  let step ← demand found (.conflict "RF session has no open step")
  if isExpectedScan step.expected dto.scannedValue then do
    update (D := wms) .scannerWorkflowSteps step.id .COMPLETED
    match task.bind (getNextStepAfterScan · step.stepKey) with
    | some next => createScannerStep session.id next (step.sequence+1)
    | none =>
      update (D := wms) .scannerSessions session.id .COMPLETED
      completeTaskAfterRfScan warehouse.id (task.map (·.task)) dto
  else return ()

/-- What an exception leaves of a reservation of `held` when it releases `quantity`. -/
def releasedReservation (held quantity : ℤ) : ReservationUpdate :=
  if held≤quantity then {status := some .RELEASED} else {quantity := .decrement quantity}

def releaseTaskReservationIfRequested (task : WarehouseTask) (dto : ReportRfExceptionDto) :
    Wms Unit :=
  match dto.releaseReservation, task.reservationId with
  | true, some reservationId => do
    let found ← find (D := wms) .reservations reservationId
    match found.filter (·.status=.ACTIVE) with
    | none => return ()
    | some reservation =>
      let quantity := min (dto.shortQuantity.getD reservation.quantity) reservation.quantity
      if quantity≤0 then return ()
      else do
        lockRow (D := wms) .stockQuants reservation.stockQuantId
        let found ← find (D := wms) .stockQuants reservation.stockQuantId
        let stockQuant ← demand found
          (.notFound "Stock quant was not found for RF reservation release")
        assertNoBlockingStockFreeze
          {warehouseId := stockQuant.warehouseId, stockQuantId := some stockQuant.id,
           locationId := some stockQuant.locationId, skuId := some stockQuant.skuId,
           operation := "RF reservation release"}
        update (D := wms) .stockQuants reservation.stockQuantId
          {reservedQuantity := .decrement quantity}
        update (D := wms) .reservations reservation.id
          (releasedReservation reservation.quantity quantity)
  | _, _ => pure ()

def exceptionTaskStatus (dto : ReportRfExceptionDto) : WarehouseTaskStatus :=
  match dto.taskStatus, dto.code.getD .SHORT_PICK with
  | some s, _ => s.status
  | none, .SHORT_PICK => .FAILED
  | none, _ => .BLOCKED

/-- The new metadata replaces the old, and with it the fulfilment status. -/
def markOrderException : Option ℕ → Wms Unit
  | none => pure ()
  | some orderId => update (D := wms) .outboundOrders orderId
      {status := .EXCEPTION, fulfillmentStatus := some none}

def reportTaskException (warehouseReference taskReference : Text) (dto : ReportRfExceptionDto) :
    Wms Unit := do
  let warehouse ← resolveWarehouse warehouseReference
  let task ← resolveRfTask warehouse.id taskReference
  lockRow (D := wms) .warehouseTasks task.id
  let lockedTask ← resolveRfTask warehouse.id (.uuid task.id)
  releaseTaskReservationIfRequested lockedTask dto
  update (D := wms) .warehouseTasks lockedTask.id
    {status := exceptionTaskStatus dto, metadata := some lockedTask.metadata}
  markOrderException lockedTask.outboundOrderId

end AardvarkWms
