import AardvarkWms.Putaway

/-! The life of a warehouse task: `src/warehouse-tasks/warehouse-tasks.service.ts`. Each
call reads the task and updates it with two statements, without a transaction. -/
namespace AardvarkWms

open Transactions Transactions.Txn Relational

def allowedTransitions : WarehouseTaskStatus → List WarehouseTaskStatus
  | .OPEN => [.ASSIGNED,.IN_PROGRESS,.BLOCKED,.CANCELLED]
  | .ASSIGNED => [.IN_PROGRESS,.BLOCKED,.CANCELLED]
  | .IN_PROGRESS => [.DONE,.BLOCKED,.FAILED,.CANCELLED]
  | .BLOCKED => [.ASSIGNED,.IN_PROGRESS,.FAILED,.CANCELLED]
  | .DONE => []
  | .FAILED => [.OPEN,.CANCELLED]
  | .CANCELLED => []

namespace WarehouseTasks

def assertTransition (currentStatus nextStatus : WarehouseTaskStatus) : Wms Unit :=
  require (nextStatus∈allowedTransitions currentStatus)
    (.conflict s!"Cannot transition warehouse task from {currentStatus} to {nextStatus}")

def userReferenceWhere (u : User) : Text → Bool
  | .uuid id => u.id=id
  | reference => u.email=reference

def resolveUser (reference : Text) : Wms User := do
  let u ← findFirst (D := wms) .users (userReferenceWhere · reference)
  demand u (.notFound "Assigned user was not found")

def skuReferenceWhere (s : Sku) : Text → Bool
  | .uuid id => s.id=id || s.code=.uuid id
  | reference => s.code=reference || s.barcode=some reference

def resolveSku (reference : Text) : Wms Sku := do
  let s ← findFirst (D := wms) .skus (skuReferenceWhere · reference)
  demand s (.notFound "SKU was not found")

def resolveHandlingUnit (warehouseId : ℕ) (reference : Text) : Wms HandlingUnit := do
  let h ← findFirst (D := wms) .handlingUnits fun h =>
    h.warehouseId=warehouseId && reference.names h.id h.code
  demand h (.notFound "Handling unit was not found")

def resolveTask (warehouseId : ℕ) : Text → Wms WarehouseTask
  | .uuid id => do
    let t ← findWhere (D := wms) .warehouseTasks id (·.warehouseId=warehouseId)
    demand t (.notFound "Warehouse task was not found")
  | .word _ => refuse (.notFound "Warehouse task was not found")

/-- What a reference names, where there is one. -/
def resolveGiven {α : Type} (reference : Option Text) (resolve : Text → Wms α) :
    Wms (Option α) :=
  match reference with
  | none => pure none
  | some reference => do
    let a ← resolve reference
    return some a

structure AssignWarehouseTaskDto where
  assignedUserReference : Option Text := none
  metadata : Option WarehouseTaskMetadata := none

structure ClaimNextWarehouseTaskDto where
  type : Option WarehouseTaskType := none
  zone : Option Text := none
  assignedUserReference : Option Text := none
  metadata : Option WarehouseTaskMetadata := none

structure StartWarehouseTaskDto where
  assignedUserReference : Option Text := none
  metadata : Option WarehouseTaskMetadata := none

structure ConfirmWarehouseTaskDto where
  fromLocationReference : Option Text := none
  toLocationReference : Option Text := none
  sku : Option Text := none
  quantity : Option ℤ := none
  handlingUnitReference : Option Text := none
  metadata : Option WarehouseTaskMetadata := none
  quantity_nonneg : ∀ n∈quantity, 0≤n

/-- A reason of blanks alone is none. -/
structure FailWarehouseTaskDto where
  reason : Option Text
  metadata : Option WarehouseTaskMetadata := none

structure CancelWarehouseTaskDto where
  metadata : Option WarehouseTaskMetadata := none

def claimable (warehouseId : ℕ) (type : Option WarehouseTaskType) (zone : Option (List ℕ))
    (t : WarehouseTask) : Bool :=
  t.warehouseId=warehouseId && t.status=.OPEN && type.all (t.type=·)
  && zone.all fun locations => t.fromLocationId.any fun l => l∈locations

/-- The locations of a zone, where one is asked for. -/
def zoneLocations : Option Text → Wms (Option (List ℕ))
  | none => pure none
  | some zone => do
    let locations ← findMany (D := wms) .warehouseLocations (·.zone=some zone)
    return some (locations.map (·.id))

def nextTask (tasks : List WarehouseTask) : Option WarehouseTask :=
  (tasks.insertionSort fun a b => a.priority≤b.priority).head?

/-- What a claim writes to its task. -/
def claimed (dto : ClaimNextWarehouseTaskDto) (assignedUserId : ℕ) : WarehouseTaskUpdate :=
  {status := .ASSIGNED, assignedUserId := some assignedUserId, metadata := dto.metadata}

def claimNext (warehouseReference : Text) (dto : ClaimNextWarehouseTaskDto) (actorId : ℕ) :
    Wms WarehouseTask := do
  let warehouse ← resolveWarehouse warehouseReference
  let user ← resolveGiven dto.assignedUserReference resolveUser
  let zone ← zoneLocations dto.zone
  let tasks ← findMany (D := wms) .warehouseTasks (claimable warehouse.id dto.type zone)
  let candidate ← demand (nextTask tasks)
    (.notFound "No open warehouse task is available to claim")
  lockRow (D := wms) .warehouseTasks candidate.id
  let task ← resolveTask warehouse.id (.uuid candidate.id)
  assertTransition task.status .ASSIGNED
  let assigned := claimed dto ((user.map (·.id)).getD actorId)
  update (D := wms) .warehouseTasks task.id assigned
  return assigned.patch task

def assign (warehouseReference taskReference : Text) (dto : AssignWarehouseTaskDto)
    (actorId : ℕ) : Wms Unit := do
  let warehouse ← resolveWarehouse warehouseReference
  let task ← resolveTask warehouse.id taskReference
  assertTransition task.status .ASSIGNED
  let user ← resolveGiven dto.assignedUserReference resolveUser
  update (D := wms) .warehouseTasks task.id
    {status := .ASSIGNED, assignedUserId := some ((user.map (·.id)).getD actorId),
     metadata := dto.metadata}

def start (warehouseReference taskReference : Text) (dto : StartWarehouseTaskDto)
    (actorId : ℕ) : Wms Unit := do
  let warehouse ← resolveWarehouse warehouseReference
  let task ← resolveTask warehouse.id taskReference
  assertTransition task.status .IN_PROGRESS
  let user ← resolveGiven dto.assignedUserReference resolveUser
  update (D := wms) .warehouseTasks task.id
    {status := .IN_PROGRESS,
     assignedUserId := some ((user.map (·.id) <|> task.assignedUserId).getD actorId),
     metadata := dto.metadata}

def confirm (warehouseReference taskReference : Text) (dto : ConfirmWarehouseTaskDto) :
    Wms Unit := do
  let warehouse ← resolveWarehouse warehouseReference
  let task ← resolveTask warehouse.id taskReference
  assertTransition task.status .DONE
  let fromLocation ← resolveGiven dto.fromLocationReference (resolveLocation warehouse.id)
  let toLocation ← resolveGiven dto.toLocationReference (resolveLocation warehouse.id)
  let sku ← resolveGiven dto.sku resolveSku
  let handlingUnit ← resolveGiven dto.handlingUnitReference (resolveHandlingUnit warehouse.id)
  update (D := wms) .warehouseTasks task.id
    {status := .DONE, fromLocationId := fromLocation.map (·.id),
     toLocationId := toLocation.map (·.id), skuId := sku.map (·.id), quantity := dto.quantity,
     handlingUnitCode := handlingUnit.map (·.code), metadata := dto.metadata}

def fail (warehouseReference taskReference : Text) (dto : FailWarehouseTaskDto) : Wms Unit := do
  let warehouse ← resolveWarehouse warehouseReference
  let task ← resolveTask warehouse.id taskReference
  assertTransition task.status .FAILED
  require (dto.reason.isSome=true) (.conflict "Failure reason is required")
  update (D := wms) .warehouseTasks task.id {status := .FAILED, metadata := dto.metadata}

def cancel (warehouseReference taskReference : Text) (dto : CancelWarehouseTaskDto) :
    Wms Unit := do
  let warehouse ← resolveWarehouse warehouseReference
  let task ← resolveTask warehouse.id taskReference
  assertTransition task.status .CANCELLED
  update (D := wms) .warehouseTasks task.id {status := .CANCELLED, metadata := dto.metadata}

end WarehouseTasks

end AardvarkWms
