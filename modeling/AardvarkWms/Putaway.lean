import AardvarkWms.Inventory

/-! Confirmation of putaway tasks: `src/putaway/putaway.service.ts`. -/
namespace AardvarkWms

open Transactions Transactions.Txn Relational

instance : ToString WarehouseTaskStatus where
  toString
    | .OPEN => "OPEN"
    | .ASSIGNED => "ASSIGNED"
    | .IN_PROGRESS => "IN_PROGRESS"
    | .BLOCKED => "BLOCKED"
    | .DONE => "DONE"
    | .FAILED => "FAILED"
    | .CANCELLED => "CANCELLED"

structure ConfirmPutawayTaskDto where
  stockQuantReference : Option Text
  fromLocationReference : Option Text
  toLocationReference : Option Text
  quantity : Option ℤ
  idempotencyKey : Option IdempotencyKey
  quantity_pos : ∀ n∈quantity, 1≤n

def resolvePutawayTask (warehouseId taskId : ℕ) : Wms WarehouseTask := do
  let t ← findWhere (D := wms) .warehouseTasks taskId (·.warehouseId=warehouseId)
  demand t (.notFound "Warehouse task was not found")

/-- Has the confirmation been processed before? -/
def findIdempotentConfirmation (warehouseId : ℕ) : Option IdempotencyKey → Wms Bool
  | none => pure false
  | some key => do
    match ← findFirst (D := wms) .stockMovements fun m => m.warehouseId=warehouseId
        && m.sourceSystem=some wmsSourceSystem && m.idempotencyKey=some key with
    | none => return false
    | some movement =>
      require (movement.type=.PUTAWAY)
        (.conflict "Idempotency key has already been used for another stock movement")
      let missing := HttpException.conflict
        "Idempotent putaway movement is missing task or target quant"
      let taskId ← demand movement.taskId missing
      let quantId ← demand movement.stockQuantId missing
      let _ ← resolvePutawayTask warehouseId taskId
      let _ ← resolveStockQuant warehouseId quantId
      return true

def putawaySourceWhere (warehouseId skuId locationId : ℕ) (q : StockQuant) : Bool :=
  q.warehouseId=warehouseId && q.skuId=skuId && q.locationId=locationId
  && q.status=.AVAILABLE && 0<q.quantity

def resolveConfirmationSourceQuant (warehouseId : ℕ) (task : WarehouseTask)
    (dto : ConfirmPutawayTaskDto) : Wms StockQuant :=
  match dto.stockQuantReference <|> task.metadata.stockQuantId, task.skuId,
      task.fromLocationId with
  | some reference, _, _ => resolveQuant warehouseId reference
  | none, some skuId, some locationId => do
    let quants ← findMany (D := wms) .stockQuants (putawaySourceWhere warehouseId skuId locationId)
    demand (oldestQuant quants) (.notFound "Source stock quant was not found")
  | none, _, _ => refuse (.conflict "Putaway task is missing source stock context")

/-- The location of a request, or else the task's own. -/
def scannedLocationId (warehouseId : ℕ) (reference : Option Text) (fallback : Option ℕ) :
    Wms (Option ℕ) :=
  match reference with
  | some reference => do
    let location ← resolveLocation warehouseId reference
    return some location.id
  | none => pure fallback

def quantAvailableQuantity (q : StockQuant) : ℤ :=
  if q.status=.AVAILABLE then availableQuantity q else 0

def assertPutawayQuantity (source : StockQuant) (quantity : ℤ) : Wms Unit := do
  require (0<quantity) (.conflict "Putaway quantity must be greater than zero")
  require (source.status=.AVAILABLE) (.conflict "Only AVAILABLE stock can be put away")
  require (quantity≤quantAvailableQuantity source)
    (.conflict "Insufficient unreserved stock for putaway")
  require (source.handlingUnitId≠none → quantity=source.quantity)
    (.conflict "Handling unit putaway must move the full source quant")

/-- Here the handling unit counts too. -/
def incrementOrCreateTargetQuant (i : StockQuantIdentity) (quantity : ℤ) : Wms StockQuant := do
  advisoryLock (D := wms) (.quantIdentity i)
  match ← findByIdentity i.ownerClientId fun q =>
      quantIdentityWhere i q && q.handlingUnitId=i.handlingUnitId with
  | some existing =>
    update (D := wms) .stockQuants existing.id {quantity := .increment quantity}
    return existing
  | none => createQuant i quantity

def putawayMovement (id warehouseId : ℕ) (task : WarehouseTask) (source target : StockQuant)
    (targetLocationId : ℕ) (quantity : ℤ) (idempotencyKey : Option IdempotencyKey) : StockMovement :=
  {StockMovement.record id warehouseId source.skuId .PUTAWAY quantity with
    stockQuantId := some target.id, taskId := some task.id,
    fromLocationId := some source.locationId, toLocationId := some targetLocationId,
    sourceSystem := idempotencyKey.map fun _ => wmsSourceSystem,
    idempotencyKey := idempotencyKey, quantityDelta := some 0}

def confirmPutawayTask (warehouseReference : Text) (taskReference : ℕ)
    (dto : ConfirmPutawayTaskDto) : Wms Unit := do
  let warehouse ← resolveWarehouse warehouseReference
  let existing ← findIdempotentConfirmation warehouse.id dto.idempotencyKey
  if existing then return ()
  else do
    let task ← resolvePutawayTask warehouse.id taskReference
    require (task.type=.PUTAWAY)
      (.conflict "Only PUTAWAY tasks can be confirmed through putaway flow")
    let status := task.status
    require (status=.OPEN ∨ status=.IN_PROGRESS)
      (.conflict s!"Cannot confirm PUTAWAY task in {status} status")
    let source ← resolveConfirmationSourceQuant warehouse.id task dto
    let sourceOwner ← ownerClientIdOf .STOCK_QUANT source.id
    let sourceLocationId ← scannedLocationId warehouse.id dto.fromLocationReference
      task.fromLocationId
    require (∀ l∈sourceLocationId, l=source.locationId)
      (.conflict "Scanned source location does not match source stock quant")
    let found ← scannedLocationId warehouse.id dto.toLocationReference task.toLocationId
    let targetLocationId ← demand found
      (.conflict "Putaway task is missing a target location")
    require (targetLocationId≠source.locationId)
      (.conflict "Putaway target location must be different from source location")
    let quantity := (dto.quantity <|> task.quantity).getD (quantAvailableQuantity source)
    assertPutawayQuantity source quantity
    -- The source was read without its lock, and no freeze is asked about.
    update (D := wms) .stockQuants source.id {quantity := .decrement quantity}
    let target ← incrementOrCreateTargetQuant
      {identityOf source sourceOwner with
        locationId := targetLocationId, handlingUnitId := source.handlingUnitId} quantity
    let id ← fresh
    insert (D := wms) .stockMovements
      (putawayMovement id warehouse.id task source target targetLocationId quantity
        dto.idempotencyKey)
    update (D := wms) .warehouseTasks task.id
      {status := .DONE, fromLocationId := some source.locationId,
       toLocationId := some targetLocationId, quantity := some quantity,
       metadata := some task.metadata}

end AardvarkWms
