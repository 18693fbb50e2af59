import AardvarkWms.Reservations
import Mathlib.Data.List.Sort

/-! Receive, move, adjust, block and unblock: `src/inventory/inventory.service.ts`. -/
namespace AardvarkWms

open Transactions Transactions.Txn Relational

/-- What every stock request carries besides its own fields. `requestFingerprint` is the
hash of the request. -/
structure StockRequest where
  ownerClientReference : Option Text
  idempotencyKey : Option IdempotencyKey
  requestFingerprint : ℕ

structure ReceiveStockDto where
  request : StockRequest
  skuReference : Text
  locationReference : Text
  quantity : ℤ
  status : Option StockQuantStatus
  batch : Option Text
  expiry : Option ℕ
  quantity_pos : 1≤quantity

/-- `batch` and `expiry` restrict the source only where they are given, be it as null. -/
structure MoveStockDto where
  request : StockRequest
  quantReference : Option Text
  fromStockQuantId : Option Text
  skuReference : Option Text
  fromLocationReference : Option Text
  toLocationReference : Text
  quantity : ℤ
  status : Option StockQuantStatus
  batch : Option (Option Text)
  expiry : Option (Option ℕ)
  quantity_pos : 1≤quantity

structure AdjustStockDto where
  request : StockRequest
  quantReference : Option Text
  skuReference : Option Text
  locationReference : Option Text
  status : Option StockQuantStatus
  batch : Option Text
  expiry : Option ℕ
  quantity : Option ℤ
  quantityDelta : Option ℤ
  quantity_nonneg : ∀ n∈quantity, 0≤n

/-- The body of a block and of an unblock request. -/
structure TransferStockDto where
  request : StockRequest
  quantity : Option ℤ
  targetStatus : Option StockQuantStatus
  quantity_pos : ∀ n∈quantity, 1≤n

def resolveLocation (warehouseId : ℕ) (reference : Text) : Wms WarehouseLocation := do
  let l ← findFirst (D := wms) .warehouseLocations fun l =>
    l.warehouseId=warehouseId && reference.names l.id l.code
  demand l (.notFound "Warehouse location was not found")

def resolveSku (reference : Text) : Wms Sku := do
  let s ← findFirst (D := wms) .skus fun s => reference.names s.id s.code
  demand s (.notFound "SKU was not found")

def resolveQuant (warehouseId : ℕ) : Text → Wms StockQuant
  | .uuid id => resolveStockQuant warehouseId id
  | reference => do
    let q ← findFirst (D := wms) .stockQuants fun q =>
      q.warehouseId=warehouseId && q.externalReference=some reference
    demand q (.notFound "Stock quant was not found")

def oldestQuant (quants : List StockQuant) : Option StockQuant :=
  (quants.insertionSort fun a b => a.createdAt≤b.createdAt).head?

def moveSourceWhere (warehouseId skuId locationId : ℕ) (dto : MoveStockDto) (q : StockQuant) :
    Bool :=
  q.warehouseId=warehouseId && q.skuId=skuId && q.locationId=locationId
  && q.status=dto.status.getD .AVAILABLE && 0<q.quantity
  && dto.batch.all (q.batch=·) && dto.expiry.all (q.expiryDate=·)

def resolveMoveSourceQuant (warehouseId : ℕ) (dto : MoveStockDto) : Wms StockQuant :=
  match dto.quantReference <|> dto.fromStockQuantId, dto.skuReference,
      dto.fromLocationReference with
  | some reference, _, _ => resolveQuant warehouseId reference
  | none, some skuReference, some locationReference => do
    let sku ← resolveSku skuReference
    let location ← resolveLocation warehouseId locationReference
    let quants ← findMany (D := wms) .stockQuants
      (moveSourceWhere warehouseId sku.id location.id dto)
    demand (oldestQuant quants) (.notFound "Source stock quant was not found")
  | _, _, _ => refuse (.conflict
      "skuReference and fromLocationReference are required when quantReference/fromStockQuantId is omitted")

def ownerClientIdOf (type : ResourceType) (id : ℕ) : Wms (Option ℕ) := do
  let o ← find (D := wms) .ownerClientIds (type,id)
  return o.map (·.clientId)

def identityOf (q : StockQuant) (ownerClientId : Option ℕ) : StockQuantIdentity :=
  ⟨q.warehouseId,q.locationId,q.skuId,q.status,ownerClientId,q.lotId,q.batch,q.expiryDate,none⟩

/-- Either a quant that is there or the identity of one to create. -/
structure AdjustQuantTarget where
  quant : Option StockQuant
  identity : StockQuantIdentity

def adjustTargetWhere (warehouseId skuId locationId : ℕ) (dto : AdjustStockDto) (q : StockQuant) :
    Bool :=
  q.warehouseId=warehouseId && q.skuId=skuId && q.locationId=locationId
  && q.status=dto.status.getD .AVAILABLE && q.batch=dto.batch && q.expiryDate=dto.expiry

def resolveAdjustTarget (warehouseId : ℕ) (dto : AdjustStockDto) : Wms AdjustQuantTarget :=
  match dto.quantReference, dto.skuReference, dto.locationReference with
  | some reference, _, _ => do
    let quant ← resolveQuant warehouseId reference
    let owner ← ownerClientIdOf .STOCK_QUANT quant.id
    return ⟨some quant,identityOf quant owner⟩
  | none, some skuReference, some locationReference => do
    let sku ← resolveSku skuReference
    let location ← resolveLocation warehouseId locationReference
    let quant ← findFirst (D := wms) .stockQuants
      (adjustTargetWhere warehouseId sku.id location.id dto)
    let owner ← match quant with
      | none => pure none
      | some q => ownerClientIdOf .STOCK_QUANT q.id
    return ⟨quant,⟨warehouseId,location.id,sku.id,dto.status.getD .AVAILABLE,owner,
      quant.bind (·.lotId),dto.batch,dto.expiry,none⟩⟩
  | none, _, _ => refuse (.conflict
      "skuReference and locationReference are required when quantReference is omitted")

/-- The quant by its id. -/
structure StockOperationResponse where
  quant : ℕ
  movement : StockMovement
  deriving DecidableEq

/-- Has the request been processed before? -/
def findIdempotentOperation (warehouseId : ℕ) (type : StockMovementType)
    (request : StockRequest) : Wms (Option StockOperationResponse) :=
  match request.idempotencyKey with
  | none => pure none
  | some key => do
    let movements ← findMany (D := wms) .stockMovements fun m =>
      m.warehouseId=warehouseId && m.idempotencyKey=some key
    match movements.getLast? with
    | none => return none
    | some movement =>
      require (movement.type=type)
        (.conflict "Idempotency key has already been used for another movement type")
      require (movement.requestFingerprint=some request.requestFingerprint) (.conflict
        "Idempotency key was reused with different or unverifiable request content")
      let quantId ← demand movement.stockQuantId
        (.conflict "Idempotent stock movement is missing a quant reference")
      let quant ← resolveStockQuant warehouseId quantId
      return some ⟨quant.id,movement⟩

-- The handling unit is no part of what this service compares.
def quantIdentityWhere (i : StockQuantIdentity) (q : StockQuant) : Bool :=
  q.warehouseId=i.warehouseId && q.skuId=i.skuId && q.locationId=i.locationId
  && q.status=i.status && q.lotId=i.lotId && q.batch=i.batch && q.expiryDate=i.expiry

def withOwner (q : StockQuant) : Wms (StockQuant × Option ℕ) := do
  let owner ← ownerClientIdOf .STOCK_QUANT q.id
  return (q,owner)

/-- The first of the rows that match, by the owner column too. -/
def findByIdentity (ownerClientId : Option ℕ) (p : StockQuant → Bool) : Wms (Option StockQuant) := do
  let quants ← findMany (D := wms) .stockQuants p
  let owned ← each quants withOwner
  return (owned.find? (·.2=ownerClientId)).map (·.1)

def createQuant (i : StockQuantIdentity) (quantity : ℤ) : Wms StockQuant := do
  let id ← fresh
  let createdAt ← fresh
  let quant : StockQuant := ⟨id,i.warehouseId,i.locationId,i.skuId,i.handlingUnitId,i.lotId,
    i.batch,i.expiry,none,quantity,0,i.status,1,createdAt⟩
  insert (D := wms) .stockQuants quant
  match i.ownerClientId with
  | none => return quant
  | some owner => do
    setOwnerClientId .STOCK_QUANT id owner
    return quant

def incrementOrCreateQuant (i : StockQuantIdentity) (quantity : ℤ) : Wms StockQuant := do
  advisoryLock (D := wms) (.quantIdentity i)
  match ← findByIdentity i.ownerClientId (quantIdentityWhere i) with
  | some existing =>
    update (D := wms) .stockQuants existing.id {quantity := .increment quantity}
    return existing
  | none => createQuant i quantity

def decrementQuant (quant : StockQuant) (quantity : ℤ) (preserveReservedQuantity : Bool) :
    Wms Unit := do
  let lockedQuant ← lockAndReloadStockQuant quant.warehouseId quant.id
  assertNoBlockingStockFreeze
    {warehouseId := lockedQuant.warehouseId, stockQuantId := some lockedQuant.id,
     locationId := some lockedQuant.locationId, skuId := some lockedQuant.skuId,
     operation := "decrement stock"}
  require (quantity≤lockedQuant.quantity) (.conflict "Insufficient stock quantity")
  require (preserveReservedQuantity=true → lockedQuant.reservedQuantity≤lockedQuant.quantity-quantity)
    (.conflict "Insufficient unreserved stock quantity")
  update (D := wms) .stockQuants lockedQuant.id {quantity := .decrement quantity}

def resolveOperationOwner (warehouseId : ℕ) (explicitClientReference : Option Text)
    (sourceResources : List (ResourceType × Option ℕ)) : Wms (Option WmsClient) := do
  let inherited ← resolveSingleOwnerFromResources warehouseId sourceResources
  match explicitClientReference with
  | none => return inherited
  | some reference =>
    let found ← resolveOwnerClient warehouseId (some reference)
    let explicit ← demand found (.conflict "Owner client reference is required.")
    require (∀ o, inherited=some o → o.id=explicit.id)
      (.conflict "Explicit owner client conflicts with source stock ownership.")
    return some explicit

structure CreateStockMovementInput where
  warehouseId : ℕ
  quantId : ℕ
  skuId : ℕ
  type : StockMovementType
  quantityDelta : ℤ
  quantity : ℤ
  fromLocationId : Option ℕ := none
  toLocationId : ℕ
  request : StockRequest

/-- The source system of every keyed movement. -/
def wmsSourceSystem : Text := .word 0

def operationMovement (id : ℕ) (input : CreateStockMovementInput) : StockMovement :=
  {StockMovement.record id input.warehouseId input.skuId input.type input.quantity with
    stockQuantId := some input.quantId, fromLocationId := input.fromLocationId,
    toLocationId := some input.toLocationId,
    sourceSystem := input.request.idempotencyKey.map fun _ => wmsSourceSystem,
    idempotencyKey := input.request.idempotencyKey,
    quantityDelta := some input.quantityDelta,
    requestFingerprint := some input.request.requestFingerprint}

def createStockMovement (input : CreateStockMovementInput) : Wms StockMovement := do
  let id ← fresh
  insert (D := wms) .stockMovements (operationMovement id input)
  return operationMovement id input

/-- Quant and movement of an operation go to its owner. -/
def linkStockOperation (warehouseId : ℕ) (owner : Option WmsClient) (quantId movementId : ℕ) :
    Wms Unit :=
  match owner with
  | none => pure ()
  | some owner => linkOwnerResources warehouseId owner
      [(.STOCK_QUANT,some quantId),(.STOCK_MOVEMENT,some movementId)]

def receive (warehouseReference : Text) (dto : ReceiveStockDto) : Wms StockOperationResponse := do
  let warehouse ← resolveWarehouse warehouseReference
  match ← findIdempotentOperation warehouse.id .RECEIVE dto.request with
  | some existing => return existing
  | none =>
    let sku ← resolveSku dto.skuReference
    let location ← resolveLocation warehouse.id dto.locationReference
    assertNoBlockingStockFreeze
      {warehouseId := warehouse.id, locationId := some location.id, skuId := some sku.id,
       operation := "receive stock"}
    let owner ← resolveOperationOwner warehouse.id dto.request.ownerClientReference []
    let quant ← incrementOrCreateQuant
      ⟨warehouse.id,location.id,sku.id,dto.status.getD .AVAILABLE,owner.map (·.id),none,
       dto.batch,dto.expiry,none⟩ dto.quantity
    let movement ← createStockMovement
      {warehouseId := warehouse.id, quantId := quant.id, skuId := sku.id, type := .RECEIVE,
       quantityDelta := dto.quantity, quantity := dto.quantity, toLocationId := location.id,
       request := dto.request}
    linkStockOperation warehouse.id owner quant.id movement.id
    return ⟨quant.id,movement⟩

def move (warehouseReference : Text) (dto : MoveStockDto) : Wms StockOperationResponse := do
  let warehouse ← resolveWarehouse warehouseReference
  match ← findIdempotentOperation warehouse.id .MOVE dto.request with
  | some existing => return existing
  | none =>
    let destination ← resolveLocation warehouse.id dto.toLocationReference
    let sourceQuant ← resolveMoveSourceQuant warehouse.id dto
    require (sourceQuant.locationId≠destination.id)
      (.conflict "Source and destination locations must be different")
    let current ← resolveStockQuant warehouse.id sourceQuant.id
    let currentOwner ← ownerClientIdOf .STOCK_QUANT current.id
    assertNoBlockingStockFreeze
      {warehouseId := warehouse.id, locationId := some destination.id,
       skuId := some current.skuId, operation := "move stock into destination"}
    decrementQuant current dto.quantity true
    let target ← incrementOrCreateQuant
      {identityOf current currentOwner with
        warehouseId := warehouse.id, locationId := destination.id} dto.quantity
    let movement ← createStockMovement
      {warehouseId := warehouse.id, quantId := target.id, skuId := current.skuId, type := .MOVE,
       quantityDelta := 0, quantity := dto.quantity, fromLocationId := some current.locationId,
       toLocationId := destination.id, request := dto.request}
    let owner ← resolveOperationOwner warehouse.id dto.request.ownerClientReference
      [(.STOCK_QUANT,some current.id)]
    linkStockOperation warehouse.id owner target.id movement.id
    return ⟨target.id,movement⟩

def adjustedQuantity (dto : AdjustStockDto) (current : ℤ) : ℤ :=
  dto.quantity.getD (current+dto.quantityDelta.getD 0)

def adjust (warehouseReference : Text) (dto : AdjustStockDto) : Wms StockOperationResponse := do
  let warehouse ← resolveWarehouse warehouseReference
  match ← findIdempotentOperation warehouse.id .ADJUST dto.request with
  | some existing => return existing
  | none =>
    require (dto.quantity.isSome≠dto.quantityDelta.isSome)
      (.conflict "Provide exactly one of quantity or quantityDelta")
    let target ← resolveAdjustTarget warehouse.id dto
    let quant ← match target.quant with
      | some q => resolveStockQuant warehouse.id q.id
      | none => incrementOrCreateQuant target.identity 0
    let lockedQuant ← lockAndReloadStockQuant warehouse.id quant.id
    assertNoBlockingStockFreeze
      {warehouseId := warehouse.id, stockQuantId := some lockedQuant.id,
       locationId := some lockedQuant.locationId, skuId := some lockedQuant.skuId,
       operation := "adjust stock"}
    let nextQuantity := adjustedQuantity dto lockedQuant.quantity
    require (0≤nextQuantity) (.conflict "Adjustment would make stock quantity negative")
    require (lockedQuant.reservedQuantity≤nextQuantity)
      (.conflict "Adjustment would make reserved stock exceed on-hand stock")
    let quantityDelta := nextQuantity-lockedQuant.quantity
    update (D := wms) .stockQuants lockedQuant.id {quantity := .set nextQuantity}
    let movement ← createStockMovement
      {warehouseId := warehouse.id, quantId := lockedQuant.id, skuId := lockedQuant.skuId,
       type := .ADJUST, quantityDelta := quantityDelta, quantity := quantityDelta.natAbs,
       toLocationId := lockedQuant.locationId, request := dto.request}
    let owner ← resolveOperationOwner warehouse.id dto.request.ownerClientReference
      (target.quant.toList.map fun q => (.STOCK_QUANT,some q.id))
    linkStockOperation warehouse.id owner lockedQuant.id movement.id
    return ⟨lockedQuant.id,movement⟩

def transferQuantStatus (warehouseId : ℕ) (source : StockQuant) (quantity : Option ℤ)
    (targetStatus : StockQuantStatus) (type : StockMovementType) (request : StockRequest) :
    Wms StockOperationResponse := do
  let sourceQuant ← resolveStockQuant warehouseId source.id
  let sourceOwner ← ownerClientIdOf .STOCK_QUANT sourceQuant.id
  let quantity := quantity.getD sourceQuant.quantity
  require (0<quantity) (.conflict "Stock quantity must be greater than zero")
  require (sourceQuant.status≠targetStatus)
    (.conflict "Source quant already has the requested status")
  decrementQuant sourceQuant quantity (sourceQuant.status=.AVAILABLE)
  let target ← incrementOrCreateQuant
    {identityOf sourceQuant sourceOwner with warehouseId := warehouseId, status := targetStatus}
    quantity
  let movement ← createStockMovement
    {warehouseId := warehouseId, quantId := target.id, skuId := sourceQuant.skuId, type := type,
     quantityDelta := 0, quantity := quantity, fromLocationId := some sourceQuant.locationId,
     toLocationId := sourceQuant.locationId, request := request}
  let owner ← resolveOperationOwner warehouseId none [(.STOCK_QUANT,some sourceQuant.id)]
  linkStockOperation warehouseId owner target.id movement.id
  return ⟨target.id,movement⟩

def blockTargetStatuses : List StockQuantStatus := [.BLOCKED,.DAMAGED,.QUARANTINE]

def unblockTargetStatuses : List StockQuantStatus := [.AVAILABLE,.RESERVED]

def block (warehouseReference quantReference : Text) (dto : TransferStockDto) :
    Wms StockOperationResponse := do
  let warehouse ← resolveWarehouse warehouseReference
  match ← findIdempotentOperation warehouse.id .BLOCK dto.request with
  | some existing => return existing
  | none =>
    let targetStatus := dto.targetStatus.getD .BLOCKED
    require (targetStatus∈blockTargetStatuses)
      (.conflict "Block target status must be BLOCKED, DAMAGED, or QUARANTINE")
    let sourceQuant ← resolveQuant warehouse.id quantReference
    transferQuantStatus warehouse.id sourceQuant dto.quantity targetStatus .BLOCK dto.request

def unblock (warehouseReference quantReference : Text) (dto : TransferStockDto) :
    Wms StockOperationResponse := do
  let warehouse ← resolveWarehouse warehouseReference
  match ← findIdempotentOperation warehouse.id .UNBLOCK dto.request with
  | some existing => return existing
  | none =>
    let targetStatus := dto.targetStatus.getD .AVAILABLE
    require (targetStatus∈unblockTargetStatuses)
      (.conflict "Unblock target status must be AVAILABLE or RESERVED")
    let sourceQuant ← resolveQuant warehouse.id quantReference
    require (sourceQuant.status∈blockTargetStatuses)
      (.conflict "Only BLOCKED, DAMAGED, or QUARANTINE stock can be unblocked")
    transferQuantStatus warehouse.id sourceQuant dto.quantity targetStatus .UNBLOCK dto.request

end AardvarkWms
