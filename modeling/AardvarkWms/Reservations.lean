import AardvarkWms.StockFreeze
import AardvarkWms.OwnerScope

/-! Reservation create, release and cancel: `src/reservations/reservations.service.ts`. -/
namespace AardvarkWms

open Transactions Transactions.Txn Relational

structure CreateReservationDto where
  stockQuantReference : ℕ
  outboundOrderId : Option ℕ
  outboundOrderLineId : Option ℕ
  quantity : ℤ
  ownerClientReference : Option Text
  quantity_pos : 0<quantity

structure OrderContext where
  outboundOrderId : Option ℕ
  outboundOrderLineId : Option ℕ

def availableQuantity (q : StockQuant) : ℤ := max (q.quantity-q.reservedQuantity) 0

def activeQuantity (rs : List Reservation) : ℤ := (rs.map (·.quantity)).sum

def resolveReservation (warehouseId reservationId : ℕ) : Wms Reservation := do
  let r ← findWhere (D := wms) .reservations reservationId (·.warehouseId=warehouseId)
  demand r (.notFound "Reservation was not found")

def resolveStockQuant (warehouseId stockQuantId : ℕ) : Wms StockQuant := do
  let q ← findWhere (D := wms) .stockQuants stockQuantId (·.warehouseId=warehouseId)
  demand q (.notFound "Stock quant was not found")

def resolveOutboundOrder (warehouseId orderId : ℕ) : Wms OutboundOrder := do
  let o ← findWhere (D := wms) .outboundOrders orderId (·.warehouseId=warehouseId)
  demand o (.notFound "Outbound order was not found")

-- The row of the line, joined with its order's warehouse.
def resolveOutboundOrderLine (warehouseId lineId : ℕ) : Wms OutboundOrderLine := do
  let found ← find (D := wms) .outboundOrderLines lineId
  let line ← demand found (.notFound "Outbound order line was not found")
  let order ← findWhere (D := wms) .outboundOrders line.orderId (·.warehouseId=warehouseId)
  require (order.isSome=true) (.notFound "Outbound order line was not found")
  return line

def resolveOrderContext (warehouseId : ℕ) (dto : CreateReservationDto) : Wms OrderContext := do
  match dto.outboundOrderLineId, dto.outboundOrderId with
  | some lineId, orderId =>
    let line ← resolveOutboundOrderLine warehouseId lineId
    require (∀ o, orderId=some o → o=line.orderId)
      (.conflict "Outbound order line does not belong to the outbound order")
    return ⟨some line.orderId,some line.id⟩
  | none, some orderId =>
    let order ← resolveOutboundOrder warehouseId orderId
    return ⟨some order.id,none⟩
  | none, none => return ⟨none,none⟩

def activeReservationsOfLine (lineId : ℕ) (r : Reservation) : Bool :=
  r.outboundOrderLineId=some lineId && r.status=.ACTIVE

def lockAndReloadStockQuant (warehouseId stockQuantId : ℕ) : Wms StockQuant := do
  lockRow (D := wms) .stockQuants stockQuantId
  resolveStockQuant warehouseId stockQuantId

def reserveStockQuant (stockQuant : StockQuant) (quantity : ℤ) (operation verb : String) :
    Wms Unit := do
  let locked ← lockAndReloadStockQuant stockQuant.warehouseId stockQuant.id
  assertNoBlockingStockFreeze
    {warehouseId := stockQuant.warehouseId, stockQuantId := some stockQuant.id,
     locationId := some locked.locationId, skuId := some locked.skuId, operation := operation}
  let available := availableQuantity locked
  require (quantity≤available) (.conflict
    s!"Insufficient available stock to {verb} after row lock. Requested {quantity}, available {available}.")
  update (D := wms) .stockQuants stockQuant.id {reservedQuantity := .increment quantity}

def releaseReservedStockQuant (stockQuant : StockQuant) (quantity : ℤ) : Wms Unit := do
  let locked ← lockAndReloadStockQuant stockQuant.warehouseId stockQuant.id
  assertNoBlockingStockFreeze
    {warehouseId := stockQuant.warehouseId, stockQuantId := some stockQuant.id,
     locationId := some locked.locationId, skuId := some locked.skuId,
     operation := "release reserved stock"}
  require (quantity≤locked.reservedQuantity)
    (.conflict "Reservation release would make reserved quantity negative")
  update (D := wms) .stockQuants stockQuant.id {reservedQuantity := .decrement quantity}

def cancelOpenReservationTasks (warehouseId reservationId : ℕ) : Wms Unit := do
  let inProgress ← findFirst (D := wms) .warehouseTasks fun t =>
    t.warehouseId=warehouseId && t.reservationId=some reservationId && t.status=.IN_PROGRESS
  require (inProgress.isNone=true)
    (.conflict "Reservation has an in-progress task and cannot be released")
  updateMany (D := wms) .warehouseTasks (fun t =>
    t.warehouseId=warehouseId && t.reservationId=some reservationId && t.status=.OPEN)
    {status := .CANCELLED}

def resolveReservationOwner (warehouseId : ℕ) (dto : CreateReservationDto)
    (stockQuant : StockQuant) (context : OrderContext) : Wms (Option WmsClient) := do
  let inherited ← resolveSingleOwnerFromResources warehouseId
    [(.STOCK_QUANT,some stockQuant.id),(.OUTBOUND_ORDER,context.outboundOrderId),
     (.OUTBOUND_ORDER_LINE,context.outboundOrderLineId)]
  match dto.ownerClientReference with
  | none => return inherited
  | some reference =>
    let found ← resolveOwnerClient warehouseId (some reference)
    let explicit ← demand found (.conflict "Owner client reference is required.")
    require (∀ o, inherited=some o → o.id=explicit.id)
      (.conflict "Explicit owner client conflicts with stock/order ownership.")
    return some explicit

def createReservationRecord (warehouseId : ℕ) (stockQuant : StockQuant) (context : OrderContext)
    (quantity : ℤ) : Wms Reservation := do
  let id ← fresh
  let reservation : Reservation := ⟨id,warehouseId,context.outboundOrderId,
    context.outboundOrderLineId,stockQuant.id,stockQuant.skuId,quantity,.ACTIVE⟩
  insert (D := wms) .reservations reservation
  return reservation

/-- The movement of a reservation; allocation also names its pick task. -/
def createReserveMovement (warehouseId : ℕ) (stockQuant : StockQuant) (reservation : Reservation)
    (taskId : Option ℕ) (quantity : ℤ) : Wms StockMovement := do
  let id ← fresh
  let movement := {StockMovement.record id warehouseId stockQuant.skuId .RESERVE quantity with
    stockQuantId := some stockQuant.id, reservationId := some reservation.id, taskId := taskId,
    fromLocationId := some stockQuant.locationId}
  insert (D := wms) .stockMovements movement
  return movement

def createReservationPickTask (warehouseId : ℕ) (stockQuant : StockQuant)
    (reservation : Reservation) (context : OrderContext) (quantity : ℤ) : Wms WarehouseTask := do
  let id ← fresh
  let task := {WarehouseTask.record id warehouseId .PICK with
    skuId := some stockQuant.skuId, fromLocationId := some stockQuant.locationId,
    outboundOrderId := context.outboundOrderId,
    outboundOrderLineId := context.outboundOrderLineId,
    reservationId := some reservation.id, quantity := some quantity}
  insert (D := wms) .warehouseTasks task
  return task

def lockOutboundOrder : Option ℕ → Wms Unit
  | none => pure ()
  | some orderId => lockRow (D := wms) .outboundOrders orderId

def lockReservableOrder (warehouseId : ℕ) : Option ℕ → Wms Unit
  | none => pure ()
  | some orderId => do
    lockRow (D := wms) .outboundOrders orderId
    let order ← resolveOutboundOrder warehouseId orderId
    require (order.status≠.CANCELLED ∧ order.status≠.SHIPPED)
      (.conflict "Outbound order cannot be reserved in its current status")

def assertLineRemaining (warehouseId : ℕ) (quantity : ℤ) : Option ℕ → Wms Unit
  | none => pure ()
  | some lineId => do
    let line ← resolveOutboundOrderLine warehouseId lineId
    let existing ← findMany (D := wms) .reservations (activeReservationsOfLine lineId)
    require (quantity≤line.orderedQuantity-line.pickedQuantity-activeQuantity existing)
      (.conflict "Reservation exceeds remaining outbound line quantity")

def createReservation (warehouseReference : Text) (dto : CreateReservationDto) : Wms Unit := do
  let warehouse ← resolveWarehouse warehouseReference
  let context ← resolveOrderContext warehouse.id dto
  lockReservableOrder warehouse.id context.outboundOrderId
  assertLineRemaining warehouse.id dto.quantity context.outboundOrderLineId
  let stockQuant ← resolveStockQuant warehouse.id dto.stockQuantReference
  let available := availableQuantity stockQuant
  let quantity := dto.quantity
  require (quantity≤available) (.conflict
    s!"Insufficient available stock to reserve. Requested {quantity}, available {available}.")
  let owner ← resolveReservationOwner warehouse.id dto stockQuant context
  reserveStockQuant stockQuant quantity "reserve stock" "reserve"
  let reservation ← createReservationRecord warehouse.id stockQuant context quantity
  let movement ← createReserveMovement warehouse.id stockQuant reservation none quantity
  let task ← match context.outboundOrderLineId with
    | some _ => do
      let task ← createReservationPickTask warehouse.id stockQuant reservation context quantity
      pure (some task.id)
    | none => pure none
  match owner with
  | none => return ()
  | some owner =>
    ensureOwnedResourceLinks warehouse.id owner.id
      [(.STOCK_QUANT,some stockQuant.id),(.RESERVATION,some reservation.id),
       (.STOCK_MOVEMENT,some movement.id),(.WAREHOUSE_TASK,task),
       (.OUTBOUND_ORDER,context.outboundOrderId),
       (.OUTBOUND_ORDER_LINE,context.outboundOrderLineId)]

/-- The two ways to end an active reservation without picking it. -/
inductive ReleaseStatus
  | RELEASED | CANCELLED
  deriving DecidableEq

def ReleaseStatus.status : ReleaseStatus → ReservationStatus
  | .RELEASED => .RELEASED
  | .CANCELLED => .CANCELLED

def ReleaseStatus.verb : ReleaseStatus → String
  | .RELEASED => "released"
  | .CANCELLED => "cancelled"

def createReleaseStockMovement (warehouseId : ℕ) (stockQuant : StockQuant)
    (reservation : Reservation) (quantity : ℤ) : Wms Unit := do
  let id ← fresh
  insert (D := wms) .stockMovements
    {StockMovement.record id warehouseId stockQuant.skuId .CANCEL_RESERVATION quantity with
      stockQuantId := some stockQuant.id, reservationId := some reservation.id,
      fromLocationId := some stockQuant.locationId, quantityDelta := some 0}

def releaseReservation (warehouseReference : Text) (reservationReference : ℕ)
    (target : ReleaseStatus) : Wms Unit := do
  let warehouse ← resolveWarehouse warehouseReference
  let candidate ← resolveReservation warehouse.id reservationReference
  lockOutboundOrder candidate.outboundOrderId
  -- Serialize the complete reservation lifecycle before touching reserved stock.
  lockRow (D := wms) .reservations candidate.id
  let reservation ← resolveReservation warehouse.id candidate.id
  let verb := target.verb
  require (reservation.status=.ACTIVE) (.conflict s!"Only ACTIVE reservations can be {verb}")
  require (0 < reservation.quantity)
    (.conflict "Reservation quantity must be greater than zero")
  let stockQuant ← resolveStockQuant warehouse.id reservation.stockQuantId
  releaseReservedStockQuant stockQuant reservation.quantity
  cancelOpenReservationTasks warehouse.id reservation.id
  update (D := wms) .reservations reservation.id {status := some target.status}
  createReleaseStockMovement warehouse.id stockQuant reservation reservation.quantity

end AardvarkWms
