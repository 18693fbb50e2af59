import AardvarkWms.Allocation
import AardvarkWms.Traceability

/-! Release picking, confirm pick, pack and ship: `src/fulfillment/fulfillment.service.ts`. -/
namespace AardvarkWms

open Transactions Transactions.Txn Relational

structure ConfirmPickDto where
  orderReference : Option Text
  lineReference : Option Text
  quantity : Option ℤ
  serialNumbers : List Text
  quantity_pos : ∀ n∈quantity, 0<n

structure OutboundOrderWithLines where
  order : OutboundOrder
  lines : List OutboundOrderLine

instance : ToString FulfillmentStatus where
  toString
    | .CREATED => "CREATED"
    | .ALLOCATED => "ALLOCATED"
    | .PICKING => "PICKING"
    | .PICKED => "PICKED"
    | .PACKED => "PACKED"
    | .SHIPPED => "SHIPPED"
    | .CANCELLED => "CANCELLED"
    | .EXCEPTION => "EXCEPTION"

def FulfillmentStatus.outboundStatus : FulfillmentStatus → OutboundStatus
  | .CREATED => .CREATED
  | .ALLOCATED => .ALLOCATED
  | .PICKING => .PICKING
  | .PICKED => .PICKED
  | .PACKED => .PACKED
  | .SHIPPED => .SHIPPED
  | .CANCELLED => .CANCELLED
  | .EXCEPTION => .EXCEPTION

/-- An order status that is no fulfilment status counts as an exception. -/
def OutboundStatus.fulfillmentStatus : OutboundStatus → FulfillmentStatus
  | .CREATED => .CREATED
  | .ALLOCATED => .ALLOCATED
  | .PICKING => .PICKING
  | .PICKED => .PICKED
  | .PACKED => .PACKED
  | .SHIPPED => .SHIPPED
  | .CANCELLED => .CANCELLED
  | .EXCEPTION | .DRAFT | .PACKING => .EXCEPTION

def getEffectiveFulfillmentStatus (o : OutboundOrder) : FulfillmentStatus :=
  o.fulfillmentStatus.getD o.status.fulfillmentStatus

/-- Find the order, lock it, and read it again with its lines. -/
def resolveOrder (warehouseId : ℕ) (reference : Text) : Wms OutboundOrderWithLines := do
  let found ← resolveOutboundOrderByReference warehouseId reference
  lockRow (D := wms) .outboundOrders found.id
  let order ← resolveOutboundOrder warehouseId found.id
  let lines ← findOrderLines order.id
  return ⟨order,lines⟩

def resolveWarehouseTask (warehouseId taskId : ℕ) : Wms WarehouseTask := do
  let found ← findWhere (D := wms) .warehouseTasks taskId (·.warehouseId=warehouseId)
  let task ← demand found (.notFound "Warehouse task was not found")
  require (task.status≠.DONE ∧ task.status≠.CANCELLED)
    (.conflict "Warehouse task is already done")
  require (task.type=.PICK) (.conflict "Only PICK tasks can confirm picking")
  return task

def pickOrderReference (task : WarehouseTask) (dto : ConfirmPickDto) : Option Text :=
  dto.orderReference <|> task.outboundOrderId.map .uuid <|> task.metadata.orderReference

def pickLineReference (task : WarehouseTask) (dto : ConfirmPickDto) : Option Text :=
  dto.lineReference <|> task.outboundOrderLineId.map .uuid <|> task.metadata.lineReference

def resolvePickOrder (warehouseId : ℕ) (task : WarehouseTask) (dto : ConfirmPickDto) :
    Wms OutboundOrderWithLines :=
  match pickOrderReference task dto with
  | some reference => resolveOrder warehouseId reference
  | none =>
    match pickLineReference task dto with
    | some (.uuid lineId) => do
      let line ← find (D := wms) .outboundOrderLines lineId
      let line ← demand line
        (.conflict "Outbound order context is required to confirm pick")
      resolveOrder warehouseId (.uuid line.orderId)
    | _ => refuse (.conflict "Outbound order context is required to confirm pick")

def pickLine (lines : List OutboundOrderLine) (task : WarehouseTask) (dto : ConfirmPickDto) :
    Option OutboundOrderLine :=
  match pickLineReference task dto, lines with
  | some reference, lines => lines.find? fun l => reference.names l.id l.lineNumber
  | none, [line] => some line
  | none, _ => none

def resolvePickLine (order : OutboundOrderWithLines) (task : WarehouseTask)
    (dto : ConfirmPickDto) : Wms OutboundOrderLine :=
  demand (pickLine order.lines task dto)
    (if (pickLineReference task dto).isSome then .notFound "Outbound order line was not found"
     else .conflict "Outbound line context is required to confirm pick")

def positiveInt (n : Option ℤ) : Option ℤ := n.filter (0<·)

def resolvePickQuantity (task : WarehouseTask) (dto : ConfirmPickDto) (remaining : ℤ) : ℤ :=
  (dto.quantity <|> positiveInt task.quantity).getD remaining

def lineReservation (warehouseId lineId : ℕ) (r : Reservation) : Bool :=
  r.warehouseId=warehouseId && activeReservationsOfLine lineId r

def findLineReservations (warehouseId lineId : ℕ) : Wms (List Reservation) :=
  findMany (D := wms) .reservations (lineReservation warehouseId lineId)

def resolvePickReservation (warehouseId : ℕ) (line : OutboundOrderLine) (task : WarehouseTask) :
    Wms (Option Reservation) :=
  match task.reservationId with
  | some id => do
    let found ← findWhere (D := wms) .reservations id (·.warehouseId=warehouseId)
    let reservation ← demand found (.notFound "Reservation was not found")
    return some reservation
  | none => do
    let reservations ← findLineReservations warehouseId line.id
    return reservations.head?

def resolveSkuByCode (code : Text) : Wms (Option Sku) :=
  findFirst (D := wms) .skus (·.code=code)

/-- A SKU that is known already, or else the one with the line's code. -/
def resolveKnownSkuId (known : Option ℕ) (line : OutboundOrderLine) : Wms (Option ℕ) :=
  match known with
  | some id => pure (some id)
  | none => do
    let sku ← resolveSkuByCode line.sku
    return sku.map (·.id)

def pickableQuant (warehouseId skuId : ℕ) (locationId : Option ℕ) (q : StockQuant) : Bool :=
  q.warehouseId=warehouseId && q.skuId=skuId && q.status=.AVAILABLE
  && locationId.all (q.locationId=·)

def resolvePickStockQuant (warehouseId : ℕ) (line : OutboundOrderLine) (task : WarehouseTask) :
    Option Reservation → Wms StockQuant
  | some reservation => do
    let q ← find (D := wms) .stockQuants reservation.stockQuantId
    demand q (.notFound "Stock quant was not found")
  | none => do
    let sku ← resolveKnownSkuId task.skuId line
    let skuId ← demand sku (.conflict "SKU is required to reduce stock for picking")
    let quants ← findMany (D := wms) .stockQuants
      (pickableQuant warehouseId skuId task.fromLocationId)
    demand (quants.insertionSort fun a b => a.createdAt≤b.createdAt).head?
      (.conflict "Available stock was not found for picking")

def reloadPickReservation : Option Reservation → ℤ → Wms (Option Reservation)
  | none, _ => pure none
  | some reservation, quantity => do
    lockRow (D := wms) .reservations reservation.id
    let current ← find (D := wms) .reservations reservation.id
    let current ← demand (current.filter fun r => r.status=.ACTIVE && quantity ≤ r.quantity)
      (.conflict "Reservation is no longer available for this pick")
    return some current

/-- What a pick of `quantity` leaves of a reservation of `held`. -/
def pickedReservation (held quantity : ℤ) : ReservationUpdate :=
  if held≤quantity then {status := some .PICKED} else {quantity := .decrement quantity}

/-- Take the pick off the locked quant and off its reservation. -/
def takeFromQuant (stockQuant : StockQuant) (quantity : ℤ) (reservation : Option Reservation) :
    Wms Unit := do
  lockRow (D := wms) .stockQuants stockQuant.id
  let locked ← find (D := wms) .stockQuants stockQuant.id
  let locked ← demand locked (.notFound "Stock quant was not found")
  assertNoBlockingStockFreeze
    {warehouseId := locked.warehouseId, stockQuantId := some locked.id,
     locationId := some locked.locationId, skuId := some locked.skuId,
     operation := "confirm pick"}
  require (quantity≤locked.quantity ∧ quantity≤locked.reservedQuantity)
    (.conflict "Insufficient available or reserved stock for picking")
  update (D := wms) .stockQuants locked.id
    {quantity := .decrement quantity, reservedQuantity := .decrement quantity}
  match reservation with
  | none => return ()
  | some r => update (D := wms) .reservations r.id (pickedReservation r.quantity quantity)

def applyPickInventory (stockQuant : StockQuant) (reservation : Option Reservation)
    (quantity : ℤ) : Wms Unit := do
  let current ← reloadPickReservation reservation quantity
  takeFromQuant stockQuant quantity current

structure StockMovementContext where
  warehouseId : ℕ
  order : OutboundOrder
  line : OutboundOrderLine
  task : Option WarehouseTask := none
  reservation : Option Reservation := none
  stockQuant : Option StockQuant := none
  quantity : ℤ

def linkFulfillmentOwner (warehouseId orderId : ℕ) (resources : List (ResourceType × Option ℕ)) :
    Wms Unit := do
  match ← findResourceOwner warehouseId (.OUTBOUND_ORDER,some orderId) with
  | none => return ()
  | some owner => ensureOwnedResourceLinks warehouseId owner.id resources

/-- A pack or ship movement has neither quant nor task, so no location either. -/
def createFulfillmentMovement (type : StockMovementType) (context : StockMovementContext) :
    Wms Unit := do
  let known := context.reservation.map (·.skuId) <|> context.stockQuant.map (·.skuId)
    <|> context.task.bind (·.skuId)
  let sku ← resolveKnownSkuId known context.line
  let skuId ← demand sku (.conflict "SKU is required to create stock movement")
  let id ← fresh
  insert (D := wms) .stockMovements
    {StockMovement.record id context.warehouseId skuId type context.quantity with
      stockQuantId := context.stockQuant.map (·.id),
      reservationId := context.reservation.map (·.id), taskId := context.task.map (·.id),
      fromLocationId := context.stockQuant.map (·.locationId)
        <|> context.task.bind (·.fromLocationId)}
  linkFulfillmentOwner context.warehouseId context.order.id
    [(.STOCK_MOVEMENT,some id),(.OUTBOUND_ORDER,some context.order.id),
     (.OUTBOUND_ORDER_LINE,some context.line.id),
     (.RESERVATION,context.reservation.map (·.id)),(.WAREHOUSE_TASK,context.task.map (·.id))]

structure SerialTransitionInput where
  warehouseId : ℕ
  skuId : Option ℕ
  outboundOrderLineId : ℕ
  stockQuant : Option StockQuant
  serialNumbers : List Text
  fromStatus : List SerialNumberStatus
  toStatus : SerialNumberStatus
  operation : String
  quantity : ℤ
  requireExact : Bool

def findOutboundSerials (warehouseId : ℕ) (serialNumbers : List Text) : Wms (List SerialNumber) :=
  findMany (D := wms) .serialNumbers fun s =>
    s.warehouseId=warehouseId && serialNumbers.contains s.serialNumber

def transitionSerial (input : SerialTransitionInput) (serial : SerialNumber) : Wms Unit := do
  let number := serial.serialNumber
  require (∀ id∈input.skuId, serial.skuId=id)
    (.conflict s!"Serial {number} does not belong to the outbound line SKU")
  require (serial.status∈input.fromStatus)
    (.conflict s!"Serial {number} is not in a status that allows this transition")
  require (∀ l∈serial.outboundOrderLineId, l=input.outboundOrderLineId)
    (.conflict s!"Serial {number} is assigned to another outbound line")
  update (D := wms) .serialNumbers serial.id
    {status := input.toStatus,
     stockQuantId := if input.toStatus=.PICKED then none else serial.stockQuantId,
     lastSeenLocationId := input.stockQuant.map (·.locationId) <|> serial.lastSeenLocationId,
     outboundOrderLineId := some input.outboundOrderLineId}

/-- The serials that were given, or the oldest of the quant where they must be exact. -/
def selectSerialNumbers (input : SerialTransitionInput) : Wms (List Text) :=
  match input.serialNumbers, input.requireExact, input.stockQuant with
  | [], true, some q => do
    let available ← findMany (D := wms) .serialNumbers fun s =>
      s.warehouseId=input.warehouseId && s.stockQuantId=some q.id
        && input.fromStatus.contains s.status
    let oldest := available.insertionSort fun a b => a.createdAt≤b.createdAt
    return (oldest.take input.quantity.toNat).map (·.serialNumber)
  | numbers, _, _ => pure numbers

def transitionOutboundSerials (input : SerialTransitionInput) : Wms Unit := do
  let serialNumbers ← selectSerialNumbers input
  if input.requireExact=false ∧ serialNumbers=[] then return ()
  else do
    assertTraceabilityCapture
      {operation := input.operation, quantity := input.quantity,
       policy := ⟨false,input.requireExact,false⟩, serialNumbers := serialNumbers}
    let serials ← findOutboundSerials input.warehouseId serialNumbers
    require (serials.length=serialNumbers.length) (.conflict "Serial number not found")
    let _ ← each serials (transitionSerial input)
    return ()

def updateOrderStatus (order : OutboundOrder) (status : FulfillmentStatus) : Wms Unit :=
  update (D := wms) .outboundOrders order.id
    {status := status.outboundStatus, fulfillmentStatus := some (some status)}

def isOrderFullyPicked (lines : List OutboundOrderLine) : Bool :=
  !lines.isEmpty && lines.all fun l => l.orderedQuantity≤l.pickedQuantity

def confirmPick (warehouseReference : Text) (taskReference : ℕ) (dto : ConfirmPickDto)
    (actor : AuthenticatedUser) : Wms Unit := do
  let warehouse ← resolveWarehouse warehouseReference
  let candidate ← resolveWarehouseTask warehouse.id taskReference
  let order ← resolvePickOrder warehouse.id candidate dto
  let task ← resolveWarehouseTask warehouse.id taskReference
  let owner ← findResourceOwner warehouse.id (.OUTBOUND_ORDER,some order.order.id)
  assertActorCanAccessOwner actor owner warehouse.id
  require (getEffectiveFulfillmentStatus order.order=.PICKING)
    (.conflict "Outbound order must be PICKING")
  let line ← resolvePickLine order task dto
  let remaining := line.orderedQuantity-line.pickedQuantity
  require (0 < remaining) (.conflict "Outbound line is already fully picked")
  let quantity := resolvePickQuantity task dto remaining
  require (quantity ≤ remaining)
    (.conflict "Pick quantity exceeds remaining outbound line quantity")
  let reservation ← resolvePickReservation warehouse.id line task
  let stockQuant ← resolvePickStockQuant warehouse.id line task reservation
  let sku ← resolveSkuByCode line.sku
  let policy := resolveTraceabilityPolicy sku line
  assertTraceabilityCapture
    {operation := "Confirm pick", quantity := quantity, policy := policy,
     serialNumbers := dto.serialNumbers,
     lotReference := stockQuant.lotId.map .uuid <|> line.lotReference,
     expiry := stockQuant.expiryDate}
  applyPickInventory stockQuant reservation quantity
  update (D := wms) .outboundOrderLines line.id (.set (line.pickedQuantity+quantity))
  createFulfillmentMovement .PICK
    {warehouseId := warehouse.id, order := order.order, line := line, task := some task,
     reservation := reservation, stockQuant := some stockQuant, quantity := quantity}
  transitionOutboundSerials
    {warehouseId := warehouse.id, skuId := some stockQuant.skuId, outboundOrderLineId := line.id,
     stockQuant := some stockQuant, serialNumbers := dto.serialNumbers,
     fromStatus := [.AVAILABLE,.RESERVED], toStatus := .PICKED, operation := "Confirm pick",
     quantity := quantity, requireExact := policy.serialRequired}
  update (D := wms) .warehouseTasks task.id {status := .DONE}
  let refreshed ← resolveOrder warehouse.id (.uuid order.order.id)
  if isOrderFullyPicked refreshed.lines then updateOrderStatus refreshed.order .PICKED
  else return ()

def openPickTask (warehouseId orderId : ℕ) (t : WarehouseTask) : Bool :=
  t.warehouseId=warehouseId && t.outboundOrderId=some orderId && t.type=.PICK
  && [.OPEN,.ASSIGNED,.IN_PROGRESS,.BLOCKED].contains t.status

def createReleasePickTask (warehouseId : ℕ) (order : OutboundOrder) (line : OutboundOrderLine)
    (owner : Option WmsClient) (reservation : Reservation) : Wms Unit := do
  let stockQuant ← find (D := wms) .stockQuants reservation.stockQuantId
  let existing ← findFirst (D := wms) .warehouseTasks fun t =>
    openPickTask warehouseId order.id t && t.outboundOrderLineId=some line.id
      && t.reservationId=some reservation.id
  if existing.isSome then return ()
  else do
    let id ← fresh
    insert (D := wms) .warehouseTasks {WarehouseTask.record id warehouseId .PICK with
      skuId := some reservation.skuId, fromLocationId := stockQuant.map (·.locationId),
      outboundOrderId := some order.id, outboundOrderLineId := some line.id,
      reservationId := some reservation.id, quantity := some reservation.quantity}
    match owner with
    | none => return ()
    | some owner =>
      ensureOwnedResourceLinks warehouseId owner.id
        [(.WAREHOUSE_TASK,some id),(.RESERVATION,some reservation.id)]

def createPickTasksForLine (warehouseId : ℕ) (order : OutboundOrder) (owner : Option WmsClient)
    (line : OutboundOrderLine) : Wms Unit :=
  if line.orderedQuantity-line.pickedQuantity≤0 then pure ()
  else do
    let reservations ← findLineReservations warehouseId line.id
    let number := line.lineNumber
    require (reservations≠[]) (.conflict
      s!"Outbound line {number} has no active reservation; allocate the order before releasing picking.")
    let _ ← each reservations (createReleasePickTask warehouseId order line owner)
    return ()

def assertTransition (order : OutboundOrder) (current next : FulfillmentStatus) : Wms Unit :=
  require (getEffectiveFulfillmentStatus order=current)
    (.conflict s!"Outbound order must be {current} before {next}")

def releasePicking (warehouseReference orderReference : Text) (actor : AuthenticatedUser) :
    Wms Unit := do
  let warehouse ← resolveWarehouse warehouseReference
  let order ← resolveOrder warehouse.id orderReference
  assertTransition order.order .ALLOCATED .PICKING
  let existing ← findMany (D := wms) .warehouseTasks (openPickTask warehouse.id order.order.id)
  let owner ← findResourceOwner warehouse.id (.OUTBOUND_ORDER,some order.order.id)
  assertActorCanAccessOwner actor owner warehouse.id
  updateOrderStatus order.order .PICKING
  match owner with
  | none => pure ()
  | some owner =>
    ensureOwnedResourceLinks warehouse.id owner.id
      ((.OUTBOUND_ORDER,some order.order.id)
        ::order.lines.map fun l => (.OUTBOUND_ORDER_LINE,some l.id))
  if existing≠[] then return ()
  else do
    let _ ← each order.lines (createPickTasksForLine warehouse.id order.order owner)
    return ()

/-- Pack and ship differ in the statuses they lead from and to. -/
structure FulfillmentAction where
  movementType : StockMovementType
  fromStatus : FulfillmentStatus
  toStatus : FulfillmentStatus
  fromSerials : SerialNumberStatus
  toSerials : SerialNumberStatus
  operation : String

def transitionOrderSerials (warehouseId : ℕ) (action : FulfillmentAction)
    (explicit : List Text) (serials : List SerialNumber) (line : OutboundOrderLine) :
    Wms Unit :=
  if line.pickedQuantity≤0 then pure ()
  else do
    let sku ← resolveSkuByCode line.sku
    let policy := resolveTraceabilityPolicy sku line
    let explicitForLine := (serials.filter (·.outboundOrderLineId=some line.id)).map
      (·.serialNumber)
    let automatic ← if explicit≠[] ∨ policy.serialRequired=false then pure [] else do
      let found ← findMany (D := wms) .serialNumbers fun s =>
        s.warehouseId=warehouseId && s.outboundOrderLineId=some line.id
          && s.status=action.fromSerials
      let oldest := found.insertionSort fun a b => a.createdAt≤b.createdAt
      pure ((oldest.take line.pickedQuantity.toNat).map (·.serialNumber))
    transitionOutboundSerials
      {warehouseId := warehouseId, skuId := sku.map (·.id), outboundOrderLineId := line.id,
       stockQuant := none,
       serialNumbers := if explicitForLine≠[] then explicitForLine else automatic,
       fromStatus := [action.fromSerials], toStatus := action.toSerials,
       operation := action.operation, quantity := line.pickedQuantity,
       requireExact := policy.serialRequired}

def createLineMovement (type : StockMovementType) (warehouseId : ℕ) (order : OutboundOrder)
    (line : OutboundOrderLine) : Wms Unit :=
  if line.pickedQuantity≤0 then pure ()
  else createFulfillmentMovement type
    {warehouseId := warehouseId, order := order, line := line, quantity := line.pickedQuantity}

def advanceOrder (action : FulfillmentAction) (warehouseReference orderReference : Text)
    (serialNumbers : List Text) (actor : AuthenticatedUser) : Wms Unit := do
  let warehouse ← resolveWarehouse warehouseReference
  let order ← resolveOrder warehouse.id orderReference
  let owner ← findResourceOwner warehouse.id (.OUTBOUND_ORDER,some order.order.id)
  assertActorCanAccessOwner actor owner warehouse.id
  assertTransition order.order action.fromStatus action.toStatus
  require (serialNumbers.Nodup) (.conflict "Duplicate serial numbers are not allowed")
  let serials ← match serialNumbers with
    | [] => pure []
    | numbers => findOutboundSerials warehouse.id numbers
  require (∀ s∈serials, ∃ l∈order.lines, s.outboundOrderLineId=some l.id)
    (.conflict "Serial does not belong to outbound order")
  let _ ← each order.lines
    (transitionOrderSerials warehouse.id action serialNumbers serials)
  let _ ← each order.lines (createLineMovement action.movementType warehouse.id order.order)
  updateOrderStatus order.order action.toStatus

def pack (warehouseReference orderReference : Text) (serialNumbers : List Text)
    (actor : AuthenticatedUser) : Wms Unit :=
  advanceOrder ⟨.PACK,.PICKED,.PACKED,.PICKED,.PACKED,"Pack order"⟩
    warehouseReference orderReference serialNumbers actor

def ship (warehouseReference orderReference : Text) (serialNumbers : List Text)
    (actor : AuthenticatedUser) : Wms Unit :=
  advanceOrder ⟨.SHIP,.PACKED,.SHIPPED,.PACKED,.SHIPPED,"Ship order"⟩
    warehouseReference orderReference serialNumbers actor

end AardvarkWms
