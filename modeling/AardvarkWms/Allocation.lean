import AardvarkWms.Reservations
import Mathlib.Data.List.Sort

/-! Allocation of an outbound order: `src/allocation/allocation.service.ts`. -/
namespace AardvarkWms

open Transactions Transactions.Txn Relational

inductive AllocationStrategy
  | FEFO | FIFO | LIFO
  deriving DecidableEq

structure AllocateOutboundOrderDto where
  allocationStrategy : Option AllocationStrategy
  ownerClientReference : Option Text

def Text.le : Text → Text → Bool
  | .uuid a, .uuid b => a≤b
  | .uuid _, .word _ => true
  | .word _, .uuid _ => false
  | .word a, .word b => a≤b

/-- The rows of an order, `orderBy: { lineNumber: 'asc' }`. -/
def findOrderLines (orderId : ℕ) : Wms (List OutboundOrderLine) := do
  let lines ← findMany (D := wms) .outboundOrderLines (·.orderId=orderId)
  return lines.insertionSort fun a b => a.lineNumber.le b.lineNumber=true

/-- The comparator's `≤ 0`. -/
def compareStockQuantForAllocation (strategy : AllocationStrategy) (l r : StockQuant) : Bool :=
  match strategy with
  | .LIFO => r.createdAt≤l.createdAt
  | .FIFO => l.createdAt ≤ r.createdAt
  | .FEFO =>
    match l.expiryDate, r.expiryDate with
    | some a, some b => if a=b then l.createdAt ≤ r.createdAt else a≤b
    | some _, none => true
    | none, some _ => false
    | none, none => l.createdAt ≤ r.createdAt

def countActiveReservations (lineId : ℕ) : Wms ℤ := do
  let existing ← findMany (D := wms) .reservations (activeReservationsOfLine lineId)
  return activeQuantity existing

def resolveLineSkuId (line : OutboundOrderLine) : Wms ℕ :=
  match line.sku with
  | .uuid id => pure id
  | .word w => do
    let sku ← findFirst (D := wms) .skus (·.code=.word w)
    let sku ← demand sku (.notFound s!"SKU {w} was not found")
    return sku.id

def findOwnedStockQuantIds (warehouseId : ℕ) (owner : WmsClient) : Wms (List ℕ) := do
  let found ← findFirst (D := wms) .wmsClients (·.code=owner.code)
  let client ← demand found (.notFound "Client was not found.")
  let links ← findMany (D := wms) .clientResourceLinks fun l =>
    l.warehouseId=warehouseId && l.clientId=client.id && l.resourceType=.STOCK_QUANT
  return links.map (·.resourceId)

/-- The quants to choose from, where the order has an owner. -/
def stockQuantScope (warehouseId : ℕ) : Option WmsClient → Wms (Option (List ℕ))
  | none => pure none
  | some owner => do
    let ids ← findOwnedStockQuantIds warehouseId owner
    return some ids

def allocatableQuant (warehouseId skuId : ℕ) (q : StockQuant) : Bool :=
  q.warehouseId=warehouseId && q.status=.AVAILABLE && q.skuId=skuId

def findAvailableStockQuants (warehouseId : ℕ) (line : OutboundOrderLine) (required : ℤ)
    (owner : Option WmsClient) (strategy : AllocationStrategy) : Wms (List StockQuant) := do
  let skuId ← resolveLineSkuId line
  let owned ← stockQuantScope warehouseId owner
  let quants ← findMany (D := wms) .stockQuants (allocatableQuant warehouseId skuId)
  let byAge := quants.insertionSort fun a b => a.createdAt≤b.createdAt
  let candidates := ((byAge.filter fun q => owned.all fun ids => ids.contains q.id).filter
    fun q => 0<availableQuantity q).insertionSort
      fun a b => compareStockQuantForAllocation strategy a b=true
  let totalAvailable := (candidates.map availableQuantity).sum
  let sku := line.sku
  require (required≤totalAvailable) (.conflict
    s!"Insufficient available stock for SKU {sku}. Requested {required}, available {totalAvailable}.")
  return candidates

/-- Reserve `quantity` of one candidate for a line. -/
def allocateQuant (warehouseId : ℕ) (order : OutboundOrder) (line : OutboundOrderLine)
    (candidate : StockQuant) (quantity : ℤ) (owner : Option WmsClient) : Wms Unit := do
  let context : OrderContext := ⟨some order.id,some line.id⟩
  reserveStockQuant candidate quantity "allocate stock" "allocate"
  let reservation ← createReservationRecord warehouseId candidate context quantity
  let task ← createReservationPickTask warehouseId candidate reservation context quantity
  let movement ← createReserveMovement warehouseId candidate reservation (some task.id) quantity
  match owner with
  | none => return ()
  | some owner =>
    linkOwnerResources warehouseId owner
      [(.OUTBOUND_ORDER,some order.id),(.OUTBOUND_ORDER_LINE,some line.id),
       (.RESERVATION,some reservation.id),(.WAREHOUSE_TASK,some task.id),
       (.STOCK_MOVEMENT,some movement.id)]

def allocateCandidates (warehouseId : ℕ) (order : OutboundOrder) (line : OutboundOrderLine)
    (owner : Option WmsClient) : List StockQuant → ℤ → Wms Unit
  | [], _ => pure ()
  | candidate::candidates, remaining =>
    if remaining≤0 then pure ()
    else
      let quantity := min (availableQuantity candidate) remaining
      if quantity≤0 then allocateCandidates warehouseId order line owner candidates remaining
      else do
        allocateQuant warehouseId order line candidate quantity owner
        allocateCandidates warehouseId order line owner candidates (remaining-quantity)

def allocateLine (warehouseId : ℕ) (order : OutboundOrder) (owner : Option WmsClient)
    (strategy : AllocationStrategy) (line : OutboundOrderLine) : Wms Unit := do
  let alreadyReserved ← countActiveReservations line.id
  let required := max (line.orderedQuantity-line.pickedQuantity-alreadyReserved) 0
  if 0 < required then do
    let candidates ← findAvailableStockQuants warehouseId line required owner strategy
    allocateCandidates warehouseId order line owner candidates required
  else pure ()

def resolveAllocationOwner (warehouseId : ℕ) (order : OutboundOrder)
    (ownerClientReference : Option Text) : Wms (Option WmsClient) :=
  match ownerClientReference with
  | some reference => do
    let found ← resolveOwnerClient warehouseId (some reference)
    let owner ← demand found (.conflict "Owner client reference is required.")
    linkResourceToResolvedClient warehouseId owner.id (.OUTBOUND_ORDER,some order.id)
    return some owner
  | none => findResourceOwner warehouseId (.OUTBOUND_ORDER,some order.id)

def resolveOutboundOrderByReference (warehouseId : ℕ) (reference : Text) :
    Wms OutboundOrder := do
  let o ← findFirst (D := wms) .outboundOrders fun o =>
    o.warehouseId=warehouseId && reference.names o.id o.orderNumber
  demand o (.notFound "Outbound order was not found")

def allocateOutboundOrder (warehouseReference orderReference : Text)
    (dto : AllocateOutboundOrderDto) : Wms Unit := do
  let warehouse ← resolveWarehouse warehouseReference
  let candidate ← resolveOutboundOrderByReference warehouse.id orderReference
  -- Lock the order before re-reading its lines and active reservations.
  lockRow (D := wms) .outboundOrders candidate.id
  let order ← resolveOutboundOrder warehouse.id candidate.id
  let lines ← findOrderLines order.id
  require (order.status≠.CANCELLED ∧ order.status≠.SHIPPED)
    (.conflict "Outbound order cannot be allocated in its current status")
  let owner ← resolveAllocationOwner warehouse.id order dto.ownerClientReference
  require (lines≠[]) (.conflict "Outbound order has no lines to allocate")
  let _ ← each lines
    (allocateLine warehouse.id order owner (dto.allocationStrategy.getD .FEFO))
  update (D := wms) .outboundOrders order.id {status := .ALLOCATED}

end AardvarkWms
