import AardvarkWms.Inventory

/-! Confirmation of replenishment demands: `src/replenishment/replenishment.service.ts`. -/
namespace AardvarkWms

open Transactions Transactions.Txn Relational

structure ConfirmReplenishmentDto where
  quantity : Option ℤ
  quantity_pos : ∀ n∈quantity, 1≤n

def resolveDemand (warehouseId reference : ℕ) : Wms ReplenishmentDemand := do
  let d ← findFirst (D := wms) .replenishmentDemands fun d =>
    d.warehouseId=warehouseId && (d.id=reference || d.warehouseTaskId=some reference)
  demand d (.notFound "Replenishment demand was not found")

def resolveDemandQuant (quantId : ℕ) : Wms StockQuant := do
  lockRow (D := wms) .stockQuants quantId
  let q ← find (D := wms) .stockQuants quantId
  demand q (.notFound "Source stock quant was not found")

/-- Neither owner nor lot, batch or expiry is compared. -/
def destinationWhere (warehouseId : ℕ) (d : ReplenishmentDemand) (q : StockQuant) : Bool :=
  q.warehouseId=warehouseId && q.skuId=d.skuId && q.locationId=d.pickLocationId
  && q.status=.AVAILABLE && q.handlingUnitId=none

def replenishDestination (warehouseId : ℕ) (d : ReplenishmentDemand) (quantity : ℤ) :
    Wms Unit := do
  match ← findFirst (D := wms) .stockQuants (destinationWhere warehouseId d) with
  | some q => update (D := wms) .stockQuants q.id {quantity := .increment quantity, version := 1}
  | none =>
    let _ ← createQuant ⟨warehouseId,d.pickLocationId,d.skuId,.AVAILABLE,none,none,none,none,none⟩
      quantity
    return ()

def replenishmentMovement (id warehouseId : ℕ) (d : ReplenishmentDemand) (source : StockQuant)
    (quantity : ℤ) : StockMovement :=
  {StockMovement.record id warehouseId d.skuId .MOVE quantity with
    stockQuantId := some source.id, taskId := d.warehouseTaskId,
    fromLocationId := d.sourceLocationId, toLocationId := some d.pickLocationId}

def confirmReplenishmentTask (warehouseReference : Text) (taskReference : ℕ)
    (dto : ConfirmReplenishmentDto) : Wms Unit := do
  let warehouse ← resolveWarehouse warehouseReference
  let d ← resolveDemand warehouse.id taskReference
  require (d.status≠.COMPLETED) (.conflict "Replenishment demand is already completed")
  let missing := HttpException.conflict
    "Replenishment demand is missing source stock or task context"
  let quantId ← demand d.stockQuantId missing
  let _ ← demand d.sourceLocationId missing
  let taskId ← demand d.warehouseTaskId missing
  lockRow (D := wms) .warehouseTasks taskId
  let source ← resolveDemandQuant quantId
  assertNoBlockingStockFreeze
    {warehouseId := warehouse.id, stockQuantId := some source.id,
     locationId := some source.locationId, skuId := some source.skuId,
     operation := "confirm replenishment source move"}
  assertNoBlockingStockFreeze
    {warehouseId := warehouse.id, locationId := some d.pickLocationId, skuId := some d.skuId,
     operation := "confirm replenishment destination move"}
  let quantity := dto.quantity.getD (min d.requiredQuantity (availableQuantity source))
  require (0<quantity ∧ quantity≤availableQuantity source)
    (.conflict "Invalid replenishment move quantity")
  update (D := wms) .stockQuants source.id {quantity := .decrement quantity, version := 1}
  replenishDestination warehouse.id d quantity
  let id ← fresh
  insert (D := wms) .stockMovements (replenishmentMovement id warehouse.id d source quantity)
  update (D := wms) .warehouseTasks taskId {status := .DONE}
  update (D := wms) .replenishmentDemands d.id .COMPLETED

end AardvarkWms
