import AardvarkWms.Relational

/-! The rows that the stock, reservation, picking and counting services read and write,
with the CHECK constraints of the guardrails migration. Quantities are integers. -/
namespace AardvarkWms

open Transactions Relational

/-- A reference or a code, normalised as the services do before they compare it: it reads
as a uuid or it is another word. -/
inductive Text
  | uuid (id : ℕ)
  | word (w : ℕ)
  deriving DecidableEq

/-- A key that a client chooses, as its characters, trimmed and not empty. -/
abbrev IdempotencyKey : Type := List Char

inductive HttpException
  | notFound (message : String)
  | conflict (message : String)
  | forbidden (message : String)
  | uniqueViolation
  | malformedUuid

inductive StockQuantStatus
  | AVAILABLE | RESERVED | BLOCKED | DAMAGED | IN_TRANSIT | QUARANTINE
  deriving DecidableEq

inductive ReservationStatus
  | ACTIVE | PICKED | RELEASED | CANCELLED
  deriving DecidableEq

inductive OutboundStatus
  | DRAFT | CREATED | ALLOCATED | PICKING | PICKED | PACKING | PACKED | SHIPPED | CANCELLED
  | EXCEPTION
  deriving DecidableEq

inductive InboundStatus
  | CREATED | EXPECTED | RECEIVING | RECEIVED | CLOSED | CANCELLED | EXCEPTION
  deriving DecidableEq

inductive ShipmentStatus
  | DRAFT | PACKING | STAGED | LOADING | SHIPPED | CANCELLED | EXCEPTION
  deriving DecidableEq

inductive WarehouseLocationType
  | RECEIVING | STORAGE | PICKING | PACKING | SHIPPING | BUFFER | QUARANTINE
  deriving DecidableEq

inductive LotStatus
  | ACTIVE | HOLD | QUARANTINED | RELEASED | EXPIRED | RECALLED | CONSUMED | ARCHIVED
  deriving DecidableEq

inductive ReceiveExceptionCode
  | UNEXPECTED_SKU_RECEIVED | OVER_RECEIVE | UNDER_RECEIVE | DAMAGED_GOODS_RECEIVED
  | QUALITY_CHECK_FAILED | QUALITY_CHECK_HOLD
  deriving DecidableEq

inductive ReceiveQualityStatus
  | PASSED | HOLD | FAILED
  deriving DecidableEq

inductive FulfillmentStatus
  | CREATED | ALLOCATED | PICKING | PICKED | PACKED | SHIPPED | CANCELLED | EXCEPTION
  deriving DecidableEq

inductive WarehouseTaskStatus
  | OPEN | ASSIGNED | IN_PROGRESS | BLOCKED | DONE | FAILED | CANCELLED
  deriving DecidableEq

inductive WarehouseTaskType
  | RECEIVE | PUTAWAY | PICK | PACK | MOVE | REPLENISH | COUNT | LOAD
  deriving DecidableEq

inductive StockMovementType
  | RECEIVE | PUTAWAY | MOVE | RESERVE | PICK | PACK | SHIP | ADJUST | BLOCK | UNBLOCK
  | CANCEL_RESERVATION
  deriving DecidableEq

inductive StockFreezeStatus
  | ACTIVE | RELEASED
  deriving DecidableEq

inductive CycleCountPlanStatus
  | DRAFT | RELEASED | COUNTING | RECONCILING | APPROVED | CANCELLED
  deriving DecidableEq

inductive CycleCountTaskStatus
  | OPEN | IN_PROGRESS | SUBMITTED | APPROVED | REJECTED | CANCELLED
  deriving DecidableEq

inductive CycleCountScopeType
  | ALL | LOCATION | SKU | ZONE
  deriving DecidableEq

inductive ReplenishmentDemandStatus
  | OPEN | TASK_CREATED | COMPLETED | CANCELLED
  deriving DecidableEq

inductive SerialNumberStatus
  | EXPECTED | AVAILABLE | RESERVED | PICKED | PACKED | SHIPPED | BLOCKED | DAMAGED | RETURNED
  | SCRAPPED
  deriving DecidableEq

inductive WmsClientStatus
  | ACTIVE | INACTIVE | SUSPENDED
  deriving DecidableEq

inductive ScannerSessionStatus
  | ACTIVE | COMPLETED | CANCELLED
  deriving DecidableEq

inductive RfStepKey
  | SCAN_SOURCE_LOCATION | SCAN_DESTINATION_LOCATION | SCAN_ITEM_OR_HANDLING_UNIT
  | CONFIRM_QUANTITY | COMPLETE_TASK
  deriving DecidableEq

inductive RfExpectedScanType
  | LOCATION | SKU | HANDLING_UNIT | QUANTITY | NONE
  deriving DecidableEq

inductive ScannerWorkflowStepStatus
  | OPEN | COMPLETED
  deriving DecidableEq

/-- Resource types of the client ownership links. -/
inductive ResourceType
  | INBOUND_SHIPMENT | INBOUND_SHIPMENT_LINE | OUTBOUND_ORDER | OUTBOUND_ORDER_LINE
  | STOCK_QUANT | RESERVATION | WAREHOUSE_TASK | STOCK_MOVEMENT | SHIPMENT | SHIPMENT_PACKAGE
  | SKU_LOT | SERIAL_NUMBER
  deriving DecidableEq

/-- What the traceability metadata of a SKU or a line asks for. -/
structure TraceabilityPolicy where
  lotRequired : Bool
  serialRequired : Bool
  expiryRequired : Bool
  deriving DecidableEq

structure Warehouse where
  id : ℕ
  code : Text
  deriving DecidableEq

structure WarehouseLocation where
  id : ℕ
  warehouseId : ℕ
  code : Text
  barcode : Option Text
  zone : Option Text
  parentId : Option ℕ
  type : WarehouseLocationType
  isActive : Bool
  deriving DecidableEq

structure Sku where
  id : ℕ
  code : Text
  barcode : Option Text
  traceability : TraceabilityPolicy
  deriving DecidableEq

structure StockQuant where
  id : ℕ
  warehouseId : ℕ
  locationId : ℕ
  skuId : ℕ
  handlingUnitId : Option ℕ
  lotId : Option ℕ
  batch : Option Text
  expiryDate : Option ℕ
  externalReference : Option Text
  quantity : ℤ
  reservedQuantity : ℤ
  status : StockQuantStatus
  version : ℕ
  createdAt : ℕ
  deriving DecidableEq

structure Reservation where
  id : ℕ
  warehouseId : ℕ
  outboundOrderId : Option ℕ
  outboundOrderLineId : Option ℕ
  stockQuantId : ℕ
  skuId : ℕ
  quantity : ℤ
  status : ReservationStatus
  deriving DecidableEq

/-- `fulfillmentStatus` is the entry of that name in the order's metadata, if it is there
and names a status. -/
structure OutboundOrder where
  id : ℕ
  warehouseId : ℕ
  orderNumber : Text
  status : OutboundStatus
  fulfillmentStatus : Option FulfillmentStatus
  deriving DecidableEq

/-- `lotReference` is the first of `lotReference`, `lotCode` and `batch` in the line's
metadata. -/
structure OutboundOrderLine where
  id : ℕ
  orderId : ℕ
  lineNumber : Text
  sku : Text
  orderedQuantity : ℤ
  pickedQuantity : ℤ
  traceability : TraceabilityPolicy
  lotReference : Option Text
  deriving DecidableEq

/-- The entries of a task's metadata that a service reads back. -/
structure WarehouseTaskMetadata where
  orderReference : Option Text
  lineReference : Option Text
  stockQuantId : Option Text
  cycleCount : Bool
  deriving DecidableEq

structure WarehouseTask where
  id : ℕ
  warehouseId : ℕ
  type : WarehouseTaskType
  status : WarehouseTaskStatus
  skuId : Option ℕ
  fromLocationId : Option ℕ
  toLocationId : Option ℕ
  assignedUserId : Option ℕ
  outboundOrderId : Option ℕ
  outboundOrderLineId : Option ℕ
  reservationId : Option ℕ
  quantity : Option ℤ
  priority : ℤ
  handlingUnitCode : Option Text
  externalReference : Option Text
  metadata : WarehouseTaskMetadata
  deriving DecidableEq

def WarehouseTask.record (id warehouseId : ℕ) (type : WarehouseTaskType) : WarehouseTask :=
  ⟨id,warehouseId,type,.OPEN,none,none,none,none,none,none,none,none,100,none,none,
   ⟨none,none,none,false⟩⟩

inductive ReceivedDisposition
  | RECEIVED | DAMAGED
  deriving DecidableEq

/-- `quantityDelta` and the entries from `inboundShipmentId` on are those of the movement's
metadata. -/
structure StockMovement where
  id : ℕ
  warehouseId : ℕ
  skuId : ℕ
  stockQuantId : Option ℕ
  reservationId : Option ℕ
  taskId : Option ℕ
  type : StockMovementType
  quantity : ℤ
  fromLocationId : Option ℕ
  toLocationId : Option ℕ
  cycleCountTaskId : Option ℕ
  sourceSystem : Option Text
  idempotencyKey : Option IdempotencyKey
  quantityDelta : Option ℤ
  requestFingerprint : Option ℕ
  inboundShipmentId : Option ℕ
  inboundShipmentLineId : Option ℕ
  receivedDisposition : Option ReceivedDisposition
  qualityStatus : Option ReceiveQualityStatus
  qualityHeldQuantity : ℤ
  deriving DecidableEq

def StockMovement.record (id warehouseId skuId : ℕ) (type : StockMovementType) (quantity : ℤ) :
    StockMovement :=
  ⟨id,warehouseId,skuId,none,none,none,type,quantity,none,none,none,none,none,none,none,none,none,
   none,none,0⟩

structure StockFreeze where
  id : ℕ
  warehouseId : ℕ
  planId : Option ℕ
  locationId : Option ℕ
  skuId : Option ℕ
  stockQuantId : Option ℕ
  status : StockFreezeStatus
  reason : String
  deriving DecidableEq

structure CycleCountPlan where
  id : ℕ
  warehouseId : ℕ
  code : Text
  status : CycleCountPlanStatus
  scopeType : CycleCountScopeType
  scopeReference : Option Text
  deriving DecidableEq

structure CycleCountTask where
  id : ℕ
  warehouseId : ℕ
  planId : ℕ
  warehouseTaskId : Option ℕ
  locationId : ℕ
  skuId : Option ℕ
  stockQuantId : Option ℕ
  expectedQuantity : Option ℤ
  countedQuantity : Option ℤ
  varianceQuantity : Option ℤ
  status : CycleCountTaskStatus
  deriving DecidableEq

structure ReplenishmentDemand where
  id : ℕ
  warehouseId : ℕ
  skuId : ℕ
  pickLocationId : ℕ
  sourceLocationId : Option ℕ
  stockQuantId : Option ℕ
  warehouseTaskId : Option ℕ
  status : ReplenishmentDemandStatus
  requiredQuantity : ℤ
  deriving DecidableEq

structure SerialNumber where
  id : ℕ
  warehouseId : ℕ
  skuId : ℕ
  stockQuantId : Option ℕ
  serialNumber : Text
  status : SerialNumberStatus
  lastSeenLocationId : Option ℕ
  outboundOrderLineId : Option ℕ
  createdAt : ℕ
  deriving DecidableEq

structure InboundShipment where
  id : ℕ
  warehouseId : ℕ
  shipmentNumber : Text
  status : InboundStatus
  deriving DecidableEq

/-- The number of a line as it was announced, or the one that an unexpected receive gives. -/
inductive LineNumber
  | text (t : Text)
  | unexpected (n : ℕ)
  deriving DecidableEq

/-- `unexpectedSku` is the flag of that name in the line's metadata; `batch` is the first of
its `batch` and `lot` there, `lotReference` the first of its `lotReference` and `lotCode`. -/
structure InboundShipmentLine where
  id : ℕ
  shipmentId : ℕ
  lineNumber : LineNumber
  sku : Text
  expectedQuantity : ℤ
  receivedQuantity : ℤ
  unexpectedSku : Bool
  traceability : TraceabilityPolicy
  batch : Option Text
  lotReference : Option Text
  expiry : Option ℕ
  deriving DecidableEq

structure SkuLot where
  id : ℕ
  warehouseId : ℕ
  skuId : ℕ
  lotCode : Text
  status : LotStatus
  deriving DecidableEq

structure WmsException where
  id : ℕ
  warehouseId : ℕ
  code : ReceiveExceptionCode
  quantity : ℤ
  deriving DecidableEq

structure Shipment where
  id : ℕ
  warehouseId : ℕ
  outboundOrderId : Option ℕ
  shipmentNumber : Text
  status : ShipmentStatus
  deriving DecidableEq

structure PackageContent where
  outboundOrderLineId : Option ℕ
  sku : Text
  quantity : ℤ
  deriving DecidableEq

/-- A package with its contents, which are inserted with it and stay. -/
structure ShipmentPackage where
  id : ℕ
  warehouseId : ℕ
  shipmentId : ℕ
  outboundOrderId : Option ℕ
  contents : List PackageContent
  deriving DecidableEq

structure WmsClient where
  id : ℕ
  code : Text
  status : WmsClientStatus
  deriving DecidableEq

structure ClientWarehouse where
  clientId : ℕ
  warehouseId : ℕ
  isActive : Bool
  deriving DecidableEq

structure ClientResourceLink where
  warehouseId : ℕ
  resourceType : ResourceType
  resourceId : ℕ
  clientId : ℕ
  deriving DecidableEq

/-- The `owner_client_id` columns of all tables that mirror their owner, by resource. -/
structure OwnerClientId where
  resourceType : ResourceType
  resourceId : ℕ
  clientId : ℕ
  deriving DecidableEq

structure ScannerSession where
  id : ℕ
  warehouseId : ℕ
  taskId : Option ℕ
  status : ScannerSessionStatus
  deriving DecidableEq

/-- What a step waits for: the value and its alternatives. -/
structure RfExpectedScan where
  type : RfExpectedScanType
  candidates : List Text
  deriving DecidableEq

structure ScannerWorkflowStep where
  id : ℕ
  sessionId : ℕ
  stepKey : RfStepKey
  sequence : ℕ
  status : ScannerWorkflowStepStatus
  expected : RfExpectedScan
  deriving DecidableEq

structure User where
  id : ℕ
  email : Text
  deriving DecidableEq

structure HandlingUnit where
  id : ℕ
  warehouseId : ℕ
  code : Text
  deriving DecidableEq

structure ScannerDevice where
  id : ℕ
  warehouseId : ℕ
  code : Text
  deriving DecidableEq

/-- The `data` of an update of one numeric column. -/
inductive Change
  | keep
  | set (n : ℤ)
  | increment (n : ℤ)
  | decrement (n : ℤ)
  deriving DecidableEq

def Change.apply : Change → ℤ → ℤ
  | .keep, n => n
  | .set m, _ => m
  | .increment m, n => n+m
  | .decrement m, n => n-m

@[simp] theorem Change.apply_keep (n : ℤ) : Change.keep.apply n=n := rfl
@[simp] theorem Change.apply_set (m n : ℤ) : (Change.set m).apply n=m := rfl
@[simp] theorem Change.apply_increment (m n : ℤ) : (Change.increment m).apply n=n+m := rfl
@[simp] theorem Change.apply_decrement (m n : ℤ) : (Change.decrement m).apply n=n-m := rfl

structure StockQuantUpdate where
  quantity : Change := .keep
  reservedQuantity : Change := .keep
  version : ℕ := 0

def StockQuantUpdate.patch (u : StockQuantUpdate) (q : StockQuant) : StockQuant :=
  {q with quantity := u.quantity.apply q.quantity,
          reservedQuantity := u.reservedQuantity.apply q.reservedQuantity,
          version := q.version+u.version}

structure ReservationUpdate where
  quantity : Change := .keep
  status : Option ReservationStatus := none

def ReservationUpdate.patch (u : ReservationUpdate) (r : Reservation) : Reservation :=
  {r with quantity := u.quantity.apply r.quantity, status := u.status.getD r.status}

structure OutboundOrderUpdate where
  status : OutboundStatus
  fulfillmentStatus : Option (Option FulfillmentStatus) := none

def OutboundOrderUpdate.patch (u : OutboundOrderUpdate) (o : OutboundOrder) : OutboundOrder :=
  {o with status := u.status, fulfillmentStatus := u.fulfillmentStatus.getD o.fulfillmentStatus}

structure WarehouseTaskUpdate where
  status : WarehouseTaskStatus
  skuId : Option ℕ := none
  fromLocationId : Option ℕ := none
  toLocationId : Option ℕ := none
  assignedUserId : Option ℕ := none
  quantity : Option ℤ := none
  handlingUnitCode : Option Text := none
  metadata : Option WarehouseTaskMetadata := none

def WarehouseTaskUpdate.patch (u : WarehouseTaskUpdate) (t : WarehouseTask) : WarehouseTask :=
  {t with status := u.status, skuId := u.skuId <|> t.skuId,
          fromLocationId := u.fromLocationId <|> t.fromLocationId,
          toLocationId := u.toLocationId <|> t.toLocationId,
          assignedUserId := u.assignedUserId <|> t.assignedUserId,
          quantity := u.quantity <|> t.quantity,
          handlingUnitCode := u.handlingUnitCode <|> t.handlingUnitCode,
          metadata := u.metadata.getD t.metadata}

structure CycleCountTaskUpdate where
  status : CycleCountTaskStatus
  countedQuantity : Option ℤ := none
  varianceQuantity : Option ℤ := none

def CycleCountTaskUpdate.patch (u : CycleCountTaskUpdate) (t : CycleCountTask) : CycleCountTask :=
  {t with status := u.status, countedQuantity := u.countedQuantity <|> t.countedQuantity,
          varianceQuantity := u.varianceQuantity <|> t.varianceQuantity}

structure SerialNumberUpdate where
  status : SerialNumberStatus
  stockQuantId : Option ℕ
  lastSeenLocationId : Option ℕ
  outboundOrderLineId : Option ℕ

def SerialNumberUpdate.patch (u : SerialNumberUpdate) (s : SerialNumber) : SerialNumber :=
  {s with status := u.status, stockQuantId := u.stockQuantId,
          lastSeenLocationId := u.lastSeenLocationId, outboundOrderLineId := u.outboundOrderLineId}

inductive TableName
  | warehouses | warehouseLocations | skus | stockQuants | reservations | outboundOrders
  | outboundOrderLines | warehouseTasks | stockMovements | stockFreezes | cycleCountPlans
  | cycleCountTasks | replenishmentDemands | serialNumbers | wmsClients | clientWarehouses
  | clientResourceLinks | ownerClientIds | scannerSessions | scannerWorkflowSteps
  | inboundShipments | inboundShipmentLines | skuLots | wmsExceptions | shipments
  | shipmentPackages | users | handlingUnits | scannerDevices
  deriving DecidableEq

namespace TableName

abbrev Row : TableName → Type
  | warehouses => Warehouse
  | warehouseLocations => WarehouseLocation
  | skus => Sku
  | stockQuants => StockQuant
  | reservations => Reservation
  | outboundOrders => OutboundOrder
  | outboundOrderLines => OutboundOrderLine
  | warehouseTasks => WarehouseTask
  | stockMovements => StockMovement
  | stockFreezes => StockFreeze
  | cycleCountPlans => CycleCountPlan
  | cycleCountTasks => CycleCountTask
  | replenishmentDemands => ReplenishmentDemand
  | serialNumbers => SerialNumber
  | wmsClients => WmsClient
  | clientWarehouses => ClientWarehouse
  | clientResourceLinks => ClientResourceLink
  | ownerClientIds => OwnerClientId
  | scannerSessions => ScannerSession
  | scannerWorkflowSteps => ScannerWorkflowStep
  | inboundShipments => InboundShipment
  | inboundShipmentLines => InboundShipmentLine
  | skuLots => SkuLot
  | wmsExceptions => WmsException
  | shipments => Shipment
  | shipmentPackages => ShipmentPackage
  | users => User
  | handlingUnits => HandlingUnit
  | scannerDevices => ScannerDevice

/-- The primary key, or the unique key that the services look a link up by. -/
abbrev Id : TableName → Type
  | clientWarehouses => ℕ × ℕ
  | clientResourceLinks => ℕ × ResourceType × ℕ
  | ownerClientIds => ResourceType × ℕ
  | _ => ℕ

abbrev Patch : TableName → Type
  | stockQuants => StockQuantUpdate
  | reservations => ReservationUpdate
  | outboundOrders => OutboundOrderUpdate
  | outboundOrderLines => Change
  | warehouseTasks => WarehouseTaskUpdate
  | stockFreezes => StockFreezeStatus
  | cycleCountPlans => CycleCountPlanStatus
  | cycleCountTasks => CycleCountTaskUpdate
  | replenishmentDemands => ReplenishmentDemandStatus
  | serialNumbers => SerialNumberUpdate
  | clientResourceLinks => ℕ
  | ownerClientIds => ℕ
  | scannerSessions => ScannerSessionStatus
  | scannerWorkflowSteps => ScannerWorkflowStepStatus
  | inboundShipments => InboundStatus
  | inboundShipmentLines => Change
  | _ => Empty

def key : {t : TableName} → t.Row → t.Id
  | warehouses, r => r.id
  | warehouseLocations, r => r.id
  | skus, r => r.id
  | stockQuants, r => r.id
  | reservations, r => r.id
  | outboundOrders, r => r.id
  | outboundOrderLines, r => r.id
  | warehouseTasks, r => r.id
  | stockMovements, r => r.id
  | stockFreezes, r => r.id
  | cycleCountPlans, r => r.id
  | cycleCountTasks, r => r.id
  | replenishmentDemands, r => r.id
  | serialNumbers, r => r.id
  | wmsClients, r => r.id
  | clientWarehouses, r => (r.clientId,r.warehouseId)
  | clientResourceLinks, r => (r.warehouseId,r.resourceType,r.resourceId)
  | ownerClientIds, r => (r.resourceType,r.resourceId)
  | scannerSessions, r => r.id
  | scannerWorkflowSteps, r => r.id
  | inboundShipments, r => r.id
  | inboundShipmentLines, r => r.id
  | skuLots, r => r.id
  | wmsExceptions, r => r.id
  | shipments, r => r.id
  | shipmentPackages, r => r.id
  | users, r => r.id
  | handlingUnits, r => r.id
  | scannerDevices, r => r.id

/-- The columns that no update touches; the others are blanked. -/
def fixed : {t : TableName} → t.Row → t.Row
  | stockQuants, q => {q with quantity := 0, reservedQuantity := 0, version := 0}
  | reservations, r => {r with quantity := 0, status := .ACTIVE}
  | outboundOrders, o => {o with status := .DRAFT, fulfillmentStatus := none}
  | outboundOrderLines, l => {l with pickedQuantity := 0}
  | warehouseTasks, t =>
    {t with status := .OPEN, skuId := none, fromLocationId := none, toLocationId := none,
            assignedUserId := none, quantity := none, handlingUnitCode := none,
            metadata := ⟨none,none,none,false⟩}
  | stockFreezes, f => {f with status := .ACTIVE}
  | cycleCountPlans, p => {p with status := .DRAFT}
  | cycleCountTasks, t =>
    {t with status := .OPEN, countedQuantity := none, varianceQuantity := none}
  | replenishmentDemands, d => {d with status := .OPEN}
  | serialNumbers, s => {s with status := .EXPECTED, stockQuantId := none,
                                lastSeenLocationId := none, outboundOrderLineId := none}
  | clientResourceLinks, l => {l with clientId := 0}
  | ownerClientIds, o => {o with clientId := 0}
  | scannerSessions, s => {s with status := .ACTIVE}
  | scannerWorkflowSteps, s => {s with status := .OPEN}
  | warehouses, r => r
  | warehouseLocations, r => r
  | skus, r => r
  | stockMovements, r => r
  | wmsClients, r => r
  | clientWarehouses, r => r
  | inboundShipments, s => {s with status := .CREATED}
  | inboundShipmentLines, l => {l with receivedQuantity := 0}
  | skuLots, r => r
  | wmsExceptions, r => r
  | shipments, r => r
  | shipmentPackages, r => r
  | users, r => r
  | handlingUnits, r => r
  | scannerDevices, r => r

def patch : {t : TableName} → t.Patch → t.Row → t.Row
  | stockQuants, u, q => u.patch q
  | reservations, u, r => u.patch r
  | outboundOrders, u, o => u.patch o
  | outboundOrderLines, u, l => {l with pickedQuantity := u.apply l.pickedQuantity}
  | warehouseTasks, u, t => u.patch t
  | stockFreezes, u, f => {f with status := u}
  | cycleCountPlans, u, p => {p with status := u}
  | cycleCountTasks, u, t => u.patch t
  | replenishmentDemands, u, d => {d with status := u}
  | serialNumbers, u, s => u.patch s
  | clientResourceLinks, u, l => {l with clientId := u}
  | ownerClientIds, u, o => {o with clientId := u}
  | scannerSessions, u, s => {s with status := u}
  | scannerWorkflowSteps, u, s => {s with status := u}
  | inboundShipments, u, s => {s with status := u}
  | inboundShipmentLines, u, l => {l with receivedQuantity := u.apply l.receivedQuantity}

/-- The CHECK constraints of the guardrails migration. -/
def check : {t : TableName} → t.Row → Bool
  | stockQuants, q => 0≤q.quantity && 0≤q.reservedQuantity && q.reservedQuantity≤q.quantity
  | reservations, r => 0 < r.quantity
  | stockMovements, m => 0 < m.quantity && (m.sourceSystem.isSome==m.idempotencyKey.isSome)
  | warehouseTasks, t => t.quantity.all (0<·)
  | _, _ => true

end TableName

theorem nonneg_of_none : ∀ n∈(none : Option ℤ), 0≤n := nofun

theorem pos_of_none : ∀ n∈(none : Option ℤ), 0 < n := nofun

/-- The identity of a stock quant. -/
structure StockQuantIdentity where
  warehouseId : ℕ
  locationId : ℕ
  skuId : ℕ
  status : StockQuantStatus
  ownerClientId : Option ℕ
  lotId : Option ℕ
  batch : Option Text
  expiry : Option ℕ
  handlingUnitId : Option ℕ
  deriving DecidableEq

/-- What an advisory lock or an entry of a unique index stands for. -/
inductive WmsLock
  | quantIdentity (i : StockQuantIdentity)
  | movementKey (sourceSystem : Text) (idempotencyKey : IdempotencyKey)
  deriving DecidableEq

namespace TableName

/-- The unique indexes besides the keys: the movements' source system and idempotency key. -/
def unique : {t : TableName} → t.Row → Option WmsLock
  | stockMovements, m => m.sourceSystem.bind fun s => m.idempotencyKey.map (.movementKey s)
  | _, _ => none

/-- A package of an order is inserted under the order's lock. -/
def parents : {t : TableName} → t.Row → List (Σ t : TableName, t.Id)
  | shipmentPackages, p => p.outboundOrderId.toList.map fun o => ⟨outboundOrders,o⟩
  | _, _ => []

end TableName

abbrev wms : Schema where
  Name := TableName
  Row := TableName.Row
  Id := TableName.Id
  Patch := TableName.Patch
  Advisory := WmsLock
  Err := HttpException
  duplicate := .uniqueViolation
  key := TableName.key
  fixed := TableName.fixed
  patch := TableName.patch
  check := TableName.check
  parents := TableName.parents
  unique := TableName.unique
  nameEq := inferInstance
  idEq t := match t with
    | .clientWarehouses => inferInstanceAs (DecidableEq (ℕ × ℕ))
    | .clientResourceLinks => inferInstanceAs (DecidableEq (ℕ × ResourceType × ℕ))
    | .ownerClientIds => inferInstanceAs (DecidableEq (ResourceType × ℕ))
    | .warehouses | .warehouseLocations | .skus | .stockQuants | .reservations
    | .outboundOrders | .outboundOrderLines | .warehouseTasks | .stockMovements
    | .stockFreezes | .cycleCountPlans | .cycleCountTasks | .replenishmentDemands
    | .serialNumbers | .wmsClients | .scannerSessions | .scannerWorkflowSteps
    | .inboundShipments | .inboundShipmentLines | .skuLots | .wmsExceptions | .shipments
    | .shipmentPackages | .users | .handlingUnits | .scannerDevices =>
      inferInstanceAs (DecidableEq ℕ)
  advisoryEq := inferInstance
  key_patch := by
    intro t p r
    cases t <;> first | rfl | cases p
  fixed_patch := by
    intro t p r
    cases t <;> first | rfl | cases p
  parents_patch := by
    intro t p r
    cases t <;> first | rfl | cases p
  unique_patch := by
    intro t p r
    cases t <;> first | rfl | cases p

instance (t : TableName) : DecidableEq t.Id := wms.idEq t

instance : (t : TableName) → DecidableEq t.Row
  | .warehouses => inferInstanceAs (DecidableEq Warehouse)
  | .warehouseLocations => inferInstanceAs (DecidableEq WarehouseLocation)
  | .skus => inferInstanceAs (DecidableEq Sku)
  | .stockQuants => inferInstanceAs (DecidableEq StockQuant)
  | .reservations => inferInstanceAs (DecidableEq Reservation)
  | .outboundOrders => inferInstanceAs (DecidableEq OutboundOrder)
  | .outboundOrderLines => inferInstanceAs (DecidableEq OutboundOrderLine)
  | .warehouseTasks => inferInstanceAs (DecidableEq WarehouseTask)
  | .stockMovements => inferInstanceAs (DecidableEq StockMovement)
  | .stockFreezes => inferInstanceAs (DecidableEq StockFreeze)
  | .cycleCountPlans => inferInstanceAs (DecidableEq CycleCountPlan)
  | .cycleCountTasks => inferInstanceAs (DecidableEq CycleCountTask)
  | .replenishmentDemands => inferInstanceAs (DecidableEq ReplenishmentDemand)
  | .serialNumbers => inferInstanceAs (DecidableEq SerialNumber)
  | .wmsClients => inferInstanceAs (DecidableEq WmsClient)
  | .clientWarehouses => inferInstanceAs (DecidableEq ClientWarehouse)
  | .clientResourceLinks => inferInstanceAs (DecidableEq ClientResourceLink)
  | .ownerClientIds => inferInstanceAs (DecidableEq OwnerClientId)
  | .scannerSessions => inferInstanceAs (DecidableEq ScannerSession)
  | .scannerWorkflowSteps => inferInstanceAs (DecidableEq ScannerWorkflowStep)
  | .inboundShipments => inferInstanceAs (DecidableEq InboundShipment)
  | .inboundShipmentLines => inferInstanceAs (DecidableEq InboundShipmentLine)
  | .skuLots => inferInstanceAs (DecidableEq SkuLot)
  | .wmsExceptions => inferInstanceAs (DecidableEq WmsException)
  | .shipments => inferInstanceAs (DecidableEq Shipment)
  | .shipmentPackages => inferInstanceAs (DecidableEq ShipmentPackage)
  | .users => inferInstanceAs (DecidableEq User)
  | .handlingUnits => inferInstanceAs (DecidableEq HandlingUnit)
  | .scannerDevices => inferInstanceAs (DecidableEq ScannerDevice)

/-- The warehouse database and its transactions. -/
abbrev WmsDb : Type := Db wms

abbrev Wms (α : Type) : Type := Tx wms α

abbrev WmsCtx : Type := Ctx (interface wms) WmsDb

abbrev store : Store (interface wms) WmsDb := database wms

/-- `v` with the statements in order. -/
abbrev after (ws : List (Statement wms)) (v : WmsDb) : WmsDb := store.applyAll ws v

def emptyDb : WmsDb := fun _ => .empty

end AardvarkWms
