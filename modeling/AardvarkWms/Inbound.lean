import AardvarkWms.Inventory
import AardvarkWms.Allocation
import AardvarkWms.Traceability

/-! Receive against an inbound shipment: `src/inbound/inbound.service.ts`. -/
namespace AardvarkWms.Inbound

open Transactions Transactions.Txn Relational

instance : ToString LotStatus where
  toString
    | .ACTIVE => "ACTIVE"
    | .HOLD => "HOLD"
    | .QUARANTINED => "QUARANTINED"
    | .RELEASED => "RELEASED"
    | .EXPIRED => "EXPIRED"
    | .RECALLED => "RECALLED"
    | .CONSUMED => "CONSUMED"
    | .ARCHIVED => "ARCHIVED"

instance : ToString SerialNumberStatus where
  toString
    | .EXPECTED => "EXPECTED"
    | .AVAILABLE => "AVAILABLE"
    | .RESERVED => "RESERVED"
    | .PICKED => "PICKED"
    | .PACKED => "PACKED"
    | .SHIPPED => "SHIPPED"
    | .BLOCKED => "BLOCKED"
    | .DAMAGED => "DAMAGED"
    | .RETURNED => "RETURNED"
    | .SCRAPPED => "SCRAPPED"

/-- `lineReference` is a line's number or, where it reads as one, its uuid. -/
structure ReceiveInboundLineDto where
  lineReference : Option LineNumber := none
  sku : Option Text := none
  quantity : ℤ
  damagedQuantity : Option ℤ := none
  damagedStockStatus : Option StockQuantStatus := none
  qualityStatus : Option ReceiveQualityStatus := none
  locationReference : Option Text := none
  putawayLocationReference : Option Text := none
  batch : Option Text := none
  expiry : Option ℕ := none
  lotReference : Option Text := none
  serialNumbers : List Text := []
  damagedSerialNumbers : List Text := []
  idempotencyKey : Option IdempotencyKey := none
  createPutawayTask : Option Bool := none
  allowUnexpectedSku : Bool := false
  allowOverReceive : Bool := false
  completeLine : Bool := false
  ownerClientReference : Option Text := none
  traceability : TraceabilityPolicy := ⟨false,false,false⟩
  quantity_nonneg : 0≤quantity
  damaged_nonneg : ∀ n∈damagedQuantity, 0≤n

structure InboundReceiveQualityCheck where
  status : ReceiveQualityStatus
  heldQuantity : ℤ

/-- Lines, quants and tasks by their ids. -/
structure InboundReceiveResponse where
  line : ℕ
  putawayTask : Option ℕ
  quants : List ℕ
  movements : List StockMovement
  receivedQuantity : ℤ
  damagedQuantity : ℤ
  qualityHeldQuantity : ℤ
  deriving DecidableEq

def toReceiveQualityCheck (dto : ReceiveInboundLineDto) (receivedQuantity : ℤ) :
    Option InboundReceiveQualityCheck :=
  dto.qualityStatus.map fun s => ⟨s,if s=.PASSED then 0 else receivedQuantity⟩

def heldQuantity (check : Option InboundReceiveQualityCheck) : ℤ :=
  (check.map (·.heldQuantity)).getD 0

/-- A movement that says nothing of its disposition counts as damaged. -/
def receiveDisposition (m : StockMovement) : ReceivedDisposition :=
  m.receivedDisposition.getD .DAMAGED

def toIdempotentReceiveQualityCheck (movements : List StockMovement) :
    Option InboundReceiveQualityCheck :=
  (movements.findSome? (·.qualityStatus)).map fun s =>
    ⟨s,((movements.filter (·.qualityStatus=some s)).map (·.qualityHeldQuantity)).sum⟩

def appendIdempotencySuffix (key : IdempotencyKey) (suffix : String) : IdempotencyKey :=
  key++[':']++suffix.toList

/-- A key that starts with another one and a colon. -/
def startsWithKey (key other : IdempotencyKey) : Bool := (key++[':']).isPrefixOf other

def receiveMovementWhere (warehouseId : ℕ) (key : IdempotencyKey) (m : StockMovement) : Bool :=
  m.warehouseId=warehouseId && m.sourceSystem=some wmsSourceSystem && m.idempotencyKey=some key

def siblingMovementWhere (warehouseId : ℕ) (key : IdempotencyKey) (m : StockMovement) : Bool :=
  m.warehouseId=warehouseId && m.sourceSystem=some wmsSourceSystem
  && m.idempotencyKey.any (startsWithKey key)

def resolveShipment (warehouseId : ℕ) (reference : Text) : Wms InboundShipment := do
  let shipment ← findFirst (D := wms) .inboundShipments fun s =>
    s.warehouseId=warehouseId && reference.names s.id s.shipmentNumber
  demand shipment (.notFound "Inbound shipment was not found")

def findLines (shipmentId : ℕ) : Wms (List InboundShipmentLine) :=
  findMany (D := wms) .inboundShipmentLines (·.shipmentId=shipmentId)

def resolveWarehouseTask (warehouseId taskId : ℕ) : Wms WarehouseTask := do
  let task ← findWhere (D := wms) .warehouseTasks taskId (·.warehouseId=warehouseId)
  demand task (.notFound "Warehouse task was not found")

/-- Has the request been processed before? The movements are those with the key, and those
whose keys start with it, in the order they came. -/
def findIdempotentReceive (warehouseId : ℕ) (idempotencyKey : Option IdempotencyKey) :
    Wms (Option InboundReceiveResponse) :=
  match idempotencyKey with
  | none => pure none
  | some key => do
    match ← findFirst (D := wms) .stockMovements (receiveMovementWhere warehouseId key) with
    | none => return none
    | some movement =>
      require (movement.type=.RECEIVE)
        (.conflict "Idempotency key has already been used for another movement type")
      let missing := HttpException.conflict
        "Idempotent inbound receive movement is missing references"
      let shipmentId ← demand movement.inboundShipmentId missing
      let lineId ← demand movement.inboundShipmentLineId missing
      require (movement.stockQuantId.isSome=true) missing
      let siblings ← findMany (D := wms) .stockMovements (siblingMovementWhere warehouseId key)
      let movements := movement::siblings
      let shipment ← resolveShipment warehouseId (.uuid shipmentId)
      let lines ← findLines shipment.id
      let quants ← each (movements.filterMap (·.stockQuantId)) (resolveStockQuant warehouseId)
      let task ← match movement.taskId with
        | none => pure none
        | some taskId => do
          let task ← resolveWarehouseTask warehouseId taskId
          pure (some task.id)
      require (lines.any (·.id=lineId)=true) (.notFound "Inbound shipment line was not found")
      let quantityOf := fun (d : ReceivedDisposition) =>
        ((movements.filter (receiveDisposition ·=d)).map (·.quantity)).sum
      return some
        {line := lineId, putawayTask := task, quants := quants.map (·.id),
         movements := movements, receivedQuantity := quantityOf .RECEIVED,
         damagedQuantity := quantityOf .DAMAGED,
         qualityHeldQuantity := heldQuantity (toIdempotentReceiveQualityCheck movements)}

def resolveReceiveOwner (warehouseId shipmentId : ℕ) (ownerClientReference : Option Text) :
    Wms (Option WmsClient) :=
  match ownerClientReference with
  | none => findResourceOwner warehouseId (.INBOUND_SHIPMENT,some shipmentId)
  | some reference => do
    let found ← resolveOwnerClient warehouseId (some reference)
    let owner ← demand found (.conflict "Owner client reference is required.")
    linkResourceToResolvedClient warehouseId owner.id (.INBOUND_SHIPMENT,some shipmentId)
    return some owner

def lineNamed (reference : LineNumber) (l : InboundShipmentLine) : Bool :=
  l.lineNumber=reference || reference=.text (.uuid l.id)

def LineNumber.isUnexpected : LineNumber → Bool
  | .unexpected _ => true
  | .text _ => false

/-- The first number after as many as there are that is not used yet. -/
def nextUnexpectedLineNumber (lines : List InboundShipmentLine) : LineNumber :=
  let used := (lines.filter fun l => LineNumber.isUnexpected l.lineNumber).length
  .unexpected (((List.range' (used+1) (lines.length+1)).find? fun n =>
    lines.all (·.lineNumber≠.unexpected n)).getD (used+1))

def resolveSku (reference : Text) : Wms Sku := do
  let sku ← findFirst (D := wms) .skus fun s =>
    reference.names s.id s.code || s.barcode=some reference
  demand sku (.notFound "SKU was not found")

def resolveLine (shipmentId : ℕ) (reference : LineNumber) : Wms InboundShipmentLine := do
  let line ← findFirst (D := wms) .inboundShipmentLines fun l =>
    l.shipmentId=shipmentId && lineNamed reference l
  demand line (.notFound "Inbound shipment line was not found")

/-- The line, whether it is unexpected, and the shipment's lines with it. -/
structure ReceiveLineResolution where
  line : InboundShipmentLine
  isUnexpected : Bool
  lines : List InboundShipmentLine

def resolveReceiveLine (shipmentId : ℕ) (lines : List InboundShipmentLine)
    (dto : ReceiveInboundLineDto) : Wms ReceiveLineResolution :=
  match dto.lineReference with
  | some reference => do
    let line ← resolveLine shipmentId reference
    return ⟨line,line.unexpectedSku,lines⟩
  | none => do
    require (dto.allowUnexpectedSku=true)
      (.conflict "lineReference is required unless allowUnexpectedSku is true")
    let reference ← demand dto.sku (.conflict "sku is required for unexpected SKU receiving")
    let sku ← resolveSku reference
    let id ← fresh
    let line : InboundShipmentLine :=
      ⟨id,shipmentId,nextUnexpectedLineNumber lines,sku.code,0,0,true,dto.traceability,none,none,none⟩
    insert (D := wms) .inboundShipmentLines line
    return ⟨line,true,lines++[line]⟩

def assertReceiveSerialDistribution (goodQuantity damagedQuantity : ℤ)
    (goodSerialNumbers damagedSerialNumbers : List Text) (policy : TraceabilityPolicy) :
    Wms Unit :=
  if policy.serialRequired=false ∧ goodSerialNumbers=[] ∧ damagedSerialNumbers=[] then pure ()
  else do
    let good := goodSerialNumbers.length
    let damaged := damagedSerialNumbers.length
    let goods := if goodQuantity=1 then "" else "s"
    let damages := if damagedQuantity=1 then "" else "s"
    require ((good : ℤ)=goodQuantity) (.conflict
      s!"Inbound receive requires {goodQuantity} good serial number{goods}; received {good}")
    require ((damaged : ℤ)=damagedQuantity) (.conflict
      s!"Inbound receive requires {damagedQuantity} damaged serial number{damages}; received {damaged}")

def resolveOrCreateReceiveLot (warehouseId skuId : ℕ) (lotReference : Option Text)
    (qualityStatus : Option ReceiveQualityStatus) : Wms (Option SkuLot) :=
  match lotReference with
  | none => pure none
  | some lotCode => do
    match ← findFirst (D := wms) .skuLots fun l =>
        l.warehouseId=warehouseId && l.skuId=skuId && l.lotCode=lotCode with
    | some lot =>
      let status := lot.status
      require (¬[LotStatus.RECALLED,.CONSUMED,.ARCHIVED].contains status=true)
        (.conflict s!"Lot {lotCode} cannot receive stock while status is {status}")
      return some lot
    | none => do
      let id ← fresh
      let held := qualityStatus=some .HOLD || qualityStatus=some .FAILED
      let lot : SkuLot := ⟨id,warehouseId,skuId,lotCode,if held then .HOLD else .ACTIVE⟩
      insert (D := wms) .skuLots lot
      return some lot

/-- The exceptions of a receive with their quantities, in the order they are created. -/
def receiveExceptions (isUnexpected : Bool) (received overReceived underReceived damaged : ℤ)
    (check : Option InboundReceiveQualityCheck) : List (ReceiveExceptionCode × ℤ) :=
  (if isUnexpected then [(.UNEXPECTED_SKU_RECEIVED,received)] else [])
  ++(if 0 < overReceived then [(.OVER_RECEIVE,overReceived)] else [])
  ++(if 0 < underReceived then [(.UNDER_RECEIVE,underReceived)] else [])
  ++(if 0 < damaged then [(.DAMAGED_GOODS_RECEIVED,damaged)] else [])
  ++(match check with
    | none => []
    | some q => if q.heldQuantity=0 then [] else
      [(if q.status=.FAILED then .QUALITY_CHECK_FAILED else .QUALITY_CHECK_HOLD,q.heldQuantity)])

def createReceiveException (warehouseId : ℕ) (e : ReceiveExceptionCode × ℤ) : Wms Unit := do
  let id ← fresh
  insert (D := wms) .wmsExceptions ⟨id,warehouseId,e.1,e.2⟩

def incrementOrCreateReceiveQuant (i : StockQuantIdentity) (quantity : ℤ) : Wms StockQuant :=
  incrementOrCreateQuant i quantity

/-- A quant for a part of what is received, if there is any of it. -/
def receivePart (i : StockQuantIdentity) (quantity : ℤ) : Wms (Option StockQuant) :=
  if 0 < quantity then do
    let quant ← incrementOrCreateReceiveQuant i quantity
    return some quant
  else pure none

/-- Locations that may be suggested: active leaves for storage or picking, elsewhere. -/
def storageLocation (warehouseId sourceLocationId : ℕ) (locations : List WarehouseLocation)
    (l : WarehouseLocation) : Bool :=
  l.warehouseId=warehouseId && l.isActive && (l.type=.STORAGE || l.type=.PICKING)
  && !locations.any (·.parentId=some l.id) && l.id≠sourceLocationId

def consolidationQuant (warehouseId skuId sourceLocationId : ℕ) (quant q : StockQuant) : Bool :=
  q.warehouseId=warehouseId && q.skuId=skuId && q.status=.AVAILABLE && 0<q.quantity
  && q.batch=quant.batch && q.expiryDate=quant.expiryDate && q.locationId≠sourceLocationId

/-- Where the SKU lies already, the fullest quant first; else the first empty location by
code; else the first one. -/
def findSuggestedPutawayLocation (warehouseId sourceLocationId skuId : ℕ) (quant : StockQuant) :
    Wms ℕ := do
  let quants ← findMany (D := wms) .stockQuants
    (consolidationQuant warehouseId skuId sourceLocationId quant)
  match (quants.insertionSort fun a b => b.quantity≤a.quantity).head? with
  | some q => return q.locationId
  | none =>
    let locations ← findMany (D := wms) .warehouseLocations fun _ => true
    let filled ← findMany (D := wms) .stockQuants (0<·.quantity)
    let storage := (locations.filter (storageLocation warehouseId sourceLocationId locations)).insertionSort
      fun a b => a.code.le b.code=true
    let empty := storage.find? fun l => !filled.any (·.locationId=l.id)
    let location ← demand (empty <|> storage.head?)
      (.notFound "No active storage location is available for putaway")
    return location.id

def putawayTarget (warehouseId skuId sourceLocationId : ℕ) (quant : StockQuant)
    (putawayLocationReference : Option Text) : Wms ℕ :=
  match putawayLocationReference with
  | some reference => do
    let target ← resolveLocation warehouseId reference
    return target.id
  | none => findSuggestedPutawayLocation warehouseId sourceLocationId skuId quant

def receivePutawayTask (id warehouseId skuId sourceLocationId targetId : ℕ) (quant : StockQuant)
    (quantity : ℤ) : WarehouseTask :=
  {WarehouseTask.record id warehouseId .PUTAWAY with
    fromLocationId := some sourceLocationId, toLocationId := some targetId,
    skuId := some skuId, quantity := some quantity,
    metadata := ⟨none,none,some (.uuid quant.id),false⟩}

def createPutawayTaskForReceive (warehouseId skuId sourceLocationId : ℕ) (quant : StockQuant)
    (quantity : ℤ) (putawayLocationReference : Option Text) : Wms (Option ℕ) := do
  let targetId ← putawayTarget warehouseId skuId sourceLocationId quant putawayLocationReference
  require (targetId≠sourceLocationId)
    (.conflict "Putaway target location must be different from receiving location")
  let id ← fresh
  insert (D := wms) .warehouseTasks
    (receivePutawayTask id warehouseId skuId sourceLocationId targetId quant quantity)
  return some id

structure ReceiveMovementInput where
  warehouseId : ℕ
  shipmentId : ℕ
  lineId : ℕ
  quant : StockQuant
  putawayTask : Option ℕ
  receivingLocationId : ℕ
  quantity : ℤ
  idempotencyKey : Option IdempotencyKey
  disposition : ReceivedDisposition
  check : Option InboundReceiveQualityCheck

def receiveMovement (id : ℕ) (input : ReceiveMovementInput) : StockMovement :=
  {StockMovement.record id input.warehouseId input.quant.skuId .RECEIVE input.quantity with
    stockQuantId := some input.quant.id, taskId := input.putawayTask,
    toLocationId := some input.receivingLocationId,
    sourceSystem := input.idempotencyKey.map fun _ => wmsSourceSystem,
    idempotencyKey := input.idempotencyKey, quantityDelta := some input.quantity,
    inboundShipmentId := some input.shipmentId, inboundShipmentLineId := some input.lineId,
    receivedDisposition := some input.disposition,
    qualityStatus := input.check.map (·.status),
    qualityHeldQuantity := heldQuantity input.check}

def createReceiveMovement (input : ReceiveMovementInput) : Wms StockMovement := do
  let id ← fresh
  insert (D := wms) .stockMovements (receiveMovement id input)
  return receiveMovement id input

/-- The good and the damaged part share all but quant, quantity and disposition. -/
def createPartMovement (input : StockQuant → ReceiveMovementInput) (quant : Option StockQuant) :
    Wms (Option StockMovement) :=
  match quant with
  | none => pure none
  | some quant => do
    let movement ← createReceiveMovement (input quant)
    return some movement

def recordReceiveSerial (warehouseId skuId receivingLocationId : ℕ) (quant : Option StockQuant)
    (status : SerialNumberStatus) (serialNumber : Text) : Wms ℕ := do
  match ← findFirst (D := wms) .serialNumbers fun s =>
      s.warehouseId=warehouseId && s.serialNumber=serialNumber with
  | some existing =>
    let current := existing.status
    require (existing.skuId=skuId)
      (.conflict s!"Serial {serialNumber} already belongs to another SKU")
    require (current=.EXPECTED)
      (.conflict s!"Serial {serialNumber} already exists with status {current}")
    update (D := wms) .serialNumbers existing.id
      {status := status, stockQuantId := quant.map (·.id),
       lastSeenLocationId := some receivingLocationId,
       outboundOrderLineId := existing.outboundOrderLineId}
    return existing.id
  | none => do
    let id ← fresh
    let createdAt ← fresh
    insert (D := wms) .serialNumbers ⟨id,warehouseId,skuId,quant.map (·.id),serialNumber,status,
      some receivingLocationId,none,createdAt⟩
    return id

def recordReceiveSerials (warehouseId skuId receivingLocationId : ℕ)
    (goodQuant damagedQuant : Option StockQuant) (goodSerialNumbers damagedSerialNumbers : List Text) :
    Wms (List ℕ) := do
  let good ← each goodSerialNumbers (recordReceiveSerial warehouseId skuId receivingLocationId
    goodQuant (if goodQuant.any (·.status=.QUARANTINE) then .BLOCKED else .AVAILABLE))
  let damaged ← each damagedSerialNumbers (recordReceiveSerial warehouseId skuId
    receivingLocationId damagedQuant
    (if damagedQuant.any (·.status=.DAMAGED) then .DAMAGED else .BLOCKED))
  return good++damaged

def resolveReceiveStatus (lines : List InboundShipmentLine) (lineId : ℕ) (quantity : ℤ) :
    InboundStatus :=
  if lines.all fun l => l.expectedQuantity≤(if l.id=lineId then quantity else l.receivedQuantity)
  then .RECEIVED else .RECEIVING

/-- The code of the receiving location where none is given. -/
def defaultReceivingLocation : Text := .word 0

/-- What a receive has resolved and checked before it writes stock. -/
structure ReceiveContext where
  warehouseId : ℕ
  shipment : InboundShipment
  owner : Option WmsClient
  resolution : ReceiveLineResolution
  sku : Sku
  receivingLocationId : ℕ
  lot : Option SkuLot
  batch : Option Text
  expiry : Option ℕ

def ReceiveInboundLineDto.damaged (dto : ReceiveInboundLineDto) : ℤ := dto.damagedQuantity.getD 0

def ReceiveInboundLineDto.total (dto : ReceiveInboundLineDto) : ℤ := dto.quantity+dto.damaged

def ReceiveInboundLineDto.check (dto : ReceiveInboundLineDto) : Option InboundReceiveQualityCheck :=
  toReceiveQualityCheck dto dto.quantity

def ReceiveInboundLineDto.stockStatus (dto : ReceiveInboundLineDto) : StockQuantStatus :=
  if heldQuantity dto.check=0 then .AVAILABLE else .QUARANTINE

def overReceivedQuantity (line : InboundShipmentLine) (dto : ReceiveInboundLineDto) : ℤ :=
  max 0 (line.receivedQuantity+dto.total-line.expectedQuantity)

def assertNotOverReceived (resolution : ReceiveLineResolution) (dto : ReceiveInboundLineDto) :
    Wms Unit := do
  require (0 < dto.total) (.conflict "Received quantity must be greater than zero")
  require (resolution.isUnexpected=true ∨ ¬0 < overReceivedQuantity resolution.line dto ∨
      dto.allowOverReceive=true)
    (.conflict "Received quantity would exceed expected quantity")

def resolveReceive (warehouseId : ℕ) (shipmentReference : Text) (dto : ReceiveInboundLineDto) :
    Wms ReceiveContext := do
  let shipment ← resolveShipment warehouseId shipmentReference
  let lines ← findLines shipment.id
  let owner ← resolveReceiveOwner warehouseId shipment.id dto.ownerClientReference
  require (shipment.status≠.CANCELLED ∧ shipment.status≠.CLOSED)
    (.conflict "Cancelled or closed inbound shipments cannot receive stock")
  let resolution ← resolveReceiveLine shipment.id lines dto
  assertNotOverReceived resolution dto
  let line := resolution.line
  let sku ← resolveSku line.sku
  let location ← resolveLocation warehouseId
    (dto.locationReference.getD defaultReceivingLocation)
  let batch := dto.batch <|> line.batch
  let lotReference := dto.lotReference <|> line.lotReference <|> batch
  let expiry := dto.expiry <|> line.expiry
  let policy := mergePolicy (mergePolicy sku.traceability line.traceability) dto.traceability
  require (dto.serialNumbers.Nodup ∧ dto.damagedSerialNumbers.Nodup)
    (.conflict "Duplicate serial numbers are not allowed")
  assertTraceabilityCapture
    {operation := "Inbound receive", quantity := dto.total, policy := policy,
     serialNumbers := dto.serialNumbers++dto.damagedSerialNumbers,
     lotReference := lotReference, expiry := expiry}
  assertReceiveSerialDistribution dto.quantity dto.damaged dto.serialNumbers
    dto.damagedSerialNumbers policy
  let lot ← resolveOrCreateReceiveLot warehouseId sku.id lotReference dto.qualityStatus
  return ⟨warehouseId,shipment,owner,resolution,sku,location.id,lot,batch,expiry⟩

def ReceiveContext.identity (x : ReceiveContext) (status : StockQuantStatus) : StockQuantIdentity :=
  ⟨x.warehouseId,x.receivingLocationId,x.sku.id,status,x.owner.map (·.id),x.lot.map (·.id),
   x.batch,x.expiry,none⟩

def ReceiveContext.exceptions (x : ReceiveContext) (dto : ReceiveInboundLineDto) :
    List (ReceiveExceptionCode × ℤ) :=
  let line := x.resolution.line
  let next := line.receivedQuantity+dto.total
  receiveExceptions x.resolution.isUnexpected dto.total
    (if x.resolution.isUnexpected then 0 else overReceivedQuantity line dto)
    (if dto.completeLine=true ∧ next < line.expectedQuantity then line.expectedQuantity-next else 0)
    dto.damaged dto.check

def ReceiveContext.movementInput (x : ReceiveContext) (dto : ReceiveInboundLineDto)
    (putawayTask : Option ℕ) (quantity : ℤ) (key : Option IdempotencyKey)
    (disposition : ReceivedDisposition) (quant : StockQuant) : ReceiveMovementInput :=
  ⟨x.warehouseId,x.shipment.id,x.resolution.line.id,quant,putawayTask,x.receivingLocationId,
   quantity,key,disposition,dto.check⟩

/-- The damaged part has the key itself where there is no good part. -/
def damagedKey (good : Option StockMovement) (key : Option IdempotencyKey) :
    Option IdempotencyKey :=
  if good.isSome then key.map (appendIdempotencySuffix · "damaged") else key

def ReceiveContext.resources (x : ReceiveContext) (quants : List StockQuant)
    (movements : List StockMovement) (serials : List ℕ) (task : Option ℕ) :
    List (ResourceType × Option ℕ) :=
  (.INBOUND_SHIPMENT,some x.shipment.id)::(.INBOUND_SHIPMENT_LINE,some x.resolution.line.id)
    ::quants.map (fun q => (.STOCK_QUANT,some q.id))
    ++movements.map (fun m => (.STOCK_MOVEMENT,some m.id))
    ++serials.map (fun s => (.SERIAL_NUMBER,some s))
    ++x.lot.toList.map (fun l => (.SKU_LOT,some l.id))
    ++task.toList.map (fun t => (.WAREHOUSE_TASK,some t))

def receivePutaway (x : ReceiveContext) (dto : ReceiveInboundLineDto) :
    Option StockQuant → Wms (Option ℕ)
  | none => pure none
  | some quant =>
    if dto.stockStatus≠.AVAILABLE ∨ dto.createPutawayTask=some false then pure none
    else createPutawayTaskForReceive x.warehouseId x.sku.id x.receivingLocationId quant
      dto.quantity dto.putawayLocationReference

def receiveResponse (x : ReceiveContext) (dto : ReceiveInboundLineDto) (quants : List ℕ)
    (movements : List StockMovement) (putawayTask : Option ℕ) : InboundReceiveResponse :=
  {line := x.resolution.line.id, putawayTask := putawayTask, quants := quants,
   movements := movements, receivedQuantity := dto.quantity, damagedQuantity := dto.damaged,
   qualityHeldQuantity := heldQuantity dto.check}

/-- Movements, serials, owner links and the line's new quantity. -/
def recordReceive (x : ReceiveContext) (dto : ReceiveInboundLineDto)
    (quant damagedQuant : Option StockQuant) (putawayTask : Option ℕ) :
    Wms InboundReceiveResponse := do
  let line := x.resolution.line
  let movement ← createPartMovement
    (x.movementInput dto putawayTask dto.quantity dto.idempotencyKey .RECEIVED) quant
  let damagedMovement ← createPartMovement
    (x.movementInput dto none dto.damaged (damagedKey movement dto.idempotencyKey) .DAMAGED)
    damagedQuant
  let quants := quant.toList++damagedQuant.toList
  let movements := movement.toList++damagedMovement.toList
  require (movements≠[]) (.conflict "Receive did not create stock")
  let serials ← recordReceiveSerials x.warehouseId x.sku.id x.receivingLocationId quant
    damagedQuant dto.serialNumbers dto.damagedSerialNumbers
  match x.owner with
  | none => pure ()
  | some owner =>
    linkOwnerResources x.warehouseId owner (x.resources quants movements serials putawayTask)
  update (D := wms) .inboundShipmentLines line.id (.increment dto.total)
  update (D := wms) .inboundShipments x.shipment.id
    (if x.exceptions dto=[] then
      resolveReceiveStatus x.resolution.lines line.id (line.receivedQuantity+dto.total)
     else .EXCEPTION)
  return receiveResponse x dto (quants.map (·.id)) movements putawayTask

def receiveInto (x : ReceiveContext) (dto : ReceiveInboundLineDto) : Wms InboundReceiveResponse := do
  let _ ← each (x.exceptions dto) (createReceiveException x.warehouseId)
  let quant ← receivePart (x.identity dto.stockStatus) dto.quantity
  let damagedQuant ← receivePart (x.identity (dto.damagedStockStatus.getD .DAMAGED)) dto.damaged
  let putawayTask ← receivePutaway x dto quant
  recordReceive x dto quant damagedQuant putawayTask

def receive (warehouseReference shipmentReference : Text) (dto : ReceiveInboundLineDto) :
    Wms InboundReceiveResponse := do
  let warehouse ← resolveWarehouse warehouseReference
  match ← findIdempotentReceive warehouse.id dto.idempotencyKey with
  | some response => return response
  | none =>
    let x ← resolveReceive warehouse.id shipmentReference dto
    receiveInto x dto

end AardvarkWms.Inbound
