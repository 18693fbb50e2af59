import AardvarkWms.Fulfillment

/-! Packages of a shipment: `addPackage` of `src/shipping/shipping.service.ts`. -/
namespace AardvarkWms

open Transactions Transactions.Txn Relational

structure PackageContentInputDto where
  outboundOrderLineReference : Option Text
  sku : Text
  quantity : ℤ
  quantity_pos : 0 < quantity

structure AddShipmentPackageDto where
  contents : List PackageContentInputDto
  ownerClientReference : Option Text := none

def resolveShipmentWithClient (warehouseId : ℕ) (reference : Text) : Wms Shipment := do
  let shipment ← findFirst (D := wms) .shipments fun s =>
    s.warehouseId=warehouseId && reference.names s.id s.shipmentNumber
  demand shipment (.notFound "Shipment was not found")

def resolveShippingOwner (warehouseId : ℕ) (explicitClientReference : Option Text)
    (sourceResources : List (ResourceType × Option ℕ)) : Wms (Option WmsClient) := do
  let inherited ← resolveSingleOwnerFromResources warehouseId sourceResources
  match explicitClientReference with
  | none => return inherited
  | some reference =>
    let found ← resolveOwnerClient warehouseId (some reference)
    let explicit ← demand found (.conflict "Owner client reference is required.")
    require (∀ o, inherited=some o → o.id=explicit.id)
      (.conflict "Explicit owner client conflicts with parent resource ownership.")
    return some explicit

def sumPackageContentsByLine (contents : List PackageContent) (lineId : ℕ) : ℤ :=
  ((contents.filter (·.outboundOrderLineId=some lineId)).map (·.quantity)).sum

def resolvePackageContentLine (orderLines : List OutboundOrderLine)
    (content : PackageContentInputDto) : Except HttpException OutboundOrderLine :=
  match content.outboundOrderLineReference with
  | some reference =>
    match orderLines.find? fun l => reference.names l.id l.lineNumber with
    | some line => .ok line
    | none => .error (.conflict s!"Outbound order line {reference} was not found")
  | none =>
    let sku := content.sku
    match orderLines.filter (·.sku=sku) with
    | [line] => .ok line
    | [] => .error (.conflict s!"No outbound line was found for SKU {sku}")
    | _ => .error (.conflict
        s!"Multiple outbound lines use SKU {sku}; outboundOrderLineReference is required")

/-- One content, where `planned` are those before it. -/
def planPackageContent (orderLines : List OutboundOrderLine) (alreadyPackedByLine : ℕ → ℤ)
    (planned : List PackageContent) (content : PackageContentInputDto) :
    Except HttpException PackageContent := do
  let line ← resolvePackageContentLine orderLines content
  let number := line.lineNumber
  let sku := content.sku
  let requested := content.quantity
  let remainingPickedQuantity :=
    line.pickedQuantity-alreadyPackedByLine line.id-sumPackageContentsByLine planned line.id
  let remaining := max remainingPickedQuantity 0
  if line.sku≠sku then
    .error (.conflict s!"Package content SKU {sku} does not match outbound line {number}")
  else if line.pickedQuantity≤0 then
    .error (.conflict s!"Outbound line {number} has no picked quantity to pack")
  else if remainingPickedQuantity < requested then .error (.conflict
    s!"Package content for line {number} exceeds picked quantity. Requested {requested}, remaining picked quantity {remaining}.")
  else .ok ⟨some line.id,sku,requested⟩

def planPackageContents (orderLines : List OutboundOrderLine) (alreadyPackedByLine : ℕ → ℤ) :
    List PackageContentInputDto → List PackageContent → Except HttpException (List PackageContent)
  | [], planned => .ok planned
  | content::contents, planned => do
    let next ← planPackageContent orderLines alreadyPackedByLine planned content
    planPackageContents orderLines alreadyPackedByLine contents (planned++[next])

structure PackageContentPlan where
  contents : List PackageContent
  orderLines : List OutboundOrderLine
  alreadyPackedByLine : ℕ → ℤ
  newlyPackedByLine : ℕ → ℤ

/-- The column takes a uuid; it is not checked against the lines. -/
def unplannedContent (content : PackageContentInputDto) : Except HttpException PackageContent :=
  match content.outboundOrderLineReference with
  | none => .ok ⟨none,content.sku,content.quantity⟩
  | some (.uuid id) => .ok ⟨some id,content.sku,content.quantity⟩
  | some (.word _) => .error .malformedUuid

def buildPackageContentPlan (outboundOrderId : Option ℕ) (existingPackages : List ShipmentPackage)
    (contents : List PackageContentInputDto) : Wms PackageContentPlan :=
  match outboundOrderId with
  | none => do
    let unplanned ← compute (contents.mapM unplannedContent)
    return ⟨unplanned,[],fun _ => 0,fun _ => 0⟩
  | some orderId => do
    require (contents≠[])
      (.conflict "Package contents are required for outbound-order shipments")
    let orderLines ← findOrderLines orderId
    require (orderLines≠[]) (.conflict "Outbound order has no packable lines")
    let already := sumPackageContentsByLine (existingPackages.flatMap (·.contents))
    let planned ← compute (planPackageContents orderLines already contents [])
    return ⟨planned,orderLines,already,sumPackageContentsByLine planned⟩

def isOrderFullyPackedAfterPlan (plan : PackageContentPlan) : Bool :=
  !plan.orderLines.isEmpty && plan.orderLines.all fun l =>
    l.pickedQuantity≤0
      || l.pickedQuantity≤plan.alreadyPackedByLine l.id+plan.newlyPackedByLine l.id

/-- `PACKING` in the metadata names no fulfilment status. -/
def packedOrderUpdate (fullyPacked : Bool) : OutboundOrderUpdate :=
  if fullyPacked then {status := .PACKED, fulfillmentStatus := some (some .PACKED)}
  else {status := .PACKING, fulfillmentStatus := some none}

def addPackage (warehouseReference shipmentReference : Text) (dto : AddShipmentPackageDto) :
    Wms Unit := do
  let warehouse ← resolveWarehouse warehouseReference
  let shipment ← resolveShipmentWithClient warehouse.id shipmentReference
  let owner ← resolveShippingOwner warehouse.id dto.ownerClientReference
    [(.SHIPMENT,some shipment.id),(.OUTBOUND_ORDER,shipment.outboundOrderId)]
  require (shipment.status=.DRAFT ∨ shipment.status=.PACKING)
    (.conflict "Shipment package can only be added while shipment is DRAFT/PACKING")
  match shipment.outboundOrderId with
  | none => pure ()
  | some orderId => lockRow (D := wms) .outboundOrders orderId
  let existingOrderPackages ← match shipment.outboundOrderId with
    | none => findMany (D := wms) .shipmentPackages (·.shipmentId=shipment.id)
    | some orderId =>
      findMany (D := wms) .shipmentPackages fun p => p.outboundOrderId=some orderId
  let plan ← buildPackageContentPlan shipment.outboundOrderId existingOrderPackages dto.contents
  let id ← fresh
  insert (D := wms) .shipmentPackages
    ⟨id,warehouse.id,shipment.id,shipment.outboundOrderId,plan.contents⟩
  match shipment.outboundOrderId with
  | none => pure ()
  | some orderId =>
    update (D := wms) .outboundOrders orderId (packedOrderUpdate (isOrderFullyPackedAfterPlan plan))
  match owner with
  | none => return ()
  | some owner => linkOwnerResources warehouse.id owner [(.SHIPMENT_PACKAGE,some id)]

end AardvarkWms
