import AardvarkWms.Packing

/-! Staging and shipping of `src/shipping/shipping.service.ts`, one call after the other. -/
namespace AardvarkWms.Staging

open Transactions Transactions.Txn Relational

inductive ShipmentPackageStatus
  | OPEN | PACKED | STAGED | LOADED | SHIPPED | CANCELLED
  deriving DecidableEq

inductive CarrierLabelStatus
  | QUEUED | GENERATED | PRINTED | FAILED | CANCELLED
  deriving DecidableEq

/-- A carrier's name, normalised as `carrierRequiresLabel` does. -/
inductive Carrier
  | INTERNAL | PICKUP | WILL_CALL | CUSTOMER_PICKUP
  | named (w : ℕ)
  deriving DecidableEq

structure CarrierLabel where
  id : ℕ
  shipmentId : Option ℕ
  packageId : Option ℕ
  status : CarrierLabelStatus
  deriving DecidableEq

/-- The warehouse, with the columns that only staging and shipping use: a shipment's carrier and a
package's status. -/
structure ShippingDb where
  tables : WmsDb
  carrier : ℕ → Option Carrier
  packageStatus : ℕ → ShipmentPackageStatus
  labels : List CarrierLabel

structure StageShipmentDto where
  stagedLocationReference : Option Text := none

structure ShipShipmentDto where
  allowShipWithoutLabel : Option Bool := none

inductive ShippingConflict
  | notOpen
  | nothingPacked
  | notStaged
  | nothingStaged
  | unlabelled
  | notFullyPacked (lineNumber : Text) (pickedQuantity packedQuantity : ℤ)
  deriving DecidableEq

def ShippingConflict.message : ShippingConflict → String
  | notOpen => "Shipment can only be staged from DRAFT/PACKING"
  | nothingPacked => "Shipment cannot be staged without packed packages"
  | notStaged => "Shipment must be staged/loading before ship confirmation"
  | nothingStaged => "Shipment cannot be shipped without staged or loaded packages"
  | unlabelled => "Shipment cannot be shipped until every package has a label"
  | notFullyPacked line picked packed =>
    s!"Outbound line {line} is not fully packed. Picked {picked}, packed {packed}."

inductive Refusal
  | fault (f : Fault (interface wms))
  | conflict (c : ShippingConflict)

/-- What a lone program that only reads returns. -/
def read {α : Type} (p : Wms α) (d : WmsDb) : Except Refusal α :=
  match alone store id p 0 [] (.start d) with
  | .ok e => .ok e.value
  | .error f => .error (.fault f)

def resolveStagingLocation (warehouseId : ℕ) (reference : Text) : Wms WarehouseLocation := do
  let location ← findFirst (D := wms) .warehouseLocations fun l =>
    l.warehouseId=warehouseId && (reference.names l.id l.code || l.barcode=some reference)
  demand location (.notFound "Warehouse location was not found")

def carrierRequiresLabel : Option Carrier → Bool
  | some (.named _) => true
  | _ => false

namespace ShippingDb
variable (d : ShippingDb)

/-- The packages of a shipment in one of these states. -/
def packagesIn (shipmentId : ℕ) (statuses : List ShipmentPackageStatus) : List ShipmentPackage :=
  (d.tables .shipmentPackages).rows.filter fun p =>
    p.shipmentId=shipmentId && d.packageStatus p.id∈statuses

/-- The first picked line that the packages do not hold in full. -/
def unpackedLine (orderId : ℕ) (contents : List PackageContent) : Option OutboundOrderLine :=
  (((d.tables .outboundOrderLines).rows.filter (·.orderId=orderId)).insertionSort
    fun a b => a.lineNumber.le b.lineNumber=true).find? fun l =>
      0 < l.pickedQuantity && sumPackageContentsByLine contents l.id < l.pickedQuantity

def assertOutboundOrderPacked (outboundOrderId : Option ℕ) (packages : List ShipmentPackage) :
    Except Refusal Unit :=
  let contents := packages.flatMap (·.contents)
  match outboundOrderId.bind fun orderId => d.unpackedLine orderId contents with
  | none => .ok ()
  | some l => .error (.conflict (.notFullyPacked l.lineNumber l.pickedQuantity
      (sumPackageContentsByLine contents l.id)))

def assertShipmentReadyToStage (s : Shipment) : Except Refusal Unit :=
  let packages := d.packagesIn s.id [.PACKED]
  if packages=[] then .error (.conflict .nothingPacked)
  else d.assertOutboundOrderPacked s.outboundOrderId packages

/-- A label of the whole shipment counts for every package. -/
def missingPackageLabel (s : Shipment) (packages : List ShipmentPackage) : Bool :=
  let labels := d.labels.filter fun l =>
    l.shipmentId=some s.id && l.status∈[.GENERATED,.PRINTED]
  packages.any fun p =>
    !labels.any (·.packageId.isNone) && !labels.any (·.packageId=some p.id)

def assertShipmentReadyToShip (s : Shipment) (allowShipWithoutLabel : Bool) :
    Except Refusal Unit :=
  let packages := d.packagesIn s.id [.STAGED,.LOADED]
  if packages=[] then .error (.conflict .nothingStaged)
  else if !allowShipWithoutLabel && carrierRequiresLabel (d.carrier s.id) &&
    d.missingPackageLabel s packages then .error (.conflict .unlabelled)
  else d.assertOutboundOrderPacked s.outboundOrderId packages

def setShipmentStatus (shipmentId : ℕ) (status : ShipmentStatus) : WmsDb :=
  Function.update d.tables .shipments
    ((d.tables .shipments).modify shipmentId (fun s => {s with status}) fun _ => rfl)

/-- `updateMany` of a shipment's packages. -/
def setPackageStatus (shipmentId : ℕ) (old : List ShipmentPackageStatus)
    (new : ShipmentPackageStatus) (id : ℕ) : ShipmentPackageStatus :=
  if (d.packagesIn shipmentId old).any (·.id=id) then new else d.packageStatus id

def stage (s : Shipment) : Except Refusal ShippingDb :=
  if s.status=.PACKING ∨ s.status=.DRAFT then do
    d.assertShipmentReadyToStage s
    return {d with
      tables := d.setShipmentStatus s.id .STAGED
      packageStatus := d.setPackageStatus s.id [.PACKED] .STAGED}
  else .error (.conflict .notOpen)

def stageShipment (warehouse shipment : Text) (dto : StageShipmentDto) :
    Except Refusal ShippingDb := do
  let w ← read (resolveWarehouse warehouse) d.tables
  match dto.stagedLocationReference with
  | none => pure ()
  | some reference => let _ ← read (resolveStagingLocation w.id reference) d.tables
  let s ← read (resolveShipmentWithClient w.id shipment) d.tables
  d.stage s

def shippedOrder : OutboundOrderUpdate :=
  {status := .SHIPPED, fulfillmentStatus := some (some .SHIPPED)}

def ship (s : Shipment) (dto : ShipShipmentDto) : Except Refusal ShippingDb :=
  if s.status=.STAGED ∨ s.status=.LOADING then do
    d.assertShipmentReadyToShip s (dto.allowShipWithoutLabel.getD false)
    let shipped := d.setShipmentStatus s.id .SHIPPED
    return {d with
      tables := match s.outboundOrderId with
        | none => shipped
        | some orderId => apply (.update (D := wms) .outboundOrders orderId shippedOrder) shipped
      packageStatus := d.setPackageStatus s.id [.PACKED,.STAGED,.LOADED] .SHIPPED
      labels := d.labels.map fun l => if l.shipmentId=some s.id ∧ l.status=.GENERATED then
        {l with status := .PRINTED} else l}
  else .error (.conflict .notStaged)

def shipShipment (warehouse shipment : Text) (dto : ShipShipmentDto) :
    Except Refusal ShippingDb := do
  let w ← read (resolveWarehouse warehouse) d.tables
  let s ← read (resolveShipmentWithClient w.id shipment) d.tables
  d.ship s dto

/-- A new package is PACKED. -/
def addPackage (ids : ℕ → ℕ) (warehouse shipment : Text) (dto : AddShipmentPackageDto) :
    Except Refusal ShippingDb :=
  match alone store ids (AardvarkWms.addPackage warehouse shipment dto) 0 [] (.start d.tables) with
  | .ok e => .ok {d with
      tables := e.ctx.view
      packageStatus := fun id =>
        if (d.tables .shipmentPackages).get? id=none then .PACKED else d.packageStatus id}
  | .error f => .error (.fault f)

end ShippingDb

/-- The row of `createShipment`. -/
structure CreateShipment where
  id : ℕ
  warehouseId : ℕ
  outboundOrderId : Option ℕ
  shipmentNumber : Text
  carrier : Option Carrier

/-- A quantity that is picked of a line, by the desk or by a scanner. -/
structure Pick where
  lineId : ℕ
  quantity : ℤ
  quantity_pos : 0 < quantity

inductive Action
  | addPackage (ids : ℕ → ℕ) (warehouse shipment : Text) (dto : AddShipmentPackageDto)
  | stageShipment (warehouse shipment : Text) (dto : StageShipmentDto)
  | shipShipment (warehouse shipment : Text) (dto : ShipShipmentDto)
  | createShipment (dto : CreateShipment)
  | generateLabel (label : CarrierLabel)
  | pick (dto : Pick)

namespace ShippingDb
variable (d : ShippingDb)

/-- A shipment under a key that is taken is refused. -/
def createShipment (dto : CreateShipment) : ShippingDb :=
  if (d.tables .shipments).get? dto.id=none then
    {d with
      tables := apply (.insert (D := wms) .shipments
        ⟨dto.id,dto.warehouseId,dto.outboundOrderId,dto.shipmentNumber,.PACKING⟩) d.tables
      carrier := Function.update d.carrier dto.id dto.carrier}
  else d

/-- What a pick writes to its line and order, whatever it did to stock. -/
def pick (dto : Pick) : ShippingDb :=
  match (d.tables .outboundOrderLines).get? dto.lineId with
  | none => d
  | some line =>
    let picked := apply (.update (D := wms) .outboundOrderLines line.id
      (.set (line.pickedQuantity+dto.quantity))) d.tables
    if isOrderFullyPicked ((picked .outboundOrderLines).rows.filter (·.orderId=line.orderId)) then
      {d with tables := apply (.update (D := wms) .outboundOrders line.orderId
        {status := .PICKED, fulfillmentStatus := some (some .PICKED)}) picked}
    else {d with tables := picked}

/-- A call that is refused leaves everything as it was. -/
def act : Action → ShippingDb
  | .addPackage ids w s dto => (d.addPackage ids w s dto).toOption.getD d
  | .stageShipment w s dto => (d.stageShipment w s dto).toOption.getD d
  | .shipShipment w s dto => (d.shipShipment w s dto).toOption.getD d
  | .createShipment dto => d.createShipment dto
  | .generateLabel label => {d with labels := d.labels++[label]}
  | .pick dto => d.pick dto

def run (actions : List Action) : ShippingDb := actions.foldl act d

end ShippingDb

end AardvarkWms.Staging
