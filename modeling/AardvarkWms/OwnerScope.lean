import AardvarkWms.Schema

/-! Which client owns a resource: `src/clients/owner-linking.helpers.ts`,
`src/clients/direct-owner-client.helpers.ts` and `src/clients/owner-scope.service.ts`. -/
namespace AardvarkWms

open Transactions Transactions.Txn Relational

instance : ToString Text where
  toString
    | .uuid id => s!"{id}"
    | .word w => s!"{w}"

instance : ToString ResourceType where
  toString
    | .INBOUND_SHIPMENT => "INBOUND_SHIPMENT"
    | .INBOUND_SHIPMENT_LINE => "INBOUND_SHIPMENT_LINE"
    | .OUTBOUND_ORDER => "OUTBOUND_ORDER"
    | .OUTBOUND_ORDER_LINE => "OUTBOUND_ORDER_LINE"
    | .STOCK_QUANT => "STOCK_QUANT"
    | .RESERVATION => "RESERVATION"
    | .WAREHOUSE_TASK => "WAREHOUSE_TASK"
    | .STOCK_MOVEMENT => "STOCK_MOVEMENT"
    | .SHIPMENT => "SHIPMENT"
    | .SHIPMENT_PACKAGE => "SHIPMENT_PACKAGE"
    | .SKU_LOT => "SKU_LOT"
    | .SERIAL_NUMBER => "SERIAL_NUMBER"

/-- A text that reads as a uuid matches an id or a code, any other text a code only. -/
def Text.names (reference : Text) (id : ℕ) (code : Text) : Bool :=
  reference=.uuid id || reference=code

/-- One entry of a user's client access. -/
structure ClientAccess where
  clientId : ℕ
  clientCode : Text
  warehouseId : Option ℕ
  warehouseCode : Option Text
  isActive : Bool

structure AuthenticatedUser where
  clientAccess : List ClientAccess

def shouldEnforceClientAccess (user : AuthenticatedUser) : Bool :=
  user.clientAccess.any (·.isActive)

def hasClientAccess (user : AuthenticatedUser) (clientId warehouseId : ℕ) : Bool :=
  user.clientAccess.any fun a => a.isActive && (Text.uuid clientId).names a.clientId a.clientCode
    && ((a.warehouseId.isNone && a.warehouseCode.isNone)
        || a.warehouseId=some warehouseId || a.warehouseCode=some (.uuid warehouseId))

def resolveWarehouse (reference : Text) : Wms Warehouse := do
  let w ← findFirst (D := wms) .warehouses fun w => reference.names w.id w.code
  demand w (.notFound "Warehouse was not found")

def resolveOwnerClient (warehouseId : ℕ) (clientReference : Option Text) :
    Wms (Option WmsClient) := do
  match clientReference with
  | none => return none
  | some reference =>
    let found ← findFirst (D := wms) .wmsClients fun c => reference.names c.id c.code
    let owner ← demand found (.notFound "Owner client was not found.")
    let code := owner.code
    require (owner.status=.ACTIVE) (.conflict s!"Owner client {code} is not ACTIVE.")
    let link ← find (D := wms) .clientWarehouses (owner.id,warehouseId)
    require (link.any (·.isActive)=true)
      (.conflict s!"Owner client {code} is not attached to this warehouse.")
    return some owner

def findResourceOwner (warehouseId : ℕ) (resource : ResourceType × Option ℕ) :
    Wms (Option WmsClient) := do
  match resource.2 with
  | none => return none
  | some resourceId =>
    match ← find (D := wms) .clientResourceLinks (warehouseId,resource.1,resourceId) with
    | none => return none
    | some link =>
      let found ← find (D := wms) .wmsClients link.clientId
      let owner ← demand found (.conflict "Resource ownership link points to a missing client.")
      return some owner

def resolveSingleOwnerFromResources (warehouseId : ℕ)
    (resources : List (ResourceType × Option ℕ)) : Wms (Option WmsClient) := do
  let found ← each resources (findResourceOwner warehouseId)
  let owners := found.filterMap id
  require (∀ a∈owners, ∀ b∈owners, a.id=b.id)
    (.conflict "Operation spans resources owned by multiple clients.")
  return owners.head?

/-- The table whose `owner_client_id` column mirrors the link, where there is one. -/
def lockMirroredRow : ResourceType → ℕ → Wms Unit
  | .INBOUND_SHIPMENT, id => lockRow (D := wms) .inboundShipments id
  | .OUTBOUND_ORDER, id => lockRow (D := wms) .outboundOrders id
  | .STOCK_QUANT, id => lockRow (D := wms) .stockQuants id
  | .RESERVATION, id => lockRow (D := wms) .reservations id
  | .WAREHOUSE_TASK, id => lockRow (D := wms) .warehouseTasks id
  | .STOCK_MOVEMENT, id => lockRow (D := wms) .stockMovements id
  | .SHIPMENT, id => lockRow (D := wms) .shipments id
  | .SHIPMENT_PACKAGE, id => lockRow (D := wms) .shipmentPackages id
  | _, _ => pure ()

def isOwnerClientMirrorResource : ResourceType → Bool
  | .INBOUND_SHIPMENT_LINE | .OUTBOUND_ORDER_LINE | .SKU_LOT | .SERIAL_NUMBER => false
  | _ => true

def setOwnerClientId (resourceType : ResourceType) (resourceId clientId : ℕ) : Wms Unit := do
  match ← find (D := wms) .ownerClientIds (resourceType,resourceId) with
  | some _ => update (D := wms) .ownerClientIds (resourceType,resourceId) clientId
  | none => insert (D := wms) .ownerClientIds ⟨resourceType,resourceId,clientId⟩

def mirrorOwnerClientIdToResource (resourceType : ResourceType) (resourceId clientId : ℕ) :
    Wms Unit :=
  if isOwnerClientMirrorResource resourceType then do
    lockMirroredRow resourceType resourceId
    setOwnerClientId resourceType resourceId clientId
  else pure ()

def ensureOwnedResourceLink (warehouseId clientId : ℕ) (resourceType : ResourceType)
    (resourceId : ℕ) : Wms Unit := do
  match ← find (D := wms) .clientResourceLinks (warehouseId,resourceType,resourceId) with
  | some existing =>
    require (existing.clientId=clientId) (.conflict
      s!"Resource {resourceType}:{resourceId} is already owned by another client. Pass allowOwnerTransfer=true to transfer ownership.")
    update (D := wms) .clientResourceLinks (warehouseId,resourceType,resourceId) clientId
  | none =>
    insert (D := wms) .clientResourceLinks ⟨warehouseId,resourceType,resourceId,clientId⟩

def linkResourceToResolvedClient (warehouseId clientId : ℕ)
    (resource : ResourceType × Option ℕ) : Wms Unit := do
  match resource.2 with
  | none => return ()
  | some resourceId =>
    ensureOwnedResourceLink warehouseId clientId resource.1 resourceId
    mirrorOwnerClientIdToResource resource.1 resourceId clientId

def linkOwnerResources (warehouseId : ℕ) (owner : WmsClient)
    (resources : List (ResourceType × Option ℕ)) : Wms Unit := do
  let _ ← each resources (linkResourceToResolvedClient warehouseId owner.id)
  return ()

/-- All links first, then all mirrored columns. -/
def ensureOwnedResourceLinks (warehouseId clientId : ℕ)
    (resources : List (ResourceType × Option ℕ)) : Wms Unit := do
  let present := resources.filterMap fun r => r.2.map fun id => (r.1,id)
  let _ ← each present fun r => ensureOwnedResourceLink warehouseId clientId r.1 r.2
  let _ ← each present fun r => mirrorOwnerClientIdToResource r.1 r.2 clientId
  return ()

def assertActorCanAccessOwner (actor : AuthenticatedUser) (owner : Option WmsClient)
    (warehouseId : ℕ) : Wms Unit :=
  if shouldEnforceClientAccess actor then do
    let owner ← demand owner
      (.forbidden "Restricted client users cannot process unowned fulfillment resources.")
    require (hasClientAccess actor owner.id warehouseId=true)
      (.forbidden "User does not have access to the fulfillment owner client.")
  else pure ()

end AardvarkWms
