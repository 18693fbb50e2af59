import AardvarkWms.OrderUpdates

/-! Who may call a route, and for which warehouse and client: `src/access-control` and
`src/database/tenant-rls.interceptor.ts`. -/
namespace AardvarkWms.AccessControl

open Messaging (Str trim)
open OrderUpdates (Uuid)

structure ClientAccess where
  clientId : Uuid
  clientCode : Str
  warehouseId : Option Uuid
  warehouseCode : Option Str
  isActive : Bool
  deriving DecidableEq

structure WarehouseAccess where
  warehouseId : Uuid
  warehouseCode : Str
  permissionCodes : List Str
  deriving DecidableEq

structure AuthenticatedUser where
  id : Uuid
  permissions : List Str
  warehouses : List WarehouseAccess
  clientAccess : List ClientAccess

structure SessionContext where
  mfaRequired : Bool
  mfaSatisfied : Bool
  mfaEnrollmentRequired : Bool

/-- A header has the values it was sent with, a query or body field may be any value. -/
structure Request where
  headers : String → List Str
  method : Option Str := none
  path : Option Str := none
  params : String → Option Str
  query : String → Option Json
  body : Json
  user : Option AuthenticatedUser
  auth : Option SessionContext := none

inductive MfaEnforcement
  | warn | block
  deriving DecidableEq

/-- What the decorators of a handler, or else of its class, ask for. -/
structure Route where
  requiredPermissions : List Str := []
  requiredWarehousePermissions : List Str := []

inductive Forbidden
  | message (text : String)
  | mfa (code text : String) (userId : Uuid)
  deriving DecidableEq

def text? : Json → Option Str
  | .string s => some s.toList
  | _ => none

/-- The text under a key, if the body is an object that has one there. -/
def Request.bodyText (r : Request) (key : String) : Option Str :=
  ((r.body.fields?.bind fun fs => fs.get? key).bind text?)

def Request.queryText (r : Request) (key : String) : Option Str := (r.query key).bind text?

def Request.headerText (r : Request) (key : String) : Option Str := (r.headers key).head?

def present (value : Option Str) : Option Str := value.filter fun s => s≠[]

def trimmed (value : Option Str) : Option Str := (value.map trim).filter fun s => s≠[]

/-- The first value that is there. -/
def firstOf (values : List (Option Str)) : Option Str := values.findSome? id

def hasAllPermissions (available required : List Str) : Bool :=
  "*".toList∈available || required.all (·∈available)

/-- Here the path comes first and nothing is trimmed. -/
def getWarehouseReference (r : Request) : Option Str :=
  firstOf [r.params "warehouseId",r.params "warehouseCode",
    present (r.queryText "warehouseId"),present (r.queryText "warehouseCode"),
    present (r.bodyText "warehouseId"),present (r.bodyText "warehouseCode"),
    present (r.headerText "x-warehouse-id"),present (r.headerText "x-warehouse-code")]

def clientHeaders : List String := ["x-client-id","x-owner-client-id","x-client-reference","x-client-code"]

def clientParams : List String := ["clientReference","clientId","ownerClientId"]

def clientFields : List String :=
  ["ownerClientReference","ownerClientId","clientReference","clientId","clientCode"]

/-- What a handler may read: path, query and body. -/
def handlerClientReferences (r : Request) : List Str :=
  (clientParams.map (fun key => trimmed (r.params key))++
    clientFields.map (fun key => trimmed (r.queryText key))++
    clientFields.map fun key => trimmed (r.bodyText key)).filterMap id

def getClientReferenceFromRequest (r : Request) : Option Str :=
  firstOf (clientHeaders.map (fun key => trimmed (r.headerText key))++
    clientParams.map (fun key => trimmed (r.params key))++
    clientFields.map (fun key => trimmed (r.queryText key))++
    clientFields.map fun key => trimmed (r.bodyText key))

def CLIENT_SCOPED_WAREHOUSE_PERMISSIONS : List Str :=
  ["inventory.read","inventory.manage","inventory.move","inventory.adjust","outbound.read",
   "outbound.manage","fulfillment.read","fulfillment.manage","reservation.read",
   "reservation.manage","task.read","task.manage","shipment.read","shipment.manage","wave.read",
   "wave.manage","billing.read","billing.manage","slotting.read","slotting.manage"].map String.toList

def isClientScopedWarehousePermission (codes : List Str) : Bool :=
  codes.any (·∈CLIENT_SCOPED_WAREHOUSE_PERMISSIONS)

def AuthenticatedUser.activeClientAccess (user : AuthenticatedUser) : List ClientAccess :=
  user.clientAccess.filter (·.isActive)

def shouldEnforceClientAccess (user : AuthenticatedUser) : Bool := user.activeClientAccess≠[]

section Normalized
-- the language's upper case
variable (toUpperCase : Str → Str)

def normalizeReference (value : Str) : Str := toUpperCase (trim value)

def ClientAccess.isNamed (access : ClientAccess) (reference : Str) : Bool :=
  normalizeReference toUpperCase access.clientId.val=reference ||
    normalizeReference toUpperCase access.clientCode=reference

def matchesClientAccess (access : ClientAccess) (clientReference : Str)
    (warehouseReference : Option Str) : Bool :=
  access.isActive && access.isNamed toUpperCase clientReference &&
    (present warehouseReference).all fun w =>
      access.warehouseId.isNone && (present access.warehouseCode).isNone ||
        normalizeReference toUpperCase ((access.warehouseId.map (·.val)).getD [])=w ||
        normalizeReference toUpperCase (access.warehouseCode.getD [])=w

def hasClientAccess (user : AuthenticatedUser) (clientReference : Str)
    (warehouseReference : Option Str) : Bool :=
  user.clientAccess.any fun access =>
    matchesClientAccess toUpperCase access (normalizeReference toUpperCase clientReference)
      ((present warehouseReference).map (normalizeReference toUpperCase))

/-- The path without its query, its last slashes and its `/api`. -/
def routeOf (path : Str) : Str :=
  let path := ((path.takeWhile (· ≠ '?')).reverse.dropWhile (· = '/')).reverse
  if "/api/".toList.isPrefixOf path then path.drop 4 else path

def isMfaRecoveryPath (r : Request) : Bool :=
  let method := (r.method.map toUpperCase).getD "GET".toList
  let route := routeOf (r.path.getD [])
  method="GET".toList && route∈["/auth/me".toList,"/auth/me/mfa".toList] ||
    method="POST".toList &&
      route∈["/auth/me/mfa/setup".toList,"/auth/me/mfa/verify".toList,"/auth/revoke".toList]

def assertPrivilegedMfa (enforcement : MfaEnforcement) (user : AuthenticatedUser) (r : Request) :
    Except Forbidden Unit :=
  match r.auth with
  | none => pure ()
  | some auth =>
    if !auth.mfaRequired || auth.mfaSatisfied || enforcement≠.block ||
        isMfaRecoveryPath toUpperCase r then pure ()
    else if auth.mfaEnrollmentRequired then throw (.mfa "MFA_ENROLLMENT_REQUIRED"
      "Privileged access requires MFA enrollment before this operation can continue." user.id)
    else throw (.mfa "MFA_REQUIRED"
      "Privileged access requires a session that has passed MFA." user.id)

def AuthenticatedUser.findWarehouse (user : AuthenticatedUser) (reference : Str) :
    Option WarehouseAccess :=
  user.warehouses.find? fun w => w.warehouseId.val=reference || w.warehouseCode=reference

def assertWarehousePermissions (user : AuthenticatedUser) (r : Request) (required : List Str) :
    Except Forbidden Str :=
  match present (getWarehouseReference r) with
  | none => throw (.message "Warehouse context is required")
  | some reference =>
    if (user.findWarehouse reference).any fun w => hasAllPermissions w.permissionCodes required then
      pure reference
    else throw (.message "Missing required warehouse permission")

def assertClientScope (user : AuthenticatedUser) (r : Request) (required : List Str)
    (warehouseReference : Str) : Except Forbidden Unit :=
  if !shouldEnforceClientAccess user || !isClientScopedWarehousePermission required then pure ()
  else match getClientReferenceFromRequest r with
    | none => throw (.message ("Client scope is required for this restricted user. "++
        "Pass ownerClientReference or use a client-scoped route."))
    | some clientReference =>
      if hasClientAccess toUpperCase user clientReference (some warehouseReference) then pure ()
      else throw (.message "User does not have access to the requested client scope.")

/-- What is asked of a user once there is one. -/
def assertPermissions (user : AuthenticatedUser) (r : Request) (route : Route) :
    Except Forbidden Unit :=
  if route.requiredPermissions≠[] ∧
      hasAllPermissions user.permissions route.requiredPermissions=false then
    throw (.message "Missing required permission")
  else if route.requiredWarehousePermissions=[] then pure ()
  else do
    let warehouseReference ← assertWarehousePermissions user r route.requiredWarehousePermissions
    assertClientScope toUpperCase user r route.requiredWarehousePermissions warehouseReference

def canActivate (enforcement : MfaEnforcement) (r : Request) (route : Route) :
    Except Forbidden Unit := do
  r.user.elim (pure ()) fun user => assertPrivilegedMfa toUpperCase enforcement user r
  if route.requiredPermissions=[] ∧ route.requiredWarehousePermissions=[] then pure ()
  else match r.user with
    | none => throw (.message "Authenticated user context is missing")
    | some user => assertPermissions toUpperCase user r route

/-- Here the headers come first and everything is trimmed. -/
def getExplicitWarehouseReference (r : Request) : Option Str :=
  firstOf [trimmed (r.headerText "x-warehouse-id"),trimmed (r.headerText "x-warehouse-code"),
    trimmed (r.params "warehouseId"),trimmed (r.params "warehouseCode"),
    trimmed (r.queryText "warehouseId"),trimmed (r.queryText "warehouseCode"),
    trimmed (r.bodyText "warehouseId"),trimmed (r.bodyText "warehouseCode")]

def getExplicitClientReference (r : Request) : Option Str :=
  firstOf (clientHeaders.map (fun key => trimmed (r.headerText key))++
    clientParams.map (fun key => trimmed (r.params key))++
    clientFields.map (fun key => trimmed (r.queryText key))++
    clientFields.map fun key => trimmed (r.bodyText key))

def matchesReference (reference id code : Str) : Bool :=
  normalizeReference toUpperCase reference=normalizeReference toUpperCase id ||
    normalizeReference toUpperCase reference=normalizeReference toUpperCase code

/-- A client of the context: one, or all of the warehouse. -/
inductive TenantClient
  | client (id : Uuid)
  | every
  deriving DecidableEq

structure TenantRlsContext where
  clientId : Option TenantClient
  warehouseId : Option Uuid
  disabled : Bool
  deriving DecidableEq

/-- The only element of a list that has one element. -/
def single? {α : Type} : List α → Option α
  | [a] => some a
  | _ => none

def resolveTenantClientContext (active : List ClientAccess) (explicitClient : Bool)
    (explicitClientId warehouseId : Option Uuid) : Option TenantClient :=
  match explicitClientId with
  | some id => some (.client id)
  | none =>
    if !explicitClient && active.length=1 then (single? active).map fun a => .client a.clientId
    else if active=[] && warehouseId.isSome then some .every
    else none

def shouldDisableTenantRls (r : Request) (user : Option AuthenticatedUser) : Bool :=
  let header := trimmed (r.headerText "x-disable-tenant-rls")
  (header=some "1".toList || header.any fun h => h.map Char.toLower="true".toList) &&
    user.any fun u => "tenant.rls.disable".toList∈u.permissions && u.activeClientAccess=[]

def buildTenantContext (r : Request) : Except Forbidden TenantRlsContext :=
  let explicitClient := getExplicitClientReference r
  let explicitWarehouse := getExplicitWarehouseReference r
  let clients := (r.user.map (·.activeClientAccess)).getD []
  let warehouses := (r.user.map (·.warehouses)).getD []
  let explicitClientMatch := explicitClient.bind fun reference =>
    clients.find? fun a => matchesReference toUpperCase reference a.clientId.val a.clientCode
  let explicitWarehouseMatch := explicitWarehouse.bind fun reference =>
    warehouses.find? fun w => matchesReference toUpperCase reference w.warehouseId.val w.warehouseCode
  if explicitClient.isSome ∧ clients≠[] ∧ explicitClientMatch=none then
    throw (.message "User does not have access to the requested tenant client scope.")
  else if explicitWarehouse.isSome ∧ warehouses≠[] ∧ explicitWarehouseMatch=none then
    throw (.message "User does not have access to the requested tenant warehouse scope.")
  else
    let warehouseId := (explicitWarehouseMatch.map (·.warehouseId)).or
      (if explicitWarehouse.isNone then (single? warehouses).map (·.warehouseId) else none)
    pure
      {clientId := resolveTenantClientContext clients explicitClient.isSome
         (explicitClientMatch.map (·.clientId)) warehouseId
       warehouseId := warehouseId
       disabled := shouldDisableTenantRls r r.user}

end Normalized
end AardvarkWms.AccessControl
