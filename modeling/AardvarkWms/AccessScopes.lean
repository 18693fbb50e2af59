import AardvarkWms.AccessControl

/-! What the guard has asked of a request that it lets through, and what is read from the request
after it. -/
namespace AardvarkWms.AccessControl

open Messaging (Str)
open OrderUpdates (Uuid someUuid)

section Guard
variable {toUpperCase : Str → Str} {enforcement : MfaEnforcement} {r : Request} {route : Route}
  {user : AuthenticatedUser}

theorem present_eq_some {value : Option Str} {s : Str} (h : present value=some s) :
    value=some s ∧ s≠[] := by
  unfold present at h
  rw [Option.filter_eq_some_iff] at h
  exact ⟨h.1,by simpa using h.2⟩

theorem assertWarehousePermissions_ok {required : List Str} {reference : Str}
    (h : assertWarehousePermissions user r required=.ok reference) :
    present (getWarehouseReference r)=some reference ∧ ∃ w, user.findWarehouse reference=some w ∧
      hasAllPermissions w.permissionCodes required=true := by
  unfold assertWarehousePermissions at h
  split at h
  · cases h
  · rename_i found hfound
    split at h
    · rename_i hany
      cases h
      exact ⟨hfound,by simpa [Option.any_eq_true] using hany⟩
    · cases h

/-- Is the guard asked about clients? -/
def clientsEnforced (user : AuthenticatedUser) (route : Route) : Bool :=
  shouldEnforceClientAccess user && isClientScopedWarehousePermission route.requiredWarehousePermissions

theorem assertClientScope_ok {reference : Str} (henforced : clientsEnforced user route=true)
    (h : assertClientScope toUpperCase user r route.requiredWarehousePermissions reference=.ok ()) :
    ∃ c, getClientReferenceFromRequest r=some c ∧
      hasClientAccess toUpperCase user c (some reference)=true := by
  obtain ⟨hrestricted,hscoped⟩ := Bool.and_eq_true_iff.mp henforced
  unfold assertClientScope at h
  rw [hrestricted,hscoped] at h
  simp only [Bool.not_true,Bool.or_self,Bool.false_eq_true,if_false] at h
  split at h
  · cases h
  · rename_i c hc
    split at h
    · rename_i haccess
      exact ⟨c,hc,haccess⟩
    · cases h

/-- What is true of an accepted request of a user, where a warehouse permission is required. -/
structure Accepted (toUpperCase : Str → Str) (r : Request) (route : Route)
    (user : AuthenticatedUser) (reference : Str) (w : WarehouseAccess) : Prop where
  named : present (getWarehouseReference r)=some reference
  found : user.findWarehouse reference=some w
  permitted : hasAllPermissions w.permissionCodes route.requiredWarehousePermissions=true
  client : clientsEnforced user route=true → ∃ c, getClientReferenceFromRequest r=some c ∧
    hasClientAccess toUpperCase user c (some reference)=true

theorem canActivate_ok (hu : r.user=some user) (hroute : route.requiredWarehousePermissions≠[])
    (h : canActivate toUpperCase enforcement r route=.ok ()) :
    ∃ reference w, Accepted toUpperCase r route user reference w := by
  unfold canActivate at h
  rw [hu] at h
  obtain ⟨_,_,h⟩ := Transactions.Txn.bind_eq_ok h
  split at h
  · rename_i hnone
    exact absurd hnone.2 hroute
  · unfold assertPermissions at h
    simp only [if_neg hroute] at h
    split at h
    · cases h
    · obtain ⟨reference,hreference,h⟩ := Transactions.Txn.bind_eq_ok h
      obtain ⟨hnamed,w,hfound,hpermitted⟩ := assertWarehousePermissions_ok hreference
      exact ⟨reference,w,hnamed,hfound,hpermitted,fun henforced => assertClientScope_ok henforced h⟩

theorem requires_of_enforced (h : clientsEnforced user route=true) :
    route.requiredWarehousePermissions≠[] := by
  intro hnone
  simp [clientsEnforced,isClientScopedWarehousePermission,hnone] at h

end Guard

section ClientScope
variable {toUpperCase : Str → Str} {enforcement : MfaEnforcement} {r : Request} {route : Route}
  {user : AuthenticatedUser}

/-- The one client reference that the guard looks at, where it is asked about clients. -/
def checkedClientReference (user : AuthenticatedUser) (r : Request) (route : Route) : Option Str :=
  if clientsEnforced user route then getClientReferenceFromRequest r else none

/-- All that a handler may take for its client is a client that the user has access to, in the
warehouse of the request. -/
def ClientsInScope (toUpperCase : Str → Str) (user : AuthenticatedUser) (r : Request) : Prop :=
  ∀ reference∈handlerClientReferences r,
    hasClientAccess toUpperCase user reference (getWarehouseReference r)=true

theorem hasClientAccess_present {value : Option Str} {c reference : Str}
    (h : present value=some reference) :
    hasClientAccess toUpperCase user c value=
      hasClientAccess toUpperCase user c (some reference) := by
  unfold hasClientAccess
  obtain ⟨hvalue,hne⟩ := present_eq_some h
  rw [hvalue]

theorem checked_in_scope {c : Str} (hu : r.user=some user)
    (h : canActivate toUpperCase enforcement r route=.ok ())
    (hc : checkedClientReference user r route=some c) :
    hasClientAccess toUpperCase user c (getWarehouseReference r)=true := by
  unfold checkedClientReference at hc
  split at hc
  · rename_i henforced
    obtain ⟨reference,w,haccepted⟩ := canActivate_ok hu (requires_of_enforced henforced) h
    obtain ⟨c',hc',haccess⟩ := haccepted.client henforced
    rw [hc] at hc'
    cases hc'
    rw [hasClientAccess_present haccepted.named]
    exact haccess
  · cases hc

/-- The guard looks at one reference; the others have to be in scope on their own. -/
theorem client_scope (hu : r.user=some user)
    (h : canActivate toUpperCase enforcement r route=.ok ()) :
    ClientsInScope toUpperCase user r ↔ ∀ reference∈handlerClientReferences r,
      checkedClientReference user r route≠some reference →
        hasClientAccess toUpperCase user reference (getWarehouseReference r)=true := by
  constructor
  · intro hscope reference hmem _
    exact hscope reference hmem
  · intro hothers reference hmem
    by_cases hc : checkedClientReference user r route=some reference
    · exact checked_in_scope hu h hc
    · exact hothers reference hmem hc

end ClientScope

def demoClient (c : Char) (code : String) (hc : OrderUpdates.isHex c=true) : ClientAccess :=
  ⟨someUuid c hc,code.toList,none,none,true⟩

/-- Someone of client ACME in the main warehouse and the second one. -/
def demoUser : AuthenticatedUser where
  id := someUuid '5' OrderUpdates.isHex_five
  permissions := []
  warehouses := [⟨someUuid '1' OrderUpdates.isHex_one,"MAIN".toList,["billing.read".toList]⟩,
    ⟨someUuid '2' OrderUpdates.isHex_two,"SECOND".toList,["billing.read".toList]⟩]
  clientAccess := [demoClient '3' "ACME" (by decide)]

def billingRead : Route := {requiredWarehousePermissions := ["billing.read".toList]}

/-- The invoice of a client, with some headers. -/
def demoInvoice (client : String) (headers : String → List Str) : Request where
  headers := headers
  params := fun key => if key="warehouseId" then some "MAIN".toList
    else if key="clientReference" then some client.toList else none
  query := fun _ => none
  body := .null
  user := some demoUser

def demoUpper (s : Str) : Str := s.map Char.toUpper

theorem client_scope_demo :
    ClientsInScope demoUpper demoUser (demoInvoice "acme" fun _ => []) ↔
      ∀ reference∈handlerClientReferences (demoInvoice "acme" fun _ => []),
        checkedClientReference demoUser (demoInvoice "acme" fun _ => []) billingRead≠some reference →
          hasClientAccess demoUpper demoUser reference
            (getWarehouseReference (demoInvoice "acme" fun _ => []))=true :=
  client_scope rfl (by decide +kernel : canActivate demoUpper .block _ billingRead=.ok ())

def ownHeader (key : String) : List Str := if key="x-client-id" then ["ACME".toList] else []

/-- The header names the own client, the path another one. -/
theorem other_client_accepted : ¬∀ (toUpperCase : Str → Str) (enforcement : MfaEnforcement)
    (r : Request) (route : Route) (user : AuthenticatedUser), r.user=some user →
    shouldEnforceClientAccess user=true → canActivate toUpperCase enforcement r route=.ok () →
    ClientsInScope toUpperCase user r := by
  intro h
  have hscope := h demoUpper .block (demoInvoice "OTHER" ownHeader) billingRead demoUser rfl
    (by decide +kernel) (by decide +kernel)
  have hother := hscope "OTHER".toList (by decide +kernel)
  revert hother
  decide +kernel

section TenantScope
variable {toUpperCase : Str → Str} {enforcement : MfaEnforcement} {r : Request} {route : Route}
  {user : AuthenticatedUser} {context : TenantRlsContext}

/-- The warehouse that the user's permissions were asked for. -/
def checkedWarehouse (user : AuthenticatedUser) (r : Request) (route : Route) : Option Uuid :=
  if route.requiredWarehousePermissions=[] then none
  else ((present (getWarehouseReference r)).bind user.findWarehouse).map (·.warehouseId)

/-- The client that the user's access was asked for. -/
def checkedClient (toUpperCase : Str → Str) (user : AuthenticatedUser) (r : Request) (route : Route) :
    Option Uuid :=
  if clientsEnforced user route then
    (getClientReferenceFromRequest r).bind fun c =>
      (user.clientAccess.find? fun access => matchesClientAccess toUpperCase access
        (normalizeReference toUpperCase c)
        ((present (getWarehouseReference r)).map (normalizeReference toUpperCase))).map (·.clientId)
  else none

/-- One client; all clients are no one. -/
def TenantClient.id? : TenantClient → Option Uuid
  | .client id => some id
  | .every => none

/-- The identifiers of the context are those that the guard has asked about. -/
structure ScopesAgree (toUpperCase : Str → Str) (user : AuthenticatedUser) (r : Request)
    (route : Route) (context : TenantRlsContext) : Prop where
  warehouse : context.warehouseId=checkedWarehouse user r route
  client : context.clientId.bind TenantClient.id?=checkedClient toUpperCase user r route

/-- The first warehouse of the user that a reference names in any case, blanks around it aside. -/
def namedWarehouse (toUpperCase : Str → Str) (user : AuthenticatedUser) (reference : Str) :
    Option WarehouseAccess :=
  user.warehouses.find? fun w => matchesReference toUpperCase reference w.warehouseId.val w.warehouseCode

def namedClient (toUpperCase : Str → Str) (user : AuthenticatedUser) (reference : Str) :
    Option ClientAccess :=
  user.activeClientAccess.find? fun a =>
    matchesReference toUpperCase reference a.clientId.val a.clientCode

/-- With a warehouse permission: the reference of headers, path, query and body, in this order, names
the warehouse that the reference of path, query, body and headers is the id or code of; without any
reference the user has that warehouse only. Without a permission: no warehouse is found. -/
def SameWarehouse (toUpperCase : Str → Str) (user : AuthenticatedUser) (r : Request) (route : Route) :
    Prop :=
  if route.requiredWarehousePermissions=[] then
    user.warehouses=[] ∨ getExplicitWarehouseReference r=none ∧ user.warehouses.length≠1
  else ∀ reference∈getWarehouseReference r, ∀ w∈user.findWarehouse reference,
    match getExplicitWarehouseReference r with
    | some t => (namedWarehouse toUpperCase user t).map (·.warehouseId)=some w.warehouseId
    | none => user.warehouses=[w]

/-- Where the guard asks about clients: the first access that its reference names is one to the client
of the first access that it names in that warehouse. Elsewhere: no client is found. -/
def SameClient (toUpperCase : Str → Str) (user : AuthenticatedUser) (r : Request) (route : Route) :
    Prop :=
  if clientsEnforced user route then
    ∀ c∈getClientReferenceFromRequest r, ∀ a∈user.clientAccess.find? fun access =>
      matchesClientAccess toUpperCase access (normalizeReference toUpperCase c)
        ((present (getWarehouseReference r)).map (normalizeReference toUpperCase)),
      (namedClient toUpperCase user c).map (·.clientId)=some a.clientId
  else user.activeClientAccess=[] ∨
    getExplicitClientReference r=none ∧ user.activeClientAccess.length≠1

/-- A context as it is built, and that what a reference names was found. -/
structure Built (toUpperCase : Str → Str) (user : AuthenticatedUser) (r : Request)
    (context : TenantRlsContext) : Prop where
  warehouse : context.warehouseId=
    (((getExplicitWarehouseReference r).bind (namedWarehouse toUpperCase user)).map (·.warehouseId)).or
      (if (getExplicitWarehouseReference r).isNone then
        (single? user.warehouses).map (·.warehouseId) else none)
  client : context.clientId=resolveTenantClientContext user.activeClientAccess
    (getExplicitClientReference r).isSome
    (((getExplicitClientReference r).bind (namedClient toUpperCase user)).map (·.clientId))
    context.warehouseId
  clientNamed : ∀ c∈getExplicitClientReference r, user.activeClientAccess≠[] →
    namedClient toUpperCase user c≠none
  warehouseNamed : ∀ t∈getExplicitWarehouseReference r, user.warehouses≠[] →
    namedWarehouse toUpperCase user t≠none

theorem buildTenantContext_ok (hu : r.user=some user)
    (h : buildTenantContext toUpperCase r=.ok context) : Built toUpperCase user r context := by
  unfold buildTenantContext at h
  simp only [hu,Option.map_some,Option.getD_some] at h
  split at h
  · cases h
  · rename_i hclient
    split at h
    · cases h
    · rename_i hwarehouse
      cases h
      refine ⟨rfl,rfl,?_,?_⟩
      · intro c hc hne hnone
        refine hclient ⟨?_,hne,?_⟩
        · rw [Option.mem_def.mp hc]
          rfl
        · rw [Option.mem_def.mp hc]
          exact hnone
      · intro t ht hne hnone
        refine hwarehouse ⟨?_,hne,?_⟩
        · rw [Option.mem_def.mp ht]
          rfl
        · rw [Option.mem_def.mp ht]
          exact hnone

theorem single?_eq_some {α : Type} {as : List α} {a : α} : single? as=some a ↔ as=[a] := by
  cases as with
  | nil => simp [single?]
  | cons b bs =>
    cases bs with
    | nil => simp [single?]
    | cons c cs => simp [single?]

theorem single?_eq_none {α : Type} {as : List α} : single? as=none ↔ as.length≠1 := by
  cases as with
  | nil => simp [single?]
  | cons b bs =>
    cases bs with
    | nil => simp [single?]
    | cons c cs => simp [single?]

theorem Built.warehouse_none (h : Built toUpperCase user r context) : context.warehouseId=none ↔
    user.warehouses=[] ∨ getExplicitWarehouseReference r=none ∧ user.warehouses.length≠1 := by
  rw [h.warehouse]
  cases ht : getExplicitWarehouseReference r with
  | none => 
    simp only [Option.bind_none,Option.map_none,Option.none_or,Option.isNone_none,if_true,
      Option.map_eq_none_iff,single?_eq_none,true_and]
    constructor
    · exact .inr
    · intro hor
      cases hor with
      | inl hnil =>
        rw [hnil]
        exact Nat.zero_ne_one
      | inr hne => exact hne
  | some t =>
    simp only [Option.bind_some,Option.isNone_some,Bool.false_eq_true,if_false,Option.or_none,
      Option.map_eq_none_iff,reduceCtorEq,false_and,or_false]
    constructor
    · intro hnone
      by_contra hne
      exact h.warehouseNamed t ht hne hnone
    · intro hnil
      unfold namedWarehouse
      rw [hnil]
      rfl

theorem Built.client_none (h : Built toUpperCase user r context) :
    context.clientId.bind TenantClient.id?=none ↔ user.activeClientAccess=[] ∨
      getExplicitClientReference r=none ∧ user.activeClientAccess.length≠1 := by
  rw [h.client]
  unfold resolveTenantClientContext
  cases hc : getExplicitClientReference r with
  | none =>
    simp only [Option.bind_none,Option.map_none,Option.isSome_none,Bool.not_false,Bool.true_and,
      decide_eq_true_eq,true_and]
    split
    · rename_i hone
      obtain ⟨a,ha⟩ := List.length_eq_one_iff.mp hone
      simp [ha,single?,TenantClient.id?]
    · rename_i hnot
      simp only [ne_eq,hnot,not_false_eq_true,or_true,iff_true]
      split <;> rfl
  | some c =>
    simp only [Option.bind_some,reduceCtorEq,false_and,or_false]
    cases hnamed : namedClient toUpperCase user c with
    | none =>
      have hnil : user.activeClientAccess=[] := by
        by_contra hne
        exact h.clientNamed c hc hne hnamed
      simp only [Option.map_none,hnil,iff_true]
      split
      · rfl
      · split <;> rfl
    | some a =>
      simp only [Option.map_some,Option.bind_some,TenantClient.id?,reduceCtorEq,false_iff]
      exact List.ne_nil_of_mem (List.mem_of_find?_eq_some hnamed)

theorem warehouse_agrees (haccept : canActivate toUpperCase enforcement r route=.ok ())
    (hu : r.user=some user) (h : Built toUpperCase user r context) :
    context.warehouseId=checkedWarehouse user r route ↔ SameWarehouse toUpperCase user r route := by
  unfold checkedWarehouse SameWarehouse
  by_cases hroute : route.requiredWarehousePermissions=[]
  · rw [if_pos hroute,if_pos hroute]
    exact h.warehouse_none
  · obtain ⟨reference,w,haccepted⟩ := canActivate_ok hu hroute haccept
    have hreference := (present_eq_some haccepted.named).1
    have hmem : w∈user.warehouses := List.mem_of_find?_eq_some haccepted.found
    rw [if_neg hroute,if_neg hroute,haccepted.named,Option.bind_some,haccepted.found,hreference,
      h.warehouse]
    simp only [Option.mem_def,Option.some.injEq,forall_eq',haccepted.found,Option.map_some]
    cases getExplicitWarehouseReference r with
    | none =>
      simp only [Option.bind_none,Option.map_none,Option.none_or,Option.isNone_none,if_true,
        Option.map_eq_some_iff,single?_eq_some]
      constructor
      · intro hsingle
        obtain ⟨x,hx,_⟩ := hsingle
        rw [hx,List.mem_singleton] at hmem
        rw [hx,hmem]
      · intro hx
        exact ⟨w,hx,rfl⟩
    | some t =>
      simp only [Option.bind_some,Option.isNone_some,Bool.false_eq_true,if_false,Option.or_none]

theorem client_agrees (haccept : canActivate toUpperCase enforcement r route=.ok ())
    (hu : r.user=some user) (h : Built toUpperCase user r context) :
    context.clientId.bind TenantClient.id?=checkedClient toUpperCase user r route ↔
      SameClient toUpperCase user r route := by
  unfold checkedClient SameClient
  by_cases henforced : clientsEnforced user route=true
  · obtain ⟨reference,w,haccepted⟩ := canActivate_ok hu (requires_of_enforced henforced) haccept
    obtain ⟨c,hc,haccess⟩ := haccepted.client henforced
    have hrestricted : user.activeClientAccess≠[] := by
      have hsome := (Bool.and_eq_true_iff.mp henforced).1
      simpa [shouldEnforceClientAccess] using hsome
    have hexplicit : getExplicitClientReference r=some c := hc
    obtain ⟨b,hb⟩ := Option.ne_none_iff_exists'.mp (h.clientNamed c hexplicit hrestricted)
    have hfound : ∃ a, user.clientAccess.find? (fun access => matchesClientAccess toUpperCase access
        (normalizeReference toUpperCase c)
        ((present (getWarehouseReference r)).map (normalizeReference toUpperCase)))=some a := by
      rw [← hasClientAccess_present haccepted.named] at haccess
      exact Option.isSome_iff_exists.mp (List.find?_isSome.mpr (List.any_eq_true.mp haccess))
    obtain ⟨a,ha⟩ := hfound
    rw [if_pos henforced,if_pos henforced,h.client,hexplicit,hc]
    simp only [Option.bind_some,hb,Option.map_some,resolveTenantClientContext,TenantClient.id?,
      Option.mem_def,Option.some.injEq,forall_eq',ha]
  · rw [if_neg henforced,if_neg henforced]
    exact h.client_none

/-- Guard and row-level security read a request that the guard accepts in the same way exactly where
their references name the same warehouse and the same client. -/
theorem tenant_scope (hu : r.user=some user)
    (haccept : canActivate toUpperCase enforcement r route=.ok ())
    (hbuild : buildTenantContext toUpperCase r=.ok context) :
    ScopesAgree toUpperCase user r route context ↔
      SameWarehouse toUpperCase user r route ∧ SameClient toUpperCase user r route := by
  have hbuilt := buildTenantContext_ok hu hbuild
  rw [← warehouse_agrees haccept hu hbuilt,← client_agrees haccept hu hbuilt]
  exact ⟨fun h => ⟨h.warehouse,h.client⟩,fun h => ⟨h.1,h.2⟩⟩

end TenantScope

/-- All in the main warehouse, of client ACME. -/
def mainContext : TenantRlsContext :=
  ⟨some (.client (someUuid '3' OrderUpdates.isHex_three)),some (someUuid '1' OrderUpdates.isHex_one),false⟩

theorem tenant_scope_demo :
    ScopesAgree demoUpper demoUser (demoInvoice "acme" fun _ => []) billingRead mainContext ↔
      SameWarehouse demoUpper demoUser (demoInvoice "acme" fun _ => []) billingRead ∧
        SameClient demoUpper demoUser (demoInvoice "acme" fun _ => []) billingRead :=
  tenant_scope rfl (by decide +kernel : canActivate demoUpper .block _ billingRead=.ok ())
    (by decide +kernel)

def secondHeader (key : String) : List Str := if key="x-warehouse-id" then ["SECOND".toList] else []

/-- The guard asks about the warehouse of the path, the context has the one of the header. -/
theorem other_warehouse_in_context : ¬∀ (toUpperCase : Str → Str) (enforcement : MfaEnforcement)
    (r : Request) (route : Route) (user : AuthenticatedUser) (context : TenantRlsContext),
    r.user=some user → canActivate toUpperCase enforcement r route=.ok () →
    buildTenantContext toUpperCase r=.ok context →
    ScopesAgree toUpperCase user r route context := by
  intro h
  have hagree := h demoUpper .block (demoInvoice "ACME" secondHeader) billingRead demoUser
    {mainContext with warehouseId := some (someUuid '2' OrderUpdates.isHex_two)} rfl (by decide +kernel)
    (by decide +kernel)
  have hsame := hagree.warehouse
  revert hsame
  decide +kernel

end AardvarkWms.AccessControl
