import AardvarkWms.AccessControl
import AardvarkWms.Billing
import AardvarkWms.Texts

/-! The allowed status changes of the entities, `src/workflow`. -/
namespace AardvarkWms.Workflow

open Messaging (Str trim isWhiteSpace)
open Billing (replaceRuns)

inductive WmsWorkflowEntity
  | INBOUND_SHIPMENT | OUTBOUND_ORDER | WAREHOUSE_ORDER | WAREHOUSE_TASK | RESERVATION
  | SCANNER_SESSION | CYCLE_COUNT_PLAN | CYCLE_COUNT_TASK | REPLENISHMENT_DEMAND | SHIPMENT
  | SHIPMENT_PACKAGE
  deriving DecidableEq

namespace WmsWorkflowEntity

def all : List WmsWorkflowEntity :=
  [INBOUND_SHIPMENT,OUTBOUND_ORDER,WAREHOUSE_ORDER,WAREHOUSE_TASK,RESERVATION,SCANNER_SESSION,
   CYCLE_COUNT_PLAN,CYCLE_COUNT_TASK,REPLENISHMENT_DEMAND,SHIPMENT,SHIPMENT_PACKAGE]

def value : WmsWorkflowEntity → Str
  | INBOUND_SHIPMENT => "INBOUND_SHIPMENT".toList
  | OUTBOUND_ORDER => "OUTBOUND_ORDER".toList
  | WAREHOUSE_ORDER => "WAREHOUSE_ORDER".toList
  | WAREHOUSE_TASK => "WAREHOUSE_TASK".toList
  | RESERVATION => "RESERVATION".toList
  | SCANNER_SESSION => "SCANNER_SESSION".toList
  | CYCLE_COUNT_PLAN => "CYCLE_COUNT_PLAN".toList
  | CYCLE_COUNT_TASK => "CYCLE_COUNT_TASK".toList
  | REPLENISHMENT_DEMAND => "REPLENISHMENT_DEMAND".toList
  | SHIPMENT => "SHIPMENT".toList
  | SHIPMENT_PACKAGE => "SHIPMENT_PACKAGE".toList

end WmsWorkflowEntity

open WmsWorkflowEntity

/-- Every transition of the table asks for a permission. -/
structure WmsWorkflowTransition where
  entity : WmsWorkflowEntity
  fromStatus : Str
  toStatus : Str
  action : Str
  permission : Str
  reasonRequired : Bool
  terminal : Bool
  deriving DecidableEq

def transition (entity : WmsWorkflowEntity) (fromStatus toStatus action permission : String)
    (reasonRequired : Bool) : WmsWorkflowTransition :=
  ⟨entity,fromStatus.toList,toStatus.toList,action.toList,permission.toList,reasonRequired,false⟩

def WMS_WORKFLOW_TRANSITIONS : List WmsWorkflowTransition :=
  [transition .INBOUND_SHIPMENT "CREATED" "EXPECTED" "EXPECT" "inbound.manage" false,
   transition .INBOUND_SHIPMENT "EXPECTED" "RECEIVING" "START_RECEIVING" "inbound.manage" false,
   transition .INBOUND_SHIPMENT "RECEIVING" "RECEIVED" "CONFIRM_RECEIVED" "inbound.manage" false,
   transition .INBOUND_SHIPMENT "RECEIVED" "CLOSED" "CLOSE" "inbound.manage" false,
   transition .INBOUND_SHIPMENT "CREATED" "CANCELLED" "CANCEL" "inbound.manage" true,
   transition .INBOUND_SHIPMENT "EXPECTED" "CANCELLED" "CANCEL" "inbound.manage" true,
   transition .INBOUND_SHIPMENT "RECEIVING" "EXCEPTION" "RAISE_EXCEPTION" "exception.manage" true,
   transition .INBOUND_SHIPMENT "EXCEPTION" "RECEIVING" "RESOLVE_EXCEPTION" "exception.manage" true,
   transition .OUTBOUND_ORDER "DRAFT" "CREATED" "RELEASE" "outbound.manage" false,
   transition .OUTBOUND_ORDER "CREATED" "ALLOCATED" "ALLOCATE" "reservation.manage" false,
   transition .OUTBOUND_ORDER "ALLOCATED" "PICKING" "RELEASE_PICKING" "fulfillment.manage" false,
   transition .OUTBOUND_ORDER "PICKING" "PICKED" "CONFIRM_PICKED" "fulfillment.manage" false,
   transition .OUTBOUND_ORDER "PICKED" "PACKING" "START_PACKING" "shipment.manage" false,
   transition .OUTBOUND_ORDER "PACKING" "PACKED" "CONFIRM_PACKED" "shipment.manage" false,
   transition .OUTBOUND_ORDER "PACKED" "SHIPPED" "CONFIRM_SHIPPED" "shipment.manage" false,
   transition .OUTBOUND_ORDER "CREATED" "CANCELLED" "CANCEL" "outbound.manage" true,
   transition .OUTBOUND_ORDER "ALLOCATED" "CANCELLED" "CANCEL" "outbound.manage" true,
   transition .OUTBOUND_ORDER "PICKING" "EXCEPTION" "RAISE_EXCEPTION" "exception.manage" true,
   transition .OUTBOUND_ORDER "EXCEPTION" "ALLOCATED" "REALLOCATE" "fulfillment.manage" true,
   transition .OUTBOUND_ORDER "EXCEPTION" "CANCELLED" "CANCEL" "outbound.manage" true,
   transition .WAREHOUSE_ORDER "DRAFT" "RELEASED" "RELEASE" "warehouse-order.manage" false,
   transition .WAREHOUSE_ORDER "EXCEPTION" "RELEASED" "RELEASE" "warehouse-order.manage" true,
   transition .WAREHOUSE_ORDER "RELEASED" "IN_PROGRESS" "START" "warehouse-order.manage" false,
   transition .WAREHOUSE_ORDER "IN_PROGRESS" "PARTIALLY_COMPLETED" "PARTIAL_COMPLETE" "warehouse-order.manage" false,
   transition .WAREHOUSE_ORDER "RELEASED" "COMPLETED" "COMPLETE" "warehouse-order.manage" false,
   transition .WAREHOUSE_ORDER "IN_PROGRESS" "COMPLETED" "COMPLETE" "warehouse-order.manage" false,
   transition .WAREHOUSE_ORDER "PARTIALLY_COMPLETED" "COMPLETED" "COMPLETE" "warehouse-order.manage" false,
   transition .WAREHOUSE_ORDER "DRAFT" "CANCELLED" "CANCEL" "warehouse-order.manage" true,
   transition .WAREHOUSE_ORDER "RELEASED" "CANCELLED" "CANCEL" "warehouse-order.manage" true,
   transition .WAREHOUSE_ORDER "IN_PROGRESS" "CANCELLED" "CANCEL" "warehouse-order.manage" true,
   transition .WAREHOUSE_ORDER "PARTIALLY_COMPLETED" "CANCELLED" "CANCEL" "warehouse-order.manage" true,
   transition .WAREHOUSE_ORDER "RELEASED" "EXCEPTION" "RAISE_EXCEPTION" "exception.manage" true,
   transition .WAREHOUSE_ORDER "IN_PROGRESS" "EXCEPTION" "RAISE_EXCEPTION" "exception.manage" true,
   transition .WAREHOUSE_TASK "OPEN" "ASSIGNED" "ASSIGN" "task.manage" false,
   transition .WAREHOUSE_TASK "OPEN" "IN_PROGRESS" "START" "task.manage" false,
   transition .WAREHOUSE_TASK "ASSIGNED" "IN_PROGRESS" "START" "task.manage" false,
   transition .WAREHOUSE_TASK "IN_PROGRESS" "DONE" "COMPLETE" "task.manage" false,
   transition .WAREHOUSE_TASK "OPEN" "BLOCKED" "BLOCK" "task.manage" true,
   transition .WAREHOUSE_TASK "ASSIGNED" "BLOCKED" "BLOCK" "task.manage" true,
   transition .WAREHOUSE_TASK "IN_PROGRESS" "BLOCKED" "BLOCK" "task.manage" true,
   transition .WAREHOUSE_TASK "BLOCKED" "OPEN" "UNBLOCK" "task.manage" true,
   transition .WAREHOUSE_TASK "IN_PROGRESS" "FAILED" "FAIL" "task.manage" true,
   transition .WAREHOUSE_TASK "OPEN" "CANCELLED" "CANCEL" "task.manage" true,
   transition .WAREHOUSE_TASK "ASSIGNED" "CANCELLED" "CANCEL" "task.manage" true,
   transition .RESERVATION "ACTIVE" "PICKED" "PICK" "fulfillment.manage" false,
   transition .RESERVATION "ACTIVE" "RELEASED" "RELEASE" "reservation.manage" true,
   transition .RESERVATION "ACTIVE" "CANCELLED" "CANCEL" "reservation.manage" true,
   transition .SCANNER_SESSION "ACTIVE" "COMPLETED" "COMPLETE" "rf.manage" false,
   transition .SCANNER_SESSION "ACTIVE" "CANCELLED" "CANCEL" "rf.manage" true,
   transition .SCANNER_SESSION "ACTIVE" "EXPIRED" "EXPIRE" "rf.manage" false,
   transition .CYCLE_COUNT_PLAN "DRAFT" "RELEASED" "RELEASE" "cycle-count.manage" false,
   transition .CYCLE_COUNT_PLAN "RELEASED" "COUNTING" "START_COUNTING" "cycle-count.manage" false,
   transition .CYCLE_COUNT_PLAN "COUNTING" "RECONCILING" "SUBMIT_COUNTS" "cycle-count.manage" false,
   transition .CYCLE_COUNT_PLAN "RECONCILING" "APPROVED" "APPROVE" "cycle-count.manage" false,
   transition .CYCLE_COUNT_PLAN "DRAFT" "CANCELLED" "CANCEL" "cycle-count.manage" true,
   transition .CYCLE_COUNT_PLAN "RELEASED" "CANCELLED" "CANCEL" "cycle-count.manage" true,
   transition .CYCLE_COUNT_TASK "OPEN" "IN_PROGRESS" "START" "cycle-count.manage" false,
   transition .CYCLE_COUNT_TASK "IN_PROGRESS" "SUBMITTED" "SUBMIT" "cycle-count.manage" false,
   transition .CYCLE_COUNT_TASK "SUBMITTED" "APPROVED" "APPROVE" "cycle-count.manage" false,
   transition .CYCLE_COUNT_TASK "SUBMITTED" "REJECTED" "REJECT" "cycle-count.manage" true,
   transition .CYCLE_COUNT_TASK "OPEN" "CANCELLED" "CANCEL" "cycle-count.manage" true,
   transition .REPLENISHMENT_DEMAND "OPEN" "TASK_CREATED" "CREATE_TASK" "replenishment.manage" false,
   transition .REPLENISHMENT_DEMAND "TASK_CREATED" "COMPLETED" "CONFIRM_REPLENISHED" "replenishment.manage" false,
   transition .REPLENISHMENT_DEMAND "OPEN" "CANCELLED" "CANCEL" "replenishment.manage" true,
   transition .REPLENISHMENT_DEMAND "TASK_CREATED" "CANCELLED" "CANCEL" "replenishment.manage" true,
   transition .SHIPMENT "DRAFT" "PACKING" "START_PACKING" "shipment.manage" false,
   transition .SHIPMENT "PACKING" "STAGED" "STAGE" "shipment.manage" false,
   transition .SHIPMENT "STAGED" "LOADING" "START_LOADING" "shipment.manage" false,
   transition .SHIPMENT "STAGED" "SHIPPED" "SHIP" "shipment.manage" false,
   transition .SHIPMENT "LOADING" "SHIPPED" "SHIP" "shipment.manage" false,
   transition .SHIPMENT "PACKING" "EXCEPTION" "RAISE_EXCEPTION" "exception.manage" true,
   transition .SHIPMENT "EXCEPTION" "PACKING" "RESOLVE_EXCEPTION" "exception.manage" true,
   transition .SHIPMENT "DRAFT" "CANCELLED" "CANCEL" "shipment.manage" true,
   transition .SHIPMENT "PACKING" "CANCELLED" "CANCEL" "shipment.manage" true,
   transition .SHIPMENT_PACKAGE "OPEN" "PACKED" "PACK" "shipment.manage" false,
   transition .SHIPMENT_PACKAGE "PACKED" "STAGED" "STAGE" "shipment.manage" false,
   transition .SHIPMENT_PACKAGE "STAGED" "LOADED" "LOAD" "shipment.manage" false,
   transition .SHIPMENT_PACKAGE "LOADED" "SHIPPED" "SHIP" "shipment.manage" false,
   transition .SHIPMENT_PACKAGE "PACKED" "CANCELLED" "CANCEL" "shipment.manage" true]

def TERMINAL_STATUSES_BY_ENTITY : WmsWorkflowEntity → List Str
  | INBOUND_SHIPMENT => ["CLOSED","CANCELLED"].map String.toList
  | OUTBOUND_ORDER => ["SHIPPED","CANCELLED"].map String.toList
  | WAREHOUSE_ORDER => ["COMPLETED","CANCELLED"].map String.toList
  | WAREHOUSE_TASK => ["DONE","FAILED","CANCELLED"].map String.toList
  | RESERVATION => ["PICKED","RELEASED","CANCELLED"].map String.toList
  | SCANNER_SESSION => ["COMPLETED","CANCELLED","EXPIRED"].map String.toList
  | CYCLE_COUNT_PLAN => ["APPROVED","CANCELLED"].map String.toList
  | CYCLE_COUNT_TASK => ["APPROVED","CANCELLED"].map String.toList
  | REPLENISHMENT_DEMAND => ["COMPLETED","CANCELLED"].map String.toList
  | SHIPMENT => ["SHIPPED","CANCELLED"].map String.toList
  | SHIPMENT_PACKAGE => ["SHIPPED","CANCELLED"].map String.toList

def markTerminalTransition (t : WmsWorkflowTransition) : WmsWorkflowTransition :=
  {t with terminal := t.toStatus∈TERMINAL_STATUSES_BY_ENTITY t.entity}

inductive WorkflowIssueCode
  | UNKNOWN_ENTITY | UNKNOWN_STATUS | UNKNOWN_ACTION | INVALID_TARGET_STATUS | REASON_REQUIRED
  | PERMISSION_REQUIRED
  deriving DecidableEq

structure WorkflowTransitionIssue where
  code : WorkflowIssueCode
  message : Str
  deriving DecidableEq

structure WorkflowTransitionRequest where
  entity : Str
  currentStatus : Str
  action : Option Str := none
  targetStatus : Option Str := none
  reasonCode : Option Str := none
  actorPermissions : List Str := []

structure WorkflowTransitionEvaluation where
  allowed : Bool
  entity : Option WmsWorkflowEntity
  currentStatus : Str
  action : Option Str
  targetStatus : Option Str
  transition : Option WmsWorkflowTransition
  allowedTransitions : List WmsWorkflowTransition
  issues : List WorkflowTransitionIssue
  deriving DecidableEq

def baseEvaluation (entity : Option WmsWorkflowEntity) (currentStatus : Str)
    (action targetStatus : Option Str) (allowedTransitions : List WmsWorkflowTransition)
    (issues : List WorkflowTransitionIssue) : WorkflowTransitionEvaluation :=
  ⟨false,entity,currentStatus,action,targetStatus,none,allowedTransitions,issues⟩

/-- The transition that is asked for, among those from the status. -/
def requestedTransition (action targetStatus : Option Str) (allowed : List WmsWorkflowTransition) :
    Option WmsWorkflowTransition :=
  allowed.find? fun candidate =>
    action.all (· = candidate.action) && targetStatus.all (· = candidate.toStatus)

/-- Why none of the transitions from the status is the one asked for. -/
def noTransitionIssues (place : Str) (action targetStatus : Option Str)
    (allowed : List WmsWorkflowTransition) : List WorkflowTransitionIssue :=
  (action.toList.filter fun a => allowed.all fun t => t.action≠a).map
    (fun a => ⟨.UNKNOWN_ACTION,"Action ".toList++a++" is not valid from ".toList++place⟩)++
  (targetStatus.toList.filter fun s => allowed.all fun t => t.toStatus≠s).map
    (fun s => ⟨.INVALID_TARGET_STATUS,"Target status ".toList++s++" is not valid from ".toList++place⟩)++
  if action.isNone && targetStatus.isNone then [⟨.UNKNOWN_ACTION,
    "Provide action or targetStatus to validate a specific transition.".toList⟩] else []

/-- What a transition lacks. An actor without any permission is not asked for one. -/
def transitionIssues (t : WmsWorkflowTransition) (reasonCode : Option Str)
    (actorPermissions : List Str) : List WorkflowTransitionIssue :=
  (if t.reasonRequired && reasonCode.isNone then [⟨.REASON_REQUIRED,
    "Transition ".toList++t.action++" requires a reasonCode.".toList⟩] else [])++
  if t.permission≠[] && actorPermissions≠[] && t.permission∉actorPermissions then
    [⟨.PERMISSION_REQUIRED,"Transition ".toList++t.action++" requires permission ".toList++
      t.permission++".".toList⟩] else []

section Normalized
variable (lang : Language)

def normalizeStatus (value : Str) : Str :=
  lang.toUpperCase (replaceRuns (fun c => !(isWhiteSpace c || c = '-')) '_' false (trim value))

def normalizeOptionalStatus (value : Option Str) : Option Str :=
  (value.filter fun s => trim s≠[]).map (normalizeStatus lang)

def normalizePermission (value : Str) : Str := lang.toLowerCase (trim value)

def normalizeWorkflowEntity (value : Str) : Option WmsWorkflowEntity :=
  all.find? fun e => e.value=normalizeStatus lang value

/-- The rows of the table with an entity and a status. -/
def transitionsFrom (entity : WmsWorkflowEntity) (status : Str) : List WmsWorkflowTransition :=
  (WMS_WORKFLOW_TRANSITIONS.filter fun t => t.entity=entity && t.fromStatus=status).map
    markTerminalTransition

def getAllowedWorkflowTransitions (entityInput currentStatusInput : Str) :
    List WmsWorkflowTransition :=
  match normalizeWorkflowEntity lang entityInput with
  | none => []
  | some entity => transitionsFrom entity (normalizeStatus lang currentStatusInput)

/-- The evaluation once the transitions from the status are known. -/
def evaluateAmong (entity : WmsWorkflowEntity) (currentStatus : Str)
    (action targetStatus reasonCode : Option Str) (actorPermissions : List Str)
    (allowed : List WmsWorkflowTransition) : WorkflowTransitionEvaluation :=
  let place := entity.value++ '.'::currentStatus++".".toList
  if allowed=[] then baseEvaluation (some entity) currentStatus action targetStatus []
    [⟨.UNKNOWN_STATUS,"No workflow transitions are available from ".toList++place⟩]
  else match requestedTransition action targetStatus allowed with
    | none => baseEvaluation (some entity) currentStatus action targetStatus allowed
        (noTransitionIssues place action targetStatus allowed)
    | some t =>
      let issues := transitionIssues t reasonCode actorPermissions
      ⟨issues=[],some entity,currentStatus,some t.action,some t.toStatus,some t,allowed,issues⟩

def evaluateWorkflowTransition (input : WorkflowTransitionRequest) : WorkflowTransitionEvaluation :=
  let currentStatus := normalizeStatus lang input.currentStatus
  let action := normalizeOptionalStatus lang input.action
  let targetStatus := normalizeOptionalStatus lang input.targetStatus
  match normalizeWorkflowEntity lang input.entity with
  | none => baseEvaluation none currentStatus action targetStatus []
      [⟨.UNKNOWN_ENTITY,"Workflow entity ".toList++input.entity++" is not supported.".toList⟩]
  | some entity =>
    evaluateAmong entity currentStatus action targetStatus
      (normalizeOptionalStatus lang input.reasonCode)
      (input.actorPermissions.map (normalizePermission lang))
      (getAllowedWorkflowTransitions lang entity.value currentStatus)

end Normalized

theorem normalizeStatus_ascii (lang : Language) {value : Str}
    (h : isAscii (replaceRuns (fun c => !(isWhiteSpace c || c = '-')) '_' false (trim value))=true) :
    normalizeStatus lang value=normalizeStatus .ascii value := by
  unfold normalizeStatus
  rw [lang.toUpperCase_ascii _ h,Language.ascii.toUpperCase_ascii _ h]

theorem normalizeWorkflowEntity_value (lang : Language) (entity : WmsWorkflowEntity) :
    normalizeWorkflowEntity lang entity.value=some entity := by
  have hself : normalizeStatus lang entity.value=entity.value := by
    rw [normalizeStatus_ascii lang (by cases entity <;> decide +kernel)]
    cases entity <;> decide +kernel
  unfold normalizeWorkflowEntity
  rw [hself]
  cases entity <;> decide +kernel

theorem requestedTransition_mem {action targetStatus : Option Str}
    {allowed : List WmsWorkflowTransition} {t : WmsWorkflowTransition}
    (h : requestedTransition action targetStatus allowed=some t) : t∈allowed :=
  List.mem_of_find?_eq_some h

theorem exists_mem_ite {α : Type} {c : Prop} [Decidable c] {a : α} {P : α → Prop} :
    (∃ i∈if c then [a] else [], P i) ↔ c ∧ P a := by
  split <;> simp_all

theorem transitionIssues_permission (t : WmsWorkflowTransition) (reasonCode : Option Str)
    (actorPermissions : List Str) :
    (∃ i∈transitionIssues t reasonCode actorPermissions, i.code=.PERMISSION_REQUIRED) ↔
      t.permission≠[] ∧ actorPermissions≠[] ∧ t.permission∉actorPermissions := by
  unfold transitionIssues
  simp only [List.mem_append,or_and_right,exists_or,exists_mem_ite]
  simp only [reduceCtorEq,and_false,false_or,and_true,Bool.and_eq_true,decide_eq_true_eq,and_assoc]

section Evaluated
variable {lang : Language} {input : WorkflowTransitionRequest} {t : WmsWorkflowTransition}

/-- What is known of a transition that was found. -/
structure Found (lang : Language) (input : WorkflowTransitionRequest) (t : WmsWorkflowTransition) :
    Prop where
  listed : ∃ row∈WMS_WORKFLOW_TRANSITIONS, t=markTerminalTransition row
  entity : normalizeWorkflowEntity lang input.entity=some t.entity
  issues : (evaluateWorkflowTransition lang input).issues=
    transitionIssues t (normalizeOptionalStatus lang input.reasonCode)
      (input.actorPermissions.map (normalizePermission lang))

theorem evaluateAmong_found {entity : WmsWorkflowEntity} {currentStatus : Str}
    {action targetStatus reasonCode : Option Str} {actorPermissions : List Str}
    {allowed : List WmsWorkflowTransition}
    (h : (evaluateAmong entity currentStatus action targetStatus reasonCode actorPermissions
      allowed).transition=some t) :
    t∈allowed ∧ (evaluateAmong entity currentStatus action targetStatus reasonCode actorPermissions
      allowed).issues=transitionIssues t reasonCode actorPermissions := by
  unfold evaluateAmong at h ⊢
  by_cases hnone : allowed=[]
  · rw [if_pos hnone] at h
    cases h
  · rw [if_neg hnone] at h ⊢
    cases hreq : requestedTransition action targetStatus allowed with
    | none =>
      rw [hreq] at h
      cases h
    | some u =>
      rw [hreq] at h
      cases h
      exact ⟨requestedTransition_mem hreq,rfl⟩

theorem evaluateWorkflowTransition_found
    (h : (evaluateWorkflowTransition lang input).transition=some t) : Found lang input t := by
  cases hentity : normalizeWorkflowEntity lang input.entity with
  | none =>
    simp only [evaluateWorkflowTransition,hentity] at h
    cases h
  | some entity =>
    have heval : evaluateWorkflowTransition lang input=evaluateAmong entity
        (normalizeStatus lang input.currentStatus) (normalizeOptionalStatus lang input.action)
        (normalizeOptionalStatus lang input.targetStatus)
        (normalizeOptionalStatus lang input.reasonCode)
        (input.actorPermissions.map (normalizePermission lang))
        (getAllowedWorkflowTransitions lang entity.value (normalizeStatus lang input.currentStatus)) := by
      simp only [evaluateWorkflowTransition,hentity]
    rw [heval] at h
    obtain ⟨hmem,hissues⟩ := evaluateAmong_found h
    simp only [getAllowedWorkflowTransitions,normalizeWorkflowEntity_value,transitionsFrom,
      List.mem_map,List.mem_filter,Bool.and_eq_true,decide_eq_true_eq] at hmem
    obtain ⟨row,⟨hrow,hof,-⟩,rfl⟩ := hmem
    have hsame : (markTerminalTransition row).entity=entity := hof
    exact ⟨⟨row,hrow,rfl⟩,by rw [hentity,hsame],by rw [heval,hissues]⟩

end Evaluated

section Permissions
open AccessControl (Request getWarehouseReference present hasAllPermissions assertWarehousePermissions)
variable {lang : Language} {user : AccessControl.AuthenticatedUser} {r : Request}

/-- What a warehouse order is asked for by the workflow. -/
def orderRequest (user : AccessControl.AuthenticatedUser) (currentStatus : Str)
    (action targetStatus reasonCode : Option Str) : WorkflowTransitionRequest :=
  {entity := "WAREHOUSE_ORDER".toList
   currentStatus := currentStatus
   action := action
   targetStatus := targetStatus
   reasonCode := reasonCode
   actorPermissions := user.permissions}

def WorkflowTransitionEvaluation.LacksPermission (e : WorkflowTransitionEvaluation) : Prop :=
  ∃ i∈e.issues, i.code=.PERMISSION_REQUIRED

/-- An operation on a warehouse order that the workflow refuses for lack of permission is one for
which the guard refuses this permission in the warehouse of the request. -/
def PermissionsAgree (lang : Language) (user : AccessControl.AuthenticatedUser) (r : Request) :
    Prop :=
  ∀ currentStatus action targetStatus reasonCode t,
    (evaluateWorkflowTransition lang
      (orderRequest user currentStatus action targetStatus reasonCode)).transition=some t →
    (evaluateWorkflowTransition lang
      (orderRequest user currentStatus action targetStatus reasonCode)).LacksPermission →
    ∃ e, assertWarehousePermissions user r [t.permission]=.error e

def warehouseOrderPermissions : List Str :=
  ["warehouse-order.manage","exception.manage"].map String.toList

theorem warehouseOrderPermissions_of_listed {row : WmsWorkflowTransition}
    (hrow : row∈WMS_WORKFLOW_TRANSITIONS) (hentity : row.entity=.WAREHOUSE_ORDER) :
    row.permission∈warehouseOrderPermissions := by
  have hall : ∀ row∈WMS_WORKFLOW_TRANSITIONS, row.entity=.WAREHOUSE_ORDER →
      row.permission∈warehouseOrderPermissions := by decide +kernel
  exact hall row hrow hentity

/-- The user has the permission in the list of the workflow, or not in the request's warehouse. -/
def GrantsSeen (lang : Language) (user : AccessControl.AuthenticatedUser) (r : Request)
    (permission : Str) : Prop :=
  permission∈user.permissions.map (normalizePermission lang) ∨
    ∀ reference w, present (getWarehouseReference r)=some reference →
      user.findWarehouse reference=some w → "*".toList∉w.permissionCodes ∧ permission∉w.permissionCodes

theorem hasAllPermissions_one {available : List Str} {permission : Str} :
    hasAllPermissions available [permission]=false ↔
      "*".toList∉available ∧ permission∉available := by
  simp [hasAllPermissions]

theorem assertWarehousePermissions_error {permission : Str} :
    (∃ e, assertWarehousePermissions user r [permission]=.error e) ↔
      ∀ reference w, present (getWarehouseReference r)=some reference →
        user.findWarehouse reference=some w →
        "*".toList∉w.permissionCodes ∧ permission∉w.permissionCodes := by
  unfold assertWarehousePermissions
  cases href : present (getWarehouseReference r) with
  | none =>
    constructor
    · intro _ reference w href'
      cases href'
    · intro _
      exact ⟨_,rfl⟩
  | some reference =>
    cases hfind : user.findWarehouse reference with
    | none =>
      constructor
      · intro _ reference' w href' hfind'
        cases href'
        rw [hfind] at hfind'
        cases hfind'
      · intro _
        exact ⟨_,by simp only [hfind,Option.any_none]; rfl⟩
    | some w =>
      have hone : hasAllPermissions w.permissionCodes [permission]=false ↔
          "*".toList∉w.permissionCodes ∧ permission∉w.permissionCodes := hasAllPermissions_one
      cases hall : hasAllPermissions w.permissionCodes [permission] with
      | true =>
        constructor
        · rintro ⟨e,he⟩
          simp only [hfind,Option.any_some,hall] at he
          cases he
        · intro h
          have hfalse := hone.mpr (h reference w rfl hfind)
          rw [hall] at hfalse
          cases hfalse
      | false =>
        constructor
        · intro _ reference' w' href' hfind'
          cases href'
          rw [hfind] at hfind'
          cases hfind'
          exact hone.mp hall
        · intro _
          exact ⟨_,by simp only [hfind,Option.any_some,hall]; rfl⟩

theorem lacksPermission_iff {input : WorkflowTransitionRequest} {t : WmsWorkflowTransition}
    (h : Found lang input t) :
    (evaluateWorkflowTransition lang input).LacksPermission ↔ t.permission≠[] ∧
      input.actorPermissions≠[] ∧
        t.permission∉input.actorPermissions.map (normalizePermission lang) := by
  unfold WorkflowTransitionEvaluation.LacksPermission
  rw [h.issues,transitionIssues_permission]
  simp only [ne_eq,List.map_eq_nil_iff]

theorem evaluateWorkflowTransition_transition (lang : Language) (input : WorkflowTransitionRequest) :
    (evaluateWorkflowTransition lang input).transition=
      (normalizeWorkflowEntity lang input.entity).bind fun entity =>
        requestedTransition (normalizeOptionalStatus lang input.action)
          (normalizeOptionalStatus lang input.targetStatus)
          (getAllowedWorkflowTransitions lang entity.value (normalizeStatus lang input.currentStatus)) := by
  unfold evaluateWorkflowTransition
  cases normalizeWorkflowEntity lang input.entity with
  | none => rfl
  | some entity =>
    simp only [Option.bind_some,evaluateAmong]
    by_cases hnone : getAllowedWorkflowTransitions lang entity.value
        (normalizeStatus lang input.currentStatus)=[]
    · rw [if_pos hnone,hnone]
      rfl
    · rw [if_neg hnone]
      cases requestedTransition (normalizeOptionalStatus lang input.action)
        (normalizeOptionalStatus lang input.targetStatus)
        (getAllowedWorkflowTransitions lang entity.value (normalizeStatus lang input.currentStatus)) <;> rfl

theorem normalizeWorkflowEntity_order (lang : Language) :
    normalizeWorkflowEntity lang "WAREHOUSE_ORDER".toList=some .WAREHOUSE_ORDER :=
  normalizeWorkflowEntity_value lang .WAREHOUSE_ORDER

theorem normalizeOptionalStatus_some {lang : Language} {value : Str} (h : trim value≠[]) :
    normalizeOptionalStatus lang (some value)=some (normalizeStatus lang value) := by
  simp only [normalizeOptionalStatus,Option.filter_some,decide_eq_true h,if_true,Option.map_some]

theorem order_transition {status action : Str}
    (hstatus : normalizeStatus lang status=status) (haction : normalizeStatus lang action=action)
    (hsome : trim action≠[]) {reasonCode : Option Str} :
    (evaluateWorkflowTransition lang
      (orderRequest user status (some action) none reasonCode)).transition=
      requestedTransition (some action) none (transitionsFrom .WAREHOUSE_ORDER status) := by
  have haction' : normalizeOptionalStatus lang (some action)=some action := by
    rw [normalizeOptionalStatus_some hsome,haction]
  have hallowed : getAllowedWorkflowTransitions lang (WmsWorkflowEntity.value .WAREHOUSE_ORDER) status=
      transitionsFrom .WAREHOUSE_ORDER status := by
    unfold getAllowedWorkflowTransitions
    rw [normalizeWorkflowEntity_value,hstatus]
  rw [evaluateWorkflowTransition_transition]
  unfold orderRequest
  rw [normalizeWorkflowEntity_order,Option.bind_some,hstatus,hallowed,haction']
  rfl

theorem exists_operation (lang : Language) (user : AccessControl.AuthenticatedUser)
    {permission : Str}
    (h : permission∈warehouseOrderPermissions) :
    ∃ action t, (evaluateWorkflowTransition lang (orderRequest user "RELEASED".toList (some action)
      none none)).transition=some t ∧ t.permission=permission := by
  have hstatus : normalizeStatus lang "RELEASED".toList="RELEASED".toList := by
    rw [normalizeStatus_ascii lang (by decide +kernel)]
    decide +kernel
  have hcomplete : normalizeStatus lang "COMPLETE".toList="COMPLETE".toList := by
    rw [normalizeStatus_ascii lang (by decide +kernel)]
    decide +kernel
  have hraise : normalizeStatus lang "RAISE_EXCEPTION".toList="RAISE_EXCEPTION".toList := by
    rw [normalizeStatus_ascii lang (by decide +kernel)]
    decide +kernel
  simp only [warehouseOrderPermissions,List.map_cons,List.map_nil,List.mem_cons,List.not_mem_nil,
    or_false] at h
  cases h with
  | inl hmanage =>
    refine ⟨"COMPLETE".toList,markTerminalTransition (transition .WAREHOUSE_ORDER "RELEASED" "COMPLETED" "COMPLETE"
      "warehouse-order.manage" false),?_,hmanage.symm⟩
    rw [order_transition hstatus hcomplete (by decide +kernel)]
    decide +kernel
  | inr hexception =>
    refine ⟨"RAISE_EXCEPTION".toList,markTerminalTransition (transition .WAREHOUSE_ORDER "RELEASED" "EXCEPTION"
      "RAISE_EXCEPTION" "exception.manage" true),?_,hexception.symm⟩
    rw [order_transition hstatus hraise (by decide +kernel)]
    decide +kernel

/-- The guard knows the wildcard, the workflow does not; the workflow in turn asks nothing of an
actor without permissions. -/
theorem permissions_agree (lang : Language) (user : AccessControl.AuthenticatedUser) (r : Request) :
    PermissionsAgree lang user r ↔
      user.permissions=[] ∨ ∀ p∈warehouseOrderPermissions, GrantsSeen lang user r p := by
  constructor
  · intro hagree
    by_cases hempty : user.permissions=[]
    · exact Or.inl hempty
    refine Or.inr ?_
    intro p hp
    by_cases hlisted : p∈user.permissions.map (normalizePermission lang)
    · exact Or.inl hlisted
    obtain ⟨action,t,ht,rfl⟩ := exists_operation lang user hp
    have hnonempty : t.permission≠[] := by
      intro hnil
      rw [hnil] at hp
      revert hp
      decide
    have hlacks := (lacksPermission_iff (evaluateWorkflowTransition_found ht)).mpr
      ⟨hnonempty,hempty,hlisted⟩
    exact Or.inr (assertWarehousePermissions_error.mp (hagree _ _ _ _ t ht hlacks))
  · intro hseen currentStatus action targetStatus reasonCode t ht hlacks
    have hfound := evaluateWorkflowTransition_found ht
    obtain ⟨-,hsome,hnot⟩ := (lacksPermission_iff hfound).mp hlacks
    obtain ⟨row,hrow,rfl⟩ := hfound.listed
    have hof : row.entity=.WAREHOUSE_ORDER :=
      Option.some.inj (hfound.entity.symm.trans (normalizeWorkflowEntity_order lang))
    have hp := warehouseOrderPermissions_of_listed hrow hof
    refine assertWarehousePermissions_error.mpr ?_
    cases hseen with
    | inl hempty => exact absurd hempty hsome
    | inr hall =>
      cases hall row.permission hp with
      | inl hlisted => exact absurd hlisted hnot
      | inr hrefused => exact hrefused

end Permissions

section Demo
open AccessControl
open OrderUpdates (someUuid)

/-- Someone with the wildcard in the main warehouse, and so in the list of all permissions. -/
def wildcardUser : AccessControl.AuthenticatedUser where
  id := someUuid '5' OrderUpdates.isHex_five
  permissions := ["*".toList]
  warehouses := [⟨someUuid '1' OrderUpdates.isHex_one,"MAIN".toList,["*".toList]⟩]
  clientAccess := []

def mainRequest : Request where
  headers := fun _ => []
  params := fun key => if key="warehouseId" then some "MAIN".toList else none
  query := fun _ => none
  body := .null
  user := some wildcardUser

/-- The guard accepts the wildcard for what the workflow refuses. -/
theorem wildcard_refused : ¬∀ (lang : Language) (user : AccessControl.AuthenticatedUser)
    (r : Request),
    PermissionsAgree lang user r := by
  intro h
  have hp : "warehouse-order.manage".toList∈warehouseOrderPermissions := by decide
  obtain ⟨action,t,ht,hmanage⟩ := exists_operation .ascii wildcardUser hp
  have hnot : "warehouse-order.manage".toList∉wildcardUser.permissions.map (normalizePermission .ascii) := by
    decide +kernel
  rw [← hmanage] at hnot
  have hlacks := (lacksPermission_iff (evaluateWorkflowTransition_found ht)).mpr
    ⟨by rw [hmanage]; decide,(by decide : wildcardUser.permissions≠[]),hnot⟩
  have hrefused := assertWarehousePermissions_error.mp (h _ _ mainRequest _ _ _ _ t ht hlacks)
    "MAIN".toList ⟨someUuid '1' OrderUpdates.isHex_one,"MAIN".toList,["*".toList]⟩ (by decide +kernel)
    (by decide +kernel)
  exact hrefused.1 (by decide)

end Demo
end AardvarkWms.Workflow
