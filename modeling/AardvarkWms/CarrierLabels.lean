import AardvarkWms.Billing
import AardvarkWms.Histories
import AardvarkWms.Staging

/-! The carrier labels of `src/carriers/carriers.service.ts` with its local adapter: made under a
reference that is a hash, and voided. -/
namespace AardvarkWms.CarrierLabels

open Messaging (Str trim isWhiteSpace)
open OrderUpdates (Uuid ServiceError someUuid)
open Staging (CarrierLabelStatus ShipmentPackageStatus)

structure Shipment where
  id : Uuid
  shipmentNumber : Str
  serviceLevel : Option Str
  deriving DecidableEq

structure ShipmentPackage where
  id : Uuid
  shipmentId : Uuid
  packageCode : Str
  status : ShipmentPackageStatus
  weightGrams : Option ℤ
  trackingNumber : Option Str
  deriving DecidableEq

inductive LabelFormat
  | ZPL | PDF
  deriving DecidableEq

structure CarrierLabel where
  id : ℕ
  ownerClientId : Option Uuid
  shipmentId : Uuid
  packageId : Option Uuid
  labelReference : Str
  status : CarrierLabelStatus
  carrier : Str
  serviceLevel : Option Str
  trackingNumber : Str
  labelFormat : LabelFormat
  errorMessage : Option Str
  deriving DecidableEq

/-- The tables of one warehouse; its packages stand in the order they were made in. -/
structure Db where
  shipments : List Shipment
  packages : List ShipmentPackage
  labels : List CarrierLabel
  deriving DecidableEq

structure CreateCarrierLabelDto where
  shipmentReference : Str
  packageReference : Option Str := none
  serviceLevel : Option Str := none
  idempotencyKey : Option Str := none
  environment : Option Str := none
  weightGrams : Option ℤ := none
  ownerClientReference : Option Str := none
  deriving DecidableEq

inductive LabelIssue
  | WAREHOUSE_REQUIRED | SHIPMENT_REQUIRED | PACKAGE_REQUIRED_FOR_CARRIER_LABEL | INVALID_WEIGHT
  deriving DecidableEq

inductive LabelError
  | refused (e : ServiceError)
  | invalid (issues : List LabelIssue)
  deriving DecidableEq

structure CarrierLabelRequest where
  warehouseId : Uuid
  shipmentId : Uuid
  shipmentNumber : Str
  packageId : Option Uuid
  packageCode : Option Str
  carrier : Str
  serviceLevel : Option Str
  weightGrams : Option ℤ
  idempotencyKey : Option Str
  deriving DecidableEq

structure CarrierLabelResult where
  carrier : Str
  serviceLevel : Option Str
  labelReference : Str
  trackingNumber : Str
  labelFormat : LabelFormat
  idempotencyKey : Str
  deriving DecidableEq

structure CreateCarrierLabelResponse where
  duplicate : Bool
  label : CarrierLabel
  adapter : CarrierLabelResult
  deriving DecidableEq

structure VoidCarrierLabelResponse where
  labelReference : Str
  carrier : Str
  status : CarrierLabelStatus
  voided : Bool
  deriving DecidableEq

/-- What the calls of one warehouse rest on and never write: the language and its hash, who owns a
package or its shipment, and the credentials, which may fail to open. -/
structure Carriers where
  runtime : OrderUpdates.Runtime
  warehouseId : Uuid
  shortHash : Str → Str
  length_shortHash : ∀ s, (shortHash s).length=16
  resolveOperationOwner : Option Str → Option Uuid → Uuid → Except ServiceError (Option Uuid)
  resolveCarrierCredentialContext : Str → Option Str → Except ServiceError (Option Str)

namespace Carriers
variable (env : Carriers)

def normalizeToken (value : Str) : Str :=
  env.runtime.toUpperCase
    (Billing.replaceRuns (fun c => !(isWhiteSpace c || c = '-')) '_' false (trim value))

def normalizeCarrierCode (value : Str) : Str :=
  if env.normalizeToken value=[] then "INTERNAL".toList else env.normalizeToken value

def carrierRequiresLabel (carrier : Str) : Bool :=
  env.normalizeCarrierCode carrier∉["INTERNAL".toList,"PICKUP".toList,"WILL_CALL".toList,
    "CUSTOMER_PICKUP".toList]

/-- `supportsVoid` of the carrier's service profile. -/
def supportsVoid (carrierInput : Str) : Bool :=
  env.carrierRequiresLabel (env.normalizeCarrierCode carrierInput)

def validateCarrierLabelRequest (input : CarrierLabelRequest) : List LabelIssue :=
  (if input.warehouseId.val=[] then [.WAREHOUSE_REQUIRED] else [])++
  (if input.shipmentId.val=[] ∨ input.shipmentNumber=[] then [.SHIPMENT_REQUIRED] else [])++
  (if env.carrierRequiresLabel (env.normalizeCarrierCode input.carrier) ∧ input.packageId=none
    then [.PACKAGE_REQUIRED_FOR_CARRIER_LABEL] else [])++
  (if input.weightGrams.any (· ≤ 0) then [.INVALID_WEIGHT] else [])

def normalizeIdempotencyKey (input : CarrierLabelRequest) : Str :=
  (Messaging.normalizeOptional input.idempotencyKey).getD
    (env.shortHash (input.carrier++ ':'::(input.shipmentId.val++
      ':'::(input.packageId.elim "shipment".toList (·.val)))))

def labelReferenceOf (input : CarrierLabelRequest) : Str :=
  env.normalizeCarrierCode input.carrier++ '-'::env.shortHash (input.shipmentNumber++
    ':'::((input.packageCode.orElse fun _ => input.packageId.map (·.val)).getD "SHIPMENT".toList++
      ':'::env.normalizeIdempotencyKey input))

/-- What the tracking number hashes. -/
def trackingText (labelReference : Str) : Str := labelReference++ ':'::env.warehouseId.val

/-- The local adapter, `createMockCarrierLabelResult`. -/
def createMockCarrierLabelResult (input : CarrierLabelRequest) : CarrierLabelResult :=
  let carrier := env.normalizeCarrierCode input.carrier
  {carrier
   serviceLevel := input.serviceLevel
   labelReference := env.labelReferenceOf input
   trackingNumber := carrier++ '-'::(env.shortHash (env.trackingText
     (env.labelReferenceOf input))).take 14
   labelFormat := if carrier="CARRIER_D".toList then .PDF else .ZPL
   idempotencyKey := env.normalizeIdempotencyKey input}

section Service
variable (s : Db)

def resolveShipment (reference : Str) : Except ServiceError Shipment :=
  OrderUpdates.orElseThrow (s.shipments.find? fun x =>
      OrderUpdates.Runtime.referenceWhere (env.runtime.normalizeReference reference) reference x.id
        x.shipmentNumber)
    (.notFound "Shipment was not found")

def resolveShipmentPackage (shipmentId : Uuid) (reference : Str) :
    Except ServiceError ShipmentPackage :=
  OrderUpdates.orElseThrow (s.packages.find? fun p => p.shipmentId=shipmentId &&
      OrderUpdates.Runtime.referenceWhere (env.runtime.normalizeReference reference) reference p.id
        p.packageCode)
    (.notFound "Shipment package was not found")

def resolveFirstShipmentPackage (shipmentId : Uuid) : Option ShipmentPackage :=
  s.packages.find? fun p => p.shipmentId=shipmentId && p.status∈[.PACKED,.STAGED,.LOADED,.SHIPPED]

def resolvePackage (shipmentId : Uuid) (dto : CreateCarrierLabelDto) :
    Except ServiceError (Option ShipmentPackage) :=
  match dto.packageReference with
  | none | some [] => .ok (resolveFirstShipmentPackage s shipmentId)
  | some reference => (env.resolveShipmentPackage s shipmentId reference).map some

def carrierLabelRequest (shipment : Shipment) (shipmentPackage : Option ShipmentPackage)
    (carrier : Str) (dto : CreateCarrierLabelDto) : CarrierLabelRequest where
  warehouseId := env.warehouseId
  shipmentId := shipment.id
  shipmentNumber := shipment.shipmentNumber
  packageId := shipmentPackage.map (·.id)
  packageCode := shipmentPackage.map (·.packageCode)
  carrier := carrier
  serviceLevel := dto.serviceLevel.orElse fun _ => shipment.serviceLevel
  weightGrams := dto.weightGrams.orElse fun _ => shipmentPackage.bind (·.weightGrams)
  idempotencyKey := dto.idempotencyKey

/-- `createLabel` up to the adapter's answer: the request, or why there is none, and the owner. -/
def prepareLabel (carrier : Str) (dto : CreateCarrierLabelDto) :
    Except LabelError (CarrierLabelRequest × Option Uuid) :=
  match env.resolveShipment s dto.shipmentReference with
  | .error e => .error (.refused e)
  | .ok shipment =>
  match env.resolvePackage s shipment.id dto with
  | .error e => .error (.refused e)
  | .ok shipmentPackage =>
  match env.resolveOperationOwner dto.ownerClientReference (shipmentPackage.map (·.id))
      shipment.id with
  | .error e => .error (.refused e)
  | .ok owner =>
  if env.carrierRequiresLabel carrier ∧ shipmentPackage=none then
    .error (.refused (.conflict "Carrier label requires a shipment package"))
  else
    let request := env.carrierLabelRequest shipment shipmentPackage carrier dto
    if env.validateCarrierLabelRequest request≠[] then
      .error (.invalid (env.validateCarrierLabelRequest request))
    else
      match env.resolveCarrierCredentialContext carrier dto.environment with
      | .error e => .error (.refused e)
      | .ok _ => .ok (request,owner)

def newLabel (request : CarrierLabelRequest) (owner : Option Uuid) : CarrierLabel :=
  let adapter := env.createMockCarrierLabelResult request
  {id := s.labels.length
   ownerClientId := owner
   shipmentId := request.shipmentId
   packageId := request.packageId
   labelReference := adapter.labelReference
   status := .GENERATED
   carrier := request.carrier
   serviceLevel := adapter.serviceLevel
   trackingNumber := adapter.trackingNumber
   labelFormat := adapter.labelFormat
   errorMessage := none}

/-- The package that is labelled carries the label's tracking number. -/
def setTracking (packageId : Option Uuid) (trackingNumber : Str) (p : ShipmentPackage) :
    ShipmentPackage :=
  if packageId=some p.id then {p with trackingNumber := some trackingNumber} else p

def createLabel (carrierInput : Str) (dto : CreateCarrierLabelDto) :
    Except LabelError (CreateCarrierLabelResponse × Db) :=
  match env.prepareLabel s (env.normalizeCarrierCode carrierInput) dto with
  | .error e => .error e
  | .ok (request,owner) =>
    let adapter := env.createMockCarrierLabelResult request
    match s.labels.find? (·.labelReference=adapter.labelReference) with
    | some existing => .ok (⟨true,existing,adapter⟩,s)
    | none =>
      let label := env.newLabel s request owner
      .ok (⟨false,label,adapter⟩,{s with
        labels := s.labels++[label]
        packages := s.packages.map (setTracking request.packageId adapter.trackingNumber)})

def cancelLabel (label : CarrierLabel) (reasonCode : Option Str) (l : CarrierLabel) :
    CarrierLabel :=
  if l.id=label.id then
    {l with status := .CANCELLED, errorMessage := some (reasonCode.getD "VOIDED".toList)}
  else l

def voidLabel (carrierInput labelReference : Str) (reasonCode : Option Str) :
    Except LabelError (VoidCarrierLabelResponse × Db) :=
  let carrier := env.normalizeCarrierCode carrierInput
  if env.supportsVoid carrier=false then
    .error (.refused (.conflict
      (s!"Carrier {String.ofList carrier} does not support label voiding")))
  else
    match s.labels.find? fun l => l.labelReference=labelReference && l.carrier=carrier with
    | none => .error (.refused (.notFound "Carrier label was not found"))
    | some label =>
      if label.status=.CANCELLED then .ok (⟨label.labelReference,carrier,label.status,false⟩,s)
      else if label.status=.PRINTED then
        .error (.refused
          (.conflict "Printed labels cannot be voided without supervisor override"))
      else .ok (⟨label.labelReference,carrier,.CANCELLED,true⟩,
        {s with labels := s.labels.map (cancelLabel label reasonCode)})

inductive Call
  | createLabel (carrierInput : Str) (dto : CreateCarrierLabelDto)
  | voidLabel (carrierInput labelReference : Str) (reasonCode : Option Str)
  deriving DecidableEq

/-- A call that is refused leaves the tables as they were. -/
def after (call : Call) : Db :=
  match call with
  | .createLabel carrierInput dto =>
    match env.createLabel s carrierInput dto with
    | .ok (_,t) => t
    | .error _ => s
  | .voidLabel carrierInput labelReference reasonCode =>
    match env.voidLabel s carrierInput labelReference reasonCode with
    | .ok (_,t) => t
    | .error _ => s

end Service

end Carriers

/-- The label check of `assertShipmentReadyToShip`, of one package. -/
def Db.missingPackageLabel (s : Db) (shipmentId packageId : Uuid) : Bool :=
  let labels := s.labels.filter fun l => l.shipmentId=shipmentId && l.status∈[.GENERATED,.PRINTED]
  !labels.any (·.packageId.isNone) && !labels.any (·.packageId=some packageId)

section Requests
variable {env : Carriers} {s t : Db} {packageId : Option Uuid} {trackingNumber : Str}
open Carriers (setTracking resolveFirstShipmentPackage)

/-- What a request reads of a package is not its tracking number. -/
def ShipmentPackage.untracked (p : ShipmentPackage) : ShipmentPackage :=
  {p with trackingNumber := none}

@[simp] theorem untracked_setTracking (p : ShipmentPackage) :
    (setTracking packageId trackingNumber p).untracked=p.untracked := by
  unfold setTracking
  split <;> rfl

theorem find?_tracked {q : ShipmentPackage → Bool} (hq : ∀ p, q p=q p.untracked)
    {ps qs : List ShipmentPackage} (h : ps.map (·.untracked)=qs.map (·.untracked)) :
    (ps.find? q).map (·.untracked)=(qs.find? q).map (·.untracked) := by
  have hfind : ∀ l : List ShipmentPackage,
      (l.find? q).map (·.untracked)=(l.map (·.untracked)).find? q := by
    intro l
    have hsame : q ∘ ShipmentPackage.untracked=q := funext fun p => (hq p).symm
    rw [List.find?_map,hsame]
  rw [hfind,hfind,h]

/-- The same shipments, and the same packages but for their tracking numbers. -/
structure SameParcels (s t : Db) : Prop where
  shipments : t.shipments=s.shipments
  packages : t.packages.map (·.untracked)=s.packages.map (·.untracked)

theorem SameParcels.refl (s : Db) : SameParcels s s := ⟨rfl,rfl⟩

theorem SameParcels.trans {s t u : Db} (h : SameParcels s t) (h' : SameParcels t u) :
    SameParcels s u :=
  ⟨h'.shipments.trans h.shipments,h'.packages.trans h.packages⟩

theorem SameParcels.resolvePackage (h : SameParcels s t) (env : Carriers) (shipmentId : Uuid)
    (dto : CreateCarrierLabelDto) :
    (env.resolvePackage t shipmentId dto).map (Option.map (·.untracked))=
      (env.resolvePackage s shipmentId dto).map (Option.map (·.untracked)) := by
  have hfirst : (resolveFirstShipmentPackage t shipmentId).map (·.untracked)=
      (resolveFirstShipmentPackage s shipmentId).map (·.untracked) :=
    find?_tracked (fun p => rfl) h.packages
  have hnamed : ∀ reference, ((env.resolveShipmentPackage t shipmentId reference).map some).map
      (Option.map (·.untracked))=((env.resolveShipmentPackage s shipmentId reference).map some).map
        (Option.map (·.untracked)) := by
    intro reference
    have hfound := find?_tracked (q := fun p => p.shipmentId=shipmentId &&
      OrderUpdates.Runtime.referenceWhere (env.runtime.normalizeReference reference) reference p.id
        p.packageCode) (fun p => rfl) h.packages
    unfold Carriers.resolveShipmentPackage OrderUpdates.orElseThrow
    cases hp : t.packages.find? _ with
    | none =>
      rw [hp] at hfound
      have hq := Option.map_eq_none_iff.mp hfound.symm
      rw [hq]
    | some p =>
      rw [hp] at hfound
      obtain ⟨q,hq,hqp⟩ := Option.map_eq_some_iff.mp hfound.symm
      rw [hq]
      simpa [Except.map] using hqp.symm
  unfold Carriers.resolvePackage
  cases dto.packageReference with
  | none => simpa [Except.map] using hfirst
  | some reference =>
    cases reference with
    | nil => simpa [Except.map] using hfirst
    | cons c cs => exact hnamed (c::cs)

theorem SameParcels.prepareLabel (h : SameParcels s t) (env : Carriers) (carrier : Str)
    (dto : CreateCarrierLabelDto) : env.prepareLabel t carrier dto=env.prepareLabel s carrier dto := by
  have hshipment : ∀ reference, env.resolveShipment t reference=env.resolveShipment s reference := by
    intro reference
    unfold Carriers.resolveShipment
    rw [h.shipments]
  unfold Carriers.prepareLabel
  rw [hshipment]
  cases env.resolveShipment s dto.shipmentReference with
  | error e => rfl
  | ok shipment =>
    have hpackage := h.resolvePackage env shipment.id dto
    cases ht : env.resolvePackage t shipment.id dto with
    | error e =>
      cases hs : env.resolvePackage s shipment.id dto with
      | error e' =>
        rw [ht,hs] at hpackage
        have he : e=e' := by simpa [Except.map] using hpackage
        simp [ht,hs,he]
      | ok p => simp [ht,hs,Except.map] at hpackage
    | ok p =>
      cases hs : env.resolvePackage s shipment.id dto with
      | error e => simp [ht,hs,Except.map] at hpackage
      | ok q =>
        rw [ht,hs] at hpackage
        have hpq : p.map (·.untracked)=q.map (·.untracked) := by
          simpa [Except.map] using hpackage
        have hcolumn : ∀ {β : Type} (f : ShipmentPackage → β), (∀ x, f x.untracked=f x) →
            p.map f=q.map f := by
          intro β f hf
          have hmap := congrArg (Option.map f) hpq
          have hcomp : f ∘ ShipmentPackage.untracked=f := funext hf
          simpa [hcomp] using hmap
        have hid := hcolumn (·.id) fun _ => rfl
        have hcode := hcolumn (·.packageCode) fun _ => rfl
        have hweight : p.bind (·.weightGrams)=q.bind (·.weightGrams) := by
          have hmap := hcolumn (·.weightGrams) fun _ => rfl
          cases p <;> cases q <;> simp_all
        have hnone : p=none ↔ q=none := by
          cases p <;> cases q <;> simp_all
        have hrequest : env.carrierLabelRequest shipment p carrier dto=
            env.carrierLabelRequest shipment q carrier dto := by
          unfold Carriers.carrierLabelRequest
          rw [hid,hcode,hweight]
        simp only [ht,hs,hid,hnone,hrequest]

end Requests

section Steps
variable {env : Carriers} {s t : Db} {carrierInput reference : Str} {dto : CreateCarrierLabelDto}
  {reasonCode : Option Str} {r : CreateCarrierLabelResponse} {request : CarrierLabelRequest}
  {owner : Option Uuid}
open Carriers (setTracking cancelLabel)

/-- The tables with one label more. -/
def Db.labelled (s : Db) (label : CarrierLabel) : Db :=
  {s with
    labels := s.labels++[label]
    packages := s.packages.map (setTracking label.packageId label.trackingNumber)}

@[simp] theorem labelReference_mock (request : CarrierLabelRequest) :
    (env.createMockCarrierLabelResult request).labelReference=env.labelReferenceOf request := rfl

theorem createLabel_cases (h : env.createLabel s carrierInput dto=.ok (r,t)) :
    ∃ request owner,
      env.prepareLabel s (env.normalizeCarrierCode carrierInput) dto=.ok (request,owner) ∧
      r.adapter=env.createMockCarrierLabelResult request ∧
      ((r.label∈s.labels ∧ r.label.labelReference=env.labelReferenceOf request ∧ t=s) ∨
        ((∀ l∈s.labels, l.labelReference≠env.labelReferenceOf request) ∧
          r.label=env.newLabel s request owner ∧ t=s.labelled (env.newLabel s request owner))) := by
  unfold Carriers.createLabel at h
  cases hprepare : env.prepareLabel s (env.normalizeCarrierCode carrierInput) dto with
  | error e => simp [hprepare] at h
  | ok prepared =>
    obtain ⟨request,owner⟩ := prepared
    refine ⟨request,owner,rfl,?_⟩
    simp only [hprepare] at h
    cases hfind : s.labels.find?
        (·.labelReference=(env.createMockCarrierLabelResult request).labelReference) with
    | some existing =>
      simp only [hfind] at h
      cases h
      have hreference := List.find?_some hfind
      exact ⟨rfl,.inl ⟨List.mem_of_find?_eq_some hfind,of_decide_eq_true hreference,rfl⟩⟩
    | none =>
      simp only [hfind] at h
      cases h
      have hfresh := List.find?_eq_none.mp hfind
      exact ⟨rfl,.inr ⟨fun l hl hr => hfresh l hl (decide_eq_true hr),rfl,rfl⟩⟩

theorem createLabel_existing
    (hprepare : env.prepareLabel s (env.normalizeCarrierCode carrierInput) dto=.ok (request,owner))
    {l : CarrierLabel} (hl : l∈s.labels) (hreference : l.labelReference=env.labelReferenceOf request)
    (hunique : ∀ l'∈s.labels, l'.labelReference=l.labelReference → l'=l) :
    env.createLabel s carrierInput dto=
      .ok (⟨true,l,env.createMockCarrierLabelResult request⟩,s) := by
  have hfind : s.labels.find?
      (·.labelReference=(env.createMockCarrierLabelResult request).labelReference)=some l := by
    apply Table.find?_unique hl
    · exact decide_eq_true hreference
    · intro l' hl' hr
      have href : l'.labelReference=env.labelReferenceOf request := of_decide_eq_true hr
      exact hunique l' hl' (href.trans hreference.symm)
  unfold Carriers.createLabel
  simp only [hprepare,hfind]

theorem voidLabel_cases {v : VoidCarrierLabelResponse}
    (h : env.voidLabel s carrierInput reference reasonCode=.ok (v,t)) :
    t=s ∨ ∃ label∈s.labels, label.status≠.PRINTED ∧
      t={s with labels := s.labels.map (cancelLabel label reasonCode)} := by
  unfold Carriers.voidLabel at h
  simp only at h
  split at h
  · cases h
  · split at h
    · cases h
    · next label hfind =>
      split at h
      · cases h
        exact .inl rfl
      · split at h
        · cases h
        · next hprinted =>
          cases h
          exact .inr ⟨label,List.mem_of_find?_eq_some hfind,hprinted,rfl⟩

theorem cancelLabel_columns (label : CarrierLabel) (reasonCode : Option Str) (l : CarrierLabel) :
    (cancelLabel label reasonCode l).id=l.id ∧
      (cancelLabel label reasonCode l).labelReference=l.labelReference ∧
      (cancelLabel label reasonCode l).trackingNumber=l.trackingNumber ∧
      ((cancelLabel label reasonCode l).status=.CANCELLED ∨
        (cancelLabel label reasonCode l).status=l.status) := by
  unfold cancelLabel
  split
  · exact ⟨rfl,rfl,rfl,.inl rfl⟩
  · exact ⟨rfl,rfl,rfl,.inr rfl⟩

end Steps

section Runs
variable (env : Carriers)

/-- The tracking number of a label: a hash of its reference behind some carrier's code. -/
def IsTracked (l : CarrierLabel) : Prop :=
  ∃ carrier, l.trackingNumber=carrier++ '-'::(env.shortHash (env.trackingText l.labelReference)).take 14

structure Issued (s : Db) : Prop where
  references : ∀ l∈s.labels, ∀ l'∈s.labels, l.labelReference=l'.labelReference → l=l'
  tracked : ∀ l∈s.labels, IsTracked env l
  statuses : ∀ l∈s.labels, l.status=.GENERATED ∨ l.status=.CANCELLED

/-- What later calls keep: the requests, and each label under its reference. -/
structure Kept (s t : Db) : Prop where
  parcels : SameParcels s t
  labels : ∀ l∈s.labels, ∃ l'∈t.labels, l'.id=l.id ∧ l'.labelReference=l.labelReference

theorem Kept.refl (s : Db) : Kept s s := ⟨SameParcels.refl s,fun l hl => ⟨l,hl,rfl,rfl⟩⟩

theorem Kept.trans {s t u : Db} (h : Kept s t) (h' : Kept t u) : Kept s u := by
  refine ⟨h.parcels.trans h'.parcels,?_⟩
  intro l hl
  obtain ⟨l',hl',hid,hreference⟩ := h.labels l hl
  obtain ⟨l'',hl'',hid',hreference'⟩ := h'.labels l' hl'
  exact ⟨l'',hl'',hid'.trans hid,hreference'.trans hreference⟩

variable {env} {s t : Db} {carrierInput : Str} {dto : CreateCarrierLabelDto}
  {r : CreateCarrierLabelResponse}

theorem newLabel_tracked (request : CarrierLabelRequest) (owner : Option Uuid) :
    IsTracked env (env.newLabel s request owner) :=
  ⟨env.normalizeCarrierCode request.carrier,rfl⟩

theorem Issued.labelled (h : Issued env s) {label : CarrierLabel}
    (hfresh : ∀ l∈s.labels, l.labelReference≠label.labelReference) (htracked : IsTracked env label)
    (hstatus : label.status=.GENERATED) : Issued env (s.labelled label) := by
  have hmem : ∀ l∈(s.labelled label).labels, l∈s.labels ∨ l=label := by
    intro l hl
    simpa [Db.labelled] using hl
  constructor
  · intro l hl l' hl' hreference
    rcases hmem l hl with hold|hnew
    · rcases hmem l' hl' with hold'|hnew'
      · exact h.references l hold l' hold' hreference
      · rw [hnew'] at hreference
        exact absurd hreference (hfresh l hold)
    · rcases hmem l' hl' with hold'|hnew'
      · rw [hnew] at hreference
        exact absurd hreference.symm (hfresh l' hold')
      · rw [hnew,hnew']
  · intro l hl
    rcases hmem l hl with hl|rfl
    · exact h.tracked l hl
    · exact htracked
  · intro l hl
    rcases hmem l hl with hl|rfl
    · exact h.statuses l hl
    · exact .inl hstatus

theorem Kept.labelled (s : Db) (label : CarrierLabel) : Kept s (s.labelled label) := by
  refine ⟨⟨rfl,?_⟩,fun l hl => ⟨l,List.mem_append_left _ hl,rfl,rfl⟩⟩
  have hcomp : ShipmentPackage.untracked ∘
      Carriers.setTracking label.packageId label.trackingNumber=ShipmentPackage.untracked :=
    funext fun p => untracked_setTracking p
  simp only [Db.labelled,List.map_map,hcomp]

theorem Issued.cancelled (h : Issued env s) (label : CarrierLabel) (reasonCode : Option Str) :
    Issued env {s with labels := s.labels.map (Carriers.cancelLabel label reasonCode)} := by
  constructor
  · intro l hl l' hl' hreference
    obtain ⟨k,hk,rfl⟩ := List.mem_map.mp hl
    obtain ⟨k',hk',rfl⟩ := List.mem_map.mp hl'
    rw [(cancelLabel_columns label reasonCode k).2.1,(cancelLabel_columns label reasonCode k').2.1] at hreference
    rw [h.references k hk k' hk' hreference]
  · intro l hl
    obtain ⟨k,hk,rfl⟩ := List.mem_map.mp hl
    have hcolumns := cancelLabel_columns label reasonCode k
    unfold IsTracked
    rw [hcolumns.2.1,hcolumns.2.2.1]
    exact h.tracked k hk
  · intro l hl
    obtain ⟨k,hk,rfl⟩ := List.mem_map.mp hl
    rcases (cancelLabel_columns label reasonCode k).2.2.2 with hstatus|hstatus
    · exact .inr hstatus
    · rw [hstatus]
      exact h.statuses k hk

theorem Kept.cancelled (s : Db) (label : CarrierLabel) (reasonCode : Option Str) :
    Kept s {s with labels := s.labels.map (Carriers.cancelLabel label reasonCode)} := by
  refine ⟨⟨rfl,rfl⟩,?_⟩
  intro l hl
  have hcolumns := cancelLabel_columns label reasonCode l
  exact ⟨_,List.mem_map_of_mem hl,hcolumns.1,hcolumns.2.1⟩

theorem createLabel_step (h : Issued env s) (hr : env.createLabel s carrierInput dto=.ok (r,t)) :
    Issued env t ∧ Kept s t ∧ r.label∈t.labels := by
  obtain ⟨request,owner,_,_,⟨hmem,_,rfl⟩|⟨hfresh,hlabel,rfl⟩⟩ := createLabel_cases hr
  · exact ⟨h,Kept.refl t,hmem⟩
  · rw [hlabel]
    exact ⟨h.labelled hfresh (newLabel_tracked request owner) rfl,Kept.labelled _ _,
      List.mem_append_right _ (List.mem_singleton_self _)⟩

theorem after_step (h : Issued env s) (call : Carriers.Call) :
    Issued env (env.after s call) ∧ Kept s (env.after s call) := by
  cases call with
  | createLabel carrierInput dto =>
    simp only [Carriers.after]
    cases hr : env.createLabel s carrierInput dto with
    | error e => exact ⟨h,Kept.refl s⟩
    | ok answer =>
      have hstep := createLabel_step h hr
      exact ⟨hstep.1,hstep.2.1⟩
  | voidLabel carrierInput labelReference reasonCode =>
    simp only [Carriers.after]
    cases hv : env.voidLabel s carrierInput labelReference reasonCode with
    | error e => exact ⟨h,Kept.refl s⟩
    | ok answer =>
      rcases voidLabel_cases hv with hsame|⟨label,_,_,hcancelled⟩
      · simp only [hsame]
        exact ⟨h,Kept.refl s⟩
      · simp only [hcancelled]
        exact ⟨h.cancelled label reasonCode,Kept.cancelled s label reasonCode⟩

/-- The tables after a run that begins without labels. -/
def reached (env : Carriers) (shipments : List Shipment) (packages : List ShipmentPackage)
    (calls : List Carriers.Call) : Db :=
  Histories.run env.after ⟨shipments,packages,[]⟩ calls

theorem run_lawful (env : Carriers) (shipments : List Shipment) (packages : List ShipmentPackage)
    (calls : List Carriers.Call) :
    Histories.Lawful env.after (Issued env) Kept ⟨shipments,packages,[]⟩ calls := by
  have hall : Histories.Throughout env.after (fun _ _ => True) ⟨shipments,packages,[]⟩ calls :=
    fun _ _ _ => trivial
  apply hall.lawful
  · constructor <;> simp
  · exact fun s _ => Kept.refl s
  · exact fun h h' => h.trans h'
  · exact fun s call hs _ => after_step hs call

end Runs

section Recovery
variable {env : Carriers} {s t : Db} {carrierInput : Str} {dto : CreateCarrierLabelDto}
  {r : CreateCarrierLabelResponse} {request : CarrierLabelRequest} {owner : Option Uuid}
  {packageId : Uuid}

def AllCancelled (s : Db) (packageId : Uuid) : Prop :=
  ∀ l∈s.labels, l.packageId=some packageId → l.status=.CANCELLED

/-- No label has the reference that the request comes to. -/
def Fresh (env : Carriers) (s : Db) (request : CarrierLabelRequest) : Prop :=
  ∀ l∈s.labels, l.labelReference≠env.labelReferenceOf request

/-- The hashes in the tracking numbers tell the references apart. -/
def NoCollision (env : Carriers) (s : Db) : Prop :=
  ∀ l∈s.labels, ∀ l'∈s.labels,
    (env.shortHash (env.trackingText l.labelReference)).take 14=
        (env.shortHash (env.trackingText l'.labelReference)).take 14 →
      env.trackingText l.labelReference=env.trackingText l'.labelReference

instance decidableFresh : Decidable (Fresh env s request) := by
  unfold Fresh
  infer_instance

instance decidableAllCancelled : Decidable (AllCancelled s packageId) := by
  unfold AllCancelled
  infer_instance

theorem length_tracking (reference : Str) :
    ((env.shortHash (env.trackingText reference)).take 14).length=14 := by
  rw [List.length_take,env.length_shortHash]
  rfl

theorem Issued.tracking_inj (h : Issued env s) (hcollision : NoCollision env s) {l l' : CarrierLabel}
    (hl : l∈s.labels) (hl' : l'∈s.labels) (htracking : l.trackingNumber=l'.trackingNumber) :
    l=l' := by
  obtain ⟨carrier,hnumber⟩ := h.tracked l hl
  obtain ⟨carrier',hnumber'⟩ := h.tracked l' hl'
  rw [hnumber,hnumber'] at htracking
  have hlength : ('-'::(env.shortHash (env.trackingText l.labelReference)).take 14).length=
      ('-'::(env.shortHash (env.trackingText l'.labelReference)).take 14).length := by
    rw [List.length_cons,List.length_cons,length_tracking,length_tracking]
  have hhash := (List.append_inj' htracking hlength).2
  have htext := hcollision l hl l' hl' (List.cons.inj hhash).2
  have hreference : l.labelReference=l'.labelReference := List.append_cancel_right htext
  exact h.references l hl l' hl' hreference

theorem createLabel_again (h : Issued env s) (hr : env.createLabel s carrierInput dto=.ok (r,t))
    {u : Db} (hu : Issued env u) (hkept : Kept t u) :
    ∃ l∈u.labels, l.id=r.label.id ∧ l.labelReference=r.label.labelReference ∧
      env.createLabel u carrierInput dto=.ok (⟨true,l,r.adapter⟩,u) := by
  have hstep := createLabel_step h hr
  obtain ⟨l,hl,hid,hreference⟩ := hkept.labels _ hstep.2.2
  obtain ⟨request,owner,hprepare,hadapter,hlabel⟩ := createLabel_cases hr
  have hrequest : r.label.labelReference=env.labelReferenceOf request := by
    rcases hlabel with ⟨_,hsame,_⟩|⟨_,hnew,_⟩
    · exact hsame
    · rw [hnew]
      rfl
  have hlater : env.prepareLabel u (env.normalizeCarrierCode carrierInput) dto=
      .ok (request,owner) := by
    rw [(hstep.2.1.trans hkept).parcels.prepareLabel,hprepare]
  refine ⟨l,hl,hid,hreference,?_⟩
  rw [hadapter]
  exact createLabel_existing hlater hl (hreference.trans hrequest)
    fun l' hl' hsame => hu.references l' hl' l hl hsame

theorem labelled_ready (request : CarrierLabelRequest) (owner : Option Uuid)
    (hpackage : request.packageId=some packageId) :
    (s.labelled (env.newLabel s request owner)).missingPackageLabel request.shipmentId packageId=
      false := by
  simp [Db.missingPackageLabel,Db.labelled,Carriers.newLabel,hpackage]

theorem createLabel_recovers (h : Issued env s)
    (hprepare : env.prepareLabel s (env.normalizeCarrierCode carrierInput) dto=.ok (request,owner))
    (hpackage : request.packageId=some packageId) (hcancelled : AllCancelled s packageId) :
    ∃ r t, env.createLabel s carrierInput dto=.ok (r,t) ∧
      (r.label.status=.GENERATED ∧ r.label.packageId=some packageId ↔ Fresh env s request) ∧
      (r.label.status=.GENERATED ↔ ∀ l∈s.labels, l.labelReference=env.labelReferenceOf request →
        l.status≠.CANCELLED) ∧
      (Fresh env s request → t.missingPackageLabel request.shipmentId packageId=false) := by
  by_cases hfresh : Fresh env s request
  · have hnone : s.labels.find?
        (·.labelReference=(env.createMockCarrierLabelResult request).labelReference)=none :=
      List.find?_eq_none.mpr fun l hl hr => hfresh l hl (of_decide_eq_true hr)
    refine ⟨⟨false,env.newLabel s request owner,env.createMockCarrierLabelResult request⟩,
      s.labelled (env.newLabel s request owner),?_,?_,?_,fun _ => labelled_ready request owner hpackage⟩
    · unfold Carriers.createLabel
      simp only [hprepare,hnone]
      rfl
    · exact iff_of_true ⟨rfl,hpackage⟩ hfresh
    · exact iff_of_true rfl fun l hl hr => absurd hr (hfresh l hl)
  · have hthere : ∃ l∈s.labels, l.labelReference=env.labelReferenceOf request := by
      unfold Fresh at hfresh
      push Not at hfresh
      exact hfresh
    obtain ⟨l,hl,hreference⟩ := hthere
    have hunique : ∀ l'∈s.labels, l'.labelReference=l.labelReference → l'=l :=
      fun l' hl' hr => h.references l' hl' l hl hr
    refine ⟨_,_,createLabel_existing hprepare hl hreference hunique,?_,?_,
      fun hno => absurd hno hfresh⟩
    · apply iff_of_false _ hfresh
      rintro ⟨hstatus,hown⟩
      rw [hcancelled l hl hown] at hstatus
      cases hstatus
    · constructor
      · intro hstatus l' hl' hr
        rw [hunique l' hl' (hr.trans hreference.symm),hstatus]
        decide
      · intro hlive
        exact (h.statuses l hl).resolve_right (hlive l hl hreference)

/-- In every run: a request made again is answered with its label, labels of different packages
have different references and tracking numbers, and a package whose labels are all cancelled gets
a label of its own again just where the request's reference is new. -/
theorem labels_recover_when_fresh (env : Carriers) (shipments : List Shipment)
    (packages : List ShipmentPackage) (calls : List Carriers.Call) :
    (∀ earlier carrierInput dto r t, earlier++[.createLabel carrierInput dto]<+:calls →
      env.createLabel (reached env shipments packages earlier) carrierInput dto=.ok (r,t) →
      ∃ l∈(reached env shipments packages calls).labels,
        l.id=r.label.id ∧ l.labelReference=r.label.labelReference ∧
        (l.status≠.CANCELLED →
          env.createLabel (reached env shipments packages calls) carrierInput dto=
            .ok (⟨true,l,r.adapter⟩,reached env shipments packages calls))) ∧
    (∀ l∈(reached env shipments packages calls).labels,
      ∀ l'∈(reached env shipments packages calls).labels, l.packageId≠l'.packageId →
        l.labelReference≠l'.labelReference ∧
        (NoCollision env (reached env shipments packages calls) →
          l.trackingNumber≠l'.trackingNumber)) ∧
    (∀ carrierInput dto request owner packageId,
      env.prepareLabel (reached env shipments packages calls)
          (env.normalizeCarrierCode carrierInput) dto=.ok (request,owner) →
      request.packageId=some packageId →
      AllCancelled (reached env shipments packages calls) packageId →
      ∃ r t, env.createLabel (reached env shipments packages calls) carrierInput dto=.ok (r,t) ∧
        (r.label.status=.GENERATED ∧ r.label.packageId=some packageId ↔
          Fresh env (reached env shipments packages calls) request) ∧
        (r.label.status=.GENERATED ↔ ∀ l∈(reached env shipments packages calls).labels,
          l.labelReference=env.labelReferenceOf request → l.status≠.CANCELLED) ∧
        (Fresh env (reached env shipments packages calls) request →
          t.missingPackageLabel request.shipmentId packageId=false)) := by
  have hlawful := run_lawful env shipments packages calls
  have hissued : Issued env (reached env shipments packages calls) :=
    hlawful.inv calls (List.prefix_refl _)
  refine ⟨?_,?_,?_⟩
  · intro earlier carrierInput dto r t hcalls hr
    have hbefore : Issued env (reached env shipments packages earlier) :=
      hlawful.inv earlier ((List.prefix_append _ _).trans hcalls)
    have hnext : reached env shipments packages (earlier++[.createLabel carrierInput dto])=t := by
      unfold reached at hr ⊢
      rw [Histories.run_concat]
      simp only [Carriers.after,hr]
    have hkept : Kept t (reached env shipments packages calls) := by
      rw [← hnext]
      exact hlawful.kept _ calls hcalls (List.prefix_refl _)
    obtain ⟨l,hl,hid,hreference,hanswer⟩ := createLabel_again hbefore hr hissued hkept
    exact ⟨l,hl,hid,hreference,fun _ => hanswer⟩
  · intro l hl l' hl' hpackage
    constructor
    · intro hreference
      exact hpackage (congrArg _ (hissued.references l hl l' hl' hreference))
    · intro hcollision htracking
      exact hpackage (congrArg _ (hissued.tracking_inj hcollision hl hl' htracking))
  · intro carrierInput dto request owner packageId hprepare hpackage hcancelled
    exact createLabel_recovers hissued hprepare hpackage hcancelled

end Recovery

/-- The hashes of the texts below. -/
def demoHashes : List (Str × Str) :=
  [
    ("DPD:20000000-0000-4000-8000-000000000000:30000000-0000-4000-8000-000000000000".toList,"0E7289976B0E00EB".toList),
    ("SHP-1:SHP-1-P1:0E7289976B0E00EB".toList,"C68FAE00FD5FC447".toList),
    ("DPD-C68FAE00FD5FC447:10000000-0000-4000-8000-000000000000".toList,"751AA1EFD5C57EE1".toList),
    ("SHP-1:SHP-1-P1:retry".toList,"59834B86E98E76CC".toList),
    ("DPD-59834B86E98E76CC:10000000-0000-4000-8000-000000000000".toList,"5C7A5608449EB542".toList)]

def demoHash (s : Str) : Str :=
  (((demoHashes.find? (·.1=s)).map (·.2)).getD []++List.replicate 16 '0').take 16

theorem length_demoHash (s : Str) : (demoHash s).length=16 := by
  simp [demoHash]

/-- The hash of a text by a table of hashes. -/
def hashIn (hashes : List (Str × Str)) (s : Str) : Str :=
  (((hashes.find? (·.1=s)).map (·.2)).getD []++List.replicate 16 '0').take 16

theorem length_hashIn (hashes : List (Str × Str)) (s : Str) : (hashIn hashes s).length=16 := by
  simp [hashIn]

def demoCarriers : Carriers where
  runtime := ⟨fun s => s.map Char.toUpper,fun _ => none⟩
  warehouseId := OrderUpdates.mainWarehouse.id
  shortHash := demoHash
  length_shortHash := length_demoHash
  resolveOperationOwner := fun _ _ _ => .ok none
  resolveCarrierCredentialContext := fun _ _ => .ok none

def demoShipment : Shipment :=
  ⟨someUuid '2' OrderUpdates.isHex_two,"SHP-1".toList,none⟩

def demoPackage : ShipmentPackage :=
  ⟨someUuid '3' OrderUpdates.isHex_three,demoShipment.id,"SHP-1-P1".toList,.STAGED,some 500,none⟩

def demoDto : CreateCarrierLabelDto := {shipmentReference := "SHP-1".toList}

def demoVoidedLabel : CarrierLabel where
  id := 0
  ownerClientId := none
  shipmentId := demoShipment.id
  packageId := some demoPackage.id
  labelReference := "DPD-C68FAE00FD5FC447".toList
  status := .CANCELLED
  carrier := "DPD".toList
  serviceLevel := none
  trackingNumber := "DPD-751AA1EFD5C57E".toList
  labelFormat := .ZPL
  errorMessage := some "VOIDED".toList

def demoVoided : Db where
  shipments := [demoShipment]
  packages := [{demoPackage with trackingNumber := some "DPD-751AA1EFD5C57E".toList}]
  labels := [demoVoidedLabel]

def demoCalls : List Carriers.Call :=
  [.createLabel "dpd".toList demoDto,.voidLabel "DPD".toList "DPD-C68FAE00FD5FC447".toList none]

theorem demoCarriers_eq : demoCarriers=
    {demoCarriers with shortHash := hashIn demoHashes, length_shortHash := length_hashIn demoHashes} :=
  rfl

/-- The request is made again under another key. -/
def demoRetry : CreateCarrierLabelDto := {demoDto with idempotencyKey := some "retry".toList}

def demoRequest (dto : CreateCarrierLabelDto) : CarrierLabelRequest :=
  demoCarriers.carrierLabelRequest demoShipment (some demoPackage) "DPD".toList dto

theorem demo_runs :
    reached demoCarriers [demoShipment] [demoPackage] demoCalls=demoVoided ∧
    (demoCarriers.createLabel demoVoided "dpd".toList demoDto).map
      (fun a => (a.1.label.packageId,a.1.label.status))=.ok (some demoPackage.id,.CANCELLED) ∧
    demoCarriers.prepareLabel demoVoided (demoCarriers.normalizeCarrierCode "dpd".toList) demoRetry=
      .ok (demoRequest demoRetry,none) ∧
    Fresh demoCarriers demoVoided (demoRequest demoRetry) := by
  rw [demoRequest,demoCarriers_eq]
  unfold demoHashes demoCalls demoRetry demoDto demoVoided demoVoidedLabel demoPackage demoShipment
  repeat rewrite [String.toList_ofList]
  decide +kernel

/-- Under another key the package gets its label. -/
theorem labels_recover_demo : ∃ r t,
    demoCarriers.createLabel demoVoided "dpd".toList demoRetry=.ok (r,t) ∧
      r.label.status=.GENERATED ∧ r.label.packageId=some demoPackage.id ∧
      t.missingPackageLabel demoShipment.id demoPackage.id=false := by
  obtain ⟨hreached,_,hprepare,hfresh⟩ := demo_runs
  have hcancelled : AllCancelled demoVoided demoPackage.id := by decide
  have hrecovers := (labels_recover_when_fresh demoCarriers [demoShipment] [demoPackage]
    demoCalls).2.2
  rw [hreached] at hrecovers
  obtain ⟨r,t,hr,hown,_,hready⟩ := hrecovers "dpd".toList demoRetry (demoRequest demoRetry) none
    demoPackage.id hprepare rfl hcancelled
  exact ⟨r,t,hr,(hown.mpr hfresh).1,(hown.mpr hfresh).2,hready hfresh⟩

/-- The same request again is answered with the voided label. -/
theorem voided_label_returned : ¬∀ (env : Carriers) (shipments : List Shipment)
    (packages : List ShipmentPackage) (calls : List Carriers.Call) (carrierInput : Str)
    (dto : CreateCarrierLabelDto) (r : CreateCarrierLabelResponse) (t : Db) (packageId : Uuid),
    AllCancelled (reached env shipments packages calls) packageId →
    env.createLabel (reached env shipments packages calls) carrierInput dto=.ok (r,t) →
    r.label.packageId=some packageId → r.label.status=.GENERATED := by
  intro h
  have hcancelled : AllCancelled demoVoided demoPackage.id := by decide
  obtain ⟨hreached,hanswer,_⟩ := demo_runs
  have hdemo := h demoCarriers [demoShipment] [demoPackage] demoCalls "dpd".toList demoDto
  rw [hreached] at hdemo
  cases hr : demoCarriers.createLabel demoVoided "dpd".toList demoDto with
  | error e =>
    rw [hr] at hanswer
    cases hanswer
  | ok answer =>
    rw [hr] at hanswer
    have hcolumns := Except.ok.inj hanswer
    have hstatus : answer.1.label.status=.CANCELLED := congrArg Prod.snd hcolumns
    rw [hdemo answer.1 answer.2 _ hcancelled hr (congrArg Prod.fst hcolumns)] at hstatus
    cases hstatus

end AardvarkWms.CarrierLabels
