import AardvarkWms.CarrierLabels
import AardvarkWms.Separators

/-! The tracking webhooks of `src/carriers/carriers.service.ts`: each stored as an event, and shown
on the label it is about. -/
namespace AardvarkWms.CarrierTracking

open Messaging (Str trim)
open OrderUpdates (Uuid ServiceError Date)
open Staging (CarrierLabelStatus)
open CarrierLabels (Carriers)

inductive CarrierTrackingStatus
  | ACCEPTED | IN_TRANSIT | OUT_FOR_DELIVERY | DELIVERED | EXCEPTION | CANCELLED | UNKNOWN
  deriving DecidableEq

def CarrierTrackingStatus.name : CarrierTrackingStatus → Str
  | ACCEPTED => "ACCEPTED".toList
  | IN_TRANSIT => "IN_TRANSIT".toList
  | OUT_FOR_DELIVERY => "OUT_FOR_DELIVERY".toList
  | DELIVERED => "DELIVERED".toList
  | EXCEPTION => "EXCEPTION".toList
  | CANCELLED => "CANCELLED".toList
  | UNKNOWN => "UNKNOWN".toList

structure CarrierTrackingEvent where
  carrier : Str
  labelReference : Option Str
  trackingNumber : Option Str
  shipmentId : Option Uuid
  packageId : Option Uuid
  externalEventId : Str
  status : CarrierTrackingStatus
  eventCode : Option Str
  message : Option Str
  occurredAt : ℤ
  deriving DecidableEq

structure LatestTracking where
  carrier : Str
  status : CarrierTrackingStatus
  eventCode : Option Str
  message : Option Str
  occurredAt : ℤ
  trackingNumber : Option Str
  labelReference : Option Str
  deriving DecidableEq

structure CarrierLabel where
  id : ℕ
  shipmentId : Option Uuid
  packageId : Option Uuid
  labelReference : Str
  status : CarrierLabelStatus
  carrier : Option Str
  trackingNumber : Option Str
  errorMessage : Option Str
  latestTracking : Option LatestTracking
  deriving DecidableEq

/-- The tables of one warehouse. -/
structure Db where
  shipments : List CarrierLabels.Shipment
  packages : List CarrierLabels.ShipmentPackage
  labels : Table CarrierLabel.id
  events : List CarrierTrackingEvent

/-- A field of a provider's payload; a finite number is read as the text it prints as. -/
inductive RawValue
  | text (s : Str)
  | number (printed : Option Str)
  | other
  deriving DecidableEq

abbrev RawPayload : Type := List (Str × RawValue)

structure CarrierTrackingWebhookDto where
  externalEventId : Option Str := none
  labelReference : Option Str := none
  trackingNumber : Option Str := none
  shipmentReference : Option Str := none
  packageReference : Option Str := none
  status : Option Str := none
  eventCode : Option Str := none
  message : Option Str := none
  occurredAt : Option Str := none
  rawPayload : Option RawPayload := none
  deriving DecidableEq

/-- A webhook that has passed the check of its secret, with the time it comes in at. -/
structure Delivery where
  carrierInput : Str
  dto : CarrierTrackingWebhookDto
  now : ℤ
  deriving DecidableEq

structure NormalizedEvent where
  externalEventId : Option Str
  labelReference : Option Str
  trackingNumber : Option Str
  status : CarrierTrackingStatus
  eventCode : Option Str
  message : Option Str
  occurredAt : Option Str

/-- `||` on texts: an empty one counts as none. -/
def given (value : Option Str) : Option Str := value.filter (·≠[])

def firstString (payload : RawPayload) (keys : List String) : Option Str :=
  keys.findSome? fun key =>
    match payload.lookup key.toList with
    | some (.text s) => given (some (trim s))
    | some (.number printed) => printed
    | _ => none

def mentions (value : Str) (words : List String) : Bool := words.any fun w => w.toList<:+:value

/-- The carriers, with the tracking events' own hash and the text of an instant; who owns what is
tracked may be in conflict. -/
structure Tracker extends Carriers where
  trackingHash : Str → Str
  toISOString : ℤ → Str
  resolveSingleOwnerFromResources : Option ℕ → Option Uuid → Option Uuid →
    Except ServiceError (Option Uuid)

namespace Tracker
variable (env : Tracker)

def normalizeProviderTrackingStatus (status message : Option Str) : CarrierTrackingStatus :=
  let value := env.runtime.toUpperCase (status.getD []++ ' '::message.getD [])
  if mentions value ["DELIVERED","DELIVERY_SUCCESS","COMPLETED"] then .DELIVERED
  else if mentions value ["OUT_FOR_DELIVERY","WITH_COURIER","ON VEHICLE","COURIER"] then
    .OUT_FOR_DELIVERY
  else if mentions value ["IN_TRANSIT","TRANSIT","DEPARTED","ARRIVED","SORT","HUB","ACCEPTED",
    "PICKED_UP"] then .IN_TRANSIT
  else if mentions value ["EXCEPTION","FAILED","DAMAGED","HELD","CUSTOMS","RETURNED",
    "UNDELIVERABLE"] then .EXCEPTION
  else if mentions value ["CANCELLED","VOID","CANCELED"] then .CANCELLED
  else if mentions value ["ACCEPTED","CREATED","LABEL","MANIFESTED"] then .ACCEPTED
  else .UNKNOWN

def normalizeTrackingWebhookPayload (carrierInput : Str) (payload : RawPayload) :
    NormalizedEvent :=
  let carrier := env.normalizeCarrierCode carrierInput
  let trackingNumber := firstString payload
    ["trackingNumber","tracking_number","trackingId","trackingIdNumber","shipmentTrackingNumber",
      "barcode"]
  let message := firstString payload
    ["message","description","eventDescription","statusDescription"]
  {externalEventId := (firstString payload ["externalEventId","eventId","id","trackingEventId"]).orElse
     fun _ => trackingNumber.map fun n => carrier++ ':'::(n++
       ':'::(firstString payload ["status","eventCode","code"]).getD "UNKNOWN".toList)
   labelReference := firstString payload
     ["labelReference","label_reference","labelId","shipmentId","packetId"]
   trackingNumber
   status := env.normalizeProviderTrackingStatus
     (firstString payload ["status","shipmentStatus","eventStatus","code","eventCode"]) message
   eventCode := firstString payload ["eventCode","code","scanCode","activityCode"]
   message
   occurredAt := firstString payload
     ["occurredAt","eventTime","timestamp","dateTime","scanDateTime"]}

def statusAliases : List (String × CarrierTrackingStatus) :=
  [("ACCEPTED",.ACCEPTED),("CREATED",.ACCEPTED),("LABEL_CREATED",.ACCEPTED),
    ("IN_TRANSIT",.IN_TRANSIT),("TRANSIT",.IN_TRANSIT),("MOVING",.IN_TRANSIT),
    ("OUT_FOR_DELIVERY",.OUT_FOR_DELIVERY),("OFD",.OUT_FOR_DELIVERY),("DELIVERED",.DELIVERED),
    ("COMPLETED",.DELIVERED),("EXCEPTION",.EXCEPTION),("FAILED",.EXCEPTION),
    ("CANCELLED",.CANCELLED),("CANCELED",.CANCELLED)]

def normalizeCarrierTrackingStatus (value : Option Str) : CarrierTrackingStatus :=
  let normalized := env.normalizeToken (value.getD "UNKNOWN".toList)
  ((statusAliases.find? (·.1.toList=normalized)).map (·.2)).getD .UNKNOWN

def createCarrierTrackingExternalId (carrier : Str) (labelReference trackingNumber : Option Str)
    (status : CarrierTrackingStatus) (eventCode : Option Str) (occurredAt : ℤ)
    (message : Option Str) : Str :=
  "carrier-track-".toList++env.trackingHash (Separators.join '|' [carrier,labelReference.getD [],
    trackingNumber.getD [],(env.normalizeCarrierTrackingStatus (some status.name)).name,
    eventCode.getD [],env.toISOString occurredAt,message.getD []])

section Service
variable (s : Db) (d : Delivery)

def resolveCarrierLabelForTracking (carrier : Str) (dto : CarrierTrackingWebhookDto) :
    Option CarrierLabel :=
  s.labels.rows.find? fun l => l.carrier=some carrier &&
    ((given dto.labelReference).any (·=l.labelReference) ||
      (given dto.trackingNumber).any (l.trackingNumber=some ·))

def resolvePackageForTracking (label : Option CarrierLabel) (dto : CarrierTrackingWebhookDto) :
    Option CarrierLabels.ShipmentPackage :=
  match given dto.packageReference, label.bind (·.packageId), given dto.trackingNumber with
  | some reference, _, _ => s.packages.find? fun p =>
      OrderUpdates.Runtime.referenceWhere (env.runtime.normalizeReference reference) reference p.id
        p.packageCode
  | none, some packageId, _ => s.packages.find? (·.id=packageId)
  | none, none, some trackingNumber => s.packages.find? (·.trackingNumber=some trackingNumber)
  | none, none, none => none

def resolveShipmentForTracking (label : Option CarrierLabel)
    (shipmentPackage : Option CarrierLabels.ShipmentPackage) (dto : CarrierTrackingWebhookDto) :
    Except ServiceError (Option CarrierLabels.Shipment) :=
  match given dto.shipmentReference with
  | some reference =>
    (env.resolveShipment ⟨s.shipments,s.packages,[]⟩ reference).map some
  | none => .ok (((label.bind (·.shipmentId)).orElse fun _ => shipmentPackage.map (·.shipmentId)).bind
      fun shipmentId => s.shipments.find? (·.id=shipmentId))

def normalizedWebhook : Option NormalizedEvent :=
  d.dto.rawPayload.map (env.normalizeTrackingWebhookPayload (env.normalizeCarrierCode d.carrierInput))

/-- When it happened, if the text that says so is a date. -/
def occurredAt : Date :=
  match given d.dto.occurredAt, (env.normalizedWebhook d).bind (·.occurredAt) with
  | some value, _ | none, some value => env.runtime.newDate value
  | none, none => some d.now

/-- What a webhook is about, its key, and the event it is stored as at its instant. -/
structure Sighting where
  label : Option CarrierLabel
  shipmentPackage : Option CarrierLabels.ShipmentPackage
  externalEventId : Str
  event : ℤ → CarrierTrackingEvent

/-- `receiveTrackingWebhook` up to the search for a duplicate. -/
def sighting : Except ServiceError Sighting :=
  let carrier := env.normalizeCarrierCode d.carrierInput
  let raw := env.normalizedWebhook d
  let label := resolveCarrierLabelForTracking s carrier d.dto
  let shipmentPackage := env.resolvePackageForTracking s label d.dto
  match env.resolveShipmentForTracking s label shipmentPackage d.dto with
  | .error e => .error e
  | .ok shipment =>
    let status := match given d.dto.status, raw with
      | none, some raw => raw.status
      | _, _ => env.normalizeCarrierTrackingStatus d.dto.status
    let labelReference := ((d.dto.labelReference.orElse fun _ => raw.bind (·.labelReference)).orElse
      fun _ => label.map (·.labelReference))
    let trackingNumber := (((d.dto.trackingNumber.orElse fun _ => raw.bind (·.trackingNumber)).orElse
      fun _ => label.bind (·.trackingNumber)).orElse fun _ => shipmentPackage.bind (·.trackingNumber))
    let eventCode := (Messaging.normalizeOptional d.dto.eventCode).orElse fun _ =>
      raw.bind (·.eventCode)
    let message := (Messaging.normalizeOptional d.dto.message).orElse fun _ => raw.bind (·.message)
    let event := fun externalEventId occurredAt =>
      {carrier, labelReference, trackingNumber, externalEventId, status, eventCode, message
       occurredAt
       shipmentId := ((shipment.map (·.id)).orElse fun _ => label.bind (·.shipmentId)).orElse
         fun _ => shipmentPackage.map (·.shipmentId)
       packageId := (shipmentPackage.map (·.id)).orElse fun _ => label.bind (·.packageId)}
    match d.dto.externalEventId.orElse fun _ => raw.bind (·.externalEventId), env.occurredAt d with
    | some externalEventId, _ =>
      .ok ⟨label,shipmentPackage,externalEventId,event externalEventId⟩
    | none, none => .error .invalidValue
    | none, some occurredAt =>
      let externalEventId := env.createCarrierTrackingExternalId carrier labelReference
        trackingNumber status eventCode occurredAt message
      .ok ⟨label,shipmentPackage,externalEventId,event externalEventId⟩

def latestTracking (event : CarrierTrackingEvent) : LatestTracking where
  carrier := event.carrier
  status := event.status
  eventCode := event.eventCode
  message := event.message
  occurredAt := event.occurredAt
  trackingNumber := event.trackingNumber
  labelReference := event.labelReference

/-- The label an event is shown on. -/
def showOn (event : CarrierTrackingEvent) (label : CarrierLabel) : CarrierLabel :=
  {label with
    errorMessage := if event.status=.EXCEPTION then
        some ((event.message.orElse fun _ => event.eventCode).getD "TRACKING_EXCEPTION".toList)
      else label.errorMessage
    status := if event.status=.CANCELLED then .CANCELLED else label.status
    latestTracking := some (latestTracking event)}

theorem showOn_id (event : CarrierTrackingEvent) (label : CarrierLabel) :
    (showOn event label).id=label.id := rfl

def setTracking (event : CarrierTrackingEvent) (shipmentPackage : CarrierLabels.ShipmentPackage) :
    CarrierLabels.ShipmentPackage :=
  match given event.trackingNumber, given shipmentPackage.trackingNumber with
  | some _, none => {shipmentPackage with trackingNumber := event.trackingNumber}
  | _, _ => shipmentPackage

/-- The event's insertion and `afterTrackingEvent`. -/
def stored (x : Sighting) (occurredAt : ℤ) : Db :=
  let event := x.event occurredAt
  {s with
    events := s.events++[event]
    labels := x.label.elim s.labels fun label =>
      s.labels.modify label.id (showOn event) (showOn_id event)
    packages := x.shipmentPackage.elim s.packages fun shipmentPackage =>
      s.packages.map fun p => if p.id=shipmentPackage.id then setTracking event p else p}

def resolveOwner (x : Sighting) : Except ServiceError (Option Uuid) :=
  env.resolveSingleOwnerFromResources (x.label.map (·.id))
    ((x.shipmentPackage.map (·.id)).orElse fun _ => x.label.bind (·.packageId))
    ((x.label.bind (·.shipmentId)).orElse fun _ => x.shipmentPackage.map (·.shipmentId))

structure CarrierTrackingWebhookResponse where
  duplicate : Bool
  event : CarrierTrackingEvent
  deriving DecidableEq

def isKnown (x : Sighting) (e : CarrierTrackingEvent) : Bool :=
  e.carrier=env.normalizeCarrierCode d.carrierInput && e.externalEventId=x.externalEventId

def receiveTrackingWebhook : Except ServiceError (CarrierTrackingWebhookResponse × Db) :=
  match env.sighting s d with
  | .error e => .error e
  | .ok x =>
    match s.events.find? (env.isKnown d x), env.occurredAt d, env.resolveOwner x with
    | some existing, _, _ => .ok (⟨true,existing⟩,s)
    | none, none, _ => .error .invalidValue
    | none, some _, .error e => .error e
    | none, some occurredAt, .ok _ =>
      .ok (⟨false,x.event occurredAt⟩,stored s x occurredAt)

/-- A webhook that is refused leaves the tables as they were. -/
def after : Db :=
  match env.receiveTrackingWebhook s d with
  | .ok (_,t) => t
  | .error _ => s

/-- The sighting of a webhook that is not refused and whose key no event has. -/
def unseen : Option Sighting :=
  match env.sighting s d with
  | .error _ => none
  | .ok x =>
    match s.events.find? (env.isKnown d x), env.resolveOwner x with
    | none, .ok _ => some x
    | _, _ => none

end Service

end Tracker

section Steps
variable {env : Tracker} {s : Db} {d : Delivery} {x : Tracker.Sighting} {t : ℤ}
open Tracker (stored latestTracking showOn)

theorem after_eq : env.after s d=
    (((env.unseen s d).bind fun x => (env.occurredAt d).map (stored s x)).getD s) := by
  unfold Tracker.after Tracker.receiveTrackingWebhook Tracker.unseen
  cases env.sighting s d with
  | error e => rfl
  | ok x =>
    cases hknown : s.events.find? (env.isKnown d x) with
    | some existing => simp [hknown]
    | none =>
      cases howner : env.resolveOwner x <;> cases env.occurredAt d <;> simp [hknown,howner]

theorem sighting_spec (h : env.sighting s d=.ok x) :
    (∀ t, (x.event t).occurredAt=t) ∧ ∀ l, x.label=some l → l∈s.labels.rows := by
  have hlabel : ∀ l, Tracker.resolveCarrierLabelForTracking s
      (env.normalizeCarrierCode d.carrierInput) d.dto=some l → l∈s.labels.rows :=
    fun l hl => List.mem_of_find?_eq_some hl
  unfold Tracker.sighting at h
  dsimp only at h
  split at h
  · cases h
  · split at h
    · cases h
      exact ⟨fun t => rfl,hlabel⟩
    · cases h
    · cases h
      exact ⟨fun t => rfl,hlabel⟩

theorem unseen_sighting (h : env.unseen s d=some x) : env.sighting s d=.ok x := by
  unfold Tracker.unseen at h
  cases hsight : env.sighting s d with
  | error e => simp [hsight] at h
  | ok y =>
    simp only [hsight] at h
    split at h
    · cases h
      rfl
    · cases h

theorem stored_label (hlabels : ∀ l, x.label=some l → l∈s.labels.rows) (id : ℕ) :
    ((stored s x t).labels.get? id).bind (·.latestTracking)=
      if x.label.map (·.id)=some id then some (latestTracking (x.event t))
      else (s.labels.get? id).bind (·.latestTracking) := by
  unfold stored
  cases hlabel : x.label with
  | none => simp
  | some l =>
    have hrow : s.labels.get? l.id=some l := Table.get?_eq_some.mpr ⟨hlabels l hlabel,rfl⟩
    by_cases hid : l.id=id
    · subst hid
      simp [hrow,showOn]
    · have hne : id≠l.id := fun he => hid he.symm
      simp [Table.get?_modify_ne _ _ _ hne,hid]

end Steps

/-- What was delivered so far, and the tables. -/
structure Course where
  delivered : List Delivery
  tables : Db

section Runs
variable (env : Tracker) (label : CarrierLabel) (c : Course) (d : Delivery)

def deliver : Course := ⟨c.delivered++[d],env.after c.tables d⟩

/-- An event belongs to the label's parcel. -/
def IsLinked (e : CarrierTrackingEvent) : Prop :=
  e.shipmentId=label.shipmentId ∧ e.packageId=label.packageId

/-- Each webhook that was delivered is one event, told by its instant, and the label shows the
latest of them. -/
structure Shown : Prop where
  stored : ∀ d∈c.delivered, ∃ t∈env.occurredAt d, ∃ e,
    c.tables.events.filter (·.occurredAt=t)=[e] ∧ IsLinked label e
  latest : ∀ e∈c.tables.events, (∀ e'∈c.tables.events, e'.occurredAt≤e.occurredAt) →
    (c.tables.labels.get? label.id).bind (·.latestTracking)=some (Tracker.latestTracking e)

/-- The webhook has an instant. Where an event has it already, the key is known as well or the
webhook refused; else the webhook is taken for new, is linked to the label's parcel, and finds the
label just when it is later than every event. -/
def Fits : Prop :=
  ∃ t∈env.occurredAt d,
    if ∃ e∈c.tables.events, e.occurredAt=t then (env.unseen c.tables d).isNone=true
    else ∃ x∈env.unseen c.tables d, IsLinked label (x.event t) ∧
      (x.label.map (·.id)=some label.id ↔ ∀ e∈c.tables.events, e.occurredAt < t)

/-- Events come from deliveries, and what the label shows from events. -/
structure Sourced : Prop where
  delivered : ∀ e∈c.tables.events, ∃ d∈c.delivered, env.occurredAt d=some e.occurredAt
  blank : c.tables.events=[] → (c.tables.labels.get? label.id).bind (·.latestTracking)=none

instance decidableIsLinked (e : CarrierTrackingEvent) : Decidable (IsLinked label e) := by
  unfold IsLinked
  infer_instance

instance decidableFits : Decidable (Fits env label c d) := by
  unfold Fits
  infer_instance

variable {env label c d} {t : ℤ} {x : Tracker.Sighting}

theorem deliver_new (hx : env.unseen c.tables d=some x) (ht : env.occurredAt d=some t) :
    deliver env c d=⟨c.delivered++[d],Tracker.stored c.tables x t⟩ := by
  unfold deliver
  rw [after_eq]
  simp [hx,ht]

theorem deliver_known (hx : env.unseen c.tables d=none ∨ env.occurredAt d=none) :
    deliver env c d=⟨c.delivered++[d],c.tables⟩ := by
  unfold deliver
  rw [after_eq]
  rcases hx with hx|hx <;> simp [hx]

@[simp] theorem events_stored (s : Db) :
    (Tracker.stored s x t).events=s.events++[x.event t] := rfl

theorem Sourced.deliver (h : Sourced env label c) : Sourced env label (deliver env c d) := by
  have hkeep : (∀ e∈c.tables.events, ∃ d'∈c.delivered++[d], env.occurredAt d'=some e.occurredAt) := by
    intro e he
    obtain ⟨d',hd',ht⟩ := h.delivered e he
    exact ⟨d',List.mem_append_left _ hd',ht⟩
  cases hx : env.unseen c.tables d with
  | none =>
    rw [deliver_known (.inl hx)]
    exact ⟨hkeep,h.blank⟩
  | some x =>
    cases ht : env.occurredAt d with
    | none =>
      rw [deliver_known (.inr ht)]
      exact ⟨hkeep,h.blank⟩
    | some t =>
      rw [deliver_new hx ht]
      have htime := (sighting_spec (unseen_sighting hx)).1 t
      constructor
      · intro e he
        rcases List.mem_append.mp he with hold|hnew
        · exact hkeep e hold
        · rw [List.mem_singleton.mp hnew,htime]
          exact ⟨d,List.mem_append_right _ (List.mem_singleton_self d),ht⟩
      · intro hempty
        simp at hempty

theorem Shown.again (h : Shown env label c) (hsourced : Sourced env label c)
    (ht : env.occurredAt d=some t) (hthere : ∃ e∈c.tables.events, e.occurredAt=t) :
    Shown env label ⟨c.delivered++[d],c.tables⟩ := by
  constructor
  · intro d' hd'
    rcases List.mem_append.mp hd' with hold|hnew
    · exact h.stored d' hold
    · rw [List.mem_singleton.mp hnew]
      obtain ⟨e,he,het⟩ := hthere
      obtain ⟨d₀,hd₀,ht₀⟩ := hsourced.delivered e he
      obtain ⟨t',ht',hone⟩ := h.stored d₀ hd₀
      have hsame : t=t' := by
        rw [Option.mem_def,ht₀,het] at ht'
        exact Option.some.inj ht'
      rw [← hsame] at hone
      exact ⟨t,ht,hone⟩
  · exact h.latest

theorem filter_stored (s : Db) (htime : (x.event t).occurredAt=t) (t' : ℤ) :
    (Tracker.stored s x t).events.filter (·.occurredAt=t')=
      s.events.filter (·.occurredAt=t')++if t=t' then [x.event t] else [] := by
  rw [events_stored,List.filter_append]
  by_cases hsame : t=t'
  · rw [hsame] at htime ⊢
    simp [htime]
  · simp [htime,hsame]

theorem Shown.add (h : Shown env label c) (hx : env.unseen c.tables d=some x)
    (ht : env.occurredAt d=some t) (hnew : ∀ e∈c.tables.events, e.occurredAt≠t)
    (hlinked : IsLinked label (x.event t))
    (hfinds : x.label.map (·.id)=some label.id ↔ ∀ e∈c.tables.events, e.occurredAt < t) :
    Shown env label ⟨c.delivered++[d],Tracker.stored c.tables x t⟩ := by
  obtain ⟨htimes,hlabels⟩ := sighting_spec (unseen_sighting hx)
  have htime := htimes t
  constructor
  · intro d' hd'
    rcases List.mem_append.mp hd' with hold|hlast
    · obtain ⟨t',ht',e,hone,hlink⟩ := h.stored d' hold
      have he : e∈c.tables.events.filter (·.occurredAt=t') := by
        rw [hone]
        exact List.mem_singleton_self e
      obtain ⟨hmem,htime'⟩ := List.mem_filter.mp he
      have hne : t≠t' := fun hsame => hnew e hmem ((of_decide_eq_true htime').trans hsame.symm)
      refine ⟨t',ht',e,?_,hlink⟩
      rw [filter_stored c.tables htime,hone]
      simp [hne]
    · rw [List.mem_singleton.mp hlast]
      have hnone : c.tables.events.filter (·.occurredAt=t)=[] :=
        List.filter_eq_nil_iff.mpr fun e he => by simpa using hnew e he
      refine ⟨t,ht,x.event t,?_,hlinked⟩
      rw [filter_stored c.tables htime,hnone]
      simp
  · intro e he hmax
    have hmem : ∀ e'∈c.tables.events, e'∈(Tracker.stored c.tables x t).events :=
      fun e' he' => List.mem_append_left _ he'
    have hlast : x.event t∈(Tracker.stored c.tables x t).events :=
      List.mem_append_right _ (List.mem_singleton_self _)
    have hle := hmax _ hlast
    rw [htime] at hle
    rw [stored_label hlabels]
    rcases List.mem_append.mp he with hold|hnewest
    · have hfar : ¬x.label.map (·.id)=some label.id := by
        intro hfound
        have hlt := hfinds.mp hfound e hold
        omega
      rw [if_neg hfar]
      exact h.latest e hold fun e' he' => hmax e' (hmem e' he')
    · rw [List.mem_singleton.mp hnewest] at hmax ⊢
      have hlater : ∀ e'∈c.tables.events, e'.occurredAt < t := by
        intro e' he'
        have hle' := hmax e' (hmem e' he')
        rw [htime] at hle'
        exact lt_of_le_of_ne hle' (hnew e' he')
      rw [if_pos (hfinds.mpr hlater)]

theorem Shown.deliver (h : Shown env label c) (hsourced : Sourced env label c)
    (hfits : Fits env label c d) : Shown env label (deliver env c d) := by
  obtain ⟨t,ht,hfits⟩ := hfits
  split at hfits
  · next hthere =>
    rw [deliver_known (.inl (Option.isNone_iff_eq_none.mp hfits))]
    exact h.again hsourced ht hthere
  · next hnew =>
    obtain ⟨x,hx,hlinked,hfinds⟩ := hfits
    rw [deliver_new hx ht]
    exact h.add hx ht (fun e he hsame => hnew ⟨e,he,hsame⟩) hlinked hfinds

theorem exists_latest {l : List CarrierTrackingEvent} (h : l≠[]) :
    ∃ e∈l, ∀ e'∈l, e'.occurredAt≤e.occurredAt := by
  induction l with
  | nil => exact (h rfl).elim
  | cons a l ih =>
    cases l with
    | nil => exact ⟨a,List.mem_cons_self,fun e' he' => by simp_all⟩
    | cons b l =>
      obtain ⟨e,he,hmax⟩ := ih (List.cons_ne_nil b l)
      by_cases hle : a.occurredAt≤e.occurredAt
      · refine ⟨e,List.mem_cons_of_mem a he,fun e' he' => ?_⟩
        rcases List.mem_cons.mp he' with rfl|hrest
        · exact hle
        · exact hmax e' hrest
      · refine ⟨a,List.mem_cons_self,fun e' he' => ?_⟩
        rcases List.mem_cons.mp he' with rfl|hrest
        · exact le_refl _
        · have hrest := hmax e' hrest
          omega

theorem Shown.instant (h : Shown env label c) {e : CarrierTrackingEvent} (he : e∈c.tables.events)
    (hmax : ∀ e'∈c.tables.events, e'.occurredAt≤e.occurredAt) :
    ((c.tables.labels.get? label.id).bind (·.latestTracking)).map (·.occurredAt)=
      some e.occurredAt := by
  rw [h.latest e he hmax]
  rfl

theorem Shown.finds (h : Shown env label c) (hsourced : Sourced env label c)
    (hx : env.unseen c.tables d=some x) (hnew : ∀ e∈c.tables.events, e.occurredAt≠t)
    (hafter : Shown env label ⟨c.delivered++[d],Tracker.stored c.tables x t⟩) :
    x.label.map (·.id)=some label.id ↔ ∀ e∈c.tables.events, e.occurredAt < t := by
  obtain ⟨htimes,hlabels⟩ := sighting_spec (unseen_sighting hx)
  have htime := htimes t
  have hlast : x.event t∈(Tracker.stored c.tables x t).events :=
    List.mem_append_right _ (List.mem_singleton_self _)
  constructor
  · intro hfound e he
    by_contra hlt
    have hne := hnew e he
    obtain ⟨m,hm,hmax⟩ := exists_latest (List.ne_nil_of_mem he)
    have hem := hmax e he
    have hmax' : ∀ e'∈(Tracker.stored c.tables x t).events, e'.occurredAt≤ m.occurredAt := by
      intro e' he'
      rcases List.mem_append.mp he' with hold|hlast'
      · exact hmax e' hold
      · rw [List.mem_singleton.mp hlast',htime]
        omega
    have hshown := hafter.instant (List.mem_append_left _ hm) hmax'
    rw [stored_label hlabels,if_pos hfound] at hshown
    have hsame : (x.event t).occurredAt=m.occurredAt := Option.some.inj hshown
    omega
  · intro hlater
    by_contra hfar
    have hmax' : ∀ e'∈(Tracker.stored c.tables x t).events,
        e'.occurredAt≤(x.event t).occurredAt := by
      intro e' he'
      rcases List.mem_append.mp he' with hold|hlast'
      · have hlt := hlater e' hold
        omega
      · rw [List.mem_singleton.mp hlast']
    have hshown := hafter.instant hlast hmax'
    rw [stored_label hlabels,if_neg hfar,htime] at hshown
    by_cases hempty : c.tables.events=[]
    · rw [hsourced.blank hempty] at hshown
      cases hshown
    · obtain ⟨m,hm,hmax⟩ := exists_latest hempty
      rw [h.instant hm hmax] at hshown
      have hlt := hlater m hm
      have hsame : m.occurredAt=t := Option.some.inj hshown
      omega

theorem Shown.fits (h : Shown env label c) (hsourced : Sourced env label c)
    (hafter : Shown env label (CarrierTracking.deliver env c d)) : Fits env label c d := by
  have hmem : d∈(CarrierTracking.deliver env c d).delivered :=
    List.mem_append_right _ (List.mem_singleton_self d)
  obtain ⟨t,ht,e,hone,hlink⟩ := hafter.stored d hmem
  refine ⟨t,ht,?_⟩
  split
  · next hthere =>
    cases hx : env.unseen c.tables d with
    | none => rfl
    | some x =>
      have htime := (sighting_spec (unseen_sighting hx)).1 t
      obtain ⟨e₀,he₀,ht₀⟩ := hthere
      rw [deliver_new hx ht,filter_stored c.tables htime,if_pos rfl] at hone
      have hold : e₀∈c.tables.events.filter (·.occurredAt=t) :=
        List.mem_filter.mpr ⟨he₀,decide_eq_true ht₀⟩
      have hlength := congrArg List.length hone
      have hpos := List.length_pos_of_mem hold
      rw [List.length_append,List.length_singleton,List.length_singleton] at hlength
      omega
  · next hthere =>
    have hnew : ∀ e∈c.tables.events, e.occurredAt≠t := fun e he hsame => hthere ⟨e,he,hsame⟩
    have hnone : c.tables.events.filter (·.occurredAt=t)=[] :=
      List.filter_eq_nil_iff.mpr fun e he => by simpa using hnew e he
    cases hx : env.unseen c.tables d with
    | none =>
      rw [deliver_known (.inl hx),hnone] at hone
      cases hone
    | some x =>
      have htime := (sighting_spec (unseen_sighting hx)).1 t
      rw [deliver_new hx ht] at hone hafter
      rw [filter_stored c.tables htime,hnone,if_pos rfl] at hone
      have he : x.event t=e := by simpa using hone
      rw [← he] at hlink
      exact ⟨x,rfl,hlink,h.finds hsourced hx hnew hafter⟩

end Runs

section Demo
open CarrierLabels (demoCarriers demoShipment demoPackage)

def demoTracker : Tracker where
  toCarriers := {demoCarriers with
    runtime := ⟨fun s => s.map Char.toUpper,fun s => if s="2026-05-11T14:15:00.000Z".toList
      then some 1778508900000 else if s="2026-05-12T09:00:00.000Z".toList then some 1778576400000
      else none⟩}
  trackingHash := fun s => (s++List.replicate 20 '0').take 20
  toISOString := fun _ => []
  resolveSingleOwnerFromResources := fun _ _ _ => .ok none

def demoLabel : CarrierLabel where
  id := 1
  shipmentId := some demoShipment.id
  packageId := some demoPackage.id
  labelReference := "DPD-C68FAE00FD5FC447".toList
  status := .GENERATED
  carrier := some "DPD".toList
  trackingNumber := some "DPD-751AA1EFD5C57E".toList
  errorMessage := none
  latestTracking := none

theorem nodup_demo : ([demoLabel].map CarrierLabel.id).Nodup := List.nodup_singleton _

def demoStart : Db := ⟨[demoShipment],[demoPackage],⟨[demoLabel],nodup_demo⟩,[]⟩

def demoWebhook (externalEventId status occurredAt : String) : Delivery where
  carrierInput := "dpd".toList
  dto := {externalEventId := some externalEventId.toList
          labelReference := some demoLabel.labelReference
          status := some status.toList
          occurredAt := some occurredAt.toList}
  now := 0

def departed : Delivery := demoWebhook "E-1" "in transit" "2026-05-11T14:15:00.000Z"

def delivered : Delivery := demoWebhook "E-2" "Delivered" "2026-05-12T09:00:00.000Z"

end Demo

end AardvarkWms.CarrierTracking
