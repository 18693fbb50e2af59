import AardvarkWms.Messaging

/-! The integration inbox: an event is recorded once for a source system and an external id, and
then marked processed or failed. -/
namespace AardvarkWms.Messaging

open Transactions Transactions.Txn Relational

/-- `payload` and `headers` are `none` where the request leaves them out. -/
structure ReceiveInboxEventInput where
  sourceSystem : Str
  externalEventId : Str
  eventType : Str
  payload : Option Json
  headers : Option Json.Fields
  resourceType : Option Str
  resourceId : Option Str
  deriving DecidableEq

structure MarkInboxEventProcessedInput where
  resourceType : Option Str
  resourceId : Option Str
  metadata : Option Json.Fields
  deriving DecidableEq

structure MarkInboxEventFailedInput where
  errorMessage : Str
  metadata : Option Json.Fields
  deriving DecidableEq

structure NormalizedInboxEvent where
  sourceSystem : Str
  externalEventId : Str
  eventType : Str
  payload : Json
  headers : Json
  resourceType : Option Str
  resourceId : Option Str
  deriving DecidableEq

structure InboxEventResponse where
  id : ℕ
  sourceSystem : Str
  externalEventId : Str
  eventType : Str
  status : InboxEventStatus
  payload : Json
  headers : Option Json.Fields
  resourceType : Option Str
  resourceId : Option Str
  attempts : ℕ
  lastError : Option Str
  duplicate : Bool
  deriving DecidableEq

def toInboxEventResponse (r : InboxEventRecord) (duplicate : Bool) : InboxEventResponse where
  id := r.id
  sourceSystem := r.sourceSystem
  externalEventId := r.externalEventId
  eventType := r.type
  status := r.status
  payload := Json.coalesce (some r.payload) (.object [])
  headers := r.headers.fields?
  resourceType := r.resourceType
  resourceId := r.resourceId
  attempts := r.attempts
  lastError := r.lastError
  duplicate := duplicate

/-- A record or null. -/
def recordOrNull (fields : Option Json.Fields) : Json := fields.elim .null .object

def normalizeInboxEventInput (toUpperCase : Str → Str) (input : ReceiveInboxEventInput) :
    Except MessagingError NormalizedInboxEvent := do
  let sourceSystem ← normalizeRequired input.sourceSystem "sourceSystem"
  let externalEventId ← normalizeRequired input.externalEventId "externalEventId"
  let eventType ← normalizeRequired input.eventType "eventType"
  return ⟨toUpperCase sourceSystem,externalEventId,eventType,
    Json.coalesce input.payload (.object []),recordOrNull input.headers,
    normalizeOptional input.resourceType,normalizeOptional input.resourceId⟩

/-- The record is that of the event. -/
def NormalizedInboxEvent.isOf (n : NormalizedInboxEvent) (r : InboxEventRecord) : Bool :=
  r.sourceSystem=n.sourceSystem && r.externalEventId=n.externalEventId

/-- The answer where the event has a record. -/
def acceptDuplicate (existing : InboxEventRecord) (n : NormalizedInboxEvent) :
    Except MessagingError InboxEventResponse :=
  if ¬Json.sameJsonValue (Json.coalesce (some existing.payload) (.object []))
      (Json.coalesce (some n.payload) (.object [])) then
    .error (.conflict "Inbox event externalEventId was already received with a different payload")
  else if ¬Json.sameJsonValue existing.headers n.headers then
    .error (.conflict "Inbox event externalEventId was already received with different headers")
  else .ok (toInboxEventResponse existing true)

/-- The row that a first delivery inserts. -/
def newEvent (n : NormalizedInboxEvent) (id : ℕ) : InboxEventRecord where
  id := id
  sourceSystem := n.sourceSystem
  externalEventId := n.externalEventId
  type := n.eventType
  status := .RECEIVED
  payload := Json.coalesce (some n.payload) (.object [])
  headers := n.headers
  resourceType := n.resourceType
  resourceId := n.resourceId
  attempts := 0
  lastError := none

def mergeJsonRecord (existing : Json) (extra : Json.Fields) : Json :=
  .object ((existing.fields?.getD []).spread extra)

namespace OutboxService
variable (toUpperCase : Str → Str)

def receiveInboxEvent (input : ReceiveInboxEventInput) : Msg InboxEventResponse := do
  let n ← compute (I := interface messaging) (normalizeInboxEventInput toUpperCase input)
  let existing ← findFirst (D := messaging) .inboxEvents n.isOf
  match existing with
  | some existing => compute (I := interface messaging) (acceptDuplicate existing n)
  | none => do
    let id ← fresh
    insert (D := messaging) .inboxEvents (newEvent n id)
    return toInboxEventResponse (newEvent n id) false

/-- Both marks read the event, refuse or answer it as it is, or else update it. The update is
made of the row as it was read. -/
def markInbox (eventId : ℕ)
    (plan : InboxEventRecord → Except MessagingError (Option InboxEventUpdate)) :
    Msg InboxEventResponse := do
  let found ← findFirst (D := messaging) .inboxEvents fun r => r.id=eventId
  let existing ← demand (I := interface messaging) found (.notFound "Inbox event was not found")
  let planned ← compute (I := interface messaging) (plan existing)
  match planned with
  | none => return toInboxEventResponse existing false
  | some u => do
    let updated ← updateReturning (D := messaging) .inboxEvents existing.id u
      (.notFound "Record to update not found")
    return toInboxEventResponse updated false

def planProcessed (input : MarkInboxEventProcessedInput) (existing : InboxEventRecord) :
    Except MessagingError (Option InboxEventUpdate) :=
  if existing.status=.PROCESSED then .ok none
  else if existing.status=.FAILED then
    .error (.conflict "Failed inbox events must be retried before they can be processed")
  else .ok (some
    { status := .PROCESSED
      resource := some ((normalizeOptional input.resourceType).or existing.resourceType,
        (normalizeOptional input.resourceId).or existing.resourceId)
      lastError := none
      headers := mergeJsonRecord existing.headers
        [("processedMetadata",recordOrNull input.metadata)] })

def planFailed (input : MarkInboxEventFailedInput) (existing : InboxEventRecord) :
    Except MessagingError (Option InboxEventUpdate) :=
  if existing.status=.PROCESSED then
    .error (.conflict "Processed inbox events cannot be marked failed")
  else .ok (some
    { status := .FAILED
      resource := none
      lastError := some (trim input.errorMessage)
      headers := mergeJsonRecord existing.headers [("failedMetadata",recordOrNull input.metadata)] })

def markInboxProcessed (eventId : ℕ) (input : MarkInboxEventProcessedInput) :
    Msg InboxEventResponse := markInbox eventId (planProcessed input)

def markInboxFailed (eventId : ℕ) (input : MarkInboxEventFailedInput) : Msg InboxEventResponse :=
  markInbox eventId (planFailed input)

end OutboxService

inductive InboxRequest
  | receive (input : ReceiveInboxEventInput)
  | markProcessed (eventId : ℕ) (input : MarkInboxEventProcessedInput)
  | markFailed (eventId : ℕ) (input : MarkInboxEventFailedInput)

def InboxRequest.prog (toUpperCase : Str → Str) : InboxRequest → Msg InboxEventResponse
  | receive input => OutboxService.receiveInboxEvent toUpperCase input
  | markProcessed eventId input => OutboxService.markInboxProcessed eventId input
  | markFailed eventId input => OutboxService.markInboxFailed eventId input

/-- A call with what it answers. -/
structure InboxCall where
  request : InboxRequest
  answer : Except MessagingError InboxEventResponse

def InboxCall.prog (toUpperCase : Str → Str) (k : InboxCall) : Msg Unit := do
  let answer ← attempt (k.request.prog toUpperCase)
  require (answer=k.answer) MessagingError.answeredOtherwise

/-- The update that a mark makes of the event that it read. -/
def InboxRequest.plan : InboxRequest → InboxEventRecord → Except MessagingError (Option InboxEventUpdate)
  | receive _, _ => .ok none
  | markProcessed _ input, r => OutboxService.planProcessed input r
  | markFailed _ input, r => OutboxService.planFailed input r

abbrev events (d : MessagingDb) : List InboxEventRecord := (d .inboxEvents).rows

abbrev OneEvent (d : MessagingDb) : Prop :=
  Indexed (D := messaging) .inboxEvents (d .inboxEvents)

/-- A delivery that found no record inserts while there is none, and the headers that a mark
writes print like those that are stored. -/
def Undisturbed (toUpperCase : Str → Str) (k : InboxCall) (c : MsgCtx) : Prop :=
  (∀ input n, k.request=.receive input → normalizeInboxEventInput toUpperCase input=.ok n →
    c.Saw (.rows .inboxEvents n.isOf) [] → ∀ r∈events c.base, n.isOf r=false) ∧
  ∀ existing rs u now, k.request.plan existing=.ok (some u) →
    c.Saw (.rows .inboxEvents fun r => r.id=existing.id) (existing::rs) →
    (c.base .inboxEvents).get? existing.id=some now → Json.sameJsonValue u.headers now.headers

/-- A delivery answers from the record that it found, inserts one, or fails. -/
inductive Received (n : NormalizedInboxEvent) (c : MsgCtx) :
    Except MessagingError InboxEventResponse → Prop
  | found (r rs) (hlog : c.log=[⟨.rows .inboxEvents n.isOf,r::rs⟩]) (hview : c.view=c.base) :
      Received n c (acceptDuplicate r n)
  | created (id) (hlog : c.log=passed (D := messaging) (t := .inboxEvents) (newEvent n id)
        [⟨.rows .inboxEvents n.isOf,[]⟩])
      (hnew : (c.base .inboxEvents).get? id=none) (hfree : ∀ s∈events c.base, n.isOf s=false)
      (hview : c.view=apply (D := messaging) (.insert .inboxEvents (newEvent n id)) c.base) :
      Received n c (.ok (toInboxEventResponse (newEvent n id) false))
  | refused (hlog : c.Saw (.rows .inboxEvents n.isOf) []) (hview : c.view=c.base) :
      Received n c (.error .uniqueViolation)

/-- A mark leaves the events, or updates the one that it read. -/
inductive Marked (k : InboxCall) (c : MsgCtx) : Prop
  | kept (hview : c.view=c.base)
  | updated (existing rs u now) (hplan : k.request.plan existing=.ok (some u))
      (hread : c.Saw (.rows .inboxEvents fun r => r.id=existing.id) (existing::rs))
      (hnow : (c.base .inboxEvents).get? existing.id=some now)
      (hview : c.view=apply (D := messaging) (.update .inboxEvents existing.id u) c.base)

def InboxEffect (toUpperCase : Str → Str) (k : InboxCall) (c : MsgCtx) : Prop :=
  match k.request with
  | .receive input => (∃ e, normalizeInboxEventInput toUpperCase input=.error e ∧ c.view=c.base) ∨
      ∃ n, normalizeInboxEventInput toUpperCase input=.ok n ∧ Received n c k.answer
  | _ => Marked k c

section Specs
variable {toUpperCase : Str → Str} {n : NormalizedInboxEvent} {c : MsgCtx} {Mid : MsgCtx → Prop}

theorem newEvent_isOf (n : NormalizedInboxEvent) (id : ℕ) : n.isOf (newEvent n id)=true := by
  simp [NormalizedInboxEvent.isOf,newEvent]

theorem isOf_event_iff {r : InboxEventRecord} : n.isOf r=true ↔
    messaging.unique (t := .inboxEvents) r=some (.inbox n.sourceSystem n.externalEventId) := by
  simp [NormalizedInboxEvent.isOf,MessagingTable.unique]

theorem wp_receive {input : ReceiveInboxEventInput}
    (hn : normalizeInboxEventInput toUpperCase input=.ok n) (hlog : c.log=[]) (hview : c.view=c.base) :
    wp messagingStore Mid (attempt (OutboxService.receiveInboxEvent toUpperCase input)) c
      (fun a c => Received n c a) := by
  simp only [OutboxService.receiveInboxEvent,hn,compute,bind_eq,pure_eq,attempt_bind,Txn.bind,
    wp_bind]
  refine wp_attempt_findFirst (D := messaging) fun rs _ => ?_
  cases rs with
  | cons r rs =>
    show wp messagingStore Mid (attempt (compute (I := interface messaging) _)) _ _
    rw [attempt_compute]
    exact .found r rs (by rw [Ctx.saw_log,hlog]) hview
  | nil =>
    intro id
    show wp messagingStore Mid (attempt ((insert (D := messaging) .inboxEvents
      (newEvent n id)).bind _)) _ _
    rw [attempt_bind,wp_bind]
    refine wp_attempt_insert (D := messaging) (fun c' hnew hc hfree hlog' => ?_) fun c' hc href => ?_
    · have hbase : c'.base=c.base := hc.base
      have hview' : c'.view=c'.base := (hc.view.symm.trans hview).trans hbase.symm
      rw [Ctx.saw_log,hlog] at hlog'
      rw [Ctx.saw_view,hview,← hbase] at hnew
      refine .created id hlog' hnew (fun s hs => ?_) ?_
      · have hs' : s∈events c.view := by rw [hview,← hbase]; exact hs
        have hne := (hfree _ rfl).2 s hs'
        cases hskey : n.isOf s with
        | false => rfl
        | true => exact (hne (isOf_event_iff.mp hskey)).elim
      · rw [Ctx.wrote_view,hview']
        rfl
    · have hbase : c'.base=c.base := hc.base
      exact .refused (hc.saw (Ctx.saw_saw _ _ _)) ((hc.view.symm.trans hview).trans hbase.symm)

theorem wp_markInbox {k : InboxCall} {eventId : ℕ}
    {plan : InboxEventRecord → Except MessagingError (Option InboxEventUpdate)}
    (hk : k.request.plan=plan) (hview : c.view=c.base) :
    wp messagingStore Mid (attempt (OutboxService.markInbox eventId plan)) c
      (fun _ c => Marked k c) := by
  subst hk
  simp only [OutboxService.markInbox,bind_eq,pure_eq,attempt_bind,wp_bind]
  refine wp_attempt_findFirst (D := messaging) fun rs hrs => ?_
  cases rs with
  | nil => exact .kept hview
  | cons existing rs =>
    have hid : existing.id=eventId := by simpa using (hrs existing rfl).1
    show wp messagingStore Mid ((attempt (compute (I := interface messaging)
      (k.request.plan existing))).bind _) _ _
    rw [attempt_compute,wp_bind,wp_done]
    cases hplan : k.request.plan existing with
    | error e => exact .kept hview
    | ok planned =>
      cases planned with
      | none => exact .kept hview
      | some u =>
        show wp messagingStore Mid (attempt ((updateReturning (D := messaging) .inboxEvents
          existing.id u _).bind _)) _ _
        rw [attempt_bind,wp_bind]
        refine wp_updateReturning (D := messaging) (fun now hnow => ?_) fun _ => .kept hview
        refine .updated existing rs u now hplan ?_ ?_ ?_
        · rw [hid]
          simp [Ctx.Saw]
        · rw [← hnow]
          simp [← hview]
        · simp [hview]

theorem InboxCall.spec (toUpperCase : Str → Str) (k : InboxCall) :
    Spec messagingStore (InboxEffect toUpperCase k) (k.prog toUpperCase) := by
  intro d
  simp only [InboxCall.prog,bind_eq,wp_bind,wp_require]
  cases hrequest : k.request with
  | receive input =>
    cases hn : normalizeInboxEventInput toUpperCase input with
    | error e =>
      simp only [InboxRequest.prog,OutboxService.receiveInboxEvent,hn,bind_eq,attempt_bind]
      intro _
      simp only [InboxEffect,hrequest]
      exact .inl ⟨e,hn,rfl⟩
    | ok n =>
      refine wp_mono (fun a c hreceived => ?_) (wp_receive hn rfl rfl)
      intro hanswer
      simp only [InboxEffect,hrequest]
      exact .inr ⟨n,hn,hanswer ▸ hreceived⟩
  | markProcessed eventId input =>
    refine wp_mono (fun a c hmarked => ?_) (wp_markInbox (k := k) (by rw [hrequest]; rfl) rfl)
    intro _
    simp only [InboxEffect,hrequest]
    exact hmarked
  | markFailed eventId input =>
    refine wp_mono (fun a c hmarked => ?_) (wp_markInbox (k := k) (by rw [hrequest]; rfl) rfl)
    intro _
    simp only [InboxEffect,hrequest]
    exact hmarked

end Specs

/-- Every event stays, with its payload and headers that print alike. -/
def Kept (d d' : MessagingDb) : Prop :=
  ∀ id r, (d .inboxEvents).get? id=some r → ∃ r', (d' .inboxEvents).get? id=some r' ∧
    r'.sourceSystem=r.sourceSystem ∧ r'.externalEventId=r.externalEventId ∧
    r'.payload=r.payload ∧ Json.sameJsonValue r'.headers r.headers

section Kept
variable {d d' d'' : MessagingDb} {n : NormalizedInboxEvent} {r : InboxEventRecord}

theorem Kept.refl (d : MessagingDb) : Kept d d := fun _ r h => ⟨r,h,rfl,rfl,rfl,.refl _⟩

theorem Kept.trans (h : Kept d d') (h' : Kept d' d'') : Kept d d'' := by
  intro id r hr
  obtain ⟨s,hs,hsource,hext,hpayload,hheaders⟩ := h id r hr
  obtain ⟨u,hu,hsource',hext',hpayload',hheaders'⟩ := h' id s hs
  exact ⟨u,hu,hsource'.trans hsource,hext'.trans hext,hpayload'.trans hpayload,
    hheaders'.trans hheaders⟩

theorem isOf_congr {s : InboxEventRecord} (hsource : s.sourceSystem=r.sourceSystem)
    (hext : s.externalEventId=r.externalEventId) : n.isOf s=n.isOf r := by
  simp [NormalizedInboxEvent.isOf,hsource,hext]

theorem InboxEffect.view {toUpperCase : Str → Str} {k : InboxCall} {c : MsgCtx}
    (h : InboxEffect toUpperCase k c) : Marked k c ∨ ∃ (n : NormalizedInboxEvent) (id : ℕ),
      (c.base .inboxEvents).get? id=none ∧ (∀ s∈events c.base, n.isOf s=false) ∧
      c.view=apply (D := messaging) (.insert .inboxEvents (newEvent n id)) c.base := by
  unfold InboxEffect at h
  cases hrequest : k.request with
  | receive input =>
    rw [hrequest] at h
    rcases h with ⟨e,_,hview⟩|⟨n,_,hreceived⟩
    · exact .inl (.kept hview)
    · generalize k.answer=a at hreceived
      cases hreceived with
      | found r rs hlog hview => exact .inl (.kept hview)
      | created id hlog hnew hfree hview => exact .inr ⟨n,id,hnew,hfree,hview⟩
      | refused hlog hview => exact .inl (.kept hview)
  | markProcessed eventId input => rw [hrequest] at h; exact .inl h
  | markFailed eventId input => rw [hrequest] at h; exact .inl h

theorem InboxEffect.kept {toUpperCase : Str → Str} {k : InboxCall} {c : MsgCtx}
    (h : InboxEffect toUpperCase k c) (hok : Undisturbed toUpperCase k c) : Kept c.base c.view := by
  rcases h.view with hmarked|⟨n,id,hnew,_,hview⟩
  · cases hmarked with
    | kept hview => rw [hview]; exact .refl _
    | updated existing rs u now hplan hread hnow hview =>
      have hsame := hok.2 existing rs u now hplan hread hnow
      intro id r hr
      rw [hview,apply_update_self]
      by_cases hid : id=existing.id
      · subst hid
        obtain rfl := Option.some.inj (hnow.symm.trans hr)
        refine ⟨u.patch now,?_,rfl,rfl,rfl,hsame⟩
        refine (Table.get?_modify_self _ _ _ _).trans ?_
        rw [hnow]
        rfl
      · refine ⟨r,?_,rfl,rfl,rfl,.refl _⟩
        exact (Table.get?_modify_ne _ _ _ hid).trans hr
  · intro i r hr
    rw [hview,apply_insert_self]
    have hne : i≠(newEvent n id).id := by
      intro he
      rw [he] at hr
      exact absurd (hr.symm.trans hnew) (by simp)
    exact ⟨r,(Table.get?_insert_ne _ hne).trans hr,rfl,rfl,rfl,.refl _⟩

theorem InboxEffect.oneEvent {toUpperCase : Str → Str} {k : InboxCall} {c : MsgCtx}
    (h : InboxEffect toUpperCase k c) (hone : OneEvent c.base) : OneEvent c.view := by
  rcases h.view with hmarked|⟨n,id,hnew,hfree,hview⟩
  · cases hmarked with
    | kept hview => rw [hview]; exact hone
    | updated existing rs u now hplan hread hnow hview =>
      rw [hview]
      show Indexed (D := messaging) .inboxEvents
        ((apply (D := messaging) (.update .inboxEvents existing.id u) c.base) .inboxEvents)
      rw [apply_update_self]
      exact hone.modify _ _
  · rw [hview]
    show Indexed (D := messaging) .inboxEvents
      ((apply (D := messaging) (.insert .inboxEvents (newEvent n id)) c.base) .inboxEvents)
    rw [apply_insert_self]
    refine hone.insert hnew fun a ha s hs hsa => ?_
    have hskey : n.isOf s=true := by
      rw [isOf_event_iff,hsa,← ha]
      exact isOf_event_iff.mp (newEvent_isOf n id)
    exact absurd ((hfree s hs).symm.trans hskey) (by simp)

end Kept

/-- The record is of the event, with its payload and headers. -/
structure Records (n : NormalizedInboxEvent) (r : InboxEventRecord) : Prop where
  event : n.isOf r=true
  payload : Json.sameJsonValue (Json.coalesce (some r.payload) (.object []))
    (Json.coalesce (some n.payload) (.object []))
  headers : Json.sameJsonValue r.headers n.headers

/-- Two deliveries of one event, alike in source, external id, payload and headers. -/
structure Identical (n n' : NormalizedInboxEvent) : Prop where
  sourceSystem : n.sourceSystem=n'.sourceSystem
  externalEventId : n.externalEventId=n'.externalEventId
  payload : Json.sameJsonValue (Json.coalesce (some n.payload) (.object []))
    (Json.coalesce (some n'.payload) (.object []))
  headers : Json.sameJsonValue n.headers n'.headers

section Deliveries
variable {n n' : NormalizedInboxEvent} {r s : InboxEventRecord} {d d' : MessagingDb} {c : MsgCtx}
  {a : Except MessagingError InboxEventResponse} {b : InboxEventResponse}

theorem acceptDuplicate_ok : acceptDuplicate r n=.ok b ↔
    (Json.sameJsonValue (Json.coalesce (some r.payload) (.object []))
      (Json.coalesce (some n.payload) (.object [])) ∧ Json.sameJsonValue r.headers n.headers) ∧
    b=toInboxEventResponse r true := by
  unfold acceptDuplicate
  split
  · rename_i hpayload
    simp [hpayload]
  · rename_i hpayload
    split
    · rename_i hheaders
      simp [hheaders]
    · rename_i hheaders
      simp only [not_not] at hpayload hheaders
      simp [hpayload,hheaders,eq_comm]

theorem Records.of_identical (h : Records n r) (hsame : Identical n' n) : Records n' r := by
  refine ⟨?_,h.payload.trans hsame.payload.symm,h.headers.trans hsame.headers.symm⟩
  have hevent := h.event
  simp only [NormalizedInboxEvent.isOf,hsame.sourceSystem,hsame.externalEventId] at hevent ⊢
  exact hevent

theorem Records.kept (h : Records n r) (hr : r∈events d) (hkept : Kept d d') :
    ∃ r'∈events d', r'.id=r.id ∧ Records n r' := by
  obtain ⟨r',hr',hsource,hext,hpayload,hheaders⟩ := hkept r.id r (Table.get?_key hr)
  refine ⟨r',(Table.mem_of_get? hr').1,Table.key_of_get? hr',?_,?_,hheaders.trans h.headers⟩
  · exact (isOf_congr hsource hext).trans h.event
  · rw [hpayload]
    exact h.payload

theorem Received.records (h : Received n c a) (ha : a=.ok b)
    (hreads : Sighted messagingStore Kept c.log c.base) :
    ∃ r∈events c.view, r.id=b.id ∧ Records n r := by
  cases h with
  | found r rs hlog hview =>
    obtain ⟨⟨hpayload,hheaders⟩,hb⟩ := acceptDuplicate_ok.mp ha
    rw [hlog] at hreads
    obtain ⟨d,hrs,hkept,_⟩ := hreads.head
    have hmem : r∈(events d).filter n.isOf := by
      have hmem : r∈r::rs := List.mem_cons_self
      rw [hrs] at hmem
      exact hmem
    obtain ⟨hmem,hevent⟩ := List.mem_filter.mp hmem
    have hrecords : Records n r := ⟨hevent,hpayload,hheaders⟩
    obtain ⟨r',hr',hid,hrecords'⟩ := hrecords.kept hmem hkept
    refine ⟨r',by rw [hview]; exact hr',?_,hrecords'⟩
    rw [hid,hb]
    rfl
  | created id hlog hnew hfree hview =>
    obtain rfl := Except.ok.inj ha
    refine ⟨newEvent n id,?_,rfl,newEvent_isOf n id,?_,.refl _⟩
    · rw [hview]
      show newEvent n id∈((apply (D := messaging) (.insert .inboxEvents (newEvent n id)) c.base)
        .inboxEvents).rows
      rw [apply_insert_self,Table.rows_insert hnew]
      simp
    · have hstored : (newEvent n id).payload=Json.coalesce (some n.payload) (.object []) := rfl
      have hnot : Json.coalesce (some n.payload) (.object [])≠.null :=
        Json.coalesce_ne_null _ (by simp)
      rw [hstored,Json.coalesce_some hnot]
      exact .refl _
  | refused hlog hview => cases ha

theorem Received.duplicate (h : Received n c a) (hone : OneEvent c.base) (hr : r∈events c.base)
    (hrecords : Records n r) (hreads : Sighted messagingStore Kept c.log c.base)
    (hcurrent : c.Saw (.rows .inboxEvents n.isOf) [] → ∀ r∈events c.base, n.isOf r=false) :
    ∃ b, a=.ok b ∧ b.duplicate=true ∧ b.id=r.id := by
  cases h with
  | found s rs hlog hview =>
    rw [hlog] at hreads
    obtain ⟨d,hrs,hkept,_⟩ := hreads.head
    have hmem : s∈(events d).filter n.isOf := by
      have hmem : s∈s::rs := List.mem_cons_self
      rw [hrs] at hmem
      exact hmem
    obtain ⟨hmem,hevent⟩ := List.mem_filter.mp hmem
    obtain ⟨s',hs',hsource,hext,hpayload,hheaders⟩ := hkept s.id s (Table.get?_key hmem)
    have hs'event : n.isOf s'=true := (isOf_congr hsource hext).trans hevent
    have hsame : s'=r := hone s' (Table.mem_of_get? hs').1 r hr _ (isOf_event_iff.mp hs'event)
      (isOf_event_iff.mp hrecords.event)
    subst hsame
    refine ⟨toInboxEventResponse s true,?_,rfl,(Table.key_of_get? hs').symm⟩
    refine acceptDuplicate_ok.mpr ⟨⟨?_,hheaders.symm.trans hrecords.headers⟩,rfl⟩
    rw [← hpayload]
    exact hrecords.payload
  | created id hlog hnew hfree hview =>
    exact absurd ((hfree r hr).symm.trans hrecords.event) (by simp)
  | refused hlog hview =>
    exact absurd ((hcurrent hlog r hr).symm.trans hrecords.event) (by simp)

end Deliveries

section ReadsFirst
variable (toUpperCase : Str → Str)

theorem readsFirst_markInbox (eventId : ℕ)
    (plan : InboxEventRecord → Except MessagingError (Option InboxEventUpdate)) :
    ReadsFirst false (OutboxService.markInbox eventId plan) := by
  simp only [OutboxService.markInbox,bind_eq,pure_eq]
  refine ReadsFirst.bind (only_findFirst (D := messaging) _ _) fun found => ?_
  refine ReadsFirst.bind (only_demand _ _) fun existing => ?_
  refine ReadsFirst.bind (only_compute _) fun planned => ?_
  cases planned with
  | none => trivial
  | some u =>
    exact (readsFirst_updateReturning (D := messaging) (t := .inboxEvents) existing.id u _).append
      fun _ _ => trivial

theorem readsFirst_receive (input : ReceiveInboxEventInput) :
    ReadsFirst false (OutboxService.receiveInboxEvent toUpperCase input) := by
  simp only [OutboxService.receiveInboxEvent,bind_eq,pure_eq]
  refine ReadsFirst.bind (only_compute _) fun n => ?_
  refine ReadsFirst.bind (only_findFirst (D := messaging) _ _) fun existing => ?_
  cases existing with
  | some r => exact .of_reads (only_compute _)
  | none =>
    intro id
    exact (readsFirst_insert (D := messaging) .inboxEvents (newEvent n id)).append fun _ _ => trivial

theorem InboxCall.readsFirst (k : InboxCall) : ReadsFirst false (k.prog toUpperCase) := by
  have hend : ∀ (a : Except MessagingError InboxEventResponse) wrote,
      ReadsFirst wrote (require (a=k.answer) MessagingError.answeredOtherwise : Msg Unit) := by
    intro a wrote
    unfold require
    split <;> trivial
  refine ReadsFirst.append (ReadsFirst.attempt ?_) hend
  cases k.request with
  | receive input => exact readsFirst_receive toUpperCase input
  | markProcessed eventId input => exact readsFirst_markInbox eventId _
  | markFailed eventId input => exact readsFirst_markInbox eventId _

end ReadsFirst

/-- In every run of deliveries and marks that are not disturbed: an event never has two records;
what a delivery was accepted with stays the record of its event; and whoever delivers an event
again that was accepted before is accepted as a duplicate of the same record. -/
theorem redeliveries_accepted (toUpperCase : Str → Str) {d : MessagingDb}
    {tr : List (InboxCall × MsgCtx)} {c : Config (interface messaging) MessagingDb InboxCall}
    (hstart : OneEvent d)
    (hrun : Run messagingStore (InboxCall.prog toUpperCase) (Undisturbed toUpperCase) d tr c) :
    OneEvent c.committed ∧
    (∀ e∈tr, ∀ input n b, e.1.request=.receive input →
      normalizeInboxEventInput toUpperCase input=.ok n → e.1.answer=.ok b →
      ∃ r∈events c.committed, r.id=b.id ∧ Records n r) ∧
    tr.Pairwise fun e e' => ∀ input input' n n' b', e.1.request=.receive input →
      e'.1.request=.receive input' → normalizeInboxEventInput toUpperCase input=.ok n →
      normalizeInboxEventInput toUpperCase input'=.ok n' → Identical n n' →
      e'.1.answer=.ok b' → ∃ b, e.1.answer=.ok b ∧ b.duplicate=true ∧ b.id=b'.id := by
  have hspec := InboxCall.spec toUpperCase
  have hcommits := hrun.commits hspec
  have hone : OneEvent c.committed ∧ ∀ e∈tr, OneEvent e.2.base :=
    hrun.invariant hspec hstart fun k c heffect _ hone => heffect.oneEvent hone
  obtain ⟨hcommitted,hbases⟩ := hone
  have hsighted := hrun.sighted hspec (InboxCall.readsFirst toUpperCase) (R := Kept) .refl .trans
    fun k c heffect hok => heffect.kept hok
  obtain ⟨hbetween,hlater⟩ := hrun.moving hspec (R := Kept) .refl .trans
    fun k c heffect hok => heffect.kept hok
  have hreceived : ∀ e∈tr, ∀ input n, e.1.request=.receive input →
      normalizeInboxEventInput toUpperCase input=.ok n → Received n e.2 e.1.answer := by
    intro e he input n hrequest hn
    obtain ⟨heffect,_⟩ := hcommits e he
    simp only [InboxEffect,hrequest] at heffect
    rcases heffect with ⟨err,herr,_⟩|⟨m,hm,hreceived⟩
    · rw [hn] at herr
      cases herr
    · rw [hn] at hm
      cases hm
      exact hreceived
  refine ⟨hcommitted,fun e he input n b hrequest hn hb => ?_,?_⟩
  · obtain ⟨r,hr,hid,hrecords⟩ := (hreceived e he input n hrequest hn).records hb (hsighted e he)
    obtain ⟨r',hr',hid',hrecords'⟩ := hrecords.kept hr (hlater e he)
    exact ⟨r',hr',hid'.trans hid,hrecords'⟩
  · refine List.Pairwise.imp_of_mem ?_ hbetween
    intro e e' he he' hkept input input' n n' b' hrequest hrequest' hn hn' hsame hb'
    obtain ⟨r,hr,hid,hrecords⟩ :=
      (hreceived e' he' input' n' hrequest' hn').records hb' (hsighted e' he')
    obtain ⟨r',hr',hid',hrecords'⟩ := hrecords.kept hr hkept
    obtain ⟨b,hb,hduplicate,hbid⟩ := (hreceived e he input n hrequest hn).duplicate (hbases e he) hr'
      (hrecords'.of_identical hsame) (hsighted e he) ((hcommits e he).2.1 input n hrequest hn)
    exact ⟨b,hb,hduplicate,hbid.trans (hid'.trans hid)⟩

/-- No mark of the request changes the headers of the event. -/
def InboxRequest.harmless (k : InboxRequest) (r : InboxEventRecord) : Bool :=
  match k.plan r with
  | .ok (some u) => decide (Json.sameJsonValue u.headers r.headers)
  | _ => true

theorem undisturbed_of_seen {toUpperCase : Str → Str} {k : InboxCall} {c : MsgCtx}
    (hseen : ∀ x∈c.log, SeenIn (D := messaging) c.base x)
    (hplan : ∀ r∈events c.base, k.request.harmless r=true) : Undisturbed toUpperCase k c := by
  constructor
  · intro input n _ _ hread r hr
    have hnone : []=(events c.base).filter n.isOf := hseen _ hread
    have hempty := List.filter_eq_nil_iff.mp hnone.symm r hr
    simpa using hempty
  · intro existing rs u now hu hread hnow
    have hrows : existing::rs=(events c.base).filter fun r => r.id=existing.id := hseen _ hread
    have hmem : existing∈(events c.base).filter fun r => r.id=existing.id := by
      rw [← hrows]
      exact List.mem_cons_self
    have hexisting := (List.mem_filter.mp hmem).1
    have hsame : (c.base .inboxEvents).get? existing.id=some existing := Table.get?_key hexisting
    obtain rfl := Option.some.inj (hsame.symm.trans hnow)
    have hharmless := hplan _ hexisting
    simpa [InboxRequest.harmless,hu] using hharmless

def demoDelivery (headers : Option Json.Fields) : ReceiveInboxEventInput :=
  ⟨['E','R','P'],['e','1'],['O'],none,headers,none,none⟩

def demoEvent (status : InboxEventStatus) (headers : Option Json.Fields) (attempts : ℕ)
    (duplicate : Bool) : InboxEventResponse :=
  ⟨10,['E','R','P'],['e','1'],['O'],status,.object [],headers,none,none,attempts,none,duplicate⟩

/-- An event is delivered, marked as processed and delivered again. -/
def demoInbox (headers processed : Option Json.Fields)
    (again : Except MessagingError InboxEventResponse) : List InboxCall :=
  [⟨.receive (demoDelivery headers),.ok (demoEvent .RECEIVED headers 0 false)⟩,
   ⟨.markProcessed 10 ⟨none,none,none⟩,.ok (demoEvent .PROCESSED processed 1 false)⟩,
   ⟨.receive (demoDelivery headers),again⟩]

def demoHeaders : Option Json.Fields := some [("processedMetadata",.null)]

theorem redeliveries_accepted_demo : ∃ tr d,
    serially messagingStore (InboxCall.prog id) id (demoInbox demoHeaders demoHeaders
      (.ok (demoEvent .PROCESSED demoHeaders 1 true))) 10 [] noMessages=.ok (tr,d) ∧
    tr.length=3 ∧ OneEvent d ∧ ∃ r∈events d, r.id=10 := by
  have hhistory : ∃ tr d,
      serially messagingStore (InboxCall.prog id) id (demoInbox demoHeaders demoHeaders
        (.ok (demoEvent .PROCESSED demoHeaders 1 true))) 10 [] noMessages=.ok (tr,d) ∧
      tr.length=3 ∧ (∀ e∈tr, ∀ x∈e.2.log, SeenIn (D := messaging) e.2.base x) ∧
      (∀ e∈tr, ∀ r∈events e.2.base, e.1.request.harmless r=true) ∧ ∃ r∈events d, r.id=10 :=
    ⟨_,_,rfl,rfl,by decide,by decide,by decide⟩
  obtain ⟨tr,d,he,hlength,hseen,hharmless,hevent⟩ := hhistory
  have hrun : Run messagingStore (InboxCall.prog id) (Undisturbed id) noMessages tr (.idle d) :=
    Run.serially he .start fun e hmem => undisturbed_of_seen (hseen e hmem) (hharmless e hmem)
  have hnone : OneEvent noMessages := by intro r hr; cases hr
  obtain ⟨hone,_,_⟩ := redeliveries_accepted id hnone hrun
  exact ⟨tr,d,he,hlength,hone,hevent⟩

/-- An event without headers that was processed is delivered again: a conflict. -/
theorem processed_event_conflicts : ¬∀ d tr (c : Config (interface messaging) MessagingDb InboxCall),
    OneEvent d → Run messagingStore (InboxCall.prog id) (fun _ _ => True) d tr c →
    tr.Pairwise fun e e' => ∀ input, e.1.request=.receive input → e'.1.request=.receive input →
      ∀ b', e'.1.answer=.ok b' → ∃ b, e.1.answer=.ok b ∧ b.duplicate=true := by
  intro h
  have hhistory : ∃ tr d,
      serially messagingStore (InboxCall.prog id) id (demoInbox none demoHeaders (.error
        (.conflict "Inbox event externalEventId was already received with different headers")))
        10 [] noMessages=.ok (tr,d) ∧
      tr.map (fun e => e.1)=(demoInbox none demoHeaders (.error
        (.conflict "Inbox event externalEventId was already received with different headers"))).reverse :=
    ⟨_,_,rfl,rfl⟩
  obtain ⟨tr,d,he,hops⟩ := hhistory
  have hrun : Run messagingStore (InboxCall.prog id) (fun _ _ => True) noMessages tr (.idle d) :=
    Run.serial he fun _ _ _ => trivial
  have hnone : OneEvent noMessages := by intro r hr; cases hr
  have hpairs := h _ _ _ hnone hrun
  have hmap : (tr.map (fun e => e.1)).Pairwise fun k k' => ∀ input, k.request=.receive input →
      k'.request=.receive input → ∀ b', k'.answer=.ok b' → ∃ b, k.answer=.ok b ∧ b.duplicate=true :=
    List.pairwise_map.mpr hpairs
  rw [hops] at hmap
  have hlast := (List.pairwise_cons.mp hmap).1 ⟨.receive (demoDelivery none),
    .ok (demoEvent .RECEIVED none 0 false)⟩ (by simp) _ rfl rfl _ rfl
  obtain ⟨b,hb,_⟩ := hlast
  cases hb

end AardvarkWms.Messaging
