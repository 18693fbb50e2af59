import AardvarkWms.Messaging
import Mathlib.Data.List.Induction

/-! Outbox events and the envelope in which payload and headers share one column. -/
namespace AardvarkWms.Messaging

inductive OutboxDeliveryStatus
  | PENDING | PROCESSING | SENT | FAILED | DEAD_LETTER
  deriving DecidableEq

/-- Times are milliseconds. -/
structure OutboxEventRecord where
  id : ℕ
  type : Str
  aggregateType : Str
  aggregateId : Str
  payload : Json
  status : OutboxDeliveryStatus
  attempts : ℕ
  lastError : Option Str
  availableAt : ℕ
  sentAt : Option ℕ
  deriving DecidableEq

structure AppendOutboxEventInput where
  eventType : Str
  aggregateType : Option Str
  aggregateId : Option Str
  payload : Option Json
  headers : Option Json.Fields

structure RequeueDeadLetterOutboxEventInput where
  reason : Str
  availableInSeconds : Option ℤ
  resetAttempts : Option Bool

structure OutboxEventResponse where
  id : ℕ
  eventType : Str
  aggregateType : Str
  aggregateId : Str
  payload : Json
  headers : Option Json.Fields
  deliveryStatus : OutboxDeliveryStatus
  attempts : ℕ
  lastError : Option Str
  nextAvailableAt : ℕ
  sentAt : Option ℕ

def getOutboxDeliveryStatus (r : OutboxEventRecord) : OutboxDeliveryStatus :=
  if r.sentAt.isSome then .SENT else r.status

/-- A field of an object, as `?.` reads it. -/
def field (value : Json) (key : String) : Option Json := value.fields?.bind fun fs => fs.get? key

def toOutboxEventResponse (r : OutboxEventRecord) : OutboxEventResponse where
  id := r.id
  eventType := r.type
  aggregateType := r.aggregateType
  aggregateId := r.aggregateId
  payload := Json.coalesce (field r.payload "payload") (Json.coalesce (some r.payload) (.object []))
  headers := (field r.payload "headers").bind Json.fields?
  deliveryStatus := getOutboxDeliveryStatus r
  attempts := r.attempts
  lastError := r.lastError
  nextAvailableAt := r.availableAt
  sentAt := r.sentAt

def withHeaders (payload : Option Json) (headers : Option Json.Fields) : Json :=
  match headers with
  | none => Json.coalesce payload (.object [])
  | some h => .object [("payload",Json.coalesce payload (.object [])),("headers",.object h)]

def unknown : Str := ['u','n','k','n','o','w','n']

/-- The row that an append inserts. -/
def append (now id : ℕ) (input : AppendOutboxEventInput) : Except MessagingError OutboxEventRecord := do
  let eventType ← normalizeRequired input.eventType "eventType"
  return {
    id := id
    type := eventType
    aggregateType := (normalizeOptional input.aggregateType).getD unknown
    aggregateId := (normalizeOptional input.aggregateId).getD unknown
    payload := withHeaders (some (Json.coalesce input.payload (.object []))) input.headers
    status := .PENDING
    attempts := 0
    lastError := none
    availableAt := now
    sentAt := none }

def requeueHistory (headers : Json.Fields) : List Json :=
  match headers.get? "requeueHistory" with
  | some (.array items) => items
  | _ => []

/-- The last nine items. -/
def lastNine (items : List Json) : List Json := items.drop (items.length-9)

section Requeue
variable (toISOString : ℕ → String) (now : ℕ) (input : RequeueDeadLetterOutboxEventInput)
  (existing : OutboxEventRecord)

def requeuedAt : ℕ := now+(max 0 (input.availableInSeconds.getD 0)).toNat*1000

def requeueEntry : Json :=
  .object [("reason",.string (String.ofList (trim input.reason))),
    ("requeuedAt",.string (toISOString now)),
    ("previousAttempts",.number existing.attempts),
    ("availableAt",.string (toISOString (requeuedAt now input)))]

/-- The payload that a requeue keeps: the field of that name where there is one, even null. -/
def requeuedPayload : Json :=
  match existing.payload.fields? with
  | none => Json.coalesce (some existing.payload) (.object [])
  | some fs => (fs.get? "payload").getD existing.payload

def requeuedHeaders : Json.Fields :=
  let headers := ((field existing.payload "headers").bind Json.fields?).getD []
  headers.set "requeueHistory"
    (.array (lastNine (requeueHistory headers)++[requeueEntry toISOString now input existing]))

def requeueDeadLetter (found : Option OutboxEventRecord) : Except MessagingError OutboxEventRecord :=
  match found with
  | none => .error (.notFound "Outbox event was not found")
  | some existing =>
    if getOutboxDeliveryStatus existing≠.DEAD_LETTER then
      .error (.conflict "Only dead-letter outbox events can be requeued")
    else .ok {existing with
      status := .PENDING
      availableAt := requeuedAt now input
      sentAt := none
      lastError := none
      attempts := if input.resetAttempts=some false then existing.attempts else 0
      payload := withHeaders (some (requeuedPayload existing))
        (some (requeuedHeaders toISOString now input existing)) }

end Requeue

def unwrapOutboxPayload (value : Json) : Json :=
  match value.fields? with
  | none => Json.coalesce (some value) (.object [])
  | some fs => Json.coalesce (fs.get? "payload") value

/-- The payload in the request body of a delivery. -/
def requestPayload (r : OutboxEventRecord) : Json :=
  unwrapOutboxPayload (Json.coalesce (some r.payload) (.object []))

/-- An event as it is written first: appended, or inserted by another service as its payload. -/
inductive Written (r : OutboxEventRecord) : Option Json → Option Json.Fields → Prop
  | appended (now id input) (h : append now id input=.ok r) : Written r input.payload input.headers
  | inserted : Written r (some r.payload) none

/-- An event between its first row and a later one: requeued, the last time at the end of the
list, and in between claimed, sent or failed, which leaves the payload column alone. -/
inductive Life (toISOString : ℕ → String) (r₀ : OutboxEventRecord) :
    List Json → OutboxEventRecord → Prop
  | start : Life toISOString r₀ [] r₀
  | dispatched {es r r'} (h : Life toISOString r₀ es r) (hpayload : r'.payload=r.payload) :
      Life toISOString r₀ es r'
  | requeued {es r r'} (now input) (h : Life toISOString r₀ es r)
      (hr : requeueDeadLetter toISOString now input (some r)=.ok r') :
      Life toISOString r₀ (es++[requeueEntry toISOString now input r]) r'

/-- A payload that is not mistaken for an envelope. -/
def Plain (payload : Json) : Prop :=
  field payload "payload"=none ∧ (field payload "headers").bind Json.fields?=none

/-- The column holds the payload with the headers, or is null for an empty payload. -/
def Holds (r : OutboxEventRecord) (payload : Json) (headers : Option Json.Fields) : Prop :=
  r.payload=withHeaders (some payload) headers ∨
    r.payload=.null ∧ payload=.object [] ∧ headers=none

section Holds
variable {r : OutboxEventRecord} {payload : Json} {headers : Option Json.Fields}

theorem Holds.reads (h : Holds r payload headers) (hpayload : payload≠.null)
    (hplain : headers=none → Plain payload) :
    (toOutboxEventResponse r).payload=payload ∧ (toOutboxEventResponse r).headers=headers ∧
      requestPayload r=payload ∧ requeuedPayload r=payload := by
  rcases h with h|⟨h,rfl,rfl⟩
  · cases headers with
    | some hs =>
      have hcolumn : r.payload=.object [("payload",payload),("headers",.object hs)] := by
        rw [h,withHeaders,Json.coalesce_some hpayload]
      simp [toOutboxEventResponse,requestPayload,requeuedPayload,unwrapOutboxPayload,field,hcolumn,
        Json.fields?,Json.coalesce_some,hpayload]
    | none =>
      have hcolumn : r.payload=payload := by rw [h,withHeaders,Json.coalesce_some hpayload]
      obtain ⟨hp,hh⟩ := hplain rfl
      cases hfields : payload.fields? with
      | none =>
        simp [toOutboxEventResponse,requestPayload,requeuedPayload,unwrapOutboxPayload,field,hcolumn,
          hfields,Json.coalesce]
      | some fs =>
        have hp' : fs.get? "payload"=none := by simpa [field,hfields] using hp
        have hh' : (fs.get? "headers").bind Json.fields?=none := by simpa [field,hfields] using hh
        simp [toOutboxEventResponse,requestPayload,requeuedPayload,unwrapOutboxPayload,field,hcolumn,
          hfields,hp',hh',Json.coalesce]
  · simp [toOutboxEventResponse,requestPayload,requeuedPayload,unwrapOutboxPayload,field,h,
      Json.fields?,Json.coalesce,Json.Fields.get?]

theorem Written.holds {given : Option Json} (h : Written r given headers) :
    Holds r (Json.coalesce given (.object [])) headers := by
  cases h with
  | appended now id input h =>
    unfold append at h
    obtain ⟨eventType,_,hr⟩ := Transactions.Txn.bind_eq_ok h
    cases hr
    exact .inl rfl
  | inserted =>
    by_cases hnull : r.payload=.null
    · exact .inr ⟨hnull,by rw [hnull]; rfl,rfl⟩
    · left
      rw [withHeaders,Json.coalesce_some hnull,Json.coalesce_some hnull]

/-- The headers after requeues: the history grows by an entry and keeps its last nine. -/
def requeuedWith (headers : Option Json.Fields) (es : List Json) : Option Json.Fields :=
  es.foldl (fun hs e => some ((hs.getD []).set "requeueHistory"
    (.array (lastNine (requeueHistory (hs.getD []))++[e])))) headers

theorem requeuedWith_append (headers : Option Json.Fields) (es : List Json) (e : Json) :
    requeuedWith headers (es++[e])=some (((requeuedWith headers es).getD []).set "requeueHistory"
      (.array (lastNine (requeueHistory ((requeuedWith headers es).getD []))++[e]))) := by
  simp [requeuedWith]

theorem requeuedWith_none {es : List Json} (h : requeuedWith headers es=none) : headers=none := by
  cases es using List.reverseRecOn with
  | nil => exact h
  | append_singleton es e _ => rw [requeuedWith_append] at h; cases h

theorem get?_requeuedWith (headers : Option Json.Fields) (es : List Json) {key : String}
    (h : key≠"requeueHistory") :
    ((requeuedWith headers es).getD []).get? key=(headers.getD []).get? key := by
  induction es using List.reverseRecOn with
  | nil => rfl
  | append_singleton es e ih =>
    rw [requeuedWith_append,Option.getD_some,Json.Fields.get?_set_ne _ _ h]
    exact ih

theorem requeueDeadLetter_payload {toISOString : ℕ → String} {now : ℕ}
    {input : RequeueDeadLetterOutboxEventInput} {r' : OutboxEventRecord}
    (h : requeueDeadLetter toISOString now input (some r)=.ok r') :
    r'.payload=withHeaders (some (requeuedPayload r))
      (some (requeuedHeaders toISOString now input r)) := by
  simp only [requeueDeadLetter] at h
  split at h
  · cases h
  · rw [← Except.ok.inj h]

theorem Life.holds {toISOString : ℕ → String} {r₀ : OutboxEventRecord} {es : List Json}
    (h : Life toISOString r₀ es r) (hpayload : payload≠.null) (hplain : headers=none → Plain payload)
    (h₀ : Holds r₀ payload headers) : Holds r payload (requeuedWith headers es) := by
  induction h with
  | start => exact h₀
  | dispatched h hsame ih =>
    unfold Holds at ih ⊢
    rw [hsame]
    exact ih
  | @requeued es r r' now input h hr ih =>
    obtain ⟨_,hheaders,_,hkept⟩ := ih.reads hpayload fun hnone => hplain (requeuedWith_none hnone)
    left
    have hheaders' : (field r.payload "headers").bind Json.fields?=requeuedWith headers es := hheaders
    rw [requeueDeadLetter_payload hr,requeuedWith_append,hkept]
    simp only [requeuedHeaders,hheaders']

end Holds

/-- An event is read with the payload that it was given, or an empty one where it was given none
or null, before and after any requeues, and that payload is sent. Its headers are those given;
requeues rewrite their history alone. Without headers the payload must not look like an
envelope. -/
theorem envelope_round_trip (toISOString : ℕ → String) {r₀ r : OutboxEventRecord} {es : List Json}
    {given : Option Json} {headers : Option Json.Fields} (hwritten : Written r₀ given headers)
    (hplain : headers=none → Plain (Json.coalesce given (.object [])))
    (hlife : Life toISOString r₀ es r) :
    (toOutboxEventResponse r).payload=Json.coalesce given (.object []) ∧
    requestPayload r=Json.coalesce given (.object []) ∧
    (toOutboxEventResponse r).headers=requeuedWith headers es ∧
    ∀ key, key≠"requeueHistory" →
      ((toOutboxEventResponse r).headers.getD []).get? key=(headers.getD []).get? key := by
  have hpayload : Json.coalesce given (.object [])≠.null := Json.coalesce_ne_null _ (by simp)
  have hholds := hlife.holds hpayload hplain hwritten.holds
  obtain ⟨hresponse,hheaders,hrequest,_⟩ := hholds.reads hpayload fun hnone =>
    hplain (requeuedWith_none hnone)
  refine ⟨hresponse,hrequest,hheaders,fun key hkey => ?_⟩
  rw [hheaders]
  exact get?_requeuedWith headers es hkey

def demoAppend (payload : Option Json) (headers : Option Json.Fields) : AppendOutboxEventInput :=
  ⟨['T'],none,none,payload,headers⟩

def demoRow (payload : Json) (status : OutboxDeliveryStatus) : OutboxEventRecord :=
  ⟨1,['T'],unknown,unknown,payload,status,0,none,0,none⟩

def demoDates (_ : ℕ) : String := "2026-01-01"

def demoRequeue : RequeueDeadLetterOutboxEventInput := ⟨['r','e','t','r','y'],none,none⟩

/-- A payload with a trace header. -/
def demoEnvelope : Json :=
  .object [("payload",.number 7),("headers",.object [("trace",.string "a")])]

/-- The row once it is dead, and the history entry of its requeue. -/
def demoDead (payload : Json) : OutboxEventRecord := demoRow payload .DEAD_LETTER

theorem demoLife (payload : Json) : ∃ r, Life demoDates (demoRow payload .PENDING)
    [requeueEntry demoDates 5 demoRequeue (demoDead payload)] r ∧
    requeueDeadLetter demoDates 5 demoRequeue (some (demoDead payload))=.ok r := by
  have hdead : Life demoDates (demoRow payload .PENDING) [] (demoDead payload) :=
    .dispatched .start rfl
  have hrequeue : ∃ r, requeueDeadLetter demoDates 5 demoRequeue (some (demoDead payload))=.ok r :=
    ⟨_,rfl⟩
  obtain ⟨r,hr⟩ := hrequeue
  exact ⟨r,.requeued 5 demoRequeue hdead hr,hr⟩

theorem envelope_round_trip_demo : ∃ es r, Life demoDates (demoRow demoEnvelope .PENDING) es r ∧
    es.length=1 ∧ (toOutboxEventResponse r).payload=.number 7 ∧ requestPayload r=.number 7 ∧
    ((toOutboxEventResponse r).headers.getD []).get? "trace"=some (.string "a") := by
  have hwritten : Written (demoRow demoEnvelope .PENDING)
      (demoAppend (some (.number 7)) (some [("trace",.string "a")])).payload
      (demoAppend (some (.number 7)) (some [("trace",.string "a")])).headers :=
    .appended 0 1 _ rfl
  obtain ⟨r,hlife,_⟩ := demoLife demoEnvelope
  obtain ⟨hresponse,hrequest,_,hkept⟩ :=
    envelope_round_trip demoDates hwritten (by simp [demoAppend]) hlife
  exact ⟨_,r,hlife,rfl,hresponse,hrequest,hkept "trace" (by decide)⟩

/-- A null payload is read back empty, a requeue adds a header, and a payload with a field
`payload` is read back as that field. -/
theorem envelope_changes :
    (∃ r, Written r (some .null) none ∧ (toOutboxEventResponse r).payload≠.null) ∧
    (∃ r₀ es r, Written r₀ (some (.number 7)) (some [("trace",.string "a")]) ∧
      Life demoDates r₀ es r ∧
      (toOutboxEventResponse r).headers≠some [("trace",.string "a")]) ∧
    ∃ r, Written r (some (.object [("payload",.number 7)])) none ∧
      (toOutboxEventResponse r).payload≠.object [("payload",.number 7)] := by
  have hnull : Written (demoRow (.object []) .PENDING) (some .null) none :=
    .appended 0 1 (demoAppend (some .null) none) rfl
  have htrace : Written (demoRow demoEnvelope .PENDING) (some (.number 7))
      (some [("trace",.string "a")]) :=
    .appended 0 1 (demoAppend (some (.number 7)) (some [("trace",.string "a")])) rfl
  obtain ⟨r,hlife,hr⟩ := demoLife demoEnvelope
  have hheaders : (toOutboxEventResponse r).headers≠some [("trace",.string "a")] := by
    rw [← Except.ok.inj hr]
    decide
  exact ⟨⟨_,hnull,by decide⟩,⟨_,_,r,htrace,hlife,hheaders⟩,
    ⟨demoRow (.object [("payload",.number 7)]) .PENDING,.inserted,by decide⟩⟩

end AardvarkWms.Messaging
