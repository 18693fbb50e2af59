import AardvarkWms.DocumentNumbers
import AardvarkWms.IntegrationDispatch

/-! Dead letters of the integrations and their replay, statement by statement beside the
dispatchers: `src/integrations/integration-enterprise.service.ts`. -/
namespace AardvarkWms.DeadLetterReplay

open Messaging
open IntegrationDispatch (DeadLetterInput IntegrationEndpoint)

inductive IntegrationDeadLetterStatus
  | OPEN | REPLAYED | RESOLVED | IGNORED
  deriving DecidableEq

structure IntegrationDeadLetter where
  id : ℕ
  endpointId : Option ℕ
  outboxEventId : Option ℕ
  inboxEventId : Option ℕ
  eventType : Str
  resourceType : Option Str
  resourceId : Option Str
  status : IntegrationDeadLetterStatus
  errorMessage : Str
  attempts : ℕ
  payload : Json
  fingerprint : Str
  deriving DecidableEq

/-- The language, the hash, and the text of an id. -/
structure Env where
  runtime : OrderUpdates.Runtime
  sha256 : Str → Str
  uuidText : ℕ → Str
  uuidText_inj : Function.Injective uuidText
  uuidText_bar : ∀ id, '|'∉uuidText id
  uuidText_named : ∀ id, uuidText id≠"no-outbox".toList

namespace Env
variable (env : Env)

def normalizeResourceType (value : Str) : Str :=
  Billing.replaceRuns (fun c => !isWhiteSpace c) '_' false (env.runtime.toUpperCase (trim value))

/-- What a fingerprint is the hash of. -/
def fingerprintText (endpointId outboxEventId inboxEventId : Option ℕ) (eventType errorMessage : Str) :
    Str :=
  Separators.join '|' [endpointId.elim "no-endpoint".toList env.uuidText,
    outboxEventId.elim "no-outbox".toList env.uuidText,
    inboxEventId.elim "no-inbox".toList env.uuidText,eventType,errorMessage.take 500]

def inputText (input : DeadLetterInput) : Str :=
  env.fingerprintText input.endpointId input.outboxEventId input.inboxEventId
    (env.normalizeResourceType input.eventType) input.errorMessage

def letterText (letter : IntegrationDeadLetter) : Str :=
  env.fingerprintText letter.endpointId letter.outboxEventId letter.inboxEventId letter.eventType
    letter.errorMessage

def deadLetterFingerprint (input : DeadLetterInput) : Str := env.sha256 (env.inputText input)

end Env

/-- A replay between its statements: what it read, and then the event it reset. -/
inductive Replay
  | read (existing : IntegrationDeadLetter)
  | reset (existing : IntegrationDeadLetter) (outboxEventId : ℕ)

structure System where
  outbox : Outbox
  deadLetters : Table IntegrationDeadLetter.id
  replays : ℕ → Option Replay

def System.empty (now : ℕ) : System := ⟨.empty now,.empty,fun _ => none⟩

/-- What can happen next: in the outbox, in a dispatcher's delivery that fails, elsewhere to an
event without an outbox row, and in the statements of a call. -/
inductive Event
  | outbox (h : Happening)
  | recordFailure (id dispatcher : ℕ) (endpoint : IntegrationEndpoint) (message : Str)
  | recordOther (id : ℕ) (input : DeadLetterInput)
  | resolveDeadLetter (reference : Str) (status : IntegrationDeadLetterStatus)
  | readDeadLetter (call : ℕ) (reference : Str)
  | resetOutbox (call newId : ℕ)
  | markReplayed (call : ℕ)
  | stopped (call : ℕ)

/-- The event that a replay makes where the dead letter has none. -/
def wrapper (env : Env) (existing : IntegrationDeadLetter) : Json :=
  .object [("replayedDeadLetterId",.string (String.ofList (env.uuidText existing.id))),
    ("originalPayload",existing.payload)]

def resetRow (now : ℕ) (r : OutboxEventRecord) : OutboxEventRecord :=
  {r with status := .PENDING, attempts := 0, lastError := none, availableAt := now}

theorem resetRow_id (now : ℕ) (r : OutboxEventRecord) : (resetRow now r).id=r.id := rfl

def replayRow (env : Env) (now id : ℕ) (existing : IntegrationDeadLetter) : OutboxEventRecord where
  id := id
  type := existing.eventType
  aggregateType := existing.resourceType.getD "integration_dead_letter".toList
  aggregateId := existing.resourceId.getD (env.uuidText existing.id)
  payload := wrapper env existing
  status := .PENDING
  attempts := 0
  lastError := none
  availableAt := now
  sentAt := none

/-- `ON CONFLICT (fingerprint) DO UPDATE` -/
def again (input : DeadLetterInput) (letter : IntegrationDeadLetter) : IntegrationDeadLetter :=
  {letter with
    attempts := letter.attempts+1
    errorMessage := input.errorMessage.take 4000
    status := .OPEN
    payload := input.payload}

theorem again_id (input : DeadLetterInput) (letter : IntegrationDeadLetter) :
    (again input letter).id=letter.id := rfl

def setStatus (status : IntegrationDeadLetterStatus) (letter : IntegrationDeadLetter) :
    IntegrationDeadLetter :=
  {letter with status}

theorem setStatus_id (status : IntegrationDeadLetterStatus) (letter : IntegrationDeadLetter) :
    (setStatus status letter).id=letter.id := rfl

namespace System
variable (env : Env) (s : System)

def newLetter (id : ℕ) (input : DeadLetterInput) : IntegrationDeadLetter where
  id := id
  endpointId := input.endpointId
  outboxEventId := input.outboxEventId
  inboxEventId := input.inboxEventId
  eventType := env.normalizeResourceType input.eventType
  resourceType := input.resourceType.map env.normalizeResourceType
  resourceId := input.resourceId
  status := .OPEN
  errorMessage := input.errorMessage.take 4000
  attempts := max 1 input.attempts
  payload := input.payload
  fingerprint := env.deadLetterFingerprint input

def recordDeadLetter (id : ℕ) (input : DeadLetterInput) : Option System :=
  match s.deadLetters.rows.find? (·.fingerprint=env.deadLetterFingerprint input) with
  | some letter => some {s with
      deadLetters := s.deadLetters.modify letter.id (again input) (again_id input)}
  | none =>
    if s.deadLetters.get? id=none then
      some {s with deadLetters := s.deadLetters.insert (newLetter env id input)}
    else none

def findDeadLetter (reference : Str) : Option IntegrationDeadLetter :=
  s.deadLetters.rows.find? fun letter =>
    env.uuidText letter.id=reference || letter.fingerprint=reference

def put (call : ℕ) (replay : Option Replay) : System :=
  {s with replays := Function.update s.replays call replay}

/-- The input of a dispatcher whose delivery of its current event fails. -/
def failure (dispatcher : ℕ) (endpoint : IntegrationEndpoint) (message : Str) :
    Option DeadLetterInput :=
  (s.outbox.current dispatcher).map fun x => IntegrationDispatch.deadLetter x.2 endpoint message

def step (env : Env) (s : System) : Event → Option System
  | .outbox h => (s.outbox.step h).map fun o => {s with outbox := o}
  | .recordFailure id dispatcher endpoint message =>
    (s.failure dispatcher endpoint message).bind (s.recordDeadLetter env id)
  | .recordOther id input =>
    if input.outboxEventId=none then s.recordDeadLetter env id input else none
  | .resolveDeadLetter reference status =>
    (s.findDeadLetter env reference).map fun existing =>
      {s with deadLetters := s.deadLetters.modify existing.id (setStatus status) (setStatus_id status)}
  | .readDeadLetter call reference =>
    match s.replays call, s.findDeadLetter env reference with
    | none, some existing =>
      if existing.status=.RESOLVED then none else some (s.put call (some (.read existing)))
    | _, _ => none
  | .resetOutbox call newId =>
    match s.replays call with
    | some (.read existing) =>
      match existing.outboxEventId with
      | some outboxEventId =>
        some {s.put call (some (.reset existing outboxEventId)) with
          outbox := {s.outbox with
            rows := s.outbox.rows.modify outboxEventId (resetRow s.outbox.now)
              (resetRow_id s.outbox.now)}}
      | none =>
        if s.outbox.rows.get? newId=none then
          some {s.put call (some (.reset existing newId)) with
            outbox := {s.outbox with
              rows := s.outbox.rows.insert (replayRow env s.outbox.now newId existing)}}
        else none
    | _ => none
  | .markReplayed call =>
    match s.replays call with
    | some (.reset existing _) => some {s.put call none with
        deadLetters := s.deadLetters.modify existing.id (setStatus .REPLAYED)
          (setStatus_id .REPLAYED)}
    | _ => none
  | .stopped call => some (s.put call none)

/-- What cannot happen leaves the system as it is. -/
def act (env : Env) (s : System) (e : Event) : System := (s.step env e).getD s

end System

section Fingerprints
variable {env : Env} {letter : IntegrationDeadLetter} {input : DeadLetterInput}

theorem elim_bar (id : Option ℕ) (name : Str) (hname : '|'∉name) : '|'∉id.elim name env.uuidText := by
  cases id with
  | none => exact hname
  | some id => exact env.uuidText_bar id

theorem outboxEventId_eq (h : env.letterText letter=env.inputText input) :
    letter.outboxEventId=input.outboxEventId := by
  unfold Env.letterText Env.inputText Env.fingerprintText at h
  simp only [Separators.join_cons] at h
  have hrest := (Separators.split_first (elim_bar letter.endpointId _ (by decide))
    (elim_bar input.endpointId _ (by decide)) h).2
  have hoi := (Separators.split_first (elim_bar letter.outboxEventId _ (by decide))
    (elim_bar input.outboxEventId _ (by decide)) hrest).1
  cases hl : letter.outboxEventId with
  | none =>
    cases hi : input.outboxEventId with
    | none => rfl
    | some id =>
      rw [hl,hi] at hoi
      exact absurd hoi.symm (env.uuidText_named id)
  | some id =>
    cases hi : input.outboxEventId with
    | none =>
      rw [hl,hi] at hoi
      exact absurd hoi (env.uuidText_named id)
    | some id' =>
      rw [hl,hi] at hoi
      exact congrArg some (env.uuidText_inj hoi)

end Fingerprints

section Rows
variable {t t' : OutboxTable}

/-- No row is lost, and each keeps its payload. -/
def KeepsPayloads (t t' : OutboxTable) : Prop :=
  ∀ id r, t.get? id=some r → ∃ r', t'.get? id=some r' ∧ r'.payload=r.payload

theorem KeepsPayloads.refl (t : OutboxTable) : KeepsPayloads t t := fun _ r h => ⟨r,h,rfl⟩

theorem keepsPayloads_modify (id : ℕ) (f : OutboxEventRecord → OutboxEventRecord)
    (hf : ∀ r, (f r).id=r.id) (hpayload : ∀ r, (f r).payload=r.payload) :
    KeepsPayloads t (t.modify id f hf) := by
  intro id' r hr
  rw [Table.get?_modify,hr]
  by_cases hid : id'=id
  · exact ⟨f r,by simp [hid],hpayload r⟩
  · exact ⟨r,by simp [hid],rfl⟩

theorem keepsPayloads_insert {r : OutboxEventRecord} (hnew : t.get? r.id=none) :
    KeepsPayloads t (t.insert r) := by
  intro id r' hr
  have hne : id≠r.id := by
    intro he
    rw [he,hnew] at hr
    cases hr
  exact ⟨r',(Table.get?_insert_ne t hne).trans hr,rfl⟩

theorem keepsPayloads_step {o o' : Outbox} {h : Happening} (hs : o.step h=some o') :
    KeepsPayloads o.rows o'.rows := by
  cases Outbox.stepped hs with
  | tick n => exact KeepsPayloads.refl _
  | append id input r hnew hr =>
    apply keepsPayloads_insert
    rw [(Messaging.append_row hr).1]
    exact hnew
  | claim w input skipped hidle =>
    intro id r hr
    have hget := Table.get?_modifyWhere o.rows
      (fun r => decide (r.id∈(o.claims input skipped).map OutboxEventRecord.id)) (lease o.now)
      (fun _ => rfl) id
    rw [hr,Option.map_some] at hget
    refine ⟨_,hget,?_⟩
    split <;> rfl
  | delivered w d e hcurrent htype =>
    exact keepsPayloads_modify e.id (markedSent o.now) (fun _ => rfl) fun _ => rfl
  | failed w error d e hcurrent =>
    exact keepsPayloads_modify e.id (markedFailed (getNextRetryDecision e.attempts d.maxAttempts
      d.retryDelaySeconds o.now) o.now error) (fun _ => rfl) fun _ => rfl
  | stopped w => exact KeepsPayloads.refl _

/-- The row of this id has this payload. -/
def Carries (t : OutboxTable) (id : ℕ) (payload : Json) : Prop :=
  ∃ r, t.get? id=some r ∧ r.payload=payload

theorem Carries.keeps {id : ℕ} {payload : Json} (h : Carries t id payload)
    (hkeeps : KeepsPayloads t t') : Carries t' id payload := by
  obtain ⟨r,hr,hpayload⟩ := h
  obtain ⟨r',hr',hsame⟩ := hkeeps id r hr
  exact ⟨r',hr',hsame.trans hpayload⟩

/-- What the dispatchers have claimed is in the table. -/
def Claimed (o : Outbox) : Prop :=
  ∀ w d, o.dispatchers w=some d → ∀ e∈d.queue, Carries o.rows e.id e.payload

theorem current_mem {o : Outbox} {w : ℕ} {d : Dispatcher} {e : OutboxEventRecord}
    (h : o.current w=some (d,e)) : o.dispatchers w=some d ∧ e∈d.queue := by
  unfold Outbox.current at h
  obtain ⟨d',hd,he⟩ := Option.bind_eq_some_iff.mp h
  obtain ⟨e',he',hpair⟩ := Option.map_eq_some_iff.mp he
  cases hpair
  exact ⟨hd,List.mem_of_mem_head? he'⟩

theorem Claimed.put {o : Outbox} {rows : OutboxTable} {w : ℕ} {queue : Option Dispatcher}
    {history : List Messaging.Attempt} {now : ℕ}
    (h : Claimed o) (hkeeps : KeepsPayloads o.rows rows)
    (hqueue : ∀ d, queue=some d → ∀ e∈d.queue, Carries rows e.id e.payload) :
    Claimed ⟨now,rows,Function.update o.dispatchers w queue,history⟩ := by
  intro w' d hd e he
  by_cases hw : w'=w
  · subst hw
    simp only [Function.update_self] at hd
    exact hqueue d hd e he
  · simp only [Function.update_of_ne hw] at hd
    exact (h w' d hd e he).keeps hkeeps

theorem Claimed.step {o o' : Outbox} {h : Happening} (hclaimed : Claimed o)
    (hs : o.step h=some o') : Claimed o' := by
  have hkeeps := keepsPayloads_step hs
  have hsame : ∀ w d, o.dispatchers w=some d → ∀ e∈d.queue, Carries o'.rows e.id e.payload :=
    fun w d hd e he => (hclaimed w d hd e he).keeps hkeeps
  cases Outbox.stepped hs with
  | tick n => exact hsame
  | append id input r hnew hr => exact hsame
  | claim w input skipped hidle =>
    refine hclaimed.put hkeeps fun d hd e he => ?_
    cases hd
    obtain ⟨r,hr,rfl⟩ := List.mem_map.mp he
    have hrow : r∈o.rows.rows := List.mem_of_mem_filter (List.mem_of_mem_take hr)
    have hcarries : Carries o.rows r.id r.payload := ⟨r,Table.get?_eq_some.mpr ⟨hrow,rfl⟩,rfl⟩
    exact hcarries.keeps hkeeps
  | delivered w d e hcurrent htype =>
    refine hclaimed.put hkeeps fun d' hd e' he => ?_
    cases hd
    exact hsame w d (current_mem hcurrent).1 e' (List.mem_of_mem_tail he)
  | failed w error d e hcurrent =>
    refine hclaimed.put hkeeps fun d' hd e' he => ?_
    cases hd
    exact hsame w d (current_mem hcurrent).1 e' (List.mem_of_mem_tail he)
  | stopped w => exact hclaimed.put hkeeps fun d hd => by cases hd

end Rows

section Letters
variable {env : Env} {s s' : System}

def System.recorded (s : System) : Event → Option DeadLetterInput
  | .recordFailure _ dispatcher endpoint message => s.failure dispatcher endpoint message
  | .recordOther _ input => some input
  | _ => none

/-- The hash of what is recorded does not meet that of another text. -/
def NoCollision (env : Env) (s : System) (e : Event) : Prop :=
  ∀ input∈s.recorded e, ∀ letter∈s.deadLetters.rows,
    letter.fingerprint=env.deadLetterFingerprint input → env.letterText letter=env.inputText input

/-- The event of a dead letter, where it has one, still carries what was not delivered. -/
def IsCarried (t : OutboxTable) (letter : IntegrationDeadLetter) : Prop :=
  ∀ id, letter.outboxEventId=some id → Carries t id letter.payload

structure Faithful (s : System) : Prop where
  claimed : Claimed s.outbox
  letters : ∀ letter∈s.deadLetters.rows, IsCarried s.outbox.rows letter
  reads : ∀ call letter, s.replays call=some (.read letter) → IsCarried s.outbox.rows letter

theorem IsCarried.keeps {t t' : OutboxTable} {letter : IntegrationDeadLetter}
    (h : IsCarried t letter) (hkeeps : KeepsPayloads t t') : IsCarried t' letter :=
  fun id hid => (h id hid).keeps hkeeps

theorem faithful_empty (now : ℕ) : Faithful (.empty now) := by
  refine ⟨fun w d hd => ?_,fun letter hl => absurd hl List.not_mem_nil,fun call letter hc => ?_⟩
  · cases hd
  · cases hc

theorem mem_modify {t : Table IntegrationDeadLetter.id} {id : ℕ}
    (f : IntegrationDeadLetter → IntegrationDeadLetter) (hf : ∀ l, (f l).id=l.id)
    {letter : IntegrationDeadLetter} (h : letter∈(t.modify id f hf).rows) :
    letter∈t.rows ∨ ∃ l∈t.rows, l.id=id ∧ letter=f l := by
  rw [Table.rows_modify] at h
  obtain ⟨l,hl,rfl⟩ := List.mem_map.mp h
  by_cases hid : l.id=id
  · exact .inr ⟨l,hl,hid,if_pos hid⟩
  · left
    rw [if_neg hid]
    exact hl

theorem Faithful.setStatus (h : Faithful s) (id : ℕ) (status : IntegrationDeadLetterStatus) :
    ∀ letter∈(s.deadLetters.modify id (DeadLetterReplay.setStatus status)
        (setStatus_id status)).rows,
      IsCarried s.outbox.rows letter := by
  intro letter hl
  rcases mem_modify (DeadLetterReplay.setStatus status) (setStatus_id status) hl with
    hold|⟨l,hl',_,rfl⟩
  · exact h.letters letter hold
  · exact h.letters l hl'

theorem Faithful.record (h : Faithful s) {id : ℕ} {input : DeadLetterInput}
    (hinput : ∀ id, input.outboxEventId=some id → Carries s.outbox.rows id input.payload)
    (hdistinct : ∀ letter∈s.deadLetters.rows,
      letter.fingerprint=env.deadLetterFingerprint input → env.letterText letter=env.inputText input)
    (hs : s.recordDeadLetter env id input=some s') : Faithful s' := by
  unfold System.recordDeadLetter at hs
  split at hs
  · next known hfind =>
    cases hs
    have hknown := List.mem_of_find?_eq_some hfind
    have hmatch := List.find?_some hfind
    have hsame := outboxEventId_eq (hdistinct known hknown (of_decide_eq_true hmatch))
    refine ⟨h.claimed,fun letter hl => ?_,h.reads⟩
    rcases mem_modify (again input) (again_id input) hl with hold|⟨l,hl',hid,rfl⟩
    · exact h.letters letter hold
    · have hl : l=known := Table.inj_of_nodup s.deadLetters.nodup hl' hknown hid
      intro id hid'
      rw [hl] at hid'
      exact hinput id (hsame.symm.trans hid')
  · split at hs
    · next hnew =>
      cases hs
      refine ⟨h.claimed,fun letter hl => ?_,h.reads⟩
      have hnone : s.deadLetters.get? (System.newLetter env id input).id=none := hnew
      rw [Table.rows_insert hnone] at hl
      rcases List.mem_append.mp hl with hold|hlast
      · exact h.letters letter hold
      · rw [List.mem_singleton.mp hlast]
        exact hinput
    · cases hs

theorem reads_put {call : ℕ} {replay : Option Replay} {rows : OutboxTable}
    (h : ∀ c letter, s.replays c=some (.read letter) → IsCarried rows letter)
    (hreplay : ∀ letter, replay=some (.read letter) → IsCarried rows letter) (c : ℕ)
    (letter : IntegrationDeadLetter) (hc : (s.put call replay).replays c=some (.read letter)) :
    IsCarried rows letter := by
  by_cases hcall : c=call
  · subst hcall
    exact hreplay letter (by simpa [System.put] using hc)
  · exact h c letter (by simpa [System.put,hcall] using hc)

end Letters

section Runs
variable {env : Env} {s s' : System}

theorem reset_cases {call newId : ℕ} (hs : s.step env (.resetOutbox call newId)=some s') :
    ∃ existing, s.replays call=some (.read existing) ∧
      ((∃ id, existing.outboxEventId=some id ∧
          s'={s.put call (some (.reset existing id)) with
            outbox := {s.outbox with
              rows := s.outbox.rows.modify id (resetRow s.outbox.now) (resetRow_id s.outbox.now)}}) ∨
        (existing.outboxEventId=none ∧ s.outbox.rows.get? newId=none ∧
          s'={s.put call (some (.reset existing newId)) with
            outbox := {s.outbox with
              rows := s.outbox.rows.insert (replayRow env s.outbox.now newId existing)}})) := by
  simp only [System.step] at hs
  split at hs
  · next existing hread =>
    refine ⟨existing,hread,?_⟩
    cases hid : existing.outboxEventId with
    | some id =>
      simp only [hid] at hs
      cases hs
      exact .inl ⟨id,rfl,rfl⟩
    | none =>
      simp only [hid] at hs
      split at hs
      · next hnew =>
        cases hs
        exact .inr ⟨rfl,hnew,rfl⟩
      · cases hs
  · cases hs

theorem keepsPayloads_reset {call newId : ℕ} (hs : s.step env (.resetOutbox call newId)=some s') :
    KeepsPayloads s.outbox.rows s'.outbox.rows := by
  obtain ⟨existing,_,⟨id,_,rfl⟩|⟨_,hnew,rfl⟩⟩ := reset_cases hs
  · exact keepsPayloads_modify id (resetRow s.outbox.now) (resetRow_id s.outbox.now) fun _ => rfl
  · exact keepsPayloads_insert hnew

theorem Faithful.step (h : Faithful s) {e : Event} (hdistinct : NoCollision env s e)
    (hs : s.step env e=some s') : Faithful s' := by
  cases e with
  | outbox happening =>
    simp only [System.step] at hs
    obtain ⟨o,ho,rfl⟩ := Option.map_eq_some_iff.mp hs
    have hkeeps := keepsPayloads_step ho
    exact ⟨h.claimed.step ho,fun letter hl => (h.letters letter hl).keeps hkeeps,
      fun call letter hc => (h.reads call letter hc).keeps hkeeps⟩
  | recordFailure id dispatcher endpoint message =>
    simp only [System.step] at hs
    obtain ⟨input,hinput,hrecord⟩ := Option.bind_eq_some_iff.mp hs
    refine h.record ?_ (hdistinct input hinput) hrecord
    obtain ⟨x,hx,rfl⟩ := Option.map_eq_some_iff.mp hinput
    obtain ⟨d,event⟩ := x
    obtain ⟨hd,he⟩ := current_mem hx
    intro id hid
    cases hid
    exact h.claimed dispatcher d hd event he
  | recordOther id input =>
    simp only [System.step] at hs
    split at hs
    · next hnone =>
      refine h.record (fun id hid => ?_) (hdistinct input rfl) hs
      rw [hnone] at hid
      cases hid
    · cases hs
  | resolveDeadLetter reference status =>
    simp only [System.step] at hs
    obtain ⟨existing,_,rfl⟩ := Option.map_eq_some_iff.mp hs
    exact ⟨h.claimed,h.setStatus existing.id status,h.reads⟩
  | readDeadLetter call reference =>
    simp only [System.step] at hs
    split at hs
    · next existing hfree hfind =>
      split at hs
      · cases hs
      · cases hs
        refine ⟨h.claimed,h.letters,reads_put h.reads fun letter hread => ?_⟩
        cases hread
        exact h.letters _ (List.mem_of_find?_eq_some hfind)
    · cases hs
  | resetOutbox call newId =>
    have hkeeps := keepsPayloads_reset hs
    have hclaimed : ∀ w d, s.outbox.dispatchers w=some d →
        ∀ e∈d.queue, Carries s'.outbox.rows e.id e.payload :=
      fun w d hd e he => (h.claimed w d hd e he).keeps hkeeps
    have hreads : ∀ c letter, s.replays c=some (.read letter) → IsCarried s'.outbox.rows letter :=
      fun c letter hc => (h.reads c letter hc).keeps hkeeps
    have hletters : ∀ letter∈s.deadLetters.rows, IsCarried s'.outbox.rows letter :=
      fun letter hl => (h.letters letter hl).keeps hkeeps
    obtain ⟨existing,_,⟨id,_,rfl⟩|⟨_,_,rfl⟩⟩ := reset_cases hs
    · exact ⟨hclaimed,hletters,reads_put hreads fun letter hread => by cases hread⟩
    · exact ⟨hclaimed,hletters,reads_put hreads fun letter hread => by cases hread⟩
  | markReplayed call =>
    simp only [System.step] at hs
    split at hs
    · next existing id hread =>
      cases hs
      exact ⟨h.claimed,h.setStatus existing.id .REPLAYED,
        reads_put h.reads fun letter hread => by cases hread⟩
    · cases hs
  | stopped call =>
    cases hs
    exact ⟨h.claimed,h.letters,reads_put h.reads fun letter hread => by cases hread⟩

theorem faithful_run {now : ℕ} {es : List Event}
    (h : Histories.Throughout (System.act env) (NoCollision env) (.empty now) es) :
    Faithful (Histories.run (System.act env) (.empty now) es) := by
  apply h.inv (faithful_empty now)
  intro s e hs hdistinct
  unfold System.act
  cases hstep : s.step env e with
  | none => exact hs
  | some s' => exact hs.step hdistinct hstep

/-- A dispatcher has claimed the event and not yet recorded what became of it. -/
def Held (o : Outbox) (id : ℕ) : Prop := ∃ w d, o.dispatchers w=some d ∧ ∃ e∈d.queue, e.id=id

/-- SENT, or in PROCESSING by a dispatcher. -/
def Busy (o : Outbox) (r : OutboxEventRecord) : Prop :=
  r.status=.SENT ∨ r.status=.PROCESSING ∧ Held o r.id

/-- A step puts no busy event back to PENDING. -/
def Safe (s s' : System) : Prop :=
  ∀ id r, s.outbox.rows.get? id=some r → Busy s.outbox r →
    ∀ r', s'.outbox.rows.get? id=some r' → r'.status≠.PENDING

/-- The payload in the request whose failure the dead letter records. -/
def failedPayload (letter : IntegrationDeadLetter) : Json :=
  unwrapOutboxPayload (Json.coalesce (some letter.payload) (.object []))

/-- The event that the replay names is up for a claim and is sent with the dead letter's payload. -/
def CausesDelivery (existing : IntegrationDeadLetter) (call : ℕ) (s' : System) : Prop :=
  ∃ id, s'.replays call=some (.reset existing id) ∧
    ∃ r, s'.outbox.rows.get? id=some r ∧ claimable s'.outbox.now none r=true ∧
      requestPayload r=failedPayload existing

theorem safe_reset_iff {id : ℕ} {r : OutboxEventRecord} (hr : s.outbox.rows.get? id=some r)
    (call : ℕ) (replay : Option Replay) :
    Safe s {s.put call replay with
      outbox := {s.outbox with
        rows := s.outbox.rows.modify id (resetRow s.outbox.now) (resetRow_id s.outbox.now)}} ↔
      ¬Busy s.outbox r := by
  constructor
  · intro hsafe hbusy
    apply hsafe id r hr hbusy (resetRow s.outbox.now r)
    · rw [Table.get?_modify_self,hr]
      rfl
    · rfl
  · intro hfree id' r₀ hr₀ hbusy r' hr'
    by_cases hid : id'=id
    · subst hid
      rw [hr₀] at hr
      cases hr
      exact absurd hbusy hfree
    · simp only [Table.get?_modify_ne _ _ _ hid] at hr'
      rw [hr₀] at hr'
      cases hr'
      rcases hbusy with hsent|⟨hprocessing,_⟩
      · rw [hsent]
        decide
      · rw [hprocessing]
        decide

theorem sizeOf_get? {fs : Json.Fields} {key : String} {v : Json} (h : fs.get? key=some v) :
    sizeOf v < sizeOf fs := by
  induction fs with
  | nil => cases h
  | cons f fs ih =>
    rw [Json.Fields.get?_cons] at h
    split at h
    · cases h
      obtain ⟨k,v⟩ := f
      simp
      omega
    · have hrest := ih h
      simp
      omega

theorem sizeOf_unwrap (value : Json) :
    unwrapOutboxPayload value=.object [] ∨ sizeOf (unwrapOutboxPayload value) ≤ sizeOf value := by
  unfold unwrapOutboxPayload
  cases value with
  | object fs =>
    right
    simp only [Json.fields?]
    cases hfield : Json.Fields.get? fs "payload" with
    | none => simp [Json.coalesce]
    | some v =>
      cases v with
      | null => simp [Json.coalesce]
      | _ =>
        have hlt := sizeOf_get? hfield
        simp only [Json.coalesce]
        simp at hlt ⊢
        omega
  | null => exact .inl rfl
  | _ => exact .inr (le_refl _)

theorem wrapper_unfaithful (now id : ℕ) (existing : IntegrationDeadLetter) :
    requestPayload (replayRow env now id existing)≠failedPayload existing := by
  have hwrapper : requestPayload (replayRow env now id existing)=wrapper env existing := by
    simp [requestPayload,replayRow,wrapper,unwrapOutboxPayload,Json.coalesce,Json.fields?,
      Json.Fields.get?]
  have hlarge : sizeOf existing.payload < sizeOf (wrapper env existing) := by
    simp [wrapper]
    omega
  rw [hwrapper]
  intro hsame
  unfold failedPayload at hsame
  rcases sizeOf_unwrap (Json.coalesce (some existing.payload) (.object [])) with hempty|hsmall
  · rw [hempty] at hsame
    cases hsame
  · rw [← hsame] at hsmall
    cases hpayload : existing.payload with
    | null =>
      rw [hpayload] at hsmall
      simp [Json.coalesce,wrapper] at hsmall
      omega
    | _ =>
      rw [hpayload] at hsmall hlarge
      simp only [Json.coalesce] at hsmall
      omega

/-- A replay moves no busy event back, and what failed is delivered. -/
def Replays (env : Env) (s : System) (e : Event) : Prop :=
  ∀ call newId s', e=.resetOutbox call newId → s.step env e=some s' →
    Safe s s' ∧ ∃ existing, s.replays call=some (.read existing) ∧ CausesDelivery existing call s'

/-- Its dead letter has an event, which is not busy when it is reset. -/
def Replayable (env : Env) (s : System) (e : Event) : Prop :=
  ∀ call newId s', e=.resetOutbox call newId → s.step env e=some s' →
    ∃ existing id, s.replays call=some (.read existing) ∧ existing.outboxEventId=some id ∧
      ∀ r, s.outbox.rows.get? id=some r → ¬Busy s.outbox r

theorem requestPayload_eq {r : OutboxEventRecord} {letter : IntegrationDeadLetter}
    (h : r.payload=letter.payload) : requestPayload r=failedPayload letter := by
  unfold requestPayload failedPayload
  rw [h]

theorem causesDelivery_reset {existing : IntegrationDeadLetter} {call id : ℕ}
    {r : OutboxEventRecord} (hr : s.outbox.rows.get? id=some r)
    (hpayload : r.payload=existing.payload) :
    CausesDelivery existing call {s.put call (some (.reset existing id)) with
      outbox := {s.outbox with
        rows := s.outbox.rows.modify id (resetRow s.outbox.now) (resetRow_id s.outbox.now)}} := by
  refine ⟨id,by simp [System.put],resetRow s.outbox.now r,?_,?_,?_⟩
  · rw [Table.get?_modify_self,hr]
    rfl
  · simp [claimable,resetRow]
  · exact requestPayload_eq hpayload

theorem replays_iff (h : Faithful s) (e : Event) : Replays env s e ↔ Replayable env s e := by
  constructor
  · intro hreplays call newId s' he hs
    obtain ⟨hsafe,existing,hread,hdelivers⟩ := hreplays call newId s' he hs
    subst he
    obtain ⟨existing',hread',⟨id,hid,rfl⟩|⟨_,hnew,rfl⟩⟩ := reset_cases hs
    · rw [hread] at hread'
      cases hread'
      exact ⟨existing,id,hread,hid,fun r hr => (safe_reset_iff hr call _).mp hsafe⟩
    · rw [hread] at hread'
      cases hread'
      obtain ⟨id,hreset,r,hr,_,hpayload⟩ := hdelivers
      simp only [System.put,Function.update_self] at hreset
      cases hreset
      have hfree : s.outbox.rows.get? (replayRow env s.outbox.now newId existing).id=none := hnew
      have hrow : (s.outbox.rows.insert (replayRow env s.outbox.now newId existing)).get? newId=
          some (replayRow env s.outbox.now newId existing) := Table.get?_insert_new hfree
      rw [hrow] at hr
      cases hr
      exact absurd hpayload (wrapper_unfaithful s.outbox.now newId existing)
  · intro hcan call newId s' he hs
    obtain ⟨existing,id,hread,hid,hfree⟩ := hcan call newId s' he hs
    obtain ⟨r,hr,hpayload⟩ := h.reads call existing hread id hid
    subst he
    obtain ⟨existing',hread',⟨id',hid',rfl⟩|⟨hnone,_,_⟩⟩ := reset_cases hs
    · rw [hread] at hread'
      cases hread'
      rw [hid] at hid'
      cases hid'
      have hsafe := (safe_reset_iff hr call (some (.reset existing id))).mpr (hfree r hr)
      exact ⟨hsafe,existing,hread,causesDelivery_reset hr hpayload⟩
    · rw [hread] at hread'
      cases hread'
      rw [hid] at hnone
      cases hnone

/-- In every run in which no two fingerprints collide: all replays are safe and faithful just where
each is of a dead letter whose event is not busy at the reset. -/
theorem replay_safe_iff {now : ℕ} {es : List Event}
    (h : Histories.Throughout (System.act env) (NoCollision env) (.empty now) es) :
    Histories.Throughout (System.act env) (Replays env) (.empty now) es ↔
      Histories.Throughout (System.act env) (Replayable env) (.empty now) es := by
  have hfaithful : ∀ bs a, bs++[a]<+:es →
      Faithful (Histories.run (System.act env) (.empty now) bs) := by
    intro bs a hbs
    exact faithful_run (h.before ((List.prefix_append bs [a]).trans hbs))
  constructor
  · intro hreplays
    exact hreplays.imp fun bs a hbs hok => (replays_iff (hfaithful bs a hbs) a).mp hok
  · intro hcan
    exact hcan.imp fun bs a hbs hok => (replays_iff (hfaithful bs a hbs) a).mpr hok

end Runs

section Demo
open Billing (decimal padStart)
open IntegrationDispatch (carrier demoRuntime)

def demoUuid (id : ℕ) : Str := "00000000-0000-4000-8000-".toList++padStart 12 (decimal id)

theorem demoUuid_inj : Function.Injective demoUuid := by
  intro a b h
  exact Billing.padStart_inj (List.append_cancel_left h)

theorem demoUuid_without {c : Char} (hfixed : c∉"00000000-0000-4000-8000-".toList)
    (hdigits : ∀ d < 10, Nat.digitChar d≠c) (id : ℕ) : c∉demoUuid id := by
  intro h
  cases List.mem_append.mp h with
  | inl hc => exact hfixed hc
  | inr hc =>
    obtain ⟨d,hd,hdigit⟩ := Billing.padStart_chars hc
    exact hdigits d hd hdigit.symm

theorem demoUuid_bar (id : ℕ) : '|'∉demoUuid id := by
  refine demoUuid_without ?_ (by decide) id
  rw [String.toList_ofList]
  decide

theorem demoUuid_named (id : ℕ) : demoUuid id≠"no-outbox".toList := by
  intro h
  have hletter : 'n'∉demoUuid id := by
    refine demoUuid_without ?_ (by decide) id
    rw [String.toList_ofList]
    decide
  rw [h] at hletter
  exact hletter (by decide)

def failureText : Str := "TMS-1 returned HTTP 503".toList

def demoText : Str :=
  "00000000-0000-4000-8000-000000000002|00000000-0000-4000-8000-000000000007|no-inbox|".toList++
    "SHIPMENT_SHIPPED|TMS-1 returned HTTP 503".toList

def demoDigest : Str := "840a500103ec2420a63d28fe0a035a4deaa568fda892f6fff962c48909cc852f".toList

def demoEnv : Env where
  runtime := demoRuntime
  sha256 := fun t => if t=demoText then demoDigest else t
  uuidText := demoUuid
  uuidText_inj := demoUuid_inj
  uuidText_bar := demoUuid_bar
  uuidText_named := demoUuid_named

/-- A delivery fails, and its dead letter is recorded. -/
def failedOnce : List Event :=
  [.outbox (.append 7 ⟨"SHIPMENT_SHIPPED".toList,some "shipment".toList,some "S-1".toList,none,none⟩),
    .outbox (.claim 0 {} []),.recordFailure 1 0 carrier failureText,
    .outbox (.failed 0 failureText)]

def replayed : List Event := [.readDeadLetter 0 demoDigest,.resetOutbox 0 0,.markReplayed 0]

def inTime : List Event := failedOnce++replayed

/-- After a replay has read its dead letter, a second dispatcher delivers the event. -/
def meanwhile : List Event :=
  failedOnce++[.outbox (.tick 60000),.readDeadLetter 0 demoDigest,.outbox (.claim 1 {} []),
    .outbox (.delivered 1)]

def tooLate : List Event := meanwhile++[.resetOutbox 0 0]

instance decidableNoCollision (env : Env) (s : System) (e : Event) :
    Decidable (NoCollision env s e) := by
  unfold NoCollision
  infer_instance

/-- The event that is reset is up for a claim before. -/
def resetsPending (s : System) : Event → Bool
  | .resetOutbox call _ =>
    match s.replays call with
    | some (.read existing) =>
      match existing.outboxEventId with
      | some id => (s.outbox.rows.get? id).all fun r => r.status=.PENDING
      | none => false
    | _ => true
  | _ => true

theorem replayable_of_pending {env : Env} {s : System} {e : Event} (h : resetsPending s e=true) :
    Replayable env s e := by
  intro call newId s' he hs
  subst he
  obtain ⟨existing,hread,_⟩ := reset_cases hs
  cases hid : existing.outboxEventId with
  | none => simp [resetsPending,hread,hid] at h
  | some id =>
    refine ⟨existing,id,hread,hid,fun r hr hbusy => ?_⟩
    have hpending : r.status=.PENDING := by simpa [resetsPending,hread,hid,hr] using h
    rcases hbusy with hsent|⟨hprocessing,_⟩
    · rw [hpending] at hsent
      cases hsent
    · rw [hpending] at hprocessing
      cases hprocessing

theorem replay_safe_demo :
    Histories.Throughout (System.act demoEnv) (Replays demoEnv) (.empty 0) inTime := by
  have hdistinct : Histories.Throughout (System.act demoEnv) (NoCollision demoEnv) (.empty 0)
      inTime := by decide +kernel
  have hpending : Histories.Throughout (System.act demoEnv) (fun s e => resetsPending s e=true)
      (.empty 0) inTime := by
    unfold inTime failedOnce replayed demoEnv demoDigest demoText failureText
    repeat rewrite [String.toList_ofList]
    decide +kernel
  exact (replay_safe_iff hdistinct).mpr
    (hpending.imp fun _ _ _ hok => replayable_of_pending hok)

/-- The event that was delivered meanwhile is put back to PENDING. -/
theorem sent_event_replayed :
    Histories.Throughout (System.act demoEnv) (NoCollision demoEnv) (.empty 0) tooLate ∧
    ((Histories.run (System.act demoEnv) (.empty 0) tooLate).outbox.rows.get? 7).map (·.status)=
      some .PENDING ∧
    ¬Histories.Throughout (System.act demoEnv) (Replays demoEnv) (.empty 0) tooLate := by
  have hruns : Histories.Throughout (System.act demoEnv) (NoCollision demoEnv) (.empty 0) tooLate ∧
      ((Histories.run (System.act demoEnv) (.empty 0) tooLate).outbox.rows.get? 7).map (·.status)=
        some .PENDING ∧
      ((Histories.run (System.act demoEnv) (.empty 0) meanwhile).outbox.rows.get? 7).map (·.status)=
        some .SENT ∧
      (((Histories.run (System.act demoEnv) (.empty 0) meanwhile).step demoEnv
        (.resetOutbox 0 0)).bind (·.outbox.rows.get? 7)).map (·.status)=some .PENDING := by
    unfold tooLate meanwhile failedOnce demoEnv demoDigest demoText failureText
    repeat rewrite [String.toList_ofList]
    decide +kernel
  obtain ⟨hdistinct,hlast,hsent,hpending⟩ := hruns
  refine ⟨hdistinct,hlast,fun h => ?_⟩
  obtain ⟨r,hr,hstatus⟩ := Option.map_eq_some_iff.mp hsent
  obtain ⟨r',hr',hstatus'⟩ := Option.map_eq_some_iff.mp hpending
  obtain ⟨s',hs',hrow'⟩ := Option.bind_eq_some_iff.mp hr'
  have hsafe : Safe (Histories.run (System.act demoEnv) (.empty 0) meanwhile) s' :=
    (h.last 0 0 s' rfl hs').1
  exact hsafe 7 r hr (.inl hstatus) r' hrow' hstatus'

end Demo

end AardvarkWms.DeadLetterReplay
