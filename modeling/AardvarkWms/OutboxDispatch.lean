import AardvarkWms.OutboxEnvelope

/-! Dispatchers that deliver outbox events side by side: each claims events under a lease and
records what became of its deliveries. -/
namespace AardvarkWms.Messaging

structure DispatchOutboxEventsInput where
  take : Option ℕ := none
  eventType : Option Str := none
  maxAttempts : Option ℕ := none
  retryDelaySeconds : Option ℕ := none

def DEFAULT_DISPATCH_TAKE : ℕ := 50
def DEFAULT_MAX_ATTEMPTS : ℕ := 5
def DEFAULT_RETRY_DELAY_SECONDS : ℕ := 60

/-- The lease of a claim: five minutes. -/
def claimLease : ℕ := 300000

structure RetryDecision where
  status : OutboxDeliveryStatus
  attempts : ℕ
  availableAt : Option ℕ
  exhausted : Bool

def getNextRetryDecision (claimedAttempts maxAttempts retryDelaySeconds now : ℕ) : RetryDecision :=
  let attempts := claimedAttempts+1
  if maxAttempts≤attempts then ⟨.DEAD_LETTER,attempts,none,true⟩
  else ⟨.PENDING,attempts,some (now+retryDelaySeconds*1000),false⟩

/-- A dispatch in progress: the events that it claimed, as they were then, and has yet to deliver. -/
structure Dispatcher where
  maxAttempts : ℕ
  retryDelaySeconds : ℕ
  queue : List OutboxEventRecord

/-- A recorded result of a delivery. -/
structure Attempt where
  eventId : ℕ
  maxAttempts : ℕ
  sent : Bool

abbrev OutboxTable : Type := Table OutboxEventRecord.id

/-- The table, the clock, the dispatchers at work and the results they recorded, the last one
first. -/
structure Outbox where
  now : ℕ
  rows : OutboxTable
  dispatchers : ℕ → Option Dispatcher
  history : List Attempt

def Outbox.empty (now : ℕ) : Outbox := ⟨now,.empty,fun _ => none,[]⟩

/-- PENDING and PROCESSING events are claimed once they are available. -/
def claimable (now : ℕ) (eventType : Option Str) (r : OutboxEventRecord) : Bool :=
  (r.status=.PENDING || r.status=.PROCESSING) && decide (r.availableAt≤now) &&
    (match eventType.map trim with
      | none | some [] => true
      | some t => decide (r.type=t))

def lease (now : ℕ) (r : OutboxEventRecord) : OutboxEventRecord :=
  {r with status := .PROCESSING, availableAt := now+claimLease}

def markedSent (now : ℕ) (r : OutboxEventRecord) : OutboxEventRecord :=
  {r with status := .SENT, sentAt := some now, lastError := none, attempts := r.attempts+1}

def markedFailed (decision : RetryDecision) (now : ℕ) (error : Str) (r : OutboxEventRecord) :
    OutboxEventRecord :=
  {r with
    status := decision.status
    attempts := r.attempts+1
    availableAt := decision.availableAt.getD now
    lastError := some error}

/-- What can happen next. `skipped` are the rows that other statements have locked. -/
inductive Happening
  | tick (milliseconds : ℕ)
  | append (id : ℕ) (input : AppendOutboxEventInput)
  | claim (dispatcher : ℕ) (input : DispatchOutboxEventsInput) (skipped : List ℕ)
  | delivered (dispatcher : ℕ)
  | failed (dispatcher : ℕ) (error : Str)
  | stopped (dispatcher : ℕ)

namespace Outbox

def put (s : Outbox) (w : ℕ) (d : Option Dispatcher) : Outbox :=
  {s with dispatchers := Function.update s.dispatchers w d}

/-- The events that a claim takes, in the order of their creation. -/
def claims (s : Outbox) (input : DispatchOutboxEventsInput) (skipped : List ℕ) :
    List OutboxEventRecord :=
  (s.rows.rows.filter fun r => claimable s.now input.eventType r && decide (r.id∉skipped)).take
    (input.take.getD DEFAULT_DISPATCH_TAKE)

/-- The event that a dispatcher delivers next. -/
def current (s : Outbox) (w : ℕ) : Option (Dispatcher × OutboxEventRecord) :=
  (s.dispatchers w).bind fun d => d.queue.head?.map fun e => (d,e)

/-- A dispatcher records a result and goes on. -/
def record (s : Outbox) (w : ℕ) (d : Dispatcher) (e : OutboxEventRecord) (sent : Bool)
    (rows : OutboxTable) : Outbox :=
  {(s.put w (some {d with queue := d.queue.tail})) with
    rows := rows
    history := ⟨e.id,d.maxAttempts,sent⟩::s.history}

def step (s : Outbox) : Happening → Option Outbox
  | .tick milliseconds => some {s with now := s.now+milliseconds}
  | .append id input =>
    if s.rows.get? id=none then
      match Messaging.append s.now id input with
      | .ok r => some {s with rows := s.rows.insert r}
      | .error _ => none
    else none
  | .claim w input skipped =>
    if (s.dispatchers w).isNone then
      let claimed := s.claims input skipped
      some {(s.put w (some
          { maxAttempts := input.maxAttempts.getD DEFAULT_MAX_ATTEMPTS
            retryDelaySeconds := input.retryDelaySeconds.getD DEFAULT_RETRY_DELAY_SECONDS
            queue := claimed.map (lease s.now) })) with
        rows := s.rows.modifyWhere (fun r => decide (r.id∈claimed.map OutboxEventRecord.id))
          (lease s.now) fun _ => rfl }
    else none
  | .delivered w =>
    match s.current w with
    | none => none
    | some (d,e) =>
      if trim e.type=[] then none
      else some (s.record w d e true (s.rows.modify e.id (markedSent s.now) fun _ => rfl))
  | .failed w error =>
    match s.current w with
    | none => none
    | some (d,e) =>
      let decision := getNextRetryDecision e.attempts d.maxAttempts d.retryDelaySeconds s.now
      some (s.record w d e false
        (s.rows.modify e.id (markedFailed decision s.now error) fun _ => rfl))
  | .stopped w => some (s.put w none)

end Outbox

/-- Runs from `s₀`; `ok` restricts what happens. -/
inductive Runs (ok : Outbox → Happening → Prop) (s₀ : Outbox) : Outbox → Prop
  | start : Runs ok s₀ s₀
  | next {s s' : Outbox} {h : Happening} (hrun : Runs ok s₀ s) (hok : ok s h)
      (hs : s.step h=some s') : Runs ok s₀ s'

/-- What a step does to the table, the clock, the dispatchers and the history. -/
inductive Stepped (s : Outbox) : Happening → Outbox → Prop
  | tick (n) : Stepped s (.tick n) {s with now := s.now+n}
  | append (id input r) (hnew : s.rows.get? id=none) (hr : append s.now id input=.ok r) :
      Stepped s (.append id input) {s with rows := s.rows.insert r}
  | claim (w input skipped) (hidle : s.dispatchers w=none) :
      Stepped s (.claim w input skipped) {(s.put w (some
          { maxAttempts := input.maxAttempts.getD DEFAULT_MAX_ATTEMPTS
            retryDelaySeconds := input.retryDelaySeconds.getD DEFAULT_RETRY_DELAY_SECONDS
            queue := (s.claims input skipped).map (lease s.now) })) with
        rows := s.rows.modifyWhere
          (fun r => decide (r.id∈(s.claims input skipped).map OutboxEventRecord.id))
          (lease s.now) fun _ => rfl }
  | delivered (w d e) (hcurrent : s.current w=some (d,e)) (htype : trim e.type≠[]) :
      Stepped s (.delivered w)
        (s.record w d e true (s.rows.modify e.id (markedSent s.now) fun _ => rfl))
  | failed (w error d e) (hcurrent : s.current w=some (d,e)) :
      Stepped s (.failed w error) (s.record w d e false (s.rows.modify e.id (markedFailed
        (getNextRetryDecision e.attempts d.maxAttempts d.retryDelaySeconds s.now) s.now error)
        fun _ => rfl))
  | stopped (w) : Stepped s (.stopped w) (s.put w none)

theorem Outbox.stepped {s s' : Outbox} {h : Happening} (hs : s.step h=some s') : Stepped s h s' := by
  cases h with
  | tick n =>
    cases hs
    exact .tick n
  | append id input =>
    simp only [Outbox.step] at hs
    split at hs
    · rename_i hnew
      cases hr : Messaging.append s.now id input with
      | error e =>
        rw [hr] at hs
        cases hs
      | ok r =>
        rw [hr] at hs
        cases hs
        exact .append id input r hnew hr
    · cases hs
  | claim w input skipped =>
    simp only [Outbox.step] at hs
    split at hs
    · rename_i hidle
      cases hs
      exact .claim w input skipped (Option.isNone_iff_eq_none.mp hidle)
    · cases hs
  | delivered w =>
    simp only [Outbox.step] at hs
    cases hcurrent : s.current w with
    | none =>
      rw [hcurrent] at hs
      cases hs
    | some p =>
      obtain ⟨d,e⟩ := p
      simp only [hcurrent] at hs
      split at hs
      · cases hs
      · rename_i htype
        cases hs
        exact .delivered w d e hcurrent htype
  | failed w error =>
    simp only [Outbox.step] at hs
    cases hcurrent : s.current w with
    | none =>
      rw [hcurrent] at hs
      cases hs
    | some p =>
      obtain ⟨d,e⟩ := p
      simp only [hcurrent] at hs
      cases hs
      exact .failed w error d e hcurrent
  | stopped w =>
    cases hs
    exact .stopped w

namespace Outbox

def isFailureOf (id : ℕ) (a : Attempt) : Bool := decide (a.eventId=id) && !a.sent

/-- How often a delivery of the event failed. -/
def failures (s : Outbox) (id : ℕ) : ℕ := (s.history.filter (isFailureOf id)).length

/-- The `maxAttempts` of the dispatcher that recorded the last failure. -/
def limit (s : Outbox) (id : ℕ) : ℕ :=
  ((s.history.find? (isFailureOf id)).map Attempt.maxAttempts).getD 0

end Outbox

/-- A failure is recorded of an event that is not sent, and whose attempts reach the limit now
exactly if they did when it was claimed. -/
def Timely (s : Outbox) : Happening → Prop
  | .failed w _ => ∀ p∈s.current w, ∀ r∈s.rows.get? p.2.id, r.status≠.SENT ∧
      (p.1.maxAttempts≤p.2.attempts+1 ↔ p.1.maxAttempts≤r.attempts+1)
  | _ => True

instance (s : Outbox) : (h : Happening) → Decidable (Timely s h)
  | .failed w _ => by unfold Timely; infer_instance
  | .tick _ | .append _ _ | .claim _ _ _ | .delivered _ | .stopped _ => .isTrue trivial

/-- What is known of an event in the table: its status is one of the dispatch, its attempts are
the failures until it is sent, and it is dead exactly if they have reached the limit. -/
structure Accounted (s : Outbox) (r : OutboxEventRecord) : Prop where
  status : r.status≠.FAILED
  attempts : r.status≠.SENT → r.attempts=s.failures r.id
  dead : r.status≠.SENT →
    (r.status=.DEAD_LETTER ↔ 0 < s.failures r.id ∧ s.limit r.id ≤ s.failures r.id)
  lease : r.status=.PROCESSING → r.availableAt ≤ s.now+claimLease

/-- Every event in the table is accounted for, and results and claims are of such events. -/
structure Orderly (s : Outbox) : Prop where
  events : ∀ id r, s.rows.get? id=some r → Accounted s r
  attempted : ∀ a∈s.history, s.rows.get? a.eventId≠none
  claimed : ∀ w d, s.dispatchers w=some d → ∀ e∈d.queue, s.rows.get? e.id≠none

section Steps
variable {s s' : Outbox} {r : OutboxEventRecord}

theorem Outbox.current_eq {w : ℕ} {d : Dispatcher} {e : OutboxEventRecord}
    (h : s.current w=some (d,e)) : s.dispatchers w=some d ∧ e∈d.queue := by
  obtain ⟨d',hd,he⟩ := Option.bind_eq_some_iff.mp h
  obtain ⟨e',hhead,heq⟩ := Option.map_eq_some_iff.mp he
  cases heq
  exact ⟨hd,List.mem_of_mem_head? hhead⟩

theorem Accounted.mono (h : Accounted s r) (hnow : s.now ≤ s'.now)
    (hfailures : s'.failures r.id=s.failures r.id) (hlimit : s'.limit r.id=s.limit r.id) :
    Accounted s' r := by
  refine ⟨h.status,?_,?_,fun hstatus => ?_⟩
  · rw [hfailures]; exact h.attempts
  · rw [hfailures,hlimit]; exact h.dead
  · have hlease := h.lease hstatus
    omega

section Record
variable {w : ℕ} {d : Dispatcher} {e : OutboxEventRecord} {sent : Bool} {rows : OutboxTable} {id : ℕ}

theorem isFailureOf_ne (h : id≠e.id) : Outbox.isFailureOf id ⟨e.id,d.maxAttempts,sent⟩=false := by
  simp [Outbox.isFailureOf,Ne.symm h]

theorem failures_record_ne (h : id≠e.id) : (s.record w d e sent rows).failures id=s.failures id := by
  simp [Outbox.failures,Outbox.record,isFailureOf_ne h]

theorem limit_record_ne (h : id≠e.id) : (s.record w d e sent rows).limit id=s.limit id := by
  simp [Outbox.limit,Outbox.record,isFailureOf_ne h]

theorem failures_record_self : (s.record w d e false rows).failures e.id=s.failures e.id+1 := by
  simp [Outbox.failures,Outbox.record,Outbox.isFailureOf]

theorem limit_record_self : (s.record w d e false rows).limit e.id=d.maxAttempts := by
  simp [Outbox.limit,Outbox.record,Outbox.isFailureOf]

end Record

theorem Orderly.failures_new (h : Orderly s) {id : ℕ} (hnew : s.rows.get? id=none) :
    s.failures id=0 := by
  have hnone : s.history.filter (Outbox.isFailureOf id)=[] := by
    refine List.filter_eq_nil_iff.mpr fun a ha hfailure => ?_
    simp only [Outbox.isFailureOf,Bool.and_eq_true,decide_eq_true_eq] at hfailure
    exact h.attempted a ha (hfailure.1 ▸ hnew)
  rw [Outbox.failures,hnone]
  rfl

theorem claimed_status {input : DispatchOutboxEventsInput} {skipped : List ℕ}
    (hr : s.rows.get? r.id=some r)
    (hclaimed : r.id∈(s.claims input skipped).map OutboxEventRecord.id) :
    r.status=.PENDING ∨ r.status=.PROCESSING := by
  obtain ⟨r',hr',hid⟩ := List.mem_map.mp hclaimed
  obtain ⟨hmem,hclaimable⟩ := List.mem_filter.mp (List.mem_of_mem_take hr')
  have hr'get := Table.get?_key (t := s.rows) hmem
  rw [hid,hr] at hr'get
  obtain rfl := Option.some.inj hr'get
  simp only [claimable,Bool.and_eq_true,Bool.or_eq_true,decide_eq_true_eq] at hclaimable
  exact hclaimable.1.1.1

theorem Accounted.leased (h : Accounted s r) (hstatus : r.status=.PENDING ∨ r.status=.PROCESSING)
    (hnow : s'.now=s.now) (hfailures : s'.failures r.id=s.failures r.id)
    (hlimit : s'.limit r.id=s.limit r.id) : Accounted s' (Messaging.lease s.now r) := by
  have hsent : r.status≠.SENT := by
    rcases hstatus with hs|hs <;> rw [hs] <;> decide
  have hdead : ¬r.status=.DEAD_LETTER := by
    rcases hstatus with hs|hs <;> rw [hs] <;> decide
  refine ⟨by simp [Messaging.lease],fun _ => ?_,fun _ => ?_,fun _ => ?_⟩
  · show r.attempts=s'.failures r.id
    rw [hfailures]
    exact h.attempts hsent
  · show _ ↔ 0 < s'.failures r.id ∧ s'.limit r.id ≤ s'.failures r.id
    rw [hfailures,hlimit,← h.dead hsent]
    simp [Messaging.lease,hdead]
  · show s.now+claimLease ≤ s'.now+claimLease
    omega

theorem Accounted.failed {w : ℕ} {error : Str} {d : Dispatcher} {e : OutboxEventRecord}
    {rows : OutboxTable} (h : Accounted s r) (hid : r.id=e.id) (hsent : r.status≠.SENT)
    (htimely : d.maxAttempts≤e.attempts+1 ↔ d.maxAttempts≤r.attempts+1) :
    Accounted (s.record w d e false rows) (markedFailed
      (getNextRetryDecision e.attempts d.maxAttempts d.retryDelaySeconds s.now) s.now error r) := by
  have hattempts : r.attempts=s.failures e.id := hid ▸ h.attempts hsent
  have hstatus : (markedFailed (getNextRetryDecision e.attempts d.maxAttempts d.retryDelaySeconds
      s.now) s.now error r).status=
        if d.maxAttempts≤r.attempts+1 then .DEAD_LETTER else .PENDING := by
    by_cases hm : d.maxAttempts≤r.attempts+1
    · simp [markedFailed,getNextRetryDecision,htimely.mpr hm,hm]
    · have hm' : ¬d.maxAttempts≤e.attempts+1 := fun h => hm (htimely.mp h)
      simp [markedFailed,getNextRetryDecision,hm,hm']
  refine ⟨?_,fun _ => ?_,fun _ => ?_,fun hprocessing => ?_⟩
  · rw [hstatus]
    split <;> decide
  · show r.attempts+1=(s.record w d e false rows).failures r.id
    rw [hid,failures_record_self,hattempts]
  · rw [hstatus]
    show _ ↔ 0 < (s.record w d e false rows).failures r.id ∧
      (s.record w d e false rows).limit r.id≤(s.record w d e false rows).failures r.id
    rw [hid,failures_record_self,limit_record_self,← hattempts]
    by_cases hm : d.maxAttempts≤r.attempts+1 <;> simp [hm]
  · rw [hstatus] at hprocessing
    split at hprocessing <;> cases hprocessing

theorem append_row {now id : ℕ} {input : AppendOutboxEventInput} (h : append now id input=.ok r) :
    r.id=id ∧ r.status=.PENDING ∧ r.attempts=0 := by
  unfold append at h
  obtain ⟨eventType,_,hr⟩ := Transactions.Txn.bind_eq_ok h
  cases hr
  exact ⟨rfl,rfl,rfl⟩

theorem put_dispatchers {w w' : ℕ} {o : Option Dispatcher} {d : Dispatcher}
    (h : (s.put w o).dispatchers w'=some d) : o=some d ∨ s.dispatchers w'=some d := by
  by_cases hw : w'=w
  · subst hw
    left
    simpa [Outbox.put] using h
  · right
    simpa [Outbox.put,hw] using h

theorem Stepped.keeps {h : Happening} (hs : Stepped s h s') (hok : Timely s h) {id : ℕ}
    (hr : s.rows.get? id=some r) :
    ∃ r', s'.rows.get? id=some r' ∧ (r.status=.SENT → r'.status=.SENT) := by
  cases hs with
  | tick n => exact ⟨r,hr,fun h => h⟩
  | append id' input new hnew hnewrow =>
    refine ⟨r,?_,fun h => h⟩
    have hne : id≠new.id := by
      intro he
      rw [(append_row hnewrow).1] at he
      rw [he,hnew] at hr
      cases hr
    exact (Table.get?_insert_ne _ hne).trans hr
  | claim w input skipped hidle =>
    have hget := Table.get?_modifyWhere s.rows
      (fun r => decide (r.id∈(s.claims input skipped).map OutboxEventRecord.id)) (lease s.now)
      (fun _ => rfl) id
    rw [hr,Option.map_some] at hget
    refine ⟨_,hget,fun hsent => ?_⟩
    split
    · rename_i hclaimed
      have hid := Table.key_of_get? hr
      have hstatus := claimed_status (hid ▸ hr) (of_decide_eq_true hclaimed)
      rw [hsent] at hstatus
      rcases hstatus with hs|hs <;> cases hs
    · exact hsent
  | delivered w d e hcurrent htype =>
    have hget := Table.get?_modify s.rows e.id (markedSent s.now) (fun _ => rfl) id
    by_cases hid : id=e.id
    · rw [if_pos hid,hr] at hget
      exact ⟨_,hget,fun _ => rfl⟩
    · rw [if_neg hid,hr] at hget
      exact ⟨_,hget,fun h => h⟩
  | failed w error d e hcurrent =>
    have hget := Table.get?_modify s.rows e.id (markedFailed (getNextRetryDecision e.attempts
      d.maxAttempts d.retryDelaySeconds s.now) s.now error) (fun _ => rfl) id
    by_cases hid : id=e.id
    · rw [if_pos hid,hr] at hget
      have hsent := (hok (d,e) hcurrent r (hid ▸ hr)).1
      exact ⟨_,hget,fun h => (hsent h).elim⟩
    · rw [if_neg hid,hr] at hget
      exact ⟨_,hget,fun h => h⟩
  | stopped w => exact ⟨r,hr,fun h => h⟩

theorem Orderly.recorded (ho : Orderly s) {w : ℕ} {d : Dispatcher} {e : OutboxEventRecord}
    {sent : Bool} {f : OutboxEventRecord → OutboxEventRecord} {hf : ∀ r, (f r).id=r.id}
    (hcurrent : s.current w=some (d,e))
    (hevent : ∀ r, s.rows.get? e.id=some r →
      Accounted (s.record w d e sent (s.rows.modify e.id f hf)) (f r)) :
    Orderly (s.record w d e sent (s.rows.modify e.id f hf)) := by
  obtain ⟨hd,he⟩ := Outbox.current_eq hcurrent
  have hstays : ∀ id, s.rows.get? id≠none → (s.rows.modify e.id f hf).get? id≠none := by
    intro id hid
    obtain ⟨r,hr⟩ := Option.ne_none_iff_exists'.mp hid
    rw [Table.get?_modify,hr]
    split <;> exact Option.some_ne_none _
  refine ⟨fun id r hr => ?_,fun a ha => ?_,fun w' d' hd' e' he' => ?_⟩
  · have hget := (Table.get?_modify s.rows e.id f hf id).symm.trans hr
    by_cases hid : id=e.id
    · rw [if_pos hid] at hget
      obtain ⟨old,hold,rfl⟩ := Option.map_eq_some_iff.mp hget
      exact hevent old (hid ▸ hold)
    · rw [if_neg hid] at hget
      have hrid := Table.key_of_get? hget
      have hne : r.id≠e.id := fun h => hid (hrid.symm.trans h)
      exact (ho.events id r hget).mono (Nat.le_refl _) (failures_record_ne hne) (limit_record_ne hne)
  · rcases List.mem_cons.mp ha with rfl|ha
    · exact hstays _ (ho.claimed w d hd e he)
    · exact hstays _ (ho.attempted a ha)
  · apply hstays
    rcases put_dispatchers hd' with hd'|hd'
    · obtain rfl := Option.some.inj hd'
      exact ho.claimed w d hd e' (List.mem_of_mem_tail he')
    · exact ho.claimed w' d' hd' e' he'

theorem Orderly.stepped (ho : Orderly s) {h : Happening} (hs : Stepped s h s') (hok : Timely s h) :
    Orderly s' := by
  have hstays : ∀ id, s.rows.get? id≠none → s'.rows.get? id≠none := by
    intro id hid
    obtain ⟨r,hr⟩ := Option.ne_none_iff_exists'.mp hid
    obtain ⟨r',hr',_⟩ := hs.keeps hok hr
    rw [hr']
    exact Option.some_ne_none _
  cases hs with
  | tick n =>
    refine ⟨fun id r hr => (ho.events id r hr).mono ?_ rfl rfl,ho.attempted,ho.claimed⟩
    exact Nat.le_add_right _ _
  | append id input new hnew hnewrow =>
    obtain ⟨hid,hstatus,hattempts⟩ := append_row hnewrow
    refine ⟨fun id' r hr => ?_,fun a ha => hstays _ (ho.attempted a ha),
      fun w d hd e he => hstays _ (ho.claimed w d hd e he)⟩
    rw [Table.get?_insert] at hr
    split at hr
    · rename_i hid'
      rw [hid',hid,hnew,Option.getD_none] at hr
      obtain rfl := Option.some.inj hr
      have hzero : s.failures new.id=0 := ho.failures_new (hid ▸ hnew)
      refine ⟨by simp [hstatus],fun _ => ?_,fun _ => ?_,fun hp => ?_⟩
      · exact hattempts.trans hzero.symm
      · show _ ↔ 0 < s.failures new.id ∧ _
        rw [hstatus,hzero]
        simp
      · rw [hstatus] at hp
        cases hp
    · exact (ho.events id' r hr).mono (Nat.le_refl _) rfl rfl
  | claim w input skipped hidle =>
    refine ⟨fun id r hr => ?_,fun a ha => hstays _ (ho.attempted a ha),fun w' d hd e he => ?_⟩
    · have hget := Table.get?_modifyWhere s.rows
        (fun r => decide (r.id∈(s.claims input skipped).map OutboxEventRecord.id)) (lease s.now)
        (fun _ => rfl) id
      obtain ⟨old,hold,hnew⟩ := Option.map_eq_some_iff.mp (hget.symm.trans hr)
      have hid := Table.key_of_get? hold
      by_cases hclaimed : old.id∈(s.claims input skipped).map OutboxEventRecord.id
      · simp only [hclaimed,decide_true,if_true] at hnew
        subst hnew
        exact (ho.events id old hold).leased (claimed_status (hid ▸ hold) hclaimed) rfl rfl rfl
      · simp only [hclaimed,decide_false,Bool.false_eq_true,if_false] at hnew
        subst hnew
        exact (ho.events id old hold).mono (Nat.le_refl _) rfl rfl
    · apply hstays
      rcases put_dispatchers hd with hd|hd
      · obtain rfl := Option.some.inj hd
        obtain ⟨old,hold,rfl⟩ := List.mem_map.mp he
        obtain ⟨hmem,_⟩ := List.mem_filter.mp (List.mem_of_mem_take hold)
        show s.rows.get? old.id≠none
        rw [Table.get?_key (t := s.rows) hmem]
        exact Option.some_ne_none _
      · exact ho.claimed w' d hd e he
  | delivered w d e hcurrent htype =>
    refine ho.recorded hcurrent fun r hr => ?_
    exact ⟨by simp [markedSent],fun h => (h rfl).elim,fun h => (h rfl).elim,fun h => by cases h⟩
  | failed w error d e hcurrent =>
    refine ho.recorded hcurrent fun r hr => ?_
    obtain ⟨hsent,htimely⟩ := hok (d,e) hcurrent r hr
    exact (ho.events e.id r hr).failed (Table.key_of_get? hr) hsent htimely
  | stopped w =>
    refine ⟨fun id r hr => (ho.events id r hr).mono (Nat.le_refl _) rfl rfl,ho.attempted,
      fun w' d hd e he => ?_⟩
    rcases put_dispatchers hd with hd|hd
    · cases hd
    · exact ho.claimed w' d hd e he

theorem mem_claims {input : DispatchOutboxEventsInput} (hr : r∈s.rows.rows)
    (hstatus : r.status=.PENDING ∨ r.status=.PROCESSING) (havailable : r.availableAt ≤ s.now)
    (htype : input.eventType=none)
    (htake : s.rows.rows.length ≤ input.take.getD DEFAULT_DISPATCH_TAKE) : r∈s.claims input [] := by
  have hclaimable : (claimable s.now input.eventType r && decide (r.id∉([] : List ℕ)))=true := by
    rcases hstatus with hs|hs <;> simp [claimable,hs,havailable,htype]
  have hmem : r∈s.rows.rows.filter fun r =>
      claimable s.now input.eventType r && decide (r.id∉([] : List ℕ)) :=
    List.mem_filter.mpr ⟨hr,hclaimable⟩
  unfold Outbox.claims
  rw [List.take_of_length_le ((List.length_filter_le _ _).trans htake)]
  exact hmem

theorem step_claim {w : ℕ} {input : DispatchOutboxEventsInput} (hidle : s.dispatchers w=none)
    (hr : r∈s.claims input []) : ∃ s' d, s.step (.claim w input [])=some s' ∧
      s'.dispatchers w=some d ∧ lease s.now r∈d.queue := by
  have hnone : (s.dispatchers w).isNone=true := by rw [hidle]; rfl
  refine ⟨_,_,if_pos hnone,Function.update_self _ _ _,?_⟩
  exact List.mem_map.mpr ⟨r,hr,rfl⟩

end Steps

section Runs
variable {s s' : Outbox}

theorem Runs.orderly (h : Runs Timely s s') (ho : Orderly s) : Orderly s' := by
  induction h with
  | start => exact ho
  | next hrun hok hs ih => exact ih.stepped (Outbox.stepped hs) hok

theorem Runs.keeps (h : Runs Timely s s') {id : ℕ} {r : OutboxEventRecord}
    (hr : s.rows.get? id=some r) :
    ∃ r', s'.rows.get? id=some r' ∧ (r.status=.SENT → r'.status=.SENT) := by
  induction h with
  | start => exact ⟨r,hr,fun h => h⟩
  | next hrun hok hs ih =>
    obtain ⟨r₁,hr₁,hsent₁⟩ := ih
    obtain ⟨r₂,hr₂,hsent₂⟩ := (Outbox.stepped hs).keeps hok hr₁
    exact ⟨r₂,hr₂,fun h => hsent₂ (hsent₁ h)⟩

theorem orderly_empty (t : ℕ) : Orderly (.empty t) := by
  constructor
  · intro id r hr; cases hr
  · intro a ha; cases ha
  · intro w d hd; cases hd

/-- In a run whose failures are recorded in time, with dispatchers that claim, are late or stop as
they like: no event is lost and a sent one stays sent; no event is FAILED; until it is sent an
event counts its failures, and it is dead exactly if they have reached the limit of the dispatcher
that recorded the last one; and every other event is claimed again, once it is available, by
whoever takes enough, where the lease of a claim ends within five minutes. -/
theorem outbox_delivers {t : ℕ} (hrun : Runs Timely (.empty t) s) (hmore : Runs Timely s s') {id : ℕ}
    {r : OutboxEventRecord} (hr : s.rows.get? id=some r) :
    (∃ r', s'.rows.get? id=some r' ∧ (r.status=.SENT → r'.status=.SENT)) ∧
    r.status≠.FAILED ∧
    (r.status≠.SENT → r.attempts=s.failures id ∧
      (r.status=.DEAD_LETTER ↔ 0 < s.failures id ∧ s.limit id ≤ s.failures id)) ∧
    (r.status=.PROCESSING → r.availableAt ≤ s.now+claimLease) ∧
    (r.status=.PENDING ∨ r.status=.PROCESSING →
      ∀ n w input, r.availableAt ≤ s.now+n → s.dispatchers w=none → input.eventType=none →
        s.rows.rows.length ≤ input.take.getD DEFAULT_DISPATCH_TAKE →
        ∃ s₁ s₂ d, s.step (.tick n)=some s₁ ∧ s₁.step (.claim w input [])=some s₂ ∧
          s₂.dispatchers w=some d ∧ ∃ e∈d.queue, e.id=id) := by
  have hevent := (hrun.orderly (orderly_empty t)).events id r hr
  obtain ⟨hmem,hid⟩ := Table.mem_of_get? hr
  subst hid
  refine ⟨hmore.keeps hr,hevent.status,fun hsent => ⟨hevent.attempts hsent,hevent.dead hsent⟩,
    hevent.lease,fun hstatus n w input havailable hidle htype htake => ?_⟩
  obtain ⟨s₂,d,hs₂,hd,hqueue⟩ := step_claim (s := {s with now := s.now+n}) hidle
    (mem_claims hmem hstatus havailable htype htake)
  exact ⟨_,s₂,d,rfl,hs₂,hd,_,hqueue,rfl⟩

end Runs

/-- What happens from a state, one after the other, as long as it is permitted. -/
def drive (ok : Outbox → Happening → Prop) [∀ s h, Decidable (ok s h)] :
    List Happening → Outbox → Option Outbox
  | [], s => some s
  | h::hs, s => if ok s h then (s.step h).bind (drive ok hs) else none

theorem Runs.drive {ok : Outbox → Happening → Prop} [∀ s h, Decidable (ok s h)] {s₀ s' : Outbox}
    {hs : List Happening} : ∀ {s}, Runs ok s₀ s → Messaging.drive ok hs s=some s' → Runs ok s₀ s' := by
  induction hs with
  | nil =>
    intro s hrun h
    obtain rfl := Option.some.inj h
    exact hrun
  | cons h hs ih =>
    intro s hrun hdrive
    simp only [Messaging.drive] at hdrive
    split at hdrive
    · rename_i hok
      obtain ⟨s₁,hs₁,hrest⟩ := Option.bind_eq_some_iff.mp hdrive
      exact ih (hrun.next hok hs₁) hrest
    · cases hdrive

def statusOf (s : Outbox) (id : ℕ) : Option OutboxDeliveryStatus :=
  (s.rows.get? id).map OutboxEventRecord.status

/-- One dispatcher claims an event and is late; when the lease has ended another one claims it. -/
def demoClaims (input : DispatchOutboxEventsInput) : List Happening :=
  [.append 1 (demoAppend none none),.claim 0 input [],.tick claimLease,.claim 1 input []]

theorem outbox_delivers_demo : ∃ s r, Runs Timely (.empty 0) s ∧ s.rows.get? 1=some r ∧
    r.status=.DEAD_LETTER ∧ s.failures 1=2 ∧ 0 < s.failures 1 ∧ s.limit 1 ≤ s.failures 1 := by
  have hdrive : ∃ s, drive Timely [.append 1 (demoAppend none none),
      .claim 0 {maxAttempts := some 2} [],.failed 0 [],.stopped 0,.tick claimLease,
      .claim 1 {maxAttempts := some 2} [],.failed 1 []] (.empty 0)=some s ∧
      statusOf s 1=some .DEAD_LETTER ∧ s.failures 1=2 := ⟨_,rfl,by decide,by decide⟩
  obtain ⟨s,hs,hstatus,hfailures⟩ := hdrive
  obtain ⟨r,hr,hdead⟩ := Option.map_eq_some_iff.mp hstatus
  have hrun : Runs Timely (.empty 0) s := Runs.start.drive hs
  obtain ⟨_,_,hcounts,_,_⟩ := outbox_delivers hrun .start hr
  have hsent : r.status≠.SENT := by rw [hdead]; decide
  obtain ⟨hpositive,hlimit⟩ := (hcounts hsent).2.mp hdead
  exact ⟨s,r,hrun,hr,hdead,hfailures,hpositive,hlimit⟩

/-- The late dispatcher fails after the other one succeeded: the sent event is pending again. Or
both fail, and two failures of two do not kill it. -/
theorem late_failure : (¬∀ t s s', Runs (fun _ _ => True) (.empty t) s →
      Runs (fun _ _ => True) s s' → ∀ id, statusOf s id=some .SENT → statusOf s' id=some .SENT) ∧
    ¬∀ t s, Runs (fun _ _ => True) (.empty t) s → ∀ id, 0 < s.failures id →
      s.limit id ≤ s.failures id → statusOf s id=some .DEAD_LETTER := by
  constructor
  · intro h
    have hdrive : ∃ s s', drive (fun _ _ => True) (demoClaims {}++[.delivered 1]) (.empty 0)=some s ∧
        drive (fun _ _ => True) [.failed 0 []] s=some s' ∧ statusOf s 1=some .SENT ∧
        statusOf s' 1=some .PENDING := ⟨_,_,rfl,rfl,by decide,by decide⟩
    obtain ⟨s,s',hs,hs',hsent,hpending⟩ := hdrive
    have hstays := h 0 s s' (Runs.start.drive hs) (Runs.start.drive hs') 1 hsent
    rw [hpending] at hstays
    cases hstays
  · intro h
    have hdrive : ∃ s, drive (fun _ _ => True)
        (demoClaims {maxAttempts := some 2}++[.failed 1 [],.failed 0 []]) (.empty 0)=some s ∧
        s.failures 1=2 ∧ s.limit 1=2 ∧ statusOf s 1=some .PENDING :=
      ⟨_,rfl,by decide,by decide,by decide⟩
    obtain ⟨s,hs,hfailures,hlimit,hpending⟩ := hdrive
    have hdead := h 0 s (Runs.start.drive hs) 1 (by omega) (by omega)
    rw [hpending] at hdead
    cases hdead

end AardvarkWms.Messaging
