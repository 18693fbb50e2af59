import AardvarkWms.LoginBackoff
import Mathlib.Order.MinMax

/-! What the login backoff guarantees: of the locks for any interleaving of attempts, and of the failed
checks where the attempts are made one after another. -/
namespace AardvarkWms.LoginBackoff

/-- Neither a success nor a pause of more than the window. -/
def Event.continues : Event → Bool
  | .recorded withinWindow _ => withinWindow
  | .cleared => false
  | _ => true

/-- A lock or a success. -/
def Event.separates : Event → Bool
  | .recorded _ lockSeconds => 0 < lockSeconds
  | .cleared => true
  | _ => false

def Event.failedAt : Event → Option ℕ
  | .failedCheck time => some time
  | _ => none

def Event.isRecorded : Event → Bool
  | .recorded _ _ => true
  | _ => false

def failedTimes (log : List Event) : List ℕ := log.filterMap Event.failedAt

/-- No two attempts are under way together. -/
def State.isIdle (s : State) (i : ℕ) : Prop := s.attempt i=none ∨ s.attempt i=some .ended

def OneAtATime (cfg : Config) (s : State) : List Action → Prop
  | [] => True
  | a::as => (∀ i, a=.login i → ∀ j, s.isIdle j) ∧ OneAtATime cfg (s.act cfg a) as

/-- Between two locks, without a success, at most `threshold` checks fail within a window. -/
def Bounded (cfg : Config) (events : List Event) : Prop :=
  (∀ e∈events, e.separates=false) → ∀ t₀, (∀ t∈failedTimes events, t₀≤t ∧ t≤t₀+cfg.windowMs) →
    (failedTimes events).length≤cfg.threshold

section Locks
variable {cfg : Config} {s : State}

theorem lockSeconds_le (cfg : Config) (n : ℕ) : cfg.lockSeconds n≤cfg.maxSeconds := by
  unfold Config.lockSeconds
  split
  · exact min_le_left _ _
  · exact Nat.zero_le _

theorem lockSeconds_mono (cfg : Config) {m n : ℕ} (h : m≤n) : cfg.lockSeconds m≤cfg.lockSeconds n := by
  unfold Config.lockSeconds
  split
  next hm =>
    rw [if_pos (hm.trans h)]
    have hpow : 2^(m-cfg.threshold)≤2^(n-cfg.threshold) :=
      Nat.pow_le_pow_right (by decide) (Nat.sub_le_sub_right h _)
    exact min_le_min_left _ (Nat.mul_le_mul_left _ hpow)
  next => exact Nat.zero_le _

theorem lt_threshold {n : ℕ} (h : ¬0 < cfg.lockSeconds n) : n < cfg.threshold := by
  by_contra hge
  apply h
  unfold Config.lockSeconds
  rw [if_pos (Nat.le_of_not_lt hge)]
  have hmax := cfg.baseSeconds_pos.trans_le cfg.baseSeconds_le
  have hbase : 0 < cfg.baseSeconds*2^(n-cfg.threshold) :=
    Nat.mul_pos cfg.baseSeconds_pos (Nat.two_pow_pos _)
  exact lt_min hmax hbase

/-- What one statement of an attempt does to the row and to the log. -/
inductive Logged (cfg : Config) (s s' : State) : Prop
  | same : s'.row=s.row → s'.log=s.log → Logged cfg s s'
  | noted (e : Event) : s'.row=s.row → e.isRecorded=false → e≠.cleared → s'.log=e::s.log → Logged cfg s s'
  | recorded (now : ℕ) : s'.row=some (cfg.recorded s.row now) →
      s'.log=.recorded (cfg.withinWindow s.row now) (cfg.lockSeconds (cfg.failedCount s.row now))::s.log →
      Logged cfg s s'
  | cleared : s'.row=none → s'.log=.cleared::s.log → Logged cfg s s'

theorem logged_advance (i : ℕ) (check : LoginCheck) : Logged cfg s (s.advance cfg i check) := by
  unfold State.advance
  split
  · exact .same rfl rfl
  · exact .same rfl rfl
  · split <;> exact .same rfl rfl
  · split
    · exact .noted (.failedCheck s.clock) rfl rfl nofun rfl
    · split <;> exact .same rfl rfl
  · exact .same rfl rfl
  next now _ =>
    split
    · exact .recorded now rfl rfl
    · exact .same rfl rfl
  next now _ =>
    split
    · exact .noted .lost rfl rfl nofun rfl
    · exact .recorded now rfl rfl
  · exact .cleared rfl rfl

theorem logged_act (a : Action) : Logged cfg s (s.act cfg a) := by
  cases a with
  | wait ms => exact .same rfl rfl
  | login i =>
    simp only [State.act]
    split <;> exact .same rfl rfl
  | advance i check => exact logged_advance i check

/-- The count of the row bounds every lock since the last success or pause. -/
structure Locks (cfg : Config) (s : State) : Prop where
  cap : ∀ c d, .recorded c d∈s.log → d≤cfg.maxSeconds
  since : ∀ mid c d post, s.log=mid++.recorded c d::post → (∀ e∈mid, e.continues=true) →
    ∃ r, s.row=some r ∧ d≤cfg.lockSeconds r.failedCount
  grow : ∀ pre d' mid c d post, s.log=pre++.recorded true d'::(mid++.recorded c d::post) →
    (∀ e∈mid, e.continues=true) → d≤d'

theorem Locks.act (h : Locks cfg s) {s' : State} (hs' : Logged cfg s s') : Locks cfg s' := by
  cases hs' with
  | same hrow hlog =>
    refine ⟨?_,?_,?_⟩
    · rw [hlog]; exact h.cap
    · rw [hlog,hrow]; exact h.since
    · rw [hlog]; exact h.grow
  | noted e hrow hrecorded hcleared hlog =>
    refine ⟨?_,?_,?_⟩
    · intro c d hmem
      rw [hlog] at hmem
      cases List.mem_cons.mp hmem with
      | inl hnew => rw [← hnew] at hrecorded; cases hrecorded
      | inr hold => exact h.cap c d hold
    · intro mid c d post hsplit hmid
      rw [hlog] at hsplit
      rw [hrow]
      cases mid with
      | nil => rw [(List.cons.inj hsplit).1] at hrecorded; cases hrecorded
      | cons e' mid =>
        exact h.since mid c d post (List.cons.inj hsplit).2 fun x hx => hmid x (List.mem_cons_of_mem _ hx)
    · intro pre d' mid c d post hsplit hmid
      rw [hlog] at hsplit
      cases pre with
      | nil => rw [(List.cons.inj hsplit).1] at hrecorded; cases hrecorded
      | cons e' pre => exact h.grow pre d' mid c d post (List.cons.inj hsplit).2 hmid
  | recorded now hrow hlog =>
    refine ⟨?_,?_,?_⟩
    · intro c d hmem
      rw [hlog] at hmem
      cases List.mem_cons.mp hmem with
      | inl hnew =>
        cases hnew
        exact lockSeconds_le _ _
      | inr hold => exact h.cap c d hold
    · intro mid c d post hsplit hmid
      rw [hlog] at hsplit
      refine ⟨_,hrow,?_⟩
      cases mid with
      | nil =>
        cases (List.cons.inj hsplit).1
        exact le_rfl
      | cons e mid =>
        obtain ⟨rfl,hrest⟩ := List.cons.inj hsplit
        obtain ⟨r,hr,hd⟩ := h.since mid c d post hrest fun x hx => hmid x (List.mem_cons_of_mem _ hx)
        have hwithin : cfg.withinWindow s.row now=true := hmid _ List.mem_cons_self
        have hcount : (cfg.recorded s.row now).failedCount=r.failedCount+1 := by
          show cfg.failedCount s.row now=_
          rw [Config.failedCount,if_pos hwithin,hr]
          rfl
        rw [hcount]
        exact hd.trans (lockSeconds_mono cfg (Nat.le_succ _))
    · intro pre d' mid c d post hsplit hmid
      rw [hlog] at hsplit
      cases pre with
      | nil =>
        obtain ⟨hnew,hrest⟩ := List.cons.inj hsplit
        obtain ⟨hwithin,rfl⟩ := Event.recorded.inj hnew
        obtain ⟨r,hr,hd⟩ := h.since mid c d post hrest hmid
        rw [Config.failedCount,if_pos hwithin,hr]
        exact hd.trans (lockSeconds_mono cfg (Nat.le_succ _))
      | cons e pre => exact h.grow pre d' mid c d post (List.cons.inj hsplit).2 hmid
  | cleared hrow hlog =>
    refine ⟨?_,?_,?_⟩
    · intro c d hmem
      rw [hlog] at hmem
      cases List.mem_cons.mp hmem with
      | inl hnew => cases hnew
      | inr hold => exact h.cap c d hold
    · intro mid c d post hsplit hmid
      rw [hlog] at hsplit
      cases mid with
      | nil => cases (List.cons.inj hsplit).1
      | cons e mid =>
        obtain ⟨rfl,-⟩ := List.cons.inj hsplit
        cases hmid _ List.mem_cons_self
    · intro pre d' mid c d post hsplit hmid
      rw [hlog] at hsplit
      cases pre with
      | nil => cases (List.cons.inj hsplit).1
      | cons e pre => exact h.grow pre d' mid c d post (List.cons.inj hsplit).2 hmid

theorem Locks.run (h : Locks cfg s) (as : List Action) : Locks cfg (s.run cfg as) := by
  induction as generalizing s with
  | nil => exact h
  | cons a as ih => exact ih (h.act (logged_act a))

theorem locks_initial (cfg : Config) (clock : ℕ) (row : Option AuthLoginAttempt) :
    Locks cfg (.initial clock row) := by
  refine ⟨fun _ _ h => (List.not_mem_nil h).elim,?_,?_⟩
  · intro mid c d post hsplit
    cases mid <;> cases hsplit
  · intro pre d' mid c d post hsplit
    cases pre <;> cases hsplit

end Locks

/-! ### One attempt after another -/

section Serial
variable {cfg : Config} {s s' : State} {p : Option Phase}

/-- The attempt has failed and is still to be recorded. -/
def Phase.isPending : Phase → Bool
  | .recordFailedLoginAttempt | .selectForUpdate _ | .insert _ => true
  | _ => false

/-- Only this attempt is under way, or none. -/
def State.Alone (s : State) : Option Phase → Prop
  | none => ∀ j, s.isIdle j
  | some p => p≠.ended ∧ ∃ i, s.attempt i=some p ∧ ∀ j, j≠i → s.isIdle j

/-- What the row has counted of the failed checks since `t₀`, but for one that is still to be recorded. -/
def Counted (cfg : Config) (s : State) (pending : Bool) (events : List Event) (t₀ : ℕ) : Prop :=
  let n := (failedTimes events).length
  if pending then
    (∀ t∈failedTimes events, t≤t₀+cfg.windowMs) → n≤1 ∨
      ∃ r, s.row=some r ∧ n≤r.failedCount+1 ∧ r.failedCount < cfg.threshold ∧ t₀≤r.lastFailedAt
  else s.clock≤t₀+cfg.windowMs → n=0 ∨
    ∃ r, s.row=some r ∧ n≤r.failedCount ∧ r.failedCount < cfg.threshold ∧ t₀≤r.lastFailedAt

/-- The attempt's own reading of the clock. -/
def Phase.stamp : Phase → Option ℕ
  | .selectForUpdate now | .insert now => some now
  | _ => none

def pendingOf (p : Option Phase) : Bool := p.any Phase.isPending

structure Serial (cfg : Config) (s : State) (p : Option Phase) : Prop where
  alone : s.Alone p
  times : ∀ t∈failedTimes s.log, t ≤ s.clock
  stamped : ∀ now, p.bind Phase.stamp=some now → now ≤ s.clock ∧ ∀ t∈failedTimes s.log, t≤now
  fresh : ∀ now, p=some (.insert now) → s.row=none
  nothingLost : Event.lost∉s.log
  all : (failedTimes s.log).length=s.log.countP Event.isRecorded+(pendingOf p).toNat
  counted : ∀ events, events<+:s.log → (∀ e∈events, e.separates=false) →
    ∀ t₀, (∀ t∈failedTimes events, t₀≤t) → Counted cfg s (pendingOf p) events t₀
  bounded : ∀ events, events<:+:s.log → Bounded cfg events

theorem alone_idle (h : s.Alone p) (hidle : ∀ i, s.isIdle i) : p=none := by
  cases p with
  | none => rfl
  | some q =>
    obtain ⟨hq,j,hj,-⟩ := h
    cases hidle j with
    | inl hnone => rw [hnone] at hj; cases hj
    | inr hdone => rw [hdone] at hj; exact (hq (Option.some.inj hj).symm).elim

theorem alone_phase {i : ℕ} {q : Phase} (h : s.Alone p) (hi : s.attempt i=some q) (hq : q≠.ended) :
    p=some q := by
  have hbusy : ¬s.isIdle i := by
    intro hidle
    cases hidle with
    | inl hnone => rw [hnone] at hi; cases hi
    | inr hdone => rw [hdone] at hi; exact hq (Option.some.inj hi).symm
  cases p with
  | none => exact (hbusy (h i)).elim
  | some p =>
    obtain ⟨-,j,hj,hothers⟩ := h
    by_cases hij : i=j
    · subst hij
      exact hj.symm.trans hi
    · exact (hbusy (hothers i hij)).elim

theorem idle_others {i : ℕ} {p q : Phase} (h : s.Alone (some p)) (hi : s.attempt i=some p)
    (hs' : s'.attempt=Function.update s.attempt i (some q)) : ∀ j, j≠i → s'.isIdle j := by
  obtain ⟨hended,k,hk,hothers⟩ := h
  have hsame : i=k := by
    by_contra hne
    cases hothers i hne with
    | inl hnone => rw [hnone] at hi; cases hi
    | inr hdone => rw [hdone] at hi; exact hended (Option.some.inj hi).symm
  subst hsame
  intro j hj
  unfold State.isIdle
  rw [hs',Function.update_of_ne hj]
  exact hothers j hj

theorem alone_next {i : ℕ} {p q : Phase} (h : s.Alone (some p)) (hi : s.attempt i=some p)
    (hs' : s'.attempt=Function.update s.attempt i (some q)) (hq : q≠.ended) : s'.Alone (some q) :=
  ⟨hq,i,by rw [hs',Function.update_self],idle_others h hi hs'⟩

theorem alone_ended {i : ℕ} {p : Phase} (h : s.Alone (some p)) (hi : s.attempt i=some p)
    (hs' : s'.attempt=Function.update s.attempt i (some .ended)) : s'.Alone none := by
  intro j
  by_cases hj : j=i
  · subst hj
    exact Or.inr (by rw [hs',Function.update_self])
  · exact idle_others h hi hs' j hj

theorem Serial.move (h : Serial cfg s p) {p' : Option Phase} (halone : s'.Alone p')
    (hclock : s.clock ≤ s'.clock) (hrow : s'.row=s.row) (hlog : s'.log=s.log)
    (hpending : pendingOf p'=pendingOf p)
    (hstamp : ∀ now, p'.bind Phase.stamp=some now → p.bind Phase.stamp=some now ∨ now=s.clock)
    (hfresh : ∀ now, p'=some (.insert now) → s.row=none) : Serial cfg s' p' := by
  refine ⟨halone,?_,?_,?_,?_,?_,?_,?_⟩
  · rw [hlog]
    exact fun t ht => (h.times t ht).trans hclock
  · rw [hlog]
    intro now hnow
    cases hstamp now hnow with
    | inl hold => exact ⟨(h.stamped now hold).1.trans hclock,(h.stamped now hold).2⟩
    | inr hnew => exact ⟨hnew ▸ hclock,hnew ▸ h.times⟩
  · rw [hrow]
    exact hfresh
  · rw [hlog]
    exact h.nothingLost
  · rw [hlog,hpending]
    exact h.all
  · rw [hlog,hpending]
    intro events hevents hsep t₀ hfrom
    have hold := h.counted events hevents hsep t₀ hfrom
    unfold Counted at hold ⊢
    rw [hrow]
    split
    next hp =>
      rw [if_pos hp] at hold
      exact hold
    next hp =>
      rw [if_neg hp] at hold
      exact fun hwithin => hold (hclock.trans hwithin)
  · rw [hlog]
    exact h.bounded

theorem bounded_cons {e : Event} {log : List Event} (h : ∀ events, events<:+:log → Bounded cfg events)
    (hnew : ∀ events, events<+:log → Bounded cfg (e::events)) :
    ∀ events, events<:+:e::log → Bounded cfg events := by
  intro events hevents
  cases List.infix_cons_iff.mp hevents with
  | inl hprefix =>
    cases List.prefix_cons_iff.mp hprefix with
    | inl hnil =>
      subst hnil
      exact h [] (List.nil_infix)
    | inr hcons =>
      obtain ⟨rest,rfl,hrest⟩ := hcons
      exact hnew rest hrest
  | inr hinfix => exact h events hinfix

theorem Bounded.cons {e : Event} {events : List Event} (h : Bounded cfg events)
    (he : e.failedAt=none) : Bounded cfg (e::events) := by
  intro hsep t₀ htimes
  have hsame : failedTimes (e::events)=failedTimes events := List.filterMap_cons_none he
  rw [hsame] at htimes ⊢
  exact h (fun x hx => hsep x (List.mem_cons_of_mem _ hx)) t₀ htimes

theorem failedTimes_subset {events log : List Event} (h : events<+:log) :
    ∀ t∈failedTimes events, t∈failedTimes log :=
  fun _ ht => (h.sublist.filterMap Event.failedAt).subset ht

theorem Serial.fail (h : Serial cfg s p) (hp : pendingOf p=false)
    (halone : s'.Alone (some .recordFailedLoginAttempt)) (hclock : s'.clock=s.clock) (hrow : s'.row=s.row)
    (hlog : s'.log=.failedCheck s.clock::s.log) :
    Serial cfg s' (some .recordFailedLoginAttempt) := by
  have hcount : ∀ events t₀, events<+:s.log → (∀ e∈events, e.separates=false) →
      (∀ t∈failedTimes events, t₀≤t) → s.clock≤t₀+cfg.windowMs → (failedTimes events).length=0 ∨
      ∃ r, s.row=some r ∧ (failedTimes events).length≤r.failedCount ∧ r.failedCount < cfg.threshold ∧
        t₀≤r.lastFailedAt := by
    intro events t₀ hevents hsep hfrom
    have hold := h.counted events hevents hsep t₀ hfrom
    rw [Counted,hp] at hold
    exact hold
  refine ⟨halone,?_,nofun,nofun,?_,?_,?_,?_⟩
  · intro t ht
    rw [hlog] at ht
    rw [hclock]
    cases List.mem_cons.mp ht with
    | inl hnew => exact hnew.le
    | inr hold => exact h.times t hold
  · rw [hlog]
    intro hlost
    cases List.mem_cons.mp hlost with
    | inl hnew => cases hnew
    | inr hold => exact h.nothingLost hold
  · have hall := h.all
    rw [hp] at hall
    rw [hlog]
    show (failedTimes s.log).length+1=s.log.countP Event.isRecorded+1
    rw [hall]
    rfl
  · intro events hevents hsep t₀ hfrom
    rw [hlog] at hevents
    cases List.prefix_cons_iff.mp hevents with
    | inl hnil =>
      subst hnil
      exact fun _ => Or.inl (Nat.zero_le _)
    | inr hcons =>
      obtain ⟨rest,rfl,hrest⟩ := hcons
      intro hwithin
      have hnow : s.clock≤t₀+cfg.windowMs := hwithin s.clock List.mem_cons_self
      have hlength : (failedTimes (.failedCheck s.clock::rest)).length=(failedTimes rest).length+1 := rfl
      rw [hlength,hrow]
      cases hcount rest t₀ hrest (fun e he => hsep e (List.mem_cons_of_mem _ he))
          (fun t ht => hfrom t (List.mem_cons_of_mem _ ht)) hnow with
      | inl hnone => exact Or.inl (by omega)
      | inr hsome =>
        obtain ⟨r,hr,hle,hless,hlast⟩ := hsome
        exact Or.inr ⟨r,hr,by omega,hless,hlast⟩
  · rw [hlog]
    refine bounded_cons h.bounded fun rest hrest hsep t₀ htimes => ?_
    have hnow : s.clock≤t₀+cfg.windowMs := (htimes s.clock List.mem_cons_self).2
    have hlength : (failedTimes (.failedCheck s.clock::rest)).length=(failedTimes rest).length+1 := rfl
    have hthreshold := cfg.threshold_ge
    rw [hlength]
    cases hcount rest t₀ hrest (fun e he => hsep e (List.mem_cons_of_mem _ he))
        (fun t ht => (htimes t (List.mem_cons_of_mem _ ht)).1) hnow with
    | inl hnone => omega
    | inr hsome =>
      obtain ⟨r,-,hle,hless,-⟩ := hsome
      omega

theorem Serial.record (h : Serial cfg s p) (hp : pendingOf p=true) {now : ℕ}
    (hstamp : p.bind Phase.stamp=some now) (halone : s'.Alone none) (hclock : s'.clock=s.clock)
    (hrow : s'.row=some (cfg.recorded s.row now))
    (hlog : s'.log=
      .recorded (cfg.withinWindow s.row now) (cfg.lockSeconds (cfg.failedCount s.row now))::s.log) :
    Serial cfg s' none := by
  obtain ⟨hnow,hlast⟩ := h.stamped now hstamp
  refine ⟨halone,?_,nofun,nofun,?_,?_,?_,?_⟩
  · rw [hlog,hclock]
    exact h.times
  · rw [hlog]
    intro hlost
    cases List.mem_cons.mp hlost with
    | inl hnew => cases hnew
    | inr hold => exact h.nothingLost hold
  · have hall := h.all
    rw [hp] at hall
    rw [hlog,List.countP_cons_of_pos rfl]
    exact hall
  · intro events hevents hsep t₀ hfrom
    rw [hlog] at hevents
    cases List.prefix_cons_iff.mp hevents with
    | inl hnil =>
      subst hnil
      exact fun _ => Or.inl rfl
    | inr hcons =>
      obtain ⟨rest,rfl,hrest⟩ := hcons
      intro hwithin
      rw [hclock] at hwithin
      have hless : cfg.failedCount s.row now < cfg.threshold := by
        have hlock := hsep _ List.mem_cons_self
        exact lt_threshold (by simpa [Event.separates] using hlock)
      have hsame : failedTimes (.recorded (cfg.withinWindow s.row now)
          (cfg.lockSeconds (cfg.failedCount s.row now))::rest)=failedTimes rest := rfl
      rw [hsame] at hfrom ⊢
      cases htimes : failedTimes rest with
      | nil => exact Or.inl rfl
      | cons t ts =>
        have ht : t∈failedTimes rest := by rw [htimes]; exact List.mem_cons_self
        have hfirst : t₀≤now := (hfrom t ht).trans (hlast t (failedTimes_subset hrest t ht))
        refine Or.inr ⟨_,hrow,?_,hless,hfirst⟩
        rw [← htimes]
        have hold := h.counted rest hrest (fun e he => hsep e (List.mem_cons_of_mem _ he)) t₀ hfrom
        rw [Counted,hp] at hold
        have hbound := hold fun t ht => (h.times t (failedTimes_subset hrest t ht)).trans hwithin
        show (failedTimes rest).length≤cfg.failedCount s.row now
        unfold Config.failedCount
        cases hbound with
        | inl hone =>
          split
          · omega
          · exact hone
        | inr hsome =>
          obtain ⟨r,hr,hle,-,hlastFailed⟩ := hsome
          have hin : cfg.withinWindow s.row now=true := by
            rw [hr]
            show decide (now≤r.lastFailedAt+cfg.windowMs)=true
            exact decide_eq_true (by omega)
          rw [if_pos hin,hr]
          exact hle
  · rw [hlog]
    exact bounded_cons h.bounded fun rest hrest => (h.bounded rest hrest.isInfix).cons rfl

theorem Serial.clear (h : Serial cfg s p) (hp : pendingOf p=false) (halone : s'.Alone none)
    (hclock : s'.clock=s.clock) (hlog : s'.log=.cleared::s.log) : Serial cfg s' none := by
  refine ⟨halone,?_,nofun,nofun,?_,?_,?_,?_⟩
  · rw [hlog,hclock]
    exact h.times
  · rw [hlog]
    intro hlost
    cases List.mem_cons.mp hlost with
    | inl hnew => cases hnew
    | inr hold => exact h.nothingLost hold
  · have hall := h.all
    rw [hp] at hall
    rw [hlog]
    exact hall
  · intro events hevents hsep t₀ hfrom
    rw [hlog] at hevents
    cases List.prefix_cons_iff.mp hevents with
    | inl hnil =>
      subst hnil
      exact fun _ => Or.inl rfl
    | inr hcons =>
      obtain ⟨rest,rfl,-⟩ := hcons
      cases hsep _ List.mem_cons_self
  · rw [hlog]
    exact bounded_cons h.bounded fun rest hrest => (h.bounded rest hrest.isInfix).cons rfl

theorem Serial.advance (h : Serial cfg s p) (i : ℕ) (check : LoginCheck) :
    ∃ p', Serial cfg (s.advance cfg i check) p' := by
  unfold State.advance
  split
  · exact ⟨p,h⟩
  · exact ⟨p,h⟩
  next hi =>
    obtain rfl := alone_phase h.alone hi nofun
    split
    · exact ⟨none,h.move (alone_ended h.alone hi rfl) le_rfl rfl rfl rfl nofun nofun⟩
    · exact ⟨some .checks,h.move (alone_next h.alone hi rfl nofun) le_rfl rfl rfl rfl nofun nofun⟩
  next hi =>
    obtain rfl := alone_phase h.alone hi nofun
    split
    · exact ⟨_,h.fail rfl (alone_next h.alone hi rfl nofun) rfl rfl rfl⟩
    · split
      · exact ⟨some .clearFailedLoginAttempts,
          h.move (alone_next h.alone hi rfl nofun) le_rfl rfl rfl rfl nofun nofun⟩
      · exact ⟨none,h.move (alone_ended h.alone hi rfl) le_rfl rfl rfl rfl nofun nofun⟩
  next hi =>
    obtain rfl := alone_phase h.alone hi nofun
    refine ⟨some (.selectForUpdate s.clock),
      h.move (alone_next h.alone hi rfl nofun) le_rfl rfl rfl rfl (fun now hnow => ?_) nofun⟩
    exact Or.inr (Option.some.inj hnow).symm
  next now hi =>
    obtain rfl := alone_phase h.alone hi nofun
    split
    · exact ⟨none,h.record rfl rfl (alone_ended h.alone hi rfl) rfl rfl rfl⟩
    next hnone =>
      have hrow : s.row=none := by simpa using hnone
      exact ⟨some (.insert now),h.move (alone_next h.alone hi rfl nofun) le_rfl rfl rfl rfl
        (fun now' hnow => Or.inl hnow) fun _ _ => hrow⟩
  next now hi =>
    obtain rfl := alone_phase h.alone hi nofun
    -- nobody else has inserted the row meanwhile
    have hrow := h.fresh now rfl
    rw [if_neg (by rw [hrow]; decide)]
    exact ⟨none,h.record rfl rfl (alone_ended h.alone hi rfl) rfl rfl rfl⟩
  next hi =>
    obtain rfl := alone_phase h.alone hi nofun
    exact ⟨none,h.clear rfl (alone_ended h.alone hi rfl) rfl rfl⟩

theorem Serial.act (h : Serial cfg s p) (a : Action) (hone : ∀ i, a=.login i → ∀ j, s.isIdle j) :
    ∃ p', Serial cfg (s.act cfg a) p' := by
  cases a with
  | wait ms =>
    exact ⟨p,h.move h.alone (Nat.le_add_right _ _) rfl rfl rfl (fun _ hnow => Or.inl hnow) h.fresh⟩
  | login i =>
    simp only [State.act]
    split
    · exact ⟨p,h⟩
    · have hidle := hone i rfl
      obtain rfl := alone_idle h.alone hidle
      refine ⟨some .assertLoginBackoffAllowsAttempt,h.move ⟨nofun,i,Function.update_self _ _ _,?_⟩
        le_rfl rfl rfl rfl nofun nofun⟩
      intro j hj
      show Function.update s.attempt i _ j=none ∨ Function.update s.attempt i _ j=some .ended
      rw [Function.update_of_ne hj]
      exact hidle j
  | advance i check => exact h.advance i check

theorem Serial.run (h : Serial cfg s p) (as : List Action) (hone : OneAtATime cfg s as) :
    ∃ p', Serial cfg (s.run cfg as) p' := by
  induction as generalizing s p with
  | nil => exact ⟨p,h⟩
  | cons a as ih =>
    obtain ⟨p',h'⟩ := h.act a hone.1
    exact ih h' hone.2

theorem serial_initial (cfg : Config) (clock : ℕ) (row : Option AuthLoginAttempt) :
    Serial cfg (.initial clock row) none := by
  refine ⟨fun _ => Or.inl rfl,fun _ h => (List.not_mem_nil h).elim,nofun,nofun,
    fun h => List.not_mem_nil h,rfl,?_,?_⟩
  · intro events hevents _ t₀ _
    rw [List.prefix_nil.mp hevents]
    exact fun _ => Or.inl rfl
  · intro events hevents
    rw [List.infix_nil.mp hevents]
    exact fun _ _ _ => Nat.zero_le _

end Serial

/-- For any interleaving, no lock is longer than the cap, and none is shorter than an earlier one unless a
success or a pause of more than the window comes between. Where one attempt is made after another, no
failure is lost, and at most `threshold` checks fail between two locks within a window. -/
theorem login_backoff (cfg : Config) (clock : ℕ) (row : Option AuthLoginAttempt) (as : List Action) :
    (∀ c d, .recorded c d∈((State.initial clock row).run cfg as).log → d≤cfg.maxSeconds) ∧
    (∀ pre d' mid c d post, ((State.initial clock row).run cfg as).log=
        pre++.recorded true d'::(mid++.recorded c d::post) →
      (∀ e∈mid, e.continues=true) → d≤d') ∧
    (OneAtATime cfg (.initial clock row) as →
      Event.lost∉((State.initial clock row).run cfg as).log ∧
      ((∀ i, ((State.initial clock row).run cfg as).isIdle i) →
        (failedTimes ((State.initial clock row).run cfg as).log).length=
          ((State.initial clock row).run cfg as).log.countP Event.isRecorded) ∧
      ∀ events, events<:+:((State.initial clock row).run cfg as).log → Bounded cfg events) := by
  have hlocks := (locks_initial cfg clock row).run as
  refine ⟨hlocks.cap,hlocks.grow,fun hone => ?_⟩
  obtain ⟨p,h⟩ := (serial_initial cfg clock row).run as hone
  refine ⟨h.nothingLost,fun hidle => ?_,h.bounded⟩
  obtain rfl := alone_idle h.alone hidle
  exact h.all

def demoConfig : Config := ⟨2,1,4,60,by decide,by decide,by decide⟩

def demoRun (as : List Action) : State := (State.initial 0 none).run demoConfig as

theorem oneAtATime_advance {cfg : Config} (s : State) (i : ℕ) (check : LoginCheck) (n : ℕ) :
    OneAtATime cfg s (List.replicate n (.advance i check)) := by
  induction n generalizing s with
  | zero => trivial
  | succ n ih => exact ⟨nofun,ih _⟩

/-- A whole attempt with a wrong password. -/
def failOnce (i : ℕ) : List Action := .login i::List.replicate 5 (.advance i .invalidPassword)

theorem login_backoff_demo : Event.lost∉(demoRun (failOnce 0)).log ∧
    (failedTimes (demoRun (failOnce 0)).log).length=1 := by
  have hone : OneAtATime demoConfig (.initial 0 none) (failOnce 0) :=
    ⟨fun _ _ _ => Or.inl rfl,oneAtATime_advance _ 0 .invalidPassword 5⟩
  exact ⟨((login_backoff demoConfig 0 none (failOnce 0)).2.2 hone).1,by decide +kernel⟩

/-- Five failures one after another, with a pause of more than the window. -/
def pausing : List Action :=
  failOnce 0++failOnce 1++[.wait 1000]++failOnce 2++[.wait 61000]++failOnce 3++failOnce 4

/-- Attempts that have all passed the check of the lock before one of them is recorded. -/
def together (n : ℕ) : List Action :=
  (List.range n).map .login++(List.range n).map (.advance · .invalidPassword)++
    (List.range n).map (.advance · .invalidPassword)

/-- Locks get shorter after a pause, a failure is lost where two attempts insert the first row, and three
checks fail with a threshold of two. -/
theorem backoff_exceptions :
    (∃ as pre d' mid d post, (demoRun as).log=pre++.recorded true d'::(mid++.recorded true d::post) ∧
      Event.cleared∉mid ∧ 0 < d' ∧ d' < d) ∧
    (∃ as, Event.lost∈(demoRun as).log) ∧
    ∃ as events, events<:+:(demoRun as).log ∧ ¬Bounded demoConfig events := by
  refine ⟨⟨pausing,[],1,[.failedCheck 62000,.recorded false 0,.failedCheck 62000],2,
    [.failedCheck 1000,.recorded true 1,.failedCheck 0,.recorded false 0,.failedCheck 0],
    by decide +kernel,by decide,by decide,by decide⟩,?_,?_⟩
  · refine ⟨together 2++[.advance 0 .succeeded,.advance 1 .succeeded,.advance 0 .succeeded,
      .advance 1 .succeeded,.advance 0 .succeeded,.advance 1 .succeeded],by decide +kernel⟩
  · refine ⟨together 3,[.failedCheck 0,.failedCheck 0,.failedCheck 0],?_,fun hbounded => ?_⟩
    · have hlog : (demoRun (together 3)).log=[.failedCheck 0,.failedCheck 0,.failedCheck 0] := by
        decide +kernel
      rw [hlog]
    · have hthree := hbounded (by decide) 0 (by decide)
      exact absurd hthree (by decide)

end AardvarkWms.LoginBackoff
