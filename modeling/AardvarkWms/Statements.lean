import Mathlib.Data.List.Basic
import Mathlib.Data.List.Infix

/-! Programs whose statements take effect one by one, run side by side with each other and with
whatever else changes the state. -/
namespace Statements

structure Interface where
  Statement : Type
  Answer : Statement → Type
  Err : Type

inductive Program (I : Interface) (α : Type) : Type
  | done (a : α)
  | refuse (e : I.Err)
  | run (s : I.Statement) (next : I.Answer s → Program I α)

namespace Program
variable {I : Interface} {α β : Type}

def bind : Program I α → (α → Program I β) → Program I β
  | .done a, f => f a
  | .refuse e, _ => .refuse e
  | .run s k, f => .run s fun r => (k r).bind f

instance monad : Monad (Program I) where
  pure := .done
  bind := bind

def statement (s : I.Statement) : Program I (I.Answer s) := .run s .done

def require (p : Prop) [Decidable p] (e : I.Err) : Program I Unit :=
  if p then .done () else .refuse e

def demand (o : Option α) (e : I.Err) : Program I α :=
  match o with
  | some a => .done a
  | none => .refuse e

def Ended : Program I α → Prop
  | .run _ _ => False
  | _ => True

@[simp] theorem bind_eq (p : Program I α) (f : α → Program I β) : (p >>= f)=p.bind f := rfl

@[simp] theorem pure_eq (a : α) : (pure a : Program I α)=.done a := rfl

theorem bind_assoc {γ : Type} (p : Program I α) (f : α → Program I β) (g : β → Program I γ) :
    (p.bind f).bind g=p.bind fun a => (f a).bind g := by
  induction p with
  | done a => rfl
  | refuse e => rfl
  | run s k ih =>
    simp only [bind]
    exact congrArg _ (funext ih)

end Program

/-- Where a statement may run, and what it answers and leaves there. -/
structure Semantics (I : Interface) (State : Type) where
  Ready : I.Statement → State → Prop
  exec : (s : I.Statement) → State → Except I.Err (I.Answer s × State)

variable {I : Interface} {State Op : Type}

/-- A call: what is left of it, and the statements it has made, the last one first. -/
structure Call (I : Interface) (Op : Type) where
  op : Op
  rest : Program I Unit
  made : List I.Statement

structure System (I : Interface) (State Op : Type) where
  state : State
  calls : List (Call I Op)

inductive Event (Op : Type)
  | begin (op : Op)
  | statement (i : ℕ)
  | lose (i : ℕ)
  | outside

/-- Any call may begin, make its next statement or be lost at any time. -/
inductive Step (S : Semantics I State) (prog : Op → Program I Unit) (outside : State → State → Prop) :
    System I State Op → Event Op → System I State Op → Prop
  | begin {s} (op : Op) : Step S prog outside s (.begin op) ⟨s.state,s.calls++[⟨op,prog op,[]⟩]⟩
  | statement {s c st next a d} (i : ℕ) : s.calls[i]?=some c → c.rest=.run st next →
      S.Ready st s.state → S.exec st s.state=.ok (a,d) →
      Step S prog outside s (.statement i) ⟨d,s.calls.set i ⟨c.op,next a,st::c.made⟩⟩
  | fails {s c st next e} (i : ℕ) : s.calls[i]?=some c → c.rest=.run st next →
      S.Ready st s.state → S.exec st s.state=.error e →
      Step S prog outside s (.statement i) ⟨s.state,s.calls.set i ⟨c.op,.refuse e,c.made⟩⟩
  | lose {s c st next} (i : ℕ) (e : I.Err) : s.calls[i]?=some c → c.rest=.run st next →
      Step S prog outside s (.lose i) ⟨s.state,s.calls.set i ⟨c.op,.refuse e,c.made⟩⟩
  | outside {s d} : outside s.state d → Step S prog outside s .outside ⟨d,s.calls⟩

/-- The systems that runs of permitted steps reach. -/
inductive Run (S : Semantics I State) (prog : Op → Program I Unit) (outside : State → State → Prop)
    (ok : System I State Op → Event Op → Prop) (s₀ : System I State Op) : System I State Op → Prop
  | start : Run S prog outside ok s₀ s₀
  | step {s s' e} : Run S prog outside ok s₀ s → Step S prog outside s e s' → ok s e →
      Run S prog outside ok s₀ s'

section Rules
variable {S : Semantics I State} {prog : Op → Program I Unit} {outside : State → State → Prop}
  {ok : System I State Op → Event Op → Prop} {s₀ s s' : System I State Op} {e : Event Op}

/-- The invariant rule. -/
theorem Run.inv {Inv : System I State Op → Prop} (h : Run S prog outside ok s₀ s) (hstart : Inv s₀)
    (hstep : ∀ s e s', Inv s → Step S prog outside s e s' → ok s e → Inv s') : Inv s := by
  induction h with
  | start => exact hstart
  | step _ hs hok ih => exact hstep _ _ _ ih hs hok

variable (S) (R : State → State → Prop) (Ok : Op → List I.Statement → I.Statement → State → Prop)
  (Made : Op → List I.Statement → I.Statement → State → Prop)
  (End : Op → List I.Statement → State → Prop)

/-- Whatever changes the state within `R` meanwhile: each permitted statement that the program
comes to is made where `Made` says it is, and when it ends `End` holds of all that it made. -/
def Safe (op : Op) : List I.Statement → Program I Unit → State → Prop
  | made, .done _, d => End op made d
  | made, .refuse _, d => End op made d
  | made, .run st next, d => ∀ d', R d d' →
      (∀ e, S.exec st d'=.error e → End op made d') ∧
      (Ok op made st d' → Made op made st d' ∧ ∀ a d'', S.exec st d'=.ok (a,d'') →
        Safe op (st::made) (next a) d'')

/-- What a call that has ended has made stays so. -/
def Lasting : Prop := ∀ op made d d', R d d' → End op made d → End op made d'

variable {S R Ok Made End}

theorem Safe.later (htrans : ∀ d d' d'', R d d' → R d' d'' → R d d'') (hlast : Lasting R End)
    {op : Op} {made : List I.Statement} {p : Program I Unit} {d d' : State}
    (h : Safe S R Ok Made End op made p d) (hd : R d d') : Safe S R Ok Made End op made p d' := by
  cases p with
  | done a => exact hlast _ _ _ _ hd h
  | refuse e => exact hlast _ _ _ _ hd h
  | run st next => exact fun d'' hd'' => h d'' (htrans _ _ _ hd hd'')

/-- Each statement was made where `Made` says it is, in a state that the present one follows. -/
def Recorded (R : State → State → Prop) (Made : Op → List I.Statement → I.Statement → State → Prop)
    (c : Call I Op) (d : State) : Prop :=
  ∀ st before, st::before<:+c.made → ∃ d', R d' d ∧ Made c.op before st d'

theorem Recorded.later (htrans : ∀ d d' d'', R d d' → R d' d'' → R d d'') {c : Call I Op}
    {d d' : State} (h : Recorded R Made c d) (hd : R d d') : Recorded R Made c d' := by
  intro st before hmade
  obtain ⟨d₁,hR,hst⟩ := h st before hmade
  exact ⟨d₁,htrans _ _ _ hR hd,hst⟩

theorem Recorded.step {c c' : Call I Op} {d : State} {st : I.Statement} (hrefl : ∀ d, R d d)
    (h : Recorded R Made c d) (hop : c'.op=c.op) (hmade : c'.made=st::c.made)
    (hst : Made c.op c.made st d) : Recorded R Made c' d := by
  intro st' before hsuffix
  rw [hmade,List.suffix_cons_iff] at hsuffix
  rw [hop]
  rcases hsuffix with hwhole|hearlier
  · obtain ⟨rfl,rfl⟩ := List.cons.inj hwhole
    exact ⟨d,hrefl d,hst⟩
  · exact h st' before hearlier

/-- The call goes on safely, and what it made was made where it says. -/
structure Call.Good (S : Semantics I State) (R : State → State → Prop)
    (Ok Made : Op → List I.Statement → I.Statement → State → Prop)
    (End : Op → List I.Statement → State → Prop) (c : Call I Op) (d : State) : Prop where
  safe : Safe S R Ok Made End c.op c.made c.rest d
  recorded : Recorded R Made c d

/-- What permits a step permits the statement it makes, and loses only calls that may end. -/
structure Permits (ok : System I State Op → Event Op → Prop)
    (Ok : Op → List I.Statement → I.Statement → State → Prop)
    (End : Op → List I.Statement → State → Prop) : Prop where
  statement : ∀ {s i c st next}, ok s (.statement i) → s.calls[i]?=some c → c.rest=.run st next →
    Ok c.op c.made st s.state
  lose : ∀ {s i c st next}, ok s (.lose i) → s.calls[i]?=some c → c.rest=.run st next →
    End c.op c.made s.state

theorem mem_set {cs : List (Call I Op)} {i : ℕ} {c x : Call I Op} (h : x∈cs.set i c) :
    x∈cs ∨ x=c :=
  List.mem_or_eq_of_mem_set h

theorem Run.good (hrefl : ∀ d, R d d) (htrans : ∀ d d' d'', R d d' → R d' d'' → R d d'')
    (hlast : Lasting R End) (hprog : ∀ op d, Safe S R Ok Made End op [] (prog op) d)
    (hok : Permits ok Ok End)
    (hstep : ∀ s e s', Step S prog outside s e s' → ok s e → R s.state s'.state)
    (hstart : ∀ c∈s₀.calls, c.Good S R Ok Made End s₀.state)
    (h : Run S prog outside ok s₀ s) : ∀ c∈s.calls, c.Good S R Ok Made End s.state := by
  suffices hinv : ∀ s e s', (∀ c∈s.calls, c.Good S R Ok Made End s.state) →
      Step S prog outside s e s' → ok s e → ∀ c∈s'.calls, c.Good S R Ok Made End s'.state from
    h.inv hstart hinv
  intro s e s' hs hmove hperm
  have hR := hstep s e s' hmove hperm
  have hlater : ∀ c∈s.calls, c.Good S R Ok Made End s'.state := fun c hc =>
    ⟨(hs c hc).safe.later htrans hlast hR,(hs c hc).recorded.later htrans hR⟩
  cases hmove with
  | begin op =>
    intro c hc
    rcases List.mem_append.mp hc with hc|hc
    · exact hlater c hc
    · rw [List.mem_singleton.mp hc]
      refine ⟨hprog op _,?_⟩
      intro st before hsuffix
      have hlen := hsuffix.length_le
      simp at hlen
  | @statement c st next a d i hget hrest hready hexec =>
    intro x hx
    rcases mem_set hx with hx|rfl
    · exact hlater x hx
    · have hgood := hs c (List.mem_of_getElem? hget)
      have hsafe := hgood.safe
      rw [hrest] at hsafe
      obtain ⟨hmade,hnext⟩ := (hsafe s.state (hrefl _)).2 (hok.statement hperm hget hrest)
      have hrecorded : Recorded R Made (⟨c.op,next a,st::c.made⟩ : Call I Op) s.state :=
        hgood.recorded.step hrefl rfl rfl hmade
      exact ⟨hnext a d hexec,hrecorded.later htrans hR⟩
  | @fails c st next err i hget hrest hready hexec =>
    intro x hx
    rcases mem_set hx with hx|rfl
    · exact hlater x hx
    · have hgood := hs c (List.mem_of_getElem? hget)
      have hsafe := hgood.safe
      rw [hrest] at hsafe
      exact ⟨(hsafe s.state (hrefl _)).1 err hexec,hgood.recorded⟩
  | @lose c st next i err hget hrest =>
    intro x hx
    rcases mem_set hx with hx|rfl
    · exact hlater x hx
    · have hgood := hs c (List.mem_of_getElem? hget)
      have hend : End c.op c.made s.state := hok.lose hperm hget hrest
      exact ⟨hend,hgood.recorded⟩
  | outside hout => exact hlater

theorem Call.Good.ended {c : Call I Op} {d : State} (h : c.Good S R Ok Made End d)
    (hended : c.rest.Ended) : End c.op c.made d := by
  have hsafe := h.safe
  cases hrest : c.rest with
  | done a =>
    rw [hrest] at hsafe
    exact hsafe
  | refuse e =>
    rw [hrest] at hsafe
    exact hsafe
  | run st next =>
    rw [hrest] at hended
    exact hended.elim

end Rules
end Statements
