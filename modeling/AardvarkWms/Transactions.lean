import Mathlib.Logic.Function.Basic
import Mathlib.Data.List.Basic

/-! Transactions over a store of lockable rows at READ COMMITTED, and the rule by
which a transaction is reasoned about as one change of the state it commits in. -/
namespace Transactions

/-- What a program may say to the store. -/
structure Interface where
  Query : Type
  Answer : Query → Type
  Write : Type
  Key : Type
  Err : Type

/-- A program of one session: statements, each of which sees the answers so far. -/
inductive Txn (I : Interface) (α : Type) : Type
  | done (a : α)
  | refuse (e : I.Err)
  | ask (q : I.Query) (next : I.Answer q → Txn I α)
  | lock (k : I.Key) (next : Txn I α)
  | exec (w : I.Write) (next : Txn I α)
  | gen (next : ℕ → Txn I α)
  | commit (next : Txn I α)

namespace Txn
variable {I : Interface} {α β γ : Type}

def bind : Txn I α → (α → Txn I β) → Txn I β
  | .done a, f => f a
  | .refuse e, _ => .refuse e
  | .ask q k, f => .ask q (fun r => (k r).bind f)
  | .lock key k, f => .lock key (k.bind f)
  | .exec w k, f => .exec w (k.bind f)
  | .gen k, f => .gen (fun n => (k n).bind f)
  | .commit k, f => .commit (k.bind f)

instance : Monad (Txn I) where
  pure := .done
  bind := bind

@[simp] theorem pure_eq (a : α) : (pure a : Txn I α)=.done a := rfl
@[simp] theorem bind_eq (p : Txn I α) (f : α → Txn I β) : (p >>= f)=p.bind f := rfl

theorem bind_assoc (p : Txn I α) (f : α → Txn I β) (g : β → Txn I γ) :
    (p.bind f).bind g=p.bind (fun a => (f a).bind g) := by
  induction p with
  | done a => rfl
  | refuse e => rfl
  | ask q k ih => simp only [bind]; exact congrArg _ (funext ih)
  | lock key k ih => simp only [bind,ih]
  | exec w k ih => simp only [bind,ih]
  | gen k ih => simp only [bind]; exact congrArg _ (funext ih)
  | commit k ih => simp only [bind,ih]

theorem bind_done (p : Txn I α) : p.bind .done=p := by
  induction p with
  | done a => rfl
  | refuse e => rfl
  | ask q k ih => simp only [bind]; exact congrArg _ (funext ih)
  | lock key k ih => simp only [bind,ih]
  | exec w k ih => simp only [bind,ih]
  | gen k ih => simp only [bind]; exact congrArg _ (funext ih)
  | commit k ih => simp only [bind,ih]

/-- Read the answer of one query. -/
def query (q : I.Query) : Txn I (I.Answer q) := .ask q .done

def acquire (k : I.Key) : Txn I Unit := .lock k (.done ())

def write (w : I.Write) : Txn I Unit := .exec w (.done ())

def fresh : Txn I ℕ := .gen .done

/-- End of an autocommitted statement: its writes become visible to everyone. -/
def flush : Txn I Unit := .commit (.done ())

def require (p : Prop) [Decidable p] (e : I.Err) : Txn I Unit :=
  if p then .done () else .refuse e

def demand (o : Option α) (e : I.Err) : Txn I α :=
  match o with
  | some a => .done a
  | none => .refuse e

/-- A computation that needs no statement. -/
def compute : Except I.Err α → Txn I α
  | .ok a => .done a
  | .error e => .refuse e

theorem bind_eq_ok {ε : Type} {x : Except ε α} {f : α → Except ε β} {b : β}
    (h : (x >>= f)=.ok b) : ∃ a, x=.ok a ∧ f a=.ok b := by
  cases x with
  | error e => cases h
  | ok a => exact ⟨a,rfl,h⟩

/-- Run a statement for each element, in order, and keep the results. -/
def each : List α → (α → Txn I β) → Txn I (List β)
  | [], _ => .done []
  | a::as, f => (f a).bind fun b => (each as f).bind fun bs => .done (b::bs)

end Txn

open Txn

/-- The rows that two states agree on, how a state grows, and what a write does.
`Later` is for facts that no write takes back: a row stays, and so do the fields
that nobody updates. -/
structure Store (I : Interface) (State : Type) where
  answer : (q : I.Query) → State → I.Answer q
  apply : I.Write → State → State
  keys : I.Write → List I.Key
  accepts : I.Write → State → Bool
  Same : I.Key → State → State → Prop
  Later : State → State → Prop
  same_refl : ∀ k d, Same k d d
  same_trans : ∀ {k d d' d''}, Same k d d' → Same k d' d'' → Same k d d''
  later_refl : ∀ d, Later d d
  later_trans : ∀ {d d' d''}, Later d d' → Later d' d'' → Later d d''
  later_apply : ∀ w d, Later d (apply w d)
  frame : ∀ {k w} d, k∉keys w → Same k d (apply w d)
  same_apply : ∀ {k w d d'}, (∀ k'∈keys w, Same k' d d') → Later d d' →
    Same k d d' → Same k (apply w d) (apply w d')
  later_congr : ∀ {w d d'}, (∀ k∈keys w, Same k d d') → Later d d' →
    Later (apply w d) (apply w d')

/-- One answered query. -/
structure Seen (I : Interface) where
  query : I.Query
  result : I.Answer query

/-- A transaction at some point of its life, as seen from its commit: `base` is the
committed state it will commit in, `view` is `base` with its own writes. -/
structure Ctx (I : Interface) (State : Type) where
  base : State
  view : State
  locks : List I.Key
  log : List (Seen I)

namespace Ctx
variable {I : Interface} {State : Type}

def start (d : State) : Ctx I State := ⟨d,d,[],[]⟩

def saw (c : Ctx I State) (q : I.Query) (r : I.Answer q) : Ctx I State :=
  {c with log := ⟨q,r⟩::c.log}

def held (c : Ctx I State) (ks : List I.Key) : Ctx I State :=
  {c with locks := ks++c.locks}

def wrote (c : Ctx I State) (S : Store I State) (w : I.Write) : Ctx I State :=
  {c with view := S.apply w c.view, locks := S.keys w++c.locks}

def Saw (c : Ctx I State) (q : I.Query) (r : I.Answer q) : Prop :=
  (⟨q,r⟩ : Seen I)∈c.log

@[simp] theorem saw_base (c : Ctx I State) (q r) : (c.saw q r).base=c.base := rfl
@[simp] theorem saw_view (c : Ctx I State) (q r) : (c.saw q r).view=c.view := rfl
@[simp] theorem saw_locks (c : Ctx I State) (q r) : (c.saw q r).locks=c.locks := rfl
@[simp] theorem saw_log (c : Ctx I State) (q r) : (c.saw q r).log=⟨q,r⟩::c.log := rfl
@[simp] theorem held_base (c : Ctx I State) (ks) : (c.held ks).base=c.base := rfl
@[simp] theorem held_view (c : Ctx I State) (ks) : (c.held ks).view=c.view := rfl
@[simp] theorem held_locks (c : Ctx I State) (ks) : (c.held ks).locks=ks++c.locks := rfl
@[simp] theorem held_log (c : Ctx I State) (ks) : (c.held ks).log=c.log := rfl
@[simp] theorem wrote_base (c : Ctx I State) (S : Store I State) (w) :
    (c.wrote S w).base=c.base := rfl
@[simp] theorem wrote_view (c : Ctx I State) (S : Store I State) (w) :
    (c.wrote S w).view=S.apply w c.view := rfl
@[simp] theorem wrote_locks (c : Ctx I State) (S : Store I State) (w) :
    (c.wrote S w).locks=S.keys w++c.locks := rfl
@[simp] theorem wrote_log (c : Ctx I State) (S : Store I State) (w) :
    (c.wrote S w).log=c.log := rfl

/-- `c'` comes after `c` in one transaction, and in between the view moved by `R`. -/
structure Moves (R : State → State → Prop) (c c' : Ctx I State) : Prop where
  base : c'.base=c.base
  view : R c.view c'.view
  locks : ∀ k∈c.locks, k∈c'.locks
  log : ∀ s∈c.log, s∈c'.log

namespace Moves
variable {R R' T : State → State → Prop} {c c' c'' : Ctx I State}

theorem imp (h : c.Moves R c') (hR : R c.view c'.view → R' c.view c'.view) :
    c.Moves R' c' :=
  ⟨h.base,hR h.view,h.locks,h.log⟩

theorem comp (hT : ∀ {d d' d''}, R d d' → R' d' d'' → T d d'') (h : c.Moves R c')
    (h' : c'.Moves R' c'') : c.Moves T c'' :=
  ⟨h'.base.trans h.base,hT h.view h'.view,fun k hk => h'.locks k (h.locks k hk),
    fun s hs => h'.log s (h.log s hs)⟩

theorem of_reads (h : c.Moves Eq c') (h' : c'.Moves R c'') : c.Moves R c'' := by
  refine h.comp ?_ h'
  intro d d' d'' he hr
  exact he ▸ hr

theorem and_reads (h : c.Moves R c') (h' : c'.Moves Eq c'') : c.Moves R c'' := by
  refine h.comp ?_ h'
  intro d d' d'' hr he
  exact he ▸ hr

theorem saw {q : I.Query} {r : I.Answer q} (h : c.Moves R c') (hs : c.Saw q r) : c'.Saw q r :=
  h.log _ hs

end Moves

theorem moves_refl (c : Ctx I State) : c.Moves Eq c := ⟨rfl,rfl,fun _ h => h,fun _ h => h⟩

theorem moves_saw (c : Ctx I State) (q) (r : I.Answer q) : c.Moves Eq (c.saw q r) :=
  ⟨rfl,rfl,fun _ h => h,fun _ h => List.mem_cons_of_mem _ h⟩

theorem moves_held (c : Ctx I State) (ks : List I.Key) : c.Moves Eq (c.held ks) :=
  ⟨rfl,rfl,fun _ h => List.mem_append_right _ h,fun _ h => h⟩

theorem moves_wrote (c : Ctx I State) (S : Store I State) (w : I.Write) :
    c.Moves (fun d d' => d'=S.apply w d) (c.wrote S w) :=
  ⟨rfl,rfl,fun _ h => List.mem_append_right _ h,fun _ h => h⟩

theorem saw_saw (c : Ctx I State) (q) (r : I.Answer q) : (c.saw q r).Saw q r :=
  List.mem_cons_self

end Ctx

section Rules
variable {I : Interface} {State : Type} (S : Store I State)

def Store.Agree (L : List I.Key) (d d' : State) : Prop :=
  (∀ k∈L, S.Same k d d') ∧ S.Later d d'

def Store.applyAll (ws : List I.Write) (d : State) : State :=
  ws.foldl (fun d w => S.apply w d) d

variable {S}
variable {α β : Type}

theorem Store.agree_refl (L : List I.Key) (d : State) : S.Agree L d d :=
  ⟨fun k _ => S.same_refl k d,S.later_refl d⟩

theorem Store.Agree.trans {L : List I.Key} {d d' d'' : State}
    (h : S.Agree L d d') (h' : S.Agree L d' d'') : S.Agree L d d'' :=
  ⟨fun k hk => S.same_trans (h.1 k hk) (h'.1 k hk),S.later_trans h.2 h'.2⟩

theorem Store.Agree.subset {L L' : List I.Key} {d d' : State}
    (h : S.Agree L' d d') (hL : ∀ k∈L, k∈L') : S.Agree L d d' :=
  ⟨fun k hk => h.1 k (hL k hk),h.2⟩

theorem Store.Agree.apply {L : List I.Key} {d d' : State} {w : I.Write}
    (h : S.Agree L d d') (hw : ∀ k∈S.keys w, k∈L) :
    S.Agree L (S.apply w d) (S.apply w d') := by
  have hk : ∀ k∈S.keys w, S.Same k d d' := fun k hk => h.1 k (hw k hk)
  exact ⟨fun k hkL => S.same_apply hk h.2 (h.1 k hkL),S.later_congr hk h.2⟩

theorem Store.Agree.applyAll {L : List I.Key} {ws : List I.Write} :
    ∀ {d d' : State}, S.Agree L d d' → (∀ w∈ws, ∀ k∈S.keys w, k∈L) →
    S.Agree L (S.applyAll ws d) (S.applyAll ws d') := by
  induction ws with
  | nil => intro d d' h _; exact h
  | cons w ws ih =>
    intro d d' h hw
    exact ih (h.apply (hw w (by simp))) (fun w' hw' => hw w' (by simp [hw']))

theorem Store.later_applyAll (ws : List I.Write) : ∀ d, S.Later d (S.applyAll ws d) := by
  induction ws with
  | nil => exact S.later_refl
  | cons w ws ih => exact fun d => S.later_trans (S.later_apply w d) (ih _)

theorem Store.frame_applyAll {k : I.Key} {ws : List I.Write} :
    ∀ d, (∀ w∈ws, k∉S.keys w) → S.Same k d (S.applyAll ws d) := by
  induction ws with
  | nil => exact fun d _ => S.same_refl k d
  | cons w ws ih =>
    intro d h
    exact S.same_trans (S.frame d (h w (by simp))) (ih _ (fun w' hw' => h w' (by simp [hw'])))

/-- Weakest precondition at the commit. A read under locks answers from `view` as far
as the locked rows go; of anything else it may answer from an earlier state.
`Mid` is what must hold where an autocommitted statement ends. -/
def wp (S : Store I State) (Mid : Ctx I State → Prop) :
    Txn I α → Ctx I State → (α → Ctx I State → Prop) → Prop
  | .done a, c, Q => Q a c
  | .refuse _, _, _ => True
  | .ask q k, c, Q => ∀ d, S.Agree c.locks d c.view →
      wp S Mid (k (S.answer q d)) (c.saw q (S.answer q d)) Q
  | .lock key k, c, Q => wp S Mid k (c.held [key]) Q
  | .exec w k, c, Q => wp S Mid k (c.wrote S w) Q
  | .gen k, c, Q => ∀ n, wp S Mid (k n) c Q
  | .commit k, c, Q => Mid c ∧ ∀ d, S.Later c.view d → wp S Mid k ⟨d,d,[],c.log⟩ Q

variable {Mid : Ctx I State → Prop} {c : Ctx I State}

theorem wp_mono {p : Txn I α} {Q Q' : α → Ctx I State → Prop}
    (hQ : ∀ a c, Q a c → Q' a c) : ∀ {c}, wp S Mid p c Q → wp S Mid p c Q' := by
  induction p with
  | done a => exact fun h => hQ a _ h
  | refuse e => exact fun h => h
  | ask q k ih => exact fun h d hd => ih _ (h d hd)
  | lock key k ih => exact fun h => ih h
  | exec w k ih => exact fun h => ih h
  | gen k ih => exact fun h n => ih n (h n)
  | commit k ih => exact fun h => ⟨h.1,fun d hd => ih (h.2 d hd)⟩

theorem wp_true (p : Txn I α) : ∀ {c}, wp S (fun _ => True) p c (fun _ _ => True) := by
  induction p with
  | done a => exact trivial
  | refuse e => exact trivial
  | ask q k ih => exact fun d _ => ih _
  | lock key k ih => exact ih
  | exec w k ih => exact ih
  | gen k ih => exact fun n => ih n
  | commit k ih => exact ⟨trivial,fun d _ => ih⟩

@[simp] theorem wp_bind (p : Txn I α) (f : α → Txn I β) {Q : β → Ctx I State → Prop} :
    ∀ {c}, wp S Mid (p.bind f) c Q ↔ wp S Mid p c (fun a c => wp S Mid (f a) c Q) := by
  induction p with
  | done a => exact Iff.rfl
  | refuse e => exact Iff.rfl
  | ask q k ih => exact forall₂_congr fun d _ => ih _
  | lock key k ih => exact ih
  | exec w k ih => exact ih
  | gen k ih => exact forall_congr' fun n => ih n
  | commit k ih => exact and_congr Iff.rfl (forall₂_congr fun d _ => ih)

variable {Q : α → Ctx I State → Prop}

@[simp] theorem wp_done (a : α) : wp S Mid (.done a) c Q ↔ Q a c := Iff.rfl

@[simp] theorem wp_refuse (e : I.Err) : wp S Mid (.refuse e) c Q ↔ True := Iff.rfl

@[simp] theorem wp_query (q : I.Query) {Q : I.Answer q → Ctx I State → Prop} :
    wp S Mid (query q) c Q ↔
      ∀ d, S.Agree c.locks d c.view → Q (S.answer q d) (c.saw q (S.answer q d)) := Iff.rfl

@[simp] theorem wp_acquire (k : I.Key) {Q : Unit → Ctx I State → Prop} :
    wp S Mid (acquire k) c Q ↔ Q () (c.held [k]) := Iff.rfl

@[simp] theorem wp_write (w : I.Write) {Q : Unit → Ctx I State → Prop} :
    wp S Mid (write w) c Q ↔ Q () (c.wrote S w) := Iff.rfl

@[simp] theorem wp_fresh {Q : ℕ → Ctx I State → Prop} :
    wp S Mid (fresh : Txn I ℕ) c Q ↔ ∀ n, Q n c := Iff.rfl

@[simp] theorem wp_flush {Q : Unit → Ctx I State → Prop} :
    wp S Mid (flush : Txn I Unit) c Q ↔
      Mid c ∧ ∀ d, S.Later c.view d → Q () ⟨d,d,[],c.log⟩ := Iff.rfl

@[simp] theorem wp_require (p : Prop) [Decidable p] (e : I.Err)
    {Q : Unit → Ctx I State → Prop} :
    wp S Mid (require p e) c Q ↔ (p → Q () c) := by
  by_cases h : p <;> simp [require,h]

@[simp] theorem wp_demand (o : Option α) (e : I.Err) :
    wp S Mid (demand o e) c Q ↔ ∀ a, o=some a → Q a c := by
  cases o <;> simp [demand]

@[simp] theorem wp_compute (x : Except I.Err α) :
    wp S Mid (compute x) c Q ↔ ∀ a, x=.ok a → Q a c := by
  cases x <;> simp [compute]

@[simp] theorem wp_ite (p : Prop) [Decidable p] (a b : Txn I α) :
    wp S Mid (if p then a else b) c Q ↔ (p → wp S Mid a c Q) ∧ (¬p → wp S Mid b c Q) := by
  by_cases h : p <;> simp [h]

theorem wp_for {as : List α} {f : α → Txn I β} (J : List α → Ctx I State → Prop)
    (hstep : ∀ a as c, J (a::as) c → wp S Mid (f a) c (fun _ c => J as c)) :
    ∀ {c}, J as c → wp S Mid (each as f) c (fun _ c => J [] c) := by
  induction as with
  | nil => exact fun h => h
  | cons a as ih =>
    intro c h
    simp only [each,wp_bind]
    refine wp_mono (fun b c hb => ?_) (hstep a as c h)
    exact wp_mono (fun _ _ h => h) (ih hb)

theorem wp_each {as : List α} {f : α → Txn I β} {R : α → β → Prop} {J : Ctx I State → Prop}
    (hstep : ∀ a∈as, ∀ c, J c → wp S Mid (f a) c (fun b c => R a b ∧ J c)) :
    ∀ {c}, J c → wp S Mid (each as f) c (fun bs c => (∀ b∈bs, ∃ a∈as, R a b) ∧ J c) := by
  induction as with
  | nil => exact fun h => ⟨by simp,h⟩
  | cons a as ih =>
    intro c h
    simp only [each,wp_bind]
    refine wp_mono (fun b c hb => ?_) (hstep a (by simp) c h)
    refine wp_mono (fun bs c hbs => ?_) (ih (fun a ha => hstep a (by simp [ha])) hb.2)
    refine ⟨fun b' hb' => ?_,hbs.2⟩
    rcases List.mem_cons.mp hb' with rfl|hb'
    · exact ⟨a,by simp,hb.1⟩
    · obtain ⟨a',ha',hr⟩ := hbs.1 b' hb'
      exact ⟨a',by simp [ha'],hr⟩

/-- A program that only runs statements in `ok`, all of them in one transaction. -/
def Only (ok : I.Write → Prop) : Txn I α → Prop
  | .done _ => True
  | .refuse _ => True
  | .ask _ k => ∀ r, Only ok (k r)
  | .lock _ k => Only ok k
  | .exec w k => ok w ∧ Only ok k
  | .gen k => ∀ n, Only ok (k n)
  | .commit _ => False

variable {ok : I.Write → Prop}

theorem Only.mono {ok' : I.Write → Prop} (h : ∀ w, ok w → ok' w) {p : Txn I α} :
    Only ok p → Only ok' p := by
  induction p with
  | done a => exact id
  | refuse e => exact id
  | ask q k ih => exact fun hp r => ih r (hp r)
  | lock key k ih => exact ih
  | exec w k ih => exact fun hp => ⟨h w hp.1,ih hp.2⟩
  | gen k ih => exact fun hp n => ih n (hp n)
  | commit k ih => exact id

@[simp] theorem only_done (a : α) : Only ok (.done a : Txn I α) := trivial
@[simp] theorem only_refuse (e : I.Err) : Only ok (.refuse e : Txn I α) := trivial
@[simp] theorem only_query (q : I.Query) : Only ok (query q) := fun _ => trivial
@[simp] theorem only_acquire (k : I.Key) : Only ok (acquire k) := trivial
@[simp] theorem only_fresh : Only ok (fresh : Txn I ℕ) := fun _ => trivial
@[simp] theorem only_write (w : I.Write) : Only ok (write w) ↔ ok w := by
  simp [write,Only]

@[simp] theorem only_require (p : Prop) [Decidable p] (e : I.Err) :
    Only ok (require p e : Txn I Unit) := by
  by_cases h : p <;> simp [require,h]

@[simp] theorem only_demand (o : Option α) (e : I.Err) :
    Only ok (demand o e : Txn I α) := by
  cases o <;> simp [demand]

@[simp] theorem only_compute (x : Except I.Err α) : Only ok (compute x : Txn I α) := by
  cases x <;> simp [compute]

theorem Only.bind {p : Txn I α} {f : α → Txn I β} (hp : Only ok p)
    (hf : ∀ a, Only ok (f a)) : Only ok (p.bind f) := by
  induction p with
  | done a => exact hf a
  | refuse e => trivial
  | ask q k ih => exact fun r => ih r (hp r)
  | lock key k ih => exact ih hp
  | exec w k ih => exact ⟨hp.1,ih hp.2⟩
  | gen k ih => exact fun n => ih n (hp n)
  | commit k ih => exact hp.elim

theorem Only.ite {p : Prop} [Decidable p] {a b : Txn I α} (ha : p → Only ok a)
    (hb : ¬p → Only ok b) : Only ok (if p then a else b) := by
  split
  · exact ha ‹_›
  · exact hb ‹_›

theorem Only.each {as : List α} {f : α → Txn I β} (hf : ∀ a∈as, Only ok (f a)) :
    Only ok (each as f) := by
  induction as with
  | nil => trivial
  | cons a as ih =>
    exact (hf a (by simp)).bind fun b => (ih fun a ha => hf a (by simp [ha])).bind fun _ => trivial

/-- The rule for the statements that do not matter: a program whose writes all stay
inside the preorder `R` is an arbitrary step inside `R`. -/
theorem wp_of_only {R : State → State → Prop} (hrefl : ∀ d, R d d)
    (htrans : ∀ {d d' d''}, R d d' → R d' d'' → R d d'')
    (hR : ∀ w d, ok w → R d (S.apply w d)) {p : Txn I α} :
    ∀ {c}, Only ok p → (∀ a c', c.Moves R c' → Q a c') → wp S Mid p c Q := by
  induction p with
  | done a => intro c _ h; exact h a c ⟨rfl,hrefl _,fun _ h => h,fun _ h => h⟩
  | refuse e => intros; trivial
  | ask q k ih =>
    intro c hp h d _
    exact ih _ (hp _) fun a c' hc => h a c' ⟨hc.base,hc.view,hc.locks,fun s hs => hc.log s (by simp [hs])⟩
  | lock key k ih =>
    intro c hp h
    exact ih hp fun a c' hc => h a c' ⟨hc.base,hc.view,fun k hk => hc.locks k (by simp [hk]),hc.log⟩
  | exec w k ih =>
    intro c hp h
    exact ih hp.2 fun a c' hc => h a c' ⟨hc.base,htrans (hR w _ hp.1) hc.view,
      fun k hk => hc.locks k (by simp [hk]),hc.log⟩
  | gen k ih => intro c hp h n; exact ih n (hp n) h
  | commit k ih => intro c hp; exact hp.elim

/-- What holds at the end of a program, and that it got there inside `R`. -/
theorem wp_and_only {R : State → State → Prop}
    (htrans : ∀ {d d' d''}, R d d' → R d' d'' → R d d'')
    (hR : ∀ w d, ok w → R d (S.apply w d)) {p : Txn I α} {d : State} :
    ∀ {c}, Only ok p → R d c.view → wp S Mid p c Q →
      wp S Mid p c (fun a c => Q a c ∧ R d c.view) := by
  induction p with
  | done a => exact fun _ hd h => ⟨h,hd⟩
  | refuse e => intros; trivial
  | ask q k ih => exact fun hp hd h d' hd' => ih _ (hp _) hd (h d' hd')
  | lock key k ih => exact fun hp hd h => ih hp hd h
  | exec w k ih => exact fun hp hd h => ih hp.2 (htrans hd (hR w _ hp.1)) h
  | gen k ih => exact fun hp hd h n => ih n (hp n) hd (h n)
  | commit k ih => exact fun hp => hp.elim

theorem wp_logged {L : List (Seen I)} {p : Txn I α} : ∀ {c}, (∀ s∈L, s∈c.log) →
    wp S Mid p c Q → wp S Mid p c (fun a c => Q a c ∧ ∀ s∈L, s∈c.log) := by
  induction p with
  | done a => exact fun hs h => ⟨h,hs⟩
  | refuse e => intros; trivial
  | ask q k ih =>
    exact fun hs h d hd => ih _ (fun s hmem => List.mem_cons_of_mem _ (hs s hmem)) (h d hd)
  | lock key k ih => exact fun hs h => ih hs h
  | exec w k ih => exact fun hs h => ih hs h
  | gen k ih => exact fun hs h n => ih n hs (h n)
  | commit k ih => exact fun hs h => ⟨h.1,fun d hd => ih hs (h.2 d hd)⟩

/-- The rule for a program that reads and locks, and whose result does not matter. -/
theorem wp_of_reads {p : Txn I α} (hp : Only (fun _ => False) p)
    (h : ∀ a c', c.Moves Eq c' → Q a c') : wp S Mid p c Q :=
  wp_of_only (fun _ => rfl) Eq.trans (fun _ _ h => h.elim) hp h

end Rules

end Transactions
