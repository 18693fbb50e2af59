import AardvarkWms.Relational

/-! The exact calculus of a call that runs alone: its reads answer from the state as it
is, so its rules are equivalences. -/
namespace Transactions

open Txn
variable {I : Interface} {State α β : Type}

/-- What a lone call runs with: the rows that are taken, the ids that are drawn, and what
is to hold of a fault. -/
structure Setting (I : Interface) (State : Type) where
  accepts : I.Write → State → Bool
  ids : ℕ → ℕ
  fault : Fault I → Prop

/-- Every row is taken, and only returns matter. -/
def Setting.free (I : Interface) (State : Type) (ids : ℕ → ℕ) : Setting I State :=
  ⟨fun _ _ => true,ids,fun _ => True⟩

def outcome (S : Store I State) (M : Setting I State) :
    Txn I α → ℕ → Ctx I State → (α → ℕ → Ctx I State → Prop) → Prop
  | .done a, n, c, Q => Q a n c
  | .refuse e, _, _, _ => M.fault (.refused e)
  | .ask q k, n, c, Q => outcome S M (k (S.answer q c.view)) n (c.saw q (S.answer q c.view)) Q
  | .lock key k, n, c, Q => outcome S M k n (c.held [key]) Q
  | .exec w k, n, c, Q => if M.accepts w c.view then outcome S M k n (c.wrote S w) Q
      else M.fault (.rejected w)
  | .gen k, n, c, Q => outcome S M (k (M.ids n)) (n+1) c Q
  | .commit k, n, c, Q => outcome S M k n ⟨c.view,c.view,[],c.log⟩ Q

section
variable {S : Store I State} {M : Setting I State} {n : ℕ} {c : Ctx I State}

@[simp] theorem free_accepts (ids : ℕ → ℕ) (w : I.Write) (d : State) :
    (Setting.free I State ids).accepts w d=true := rfl

@[simp] theorem free_fault (ids : ℕ → ℕ) (f : Fault I) : (Setting.free I State ids).fault f := trivial

section Rules
variable {Q : α → ℕ → Ctx I State → Prop}

@[simp] theorem outcome_done (a : α) : outcome S M (.done a) n c Q ↔ Q a n c := Iff.rfl

@[simp] theorem outcome_refuse (e : I.Err) :
    outcome S M (.refuse e) n c Q ↔ M.fault (.refused e) := Iff.rfl

theorem outcome_exec (w : I.Write) (k : Txn I α) : outcome S M (.exec w k) n c Q ↔
    if M.accepts w c.view then outcome S M k n (c.wrote S w) Q else M.fault (.rejected w) := Iff.rfl

end Rules

theorem outcome_alone {ids : ℕ → ℕ} {E : Fault I → Prop} (p : Txn I α)
    {Q : α → ℕ → Ctx I State → Prop} : ∀ {n c} (ms : List (Ctx I State)),
      outcome S ⟨S.accepts,ids,E⟩ p n c Q ↔
        (∀ e, alone S ids p n ms c=.ok e → Q e.value e.next e.ctx) ∧
        ∀ f, alone S ids p n ms c=.error f → E f := by
  induction p with
  | done a => simp [alone]
  | refuse e => simp [alone]
  | ask q k ih => exact ih _
  | lock key k ih => exact ih
  | exec w k ih =>
    intro n c ms
    simp only [outcome_exec,alone]
    split
    · exact ih ms
    · simp
  | gen k ih => exact ih _
  | commit k ih => exact fun {n c} ms => ih (c::ms)

theorem alone_ok {ids : ℕ → ℕ} {p : Txn I α} {Q : α → ℕ → Ctx I State → Prop}
    (h : outcome S ⟨S.accepts,ids,fun _ => False⟩ p n c Q) (ms : List (Ctx I State)) :
    ∃ e, alone S ids p n ms c=.ok e ∧ Q e.value e.next e.ctx := by
  have hout := (outcome_alone p ms).mp h
  cases he : alone S ids p n ms c with
  | ok e => exact ⟨e,rfl,hout.1 e he⟩
  | error f => exact (hout.2 f he).elim

theorem alone_error {ids : ℕ → ℕ} {p : Txn I α} {E : Fault I → Prop}
    (h : outcome S ⟨S.accepts,ids,E⟩ p n c fun _ _ _ => False) (ms : List (Ctx I State)) :
    ∃ f, alone S ids p n ms c=.error f ∧ E f := by
  have hout := (outcome_alone p ms).mp h
  cases he : alone S ids p n ms c with
  | ok e => exact (hout.1 e he).elim
  | error f => exact ⟨f,rfl,hout.2 f he⟩

/-- With its row checks or without them, a call that returns returns the same. -/
theorem outcome_returns {ids : ℕ → ℕ} (acc : I.Write → State → Bool) (p : Txn I α)
    {Q : α → ℕ → Ctx I State → Prop} : ∀ {n ms c e}, outcome S (.free I State ids) p n c Q →
      alone {S with accepts := acc} ids p n ms c=.ok e → Q e.value e.next e.ctx := by
  induction p with
  | done a => intro n ms c e h he; cases he; exact h
  | refuse e => intro n ms c e h he; cases he
  | ask q k ih => intro n ms c e h he; exact ih _ h he
  | lock key k ih => intro n ms c e h he; exact ih h he
  | exec w k ih =>
    intro n ms c e h he
    simp only [alone] at he
    simp only [outcome_exec,free_accepts,if_true] at h
    split at he
    · exact ih h he
    · cases he
  | gen k ih => intro n ms c e h he; exact ih _ h he
  | commit k ih => intro n ms c e h he; exact ih h he

theorem outcome_mono {p : Txn I α} {Q Q' : α → ℕ → Ctx I State → Prop}
    (hQ : ∀ a n c, Q a n c → Q' a n c) : ∀ {n c}, outcome S M p n c Q → outcome S M p n c Q' := by
  induction p with
  | done a => exact fun h => hQ a _ _ h
  | refuse e => exact fun h => h
  | ask q k ih => exact fun h => ih _ h
  | lock key k ih => exact fun h => ih h
  | exec w k ih =>
    intro n c h
    simp only [outcome_exec] at h ⊢
    split at h <;> simp_all
  | gen k ih => exact fun h => ih _ h
  | commit k ih => exact fun h => ih h

theorem outcome_free {ids : ℕ → ℕ} {p : Txn I α} {Q : α → ℕ → Ctx I State → Prop}
    (h : ∀ a n c, Q a n c) : ∀ {n c}, outcome S (.free I State ids) p n c Q := by
  induction p with
  | done a => exact fun {n c} => h a n c
  | refuse e => exact fun {n c} => trivial
  | ask q k ih => exact fun {n c} => ih _
  | lock key k ih => exact fun {n c} => ih
  | exec w k ih =>
    intro n c
    simp only [outcome_exec,free_accepts,if_true]
    exact ih
  | gen k ih => exact fun {n c} => ih _
  | commit k ih => exact fun {n c} => ih

@[simp] theorem outcome_bind (p : Txn I α) (f : α → Txn I β) {Q : β → ℕ → Ctx I State → Prop} :
    ∀ {n c}, outcome S M (p.bind f) n c Q ↔
      outcome S M p n c (fun a n c => outcome S M (f a) n c Q) := by
  induction p with
  | done a => exact Iff.rfl
  | refuse e => exact Iff.rfl
  | ask q k ih => exact ih _
  | lock key k ih => exact ih
  | exec w k ih =>
    intro n c
    simp only [Txn.bind,outcome_exec]
    split
    · exact ih
    · exact Iff.rfl
  | gen k ih => exact ih _
  | commit k ih => exact ih

variable {Q : α → ℕ → Ctx I State → Prop}

@[simp] theorem outcome_write (w : I.Write) {Q : Unit → ℕ → Ctx I State → Prop} :
    outcome S M (write w) n c Q ↔ if M.accepts w c.view then Q () n (c.wrote S w)
      else M.fault (.rejected w) := Iff.rfl

@[simp] theorem outcome_fresh {Q : ℕ → ℕ → Ctx I State → Prop} :
    outcome S M (fresh : Txn I ℕ) n c Q ↔ Q (M.ids n) (n+1) c := Iff.rfl

theorem outcome_require (p : Prop) [Decidable p] (e : I.Err) {Q : Unit → ℕ → Ctx I State → Prop} :
    outcome S M (require p e) n c Q ↔ if p then Q () n c else M.fault (.refused e) := by
  by_cases h : p <;> simp [require,h]

theorem outcome_demand (o : Option α) (e : I.Err) :
    outcome S M (demand o e) n c Q ↔ (∀ a, o=some a → Q a n c) ∧ (o=none → M.fault (.refused e)) := by
  cases o <;> simp [demand]

theorem outcome_ite (p : Prop) [Decidable p] (a b : Txn I α) :
    outcome S M (if p then a else b) n c Q ↔
      (p → outcome S M a n c Q) ∧ (¬p → outcome S M b n c Q) := by
  by_cases h : p <;> simp [h]

/-- Where `P` holds the program returns `a` in `c'`, elsewhere it ends in a fault. -/
def Goes (S : Store I State) (M : Setting I State) (p : Txn I α) (n : ℕ) (c : Ctx I State)
    (P : Prop) (a : α) (n' : ℕ) (c' : Ctx I State) : Prop :=
  ∀ Q : α → ℕ → Ctx I State → Prop, outcome S M p n c Q ↔ P ∧ Q a n' c'

theorem Goes.bind {p : Txn I α} {f : α → Txn I β} {P P' : Prop} {a : α} {b : β} {n' n'' : ℕ}
    {c' c'' : Ctx I State} (h : Goes S M p n c P a n' c') (h' : Goes S M (f a) n' c' P' b n'' c'') :
    Goes S M (p.bind f) n c (P ∧ P') b n'' c'' := by
  intro Q
  rw [outcome_bind,h _,h' Q,and_assoc]

theorem Goes.congr {p : Txn I α} {P P' : Prop} {a : α} {n' : ℕ} {c' : Ctx I State}
    (h : Goes S M p n c P a n' c') (hP : P ↔ P') : Goes S M p n c P' a n' c' :=
  fun Q => (h Q).trans (and_congr hP Iff.rfl)

theorem goes_done (a : α) : Goes S M (.done a) n c True a n c := fun Q => by simp

theorem goes_fresh : Goes S M fresh n c True (M.ids n) (n+1) c := fun Q => by simp

theorem goes_require {p : Prop} [Decidable p] {e : I.Err} (h : p) :
    Goes S M (require p e) n c True () n c := fun Q => by simp [outcome_require,h]

theorem goes_demand {o : Option α} {e : I.Err} {a : α} (h : o=some a) :
    Goes S M (demand o e) n c True a n c := fun Q => by simp [outcome_demand,h]

/-- The rule for statements that do not matter, where the faults they may end in do not. -/
theorem outcome_of_only {R : State → State → Prop} {ok : I.Write → Prop} (hrefl : ∀ d, R d d)
    (htrans : ∀ {d d' d''}, R d d' → R d' d'' → R d d'')
    (hR : ∀ w d, ok w → R d (S.apply w d)) (hacc : ∀ w d, ok w → M.accepts w d=true)
    (hfault : ∀ e, M.fault (.refused e)) {p : Txn I α} :
    ∀ {n c}, Only ok p → (∀ a n' c', c.Moves R c' → Q a n' c') → outcome S M p n c Q := by
  induction p with
  | done a => intro n c _ h; exact h a n c ⟨rfl,hrefl _,fun _ h => h,fun _ h => h⟩
  | refuse e => intro n c _ _; exact hfault e
  | ask q k ih =>
    intro n c hp h
    exact ih _ (hp _) fun a n' c' hc => h a n' c'
      ⟨hc.base,hc.view,hc.locks,fun s hs => hc.log s (by simp [hs])⟩
  | lock key k ih =>
    intro n c hp h
    exact ih hp fun a n' c' hc => h a n' c'
      ⟨hc.base,hc.view,fun k hk => hc.locks k (by simp [hk]),hc.log⟩
  | exec w k ih =>
    intro n c hp h
    simp only [outcome_exec,hacc w c.view hp.1,if_true]
    exact ih hp.2 fun a n' c' hc => h a n' c' ⟨hc.base,htrans (hR w _ hp.1) hc.view,
      fun k hk => hc.locks k (by simp [hk]),hc.log⟩
  | gen k ih => intro n c hp h; exact ih _ (hp _) h
  | commit k ih => intro n c hp; exact hp.elim

theorem outcome_of_reads (hfault : ∀ e, M.fault (.refused e)) {p : Txn I α}
    (hp : Only (fun _ => False) p) (h : ∀ a n' c', c.Moves Eq c' → Q a n' c') :
    outcome S M p n c Q :=
  outcome_of_only (fun _ => rfl) Eq.trans (fun _ _ h => h.elim) (fun _ _ h => h.elim) hfault hp h

theorem outcome_of_wp (Mid : Ctx I State → Prop) {ids : ℕ → ℕ} {p : Txn I α}
    {Q : α → Ctx I State → Prop} : ∀ {n c}, wp S Mid p c Q →
      outcome S (.free I State ids) p n c (fun a _ c => Q a c) := by
  induction p with
  | done a => exact fun h => h
  | refuse e => exact fun _ => trivial
  | ask q k ih => exact fun h => ih _ (h _ (Store.agree_refl _ _))
  | lock key k ih => exact fun h => ih h
  | exec w k ih =>
    intro n c h
    simp only [outcome_exec,free_accepts,if_true]
    exact ih h
  | gen k ih => exact fun h => ih _ (h _)
  | commit k ih => exact fun h => ih (h.2 _ (S.later_refl _))

/-- A program whose writes stay inside `R` stays inside `R`, whatever else it does. -/
theorem outcome_and_only {R : State → State → Prop} {ok : I.Write → Prop}
    (htrans : ∀ {d d' d''}, R d d' → R d' d'' → R d d'')
    (hR : ∀ w d, ok w → R d (S.apply w d)) {p : Txn I α} {d : State} :
    ∀ {n c}, Only ok p → R d c.view → outcome S M p n c Q →
      outcome S M p n c (fun a n c => Q a n c ∧ R d c.view) := by
  induction p with
  | done a => exact fun _ hd h => ⟨h,hd⟩
  | refuse e => exact fun _ _ h => h
  | ask q k ih => exact fun hp hd h => ih _ (hp _) hd h
  | lock key k ih => exact fun hp hd h => ih hp hd h
  | exec w k ih =>
    intro n c hp hd h
    simp only [outcome_exec] at h ⊢
    split at h
    · rename_i hacc
      rw [if_pos hacc]
      exact ih hp.2 (htrans hd (hR w _ hp.1)) h
    · rename_i hacc
      rw [if_neg hacc]
      exact h
  | gen k ih => exact fun hp hd h => ih _ (hp _) hd h
  | commit k ih => exact fun hp => hp.elim

/-- The loop rule. -/
theorem outcome_for {as : List α} {f : α → Txn I β} (J : List α → ℕ → Ctx I State → Prop)
    (hstep : ∀ a as n c, J (a::as) n c → outcome S M (f a) n c (fun _ n c => J as n c)) :
    ∀ {n c}, J as n c → outcome S M (each as f) n c (fun _ n c => J [] n c) := by
  induction as with
  | nil => exact fun h => h
  | cons a as ih =>
    intro n c h
    simp only [each,outcome_bind]
    refine outcome_mono (fun b n c hb => ?_) (hstep a as n c h)
    exact outcome_mono (fun _ _ _ h => h) (ih hb)

end

end Transactions

namespace Relational

open Transactions Transactions.Txn

section
variable {D : Schema} {M : Setting (interface D) (Db D)} {n : ℕ} {c : Ctx (interface D) (Db D)}
variable {t : D.Name} {id : D.Id t}

@[simp] theorem outcome_find {Q : Option (D.Row t) → ℕ → Ctx _ (Db D) → Prop} :
    outcome (database D) M (find t id) n c Q ↔
      Q ((c.view t).get? id) n (c.saw (.row t id) ((c.view t).get? id)) := Iff.rfl

@[simp] theorem outcome_findWhere {p : D.Row t → Bool}
    {Q : Option (D.Row t) → ℕ → Ctx _ (Db D) → Prop} :
    outcome (database D) M (findWhere t id p) n c Q ↔
      Q (((c.view t).get? id).filter p) n (c.saw (.row t id) ((c.view t).get? id)) := Iff.rfl

@[simp] theorem outcome_findMany {p : D.Row t → Bool}
    {Q : List (D.Row t) → ℕ → Ctx _ (Db D) → Prop} :
    outcome (database D) M (findMany t p) n c Q ↔
      Q ((c.view t).rows.filter p) n (c.saw (.rows t p) ((c.view t).rows.filter p)) := Iff.rfl

@[simp] theorem outcome_findFirst {p : D.Row t → Bool}
    {Q : Option (D.Row t) → ℕ → Ctx _ (Db D) → Prop} :
    outcome (database D) M (findFirst t p) n c Q ↔
      Q ((c.view t).rows.filter p).head? n (c.saw (.rows t p) ((c.view t).rows.filter p)) :=
  Iff.rfl

@[simp] theorem outcome_lockRow {Q : Unit → ℕ → Ctx _ (Db D) → Prop} :
    outcome (database D) M (lockRow t id) n c Q ↔ Q () n (c.held [.row t id]) := Iff.rfl

@[simp] theorem outcome_update {p : D.Patch t} {Q : Unit → ℕ → Ctx _ (Db D) → Prop} :
    outcome (database D) M (update t id p) n c Q ↔ if M.accepts (.update t id p) c.view then
      Q () n (c.wrote (database D) (.update t id p)) else M.fault (.rejected (.update t id p)) :=
  Iff.rfl

theorem outcome_insert {r : D.Row t} (hu : D.unique r=none) {Q : Unit → ℕ → Ctx _ (Db D) → Prop} :
    outcome (database D) M (insert t r) n c Q ↔ if (c.view t).get? (D.key r)=none then
      if M.accepts (.insert t r) c.view then Q () n (((c.held [.row t (D.key r)]).saw
        (.row t (D.key r)) none).wrote (database D) (.insert t r))
      else M.fault (.rejected (.insert t r))
    else M.fault (.refused D.duplicate) := by
  simp only [insert,assertUnique,hu,bind_eq,pure_eq,outcome_done,outcome_bind,outcome_lockRow,outcome_find,outcome_require,
    outcome_write,Option.isNone_iff_eq_none,Ctx.held_view,Ctx.saw_view]
  by_cases h : (c.view t).get? (D.key r)=none <;> simp [h]

theorem goes_findMany {p : D.Row t → Bool} :
    Goes (database D) M (findMany t p) n c True ((c.view t).rows.filter p) n
      (c.saw (.rows t p) ((c.view t).rows.filter p)) := fun Q => by simp

theorem goes_findFirst {p : D.Row t → Bool} :
    Goes (database D) M (findFirst t p) n c True ((c.view t).rows.find? p) n
      (c.saw (.rows t p) ((c.view t).rows.filter p)) := fun Q => by
  simp [List.head?_filter]

theorem goes_resolve {p : D.Row t → Bool} {e : D.Err} {r : D.Row t}
    (h : (c.view t).rows.find? p=some r) :
    Goes (database D) M ((findFirst t p).bind fun o => demand o e) n c True r n
      (c.saw (.rows t p) ((c.view t).rows.filter p)) :=
  (goes_findFirst.bind (goes_demand h)).congr and_self_iff

theorem goes_find : Goes (database D) M (find t id) n c True ((c.view t).get? id) n
    (c.saw (.row t id) ((c.view t).get? id)) := fun Q => by simp

theorem goes_lockRow : Goes (database D) M (lockRow t id) n c True () n (c.held [.row t id]) :=
  fun Q => by simp

theorem goes_insert {r : D.Row t} (hu : D.unique r=none) (hfault : ¬M.fault (.rejected (.insert t r)))
    (h : (c.view t).get? (D.key r)=none) :
    Goes (database D) M (insert t r) n c (M.accepts (.insert t r) c.view=true) () n
      (((c.held [.row t (D.key r)]).saw (.row t (D.key r)) none).wrote (database D)
        (.insert t r)) := fun Q => by
  rw [outcome_insert hu,if_pos h]
  split <;> simp_all

theorem goes_update {p : D.Patch t} (hfault : ¬M.fault (.rejected (.update t id p))) :
    Goes (database D) M (update t id p) n c (M.accepts (.update t id p) c.view=true) () n
      (c.wrote (database D) (.update t id p)) := fun Q => by
  rw [outcome_update]
  split <;> simp_all

end

end Relational
