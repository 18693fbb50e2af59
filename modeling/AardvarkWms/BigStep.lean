import AardvarkWms.Relational

/-! A call that runs alone as a relation: from which state it returns what, and in which state
it leaves the store. The ids that it draws may be any. -/
namespace Transactions

open Txn
variable {I : Interface} {State α β : Type}

/-- From `d` the program returns `a` and leaves `d'`. -/
def Ran (S : Store I State) : Txn I α → State → α → State → Prop
  | .done a, d, b, d' => b=a ∧ d=d'
  | .refuse _, _, _, _ => False
  | .ask q k, d, b, d' => Ran S (k (S.answer q d)) d b d'
  | .lock _ k, d, b, d' => Ran S k d b d'
  | .exec w k, d, b, d' => S.accepts w d=true ∧ Ran S k (S.apply w d) b d'
  | .gen k, d, b, d' => ∃ n, Ran S (k n) d b d'
  | .commit k, d, b, d' => Ran S k d b d'

/-- What a program that only asks returns from `d`. -/
def reading (S : Store I State) : Txn I α → State → Option α
  | .done a, _ => some a
  | .ask q k, d => reading S (k (S.answer q d)) d
  | .lock _ k, d => reading S k d
  | _, _ => none

section
variable {S : Store I State} {d d' : State}

@[simp] theorem ran_done (a b : α) : Ran S (.done a) d b d' ↔ b=a ∧ d=d' := Iff.rfl

@[simp] theorem ran_refuse (e : I.Err) (a : α) : Ran S (.refuse e) d a d' ↔ False := Iff.rfl

@[simp] theorem ran_bind (p : Txn I α) (f : α → Txn I β) {b : β} : ∀ {d},
    Ran S (p.bind f) d b d' ↔ ∃ a e, Ran S p d a e ∧ Ran S (f a) e b d' := by
  induction p with
  | done a => simp [Txn.bind]
  | refuse e => simp [Txn.bind]
  | ask q k ih => exact ih _
  | lock key k ih => exact ih
  | exec w k ih =>
    intro d
    simp only [Txn.bind,Ran,ih]
    constructor
    · rintro ⟨hacc,a,e,hp,hf⟩
      exact ⟨a,e,⟨hacc,hp⟩,hf⟩
    · rintro ⟨a,e,⟨hacc,hp⟩,hf⟩
      exact ⟨hacc,a,e,hp,hf⟩
  | gen k ih =>
    intro d
    simp only [Txn.bind,Ran,ih]
    constructor
    · rintro ⟨n,a,e,hp,hf⟩
      exact ⟨a,e,⟨n,hp⟩,hf⟩
    · rintro ⟨a,e,⟨n,hp⟩,hf⟩
      exact ⟨n,a,e,hp,hf⟩
  | commit k ih => exact ih

@[simp] theorem ran_write (w : I.Write) (u : Unit) :
    Ran S (write w) d u d' ↔ S.accepts w d=true ∧ S.apply w d=d' := by
  simp [write,Ran]

@[simp] theorem ran_fresh (n : ℕ) : Ran S fresh d n d' ↔ d=d' := by
  simp [fresh,Ran]

@[simp] theorem ran_require (p : Prop) [Decidable p] (e : I.Err) (u : Unit) :
    Ran S (require p e) d u d' ↔ p ∧ d=d' := by
  by_cases h : p <;> simp [require,h]

@[simp] theorem ran_demand (o : Option α) (e : I.Err) (a : α) :
    Ran S (demand o e) d a d' ↔ o=some a ∧ d=d' := by
  cases o <;> simp [demand,eq_comm]

@[simp] theorem ran_ite (p : Prop) [Decidable p] (q r : Txn I α) (a : α) :
    Ran S (if p then q else r) d a d' ↔ (p ∧ Ran S q d a d') ∨ (¬p ∧ Ran S r d a d') := by
  by_cases h : p <;> simp [h]

/-- A program whose writes stay inside the preorder `R` is a step inside `R`. -/
theorem Ran.only {R : State → State → Prop} {ok : I.Write → Prop} (hrefl : ∀ d, R d d)
    (htrans : ∀ {d d' d''}, R d d' → R d' d'' → R d d'')
    (hR : ∀ w d, ok w → R d (S.apply w d)) {p : Txn I α} {a : α} : ∀ {d}, Only ok p →
    Ran S p d a d' → R d d' := by
  induction p with
  | done b => rintro d _ ⟨_,rfl⟩; exact hrefl _
  | refuse e => exact fun _ h => h.elim
  | ask q k ih => exact fun hp h => ih _ (hp _) h
  | lock key k ih => exact fun hp h => ih hp h
  | exec w k ih => exact fun hp h => htrans (hR w _ hp.1) (ih hp.2 h.2)
  | gen k ih => exact fun hp ⟨n,h⟩ => ih n (hp n) h
  | commit k ih => exact fun hp => hp.elim

theorem Ran.reads {p : Txn I α} {a : α} (h : Ran S p d a d') (hp : Only (fun _ => False) p) :
    d=d' :=
  Ran.only (R := Eq) (fun _ => rfl) Eq.trans (fun _ _ hw => hw.elim) hp h

/-- A program that only asks has one answer. -/
theorem Ran.unique {p : Txn I α} {a b : α} : ∀ {d}, Ran S p d b d' → reading S p d=some a → b=a := by
  induction p with
  | done c => rintro d ⟨rfl,_⟩ h; exact Option.some.inj h
  | refuse e => exact fun h => h.elim
  | ask q k ih => exact fun h hr => ih _ h hr
  | lock key k ih => exact fun h hr => ih h hr
  | exec w k ih => intro d _ hr; cases hr
  | gen k ih => intro d _ hr; cases hr
  | commit k ih => intro d _ hr; cases hr

theorem Ran.alone {ids : ℕ → ℕ} {p : Txn I α} : ∀ {n ms c e}, alone S ids p n ms c=.ok e →
    Ran S p c.view e.value e.ctx.view := by
  induction p with
  | done a => intro n ms c e h; cases h; exact ⟨rfl,rfl⟩
  | refuse e => intro n ms c e h; cases h
  | ask q k ih => intro n ms c e h; exact ih _ (c := c.saw q (S.answer q c.view)) h
  | lock key k ih => intro n ms c e h; exact ih (c := c.held [key]) h
  | exec w k ih =>
    intro n ms c e h
    simp only [Transactions.alone] at h
    split at h
    · rename_i hacc
      exact ⟨hacc,ih (c := c.wrote S w) h⟩
    · cases h
  | gen k ih => intro n ms c e h; exact ⟨ids n,ih _ h⟩
  | commit k ih => intro n ms c e h; exact ih (c := ⟨c.view,c.view,[],c.log⟩) h

/-- What is sure at a commit is sure of the state that a lone call leaves. -/
theorem Ran.wp {Mid : Ctx I State → Prop} {p : Txn I α} {Q : α → Ctx I State → Prop} {a : α} :
    ∀ {c}, wp S Mid p c Q → Ran S p c.view a d' → ∃ c', c'.view=d' ∧ Q a c' := by
  induction p with
  | done b => rintro c h ⟨rfl,rfl⟩; exact ⟨c,rfl,h⟩
  | refuse e => exact fun _ h => h.elim
  | ask q k ih => exact fun {c} h hr => ih _ (h c.view (Store.agree_refl _ _)) hr
  | lock key k ih => exact fun {c} h hr => ih (c := c.held [key]) h hr
  | exec w k ih => exact fun {c} h hr => ih (c := c.wrote S w) h hr.2
  | gen k ih => exact fun h ⟨n,hr⟩ => ih n (h n) hr
  | commit k ih => exact fun {c} h hr => ih (c := ⟨c.view,c.view,[],c.log⟩) (h.2 c.view (S.later_refl _)) hr

theorem Ran.for {f : α → Txn I β} (J : List α → State → Prop)
    (hstep : ∀ x xs d d' b, J (x::xs) d → Ran S (f x) d b d' → J xs d') :
    ∀ {xs : List α} {d bs}, J xs d → Ran S (each xs f) d bs d' → J [] d' := by
  intro xs
  induction xs with
  | nil => rintro d bs h ⟨_,rfl⟩; exact h
  | cons x xs ih =>
    intro d bs h hr
    simp only [each,ran_bind] at hr
    obtain ⟨b,e,hx,bs',e',hxs,_,rfl⟩ := hr
    exact ih (hstep x xs d e b h hx) hxs

end
end Transactions

namespace Relational

open Transactions Transactions.Txn

section
variable {D : Schema} {d d' : Db D} {t : D.Name} {id : D.Id t}

theorem ran_find {o : Option (D.Row t)} :
    Ran (database D) (find t id) d o d' ↔ o=(d t).get? id ∧ d=d' := Iff.rfl

theorem ran_findWhere {p : D.Row t → Bool} {o : Option (D.Row t)} :
    Ran (database D) (findWhere t id p) d o d' ↔ o=((d t).get? id).filter p ∧ d=d' := Iff.rfl

theorem ran_findMany {p : D.Row t → Bool} {rs : List (D.Row t)} :
    Ran (database D) (findMany t p) d rs d' ↔ rs=(d t).rows.filter p ∧ d=d' := Iff.rfl

theorem ran_findFirst {p : D.Row t → Bool} {o : Option (D.Row t)} :
    Ran (database D) (findFirst t p) d o d' ↔ o=(d t).rows.find? p ∧ d=d' := by
  rw [← List.head?_filter]
  exact Iff.rfl

@[simp] theorem ran_lockRow (u : Unit) :
    Ran (database D) (lockRow t id) d u d' ↔ d=d' := by
  simp [lockRow,acquire,Ran]

@[simp] theorem ran_update (p : D.Patch t) (u : Unit) :
    Ran (database D) (update t id p) d u d' ↔
      accepts (.update t id p) d=true ∧ apply (.update t id p) d=d' :=
  ran_write _ _

theorem Ran.insert {r : D.Row t} {u : Unit} (h : Ran (database D) (Relational.insert t r) d u d') :
    (d t).get? (D.key r)=none ∧ d'=apply (.insert t r) d := by
  simp only [Relational.insert,bind_eq,ran_bind,ran_lockRow,ran_require,ran_write] at h
  obtain ⟨_,_,rfl,o,_,hread,_,_,⟨hnone,rfl⟩,_,e,hunique,_,rfl⟩ := h
  obtain ⟨rfl,rfl⟩ := ran_find.mp hread
  rw [← hunique.reads (only_assertUnique r)]
  exact ⟨Option.isNone_iff_eq_none.mp hnone,rfl⟩

theorem Ran.aside {α : Type} {p : D.Name → Bool} {prog : Tx D α} {a : α}
    (h : Ran (database D) prog d a d') (hp : Only (fun w : Statement D => ¬p w.table=true) prog) :
    SameOn p d d' :=
  Ran.only (S := database D) SameOn.refl SameOn.trans (fun _ d hw => sameOn_apply d hw) hp h

end
end Relational
