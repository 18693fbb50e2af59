import Mathlib.Data.List.Basic

/-! Steps that each take effect on their own: when a later one is refused, the earlier ones stay. -/
namespace Stepwise

section Run
variable {α β ε σ : Type} {x : EStateM ε σ α} {s s' : σ} {a : α} {e : ε}

theorem bind_ok (h : x s=.ok a s') (f : α → EStateM ε σ β) : (x >>= f) s=f a s' := by
  show EStateM.bind x f s=_
  simp only [EStateM.bind,h]

theorem bind_error (h : x s=.error e s') (f : α → EStateM ε σ β) :
    (x >>= f) s=.error e s' := by
  show EStateM.bind x f s=_
  simp only [EStateM.bind,h]

theorem tryCatch_ok (h : x s=.ok a s') (f : ε → EStateM ε σ α) :
    tryCatch x f s=.ok a s' := by
  show EStateM.tryCatch x f s=_
  simp only [EStateM.tryCatch,h]

theorem tryCatch_error (h : x s=.error e s') (f : ε → EStateM ε σ α) :
    tryCatch x f s=f e s' := by
  show EStateM.tryCatch x f s=_
  simp only [EStateM.tryCatch,h]
  rfl

end Run

variable {β ε σ : Type}

/-- Each step is refused and leaves the state, or writes; what is written changes no other
step's refusal. -/
structure Steps (f : β → EStateM ε σ Unit) where
  refusal : σ → β → Option ε
  write : σ → β → σ
  run : ∀ s x, f x s=(refusal s x).elim (.ok () (write s x)) fun e => .error e s
  keeps : ∀ {s x}, refusal s x=none → ∀ y, refusal (write s x) y=refusal s y

namespace Steps
variable {f : β → EStateM ε σ Unit} (F : Steps f)

/-- The steps before the first refused one. -/
def accepted (s : σ) (xs : List β) : List β := xs.takeWhile fun x => (F.refusal s x).isNone

def after (s : σ) (xs : List β) : σ := (F.accepted s xs).foldl F.write s

theorem after_refused {s : σ} {x : β} {e : ε} (h : F.refusal s x=some e) (xs : List β) :
    F.after s (x::xs)=s := by
  simp [after,accepted,h]

theorem after_accepted {s : σ} {x : β} (h : F.refusal s x=none) (xs : List β) :
    F.after s (x::xs)=F.after (F.write s x) xs := by
  have hsame : F.accepted (F.write s x) xs=F.accepted s xs := by
    simp only [accepted,F.keeps h]
  unfold after
  rw [hsame]
  simp [accepted,h]

/-- The steps in order: all of them are taken, or those before the first refused one. -/
theorem forM_run (s : σ) (xs : List β) :
    xs.forM f s=
      (xs.findSome? (F.refusal s)).elim (.ok () (F.after s xs)) fun e => .error e (F.after s xs) := by
  induction xs generalizing s with
  | nil => rfl
  | cons x xs ih =>
    have hstep : (x::xs).forM f s=(f x >>= fun _ => xs.forM f) s := rfl
    have hx := F.run s x
    rw [hstep]
    cases h : F.refusal s x with
    | some e =>
      rw [h] at hx
      rw [bind_error hx,F.after_refused h]
      simp [h]
    | none =>
      have hsame : F.refusal (F.write s x)=F.refusal s := funext fun y => F.keeps h y
      rw [h] at hx
      rw [bind_ok hx,ih,F.after_accepted h,hsame]
      simp [h]

theorem forM_ok {s : σ} {xs : List β} (h : ∀ x∈xs, F.refusal s x=none) :
    xs.forM f s=.ok () (F.after s xs) := by
  have hnone : xs.findSome? (F.refusal s)=none := List.findSome?_eq_none_iff.mpr h
  rw [F.forM_run,hnone]
  rfl

theorem forM_error {s : σ} {xs : List β} (h : ∃ x∈xs, F.refusal s x≠none) :
    ∃ e, xs.forM f s=.error e (F.after s xs) := by
  cases hsome : xs.findSome? (F.refusal s) with
  | none =>
    obtain ⟨x,hx,hne⟩ := h
    exact (hne (List.findSome?_eq_none_iff.mp hsome x hx)).elim
  | some e =>
    refine ⟨e,?_⟩
    rw [F.forM_run,hsome]
    rfl

end Steps
end Stepwise
