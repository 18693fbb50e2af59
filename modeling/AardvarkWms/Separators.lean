import Mathlib.Data.List.Basic

/-! Texts put together with a separator between them, and when the parts can be told from the
whole. -/
namespace Separators

variable {α : Type} {c : α} {s s' t t' : List α}

/-- `c` stands between the parts. -/
def join (c : α) (parts : List (List α)) : List α := [c].intercalate parts

@[simp] theorem join_singleton : join c [s]=s := by simp [join,List.intercalate]

theorem join_cons (parts : List (List α)) : join c (s::t::parts)=s++c::join c (t::parts) := by
  simp [join,List.intercalate]

theorem join_split (c : α) (xs : List (List α)) (y : List α) (ys : List (List α)) :
    join c (xs++y::ys)=(xs.flatMap (·++[c]))++(y++ys.flatMap (c::·)) := by
  have hlast : ∀ y : List α, join c (y::ys)=y++ys.flatMap (c::·) := by
    induction ys with
    | nil => simp
    | cons z zs ih =>
      intro y
      rw [join_cons,ih z,List.flatMap_cons]
      rfl
  induction xs with
  | nil => exact hlast y
  | cons x xs ih =>
    have hne : ∃ z zs, xs++y::ys=z::zs := by cases xs <;> exact ⟨_,_,rfl⟩
    obtain ⟨z,zs,hz⟩ := hne
    rw [List.cons_append,hz,join_cons,← hz,ih,List.flatMap_cons]
    simp

section Parts
variable [DecidableEq α]

theorem takeWhile_before (h : c∉s) : (s++c::t).takeWhile (·≠c)=s := by
  rw [List.takeWhile_append_of_pos]
  · simp
  · intro x hx
    have hne : x≠c := fun he => h (he ▸ hx)
    simpa using hne

theorem split_first (hs : c∉s) (hs' : c∉s') (h : s++c::t=s'++c::t') : s=s' ∧ t=t' := by
  have hfirst : s=s' := by rw [← takeWhile_before hs,h,takeWhile_before hs']
  subst hfirst
  have htail := (List.append_right_inj s).mp h
  exact ⟨rfl,(List.cons.inj htail).2⟩

theorem split_last (ht : c∉t) (ht' : c∉t') (h : s++c::t=s'++c::t') : s=s' ∧ t=t' := by
  have hreverse : t.reverse++c::s.reverse=t'.reverse++c::s'.reverse := by
    have hboth := congrArg List.reverse h
    simpa using hboth
  have hparts := split_first (mt List.mem_reverse.mp ht) (mt List.mem_reverse.mp ht') hreverse
  exact ⟨List.reverse_injective hparts.2,List.reverse_injective hparts.1⟩

theorem splitOn_cons (a c : α) (s : List α) : (a::s).splitOn c=
    if a=c then []::s.splitOn c else (s.splitOn c).modifyHead (a::·) := by
  rw [List.splitOn_cons_eq_if_modifyHead]
  by_cases h : a=c
  · rw [if_pos h,if_pos (beq_iff_eq.mpr h)]
  · rw [if_neg h,if_neg (mt beq_iff_eq.mp h)]

theorem notMem_of_mem_splitOn (s : List α) : ∀ t∈s.splitOn c, c∉t := by
  induction s with
  | nil =>
    intro t ht
    rw [List.mem_singleton.mp ht]
    exact List.not_mem_nil
  | cons a s ih =>
    intro t ht
    rw [splitOn_cons] at ht
    split at ht
    · cases List.mem_cons.mp ht with
      | inl hfirst => exact hfirst ▸ List.not_mem_nil
      | inr hrest => exact ih t hrest
    · rename_i hne
      obtain ⟨first,rest,hparts⟩ := List.exists_cons_of_ne_nil (List.splitOn_ne_nil c s)
      rw [hparts] at ih ht
      rw [List.modifyHead_cons] at ht
      cases List.mem_cons.mp ht with
      | inl hfirst =>
        rw [hfirst,List.mem_cons,not_or]
        exact ⟨Ne.symm hne,ih first List.mem_cons_self⟩
      | inr hrest => exact ih t (List.mem_cons_of_mem first hrest)

end Parts

end Separators
