import Mathlib.Algebra.Order.BigOperators.Group.List
import Mathlib.Data.List.Sort
import Mathlib.Algebra.Order.Group.Int
import Mathlib.Algebra.Ring.Int.Defs

/-! Sorting by a comparator that returns a number, and filling a demand from supplies in their
order. -/
namespace Filling

variable {α : Type}

section Comparators

/-- A comparator that a sort may be given: its sign turns round with its arguments, and what is
not after is a preorder. -/
structure Consistent (compare : α → α → ℤ) : Prop where
  swap : ∀ a b, 0<compare a b ↔ compare b a<0
  trans : ∀ a b c, compare a b≤0 → compare b c≤0 → compare a c≤0

variable {compare : α → α → ℤ}

theorem Consistent.total (h : Consistent compare) (a b : α) : compare a b≤0 ∨ compare b a≤0 := by
  by_cases hab : compare a b≤0
  · exact .inl hab
  · have hba := (h.swap a b).mp (by omega)
    exact .inr (by omega)

/-- Numbers are compared by their difference. -/
theorem consistent_sub (f : α → ℤ) : Consistent fun a b => f a-f b := by
  constructor
  · intro a b
    omega
  · intro a b c hab hbc
    omega

theorem Consistent.flip (h : Consistent compare) : Consistent fun a b => compare b a := by
  constructor
  · intro a b
    exact h.swap b a
  · intro a b c hab hbc
    exact h.trans c b a hbc hab

theorem Consistent.comp {β : Type} (h : Consistent compare) (f : β → α) :
    Consistent fun a b => compare (f a) (f b) :=
  ⟨fun a b => h.swap (f a) (f b),fun a b c => h.trans (f a) (f b) (f c)⟩

/-- The elements in the comparator's order, equal ones as they stood. -/
def sorted (compare : α → α → ℤ) (as : List α) : List α := as.insertionSort fun a b => compare a b≤0

theorem sorted_perm (compare : α → α → ℤ) (as : List α) : (sorted compare as).Perm as :=
  List.perm_insertionSort _ as

theorem sorted_pairwise (h : Consistent compare) (as : List α) :
    (sorted compare as).Pairwise fun a b => compare a b≤0 := by
  have : Std.Total fun a b => compare a b≤0 := ⟨h.total⟩
  have : IsTrans α fun a b => compare a b≤0 := ⟨h.trans⟩
  exact List.pairwise_insertionSort _ as

end Comparators

section Fill
variable {available : α → ℤ}

/-- From each supply what it has, up to what is still wanted. -/
def fill (available : α → ℤ) : List α → ℤ → List (α × ℤ)
  | [], _ => []
  | a::as, wanted =>
    if wanted≤0 then []
    else
      let amount := min (available a) wanted
      if amount≤0 then fill available as wanted
      else (a,amount)::fill available as (wanted-amount)

theorem fill_done (as : List α) {wanted : ℤ} (h : wanted≤0) : fill available as wanted=[] := by
  cases as with
  | nil => rfl
  | cons a as => simp [fill,h]

theorem fill_cons {a : α} (as : List α) {wanted : ℤ} (ha : 0<available a) (h : 0<wanted) :
    fill available (a::as) wanted=
      (a,min (available a) wanted)::fill available as (wanted-min (available a) wanted) := by
  have hamount : ¬min (available a) wanted≤0 := by omega
  simp [fill,hamount,not_le.mpr h]

theorem fill_first {as : List α} (hpos : ∀ a∈as, 0<available a) (wanted : ℤ) :
    (fill available as wanted).map (·.1) <+: as := by
  induction as generalizing wanted with
  | nil => exact List.prefix_rfl
  | cons a as ih =>
    by_cases h : 0<wanted
    · rw [fill_cons as (hpos a List.mem_cons_self) h,List.map_cons]
      refine (List.prefix_cons_inj a).mpr (ih ?_ _)
      exact fun b hb => hpos b (List.mem_cons_of_mem _ hb)
    · rw [fill_done _ (not_lt.mp h)]
      exact List.nil_prefix

theorem fill_amount {as : List α} (hpos : ∀ a∈as, 0<available a) (wanted : ℤ) :
    ∀ x∈fill available as wanted, 0<x.2 ∧ x.2≤available x.1 := by
  induction as generalizing wanted with
  | nil => exact fun x hx => by cases hx
  | cons a as ih =>
    by_cases h : 0<wanted
    · have ha := hpos a List.mem_cons_self
      rw [fill_cons as ha h]
      intro x hx
      rcases List.mem_cons.mp hx with rfl|hx
      · constructor
        · exact lt_min ha h
        · exact min_le_left _ _
      · exact ih (fun b hb => hpos b (List.mem_cons_of_mem _ hb)) _ x hx
    · rw [fill_done _ (not_lt.mp h)]
      exact fun x hx => by cases hx

theorem fill_consumed {as : List α} (hpos : ∀ a∈as, 0<available a) :
    ∀ {wanted : ℤ} {taken : List (α × ℤ)} {last : α × ℤ},
      fill available as wanted=taken++[last] → ∀ x∈taken, x.2=available x.1 := by
  induction as with
  | nil =>
    intro wanted taken last h
    simp [fill] at h
  | cons a as ih =>
    intro wanted taken last h x hx
    by_cases hwanted : 0<wanted
    · rw [fill_cons as (hpos a List.mem_cons_self) hwanted] at h
      cases taken with
      | nil => cases hx
      | cons y ys =>
        rw [List.cons_append] at h
        obtain ⟨rfl,hrest⟩ := List.cons.inj h
        rcases List.mem_cons.mp hx with rfl|hx
        · -- otherwise nothing was wanted after it
          by_contra hne
          have hmin : min (available a) wanted≠available a := hne
          rw [fill_done as (by omega)] at hrest
          exact List.cons_ne_nil _ _ (List.append_eq_nil_iff.mp hrest.symm).2
        · exact ih (fun b hb => hpos b (List.mem_cons_of_mem _ hb)) hrest x hx
    · rw [fill_done _ (not_lt.mp hwanted)] at h
      simp at h

theorem available_sum_nonneg {as : List α} (hpos : ∀ a∈as, 0<available a) :
    0≤(as.map available).sum := by
  refine List.sum_nonneg fun n hn => ?_
  obtain ⟨a,ha,rfl⟩ := List.mem_map.mp hn
  exact (hpos a ha).le

theorem fill_sum {as : List α} (hpos : ∀ a∈as, 0<available a) {wanted : ℤ} (h : 0≤wanted) :
    ((fill available as wanted).map (·.2)).sum=min wanted (as.map available).sum := by
  induction as generalizing wanted with
  | nil =>
    simp only [fill,List.map_nil,List.sum_nil]
    omega
  | cons a as ih =>
    have ha := hpos a List.mem_cons_self
    have hrest : ∀ b∈as, 0<available b := fun b hb => hpos b (List.mem_cons_of_mem _ hb)
    have hnonneg := available_sum_nonneg hrest
    rw [List.map_cons,List.sum_cons]
    rcases h.lt_or_eq with hwanted|rfl
    · rw [fill_cons as ha hwanted,List.map_cons,List.sum_cons,ih hrest (by omega)]
      omega
    · rw [fill_done _ le_rfl,List.map_nil,List.sum_nil]
      omega

theorem fill_before {as pre post : List α} {a : α} (hpos : ∀ b∈as, 0<available b) (hnodup : as.Nodup)
    (has : as=pre++a::post) {wanted n : ℤ} (h : (a,n)∈fill available as wanted) :
    ∀ b∈pre, (b,available b)∈fill available as wanted := by
  induction pre generalizing as wanted with
  | nil => exact fun b hb => by cases hb
  | cons c pre ih =>
    subst has
    rw [List.cons_append] at h hpos hnodup ⊢
    obtain ⟨hfirst,hrest⟩ := List.nodup_cons.mp hnodup
    have hposrest : ∀ b∈pre++a::post, 0<available b := fun b hb => hpos b (List.mem_cons_of_mem _ hb)
    by_cases hwanted : 0<wanted
    · rw [fill_cons _ (hpos c List.mem_cons_self) hwanted] at h ⊢
      have hlater : (a,n)∈fill available (pre++a::post) (wanted-min (available c) wanted) := by
        cases List.mem_cons.mp h with
        | inl hc =>
          have hac : a=c := congrArg Prod.fst hc
          exact absurd (hac ▸ List.mem_append_right _ List.mem_cons_self) hfirst
        | inr hlater => exact hlater
      -- otherwise nothing was wanted any more
      have hall : min (available c) wanted=available c := by
        by_contra hne
        rw [fill_done _ (by omega)] at hlater
        exact List.not_mem_nil hlater
      intro b hb
      cases List.mem_cons.mp hb with
      | inl hbc =>
        rw [hbc,hall]
        exact List.mem_cons_self
      | inr hbpre => exact List.mem_cons_of_mem _ (ih hposrest hrest rfl hlater b hbpre)
    · rw [fill_done _ (not_lt.mp hwanted)] at h
      exact absurd h List.not_mem_nil

theorem fill_all {as : List α} (hpos : ∀ a∈as, 0<available a) {wanted : ℤ} (h : 0≤wanted)
    (hless : ((fill available as wanted).map (·.2)).sum<wanted) :
    ∀ a∈as, (a,available a)∈fill available as wanted := by
  induction as generalizing wanted with
  | nil => exact fun a ha => by cases ha
  | cons c as ih =>
    have hposrest : ∀ a∈as, 0<available a := fun a ha => hpos a (List.mem_cons_of_mem _ ha)
    have hc := hpos c List.mem_cons_self
    by_cases hwanted : 0<wanted
    · rw [fill_cons _ hc hwanted] at hless ⊢
      rw [List.map_cons,List.sum_cons] at hless
      have hrest : 0≤wanted-min (available c) wanted := by omega
      have hfilled := (fill_sum hposrest hrest).ge
      have hsum := available_sum_nonneg hposrest
      have hall : min (available c) wanted=available c := by omega
      intro a ha
      cases List.mem_cons.mp ha with
      | inl hac =>
        rw [hac,hall]
        exact List.mem_cons_self
      | inr hlater => exact List.mem_cons_of_mem _ (ih hposrest (by omega) (by omega) a hlater)
    · rw [fill_done _ (not_lt.mp hwanted)] at hless
      simp only [List.map_nil,List.sum_nil] at hless
      omega

end Fill

end Filling
