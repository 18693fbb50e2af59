import Mathlib.Data.List.Sort

/-! Sorting with a comparison, as far as it is laid down: where the comparison puts what there is to
sort in order, the sorted list is in that order and keeps the order of what is equal. -/
namespace ArraySorting

variable {α : Type} {cmp : α → α → Ordering} {l l' : List α}

/-- Of the elements of a list the comparison is a preorder. -/
structure Consistent (cmp : α → α → Ordering) (l : List α) : Prop where
  swap : ∀ a∈l, ∀ b∈l, cmp b a=(cmp a b).swap
  trans : ∀ a∈l, ∀ b∈l, ∀ c∈l, (cmp a b).isLE=true → (cmp b c).isLE=true → (cmp a c).isLE=true

/-- `Array.prototype.sort`; what an inconsistent comparison leads to is left open. -/
structure SortMethod where
  sort : {α : Type} → (α → α → Ordering) → List α → List α
  perm : ∀ {α : Type} (cmp : α → α → Ordering) (l : List α), (sort cmp l).Perm l
  sorted : ∀ {α : Type} {cmp : α → α → Ordering} {l : List α}, Consistent cmp l →
    (sort cmp l).Pairwise fun a b => (cmp a b).isLE=true
  stable : ∀ {α : Type} {cmp : α → α → Ordering} {l : List α} {a b : α}, Consistent cmp l →
    (cmp a b).isLE=true → [a,b].Sublist l → [a,b].Sublist (sort cmp l)

theorem Consistent.of_agree (lex : α → α → Ordering) [Std.TransCmp lex]
    (h : ∀ a∈l, ∀ b∈l, cmp a b=lex a b) : Consistent cmp l where
  swap a ha b hb := by
    rw [h b hb a ha,h a ha b hb]
    exact Std.OrientedCmp.eq_swap
  trans a ha b hb c hc hab hbc := by
    rw [h a ha b hb] at hab
    rw [h b hb c hc] at hbc
    rw [h a ha c hc]
    exact Std.TransCmp.isLE_trans hab hbc

theorem Consistent.perm (h : Consistent cmp l) (hperm : l'.Perm l) : Consistent cmp l' where
  swap a ha b hb := h.swap a (hperm.mem_iff.mp ha) b (hperm.mem_iff.mp hb)
  trans a ha b hb c hc := h.trans a (hperm.mem_iff.mp ha) b (hperm.mem_iff.mp hb) c
    (hperm.mem_iff.mp hc)

theorem SortMethod.sort_perm (m : SortMethod) (h : Consistent cmp l)
    (hdistinct : ∀ a∈l, ∀ b∈l, cmp a b=.eq → a=b) (hperm : l'.Perm l) :
    m.sort cmp l'=m.sort cmp l := by
  have hmem : ∀ {a}, a∈m.sort cmp l' → a∈l := fun ha =>
    hperm.mem_iff.mp ((m.perm cmp l').mem_iff.mp ha)
  have hmem' : ∀ {a}, a∈m.sort cmp l → a∈l := fun ha => (m.perm cmp l).mem_iff.mp ha
  refine List.Perm.eq_of_pairwise (fun a b ha hb hab hba => ?_) (m.sorted (h.perm hperm))
    (m.sorted h) ((m.perm cmp l').trans (hperm.trans (m.perm cmp l).symm))
  refine hdistinct a (hmem ha) b (hmem' hb) ?_
  rw [h.swap a (hmem ha) b (hmem' hb)] at hba
  cases hcmp : cmp a b with
  | lt =>
    rw [hcmp] at hba
    cases hba
  | eq => rfl
  | gt =>
    rw [hcmp] at hab
    cases hab

/-- Sorting by insertion is one way. -/
def insertion : SortMethod where
  sort cmp l := l.insertionSort fun a b => (cmp a b).isLE=true
  perm _ l := List.perm_insertionSort _ l
  sorted := by
    intro α cmp l h
    let le := fun a b : {a // a∈l} => (cmp a.1 b.1).isLE=true
    have htotal : Std.Total le := by
      refine ⟨fun a b => ?_⟩
      change (cmp a.1 b.1).isLE=true ∨ (cmp b.1 a.1).isLE=true
      rw [h.swap a.1 a.2 b.1 b.2]
      cases cmp a.1 b.1 <;> simp
    have htrans : IsTrans _ le := ⟨fun a b c => h.trans a.1 a.2 b.1 b.2 c.1 c.2⟩
    have hattach : (l.attach.insertionSort le).map Subtype.val=
        l.insertionSort fun a b => (cmp a b).isLE=true := by
      rw [List.map_insertionSort le (fun a b => (cmp a b).isLE=true) Subtype.val l.attach
        fun _ _ _ _ => Iff.rfl,List.attach_map_subtype_val]
    rw [← hattach]
    exact List.pairwise_map.mpr (List.pairwise_insertionSort le l.attach)
  stable := fun _ hle hsub => List.pair_sublist_insertionSort hle hsub

end ArraySorting
