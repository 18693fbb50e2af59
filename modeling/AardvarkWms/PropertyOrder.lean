import AardvarkWms.Numerals
import Mathlib.Data.List.Sort

/-! The order in which an object has its properties, and entries sorted by a locale's comparison. -/
namespace PropertyOrder
open Numerals

variable {β γ : Type}

/-- A locale's comparison of texts; different texts may be equal to it. -/
structure Collation where
  le : Text → Text → Bool
  total : ∀ s t, le s t=true ∨ le t s=true
  trans : ∀ s t u, le s t=true → le t u=true → le s u=true

def Collation.Tied (c : Collation) (s t : Text) : Prop := c.le s t=true ∧ c.le t s=true

def indexText (n : ℕ) : Text := if n=0 then [unit '0'] else decimal n

def indexValue (key : Text) : ℕ := key.foldl (fun n u => 10*n+(u.toNat-48)) 0

/-- Whether a key is an array index, as it would be written. -/
def isIndex (key : Text) : Bool := indexValue key < 4294967295 && key=indexText (indexValue key)

theorem isIndex_inj {s t : Text} (hs : isIndex s=true) (ht : isIndex t=true)
    (h : indexValue s=indexValue t) : s=t := by
  have hs' := of_decide_eq_true (Bool.and_eq_true_iff.mp hs).2
  have ht' := of_decide_eq_true (Bool.and_eq_true_iff.mp ht).2
  rw [hs',ht',h]

section Orders

/-- Indices first, from small to large, then the other keys as they were added. -/
def ownOrder (fields : List (Text × β)) : List (Text × β) :=
  (fields.filter (isIndex ·.1)).insertionSort (fun f g => indexValue f.1≤ indexValue g.1)++
    fields.filter (!isIndex ·.1)

variable (c : Collation)

/-- The entries sorted by key; the sort is stable. -/
def sortEntries (fields : List (Text × β)) : List (Text × β) :=
  fields.insertionSort (fun f g => c.le f.1 g.1)

/-- `Object.fromEntries(Object.entries(object).sort(...))` -/
def arrange (fields : List (Text × β)) : List (Text × β) :=
  ownOrder (sortEntries c (ownOrder fields))

theorem ownOrder_perm (fields : List (Text × β)) : (ownOrder fields).Perm fields := by
  have hsorted := List.perm_insertionSort
    (fun f g : Text × β => indexValue f.1≤ indexValue g.1) (fields.filter (isIndex ·.1))
  exact (hsorted.append_right _).trans (List.filter_append_perm (isIndex ·.1) fields)

variable {c}

theorem arrange_perm (fields : List (Text × β)) : (arrange c fields).Perm fields :=
  (ownOrder_perm _).trans ((List.perm_insertionSort _ _).trans (ownOrder_perm fields))

theorem ownOrder_map (f : β → γ) (fields : List (Text × β)) :
    ownOrder (fields.map fun x => (x.1,f x.2))=(ownOrder fields).map fun x => (x.1,f x.2) := by
  unfold ownOrder
  rw [List.map_append,List.filter_map,List.filter_map]
  congr 1
  exact (List.map_insertionSort (fun f g : Text × β => indexValue f.1≤ indexValue g.1)
    (fun f g : Text × γ => indexValue f.1≤ indexValue g.1) (fun x => (x.1,f x.2)) _
    fun a _ b _ => Iff.rfl).symm

theorem arrange_map (f : β → γ) (fields : List (Text × β)) :
    arrange c (fields.map fun x => (x.1,f x.2))=(arrange c fields).map fun x => (x.1,f x.2) := by
  have hsort : ∀ fields : List (Text × β), sortEntries c (fields.map fun x => (x.1,f x.2))=
      (sortEntries c fields).map fun x => (x.1,f x.2) := fun fields =>
    (List.map_insertionSort (fun f g : Text × β => c.le f.1 g.1=true)
      (fun f g : Text × γ => c.le f.1 g.1=true) (fun x => (x.1,f x.2)) fields
      fun a _ b _ => Iff.rfl).symm
  unfold arrange
  rw [ownOrder_map,hsort,ownOrder_map]

end Orders

section Ties
variable {c : Collation} {fields fields' : List (Text × β)}

/-- No two keys are equal to the locale, but for indices, which are ordered by number. -/
def Untied (c : Collation) (fields : List (Text × β)) : Prop :=
  ∀ f∈fields, ∀ g∈fields, isIndex f.1=false → isIndex g.1=false → c.Tied f.1 g.1 → f.1=g.1

theorem sortEntries_pairwise (fields : List (Text × β)) :
    (sortEntries c fields).Pairwise (fun f g => c.le f.1 g.1=true) := by
  have htotal : Std.Total (fun f g : Text × β => c.le f.1 g.1=true) :=
    ⟨fun f g => c.total f.1 g.1⟩
  have htrans : IsTrans (Text × β) (fun f g => c.le f.1 g.1=true) :=
    ⟨fun f g k => c.trans f.1 g.1 k.1⟩
  exact List.pairwise_insertionSort _ fields

theorem indices_eq {entries entries' : List (Text × β)}
    (hperm : (entries.filter (isIndex ·.1)).Perm (entries'.filter (isIndex ·.1)))
    (hone : ∀ f∈entries, ∀ g∈entries, f.1=g.1 → f=g) :
    (entries.filter (isIndex ·.1)).insertionSort (fun f g => indexValue f.1≤ indexValue g.1)=
      (entries'.filter (isIndex ·.1)).insertionSort (fun f g => indexValue f.1≤ indexValue g.1) := by
  have htotal : Std.Total (fun f g : Text × β => indexValue f.1≤ indexValue g.1) :=
    ⟨fun f g => Nat.le_total _ _⟩
  have htrans : IsTrans (Text × β) (fun f g => indexValue f.1≤ indexValue g.1) :=
    ⟨fun f g k => Nat.le_trans⟩
  have hsorted := List.perm_insertionSort (fun f g : Text × β => indexValue f.1≤ indexValue g.1)
  refine List.Perm.eq_of_pairwise ?_ (List.pairwise_insertionSort _ _)
    (List.pairwise_insertionSort _ _) ((hsorted _).trans (hperm.trans (hsorted _).symm))
  intro f g hf hg hle hle'
  have hf' := List.mem_filter.mp ((hsorted _).mem_iff.mp hf)
  have hg' := List.mem_filter.mp (hperm.mem_iff.mpr ((hsorted _).mem_iff.mp hg))
  exact hone f hf'.1 g hg'.1 (isIndex_inj hf'.2 hg'.2 (Nat.le_antisymm hle hle'))

theorem arrange_eq_of_perm (hperm : fields.Perm fields') (hkeys : (fields.map (·.1)).Nodup)
    (huntied : Untied c fields) : arrange c fields=arrange c fields' := by
  have hsorted : ∀ fields : List (Text × β), (sortEntries c (ownOrder fields)).Perm fields :=
    fun fields => (List.perm_insertionSort _ _).trans (ownOrder_perm fields)
  have hsame := (hsorted fields).trans (hperm.trans (hsorted fields').symm)
  have hone : ∀ f∈fields, ∀ g∈fields, f.1=g.1 → f=g := fun f hf g hg =>
    List.inj_on_of_nodup_map hkeys hf hg
  have hmem : ∀ f∈sortEntries c (ownOrder fields), f∈fields := fun f =>
    (hsorted fields).mem_iff.mp
  have hmem' : ∀ f∈sortEntries c (ownOrder fields'), f∈fields := fun f hf =>
    hperm.mem_iff.mpr ((hsorted fields').mem_iff.mp hf)
  have hordered : ∀ fields : List (Text × β), (sortEntries c fields).Pairwise
      (fun f g => c.le f.1 g.1=true) := sortEntries_pairwise
  have hpairwise := hordered (ownOrder fields)
  have hpairwise' := hordered (ownOrder fields')
  unfold arrange
  generalize sortEntries c (ownOrder fields)=entries at hsame hmem hpairwise ⊢
  generalize sortEntries c (ownOrder fields')=entries' at hsame hmem' hpairwise' ⊢
  have hindices : (entries.filter (isIndex ·.1)).insertionSort
      (fun f g => indexValue f.1≤ indexValue g.1)=
        (entries'.filter (isIndex ·.1)).insertionSort (fun f g => indexValue f.1≤ indexValue g.1) :=
    indices_eq (hsame.filter _) fun f hf g hg => hone f (hmem f hf) g (hmem g hg)
  have hrest : entries.filter (!isIndex ·.1)=entries'.filter (!isIndex ·.1) := by
    refine List.Perm.eq_of_pairwise ?_ (hpairwise.filter _) (hpairwise'.filter _) (hsame.filter _)
    intro f g hf hg hle hle'
    have hf' := List.mem_filter.mp hf
    have hg' := List.mem_filter.mp hg
    have hfields := hmem f hf'.1
    have hfields' := hmem' g hg'.1
    exact hone f hfields g hfields' (huntied f hfields g hfields' (by simpa using hf'.2)
      (by simpa using hg'.2) ⟨hle,hle'⟩)
  unfold ownOrder
  rw [hindices,hrest]

theorem pair_sublist {α : Type} {x y : α} {l : List α} (hx : x∈l) (hy : y∈l) (hne : x≠y) :
    [x,y].Sublist l ∨ [y,x].Sublist l := by
  induction l with
  | nil => cases hx
  | cons a l ih =>
    cases List.mem_cons.mp hx with
    | inl hxa =>
      subst hxa
      have hyl : y∈l := (List.mem_cons.mp hy).resolve_left (Ne.symm hne)
      exact Or.inl ((List.singleton_sublist.mpr hyl).cons_cons x)
    | inr hxl =>
      cases List.mem_cons.mp hy with
      | inl hya =>
        subst hya
        exact Or.inr ((List.singleton_sublist.mpr hxl).cons_cons y)
      | inr hyl => exact (ih hxl hyl).imp (·.cons a) (·.cons a)

theorem not_both_orders {α : Type} {x y : α} {l : List α} (hn : l.Nodup) (h : [x,y].Sublist l)
    (h' : [y,x].Sublist l) : False := by
  induction l with
  | nil => cases h
  | cons a l ih =>
    have hrest := List.nodup_cons.mp hn
    cases h with
    | cons _ h =>
      cases h' with
      | cons _ h' => exact ih hrest.2 h h'
      | cons_cons _ h' => exact hrest.1 (h.subset (by simp))
    | cons_cons _ h =>
      cases h' with
      | cons _ h' => exact hrest.1 (h'.subset (by simp))
      | cons_cons _ h' => exact hrest.1 (h.subset (by simp))

theorem sublist_arrange {f g : Text × β} (htied : c.Tied f.1 g.1) (hf : isIndex f.1=false)
    (hg : isIndex g.1=false) (h : [f,g].Sublist fields) : [f,g].Sublist (arrange c fields) := by
  have hown : ∀ fields : List (Text × β), [f,g].Sublist fields → [f,g].Sublist (ownOrder fields) := by
    intro fields h
    have hfilter := h.filter (!isIndex ·.1)
    have hboth : [f,g].filter (!isIndex ·.1)=[f,g] := by simp [hf,hg]
    rw [hboth] at hfilter
    exact hfilter.trans (List.sublist_append_right _ _)
  exact hown _ (List.pair_sublist_insertionSort htied.1 (hown _ h))

theorem arrange_reverse_ne (hkeys : (fields.map (·.1)).Nodup) (htied : ¬Untied c fields) :
    arrange c fields≠arrange c fields.reverse := by
  have hpair : ∃ f g, c.Tied f.1 g.1 ∧ isIndex f.1=false ∧ isIndex g.1=false ∧
      [f,g].Sublist fields := by
    unfold Untied at htied
    push Not at htied
    obtain ⟨f,hf,g,hg,hindex,hindex',htied,hne⟩ := htied
    have hne' : f≠g := fun he => hne (congrArg Prod.fst he)
    cases pair_sublist hf hg hne' with
    | inl h => exact ⟨f,g,htied,hindex,hindex',h⟩
    | inr h => exact ⟨g,f,htied.symm,hindex',hindex,h⟩
  obtain ⟨f,g,htied,hf,hg,hsub⟩ := hpair
  intro heq
  have hnodup : (arrange c fields).Nodup :=
    (arrange_perm fields).nodup_iff.mpr (List.Nodup.of_map _ hkeys)
  have hreverse : [g,f].Sublist fields.reverse := by simpa using hsub.reverse
  have hback := sublist_arrange htied.symm hg hf hreverse
  rw [← heq] at hback
  exact not_both_orders hnodup (sublist_arrange htied hf hg hsub) hback

end Ties

end PropertyOrder
