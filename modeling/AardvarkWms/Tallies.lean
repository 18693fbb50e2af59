import Mathlib.Algebra.BigOperators.Group.List.Basic
import Mathlib.Data.List.Nodup
import Mathlib.Algebra.Order.Group.Int
import Mathlib.Algebra.Ring.Int.Defs

/-! Maps that keep their keys in the order in which they came, and what is tallied in one. -/
namespace Tallies

variable {κ α β : Type} [DecidableEq κ]

/-- Replace what stands at the key, or else add it at the end. -/
def upsert (k : κ) (f : Option β → β) : List (κ × β) → List (κ × β)
  | [] => [(k,f none)]
  | entry::m => if entry.1=k then (k,f (some entry.2))::m else entry::upsert k f m

def get? (m : List (κ × β)) (k : κ) : Option β := (m.find? (·.1=k)).map (·.2)

/-- The map that a loop fills: each element changes what stands at its key. -/
def tally (key : α → κ) (f : α → Option β → β) (as : List α) (m : List (κ × β)) : List (κ × β) :=
  as.foldl (fun m a => upsert (key a) (f a) m) m

variable {k k' : κ} {f : Option β → β} {m : List (κ × β)}

@[simp] theorem get?_nil : get? ([] : List (κ × β)) k=none := rfl

theorem get?_cons (entry : κ × β) :
    get? (entry::m) k=if entry.1=k then some entry.2 else get? m k := by
  by_cases h : entry.1=k <;> simp [get?,h]

theorem get?_upsert_self : get? (upsert k f m) k=some (f (get? m k)) := by
  induction m with
  | nil => simp [upsert,get?]
  | cons entry m ih =>
    by_cases h : entry.1=k
    · simp [upsert,get?_cons,h]
    · simp [upsert,get?_cons,h,ih]

theorem get?_upsert_ne (h : k'≠k) : get? (upsert k f m) k'=get? m k' := by
  induction m with
  | nil => simp [upsert,get?,Ne.symm h]
  | cons entry m ih =>
    by_cases hk : entry.1=k
    · simp [upsert,get?_cons,hk,Ne.symm h]
    · simp [upsert,get?_cons,hk,ih]

theorem mem_keys_upsert : k'∈(upsert k f m).map (·.1) ↔ k'=k ∨ k'∈m.map (·.1) := by
  induction m with
  | nil => simp [upsert]
  | cons entry m ih =>
    unfold upsert
    by_cases h : entry.1=k
    · rw [if_pos h,List.map_cons,List.map_cons,List.mem_cons,List.mem_cons,h]
      tauto
    · rw [if_neg h,List.map_cons,List.map_cons,List.mem_cons,List.mem_cons,ih]
      tauto

theorem nodup_upsert (h : (m.map (·.1)).Nodup) : ((upsert k f m).map (·.1)).Nodup := by
  induction m with
  | nil => exact List.nodup_singleton k
  | cons entry m ih =>
    rw [List.map_cons,List.nodup_cons] at h
    unfold upsert
    by_cases hk : entry.1=k
    · rw [if_pos hk,List.map_cons,List.nodup_cons]
      exact ⟨hk ▸ h.1,h.2⟩
    · rw [if_neg hk,List.map_cons,List.nodup_cons]
      refine ⟨fun hmem => ?_,ih h.2⟩
      rcases mem_keys_upsert.mp hmem with he|hmem
      · exact hk he
      · exact h.1 hmem

theorem mem_iff_get? (h : (m.map (·.1)).Nodup) (e : κ × β) : e∈m ↔ get? m e.1=some e.2 := by
  induction m with
  | nil => simp
  | cons entry m ih =>
    rw [List.map_cons,List.nodup_cons] at h
    rw [List.mem_cons,get?_cons,ih h.2]
    by_cases hk : entry.1=e.1
    · have hnone : get? m e.1≠some e.2 := by
        intro hget
        have hmem := (ih h.2).mpr hget
        exact h.1 (hk ▸ List.mem_map.mpr ⟨e,hmem,rfl⟩)
      simp only [hk,if_true,hnone,or_false,Option.some.injEq]
      constructor
      · rintro rfl
        rfl
      · exact fun hv => Prod.ext hk.symm hv.symm
    · have hne : e≠entry := fun he => hk (congrArg Prod.fst he.symm)
      simp [hk,hne]

section Tally
variable {key : α → κ} {g : α → Option β → β}

theorem nodup_tally (as : List α) (h : (m.map (·.1)).Nodup) :
    ((tally key g as m).map (·.1)).Nodup := by
  induction as generalizing m with
  | nil => exact h
  | cons a as ih => exact ih (nodup_upsert h)

theorem get?_tally (as : List α) (k : κ) : get? (tally key g as m) k=
    (as.filter (key ·=k)).foldl (fun o a => some (g a o)) (get? m k) := by
  induction as generalizing m with
  | nil => rfl
  | cons a as ih =>
    change get? (tally key g as (upsert (key a) (g a) m)) k=_
    rw [ih]
    by_cases h : key a=k
    · subst h
      simp [get?_upsert_self]
    · rw [get?_upsert_ne (Ne.symm h)]
      simp [h]

theorem foldl_some (as : List α) (b : β) :
    as.foldl (fun o a => some (g a o)) (some b)=some (as.foldl (fun b a => g a (some b)) b) := by
  induction as generalizing b with
  | nil => rfl
  | cons a as ih => exact ih (g a (some b))

theorem mem_tally (as : List α) (e : κ × β) : e∈tally key g as [] ↔
    ∃ a rest, as.filter (key ·=e.1)=a::rest ∧ e.2=rest.foldl (fun b a => g a (some b)) (g a none) := by
  have hnil : (([] : List (κ × β)).map (·.1)).Nodup := List.nodup_nil
  rw [mem_iff_get? (nodup_tally as hnil),get?_tally,get?_nil]
  cases as.filter (key ·=e.1) with
  | nil => simp
  | cons a rest =>
    rw [List.foldl_cons,foldl_some]
    constructor
    · exact fun h => ⟨a,rest,rfl,(Option.some.inj h).symm⟩
    · rintro ⟨a',rest',heq,he⟩
      cases heq
      exact congrArg some he.symm

/-- The sum of what the elements have. -/
def summed (amount : α → ℤ) (a : α) (o : Option ℤ) : ℤ := o.getD 0+amount a

theorem foldl_summed (amount : α → ℤ) (as : List α) (n : ℤ) :
    as.foldl (fun n a => summed amount a (some n)) n=n+(as.map amount).sum := by
  induction as generalizing n with
  | nil => simp
  | cons a as ih =>
    have hstep : summed amount a (some n)=n+amount a := rfl
    rw [List.foldl_cons,hstep,ih,List.map_cons,List.sum_cons,add_assoc]

theorem mem_tally_summed (key : α → κ) (amount : α → ℤ) (as : List α) (e : κ × ℤ) :
    e∈tally key (summed amount) as [] ↔
      (∃ a∈as, key a=e.1) ∧ e.2=((as.filter (key ·=e.1)).map amount).sum := by
  have hsome : (∃ a∈as, key a=e.1) ↔ as.filter (key ·=e.1)≠[] := by
    rw [Ne,List.filter_eq_nil_iff]
    push Not
    simp
  have hfirst : ∀ a, summed amount a none=amount a := fun a => zero_add _
  rw [mem_tally,hsome]
  cases as.filter (key ·=e.1) with
  | nil => simp
  | cons a rest => simp [foldl_summed,hfirst]

theorem getD_get?_tally_summed (key : α → κ) (amount : α → ℤ) (as : List α) (k : κ) :
    (get? (tally key (summed amount) as []) k).getD 0=((as.filter (key ·=k)).map amount).sum := by
  have hfirst : ∀ a, summed amount a none=amount a := fun a => zero_add _
  rw [get?_tally,get?_nil]
  cases as.filter (key ·=k) with
  | nil => rfl
  | cons a rest =>
    rw [List.foldl_cons,foldl_some,foldl_summed,hfirst]
    rfl

end Tally

end Tallies
