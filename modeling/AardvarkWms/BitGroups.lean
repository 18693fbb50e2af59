import Mathlib.Data.List.Basic

/-! Groups of bits: what an accumulator of a fixed width holds in its low bits, and when a row of
bits says which groups it was put together from. -/
namespace BitGroups

section Low
variable {w w' k n : ℕ} {u v : BitVec w}

/-- The low bits, the highest of them first. -/
def low (v : BitVec w) : ℕ → List Bool
  | 0 => []
  | n+1 => v.getLsbD n::low v n

@[simp] theorem low_length (v : BitVec w) (n : ℕ) : (low v n).length=n := by
  induction n with
  | zero => rfl
  | succ n ih => rw [low,List.length_cons,ih]

theorem low_congr {u : BitVec w} {v : BitVec w'} (h : ∀ i < n, u.getLsbD i=v.getLsbD i) :
    low u n=low v n := by
  induction n with
  | zero => rfl
  | succ n ih => rw [low,low,h n (by omega),ih fun i hi => h i (by omega)]

theorem low_add (v : BitVec w) (m n : ℕ) : low v (m+n)=low (v >>> n) m++low v n := by
  induction m with
  | zero =>
    rw [Nat.zero_add]
    rfl
  | succ m ih =>
    rw [Nat.succ_add,low,low,ih,List.cons_append,BitVec.getLsbD_ushiftRight,Nat.add_comm n m]

/-- A group that is shifted in comes after what was there. What was above the low bits does not
matter, as long as there is room for these and the group. -/
theorem low_shift (v : BitVec w) (x : BitVec k) (hroom : n+k≤w) :
    low (v <<< k ||| x.setWidth w) (n+k)=low v n++low x k := by
  rw [low_add]
  have hold : low ((v <<< k ||| x.setWidth w) >>> k) n=low v n := by
    refine low_congr fun i hi => ?_
    have hin : k+i < w := by omega
    have hout : x.getLsbD (k+i)=false := BitVec.getLsbD_of_ge x (k+i) (by omega)
    rw [BitVec.getLsbD_ushiftRight,BitVec.getLsbD_or,BitVec.getLsbD_shiftLeft,BitVec.getLsbD_setWidth,
      hout,Nat.add_sub_cancel_left]
    simp [hin]
  have hnew : low (v <<< k ||| x.setWidth w) k=low x k := by
    refine low_congr fun i hi => ?_
    have hin : i < w := by omega
    simp [hin,hi]
  rw [hold,hnew]

theorem low_shift_zero (v : BitVec w) (hroom : n+k≤w) :
    low (v <<< k) (n+k)=low v n++List.replicate k false := by
  have hzero : ∀ k, low (0#k) k=List.replicate k false := by
    intro k
    have hall : ∀ n, low (0#k) n=List.replicate n false := by
      intro n
      induction n with
      | zero => rfl
      | succ n ih => rw [low,ih,BitVec.getLsbD_zero,List.replicate_succ]
    exact hall k
  have hshift := low_shift v (0#k) hroom
  rw [BitVec.setWidth_zero,BitVec.or_zero,hzero] at hshift
  exact hshift

theorem low_setWidth (v : BitVec w) : low (v.setWidth n) n=low v n := by
  refine low_congr fun i hi => ?_
  simp [hi]

theorem low_inj (h : low u w=low v w) : u=v := by
  have hbits : ∀ n, low u n=low v n → ∀ i < n, u.getLsbD i=v.getLsbD i := by
    intro n
    induction n with
    | zero =>
      intro _ i hi
      omega
    | succ n ih =>
      intro hn i hi
      rw [low,low] at hn
      have hboth := List.cons.inj hn
      by_cases hlast : i=n
      · rw [hlast]
        exact hboth.1
      · exact ih hboth.2 i (by omega)
  exact BitVec.eq_of_getLsbD_eq fun i hi => hbits w h i hi

end Low

section Groups
variable {α : Type} {f : α → List Bool} {k : ℕ}

theorem groups_inj (hlength : ∀ a, (f a).length=k) (hinj : ∀ a b, f a=f b → a=b) :
    ∀ {as bs : List α} {r r' : List Bool}, r.length < k → r'.length < k →
      as.flatMap f++r=bs.flatMap f++r' → as=bs ∧ r=r' := by
  intro as
  induction as with
  | nil =>
    intro bs r r' hr _ h
    cases bs with
    | nil => exact ⟨rfl,h⟩
    | cons b bs =>
      have hsum := congrArg List.length h
      rw [List.flatMap_cons] at hsum
      simp only [List.flatMap_nil,List.nil_append,List.length_append,hlength] at hsum
      omega
  | cons a as ih =>
    intro bs r r' hr hr' h
    cases bs with
    | nil =>
      have hsum := congrArg List.length h
      rw [List.flatMap_cons] at hsum
      simp only [List.flatMap_nil,List.nil_append,List.length_append,hlength] at hsum
      omega
    | cons b bs =>
      rw [List.flatMap_cons,List.flatMap_cons,List.append_assoc,List.append_assoc] at h
      have hsplit := List.append_inj h ((hlength a).trans (hlength b).symm)
      have hrest := ih hr hr' hsplit.2
      exact ⟨by rw [hinj a b hsplit.1,hrest.1],hrest.2⟩

end Groups

end BitGroups
