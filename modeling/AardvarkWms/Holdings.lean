import AardvarkWms.Table

/-! Two tables that account for each other: the rows of one hold amounts of the rows of the
other, and a column of the latter is bound to what is held in sum. -/

variable {α β κ κ' : Type}

namespace Table
variable {ka : α → κ} {kb : β → κ'}

theorem total_ite (t : Table kb) (p : β → Bool) (f : β → ℤ) :
    t.total (fun b => if p b then f b else 0)=((t.rows.filter p).map f).sum := by
  unfold total
  induction t.rows with
  | nil => rfl
  | cons b l ih =>
    by_cases hp : p b=true
    · simp [hp,ih]
    · simp [hp,ih]

variable [DecidableEq κ] [DecidableEq κ']
variable {owner : β → Option κ} {live : β → ℤ} {P : α → ℤ → Prop}

/-- What the rows of `H` hold of the account `k`. -/
def held (owner : β → Option κ) (live : β → ℤ) (k : κ) (H : Table kb) : ℤ :=
  H.total fun h => if owner h=some k then live h else 0

/-- Every account stands in `P` to what is held of it. -/
def Kept (P : α → ℤ → Prop) (owner : β → Option κ) (live : β → ℤ) (A : Table ka) (H : Table kb) :
    Prop :=
  ∀ a∈A.rows, P a (held owner live (ka a) H)

/-- From `H` to `H'` only what is held of the account `o` changes, and by `n`. -/
def Shifts (owner : β → Option κ) (live : β → ℤ) (o : Option κ) (n : ℤ) (H H' : Table kb) : Prop :=
  ∀ i, held owner live i H'=held owner live i H+if o=some i then n else 0

omit [DecidableEq κ'] in
theorem shifts_refl (o : Option κ) (H : Table kb) : Shifts owner live o 0 H H := by
  intro i
  simp

omit [DecidableEq κ'] in
theorem Shifts.trans {o : Option κ} {n m : ℤ} {H H' H'' : Table kb}
    (h : Shifts owner live o n H H') (h' : Shifts owner live o m H' H'') :
    Shifts owner live o (n+m) H H'' := by
  intro i
  rw [h' i,h i]
  by_cases hi : o=some i
  · simp only [hi,if_true]
    omega
  · simp [hi]

theorem shifts_insert {H : Table kb} {h : β} (hn : H.get? (kb h)=none) :
    Shifts owner live (owner h) (live h) H (H.insert h) := by
  intro i
  rw [held,total_insert _ hn]
  rfl

theorem shifts_modify {H : Table kb} {id : κ'} {h : β} {f : β → β} (hf) (hh : H.get? id=some h)
    (ho : owner (f h)=owner h) :
    Shifts owner live (owner h) (live (f h)-live h) H (H.modify id f hf) := by
  intro i
  rw [held,total_modify _ f hf hh,ho]
  by_cases hi : owner h=some i
  · simp only [hi,if_true,held]
    omega
  · simp only [hi,if_false,held]
    omega

omit [DecidableEq κ'] in
theorem Kept.shift {A : Table ka} {H H' : Table kb} {k : κ} {n : ℤ} {g : α → α} (hg)
    (hkept : Kept P owner live A H) (hH : Shifts owner live (some k) n H H')
    (hP : ∀ a m, A.get? k=some a → P a m → P (g a) (m+n)) :
    Kept P owner live (A.modify k g hg) H' := by
  intro a ha
  rw [rows_modify] at ha
  obtain ⟨b,hb,rfl⟩ := List.mem_map.mp ha
  by_cases hk : ka b=k
  · simp only [hk,if_true,hg,hH k]
    exact hP b _ (get?_eq_some.mpr ⟨hb,hk⟩) (hk ▸ hkept b hb)
  · have hne : ¬some k=some (ka b) := fun he => hk (Option.some.inj he).symm
    simp only [hk,if_false,hH (ka b),hne,add_zero]
    exact hkept b hb

end Table
