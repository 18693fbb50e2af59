import Mathlib.Data.List.Nodup
import Mathlib.Algebra.BigOperators.Group.List.Basic
import Mathlib.Algebra.Order.BigOperators.Group.List
import Mathlib.Algebra.Order.Group.Int
import Mathlib.Algebra.Ring.Int.Defs

/-! Tables: rows with a primary key, in storage order. -/

variable {α κ : Type}

/-- A table carries the uniqueness of its primary key. -/
structure Table (key : α → κ) where
  rows : List α
  nodup : (rows.map key).Nodup

namespace Table
variable {key : α → κ}

def empty : Table key := ⟨[],List.nodup_nil⟩

instance : Inhabited (Table key) := ⟨empty⟩

variable [DecidableEq κ]

def get? (t : Table key) (id : κ) : Option α := t.rows.find? (fun r => key r=id)

def modify (t : Table key) (id : κ) (f : α → α) (hf : ∀ r, key (f r)=key r) : Table key where
  rows := t.rows.map (fun r => if key r=id then f r else r)
  nodup := by
    have h : key∘(fun r => if key r=id then f r else r)=key := by
      funext r
      by_cases hr : key r=id <;> simp [hr,hf]
    rw [List.map_map,h]
    exact t.nodup

theorem find?_unique {p : α → Bool} {l : List α} {a : α} (ha : a∈l) (hp : p a=true)
    (hunique : ∀ b∈l, p b=true → b=a) : l.find? p=some a := by
  cases hfind : l.find? p with
  | none => exact absurd hp (List.find?_eq_none.mp hfind a ha)
  | some b => rw [hunique b (List.mem_of_find?_eq_some hfind) (List.find?_some hfind)]

theorem get?_eq_none {t : Table key} {id : κ} : t.get? id=none ↔ ∀ r∈t.rows, key r≠id := by
  simp [get?]

/-- A row that is there under its key already is kept. -/
def insert (t : Table key) (r : α) : Table key :=
  if h : t.get? (key r)=none then
    ⟨t.rows++[r],by
      have hn := get?_eq_none.mp h
      rw [List.map_append,List.nodup_append]
      refine ⟨t.nodup,by simp,?_⟩
      intro a ha b hb
      obtain ⟨x,hx,rfl⟩ := List.mem_map.mp ha
      rw [List.map_singleton,List.mem_singleton] at hb
      subst hb
      exact hn x hx⟩
  else t

theorem mem_of_get? {t : Table key} {id : κ} {r : α} (h : t.get? id=some r) :
    r∈t.rows ∧ key r=id := by
  have hk := List.find?_some h
  exact ⟨List.mem_of_find?_eq_some h,by simpa using hk⟩

omit [DecidableEq κ] in
theorem inj_of_nodup {rows : List α} (h : (rows.map key).Nodup) {r s : α} (hr : r∈rows)
    (hs : s∈rows) (hk : key r=key s) : r=s :=
  List.inj_on_of_nodup_map h hr hs hk

theorem get?_eq_some {t : Table key} {id : κ} {r : α} :
    t.get? id=some r ↔ r∈t.rows ∧ key r=id := by
  constructor
  · exact mem_of_get?
  · intro h
    cases hg : t.get? id with
    | none => exact absurd h.2 (get?_eq_none.mp hg r h.1)
    | some s =>
      have hs := mem_of_get? hg
      rw [inj_of_nodup t.nodup hs.1 h.1 (hs.2.trans h.2.symm)]

theorem get?_key {t : Table key} {r : α} (h : r∈t.rows) : t.get? (key r)=some r :=
  get?_eq_some.mpr ⟨h,rfl⟩

theorem key_of_get? {t : Table key} {id : κ} {r : α} (h : t.get? id=some r) : key r=id :=
  (mem_of_get? h).2

@[simp] theorem get?_empty (id : κ) : (empty : Table key).get? id=none := rfl

theorem get?_modify (t : Table key) (id : κ) (f : α → α) (hf) (i : κ) :
    (t.modify id f hf).get? i=if i=id then (t.get? i).map f else t.get? i := by
  have hfind : ∀ l : List α, (l.map (fun r => if key r=id then f r else r)).find?
      (fun r => key r=i)=if i=id then (l.find? (fun r => key r=i)).map f
        else l.find? (fun r => key r=i) := by
    intro l
    induction l with
    | nil => simp
    | cons a l ih =>
      simp only [List.map_cons,List.find?_cons,ih]
      by_cases ha : key a=id
      · by_cases hi : i=id
        · subst hi; simp [ha,hf]
        · have hai : key a≠i := fun h => hi (h.symm.trans ha)
          simp [ha,hi,hf,Ne.symm hi]
      · by_cases hi : i=id
        · subst hi; simp [ha]
        · by_cases hai : key a=i <;> simp [ha,hi,hai]
  exact hfind t.rows

theorem get?_insert (t : Table key) (r : α) (i : κ) :
    (t.insert r).get? i=if i=key r then some ((t.get? i).getD r) else t.get? i := by
  unfold insert
  split
  · rename_i h
    by_cases hi : i=key r
    · subst hi
      have hn := get?_eq_none.mp h
      rw [if_pos rfl,h]
      exact get?_eq_some.mpr ⟨by simp,rfl⟩
    · have hr : ¬(key r=i) := fun h => hi h.symm
      simp [get?,List.find?_append,hi,hr]
  · rename_i h
    by_cases hi : i=key r
    · subst hi
      obtain ⟨s,hs⟩ := Option.ne_none_iff_exists'.mp h
      simp [hs]
    · simp [hi]

/-- Change every row that matches. -/
def modifyWhere (t : Table key) (p : α → Bool) (f : α → α) (hf : ∀ r, key (f r)=key r) :
    Table key where
  rows := t.rows.map fun r => if p r then f r else r
  nodup := by
    have hkeys : (t.rows.map fun r => if p r then f r else r).map key=t.rows.map key := by
      rw [List.map_map]
      refine List.map_congr_left fun r _ => ?_
      by_cases hp : p r=true <;> simp [hp,hf]
    rw [hkeys]
    exact t.nodup

theorem get?_modifyWhere (t : Table key) (p : α → Bool) (f : α → α) (hf) (id : κ) :
    (t.modifyWhere p f hf).get? id=(t.get? id).map fun r => if p r then f r else r := by
  have hfind : ∀ l : List α, (l.map (fun r => if p r then f r else r)).find?
      (fun r => key r=id)=(l.find? (fun r => key r=id)).map fun r => if p r then f r else r := by
    intro l
    induction l with
    | nil => rfl
    | cons a l ih =>
      have hkey : key (if p a then f a else a)=key a := by
        by_cases hp : p a=true <;> simp [hp,hf]
      by_cases ha : key a=id
      · simp [ha,hkey]
      · simp [ha,hkey,ih]
  exact hfind t.rows

@[simp] theorem get?_modify_self (t : Table key) (id : κ) (f : α → α) (hf) :
    (t.modify id f hf).get? id=(t.get? id).map f := by
  simp [get?_modify]

theorem get?_modify_ne (t : Table key) {id i : κ} (f : α → α) (hf) (h : i≠id) :
    (t.modify id f hf).get? i=t.get? i := by
  simp [get?_modify,h]

theorem get?_insert_new {t : Table key} {r : α} (h : t.get? (key r)=none) :
    (t.insert r).get? (key r)=some r := by
  simp [get?_insert,h]

theorem get?_insert_ne (t : Table key) {r : α} {i : κ} (h : i≠key r) :
    (t.insert r).get? i=t.get? i := by
  simp [get?_insert,h]

theorem rows_insert {t : Table key} {r : α} (h : t.get? (key r)=none) :
    (t.insert r).rows=t.rows++[r] := by
  simp [insert,h]

theorem rows_modify (t : Table key) (id : κ) (f : α → α) (hf) :
    (t.modify id f hf).rows=t.rows.map (fun r => if key r=id then f r else r) := rfl

/-- The total of a column. -/
def total (t : Table key) (f : α → ℤ) : ℤ := (t.rows.map f).sum

omit [DecidableEq κ] in
@[simp] theorem total_empty (f : α → ℤ) : (empty : Table key).total f=0 := rfl

theorem total_insert {t : Table key} {r : α} (f : α → ℤ) (h : t.get? (key r)=none) :
    (t.insert r).total f=t.total f+f r := by
  simp [total,rows_insert h]

omit [DecidableEq κ] in
theorem total_modifyWhere (t : Table key) (p : α → Bool) (g : α → α) (hg) (f : α → ℤ) :
    (t.modifyWhere p g hg).total f=t.total f+((t.rows.filter p).map fun r => f (g r)-f r).sum := by
  have hsum : ∀ l : List α, ((l.map fun r => if p r then g r else r).map f).sum=
      (l.map f).sum+((l.filter p).map fun r => f (g r)-f r).sum := by
    intro l
    induction l with
    | nil => rfl
    | cons a l ih =>
      simp only [List.map_cons,List.sum_cons,ih]
      cases hp : p a with
      | true =>
        rw [List.filter_cons_of_pos hp,List.map_cons,List.sum_cons,if_pos rfl]
        omega
      | false =>
        rw [List.filter_cons_of_neg (by simp [hp]),if_neg (by simp)]
        omega
  exact hsum t.rows

theorem total_modify {t : Table key} {id : κ} {r : α} (f : α → ℤ) (g : α → α) (hg)
    (h : t.get? id=some r) : (t.modify id g hg).total f=t.total f-f r+f (g r) := by
  have hsum : ∀ l : List α, (l.map key).Nodup → r∈l → key r=id →
      ((l.map (fun s => if key s=id then g s else s)).map f).sum=(l.map f).sum-f r+f (g r) := by
    intro l hl hr hk
    have hrest : ∀ l : List α, (∀ s∈l, key s≠id) →
        (l.map (fun s => if key s=id then g s else s))=l := by
      intro l hl
      conv_rhs => rw [← List.map_id l]
      exact List.map_congr_left fun s hs => by simp [hl s hs]
    induction l with
    | nil => cases hr
    | cons a l ih =>
      rw [List.map_cons,List.nodup_cons] at hl
      simp only [List.map_cons,List.sum_cons]
      by_cases ha : key a=id
      · have har : a=r := by
          rcases List.mem_cons.mp hr with h|h
          · exact h.symm
          · exact absurd (List.mem_map.mpr ⟨r,h,hk.trans ha.symm⟩) hl.1
        subst har
        rw [hrest l fun s hs hsid => hl.1 (List.mem_map.mpr ⟨s,hs,hsid.trans ha.symm⟩)]
        simp only [ha,if_true]
        omega
      · have hrl : r∈l := by
          rcases List.mem_cons.mp hr with h|h
          · exact absurd (h ▸ hk) ha
          · exact h
        rw [ih hl.2 hrl]
        simp only [ha,if_false]
        omega
  obtain ⟨hr,hk⟩ := mem_of_get? h
  exact hsum t.rows t.nodup hr hk

omit [DecidableEq κ] in
theorem total_congr {t : Table key} {f g : α → ℤ} (h : ∀ r∈t.rows, f r=g r) :
    t.total f=t.total g := by
  rw [total,total,List.map_congr_left h]

/-- Rows are never lost, nor is what `fixed` keeps of them changed. -/
def Grows (fixed : α → α) (t t' : Table key) : Prop :=
  ∀ id r, t.get? id=some r → ∃ r', t'.get? id=some r' ∧ fixed r'=fixed r

variable {fixed : α → α}

theorem Grows.refl (t : Table key) : Grows fixed t t := fun _ r h => ⟨r,h,rfl⟩

theorem Grows.trans {t t' t'' : Table key} (h : Grows fixed t t') (h' : Grows fixed t' t'') :
    Grows fixed t t'' := by
  intro id r hr
  obtain ⟨s,hs,hf⟩ := h id r hr
  obtain ⟨u,hu,hf'⟩ := h' id s hs
  exact ⟨u,hu,hf'.trans hf⟩

theorem grows_insert (t : Table key) (r : α) : Grows fixed t (t.insert r) := by
  intro id s hs
  refine ⟨s,?_,rfl⟩
  rw [get?_insert]
  split <;> simp [hs]

theorem grows_modify (t : Table key) (id : κ) {g : α → α} (hg)
    (hf : ∀ r, fixed (g r)=fixed r) : Grows fixed t (t.modify id g hg) := by
  intro i s hs
  rw [get?_modify]
  split
  · exact ⟨g s,by simp [hs],hf s⟩
  · exact ⟨s,hs,rfl⟩

theorem Grows.insert {t t' : Table key} (h : Grows fixed t t') {r : α}
    (hr : t.get? (key r)=t'.get? (key r)) : Grows fixed (t.insert r) (t'.insert r) := by
  intro i s hs
  by_cases hi : i=key r
  · subst hi
    rw [get?_insert,if_pos rfl] at hs
    exact ⟨s,by rw [get?_insert,if_pos rfl,← hr,hs],rfl⟩
  · rw [get?_insert_ne _ hi] at hs
    obtain ⟨u,hu,hf⟩ := h i s hs
    exact ⟨u,by rw [get?_insert_ne _ hi,hu],hf⟩

theorem Grows.modify {t t' : Table key} (h : Grows fixed t t') {id : κ} {g : α → α} (hg)
    (hf : ∀ r, fixed (g r)=fixed r) : Grows fixed (t.modify id g hg) (t'.modify id g hg) := by
  intro i s hs
  by_cases hi : i=id
  · subst hi
    rw [get?_modify_self] at hs
    obtain ⟨u,hu,rfl⟩ := Option.map_eq_some_iff.mp hs
    obtain ⟨u',hu',hfu⟩ := h i u hu
    exact ⟨g u',by rw [get?_modify_self,hu']; rfl,by rw [hf,hf,hfu]⟩
  · rw [get?_modify_ne _ _ _ hi] at hs
    obtain ⟨u,hu,hfu⟩ := h i s hs
    exact ⟨u,by rw [get?_modify_ne _ _ _ hi,hu],hfu⟩

theorem grows_modifyWhere (t : Table key) (p : α → Bool) (g : α → α) (hg : ∀ r, key (g r)=key r)
    (hf : ∀ r, fixed (g r)=fixed r) : Grows fixed t (t.modifyWhere p g hg) := by
  intro id r hr
  refine ⟨if p r then g r else r,by rw [get?_modifyWhere,hr]; rfl,?_⟩
  split
  · exact hf r
  · rfl

/-- No row is lost. -/
def Keeps (t t' : Table key) : Prop := ∀ id, t.get? id≠none → t'.get? id≠none

theorem Grows.keeps {t t' : Table key} (h : Grows fixed t t') : Keeps t t' := by
  intro id hid
  obtain ⟨r,hr⟩ := Option.ne_none_iff_exists'.mp hid
  obtain ⟨r',hr',_⟩ := h id r hr
  rw [hr']
  exact Option.some_ne_none _

/-- Put a row in the place of the one that has its key, or add it. -/
def put (t : Table key) (r : α) : Table key :=
  match t.get? (key r) with
  | none => t.insert r
  | some _ => t.modify (key r) (fun x => if key x=key r then r else x) fun x => by
    by_cases h : key x=key r <;> simp [h]

theorem get?_put (t : Table key) (r : α) (id : κ) :
    (t.put r).get? id=if id=key r then some r else t.get? id := by
  unfold put
  cases hget : t.get? (key r) with
  | none =>
    rw [get?_insert]
    by_cases hid : id=key r
    · simp [hid,hget]
    · simp [hid]
  | some x =>
    rw [get?_modify]
    by_cases hid : id=key r
    · have hx : key x=key r := key_of_get? hget
      simp [hid,hget,hx]
    · simp [hid]

theorem mem_iff_get? {t : Table key} {r : α} : r∈t.rows ↔ t.get? (key r)=some r := by
  rw [get?_eq_some]
  simp

theorem mem_put {t : Table key} {r x : α} :
    x∈(t.put r).rows ↔ x=r ∨ x∈t.rows ∧ key x≠key r := by
  rw [mem_iff_get?,get?_put,mem_iff_get? (t := t)]
  by_cases hid : key x=key r
  · rw [if_pos hid]
    constructor
    · intro h
      exact .inl (Option.some.inj h).symm
    · rintro (rfl|h)
      · rfl
      · exact (h.2 hid).elim
  · rw [if_neg hid]
    constructor
    · intro h
      exact .inr ⟨h,hid⟩
    · rintro (rfl|h)
      · exact (hid rfl).elim
      · exact h.1

end Table
