import AardvarkWms.Serial
import AardvarkWms.Table

/-! A relational database as a store: tables with primary keys, rows that are inserted and
patched but never deleted, row locks and advisory locks. -/
namespace Relational

open Transactions Transactions.Txn

/-- The tables of a database. `patch` is what an UPDATE may do to a row; it keeps the key
and all that `fixed` shows. `check` is the row's CHECK constraints, `unique` its entry in
the table's unique index, and `parents` the rows that are locked where one is inserted. -/
structure Schema where
  Name : Type
  Row : Name → Type
  Id : Name → Type
  Patch : Name → Type
  Advisory : Type
  Err : Type
  duplicate : Err
  key : {t : Name} → Row t → Id t
  fixed : {t : Name} → Row t → Row t
  patch : {t : Name} → Patch t → Row t → Row t
  check : {t : Name} → Row t → Bool
  parents : {t : Name} → Row t → List (Σ t, Id t)
  unique : {t : Name} → Row t → Option Advisory
  nameEq : DecidableEq Name
  idEq : (t : Name) → DecidableEq (Id t)
  advisoryEq : DecidableEq Advisory
  key_patch : ∀ {t : Name} (p : Patch t) (r : Row t), key (patch p r)=key r
  fixed_patch : ∀ {t : Name} (p : Patch t) (r : Row t), fixed (patch p r)=fixed r
  parents_patch : ∀ {t : Name} (p : Patch t) (r : Row t), parents (patch p r)=parents r
  unique_patch : ∀ {t : Name} (p : Patch t) (r : Row t), unique (patch p r)=unique r

attribute [instance] Schema.nameEq Schema.idEq Schema.advisoryEq

variable (D : Schema)

abbrev Db : Type := (t : D.Name) → Table (D.key (t := t))

inductive Lock
  | row (t : D.Name) (id : D.Id t)
  | advisory (a : D.Advisory)

instance : DecidableEq (Lock D)
  | .row t id, .row t' id' =>
    if h : t=t' then
      decidable_of_iff (h ▸ id=id') (by subst h; simp)
    else .isFalse fun he => h (by cases he; rfl)
  | .advisory a, .advisory b => decidable_of_iff (a=b) (by simp)
  | .row _ _, .advisory _ => .isFalse (by simp)
  | .advisory _, .row _ _ => .isFalse (by simp)

/-- One row by its key, or the rows of a table that match a condition. -/
inductive Select
  | row (t : D.Name) (id : D.Id t)
  | rows (t : D.Name) (p : D.Row t → Bool)

abbrev Select.Answer : Select D → Type
  | .row t _ => Option (D.Row t)
  | .rows t _ => List (D.Row t)

inductive Statement
  | insert (t : D.Name) (r : D.Row t)
  | update (t : D.Name) (id : D.Id t) (p : D.Patch t)

abbrev interface : Interface where
  Query := Select D
  Answer := Select.Answer D
  Write := Statement D
  Key := Lock D
  Err := D.Err

abbrev Tx (α : Type) : Type := Txn (interface D) α

variable {D}

def answer : (q : Select D) → Db D → q.Answer
  | .row t id, d => (d t).get? id
  | .rows t p, d => (d t).rows.filter p

def apply : Statement D → Db D → Db D
  | .insert t r, d => Function.update d t ((d t).insert r)
  | .update t id p, d => Function.update d t ((d t).modify id (D.patch p) (D.key_patch p))

/-- What was seen is what `d` says. -/
def SeenIn (d : Db D) (x : Seen (interface D)) : Prop := x.result=answer x.query d

instance [∀ t, DecidableEq (D.Row t)] (d : Db D) : (x : Seen (interface D)) → Decidable (SeenIn d x)
  | ⟨.row t id,r⟩ => inferInstanceAs (Decidable (r=(d t).get? id))
  | ⟨.rows t p,rs⟩ => inferInstanceAs (Decidable (rs=(d t).rows.filter p))

section Apply
variable (t t' : D.Name) (id : D.Id t) (p : D.Patch t) (r : D.Row t) (d : Db D)

@[simp] theorem apply_update_self :
    apply (.update t id p) d t=(d t).modify id (D.patch p) (D.key_patch p) := by
  simp [apply]

@[simp] theorem apply_insert_self : apply (.insert t r) d t=(d t).insert r := by
  simp [apply]

variable {t t'}

@[simp] theorem apply_update_ne (h : t'≠t) : apply (.update t id p) d t'=d t' := by
  simp [apply,h]

@[simp] theorem apply_insert_ne (h : t'≠t) : apply (.insert t r) d t'=d t' := by
  simp [apply,h]

end Apply

/-- The locks without which no row like this one is inserted. -/
def guards {t : D.Name} (r : D.Row t) : List (Lock D) :=
  (D.parents r).map (fun p => .row p.1 p.2)++(D.unique r).toList.map .advisory

def keys : Statement D → List (Lock D)
  | .insert t r => .row t (D.key r)::guards r
  | .update t id _ => [.row t id]

def accepts : Statement D → Db D → Bool
  | .insert _ r, _ => D.check r
  | .update t id p, d => ((d t).get? id).all fun r => D.check (D.patch p r)

def SameRow : Lock D → Db D → Db D → Prop
  | .row t id, d, d' => (d t).get? id=(d' t).get? id
  | .advisory _, _, _ => True

/-- The rows that are inserted under a lock. -/
def guarded (k : Lock D) (t : D.Name) (T : Table (D.key (t := t))) : List (D.Row t) :=
  (T.rows.filter fun r => k∈guards r).map D.fixed

/-- Whoever holds the lock finds the row as it is, and the rows inserted under it. -/
def Same (k : Lock D) (d d' : Db D) : Prop :=
  SameRow k d d' ∧ ∀ t, guarded k t (d t)=guarded k t (d' t)

def Later (d d' : Db D) : Prop := ∀ t, Table.Grows (D.fixed (t := t)) (d t) (d' t)

section Guarded
variable (k : Lock D) {t : D.Name} (T : Table (D.key (t := t)))

theorem guards_patch (p : D.Patch t) (r : D.Row t) : guards (D.patch p r)=guards r := by
  simp [guards,D.parents_patch,D.unique_patch]

theorem guarded_insert (r : D.Row t) : guarded k t (T.insert r)=guarded k t T++
    if k∈guards r ∧ T.get? (D.key r)=none then [D.fixed r] else [] := by
  by_cases hn : T.get? (D.key r)=none
  · unfold guarded
    rw [Table.rows_insert hn,List.filter_append,List.map_append]
    by_cases hk : k∈guards r <;> simp [hk,hn]
  · simp [Table.insert,hn]

theorem guarded_modify (id : D.Id t) (p : D.Patch t) :
    guarded k t (T.modify id (D.patch p) (D.key_patch p))=guarded k t T := by
  unfold guarded
  rw [Table.rows_modify]
  induction T.rows with
  | nil => rfl
  | cons r rs ih =>
    by_cases hid : D.key r=id
    · by_cases hk : k∈guards r
      · simp [hid,hk,guards_patch,D.fixed_patch,ih]
      · simp [hid,hk,guards_patch,ih]
    · by_cases hk : k∈guards r <;> simp [hid,hk,ih]

end Guarded

theorem later_apply (w : Statement D) (d : Db D) : Later d (apply w d) := by
  intro t
  cases w with
  | insert t' r =>
    by_cases h : t=t'
    · subst h
      simpa [apply] using Table.grows_insert _ _
    · simpa [apply,h] using Table.Grows.refl _
  | update t' id p =>
    by_cases h : t=t'
    · subst h
      simpa [apply] using Table.grows_modify _ _ _ (D.fixed_patch p)
    · simpa [apply,h] using Table.Grows.refl _

theorem sameRow_frame {k : Lock D} {w : Statement D} (d : Db D) (h : k∉keys w) :
    SameRow k d (apply w d) := by
  cases k with
  | advisory a => trivial
  | row t id =>
    cases w with
    | insert t' r =>
      by_cases ht : t=t'
      · subst ht
        have hid : id≠D.key r := fun he => h (by simp [keys,he])
        simp [SameRow,apply,Table.get?_insert_ne _ hid]
      · simp [SameRow,apply,ht]
    | update t' i p =>
      by_cases ht : t=t'
      · subst ht
        have hid : id≠i := fun he => h (by simp [keys,he])
        simp [SameRow,apply,Table.get?_modify_ne _ _ _ hid]
      · simp [SameRow,apply,ht]

theorem frame {k : Lock D} {w : Statement D} (d : Db D) (h : k∉keys w) :
    Same k d (apply w d) := by
  refine ⟨sameRow_frame d h,fun t => ?_⟩
  cases w with
  | insert t' r =>
    by_cases ht : t=t'
    · subst ht
      have hk : k∉guards r := fun hk => h (List.mem_cons_of_mem _ hk)
      simp [guarded_insert,hk]
    · simp [apply,ht]
  | update t' i p =>
    by_cases ht : t=t'
    · subst ht
      simp [guarded_modify]
    · simp [apply,ht]

theorem sameRow_apply {k : Lock D} {w : Statement D} {d d' : Db D} (h : SameRow k d d') :
    SameRow k (apply w d) (apply w d') := by
  cases k with
  | advisory a => trivial
  | row t id =>
    simp only [SameRow] at h ⊢
    cases w with
    | insert t' r =>
      by_cases ht : t=t'
      · subst ht
        simp [apply,Table.get?_insert,h]
      · simpa [apply,ht] using h
    | update t' i p =>
      by_cases ht : t=t'
      · subst ht
        simp [apply,Table.get?_modify,h]
      · simpa [apply,ht] using h

theorem same_apply {k : Lock D} {w : Statement D} {d d' : Db D}
    (hkeys : ∀ k'∈keys w, Same k' d d') (h : Same k d d') :
    Same k (apply w d) (apply w d') := by
  refine ⟨sameRow_apply h.1,fun t => ?_⟩
  cases w with
  | insert t' r =>
    by_cases ht : t=t'
    · subst ht
      have hrow : (d t).get? (D.key r)=(d' t).get? (D.key r) :=
        (hkeys (.row t (D.key r)) List.mem_cons_self).1
      simp only [apply_insert_self,guarded_insert,h.2 t,hrow]
    · simpa [apply,ht] using h.2 t
  | update t' i p =>
    by_cases ht : t=t'
    · subst ht
      simpa [guarded_modify] using h.2 t
    · simpa [apply,ht] using h.2 t

theorem later_congr {w : Statement D} {d d' : Db D} (hk : ∀ k∈keys w, Same k d d')
    (h : Later d d') : Later (apply w d) (apply w d') := by
  intro t
  cases w with
  | insert t' r =>
    by_cases ht : t=t'
    · subst ht
      simpa [apply] using (h t).insert (hk (.row t (D.key r)) (by simp [keys])).1
    · simpa [apply,ht] using h t
  | update t' i p =>
    by_cases ht : t=t'
    · subst ht
      simpa [apply] using (h t).modify _ (D.fixed_patch p)
    · simpa [apply,ht] using h t

variable (D) in
def database : Store (interface D) (Db D) where
  answer := answer
  apply := apply
  keys := keys
  accepts := accepts
  Same := Same
  Later := Later
  same_refl k d := ⟨by cases k <;> simp [SameRow],fun _ => rfl⟩
  same_trans := by
    intro k d d' d'' h h'
    refine ⟨?_,fun t => (h.2 t).trans (h'.2 t)⟩
    cases k with
    | advisory a => trivial
    | row t id => exact Eq.trans h.1 h'.1
  later_refl d t := .refl _
  later_trans h h' t := (h t).trans (h' t)
  later_apply := later_apply
  frame := frame
  same_apply hkeys _ h := same_apply hkeys h
  later_congr := later_congr

@[simp] theorem database_apply (w : Statement D) (d : Db D) :
    (database D).apply w d=apply w d := rfl

/-- Two states with the same rows in the tables that `p` selects. -/
def SameOn (p : D.Name → Bool) (d d' : Db D) : Prop := ∀ t, p t=true → d t=d' t

def Statement.table : Statement D → D.Name
  | .insert t _ => t
  | .update t _ _ => t

section SameOn
variable {p : D.Name → Bool} {d d' d'' : Db D} {w : Statement D}

theorem SameOn.refl (d : Db D) : SameOn p d d := fun _ _ => rfl

theorem SameOn.symm (h : SameOn p d d') : SameOn p d' d := fun t ht => (h t ht).symm

theorem SameOn.trans (h : SameOn p d d') (h' : SameOn p d' d'') : SameOn p d d'' :=
  fun t ht => (h t ht).trans (h' t ht)

theorem SameOn.apply (h : SameOn p d d') (w : Statement D) :
    SameOn p (apply w d) (apply w d') := by
  intro t ht
  cases w with
  | insert t' r =>
    by_cases he : t=t'
    · subst he; simp [Relational.apply,h t ht]
    · simp [Relational.apply,he,h t ht]
  | update t' i q =>
    by_cases he : t=t'
    · subst he; simp [Relational.apply,h t ht]
    · simp [Relational.apply,he,h t ht]

theorem sameOn_apply (d : Db D) (h : ¬p w.table=true) : SameOn p d (apply w d) := by
  intro t ht
  have hne : t≠w.table := fun he => h (he ▸ ht)
  cases w with
  | insert t' r => simp only [Statement.table] at hne; simp [Relational.apply,hne]
  | update t' i q => simp only [Statement.table] at hne; simp [Relational.apply,hne]

end SameOn

theorem apply_of_table {w : Statement D} {t : D.Name} (d : Db D) (h : w.table≠t) :
    apply w d t=d t :=
  (sameOn_apply (p := fun t' => decide (t'=t)) d (by simpa using h) t (by simp)).symm

/-- No two rows of a table have one entry in its unique index. -/
def Indexed (t : D.Name) (T : Table (D.key (t := t))) : Prop :=
  ∀ r∈T.rows, ∀ s∈T.rows, ∀ a, D.unique r=some a → D.unique s=some a → r=s

theorem Indexed.insert {t : D.Name} {T : Table (D.key (t := t))} {r : D.Row t} (h : Indexed t T)
    (hn : T.get? (D.key r)=none) (hu : ∀ a, D.unique r=some a → ∀ s∈T.rows, D.unique s≠some a) :
    Indexed t (T.insert r) := by
  intro x hx y hy a hxa hya
  rw [Table.rows_insert hn] at hx hy
  rcases List.mem_append.mp hx with hx|hx <;> rcases List.mem_append.mp hy with hy|hy
  · exact h x hx y hy a hxa hya
  · rw [List.mem_singleton.mp hy] at hya
    exact (hu a hya x hx hxa).elim
  · rw [List.mem_singleton.mp hx] at hxa
    exact (hu a hxa y hy hya).elim
  · exact (List.mem_singleton.mp hx).trans (List.mem_singleton.mp hy).symm

theorem Indexed.modify {t : D.Name} {T : Table (D.key (t := t))} (h : Indexed t T) (id : D.Id t)
    (p : D.Patch t) : Indexed t (T.modify id (D.patch p) (D.key_patch p)) := by
  have hsource : ∀ x∈(T.modify id (D.patch p) (D.key_patch p)).rows,
      ∃ r∈T.rows, D.unique r=D.unique x ∧ x=if D.key r=id then D.patch p r else r := by
    intro x hx
    rw [Table.rows_modify] at hx
    obtain ⟨r,hr,rfl⟩ := List.mem_map.mp hx
    refine ⟨r,hr,?_,rfl⟩
    split
    · exact (D.unique_patch p r).symm
    · rfl
  intro x hx y hy a hxa hya
  obtain ⟨r,hr,hru,hx⟩ := hsource x hx
  obtain ⟨s,hs,hsu,hy⟩ := hsource y hy
  have hsame : r=s := h r hr s hs a (hru.trans hxa) (hsu.trans hya)
  rw [hx,hy,hsame]

def find (t : D.Name) (id : D.Id t) : Tx D (Option (D.Row t)) := query (I := interface D) (.row t id)

/-- A row by its key, where it also meets a condition. -/
def findWhere (t : D.Name) (id : D.Id t) (p : D.Row t → Bool) : Tx D (Option (D.Row t)) := do
  let r ← find t id
  return r.filter p

def findMany (t : D.Name) (p : D.Row t → Bool) : Tx D (List (D.Row t)) := query (I := interface D) (.rows t p)

def findFirst (t : D.Name) (p : D.Row t → Bool) : Tx D (Option (D.Row t)) := do
  let rs ← findMany t p
  return rs.head?

/-- `SELECT … FOR UPDATE` of one row. -/
def lockRow (t : D.Name) (id : D.Id t) : Tx D Unit := acquire (.row t id)

def advisoryLock (a : D.Advisory) : Tx D Unit := acquire (.advisory a)

/-- The unique index: INSERT waits for the entry and fails where a row has it. -/
def assertUnique {t : D.Name} (r : D.Row t) : Tx D Unit :=
  match D.unique r with
  | none => pure ()
  | some a => do
    advisoryLock a
    let others ← findMany t fun s => D.unique s=some a
    require (others.isEmpty=true) D.duplicate

/-- INSERT waits for the key and fails where a row has it. -/
def insert (t : D.Name) (r : D.Row t) : Tx D Unit := do
  lockRow t (D.key r)
  let old ← find t (D.key r)
  require (old.isNone=true) D.duplicate
  assertUnique r
  write (.insert t r)

def update (t : D.Name) (id : D.Id t) (p : D.Patch t) : Tx D Unit := write (.update t id p)

/-- UPDATE … WHERE: a row that matched is locked and tested again before it is changed. -/
def updateMany (t : D.Name) (p : D.Row t → Bool) (f : D.Patch t) : Tx D Unit := do
  let rs ← findMany t p
  let _ ← each rs fun r => do
    lockRow t (D.key r)
    let now ← find t (D.key r)
    if now.any p then update t (D.key r) f else pure ()
  return ()

section Rules
variable {Mid : Ctx (interface D) (Db D) → Prop} {c : Ctx (interface D) (Db D)}

/-- What an unlocked read of a row tells about the state of the commit. -/
def Settled (v : Db D) (t : D.Name) (id : D.Id t) (r : D.Row t) : Prop :=
  ∃ r', (v t).get? id=some r' ∧ D.fixed r'=D.fixed r

theorem Settled.later {v v' : Db D} {t : D.Name} {id : D.Id t} {r : D.Row t}
    (h : Settled v t id r) (hl : Later v v') : Settled v' t id r := by
  obtain ⟨s,hs,hf⟩ := h
  obtain ⟨u,hu,hf'⟩ := hl t id s hs
  exact ⟨u,hu,hf'.trans hf⟩

theorem settled_of_get? {v : Db D} {t : D.Name} {id : D.Id t} {r : D.Row t}
    (h : (v t).get? id=some r) : Settled v t id r := ⟨r,h,rfl⟩

theorem wp_find {t : D.Name} {id : D.Id t} {Q : Option (D.Row t) → Ctx _ (Db D) → Prop}
    (h : ∀ o, (∀ r, o=some r → D.key r=id ∧ Settled c.view t id r) →
      Q o (c.saw (.row t id) o)) : wp (database D) Mid (find t id) c Q := by
  intro d hd
  refine h _ ?_
  intro r hr
  exact ⟨Table.key_of_get? hr,hd.2 t id r hr⟩

theorem wp_find_held {t : D.Name} {id : D.Id t} {Q : Option (D.Row t) → Ctx _ (Db D) → Prop}
    (hk : Lock.row t id∈c.locks) (h : Q ((c.view t).get? id) (c.saw (.row t id) ((c.view t).get? id))) :
    wp (database D) Mid (find t id) c Q := by
  intro d hd
  have hs : (d t).get? id=(c.view t).get? id := (hd.1 _ hk).1
  change Q ((d t).get? id) (c.saw (.row t id) ((d t).get? id))
  rw [hs]
  exact h

theorem wp_findWhere {t : D.Name} {id : D.Id t} {p : D.Row t → Bool}
    {Q : Option (D.Row t) → Ctx _ (Db D) → Prop}
    (h : ∀ o, (∀ r, o.filter p=some r → D.key r=id ∧ p r=true ∧ Settled c.view t id r) →
      Q (o.filter p) (c.saw (.row t id) o)) :
    wp (database D) Mid (findWhere t id p) c Q := by
  simp only [findWhere,bind_eq,pure_eq,wp_bind]
  refine wp_find fun o ho => ?_
  refine h o fun r hr => ?_
  obtain ⟨ho',hp⟩ := Option.filter_eq_some_iff.mp hr
  exact ⟨(ho r ho').1,hp,(ho r ho').2⟩

theorem wp_findWhere_held {t : D.Name} {id : D.Id t} {p : D.Row t → Bool}
    {Q : Option (D.Row t) → Ctx _ (Db D) → Prop} (hk : Lock.row t id∈c.locks)
    (h : Q (((c.view t).get? id).filter p) (c.saw (.row t id) ((c.view t).get? id))) :
    wp (database D) Mid (findWhere t id p) c Q := by
  simp only [findWhere,bind_eq,pure_eq,wp_bind]
  exact wp_find_held hk h

theorem wp_findMany {t : D.Name} {p : D.Row t → Bool}
    {Q : List (D.Row t) → Ctx _ (Db D) → Prop}
    (h : ∀ rs, (rs.map D.key).Nodup →
      (∀ r∈rs, p r=true ∧ Settled c.view t (D.key r) r) → Q rs (c.saw (.rows t p) rs)) :
    wp (database D) Mid (findMany t p) c Q := by
  intro d hd
  refine h _ ?_ ?_
  · exact ((d t).nodup.sublist (List.filter_sublist.map _))
  · intro r hr
    obtain ⟨hr,hp⟩ := List.mem_filter.mp hr
    exact ⟨hp,hd.2 t _ r (Table.get?_key hr)⟩

/-- Under a lock that guards them, the rows that are read are those of the view. -/
theorem wp_findMany_guarded {t : D.Name} {p : D.Row t → Bool} {k : Lock D}
    {Q : List (D.Row t) → Ctx _ (Db D) → Prop} (hk : k∈c.locks)
    (hp : ∀ r, p r=true → k∈guards r) (hfixed : ∀ r, p (D.fixed r)=p r)
    (h : ∀ rs, rs.map D.fixed=((c.view t).rows.filter p).map D.fixed →
      Q rs (c.saw (.rows t p) rs)) : wp (database D) Mid (findMany t p) c Q := by
  intro d hd
  have hmap : ∀ T : Table (D.key (t := t)),
      (guarded k t T).filter p=(T.rows.filter p).map D.fixed := by
    intro T
    unfold guarded
    rw [List.filter_map,List.filter_filter]
    congr 2
    funext r
    cases hr : p r with
    | false => simp [hfixed,hr]
    | true => simp [hfixed,hr,hp r hr]
  have hsame := congrArg (List.filter p) ((hd.1 k hk).2 t)
  rw [hmap,hmap] at hsame
  exact h _ hsame

theorem wp_findFirst {t : D.Name} {p : D.Row t → Bool}
    {Q : Option (D.Row t) → Ctx _ (Db D) → Prop}
    (h : ∀ rs, (∀ r, rs.head?=some r → p r=true ∧ Settled c.view t (D.key r) r) →
      Q rs.head? (c.saw (.rows t p) rs)) : wp (database D) Mid (findFirst t p) c Q := by
  simp only [findFirst,bind_eq,pure_eq,wp_bind]
  refine wp_findMany fun rs _ hrs => ?_
  exact h rs fun r hr => hrs r (List.mem_of_mem_head? hr)

@[simp] theorem wp_lockRow {t : D.Name} {id : D.Id t} {Q : Unit → Ctx _ (Db D) → Prop} :
    wp (database D) Mid (lockRow t id) c Q ↔ Q () (c.held [.row t id]) := Iff.rfl

@[simp] theorem wp_advisoryLock {a : D.Advisory} {Q : Unit → Ctx _ (Db D) → Prop} :
    wp (database D) Mid (advisoryLock a : Tx D Unit) c Q ↔ Q () (c.held [.advisory a]) := Iff.rfl

@[simp] theorem wp_update {t : D.Name} {id : D.Id t} {p : D.Patch t}
    {Q : Unit → Ctx _ (Db D) → Prop} :
    wp (database D) Mid (update t id p) c Q ↔ Q () (c.wrote (database D) (.update t id p)) :=
  Iff.rfl

theorem mem_guards_advisory {t : D.Name} {r : D.Row t} {a : D.Advisory} :
    Lock.advisory a∈guards r ↔ D.unique r=some a := by
  simp [guards]

/-- Under the lock of an entry that no row had when it was read, no row has it. -/
theorem entry_free {t : D.Name} {a : D.Advisory} {d : Db D}
    (hd : (database D).Agree (c.held [Lock.advisory a]).locks d c.view)
    (hnone : (d t).rows.filter (fun s => D.unique s=some a)=[]) :
    ∀ s∈(c.view t).rows, D.unique s≠some a := by
  have hsame := (hd.1 (.advisory a) (by simp)).2 t
  have hguarded : guarded (.advisory a) t (d t)=[] := by
    simp only [guarded,mem_guards_advisory,hnone,List.map_nil]
  rw [hguarded] at hsame
  intro s hs hus
  have hmem : D.fixed s∈guarded (.advisory a) t (c.view t) := by
    refine List.mem_map.mpr ⟨s,List.mem_filter.mpr ⟨hs,?_⟩,rfl⟩
    simpa using mem_guards_advisory.mpr hus
  rw [← hsame] at hmem
  cases hmem

theorem wp_assertUnique {t : D.Name} {r : D.Row t} {Q : Unit → Ctx _ (Db D) → Prop}
    (h : ∀ c', c.Moves Eq c' → (∀ a, D.unique r=some a → Lock.advisory a∈c'.locks ∧
      ∀ s∈(c.view t).rows, D.unique s≠some a) → Q () c') :
    wp (database D) Mid (assertUnique r) c Q := by
  unfold assertUnique
  cases hu : D.unique r with
  | none => exact h c c.moves_refl (by simp [hu])
  | some a =>
    simp only [bind_eq,wp_bind,wp_advisoryLock]
    intro d hd
    simp only [wp_require]
    intro hempty
    have hfree := entry_free hd (List.isEmpty_iff.mp hempty)
    refine h _ ((c.moves_held _).of_reads (Ctx.moves_saw _ _ _)) fun b hb => ?_
    obtain rfl := Option.some.inj (hu.symm.trans hb)
    exact ⟨by simp,hfree⟩

theorem wp_insert {t : D.Name} {r : D.Row t} {Q : Unit → Ctx _ (Db D) → Prop}
    (h : ∀ c', (c.view t).get? (D.key r)=none → c.Moves Eq c' →
      (∀ a, D.unique r=some a → Lock.advisory a∈c'.locks ∧
        ∀ s∈(c.view t).rows, D.unique s≠some a) →
      Q () (c'.wrote (database D) (.insert t r))) :
    wp (database D) Mid (insert t r) c Q := by
  simp only [insert,bind_eq,wp_bind,wp_lockRow]
  refine wp_find_held (by simp) ?_
  simp only [wp_require,wp_write]
  intro hn
  have hnone := Option.isNone_iff_eq_none.mp hn
  simp only [Ctx.held_view] at hnone ⊢
  refine wp_assertUnique fun c' hc' hu => ?_
  exact h c' hnone (((c.moves_held _).of_reads (Ctx.moves_saw _ _ _)).of_reads hc') hu

/-- Statements on other tables than those selected by `p` are a step inside `SameOn p`. -/
theorem wp_aside {α : Type} {p : D.Name → Bool} {prog : Tx D α}
    {Q : α → Ctx (interface D) (Db D) → Prop}
    (honly : Only (fun w : Statement D => ¬p w.table=true) prog)
    (h : ∀ a c', c.Moves (SameOn p) c' → Q a c') : wp (database D) Mid prog c Q :=
  wp_of_only (S := database D) SameOn.refl SameOn.trans
    (fun _ d hw => sameOn_apply d hw) honly h

section Only
variable {ok : Statement D → Prop}

@[simp] theorem only_find (t : D.Name) (id : D.Id t) :
    Only ok (find t id : Tx D (Option (D.Row t))) := fun _ => trivial

@[simp] theorem only_findWhere (t : D.Name) (id : D.Id t) (p : D.Row t → Bool) :
    Only ok (findWhere t id p : Tx D (Option (D.Row t))) := fun _ => trivial

@[simp] theorem only_findMany (t : D.Name) (p : D.Row t → Bool) :
    Only ok (findMany t p : Tx D (List (D.Row t))) := fun _ => trivial

@[simp] theorem only_findFirst (t : D.Name) (p : D.Row t → Bool) :
    Only ok (findFirst t p : Tx D (Option (D.Row t))) := fun _ => trivial

@[simp] theorem only_lockRow (t : D.Name) (id : D.Id t) : Only ok (lockRow t id : Tx D Unit) :=
  trivial

@[simp] theorem only_advisoryLock (a : D.Advisory) : Only ok (advisoryLock a : Tx D Unit) :=
  trivial

@[simp] theorem only_update (t : D.Name) (id : D.Id t) (p : D.Patch t) :
    Only ok (update t id p : Tx D Unit) ↔ ok (.update t id p) := only_write _

theorem only_assertUnique {t : D.Name} (r : D.Row t) : Only ok (assertUnique r) := by
  unfold assertUnique
  cases D.unique r with
  | none => exact only_done _
  | some a =>
    exact (only_advisoryLock _).bind fun _ => (only_findMany _ _).bind fun _ => only_require _ _

theorem only_insert {t : D.Name} {r : D.Row t} (h : ok (.insert t r)) :
    Only ok (insert t r : Tx D Unit) :=
  (only_lockRow t _).bind fun _ => (only_find t _).bind fun _ =>
    (only_require _ _).bind fun _ => (only_assertUnique r).bind fun _ => (only_write _).mpr h

theorem only_updateMany {t : D.Name} {p : D.Row t → Bool} {f : D.Patch t}
    (h : ∀ id, ok (.update t id f)) : Only ok (updateMany t p f : Tx D Unit) := by
  refine (only_findMany t p).bind fun rs => ?_
  refine (Only.each fun r _ => ?_).bind fun _ => trivial
  refine (only_lockRow t _).bind fun _ => (only_find t _).bind fun now => ?_
  exact Only.ite (fun _ => (only_update t _ f).mpr (h _)) (fun _ => trivial)

end Only

end Rules

end Relational
