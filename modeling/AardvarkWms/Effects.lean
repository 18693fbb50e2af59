import AardvarkWms.Relational

/-! What a transaction does to chosen tables: the statements on them are carried along, and
those on other tables are passed over. -/
namespace Relational

open Transactions Transactions.Txn
variable {D : Schema} {p : D.Name → Bool} {ws ws' : List (Statement D)} {v v' v'' : Db D}

/-- `v` with the statements in order. -/
abbrev applyAll (ws : List (Statement D)) (v : Db D) : Db D := (database D).applyAll ws v

/-- On the tables of `p` the state `v'` is `v` with these statements. -/
def AppliesOn (p : D.Name → Bool) (ws : List (Statement D)) (v v' : Db D) : Prop :=
  SameOn p (applyAll ws v) v'

/-- The transaction came from `c` to `c'` and wrote `ws` to the tables of `p`. -/
abbrev Reaching (p : D.Name → Bool) (c : Ctx (interface D) (Db D)) (ws : List (Statement D))
    (c' : Ctx (interface D) (Db D)) : Prop :=
  c.Moves (AppliesOn p ws) c'

theorem applyAll_append (ws ws' : List (Statement D)) (v : Db D) :
    applyAll (ws++ws') v=applyAll ws' (applyAll ws v) := by
  simp [applyAll,Store.applyAll]

theorem sameOn_applyAll (h : SameOn p v v') : SameOn p (applyAll ws v) (applyAll ws v') := by
  induction ws generalizing v v' with
  | nil => exact h
  | cons w ws ih => exact ih (h.apply w)

theorem AppliesOn.append (h : AppliesOn p ws v v') (h' : AppliesOn p ws' v' v'') :
    AppliesOn p (ws++ws') v v'' := by
  unfold AppliesOn
  rw [applyAll_append]
  exact (sameOn_applyAll h).trans h'

theorem AppliesOn.table (h : AppliesOn p ws v v') {t : D.Name} (ht : p t=true) :
    v' t=applyAll ws v t := (h t ht).symm

namespace Reaching
variable {c c' c'' : Ctx (interface D) (Db D)}

theorem refl (c : Ctx (interface D) (Db D)) : Reaching p c [] c :=
  (c.moves_refl).imp fun h => h ▸ SameOn.refl _

theorem append (h : Reaching p c ws c') (h' : Reaching p c' ws' c'') :
    Reaching p c (ws++ws') c'' := by
  refine Ctx.Moves.comp ?_ h h'
  intro d d' d'' ha ha'
  exact ha.append ha'

theorem reads (h : Reaching p c ws c') (h' : c'.Moves Eq c'') : Reaching p c ws c'' :=
  h.and_reads h'

theorem asides (h : Reaching p c ws c') (h' : c'.Moves (SameOn p) c'') : Reaching p c ws c'' := by
  refine Ctx.Moves.comp ?_ h h'
  intro d d' d'' ha hs
  exact SameOn.trans ha hs

theorem table (h : Reaching p c ws c') {t : D.Name} (ht : p t=true) :
    c'.view t=applyAll ws c.view t := h.view.table ht

theorem settled (h : Reaching p c ws c') {t : D.Name} (ht : p t=true) {id : D.Id t} {r : D.Row t}
    (hs : Settled c'.view t id r) : Settled (applyAll ws c.view) t id r := by
  unfold Settled at hs ⊢
  rwa [h.table ht] at hs

end Reaching

section Rules
variable {Mid : Ctx (interface D) (Db D) → Prop} {c₀ c : Ctx (interface D) (Db D)} {α : Type}
  {t : D.Name} {id : D.Id t}

theorem Reaching.wp_reads {prog : Tx D α} {Q : α → Ctx (interface D) (Db D) → Prop}
    (hc : Reaching p c₀ ws c) (hp : Only (fun _ => False) prog)
    (h : ∀ a c, Reaching p c₀ ws c → Q a c) : wp (database D) Mid prog c Q :=
  wp_of_reads hp fun a _ hm => h a _ (hc.reads hm)

theorem Reaching.wp_asides {prog : Tx D α} {Q : α → Ctx (interface D) (Db D) → Prop}
    (hc : Reaching p c₀ ws c) (hp : Only (fun w : Statement D => ¬p w.table=true) prog)
    (h : ∀ a c, Reaching p c₀ ws c → Q a c) : wp (database D) Mid prog c Q :=
  wp_aside hp fun a _ hm => h a _ (hc.asides hm)

theorem Reaching.wp_update {f : D.Patch t} {Q : Unit → Ctx (interface D) (Db D) → Prop}
    (hc : Reaching p c₀ ws c) (h : ∀ c, Reaching p c₀ (ws++[.update t id f]) c → Q () c) :
    wp (database D) Mid (update t id f) c Q := by
  simp only [Relational.wp_update]
  refine h _ (hc.append ?_)
  exact (c.moves_wrote (database D) _).imp fun hv => hv ▸ SameOn.refl _

theorem Reaching.wp_insert_unique {r : D.Row t} {Q : Unit → Ctx (interface D) (Db D) → Prop}
    (hc : Reaching p c₀ ws c) (ht : p t=true)
    (h : ∀ c, (applyAll ws c₀.view t).get? (D.key r)=none →
      (∀ a, D.unique r=some a → ∀ s∈(applyAll ws c₀.view t).rows, D.unique s≠some a) →
      Reaching p c₀ (ws++[.insert t r]) c → Q () c) :
    wp (database D) Mid (insert t r) c Q := by
  refine Relational.wp_insert fun c' hn hc' hu => ?_
  rw [hc.table ht] at hn hu
  refine h _ hn (fun a ha => (hu a ha).2) (hc.append ?_)
  exact hc'.of_reads ((Ctx.moves_wrote _ (database D) _).imp fun hv => hv ▸ SameOn.refl _)

theorem Reaching.wp_within {ok : Statement D → Prop} {prog : Tx D α}
    {Q : α → Ctx (interface D) (Db D) → Prop} (hc : Reaching p c₀ ws c)
    (hp : Only (fun w : Statement D => p w.table=true → ok w) prog)
    (h : ∀ a c ws', (∀ w∈ws', ok w) → Reaching p c₀ (ws++ws') c → Q a c) :
    wp (database D) Mid prog c Q := by
  have hrefl : ∀ d : Db D, ∃ ws', (∀ w∈ws', ok w) ∧ AppliesOn p ws' d d :=
    fun d => ⟨[],by simp,SameOn.refl d⟩
  refine wp_of_only (R := fun d d' => ∃ ws', (∀ w∈ws', ok w) ∧ AppliesOn p ws' d d') hrefl ?_ ?_ hp
    fun a c' hm => ?_
  · rintro d d' d'' ⟨ws₁,hok₁,h₁⟩ ⟨ws₂,hok₂,h₂⟩
    refine ⟨ws₁++ws₂,fun w hw => ?_,h₁.append h₂⟩
    rcases List.mem_append.mp hw with hw|hw
    · exact hok₁ w hw
    · exact hok₂ w hw
  · intro w d hw
    by_cases ht : p w.table=true
    · exact ⟨[w],by simpa using hw ht,SameOn.refl _⟩
    · exact ⟨[],by simp,sameOn_apply d ht⟩
  · obtain ⟨ws',hok,happ⟩ := hm.view
    exact h a c' ws' hok (hc.append (hm.imp fun _ => happ))

theorem Reaching.wp_lockRow {Q : Unit → Ctx (interface D) (Db D) → Prop}
    (hc : Reaching p c₀ ws c)
    (h : ∀ c, Reaching p c₀ ws c → Lock.row t id∈c.locks → Q () c) :
    wp (database D) Mid (lockRow t id) c Q :=
  h _ (hc.reads (c.moves_held _)) (by simp)

theorem Reaching.wp_find {Q : Option (D.Row t) → Ctx (interface D) (Db D) → Prop}
    (hc : Reaching p c₀ ws c) (ht : p t=true)
    (h : ∀ o c, Reaching p c₀ ws c → c.Saw (Select.row t id) o → (∀ r, o=some r →
      D.key r=id ∧ Settled (applyAll ws c₀.view) t id r) → Q o c) :
    wp (database D) Mid (find t id) c Q := by
  refine Relational.wp_find fun o ho => ?_
  refine h o _ (hc.reads (c.moves_saw _ _)) (Ctx.saw_saw _ _ _) fun r hr => ?_
  exact ⟨(ho r hr).1,hc.settled ht (ho r hr).2⟩

theorem Reaching.wp_find_held {Q : Option (D.Row t) → Ctx (interface D) (Db D) → Prop}
    (hc : Reaching p c₀ ws c) (ht : p t=true) (hk : Lock.row t id∈c.locks)
    (h : ∀ c, Reaching p c₀ ws c → Q ((applyAll ws c₀.view t).get? id) c) :
    wp (database D) Mid (find t id) c Q := by
  refine Relational.wp_find_held hk ?_
  rw [hc.table ht]
  exact h _ (hc.reads (c.moves_saw _ _))

theorem Reaching.wp_findMany {f : D.Row t → Bool} {Q : List (D.Row t) → Ctx (interface D) (Db D) → Prop}
    (hc : Reaching p c₀ ws c) (ht : p t=true)
    (h : ∀ rs c, Reaching p c₀ ws c → c.Saw (Select.rows t f) rs → (rs.map D.key).Nodup →
      (∀ r∈rs, f r=true ∧ Settled (applyAll ws c₀.view) t (D.key r) r) → Q rs c) :
    wp (database D) Mid (findMany t f) c Q := by
  refine Relational.wp_findMany fun rs hn hrs => ?_
  refine h rs _ (hc.reads (c.moves_saw _ _)) (Ctx.saw_saw _ _ _) hn fun r hr => ?_
  exact ⟨(hrs r hr).1,hc.settled ht (hrs r hr).2⟩

theorem Reaching.wp_findMany_guarded {f : D.Row t → Bool} {k : Lock D}
    {Q : List (D.Row t) → Ctx (interface D) (Db D) → Prop} (hc : Reaching p c₀ ws c)
    (ht : p t=true) (hk : k∈c.locks) (hf : ∀ r, f r=true → k∈guards r)
    (hfixed : ∀ r, f (D.fixed r)=f r) (h : ∀ rs c, Reaching p c₀ ws c →
      rs.map D.fixed=((applyAll ws c₀.view t).rows.filter f).map D.fixed → Q rs c) :
    wp (database D) Mid (findMany t f) c Q := by
  refine Relational.wp_findMany_guarded hk hf hfixed fun rs hrs => ?_
  rw [hc.table ht] at hrs
  exact h rs _ (hc.reads (c.moves_saw _ _)) hrs

end Rules

end Relational
