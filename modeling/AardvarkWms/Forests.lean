import Mathlib.Logic.Relation
import Mathlib.Data.List.Nodup
import Mathlib.Tactic.Linarith

/-! Rows that name their parents: where a measure falls from each row to its parent they make a
forest. -/
namespace Forests

variable {α κ : Type} (key : α → κ) (parent : α → Option κ) (rows : List α)

/-- The second row is the parent that the first one names. -/
def ParentOf (a b : α) : Prop := a∈rows ∧ b∈rows ∧ parent a=some (key b)

structure Forest : Prop where
  parents : ∀ a∈rows, ∀ k, parent a=some k → ∃ b∈rows, key b=k
  unique : ∀ a b c, ParentOf key parent rows a b → ParentOf key parent rows a c → b=c
  acyclic : ∀ a, ¬Relation.TransGen (ParentOf key parent rows) a a
  rooted : ∀ a∈rows, ∃ r∈rows, parent r=none ∧
    Relation.ReflTransGen (ParentOf key parent rows) a r

variable {key parent rows}

/-- The measure falls along every chain of parents. -/
theorem measure_lt {f : α → ℕ} (hf : ∀ a b, ParentOf key parent rows a b → f b < f a) {a b : α}
    (h : Relation.TransGen (ParentOf key parent rows) a b) : f b < f a := by
  induction h with
  | single h => exact hf _ _ h
  | tail _ h ih => exact lt_trans (hf _ _ h) ih

theorem forest_of_measure (hkeys : (rows.map key).Nodup) (f : α → ℕ)
    (h : ∀ a∈rows, ∀ k, parent a=some k → ∃ b∈rows, key b=k ∧ f b < f a) :
    Forest key parent rows := by
  have hunique : ∀ b∈rows, ∀ c∈rows, key b=key c → b=c :=
    fun b hb c hc hk => List.inj_on_of_nodup_map hkeys hb hc hk
  have hfalls : ∀ a b, ParentOf key parent rows a b → f b < f a := by
    intro a b hab
    obtain ⟨c,hc,hk,hlt⟩ := h a hab.1 _ hab.2.2
    have hcb : c=b := hunique c hc b hab.2.1 hk
    exact hcb ▸ hlt
  refine ⟨?_,?_,?_,?_⟩
  · intro a ha k hk
    obtain ⟨b,hb,hbk,_⟩ := h a ha k hk
    exact ⟨b,hb,hbk⟩
  · intro a b c hb hc
    have hsame : some (key b)=some (key c) := hb.2.2.symm.trans hc.2.2
    exact hunique b hb.2.1 c hc.2.1 (Option.some.inj hsame)
  · intro a ha
    exact lt_irrefl _ (measure_lt hfalls ha)
  · -- up the parents, on the measure
    have hroot : ∀ n a, a∈rows → f a≤n → ∃ r∈rows, parent r=none ∧
        Relation.ReflTransGen (ParentOf key parent rows) a r := by
      intro n
      induction n with
      | zero =>
        intro a ha hn
        cases hp : parent a with
        | none => exact ⟨a,ha,hp,.refl⟩
        | some k =>
          obtain ⟨b,_,_,hlt⟩ := h a ha k hp
          omega
      | succ n ih =>
        intro a ha hn
        cases hp : parent a with
        | none => exact ⟨a,ha,hp,.refl⟩
        | some k =>
          obtain ⟨b,hb,hk,hlt⟩ := h a ha k hp
          obtain ⟨r,hr,hnone,hchain⟩ := ih b hb (by omega)
          have hab : ParentOf key parent rows a b := ⟨ha,hb,hk ▸ hp⟩
          exact ⟨r,hr,hnone,.head hab hchain⟩
    intro a ha
    exact hroot (f a) a ha le_rfl

end Forests
