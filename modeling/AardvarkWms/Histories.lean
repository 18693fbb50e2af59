import Mathlib.Data.List.Basic
import Mathlib.Data.List.Infix

/-! Histories of actions: what one action keeps, every state of a history keeps. -/
namespace Histories

variable {State Action : Type}

def run (act : State → Action → State) (s : State) (as : List Action) : State := as.foldl act s

/-- `ok` holds of every action of the history in the state it is taken in. -/
def Throughout (act : State → Action → State) (ok : State → Action → Prop) (s : State)
    (as : List Action) : Prop :=
  ∀ bs a, bs++[a]<+:as → ok (run act s bs) a

/-- Every state of the history is good, and keeps what the states before it promise. -/
structure Lawful (act : State → Action → State) (Inv : State → Prop)
    (Kept : State → State → Prop) (s : State) (as : List Action) : Prop where
  inv : ∀ bs, bs<+:as → Inv (run act s bs)
  kept : ∀ bs cs, bs<+:cs → cs<+:as → Kept (run act s bs) (run act s cs)

variable {act : State → Action → State} {ok ok' : State → Action → Prop} {Inv : State → Prop}
  {Kept : State → State → Prop} {s : State} {as bs : List Action} {a : Action}

@[simp] theorem run_nil : run act s []=s := rfl

@[simp] theorem run_concat : run act s (as++[a])=act (run act s as) a := by
  simp [run]

theorem Throughout.before (h : Throughout act ok s as) (hbs : bs<+:as) :
    Throughout act ok s bs :=
  fun cs a hcs => h cs a (hcs.trans hbs)

theorem Throughout.last (h : Throughout act ok s (as++[a])) : ok (run act s as) a :=
  h as a (List.prefix_refl _)

theorem throughout_nil : Throughout act ok s [] := by
  intro bs a h
  have hlen := h.length_le
  simp at hlen

theorem throughout_cons :
    Throughout act ok s (a::as) ↔ ok s a ∧ Throughout act ok (act s a) as := by
  constructor
  · intro h
    refine ⟨h [] a (List.prefix_append [a] as),?_⟩
    intro bs b hbs
    exact h (a::bs) b (List.cons_prefix_cons.mpr ⟨rfl,hbs⟩)
  · intro h bs b hbs
    cases bs with
    | nil =>
      obtain ⟨rfl,_⟩ := List.cons_prefix_cons.mp hbs
      exact h.1
    | cons c cs =>
      obtain ⟨rfl,hcs⟩ := List.cons_prefix_cons.mp hbs
      exact h.2 cs b hcs

instance decidableThroughout [∀ s a, Decidable (ok s a)] :
    ∀ (s : State) (as : List Action), Decidable (Throughout act ok s as)
  | _, [] => .isTrue throughout_nil
  | s, a::as =>
    have := decidableThroughout (act s a) as
    decidable_of_iff _ throughout_cons.symm

/-- What holds along the history may be asked of the states only that it reaches. -/
theorem Throughout.imp (h : Throughout act ok s as)
    (himp : ∀ bs a, bs++[a]<+:as → ok (run act s bs) a → ok' (run act s bs) a) :
    Throughout act ok' s as :=
  fun bs a hbs => himp bs a hbs (h bs a hbs)

theorem prefix_concat (h : bs<+:as++[a]) : bs<+:as ∨ bs=as++[a] := by
  rcases List.prefix_concat_iff.mp h with rfl|h
  · exact .inr rfl
  · exact .inl h

/-- The invariant rule: an action taken where `ok` holds keeps the invariant. -/
theorem Throughout.inv (h : Throughout act ok s as) (hstart : Inv s)
    (hstep : ∀ s a, Inv s → ok s a → Inv (act s a)) : Inv (run act s as) := by
  induction as using List.reverseRecOn with
  | nil => exact hstart
  | append_singleton as a ih =>
    have hbefore : Inv (run act s as) := ih (h.before (List.prefix_append _ _))
    rw [run_concat]
    exact hstep _ _ hbefore h.last

/-- The same of an invariant that every action keeps. -/
theorem run_inv (hstart : Inv s) (hstep : ∀ s a, Inv s → Inv (act s a)) : Inv (run act s as) := by
  have hall : Throughout act (fun _ _ => True) s as := fun _ _ _ => trivial
  exact hall.inv hstart fun s a hs _ => hstep s a hs

/-- A history whose every action is permitted is lawful. -/
theorem Throughout.lawful (h : Throughout act ok s as) (hstart : Inv s)
    (hrefl : ∀ s, Inv s → Kept s s)
    (htrans : ∀ {s s' s''}, Kept s s' → Kept s' s'' → Kept s s'')
    (hstep : ∀ s a, Inv s → ok s a → Inv (act s a) ∧ Kept s (act s a)) :
    Lawful act Inv Kept s as := by
  have hinv : ∀ bs, bs<+:as → Inv (run act s bs) := by
    intro bs hbs
    exact (h.before hbs).inv hstart fun s a hs ha => (hstep s a hs ha).1
  refine ⟨hinv,?_⟩
  intro bs cs hbs hcs
  induction cs using List.reverseRecOn with
  | nil =>
    obtain rfl := List.prefix_nil.mp hbs
    exact hrefl _ (hinv [] hcs)
  | append_singleton cs a ih =>
    rcases prefix_concat hbs with hbs|rfl
    · have hcs' : cs<+:as := (List.prefix_append cs [a]).trans hcs
      have hlast := (hstep _ a (hinv cs hcs') (h cs a hcs)).2
      rw [run_concat]
      exact htrans (ih hbs hcs') hlast
    · exact hrefl _ (hinv _ hcs)

/-- Where the permission says exactly when one action keeps the law, a history is lawful just
where each of its actions is permitted. -/
theorem lawful_iff (hstart : Inv s) (hrefl : ∀ s, Inv s → Kept s s)
    (htrans : ∀ {s s' s''}, Kept s s' → Kept s' s'' → Kept s s'')
    (hstep : ∀ s a, Inv s → (ok s a ↔ Inv (act s a) ∧ Kept s (act s a))) :
    Lawful act Inv Kept s as ↔ Throughout act ok s as := by
  constructor
  · intro h bs a hbs
    have hbefore : bs<+:as := (List.prefix_append bs [a]).trans hbs
    have hinv := h.inv _ hbs
    have hkept := h.kept bs (bs++[a]) (List.prefix_append _ _) hbs
    rw [run_concat] at hinv hkept
    exact (hstep _ a (h.inv bs hbefore)).mpr ⟨hinv,hkept⟩
  · intro h
    exact h.lawful hstart hrefl htrans fun s a hs ha => (hstep s a hs).mp ha

/-- As before, for a law that rests on something else, which every action keeps. -/
theorem law_iff {Law Side : State → Prop} (hlaw : Law s) (hside : Side s)
    (hkeeps : ∀ s a, Side s → Side (act s a))
    (hstep : ∀ s a, Law s → Side s → (ok s a ↔ Law (act s a))) :
    (∀ bs, bs<+:as → Law (run act s bs)) ↔ Throughout act ok s as := by
  have hboth : ∀ bs, Side (run act s bs) := fun bs => run_inv hside hkeeps
  have hlawful : Lawful act (fun s => Law s ∧ Side s) (fun _ _ => True) s as ↔
      Throughout act ok s as := by
    apply lawful_iff
    · exact ⟨hlaw,hside⟩
    · exact fun _ _ => trivial
    · exact fun _ _ => trivial
    · intro s a hs
      rw [hstep s a hs.1 hs.2]
      exact ⟨fun h => ⟨⟨h,hkeeps s a hs.2⟩,trivial⟩,fun h => h.1.1⟩
  rw [← hlawful]
  constructor
  · intro h
    exact ⟨fun bs hbs => ⟨h bs hbs,hboth bs⟩,fun _ _ _ _ => trivial⟩
  · intro h bs hbs
    exact (h.inv bs hbs).1

/-- An entry of a list in which one has been replaced. -/
theorem getElem?_set_cases {α : Type} {l : List α} {i j : ℕ} {x y : α}
    (h : (l.set i x)[j]?=some y) : j=i ∧ y=x ∨ j≠i ∧ l[j]?=some y := by
  by_cases hj : j=i
  · subst hj
    have hlen : j < l.length := by
      have hset := (List.getElem?_eq_some_iff.mp h).1
      simpa using hset
    left
    refine ⟨rfl,?_⟩
    simpa [hlen] using h.symm
  · right
    refine ⟨hj,?_⟩
    simpa [List.getElem?_set,Ne.symm hj] using h

end Histories
