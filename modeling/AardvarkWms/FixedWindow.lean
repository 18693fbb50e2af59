import Mathlib.Algebra.Order.Ring.Int
import Mathlib.Data.List.Basic

/-! Calls counted in windows of a fixed length: the first call of a key opens a window, and the first
one after its end opens the next. -/
namespace FixedWindow

structure Bucket where
  count : ℕ
  resetAt : ℤ
  deriving DecidableEq

/-- A bucket whose window has not ended. -/
def live (now : ℤ) (bucket : Option Bucket) : Option Bucket := bucket.filter fun b => now < b.resetAt

/-- The bucket that a call leaves. -/
def next (windowMs now : ℤ) (bucket : Option Bucket) : Bucket :=
  match live now bucket with
  | some b => ⟨b.count+1,b.resetAt⟩
  | none => ⟨1,now+windowMs⟩

/-- A store that counts calls: what a call gives, and what is left to see at any later time. -/
structure Store (windowMs : ℤ) (K σ : Type) [DecidableEq K] where
  view : σ → K → Option Bucket
  step : σ → K → ℤ → σ × Bucket
  counts : ∀ s k now, (step s k now).2=next windowMs now (view s k)
  keeps : ∀ s k now k' later, now≤later → live later (view (step s k now).1 k')=
    live later (if k'=k then some (next windowMs now (view s k)) else view s k')

variable {windowMs now later : ℤ} {b : Bucket} {bucket : Option Bucket}

theorem live_some : live now bucket=some b ↔ bucket=some b ∧ now < b.resetAt := by
  unfold live
  rw [Option.filter_eq_some_iff,decide_eq_true_eq]

theorem live_over (h : b.resetAt≤now) : live now (some b)=none := by
  unfold live
  rw [Option.filter_some,if_neg (by simpa using h)]

theorem live_later (h : now≤later) : live later (live now bucket)=live later bucket := by
  cases bucket with
  | none => rfl
  | some b =>
    by_cases hb : now < b.resetAt
    · rw [live_some.mpr ⟨rfl,hb⟩]
    · rw [live_over (by omega),live_over (by omega)]
      rfl

theorem next_live (now : ℤ) (bucket : Option Bucket) :
    next windowMs now (live now bucket)=next windowMs now bucket := by
  unfold next
  rw [live_later le_rfl]

theorem next_open (h : 0 < windowMs) : now < (next windowMs now bucket).resetAt := by
  unfold next
  cases hlive : live now bucket with
  | none => exact Int.lt_add_of_pos_right now h
  | some b => exact (live_some.mp hlive).2

theorem next_count : 1≤(next windowMs now bucket).count := by
  unfold next
  cases live now bucket with
  | none => exact le_rfl
  | some b => exact Nat.le_add_left 1 b.count

/-- A call that was counted. -/
structure Counted (K : Type) where
  key : K
  time : ℤ
  bucket : Bucket

section Clock
variable {K : Type} {c : K × ℤ} {calls : List (K × ℤ)}

/-- The clock does not go back, from now on. -/
def Clocked (now : ℤ) (calls : List (K × ℤ)) : Prop := (now::calls.map (·.2)).Pairwise (·≤·)

theorem Clocked.head (h : Clocked now (c::calls)) : now≤c.2 :=
  (List.pairwise_cons.mp h).1 c.2 List.mem_cons_self

theorem Clocked.tail (h : Clocked now (c::calls)) : Clocked c.2 calls :=
  (List.pairwise_cons.mp h).2

end Clock

namespace Store

variable {K σ τ : Type} [DecidableEq K] (m : Store windowMs K σ) (m' : Store windowMs K τ)

/-- The calls with the buckets they get. -/
def run (s : σ) : List (K × ℤ) → List (Counted K)
  | [] => []
  | c::calls => ⟨c.1,c.2,(m.step s c.1 c.2).2⟩::run (m.step s c.1 c.2).1 calls

def after (s : σ) (calls : List (K × ℤ)) : σ := calls.foldl (fun s c => (m.step s c.1 c.2).1) s

variable {m m'} {s : σ} {s' : τ} {k : K} {calls calls' : List (K × ℤ)} {c : K × ℤ}

theorem run_append : m.run s (calls++calls')=m.run s calls++m.run (m.after s calls) calls' := by
  induction calls generalizing s with
  | nil => rfl
  | cons c calls ih => exact congrArg (List.cons _) ih

/-- No difference can be seen between two stores. -/
def Agree (m : Store windowMs K σ) (m' : Store windowMs K τ) (now : ℤ) (s : σ) (s' : τ) : Prop :=
  ∀ k, live now (m.view s k)=live now (m'.view s' k)

theorem Agree.mono (h : Agree m m' now s s') (hlater : now≤later) : Agree m m' later s s' := by
  intro k
  rw [← live_later hlater,h k,live_later hlater]

theorem Agree.same (h : Agree m m' now s s') (k : K) :
    (m.step s k now).2=(m'.step s' k now).2 := by
  rw [m.counts,m'.counts,← next_live,h k,next_live]

theorem Agree.step (h : Agree m m' now s s') (k : K) :
    Agree m m' now (m.step s k now).1 (m'.step s' k now).1 := by
  intro k'
  have hbucket := h.same k
  rw [m.counts,m'.counts] at hbucket
  rw [m.keeps s k now k' now le_rfl,m'.keeps s' k now k' now le_rfl]
  by_cases hk : k'=k
  · rw [if_pos hk,if_pos hk,hbucket]
  · rw [if_neg hk,if_neg hk,h k']

theorem Agree.run (h : Agree m m' now s s') (hclock : Clocked now calls) :
    m.run s calls=m'.run s' calls := by
  induction calls generalizing now s s' with
  | nil => rfl
  | cons c calls ih =>
    have hnow := h.mono hclock.head
    have hrest := ih (hnow.step c.1) hclock.tail
    unfold Store.run
    rw [hnow.same c.1,hrest]

/-- How many of the calls of a key, within the window that ends at `e`, are counted up to `limit`. -/
def within (limit : ℕ) (k : K) (e : ℤ) (results : List (Counted K)) : ℕ :=
  results.countP fun x => x.key=k && x.bucket.resetAt=e && x.bucket.count≤limit

theorem within_cons (limit : ℕ) (k : K) (e : ℤ) (x : Counted K) (results : List (Counted K)) :
    within limit k e (x::results)=within limit k e results+
      if x.key=k ∧ x.bucket.resetAt=e ∧ x.bucket.count≤limit then 1 else 0 := by
  unfold within
  rw [List.countP_cons]
  simp only [Bool.and_eq_true,decide_eq_true_eq,and_assoc]

theorem within_run (h : 0 < windowMs) (limit : ℕ) (k : K) (hclock : Clocked now calls) :
    (∀ e≤now, within limit k e (m.run s calls)=0) ∧
      (∀ e, within limit k e (m.run s calls)≤limit) ∧
      ∀ b, live now (m.view s k)=some b →
        within limit k b.resetAt (m.run s calls)≤limit-b.count := by
  induction calls generalizing now s with
  | nil => exact ⟨fun _ _ => rfl,fun _ => Nat.zero_le _,fun _ _ => Nat.zero_le _⟩
  | cons c calls ih =>
    obtain ⟨hpast,hall,hopen⟩ := @ih c.2 (m.step s c.1 c.2).1 hclock.tail
    have hnow := hclock.head
    have hlater := m.keeps s c.1 c.2 k c.2 le_rfl
    have hfresh := @next_open windowMs c.2 (m.view s c.1) h
    have hcount := @next_count windowMs c.2 (m.view s c.1)
    have hrun : m.run s (c::calls)=⟨c.1,c.2,next windowMs c.2 (m.view s c.1)⟩::
        m.run (m.step s c.1 c.2).1 calls := by
      rw [Store.run,m.counts]
    rw [hrun]
    simp only [within_cons]
    by_cases hk : k=c.1
    · subst hk
      rw [if_pos rfl,live_some.mpr ⟨rfl,hfresh⟩] at hlater
      have hown := hopen _ hlater
      refine ⟨fun e he => ?_,fun e => ?_,fun b hb => ?_⟩
      · rw [hpast e (by omega),if_neg (by omega)]
      · have hrest := hall e
        by_cases he : (next windowMs c.2 (m.view s c.1)).resetAt=e
        · rw [he] at hown
          split_ifs <;> omega
        · rw [if_neg fun hcounted => he hcounted.2.1]
          exact hrest
      · by_cases hlive : c.2 < b.resetAt
        · have hsame : live c.2 (m.view s c.1)=some b :=
            live_some.mpr ⟨(live_some.mp hb).1,hlive⟩
          have hnext : next windowMs c.2 (m.view s c.1)=⟨b.count+1,b.resetAt⟩ := by
            unfold next
            rw [hsame]
          rw [hnext] at hown ⊢
          simp only at hown ⊢
          split_ifs <;> omega
        · rw [hpast b.resetAt (by omega),if_neg (by omega)]
          exact Nat.zero_le _
    · rw [if_neg hk] at hlater
      have hskip : ∀ e, (if c.1=k ∧ (next windowMs c.2 (m.view s c.1)).resetAt=e ∧
          (next windowMs c.2 (m.view s c.1)).count≤limit then 1 else 0)=0 := fun e =>
        if_neg fun hcounted => hk hcounted.1.symm
      simp only [hskip,Nat.add_zero]
      refine ⟨fun e he => hpast e (by omega),hall,fun b hb => ?_⟩
      by_cases hlive : c.2 < b.resetAt
      · exact hopen b (hlater.trans (live_some.mpr ⟨(live_some.mp hb).1,hlive⟩))
      · rw [hpast b.resetAt (by omega)]
        exact Nat.zero_le _

/-- The window that ends at `e` is over, or the key is in it or in a later one. -/
def Passed (m : Store windowMs K σ) (now : ℤ) (s : σ) (k : K) (e : ℤ) : Prop :=
  match live now (m.view s k) with
  | some b => b.resetAt=e ∨ e+windowMs≤b.resetAt
  | none => e≤now

theorem Passed.run (h : 0 < windowMs) {e : ℤ} (hpassed : Passed m now s k e)
    (hclock : Clocked now calls) : ∀ x∈m.run s calls, x.key=k →
      x.bucket.resetAt=e ∨ e+windowMs≤x.bucket.resetAt := by
  induction calls generalizing now s with
  | nil =>
    intro x hx
    cases hx
  | cons c calls ih =>
    have hnow := hclock.head
    have hview : Passed m c.2 s k e := by
      unfold Passed at hpassed ⊢
      cases hlater : live c.2 (m.view s k) with
      | some b =>
        have hb := live_some.mp hlater
        rw [live_some.mpr ⟨hb.1,lt_of_le_of_lt hnow hb.2⟩] at hpassed
        exact hpassed
      | none =>
        cases hearly : live now (m.view s k) with
        | none =>
          rw [hearly] at hpassed
          exact le_trans hpassed hnow
        | some b =>
          have hover : ¬c.2 < b.resetAt := by
            intro hin
            rw [live_some.mpr ⟨(live_some.mp hearly).1,hin⟩] at hlater
            cases hlater
          rw [hearly] at hpassed
          simp only at hpassed ⊢
          omega
    have hown : (next windowMs c.2 (m.view s k)).resetAt=e ∨
        e+windowMs≤(next windowMs c.2 (m.view s k)).resetAt := by
      unfold Passed at hview
      unfold next
      cases hlive : live c.2 (m.view s k) with
      | some b =>
        rw [hlive] at hview
        exact hview
      | none =>
        rw [hlive] at hview
        simp only at hview ⊢
        omega
    have hnext : Passed m c.2 (m.step s c.1 c.2).1 k e := by
      unfold Passed
      rw [m.keeps s c.1 c.2 k c.2 le_rfl]
      by_cases hk : k=c.1
      · rw [if_pos hk,← hk,live_some.mpr ⟨rfl,next_open h⟩]
        exact hown
      · rw [if_neg hk]
        exact hview
    intro x hx hkey
    cases List.mem_cons.mp hx with
    | inl hfirst =>
      rw [hfirst] at hkey ⊢
      have hc : c.1=k := hkey
      rw [m.counts,hc]
      exact hown
    | inr hrest => exact ih hnext hclock.tail x hrest hkey

theorem run_apart (h : 0 < windowMs) (hclock : Clocked now calls) :
    (m.run s calls).Pairwise fun x y => x.key=y.key →
      y.bucket.resetAt=x.bucket.resetAt ∨ x.bucket.resetAt+windowMs≤y.bucket.resetAt := by
  induction calls generalizing now s with
  | nil => exact List.Pairwise.nil
  | cons c calls ih =>
    refine List.pairwise_cons.mpr ⟨fun y hy hkey => ?_,ih hclock.tail⟩
    have hpassed : Passed m c.2 (m.step s c.1 c.2).1 c.1 (m.step s c.1 c.2).2.resetAt := by
      unfold Passed
      rw [m.keeps s c.1 c.2 c.1 c.2 le_rfl,if_pos rfl,live_some.mpr ⟨rfl,next_open h⟩,m.counts]
      exact Or.inl rfl
    exact hpassed.run h hclock.tail y hy hkey.symm

theorem run_open (h : 0 < windowMs)
    (hstart : ∀ k b, live now (m.view s k)=some b → b.resetAt≤now+windowMs)
    (hclock : Clocked now calls) : ∀ x∈m.run s calls,
      x.time < x.bucket.resetAt ∧ x.bucket.resetAt≤x.time+windowMs := by
  induction calls generalizing now s with
  | nil =>
    intro x hx
    cases hx
  | cons c calls ih =>
    have hnow := hclock.head
    have hlast : (next windowMs c.2 (m.view s c.1)).resetAt≤c.2+windowMs := by
      unfold next
      cases hlive : live c.2 (m.view s c.1) with
      | none => exact le_rfl
      | some b =>
        have hb := live_some.mp hlive
        have hold := hstart c.1 b (live_some.mpr ⟨hb.1,lt_of_le_of_lt hnow hb.2⟩)
        exact le_trans hold (by omega)
    have hnext : ∀ k b, live c.2 (m.view (m.step s c.1 c.2).1 k)=some b →
        b.resetAt≤c.2+windowMs := by
      intro k b hb
      rw [m.keeps s c.1 c.2 k c.2 le_rfl] at hb
      by_cases hk : k=c.1
      · rw [if_pos hk] at hb
        have hsame := Option.some.inj (live_some.mp hb).1
        rw [← hsame]
        exact hlast
      · rw [if_neg hk] at hb
        have hold := live_some.mp hb
        have hbefore := hstart k b (live_some.mpr ⟨hold.1,lt_of_le_of_lt hnow hold.2⟩)
        exact le_trans hbefore (by omega)
    intro x hx
    cases List.mem_cons.mp hx with
    | inl hfirst =>
      rw [hfirst,m.counts]
      exact ⟨next_open h,hlast⟩
    | inr hrest => exact ih hnext hclock.tail x hrest

/-- The calls of each of several rounds with the buckets they get. -/
def runRounds {ι : Type} (m : Store windowMs K σ) (calls : ι → List (K × ℤ)) (s : σ) :
    List ι → List (ι × List (Counted K))
  | [] => []
  | i::rounds => (i,m.run s (calls i))::runRounds m calls (m.after s (calls i)) rounds

theorem runRounds_flatten {ι : Type} (calls : ι → List (K × ℤ)) (rounds : List ι) :
    (m.runRounds calls s rounds).flatMap (·.2)=m.run s (rounds.flatMap calls) := by
  induction rounds generalizing s with
  | nil => rfl
  | cons i rounds ih =>
    rw [runRounds,List.flatMap_cons,List.flatMap_cons,run_append,ih]

theorem countP_rounds {ι : Type} (p : ι × List (Counted K) → Bool) (limit : ℕ) (k : K) (e : ℤ)
    (rounds : List (ι × List (Counted K)))
    (hp : ∀ x∈rounds, p x=true →
      ∃ y∈x.2, y.key=k ∧ y.bucket.resetAt=e ∧ y.bucket.count≤limit) :
    rounds.countP p≤within limit k e (rounds.flatMap (·.2)) := by
  induction rounds with
  | nil => exact Nat.zero_le _
  | cons x rounds ih =>
    have hrest := ih fun y hy => hp y (List.mem_cons_of_mem x hy)
    unfold within at hrest ⊢
    rw [List.flatMap_cons,List.countP_append,List.countP_cons]
    by_cases hx : p x=true
    · obtain ⟨y,hy,hcounted⟩ := hp x List.mem_cons_self hx
      have hpos : 0 < x.2.countP fun x => x.key=k && x.bucket.resetAt=e && x.bucket.count≤limit := by
        refine List.countP_pos_iff.mpr ⟨y,hy,?_⟩
        simp [hcounted]
      rw [if_pos hx]
      omega
    · rw [if_neg hx]
      omega

end Store

end FixedWindow
