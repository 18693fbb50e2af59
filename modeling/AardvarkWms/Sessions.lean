import AardvarkWms.Transactions

/-! Sessions that run transactions side by side on one store: row locks exclude, reads
see what is committed plus the session's own writes, a commit publishes at once. -/
namespace Transactions

open Txn
variable {I : Interface} {State Op : Type}

/-- A running transaction. -/
structure Session (I : Interface) (Op : Type) where
  op : Op
  rest : Txn I Unit
  locks : List I.Key
  writes : List I.Write
  log : List (Seen I)

def Session.ctx (S : Store I State) (s : Session I Op) (d : State) : Ctx I State :=
  ⟨d,S.applyAll s.writes d,s.locks,s.log⟩

structure Config (I : Interface) (State Op : Type) where
  committed : State
  session : ℕ → Option (Session I Op)

namespace Config

def idle (d : State) : Config I State Op := ⟨d,fun _ => none⟩

def put (c : Config I State Op) (i : ℕ) (s : Option (Session I Op)) : Config I State Op :=
  {c with session := Function.update c.session i s}

/-- No session but `i` holds the row. -/
def Free (c : Config I State Op) (i : ℕ) (k : I.Key) : Prop :=
  ∀ j s, j≠i → c.session j=some s → k∉s.locks

end Config

/-- One statement of a session, run where `d` is committed. -/
inductive Move (S : Store I State) (d : State) (free : I.Key → Prop) :
    Session I Op → Session I Op → Prop
  | ask {op q k L ws log} :
      Move S d free ⟨op,.ask q k,L,ws,log⟩
        ⟨op,k (S.answer q (S.applyAll ws d)),L,ws,⟨q,S.answer q (S.applyAll ws d)⟩::log⟩
  | lock {op key k L ws log} : free key →
      Move S d free ⟨op,.lock key k,L,ws,log⟩ ⟨op,k,key::L,ws,log⟩
  | exec {op w k L ws log} : (∀ key∈S.keys w, free key) →
      S.accepts w (S.applyAll ws d)=true →
      Move S d free ⟨op,.exec w k,L,ws,log⟩ ⟨op,k,S.keys w++L,ws++[w],log⟩
  | gen {op k L ws log} (n : ℕ) : Move S d free ⟨op,.gen k,L,ws,log⟩ ⟨op,k n,L,ws,log⟩

/-- Runs from `d₀`, with the commits they made, the last one first. Any session may
begin any operation, move, commit or be lost at any time; `ok` restricts the commits. -/
inductive Run (S : Store I State) (prog : Op → Txn I Unit) (ok : Op → Ctx I State → Prop)
    (d₀ : State) : List (Op × Ctx I State) → Config I State Op → Prop
  | start : Run S prog ok d₀ [] (.idle d₀)
  | begin {tr c} (i : ℕ) (op : Op) : Run S prog ok d₀ tr c → c.session i=none →
      Run S prog ok d₀ tr (c.put i (some ⟨op,prog op,[],[],[]⟩))
  | move {tr c s s'} (i : ℕ) : Run S prog ok d₀ tr c → c.session i=some s →
      Move S c.committed (c.Free i) s s' → Run S prog ok d₀ tr (c.put i (some s'))
  | flush {tr c p} {s : Session I Op} (i : ℕ) : Run S prog ok d₀ tr c →
      c.session i=some s → s.rest=.commit p → ok s.op (s.ctx S c.committed) →
      Run S prog ok d₀ ((s.op,s.ctx S c.committed)::tr)
        ({c with committed := S.applyAll s.writes c.committed}.put i
          (some ⟨s.op,p,[],[],s.log⟩))
  | finish {tr c} {s : Session I Op} (i : ℕ) : Run S prog ok d₀ tr c →
      c.session i=some s → s.rest=.done () → ok s.op (s.ctx S c.committed) →
      Run S prog ok d₀ ((s.op,s.ctx S c.committed)::tr)
        ({c with committed := S.applyAll s.writes c.committed}.put i none)
  | abort {tr c} (i : ℕ) : Run S prog ok d₀ tr c → Run S prog ok d₀ tr (c.put i none)

/-- Every commit of the program satisfies `Post`, with the committed state it happens in
as `base` and the state it leaves as `view`. -/
def Spec (S : Store I State) (Post : Ctx I State → Prop) (p : Txn I Unit) : Prop :=
  ∀ d, wp S Post p (.start d) (fun _ c => Post c)

section Soundness
variable {S : Store I State} {prog : Op → Txn I Unit} {ok : Op → Ctx I State → Prop}
  {Post : Op → Ctx I State → Prop} {d₀ : State}

/-- What the sessions keep: nobody shares a lock, writes are under locks, and each
session will satisfy its operation's postcondition wherever it commits from here. -/
structure Sound (S : Store I State) (Post : Op → Ctx I State → Prop)
    (c : Config I State Op) : Prop where
  apart : ∀ {i j s t}, c.session i=some s → c.session j=some t → i≠j →
    ∀ k∈s.locks, k∉t.locks
  owned : ∀ {i s}, c.session i=some s → ∀ w∈s.writes, ∀ k∈S.keys w, k∈s.locks
  due : ∀ {i s}, c.session i=some s → ∀ d, S.Agree s.locks c.committed d →
    wp S (Post s.op) s.rest (s.ctx S d) (fun _ => Post s.op)

theorem Config.put_same (c : Config I State Op) (i : ℕ) (s) : (c.put i s).session i=s := by
  simp [Config.put]

theorem Config.put_ne (c : Config I State Op) {i j : ℕ} (s) (h : j≠i) :
    (c.put i s).session j=c.session j := by
  simp [Config.put,h]

theorem sound_put {c : Config I State Op} {i : ℕ} {s : Option (Session I Op)}
    (h : Sound S Post c)
    (hapart : ∀ t, s=some t → ∀ k∈t.locks, c.Free i k)
    (howned : ∀ t, s=some t → ∀ w∈t.writes, ∀ k∈S.keys w, k∈t.locks)
    (hdue : ∀ t, s=some t → ∀ d, S.Agree t.locks c.committed d →
      wp S (Post t.op) t.rest (t.ctx S d) (fun _ => Post t.op)) :
    Sound S Post (c.put i s) := by
  constructor
  · intro a b x y ha hb hab k hk hk'
    by_cases hai : a=i
    · subst hai
      rw [Config.put_same] at ha
      rw [Config.put_ne _ _ (Ne.symm hab)] at hb
      exact hapart x ha k hk b y (Ne.symm hab) hb hk'
    · rw [Config.put_ne _ _ hai] at ha
      by_cases hbi : b=i
      · subst hbi
        rw [Config.put_same] at hb
        exact hapart y hb k hk' a x hai ha hk
      · rw [Config.put_ne _ _ hbi] at hb
        exact h.apart ha hb hab k hk hk'
  · intro a x ha
    by_cases hai : a=i
    · subst hai
      rw [Config.put_same] at ha
      exact howned x ha
    · rw [Config.put_ne _ _ hai] at ha
      exact h.owned ha
  · intro a x ha
    by_cases hai : a=i
    · subst hai
      rw [Config.put_same] at ha
      exact hdue x ha
    · rw [Config.put_ne _ _ hai] at ha
      exact h.due ha

theorem Sound.free {c : Config I State Op} {i : ℕ} {s : Session I Op} (h : Sound S Post c)
    (hs : c.session i=some s) : ∀ k∈s.locks, c.Free i k := by
  intro k hk j t hj ht
  exact h.apart hs ht (Ne.symm hj) k hk

theorem Sound.move {c : Config I State Op} {i : ℕ} {s s' : Session I Op}
    (h : Sound S Post c) (hs : c.session i=some s)
    (hm : Move S c.committed (c.Free i) s s') : Sound S Post (c.put i (some s')) := by
  have hfree := h.free hs
  have howned := h.owned hs
  have hdue := h.due hs
  cases hm with
  | ask =>
    refine sound_put h ?_ ?_ ?_
    · rintro t ⟨⟩; exact hfree
    · rintro t ⟨⟩; exact howned
    · rintro t ⟨⟩ d hd
      exact hdue d hd _ (hd.applyAll howned)
  | lock hk =>
    refine sound_put h ?_ ?_ ?_
    · rintro t ⟨⟩ k hkt
      rcases List.mem_cons.mp hkt with rfl|hkt
      · exact hk
      · exact hfree k hkt
    · rintro t ⟨⟩ w hw k hkw
      exact List.mem_cons_of_mem _ (howned w hw k hkw)
    · rintro t ⟨⟩ d hd
      exact hdue d (hd.subset fun k hk => List.mem_cons_of_mem _ hk)
  | @exec op w k L ws log hk =>
    refine sound_put h ?_ ?_ ?_
    · rintro t ⟨⟩ k hkt
      rcases List.mem_append.mp hkt with hkw|hkt
      · exact hk k hkw
      · exact hfree k hkt
    · rintro t ⟨⟩ w' hw' k hkw
      rcases List.mem_append.mp hw' with hw'|hw'
      · exact List.mem_append_right _ (howned w' hw' k hkw)
      · rw [List.mem_singleton] at hw'
        subst hw'
        exact List.mem_append_left _ hkw
    · rintro t ⟨⟩ d hd
      have hwp := hdue d (hd.subset fun k hk => List.mem_append_right _ hk)
      simpa [Session.ctx,Ctx.wrote,Store.applyAll,wp] using hwp
  | gen n =>
    refine sound_put h ?_ ?_ ?_
    · rintro t ⟨⟩; exact hfree
    · rintro t ⟨⟩; exact howned
    · rintro t ⟨⟩ d hd
      exact hdue d hd n

theorem Sound.publish {c : Config I State Op} {i : ℕ} {s : Session I Op}
    (h : Sound S Post c) (hs : c.session i=some s) {s' : Option (Session I Op)}
    (hlocks : ∀ t, s'=some t → t.locks=[] ∧ t.writes=[])
    (hdue : ∀ t, s'=some t → ∀ d, S.Later (S.applyAll s.writes c.committed) d →
      wp S (Post t.op) t.rest ⟨d,d,[],t.log⟩ (fun _ => Post t.op)) :
    Sound S Post ({c with committed := S.applyAll s.writes c.committed}.put i s') := by
  have hout : ∀ {j t}, c.session j=some t → j≠i → ∀ d,
      S.Agree t.locks (S.applyAll s.writes c.committed) d → S.Agree t.locks c.committed d := by
    intro j t ht hj d hd
    refine Store.Agree.trans ⟨fun k hk => ?_,S.later_applyAll _ _⟩ hd
    exact S.frame_applyAll _ fun w hw hkw =>
      h.apart hs ht (Ne.symm hj) k (h.owned hs w hw k hkw) hk
  have hcommitted : Sound S Post ({c with committed := S.applyAll s.writes c.committed}.put i none) := by
    constructor
    · intro a b x y ha hb hab
      by_cases hai : a=i
      · subst hai; simp [Config.put_same] at ha
      · by_cases hbi : b=i
        · subst hbi; simp [Config.put_same] at hb
        · rw [Config.put_ne _ _ hai] at ha
          rw [Config.put_ne _ _ hbi] at hb
          exact h.apart ha hb hab
    · intro a x ha
      by_cases hai : a=i
      · subst hai; simp [Config.put_same] at ha
      · rw [Config.put_ne _ _ hai] at ha
        exact h.owned ha
    · intro a x ha d hd
      by_cases hai : a=i
      · subst hai; simp [Config.put_same] at ha
      · rw [Config.put_ne _ _ hai] at ha
        exact h.due ha d (hout ha hai d hd)
  have hput : ∀ t, ({c with committed := S.applyAll s.writes c.committed}.put i t)=
      ({c with committed := S.applyAll s.writes c.committed}.put i none).put i t := by
    intro t
    simp [Config.put]
  rw [hput]
  refine sound_put hcommitted ?_ ?_ ?_
  · intro t ht k hk
    rw [(hlocks t ht).1] at hk
    cases hk
  · intro t ht w hw
    rw [(hlocks t ht).2] at hw
    cases hw
  · intro t ht d hd
    have hd' := hdue t ht d hd.2
    obtain ⟨hl,hw⟩ := hlocks t ht
    simpa [Session.ctx,hl,hw,Store.applyAll] using hd'

theorem Run.sound (hspec : ∀ op, Spec S (Post op) (prog op)) {tr c}
    (h : Run S prog ok d₀ tr c) : Sound S Post c := by
  induction h with
  | start => constructor <;> intros <;> simp_all [Config.idle]
  | begin i op h hi ih =>
    refine sound_put ih ?_ ?_ ?_
    · rintro t ⟨⟩ k hk; cases hk
    · rintro t ⟨⟩ w hw; cases hw
    · rintro t ⟨⟩ d _
      exact hspec op d
  | move i h hs hm ih => exact ih.move hs hm
  | @flush tr c p s i h hs hrest hok ih =>
    refine ih.publish hs ?_ ?_
    · rintro t ⟨⟩; exact ⟨rfl,rfl⟩
    · rintro t ⟨⟩ d hd
      have hdue := ih.due hs c.committed (Store.agree_refl _ _)
      rw [hrest] at hdue
      exact hdue.2 d hd
  | finish i h hs hrest hok ih =>
    refine ih.publish hs ?_ ?_
    · intro t ht; cases ht
    · intro t ht; cases ht
  | abort i h ih =>
    refine sound_put ih ?_ ?_ ?_ <;> intro t ht <;> cases ht

theorem Run.commits (hspec : ∀ op, Spec S (Post op) (prog op)) {tr c}
    (h : Run S prog ok d₀ tr c) : ∀ e∈tr, Post e.1 e.2 ∧ ok e.1 e.2 := by
  induction h with
  | start => simp
  | begin i op h hi ih => exact ih
  | move i h hs hm ih => exact ih
  | @flush tr c p s i h hs hrest hok ih =>
    intro e he
    rcases List.mem_cons.mp he with rfl|he
    · have hdue := (h.sound hspec).due hs c.committed (Store.agree_refl _ _)
      rw [hrest] at hdue
      exact ⟨hdue.1,hok⟩
    · exact ih e he
  | @finish tr c s i h hs hrest hok ih =>
    intro e he
    rcases List.mem_cons.mp he with rfl|he
    · have hdue := (h.sound hspec).due hs c.committed (Store.agree_refl _ _)
      rw [hrest] at hdue
      exact ⟨hdue,hok⟩
    · exact ih e he
  | abort i h ih => exact ih

/-- What the commits of a run are permitted by may be said of them afterwards. -/
theorem Run.imp {ok' : Op → Ctx I State → Prop} {tr c} (h : Run S prog ok d₀ tr c)
    (hok : ∀ e∈tr, ok e.1 e.2 → ok' e.1 e.2) : Run S prog ok' d₀ tr c := by
  induction h with
  | start => exact .start
  | begin i op h hi ih => exact (ih hok).begin i op hi
  | move i h hs hm ih => exact (ih hok).move i hs hm
  | flush i h hs hrest hok' ih =>
    exact (ih fun e he => hok e (by simp [he])).flush i hs hrest
      (hok _ List.mem_cons_self hok')
  | finish i h hs hrest hok' ih =>
    exact (ih fun e he => hok e (by simp [he])).finish i hs hrest
      (hok _ List.mem_cons_self hok')
  | abort i h ih => exact (ih hok).abort i

/-- Nothing that a commit left is taken back by the commits that follow. -/
theorem Run.later {tr c} (h : Run S prog ok d₀ tr c) :
    ∀ e∈tr, S.Later e.2.base e.2.view ∧ S.Later e.2.view c.committed := by
  induction h with
  | start => simp
  | begin i op h hi ih => exact ih
  | move i h hs hm ih => exact ih
  | @flush tr c p s i h hs hrest hok ih =>
    have hlater := S.later_applyAll s.writes c.committed
    intro e he
    rcases List.mem_cons.mp he with rfl|he
    · exact ⟨hlater,S.later_refl _⟩
    · exact ⟨(ih e he).1,S.later_trans (ih e he).2 hlater⟩
  | @finish tr c s i h hs hrest hok ih =>
    have hlater := S.later_applyAll s.writes c.committed
    intro e he
    rcases List.mem_cons.mp he with rfl|he
    · exact ⟨hlater,S.later_refl _⟩
    · exact ⟨(ih e he).1,S.later_trans (ih e he).2 hlater⟩
  | abort i h ih => exact ih

/-- Each commit builds on all that the earlier ones left. -/
theorem Run.ordered {tr c} (h : Run S prog ok d₀ tr c) :
    tr.Pairwise fun e e' => S.Later e'.2.view e.2.base := by
  induction h with
  | start => exact .nil
  | begin i op h hi ih => exact ih
  | move i h hs hm ih => exact ih
  | flush i h hs hrest hok ih => exact List.pairwise_cons.mpr ⟨fun e he => (h.later e he).2,ih⟩
  | finish i h hs hrest hok ih => exact List.pairwise_cons.mpr ⟨fun e he => (h.later e he).2,ih⟩
  | abort i h ih => exact ih

/-- An invariant that every permitted commit keeps holds of what is committed at any
time, and held where each commit was made. -/
theorem Run.invariant (hspec : ∀ op, Spec S (Post op) (prog op)) {Inv : State → Prop}
    (hstart : Inv d₀)
    (hstep : ∀ op c, Post op c → ok op c → Inv c.base → Inv c.view) {tr c}
    (h : Run S prog ok d₀ tr c) : Inv c.committed ∧ ∀ e∈tr, Inv e.2.base := by
  induction h with
  | start => exact ⟨hstart,by simp⟩
  | begin i op h hi ih => exact ih
  | move i h hs hm ih => exact ih
  | @flush tr c p s i h hs hrest hok ih =>
    have hpost := ((h.flush i hs hrest hok).commits hspec) _ List.mem_cons_self
    refine ⟨hstep _ _ hpost.1 hok ih.1,?_⟩
    intro e he
    rcases List.mem_cons.mp he with rfl|he
    · exact ih.1
    · exact ih.2 e he
  | @finish tr c s i h hs hrest hok ih =>
    have hpost := ((h.finish i hs hrest hok).commits hspec) _ List.mem_cons_self
    refine ⟨hstep _ _ hpost.1 hok ih.1,?_⟩
    intro e he
    rcases List.mem_cons.mp he with rfl|he
    · exact ih.1
    · exact ih.2 e he
  | abort i h ih => exact ih

/-- What every permitted commit keeps stays from the first commit that leaves it so. -/
theorem Run.carried (hspec : ∀ op, Spec S (Post op) (prog op)) {P : State → Prop}
    (hstep : ∀ op c, Post op c → ok op c → P c.base → P c.view) {tr c}
    (h : Run S prog ok d₀ tr c) : ∀ e∈tr, P e.2.view → P c.committed := by
  induction h with
  | start => simp
  | begin i op h hi ih => exact ih
  | move i h hs hm ih => exact ih
  | flush i h hs hrest hok ih =>
    have hpost := ((h.flush i hs hrest hok).commits hspec) _ List.mem_cons_self
    intro e he hP
    rcases List.mem_cons.mp he with rfl|he
    · exact hP
    · exact hstep _ _ hpost.1 hok (ih e he hP)
  | finish i h hs hrest hok ih =>
    have hpost := ((h.finish i hs hrest hok).commits hspec) _ List.mem_cons_self
    intro e he hP
    rcases List.mem_cons.mp he with rfl|he
    · exact hP
    · exact hstep _ _ hpost.1 hok (ih e he hP)
  | abort i h ih => exact ih

/-- What a commit leaves, and every permitted commit keeps, later commits find. -/
theorem Run.between (hspec : ∀ op, Spec S (Post op) (prog op)) {P : Op × Ctx I State → State → Prop}
    (hstep : ∀ x op c, Post op c → ok op c → P x c.base → P x c.view) {tr c}
    (h : Run S prog ok d₀ tr c) : tr.Pairwise fun e e' => P e' e'.2.view → P e' e.2.base := by
  induction h with
  | start => exact .nil
  | begin i op h hi ih => exact ih
  | move i h hs hm ih => exact ih
  | flush i h hs hrest hok ih =>
    exact List.pairwise_cons.mpr ⟨fun e he => h.carried hspec (P := P e) (hstep e) e he,ih⟩
  | finish i h hs hrest hok ih =>
    exact List.pairwise_cons.mpr ⟨fun e he => h.carried hspec (P := P e) (hstep e) e he,ih⟩
  | abort i h ih => exact ih

theorem Run.only (ok' : Op → I.Write → Prop) (sel : Op → Prop)
    (hprog : ∀ op, sel op → Only (ok' op) (prog op)) {tr c} (h : Run S prog ok d₀ tr c) :
    ∀ i s, c.session i=some s → sel s.op → Only (ok' s.op) s.rest := by
  have hput : ∀ (c : Config I State Op) (i : ℕ) (t : Option (Session I Op)),
      (∀ j s, c.session j=some s → sel s.op → Only (ok' s.op) s.rest) →
      (∀ s, t=some s → sel s.op → Only (ok' s.op) s.rest) →
      ∀ j s, (c.put i t).session j=some s → sel s.op → Only (ok' s.op) s.rest := by
    intro c i t h ht j s hs
    by_cases hj : j=i
    · subst hj
      rw [Config.put_same] at hs
      exact ht s hs
    · rw [Config.put_ne _ _ hj] at hs
      exact h j s hs
  induction h with
  | start => intro i s hs; cases hs
  | begin i op h hi ih =>
    refine hput _ _ _ ih ?_
    rintro s ⟨⟩ hop
    exact hprog _ hop
  | move i h hs hm ih =>
    have hrest := ih i _ hs
    refine hput _ _ _ ih ?_
    rintro s ⟨⟩ hop
    cases hm with
    | ask => exact hrest hop _
    | lock hk => exact hrest hop
    | exec hk hacc => exact (hrest hop).2
    | gen n => exact hrest hop n
  | @flush tr c p s i h hs hrest hok ih =>
    refine hput _ _ _ ih ?_
    rintro t ⟨⟩ hop
    have hs := ih i s hs hop
    rw [hrest] at hs
    exact hs.elim
  | @finish tr c s i h hs hrest hok ih =>
    refine hput _ _ _ ih ?_
    intro t ht
    cases ht
  | abort i h ih =>
    refine hput _ _ _ ih ?_
    intro t ht
    cases ht

/-- Where every statement of the calls that commit keeps `K`, each of their answers was
read in a state with `K`. -/
theorem Run.reads (ok' : Op → I.Write → Prop) (sel : Op → Prop) (K : State → Prop)
    (hprog : ∀ op, sel op → Only (ok' op) (prog op)) (hok : ∀ op c, ok op c → sel op)
    (hK : ∀ op w d, ok' op w → K d → K (S.apply w d)) (hstart : K d₀) {tr c}
    (h : Run S prog ok d₀ tr c) :
    K c.committed ∧ (∀ e∈tr, K e.2.base ∧ ∀ x∈e.2.log, ∃ d, K d ∧ x.result=S.answer x.query d) ∧
      ∀ i s, c.session i=some s → sel s.op → (∀ w∈s.writes, ok' s.op w) ∧
        ∀ x∈s.log, ∃ d, K d ∧ x.result=S.answer x.query d := by
  have hall : ∀ (op : Op) (ws : List I.Write) (d : State), (∀ w∈ws, ok' op w) → K d →
      K (S.applyAll ws d) := by
    intro op ws
    induction ws with
    | nil => exact fun d _ hd => hd
    | cons w ws ih =>
      intro d hws hd
      exact ih _ (fun w' hw' => hws w' (by simp [hw'])) (hK op w d (hws w (by simp)) hd)
  have hput : ∀ (c : Config I State Op) (i : ℕ) (t : Option (Session I Op)),
      (∀ j s, c.session j=some s → sel s.op → (∀ w∈s.writes, ok' s.op w) ∧
        ∀ x∈s.log, ∃ d, K d ∧ x.result=S.answer x.query d) →
      (∀ s, t=some s → sel s.op → (∀ w∈s.writes, ok' s.op w) ∧
        ∀ x∈s.log, ∃ d, K d ∧ x.result=S.answer x.query d) →
      ∀ j s, (c.put i t).session j=some s → sel s.op → (∀ w∈s.writes, ok' s.op w) ∧
        ∀ x∈s.log, ∃ d, K d ∧ x.result=S.answer x.query d := by
    intro c i t h ht j s hs
    by_cases hj : j=i
    · subst hj
      rw [Config.put_same] at hs
      exact ht s hs
    · rw [Config.put_ne _ _ hj] at hs
      exact h j s hs
  induction h with
  | start => exact ⟨hstart,by simp,fun i s hs => by cases hs⟩
  | begin i op h hi ih =>
    refine ⟨ih.1,ih.2.1,hput _ _ _ ih.2.2 ?_⟩
    rintro s ⟨⟩ _
    exact ⟨by simp,by simp⟩
  | @move tr c s s' i h hs hm ih =>
    have hrest := fun hop => h.only ok' sel hprog i s hs hop
    have hold := ih.2.2 i s hs
    refine ⟨ih.1,ih.2.1,hput _ _ _ ih.2.2 ?_⟩
    rintro t ⟨⟩ hop
    cases hm with
    | ask =>
      refine ⟨(hold hop).1,fun x hx => ?_⟩
      rcases List.mem_cons.mp hx with rfl|hx
      · exact ⟨_,hall _ _ _ (hold hop).1 ih.1,rfl⟩
      · exact (hold hop).2 x hx
    | lock hk => exact hold hop
    | exec hk hacc =>
      refine ⟨fun w hw => ?_,(hold hop).2⟩
      rcases List.mem_append.mp hw with hw|hw
      · exact (hold hop).1 w hw
      · rw [List.mem_singleton.mp hw]
        exact (hrest hop).1
    | gen n => exact hold hop
  | @flush tr c p s i h hs hrest hok' ih =>
    have hop := hok _ _ hok'
    have hnone := h.only ok' sel hprog i s hs hop
    rw [hrest] at hnone
    exact hnone.elim
  | @finish tr c s i h hs hrest hok' ih =>
    have hold := ih.2.2 i s hs (hok _ _ hok')
    refine ⟨hall _ _ _ hold.1 ih.1,?_,hput _ _ _ ih.2.2 fun t ht => by cases ht⟩
    intro e he
    rcases List.mem_cons.mp he with rfl|he
    · exact ⟨ih.1,hold.2⟩
    · exact ih.2.1 e he
  | abort i h ih => exact ⟨ih.1,ih.2.1,hput _ _ _ ih.2.2 fun t ht => by cases ht⟩

end Soundness

end Transactions
