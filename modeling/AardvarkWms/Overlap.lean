import AardvarkWms.Serial

/-! Two transactions that overlap: one stops after some statements, another runs to its
commit, and the first goes on. Every such history is a run. -/
namespace Transactions

open Txn
variable {I : Interface} {State Op : Type}

/-- The next `k` statements of a session that waits for nobody, where `d` is committed. -/
def advance (S : Store I State) (ids : ℕ → ℕ) (d : State) :
    ℕ → ℕ → Session I Op → Option (ℕ × Session I Op)
  | 0, n, s => some (n,s)
  | k+1, n, ⟨op,.ask q next,L,ws,log⟩ =>
    let r := S.answer q (S.applyAll ws d)
    advance S ids d k n ⟨op,next r,L,ws,⟨q,r⟩::log⟩
  | k+1, n, ⟨op,.lock key next,L,ws,log⟩ => advance S ids d k n ⟨op,next,key::L,ws,log⟩
  | k+1, n, ⟨op,.exec w next,L,ws,log⟩ =>
    if S.accepts w (S.applyAll ws d) then
      advance S ids d k n ⟨op,next,S.keys w++L,ws++[w],log⟩ else none
  | k+1, n, ⟨op,.gen next,L,ws,log⟩ => advance S ids d k (n+1) ⟨op,next (ids n),L,ws,log⟩
  | _+1, _, _ => none

/-- A session to its end, if it never waits for one of the locks in `taken`. -/
def complete [DecidableEq I.Key] (S : Store I State) (ids : ℕ → ℕ) (d : State)
    (taken : List I.Key) (op : Op) :
    Txn I Unit → ℕ → List I.Key → List I.Write → List (Seen I) → Option (ℕ × Session I Op)
  | .done _, n, L, ws, log => some (n,⟨op,.done (),L,ws,log⟩)
  | .refuse _, _, _, _, _ => none
  | .ask q next, n, L, ws, log =>
    let r := S.answer q (S.applyAll ws d)
    complete S ids d taken op (next r) n L ws (⟨q,r⟩::log)
  | .lock key next, n, L, ws, log =>
    if key∈taken then none else complete S ids d taken op next n (key::L) ws log
  | .exec w next, n, L, ws, log =>
    if (∀ key∈S.keys w, key∉taken) ∧ S.accepts w (S.applyAll ws d)=true then
      complete S ids d taken op next n (S.keys w++L) (ws++[w]) log else none
  | .gen next, n, L, ws, log => complete S ids d taken op (next (ids n)) (n+1) L ws log
  | .commit _, _, _, _, _ => none

/-- The first call makes `k` statements, the second one commits, then the first one does. -/
def overlapping [DecidableEq I.Key] (S : Store I State) (prog : Op → Txn I Unit) (ids : ℕ → ℕ)
    (first second : Op) (k n : ℕ) (d : State) : Option (List (Op × Ctx I State) × State) :=
  (advance S ids d k n ⟨first,prog first,[],[],[]⟩).bind fun x =>
  (complete S ids d x.2.locks second (prog second) x.1 [] [] []).bind fun y =>
  let d' := S.applyAll y.2.writes d
  (complete S ids d' [] first x.2.rest y.1 x.2.locks x.2.writes x.2.log).map fun z =>
  ([(first,z.2.ctx S d'),(second,y.2.ctx S d)],S.applyAll z.2.writes d')

section
variable {S : Store I State} {prog : Op → Txn I Unit} {ok : Op → Ctx I State → Prop}
  {d₀ : State} {ids : ℕ → ℕ} {tr : List (Op × Ctx I State)}

theorem Config.put_put (c : Config I State Op) (i : ℕ) (s t : Option (Session I Op)) :
    (c.put i s).put i t=c.put i t := by
  simp [Config.put]

theorem Config.put_self (c : Config I State Op) (i : ℕ) {s : Option (Session I Op)}
    (h : c.session i=s) : c.put i s=c := by
  subst h
  simp [Config.put]

theorem Config.free_put {c : Config I State Op} {i : ℕ} {k : I.Key} (h : c.Free i k)
    (s : Option (Session I Op)) : (c.put i s).Free i k := by
  intro j t hj ht
  rw [Config.put_ne _ _ hj] at ht
  exact h j t hj ht

theorem Run.advance {i : ℕ} : ∀ {k n : ℕ} {s : Session I Op} {c : Config I State Op}
    {n' : ℕ} {s' : Session I Op}, Run S prog ok d₀ tr c → c.session i=some s →
    (∀ key, c.Free i key) → Transactions.advance S ids c.committed k n s=some (n',s') →
    Run S prog ok d₀ tr (c.put i (some s')) ∧ s'.op=s.op := by
  intro k
  induction k with
  | zero =>
    intro n s c n' s' h hs _ he
    cases he
    rw [Config.put_self c i hs]
    exact ⟨h,rfl⟩
  | succ k ih =>
    intro n s c n' s' h hs hfree he
    have hstep : ∀ {m : ℕ} {t : Session I Op}, Move S c.committed (c.Free i) s t →
        t.op=s.op → Transactions.advance S ids c.committed k m t=some (n',s') →
        Run S prog ok d₀ tr (c.put i (some s')) ∧ s'.op=s.op := by
      intro m t hm hop ht
      have hrun := h.move i hs hm
      have hrest := ih hrun (Config.put_same _ _ _) (fun key => Config.free_put (hfree key) _) ht
      rw [Config.put_put] at hrest
      exact ⟨hrest.1,hrest.2.trans hop⟩
    obtain ⟨op,p,L,ws,log⟩ := s
    cases p with
    | done a => cases he
    | refuse e => cases he
    | ask q next => exact hstep .ask rfl he
    | lock key next => exact hstep (.lock (hfree key)) rfl he
    | exec w next =>
      simp only [Transactions.advance] at he
      split at he
      · exact hstep (.exec (fun key _ => hfree key) ‹_›) rfl he
      · cases he
    | gen next => exact hstep (.gen _) rfl he
    | commit next => cases he

theorem Run.complete [DecidableEq I.Key] {i : ℕ} {taken : List I.Key} {op : Op} {p : Txn I Unit} :
    ∀ {n : ℕ} {L : List I.Key} {ws : List I.Write} {log : List (Seen I)}
      {c : Config I State Op} {n' : ℕ} {s : Session I Op}, Run S prog ok d₀ tr c →
    c.session i=some ⟨op,p,L,ws,log⟩ → (∀ key, key∉taken → c.Free i key) →
    Transactions.complete S ids c.committed taken op p n L ws log=some (n',s) →
    Run S prog ok d₀ tr (c.put i (some s)) ∧ s.op=op ∧ s.rest=.done () := by
  induction p with
  | done a =>
    intro n L ws log c n' s h hs _ he
    cases he
    rw [Config.put_self c i hs]
    exact ⟨h,rfl,rfl⟩
  | refuse e => intro n L ws log c n' s _ _ _ he; cases he
  | ask q next ih =>
    intro n L ws log c n' s h hs hfree he
    have hrest := ih _ (h.move i hs .ask) (Config.put_same _ _ _)
      (fun key hk => Config.free_put (hfree key hk) _) he
    rwa [Config.put_put] at hrest
  | lock key next ih =>
    intro n L ws log c n' s h hs hfree he
    simp only [Transactions.complete] at he
    split at he
    · cases he
    · have hrest := ih (h.move i hs (.lock (hfree key ‹_›))) (Config.put_same _ _ _)
        (fun key hk => Config.free_put (hfree key hk) _) he
      rwa [Config.put_put] at hrest
  | exec w next ih =>
    intro n L ws log c n' s h hs hfree he
    simp only [Transactions.complete] at he
    split at he
    · rename_i hw
      have hrest := ih (h.move i hs (.exec (fun key hk => hfree key (hw.1 key hk)) hw.2))
        (Config.put_same _ _ _) (fun key hk => Config.free_put (hfree key hk) _) he
      rwa [Config.put_put] at hrest
    · cases he
  | gen next ih =>
    intro n L ws log c n' s h hs hfree he
    have hrest := ih _ (h.move i hs (.gen _)) (Config.put_same _ _ _)
      (fun key hk => Config.free_put (hfree key hk) _) he
    rwa [Config.put_put] at hrest
  | commit next => intro n L ws log c n' s _ _ _ he; cases he

theorem Config.put_comm (c : Config I State Op) {i j : ℕ} (s t : Option (Session I Op))
    (h : i≠j) : (c.put i s).put j t=(c.put j t).put i s := by
  simp [Config.put,Function.update_comm h]

theorem ops_overlapping [DecidableEq I.Key] {first second : Op} {k n : ℕ} {d : State}
    {tr : List (Op × Ctx I State)} {d' : State}
    (he : Transactions.overlapping S prog ids first second k n d=some (tr,d')) :
    ∀ e∈tr, e.1=first ∨ e.1=second := by
  simp only [Transactions.overlapping,Option.bind_eq_some_iff,Option.map_eq_some_iff] at he
  obtain ⟨_,_,_,_,_,_,he⟩ := he
  obtain ⟨rfl,_⟩ := Prod.mk.injEq _ _ _ _ ▸ he
  simp

theorem Run.overlapping [DecidableEq I.Key] {first second : Op} {k n : ℕ} {d : State}
    {tr : List (Op × Ctx I State)} {d' : State}
    (he : Transactions.overlapping S prog ids first second k n d=some (tr,d'))
    (hok : ∀ e∈tr, ok e.1 e.2) : Run S prog ok d tr (.idle d') := by
  simp only [Transactions.overlapping,Option.bind_eq_some_iff,Option.map_eq_some_iff] at he
  obtain ⟨⟨n₁,s₁⟩,h₁,⟨n₂,s₂⟩,h₂,⟨n₃,s₃⟩,h₃,he⟩ := he
  simp only [Prod.mk.injEq] at he
  obtain ⟨rfl,rfl⟩ := he
  have hidle : ∀ (e : State) (s : Option (Session I Op)) (key : I.Key),
      ((Config.idle e).put 0 s).Free 0 key := fun e s key => Config.free_idle e s key
  have hbegin : Run S prog ok d [] ((Config.idle d).put 0 (some ⟨first,prog first,[],[],[]⟩)) :=
    Run.start.begin 0 first rfl
  obtain ⟨hfirst,hop₁⟩ := hbegin.advance (Config.put_same _ _ _) (hidle d _) h₁
  rw [Config.put_put] at hfirst
  -- The second session runs on what the first has not locked.
  have hnone : ((Config.idle d).put 0 (some s₁)).session 1=none := by
    rw [Config.put_ne _ _ (by decide)]
    rfl
  have hsecond := hfirst.begin 1 second hnone
  have hfree : ∀ key, key∉s₁.locks →
      (((Config.idle d).put 0 (some s₁)).put 1
        (some ⟨second,prog second,[],[],[]⟩)).Free 1 key := by
    intro key hkey j t hj ht
    rw [Config.put_ne _ _ hj] at ht
    by_cases hj0 : j=0
    · subst hj0
      rw [Config.put_same] at ht
      cases ht
      exact hkey
    · rw [Config.put_ne _ _ hj0] at ht
      cases ht
  obtain ⟨hsecond,hop₂,hdone₂⟩ := hsecond.complete (Config.put_same _ _ _) hfree h₂
  rw [Config.put_put] at hsecond
  have hok₂ := hok (second,s₂.ctx S d) (by simp)
  have hcommit := hsecond.finish 1 (Config.put_same _ _ _) hdone₂ (hop₂.symm ▸ hok₂)
  have hconfig : (({((Config.idle d).put 0 (some s₁)).put 1 (some s₂) with
      committed := S.applyAll s₂.writes d} : Config I State Op)).put 1 none=
      (Config.idle (S.applyAll s₂.writes d)).put 0 (some s₁) := by
    have hnone' : (Config.idle (S.applyAll s₂.writes d) : Config I State Op).put 1 none=
        .idle (S.applyAll s₂.writes d) := Config.put_self _ 1 rfl
    conv_rhs => rw [← hnone',Config.put_comm _ _ _ (by decide)]
    simp [Config.put,Config.idle]
  have hcommit : Run S prog ok d [(second,s₂.ctx S d)]
      ((Config.idle (S.applyAll s₂.writes d)).put 0 (some s₁)) := by
    rw [← hconfig]
    exact hop₂ ▸ hcommit
  -- And the first goes on where the second has committed.
  obtain ⟨op,p,L,ws,log⟩ := s₁
  obtain rfl : op=first := hop₁
  obtain ⟨hlast,hop₃,hdone₃⟩ := hcommit.complete (Config.put_same _ _ _)
    (fun key _ => hidle _ _ key) h₃
  rw [Config.put_put] at hlast
  have hok₃ := hok (op,s₃.ctx S (S.applyAll s₂.writes d)) (by simp)
  have hend := hlast.finish 0 (Config.put_same _ _ _) hdone₃ (hop₃.symm ▸ hok₃)
  have hconfig' : (({(Config.idle (S.applyAll s₂.writes d)).put 0 (some s₃) with
      committed := S.applyAll s₃.writes (S.applyAll s₂.writes d)} : Config I State Op)).put 0 none=
      .idle (S.applyAll s₃.writes (S.applyAll s₂.writes d)) := by
    simp [Config.put,Config.idle]
  rw [← hconfig']
  exact hop₃ ▸ hend

end

end Transactions
