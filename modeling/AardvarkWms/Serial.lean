import AardvarkWms.Sessions

/-! One transaction after the other: what a call returns when it runs alone, and every
such history is a run. -/
namespace Transactions

open Txn

/-- Why a call that runs alone did not return. -/
inductive Fault (I : Interface)
  | refused (e : I.Err)
  | rejected (w : I.Write)

/-- A call that returned: its value, the ids drawn so far, the statements it committed on
its way (the last one first) and the transaction it ended with. -/
structure Ended (I : Interface) (State α : Type) where
  value : α
  next : ℕ
  mids : List (Ctx I State)
  ctx : Ctx I State

variable {I : Interface} {State Op α : Type}

/-- Run a program with nobody else on the store. The ids it generates are
`ids n, ids (n+1), …`; the store rejects a row that fails its checks. -/
def alone (S : Store I State) (ids : ℕ → ℕ) :
    Txn I α → ℕ → List (Ctx I State) → Ctx I State → Except (Fault I) (Ended I State α)
  | .done a, n, ms, c => .ok ⟨a,n,ms,c⟩
  | .refuse e, _, _, _ => .error (.refused e)
  | .ask q k, n, ms, c => alone S ids (k (S.answer q c.view)) n ms (c.saw q (S.answer q c.view))
  | .lock key k, n, ms, c => alone S ids k n ms (c.held [key])
  | .exec w k, n, ms, c =>
    if S.accepts w c.view then alone S ids k n ms (c.wrote S w) else .error (.rejected w)
  | .gen k, n, ms, c => alone S ids (k (ids n)) (n+1) ms c
  | .commit k, n, ms, c => alone S ids k n (c::ms) ⟨c.view,c.view,[],c.log⟩

/-- What a lone call leaves committed, whether it returns or not. -/
def leaves (S : Store I State) (ids : ℕ → ℕ) : Txn I α → ℕ → Ctx I State → State
  | .done _, _, c => c.view
  | .refuse _, _, c => c.base
  | .ask q k, n, c => leaves S ids (k (S.answer q c.view)) n (c.saw q (S.answer q c.view))
  | .lock key k, n, c => leaves S ids k n (c.held [key])
  | .exec w k, n, c => if S.accepts w c.view then leaves S ids k n (c.wrote S w) else c.base
  | .gen k, n, c => leaves S ids (k (ids n)) (n+1) c
  | .commit k, n, c => leaves S ids k n ⟨c.view,c.view,[],c.log⟩

/-- The same store without its row checks. -/
def Store.unchecked (S : Store I State) : Store I State :=
  {S with accepts := fun _ _ => true}

section
variable {S : Store I State} {ids : ℕ → ℕ}

/-- A call that runs alone meets its precondition calculus, at every commit it makes. -/
theorem wp.alone {Mid : Ctx I State → Prop} {p : Txn I α} {Q : α → Ctx I State → Prop} :
    ∀ {n ms c e}, wp S Mid p c Q → alone S ids p n ms c=.ok e →
      (∀ m∈ms, Mid m) → Q e.value e.ctx ∧ ∀ m∈e.mids, Mid m := by
  induction p with
  | done a =>
    intro n ms c e h he hm
    cases he
    exact ⟨h,hm⟩
  | refuse e => intro n ms c e h he; cases he
  | ask q k ih =>
    intro n ms c e h he hm
    exact ih _ (h c.view (Store.agree_refl _ _)) he hm
  | lock key k ih => intro n ms c e h he hm; exact ih h he hm
  | exec w k ih =>
    intro n ms c e h he hm
    simp only [Transactions.alone] at he
    split at he
    · exact ih h he hm
    · cases he
  | gen k ih => intro n ms c e h he hm; exact ih _ (h _) he hm
  | commit k ih =>
    intro n ms c e h he hm
    refine ih (h.2 c.view (S.later_refl _)) he ?_
    intro m hmem
    rcases List.mem_cons.mp hmem with rfl|hmem
    · exact h.1
    · exact hm m hmem

theorem alone_keeps {ok : I.Write → Prop} {J : State → Prop}
    (hJ : ∀ w v, ok w → J v → J (S.apply w v)) {p : Txn I α} : ∀ {n ms} (c) {e}, Only ok p →
    J c.view → alone S ids p n ms c=.ok e → e.ctx.base=c.base ∧ J e.ctx.view ∧
      ∀ x∈e.ctx.log, x∈c.log ∨ ∃ v, J v ∧ x.result=S.answer x.query v := by
  induction p with
  | done a =>
    intro n ms c e _ hc h
    cases h
    exact ⟨rfl,hc,fun x hx => .inl hx⟩
  | refuse e => intro n ms c e' _ _ h; cases h
  | ask q k ih =>
    intro n ms c e hp hc h
    obtain ⟨hbase,hview,hlog⟩ := ih _ (c.saw q (S.answer q c.view)) (hp _) hc h
    refine ⟨hbase,hview,fun x hx => ?_⟩
    cases hlog x hx with
    | inl hmem =>
      rw [Ctx.saw_log,List.mem_cons] at hmem
      cases hmem with
      | inl hnew => exact .inr ⟨c.view,hc,by rw [hnew]⟩
      | inr hold => exact .inl hold
    | inr hseen => exact .inr hseen
  | lock key k ih => intro n ms c e hp hc h; exact ih (c.held [key]) hp hc h
  | exec w k ih =>
    intro n ms c e hp hc h
    simp only [Transactions.alone] at h
    split at h
    · exact ih (c.wrote S w) hp.2 (hJ w _ hp.1 hc) h
    · cases h
  | gen k ih => intro n ms c e hp hc h; exact ih _ c (hp _) hc h
  | commit k ih => intro n ms c e hp; exact hp.elim

/-- A call of one transaction that does not return leaves nothing behind. -/
theorem leaves_error {ok : I.Write → Prop} {p : Txn I α} : ∀ {n ms c f}, Only ok p →
    alone S ids p n ms c=.error f → leaves S ids p n c=c.base := by
  induction p with
  | done a => intro n ms c f _ h; cases h
  | refuse e => intros; rfl
  | ask q k ih => intro n ms c f hp h; exact ih _ (hp _) h
  | lock key k ih => intro n ms c f hp h; exact ih hp h
  | exec w k ih =>
    intro n ms c f hp h
    simp only [Transactions.alone] at h
    simp only [leaves]
    split at h
    · rename_i hacc
      rw [if_pos hacc]
      exact ih hp.2 h
    · rename_i hacc
      rw [if_neg hacc]
  | gen k ih => intro n ms c f hp h; exact ih _ (hp _) h
  | commit k ih => intro n ms c f hp; exact hp.elim

/-- Calls one after the other, with every commit they made, the last one first. -/
def serially (S : Store I State) (prog : Op → Txn I Unit) (ids : ℕ → ℕ) :
    List Op → ℕ → List (Op × Ctx I State) → State →
      Except (Fault I) (List (Op × Ctx I State) × State)
  | [], _, tr, d => .ok (tr,d)
  | op::ops, n, tr, d =>
    match alone S ids (prog op) n [] (.start d) with
    | .error f => .error f
    | .ok e => serially S prog ids ops e.next
        ((op,e.ctx)::(e.mids.map fun c => (op,c))++tr) e.ctx.view

end

section
variable {S : Store I State} {prog : Op → Txn I Unit} {ok : Op → Ctx I State → Prop}
  {d₀ : State} {ids : ℕ → ℕ}

theorem Config.put_idle (d : State) (s : Option (Session I Op)) (t : Option (Session I Op)) :
    ((Config.idle d).put 0 s).put 0 t=(Config.idle d).put 0 t := by
  simp [Config.put]

theorem Config.free_idle (d : State) (s : Option (Session I Op)) (k : I.Key) :
    ((Config.idle d).put 0 s).Free 0 k := by
  intro j t hj ht
  rw [Config.put_ne _ _ hj] at ht
  cases ht

theorem mids_alone (p : Txn I α) : ∀ {n ms c e}, alone S ids p n ms c=.ok e →
    ∀ m∈ms, m∈e.mids := by
  induction p with
  | done a => intro n ms c e he; cases he; exact fun m hm => hm
  | refuse e => intro n ms c e he; cases he
  | ask q k ih => intro n ms c e he; exact ih _ he
  | lock key k ih => intro n ms c e he; exact ih he
  | exec w k ih =>
    intro n ms c e he
    simp only [Transactions.alone] at he
    split at he
    · exact ih he
    · cases he
  | gen k ih => intro n ms c e he; exact ih _ he
  | commit k ih => intro n ms c e he m hm; exact ih he m (by simp [hm])

theorem trace_serially {ops : List Op} : ∀ {n tr d tr' d'},
    serially S prog ids ops n tr d=.ok (tr',d') → ∀ x∈tr, x∈tr' := by
  induction ops with
  | nil => intro n tr d tr' d' he; cases he; exact fun x hx => hx
  | cons op ops ih =>
    intro n tr d tr' d' he x hx
    simp only [Transactions.serially] at he
    split at he
    · cases he
    · exact ih he x (by simp [hx])

theorem ops_serially {ops : List Op} : ∀ {n tr d tr' d'},
    serially S prog ids ops n tr d=.ok (tr',d') → ∀ e∈tr', e∈tr ∨ e.1∈ops := by
  induction ops with
  | nil => intro n tr d tr' d' he; cases he; exact fun e h => .inl h
  | cons op ops ih =>
    intro n tr d tr' d' he e h
    simp only [Transactions.serially] at he
    split at he
    · cases he
    · rcases ih he e h with h|h
      · simp only [List.cons_append,List.mem_cons,List.mem_append,List.mem_map] at h
        rcases h with rfl|⟨m,_,rfl⟩|h
        · exact .inr List.mem_cons_self
        · exact .inr List.mem_cons_self
        · exact .inl h
      · exact .inr (List.mem_cons_of_mem _ h)

theorem Run.alone {op : Op} {p : Txn I Unit} : ∀ {n ms d L ws log tr e},
    alone S ids p n ms ⟨d,S.applyAll ws d,L,log⟩=.ok e →
    Run S prog ok d₀ tr ((Config.idle d).put 0 (some ⟨op,p,L,ws,log⟩)) →
    (∀ m∈e.mids, ok op m) → ok op e.ctx →
    ∃ ns, e.mids=ns++ms ∧
      Run S prog ok d₀ ((op,e.ctx)::(ns.map fun c => (op,c))++tr) (.idle e.ctx.view) := by
  induction p with
  | done a =>
    intro n ms d L ws log tr e he h hm hok
    cases he
    refine ⟨[],rfl,?_⟩
    have hrun := h.finish 0 (Config.put_same _ _ _) rfl hok
    have hidle : (({(Config.idle d).put 0 (some ⟨op,.done a,L,ws,log⟩) with
        committed := S.applyAll ws d} : Config I State Op)).put 0 none=
        .idle (S.applyAll ws d) := by
      simp [Config.put,Config.idle]
    exact hidle ▸ hrun
  | refuse e => intro n ms d L ws log tr e he; cases he
  | ask q k ih =>
    intro n ms d L ws log tr e he h hm hok
    have hrun := h.move 0 (Config.put_same _ _ _) .ask
    rw [Config.put_idle] at hrun
    exact ih _ he hrun hm hok
  | lock key k ih =>
    intro n ms d L ws log tr e he h hm hok
    have hrun := h.move 0 (Config.put_same _ _ _) (.lock (Config.free_idle d _ _))
    rw [Config.put_idle] at hrun
    exact ih he hrun hm hok
  | exec w k ih =>
    intro n ms d L ws log tr e he h hm hok
    simp only [Transactions.alone] at he
    split at he
    · rename_i hacc
      have hrun := h.move 0 (Config.put_same _ _ _)
        (.exec (fun key _ => Config.free_idle d _ key) hacc)
      rw [Config.put_idle] at hrun
      have hview : S.apply w (S.applyAll ws d)=S.applyAll (ws++[w]) d := by
        simp [Store.applyAll]
      simp only [Ctx.wrote,hview] at he
      exact ih he hrun hm hok
    · cases he
  | gen k ih =>
    intro n ms d L ws log tr e he h hm hok
    have hrun := h.move 0 (Config.put_same _ _ _) (.gen (ids n))
    rw [Config.put_idle] at hrun
    exact ih _ he hrun hm hok
  | commit k ih =>
    intro n ms d L ws log tr e he h hm hok
    have hmem : (⟨d,S.applyAll ws d,L,log⟩ : Ctx I State)∈e.mids :=
      mids_alone k he _ (by simp)
    have hrun := h.flush 0 (Config.put_same _ _ _) rfl (hm _ hmem)
    have hput : (({(Config.idle d).put 0 (some ⟨op,.commit k,L,ws,log⟩) with
        committed := S.applyAll ws d} : Config I State Op)).put 0 (some ⟨op,k,[],[],log⟩)=
        (Config.idle (S.applyAll ws d)).put 0 (some ⟨op,k,[],[],log⟩) := by
      simp [Config.put,Config.idle]
    have hrest : Transactions.alone S ids k n (⟨d,S.applyAll ws d,L,log⟩::ms)
        ⟨S.applyAll ws d,S.applyAll [] (S.applyAll ws d),[],log⟩=.ok e := he
    obtain ⟨ns,hns,hr⟩ := ih hrest (hput ▸ hrun) hm hok
    refine ⟨ns++[⟨d,S.applyAll ws d,L,log⟩],by simp [hns],?_⟩
    simpa [Session.ctx,Config.put,Config.idle] using hr

theorem Run.serially {ops : List Op} : ∀ {n tr d tr' d'},
    serially S prog ids ops n tr d=.ok (tr',d') →
    Run S prog ok d₀ tr (.idle d) → (∀ e∈tr', ok e.1 e.2) →
    Run S prog ok d₀ tr' (.idle d') := by
  induction ops with
  | nil => intro n tr d tr' d' he h hok; cases he; exact h
  | cons op ops ih =>
    intro n tr d tr' d' he h hok
    simp only [Transactions.serially] at he
    split at he
    · cases he
    · rename_i e hal
      have hbegin := h.begin 0 op rfl
      obtain ⟨ns,hns,hrun⟩ := Run.alone hal hbegin
        (fun m hm => hok (op,m) (trace_serially he _ (by simp [hm])))
        (hok (op,e.ctx) (trace_serially he _ (by simp)))
      refine ih he ?_ hok
      rw [hns,List.append_nil]
      exact hrun

/-- A serial history of permitted calls, from its start. -/
theorem Run.serial {ops : List Op} {n tr d} (he : Transactions.serially S prog ids ops n [] d₀=.ok (tr,d))
    (hok : ∀ op∈ops, ∀ c, ok op c) : Run S prog ok d₀ tr (.idle d) := by
  refine Run.serially he .start fun e h => ?_
  rcases ops_serially he e h with h|h
  · cases h
  · exact hok e.1 h e.2

end

end Transactions
