import AardvarkWms.Relational

/-! Calls outside a transaction: an error of one statement can be caught, and what a call
read before it wrote was there at some time, in the order of its reads. -/
namespace Transactions

namespace Txn
variable {I : Interface} {α β ε : Type}

/-- Catch the error that ends the program. -/
def attempt : Txn I α → Txn I (Except I.Err α)
  | .done a => .done (.ok a)
  | .refuse e => .done (.error e)
  | .ask q k => .ask q fun r => attempt (k r)
  | .lock key k => .lock key (attempt k)
  | .exec w k => .exec w (attempt k)
  | .gen k => .gen fun n => attempt (k n)
  | .commit k => .commit (attempt k)

/-- Go on with the result, or with the error. -/
def orElse (f : α → Txn I (Except ε β)) : Except ε α → Txn I (Except ε β)
  | .ok a => f a
  | .error e => .done (.error e)

@[simp] theorem attempt_done (a : α) : attempt (.done a : Txn I α)=.done (.ok a) := rfl
@[simp] theorem attempt_refuse (e : I.Err) : attempt (.refuse e : Txn I α)=.done (.error e) := rfl
@[simp] theorem orElse_ok (f : α → Txn I (Except ε β)) (a : α) : orElse f (.ok a)=f a := rfl
@[simp] theorem orElse_error (f : α → Txn I (Except ε β)) (e : ε) :
    orElse f (.error e)=.done (.error e) := rfl

@[simp] theorem attempt_bind (p : Txn I α) (f : α → Txn I β) :
    attempt (p.bind f)=(attempt p).bind (orElse fun a => attempt (f a)) := by
  induction p with
  | done a => rfl
  | refuse e => rfl
  | ask q k ih => simp only [bind,attempt,ih]
  | lock key k ih => simp only [bind,attempt,ih]
  | exec w k ih => simp only [bind,attempt,ih]
  | gen k ih => simp only [bind,attempt,ih]
  | commit k ih => simp only [bind,attempt,ih]

@[simp] theorem attempt_require (p : Prop) [Decidable p] (e : I.Err) :
    attempt (require p e : Txn I Unit)=.done (if p then .ok () else .error e) := by
  by_cases h : p <;> simp [require,h]

@[simp] theorem attempt_demand (o : Option α) (e : I.Err) :
    attempt (demand o e : Txn I α)=.done (o.elim (.error e) .ok) := by
  cases o <;> rfl

@[simp] theorem attempt_compute (x : Except I.Err α) : attempt (compute x)=.done x := by
  cases x <;> rfl

@[simp] theorem attempt_attempt (p : Txn I α) :
    attempt (attempt p)=(attempt p).bind fun x => .done (.ok x) := by
  induction p with
  | done a => rfl
  | refuse e => rfl
  | ask q k ih => simp only [attempt,bind,ih]
  | lock key k ih => simp only [attempt,bind,ih]
  | exec w k ih => simp only [attempt,bind,ih]
  | gen k ih => simp only [attempt,bind,ih]
  | commit k ih => simp only [attempt,bind,ih]

@[simp] theorem attempt_fresh : attempt (fresh : Txn I ℕ)=fresh.bind fun n => .done (.ok n) := rfl

@[simp] theorem attempt_ite (p : Prop) [Decidable p] (a b : Txn I α) :
    attempt (if p then a else b)=if p then attempt a else attempt b := by
  by_cases h : p <;> simp [h]

/-- A program that asks nothing between its first write and the commit that ends it. -/
def ReadsFirst : Bool → Txn I α → Prop
  | _, .done _ => True
  | _, .refuse _ => True
  | wrote, .ask _ k => wrote=false ∧ ∀ r, ReadsFirst wrote (k r)
  | wrote, .lock _ k => ReadsFirst wrote k
  | _, .exec _ k => ReadsFirst true k
  | wrote, .gen k => ∀ n, ReadsFirst wrote (k n)
  | _, .commit k => ReadsFirst false k

theorem ReadsFirst.attempt {p : Txn I α} : ∀ {wrote}, ReadsFirst wrote p →
    ReadsFirst wrote (attempt p) := by
  induction p with
  | done a => exact id
  | refuse e => exact id
  | ask q k ih => exact fun h => ⟨h.1,fun r => ih r (h.2 r)⟩
  | lock key k ih => exact fun h => ih h
  | exec w k ih => exact fun h => ih h
  | gen k ih => exact fun h n => ih n (h n)
  | commit k ih => exact fun h => ih h

theorem ReadsFirst.bind {p : Txn I α} {f : α → Txn I β} (hp : Only (fun _ => False) p)
    (hf : ∀ a, ReadsFirst false (f a)) : ReadsFirst false (p.bind f) := by
  induction p with
  | done a => exact hf a
  | refuse e => trivial
  | ask q k ih => exact ⟨rfl,fun r => ih r (hp r)⟩
  | lock key k ih => exact ih hp
  | exec w k ih => exact hp.1.elim
  | gen k ih => exact fun n => ih n (hp n)
  | commit k ih => exact hp.elim

theorem ReadsFirst.append {p : Txn I α} {f : α → Txn I β} : ∀ {wrote}, ReadsFirst wrote p →
    (∀ a wrote, ReadsFirst wrote (f a)) → ReadsFirst wrote (p.bind f) := by
  induction p with
  | done a => exact fun _ hf => hf a _
  | refuse e => intros; trivial
  | ask q k ih => exact fun h hf => ⟨h.1,fun r => ih r (h.2 r) hf⟩
  | lock key k ih => exact fun h hf => ih h hf
  | exec w k ih => exact fun h hf => ih h hf
  | gen k ih => exact fun h hf n => ih n (h n) hf
  | commit k ih => exact fun h hf => ih h hf

theorem ReadsFirst.of_reads {p : Txn I α} (hp : Only (fun _ => False) p) : ReadsFirst false p := by
  induction p with
  | done a => trivial
  | refuse e => trivial
  | ask q k ih => exact ⟨rfl,fun r => ih r (hp r)⟩
  | lock key k ih => exact ih hp
  | exec w k ih => exact hp.1.elim
  | gen k ih => exact fun n => ih n (hp n)
  | commit k ih => exact hp.elim

end Txn

open Txn

section Only
variable {I : Interface} {α : Type} {ok : I.Write → Prop}

theorem Only.attempt {p : Txn I α} (hp : Only ok p) : Only ok (attempt p) := by
  induction p with
  | done a => trivial
  | refuse e => trivial
  | ask q k ih => exact fun r => ih r (hp r)
  | lock key k ih => exact ih hp
  | exec w k ih => exact ⟨hp.1,ih hp.2⟩
  | gen k ih => exact fun n => ih n (hp n)
  | commit k ih => exact hp.elim

end Only

variable {I : Interface} {State Op : Type}

/-- The reads, the last one first, were each answered in a state that the states of the later
reads, and `d` in the end, follow. -/
inductive Sighted (S : Store I State) (R : State → State → Prop) : List (Seen I) → State → Prop
  | nil (d : State) : Sighted S R [] d
  | cons {x : Seen I} {log : List (Seen I)} {d' d : State} (hlog : Sighted S R log d')
      (hx : x.result=S.answer x.query d') (hd : R d' d) : Sighted S R (x::log) d

namespace Sighted
variable {S : Store I State} {R : State → State → Prop} {log : List (Seen I)} {d d' : State}

theorem mono (htrans : ∀ {d d' d''}, R d d' → R d' d'' → R d d'') (h : Sighted S R log d)
    (hd : R d d') : Sighted S R log d' := by
  cases h with
  | nil => exact .nil _
  | cons hlog hx hd' => exact .cons hlog hx (htrans hd' hd)

theorem head {q : I.Query} {r : I.Answer q} (h : Sighted S R (⟨q,r⟩::log) d) :
    ∃ d', r=S.answer q d' ∧ R d' d ∧ Sighted S R log d' := by
  cases h with
  | cons hlog hx hd => exact ⟨_,hx,hd,hlog⟩

end Sighted

/-- In a run of calls that read before they write, whose permitted commits all move inside the
preorder `R`, every commit's reads are sighted in their order up to the state it is made in. -/
theorem Run.sighted {S : Store I State} {prog : Op → Txn I Unit} {ok : Op → Ctx I State → Prop}
    {Post : Op → Ctx I State → Prop} {d₀ : State} (hspec : ∀ op, Spec S (Post op) (prog op))
    (hfirst : ∀ op, ReadsFirst false (prog op)) {R : State → State → Prop} (hrefl : ∀ d, R d d)
    (htrans : ∀ {d d' d''}, R d d' → R d' d'' → R d d'')
    (hstep : ∀ op c, Post op c → ok op c → R c.base c.view) {tr c} (h : Run S prog ok d₀ tr c) :
    ∀ e∈tr, Sighted S R e.2.log e.2.base := by
  have hall : (∀ e∈tr, Sighted S R e.2.log e.2.base) ∧
      ∀ i s, c.session i=some s → ReadsFirst (!s.writes.isEmpty) s.rest ∧
        Sighted S R s.log c.committed := by
    have hput : ∀ (c : Config I State Op) (i : ℕ) (t : Option (Session I Op)),
        (∀ j s, c.session j=some s → ReadsFirst (!s.writes.isEmpty) s.rest ∧
          Sighted S R s.log c.committed) →
        (∀ s, t=some s → ReadsFirst (!s.writes.isEmpty) s.rest ∧
          Sighted S R s.log c.committed) →
        ∀ j s, (c.put i t).session j=some s → ReadsFirst (!s.writes.isEmpty) s.rest ∧
          Sighted S R s.log c.committed := by
      intro c i t h ht j s hs
      by_cases hj : j=i
      · subst hj
        rw [Config.put_same] at hs
        exact ht s hs
      · rw [Config.put_ne _ _ hj] at hs
        exact h j s hs
    induction h with
    | start => exact ⟨by simp,fun i s hs => by cases hs⟩
    | begin i op h hi ih =>
      refine ⟨ih.1,hput _ _ _ ih.2 ?_⟩
      rintro s ⟨⟩
      exact ⟨hfirst op,.nil _⟩
    | @move tr c s s' i h hs hm ih =>
      obtain ⟨hrest,hlog⟩ := ih.2 i s hs
      refine ⟨ih.1,hput _ _ _ ih.2 ?_⟩
      rintro t ⟨⟩
      cases hm with
      | @ask op q k L ws log =>
        obtain ⟨hnone,hrest⟩ := hrest
        have hws : ws=[] := by simpa using hnone
        subst hws
        exact ⟨hrest _,.cons hlog rfl (hrefl _)⟩
      | lock hk => exact ⟨hrest,hlog⟩
      | @exec op w k L ws log hk hacc =>
        have hsome : (!(ws++[w]).isEmpty)=true := by simp
        refine ⟨?_,hlog⟩
        rw [hsome]
        exact hrest
      | gen n => exact ⟨hrest n,hlog⟩
    | @flush tr c p s i h hs hrest hok ih =>
      have hpost := ((h.flush i hs hrest hok).commits hspec) _ List.mem_cons_self
      have hmoved : R c.committed (S.applyAll s.writes c.committed) := hstep _ _ hpost.1 hok
      obtain ⟨hrest',hlog⟩ := ih.2 i s hs
      rw [hrest] at hrest'
      refine ⟨fun e he => ?_,hput _ _ _ (fun j t ht => ?_) ?_⟩
      · rcases List.mem_cons.mp he with rfl|he
        · exact hlog
        · exact ih.1 e he
      · exact ⟨(ih.2 j t ht).1,(ih.2 j t ht).2.mono htrans hmoved⟩
      · rintro t ⟨⟩
        exact ⟨hrest',hlog.mono htrans hmoved⟩
    | @finish tr c s i h hs hrest hok ih =>
      have hpost := ((h.finish i hs hrest hok).commits hspec) _ List.mem_cons_self
      have hmoved : R c.committed (S.applyAll s.writes c.committed) := hstep _ _ hpost.1 hok
      refine ⟨fun e he => ?_,hput _ _ _ (fun j t ht => ?_) fun t ht => by cases ht⟩
      · rcases List.mem_cons.mp he with rfl|he
        · exact (ih.2 i s hs).2
        · exact ih.1 e he
      · exact ⟨(ih.2 j t ht).1,(ih.2 j t ht).2.mono htrans hmoved⟩
    | abort i h ih => exact ⟨ih.1,hput _ _ _ ih.2 fun t ht => by cases ht⟩
  exact hall.1

theorem Run.moving {S : Store I State} {prog : Op → Txn I Unit} {ok : Op → Ctx I State → Prop}
    {Post : Op → Ctx I State → Prop} {d₀ : State} (hspec : ∀ op, Spec S (Post op) (prog op))
    {R : State → State → Prop} (hrefl : ∀ d, R d d)
    (htrans : ∀ {d d' d''}, R d d' → R d' d'' → R d d'')
    (hstep : ∀ op c, Post op c → ok op c → R c.base c.view) {tr c} (h : Run S prog ok d₀ tr c) :
    (tr.Pairwise fun e e' => R e'.2.view e.2.base) ∧ ∀ e∈tr, R e.2.view c.committed := by
  constructor
  · have hbetween := h.between hspec (P := fun e v => R e.2.view v)
      fun x op c hpost hok hd => htrans hd (hstep op c hpost hok)
    exact hbetween.imp fun hd => hd (hrefl _)
  · intro e he
    exact h.carried hspec (P := R e.2.view)
      (fun op c hpost hok hd => htrans hd (hstep op c hpost hok)) e he (hrefl _)

end Transactions

namespace Relational

open Transactions Transactions.Txn
variable {D : Schema} {Mid : Ctx (interface D) (Db D) → Prop} {c : Ctx (interface D) (Db D)}
  {t : D.Name} {r : D.Row t}

/-- `UPDATE … RETURNING`: the row is locked, changed and read. -/
def updateReturning (t : D.Name) (id : D.Id t) (p : D.Patch t) (missing : D.Err) :
    Tx D (D.Row t) := do
  lockRow t id
  let found ← find t id
  let now ← demand (I := interface D) found missing
  update t id p
  return D.patch p now

section Attempt
variable {id : D.Id t} {p : D.Row t → Bool}

@[simp] theorem attempt_find : attempt (find t id : Tx D _)=(find t id).bind fun o => .done (.ok o) :=
  rfl

@[simp] theorem attempt_findMany :
    attempt (findMany t p : Tx D _)=(findMany t p).bind fun rs => .done (.ok rs) := rfl

@[simp] theorem attempt_findFirst :
    attempt (findFirst t p : Tx D _)=(findFirst t p).bind fun o => .done (.ok o) := rfl

@[simp] theorem attempt_update (f : D.Patch t) :
    attempt (update t id f : Tx D Unit)=(update t id f).bind fun u => .done (.ok u) := rfl

end Attempt

theorem wp_attempt_findFirst {p : D.Row t → Bool}
    {Q : Except D.Err (Option (D.Row t)) → Ctx _ (Db D) → Prop}
    (h : ∀ rs, (∀ r, rs.head?=some r → p r=true ∧ Settled c.view t (D.key r) r) →
      Q (.ok rs.head?) (c.saw (.rows t p) rs)) :
    wp (database D) Mid (attempt (findFirst t p)) c Q := by
  change wp (database D) Mid ((findFirst t p).bind fun o => .done (.ok o)) c Q
  rw [wp_bind]
  exact wp_findFirst h

theorem wp_updateReturning {id : D.Id t} {p : D.Patch t} {missing : D.Err}
    {Q : Except D.Err (D.Row t) → Ctx _ (Db D) → Prop}
    (hsome : ∀ now, (c.view t).get? id=some now → Q (.ok (D.patch p now))
      (((c.held [.row t id]).saw (.row t id) (some now)).wrote (database D) (.update t id p)))
    (hnone : (c.view t).get? id=none →
      Q (.error missing) ((c.held [.row t id]).saw (.row t id) none)) :
    wp (database D) Mid (attempt (updateReturning t id p missing)) c Q := by
  have hread : ∀ o : Option (D.Row t), wp (database D) Mid
      (attempt ((demand (I := interface D) o missing).bind fun now =>
        (update t id p).bind fun _ => .done (D.patch p now)))
      ((c.held [.row t id]).saw (.row t id) o) Q →
      o=(c.view t).get? id → wp (database D) Mid (attempt (updateReturning t id p missing)) c Q := by
    intro o h ho d hd
    have hrow : (d t).get? id=o := ((hd.1 (.row t id) (by simp)).1).trans ho.symm
    subst hrow
    exact h
  refine hread _ ?_ rfl
  cases hn : (c.view t).get? id with
  | none => exact hnone hn
  | some now => exact hsome now hn

theorem readsFirst_updateReturning (id : D.Id t) (p : D.Patch t) (missing : D.Err) :
    ReadsFirst false (updateReturning t id p missing) := by
  refine ReadsFirst.bind (only_lockRow t id) fun _ => ReadsFirst.bind (only_find t id) fun o => ?_
  refine ReadsFirst.bind ?_ fun _ => trivial
  cases o <;> trivial

/-- The read that made an INSERT fail: a row with the key, or one with the unique entry. -/
inductive Refused (r : D.Row t) : List (Seen (interface D)) → List (Seen (interface D)) → Prop
  | key (s : D.Row t) (log) : Refused r log (⟨.row t (D.key r),some s⟩::log)
  | entry (a : D.Advisory) (s : D.Row t) (rs : List (D.Row t)) (log) (ha : D.unique r=some a) :
      Refused r log (⟨.rows t (fun s => D.unique s=some a),s::rs⟩::
        ⟨.row t (D.key r),none⟩::log)

/-- The reads that let an INSERT through. -/
def passed (r : D.Row t) (log : List (Seen (interface D))) : List (Seen (interface D)) :=
  match D.unique r with
  | none => ⟨.row t (D.key r),none⟩::log
  | some a => ⟨.rows t (fun s => D.unique s=some a),[]⟩::⟨.row t (D.key r),none⟩::log

/-- An INSERT adds its row where neither the key nor the unique entry is taken. Otherwise it
fails, and the program may go on. -/
theorem wp_attempt_insert {Q : Except D.Err Unit → Ctx _ (Db D) → Prop}
    (hok : ∀ c', (c.view t).get? (D.key r)=none → c.Moves Eq c' →
      (∀ a, D.unique r=some a → Lock.advisory a∈c'.locks ∧
        ∀ s∈(c.view t).rows, D.unique s≠some a) → c'.log=passed r c.log →
      Q (.ok ()) (c'.wrote (database D) (.insert t r)))
    (hrefused : ∀ c', c.Moves Eq c' → Refused r c.log c'.log → Q (.error D.duplicate) c') :
    wp (database D) Mid (attempt (insert t r)) c Q := by
  have hread : ∀ o : Option (D.Row t), wp (database D) Mid
      (attempt ((require (o.isNone=true) D.duplicate).bind fun _ =>
        (assertUnique r).bind fun _ => write (I := interface D) (.insert t r)))
      ((c.held [.row t (D.key r)]).saw (.row t (D.key r)) o) Q →
      o=(c.view t).get? (D.key r) → wp (database D) Mid (attempt (insert t r)) c Q := by
    intro o h ho d hd
    have hrow : (d t).get? (D.key r)=o := ((hd.1 (.row t (D.key r)) (by simp)).1).trans ho.symm
    subst hrow
    exact h
  refine hread _ ?_ rfl
  have hreads : c.Moves Eq ((c.held [.row t (D.key r)]).saw (.row t (D.key r))
      ((c.view t).get? (D.key r))) := (c.moves_held _).of_reads (Ctx.moves_saw _ _ _)
  cases hn : (c.view t).get? (D.key r) with
  | some s =>
    rw [hn] at hreads
    exact hrefused _ hreads (.key s c.log)
  | none =>
    rw [hn] at hreads
    cases hu : D.unique r with
    | none =>
      have hprog : assertUnique r=(.done () : Tx D Unit) := by simp [assertUnique,hu]
      rw [hprog]
      refine hok _ hn hreads (by simp [hu]) ?_
      simp [passed,hu]
    | some a =>
      have hprog : assertUnique r=((advisoryLock a).bind fun _ =>
          (findMany t fun s => D.unique s=some a).bind fun others =>
            require (others.isEmpty=true) D.duplicate : Tx D Unit) := by simp [assertUnique,hu]
      rw [hprog]
      intro d hd
      have hentry : ∀ rs, (d t).rows.filter (fun s => D.unique s=some a)=rs →
          wp (database D) Mid (attempt ((require (rs.isEmpty=true) D.duplicate).bind fun _ =>
            write (I := interface D) (.insert t r)))
          ((((c.held [.row t (D.key r)]).saw (.row t (D.key r)) none).held [.advisory a]).saw
            (.rows t fun s => D.unique s=some a) rs) Q := by
        intro rs hrs
        have hreads' := (hreads.of_reads (Ctx.moves_held _ [Lock.advisory a])).of_reads
          (Ctx.moves_saw _ (Select.rows t fun s => D.unique s=some a) rs)
        cases rs with
        | cons s rs => exact hrefused _ hreads' (.entry a s rs c.log hu)
        | nil =>
          have hfree := entry_free (c := (c.held [.row t (D.key r)]).saw (.row t (D.key r)) none) hd hrs
          refine hok _ hn hreads' (fun b hb => ?_) (by simp [passed,hu])
          obtain rfl := Option.some.inj (hu.symm.trans hb)
          exact ⟨by simp,hfree⟩
      exact hentry _ rfl

theorem readsFirst_insert (t : D.Name) (r : D.Row t) : ReadsFirst false (insert t r : Tx D Unit) :=
  ReadsFirst.bind (only_lockRow t _) fun _ => ReadsFirst.bind (only_find t _) fun _ =>
    ReadsFirst.bind (only_require _ _) fun _ => ReadsFirst.bind (only_assertUnique r) fun _ => trivial

theorem readsFirst_attempt_insert {α : Type} {f : Except D.Err Unit → Tx D α}
    (hok : ∀ wrote, ReadsFirst wrote (f (.ok ()))) (herror : ∀ e, ReadsFirst false (f (.error e))) :
    ReadsFirst false ((attempt (insert t r)).bind f) := by
  have hstep : ∀ {β : Type} {p : Tx D β} {g : β → Tx D (Except D.Err Unit)},
      Only (fun _ => False) p → (∀ b, ReadsFirst false ((g b).bind f)) →
      ReadsFirst false (((attempt p).bind (orElse g)).bind f) := by
    intro β p g hp hg
    rw [bind_assoc]
    refine ReadsFirst.bind hp.attempt fun x => ?_
    cases x with
    | ok b => exact hg b
    | error e => exact herror e
  simp only [insert,bind_eq,attempt_bind]
  refine hstep (only_lockRow t _) fun _ => ?_
  refine hstep (only_find t _) fun _ => ?_
  refine hstep (only_require _ _) fun _ => ?_
  refine hstep (only_assertUnique r) fun _ => ?_
  exact hok true

end Relational
