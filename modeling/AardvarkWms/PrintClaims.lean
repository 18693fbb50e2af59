import AardvarkWms.PrintJobs

/-! Print jobs over whole runs: who may claim one, what takes it out of `PRINTED`, and which jobs
wait for a claim. -/
namespace AardvarkWms.PrintJobs

open Messaging (Str)
open OrderUpdates (Uuid)
open Transactions.Txn (bind_eq_ok)

namespace LabelsDb

def HasPrinter (db : LabelsDb) (warehouseId : Uuid) (code : Str) : Prop :=
  ∃ p∈db.printers, p.warehouseId=warehouseId ∧ p.code=code

def HasAgent (db : LabelsDb) (warehouseId : Uuid) (code : Str) : Prop :=
  ∃ a∈db.agents, a.warehouseId=warehouseId ∧ a.code=code

/-- Stations and agents are added, and never lose their code. -/
def Extends (db db' : LabelsDb) : Prop :=
  (∀ w code, db.HasPrinter w code → db'.HasPrinter w code) ∧
    ∀ w code, db.HasAgent w code → db'.HasAgent w code

/-- A statement keeps the stations, and the agents with their codes. -/
structure Keeps (db db' : LabelsDb) : Prop where
  grows : db.Extends db'
  printers : ∀ p∈db'.printers, p∈db.printers
  agents : ∀ a∈db'.agents, ∃ b∈db.agents, a.code=b.code

theorem keeps_of_eq {db db' : LabelsDb} (hp : db'.printers=db.printers) (ha : db'.agents=db.agents) :
    db.Keeps db' := by
  refine ⟨⟨?_,?_⟩,?_,?_⟩
  · intro w code h
    unfold HasPrinter
    rw [hp]
    exact h
  · intro w code h
    unfold HasAgent
    rw [ha]
    exact h
  · intro p h
    exact hp ▸ h
  · intro a h
    exact ⟨a,ha ▸ h,rfl⟩

end LabelsDb

open LabelsDb (keeps_of_eq)

/-- One job of a warehouse rewritten. -/
def updated (T : Table PrintJob.id) (warehouseId : Uuid) (id : ℕ) (f : PrintJob → PrintJob)
    (hf : ∀ j, (f j).id=j.id) : Table PrintJob.id :=
  T.modifyWhere (fun j => j.id=id && j.warehouseId=warehouseId) f hf

/-- The call's next statement inserts a job for this target. -/
def Call.Inserts (c : Call) (t : Target) : Prop :=
  (∃ zpl dto, c.phase=.insert t zpl ∧ c.request=.create dto) ∨
    ∃ source jobId dto, c.phase=.insertReprint t source ∧ c.request=.reprint jobId dto

/-- What one statement does to the jobs, and from which phase. -/
inductive JobWrite (c : Call) (now : ℕ) (T : Table PrintJob.id) : Table PrintJob.id → Prop
  | none : JobWrite c now T T
  | insert (job : PrintJob) (t : Target) : T.get? job.id=none →
      c.Inserts t → job.warehouseId=t.warehouseId → job.status=.QUEUED → job.attempts=0 →
      job.printerCode=nullIfEmpty t.printerCode → job.agentCode=nullIfEmpty t.agentCode →
      (∀ key, job.idempotencyKey=some key →
        ∀ j∈T.rows, j.warehouseId=job.warehouseId → j.idempotencyKey≠some key) →
      JobWrite c now T (T.insert job)
  | claim (agent ids claimed) (j : PrintJob) : c.phase=.claim agent (j.id::ids) claimed →
      T.get? j.id=some j → j.claimable agent.warehouseId agent.code now=true →
      JobWrite c now T (updated T agent.warehouseId j.id (PrintJob.claimed agent.code now) fun _ => rfl)
  | retry (t read) (jobId dto) : c.phase=.update t read → c.request=.retry jobId dto →
      JobWrite c now T
        (updated T t.warehouseId read.id (PrintJob.requeued t.printerCode t.agentCode) fun _ => rfl)
  | cancel (t read reason) (jobId metadata) : c.phase=.update t read →
      c.request=.cancel jobId metadata →
      JobWrite c now T (updated T t.warehouseId read.id (PrintJob.cancelled reason) fun _ => rfl)
  | reassign (t) (read j : PrintJob) (jobId dto) : c.phase=.update t read →
      c.request=.reassign jobId dto → T.get? read.id=some j →
      j.status∉[.CLAIMED,.PRINTING,.PRINTED] →
      JobWrite c now T
        (updated T t.warehouseId read.id (PrintJob.requeued t.printerCode t.agentCode) fun _ => rfl)
  | report (agent) (read j : PrintJob) (jobId dto) : c.phase=.result agent read →
      c.request=.report jobId dto → T.get? jobId=some j → j.status=read.status → j.agentCode=some agent.code →
      JobWrite c now T (updated T agent.warehouseId jobId (PrintJob.reported dto now) fun _ => rfl)

section Advance
variable {now : ℕ} {db db' : LabelsDb} {c : Call} {p : Phase}

theorem jobOf_some {w : Uuid} {id : ℕ} {j : PrintJob} (h : db.jobOf w id=some j) :
    db.jobs.get? id=some j ∧ j.warehouseId=w := by
  have hf := Option.filter_eq_some_iff.mp h
  exact ⟨hf.1,by simpa using hf.2⟩

theorem insertJob_write {job : PrintJob} {t : Target}
    (hphase : c.Inserts t)
    (hw : job.warehouseId=t.warehouseId) (hstatus : job.status=.QUEUED) (hattempts : job.attempts=0)
    (hprinter : job.printerCode=nullIfEmpty t.printerCode)
    (hagent : job.agentCode=nullIfEmpty t.agentCode)
    (hhash : job.idempotencyKey≠none → job.requestHash≠none)
    (h : insertJob db job=.ok (db',p)) : JobWrite c now db.jobs db'.jobs := by
  unfold insertJob at h
  split at h
  · rename_i key hash hkey hhash'
    split at h
    · cases h
      exact .none
    · rename_i hnew
      split at h
      · cases h
      · rename_i hid
        cases h
        refine .insert job t (not_not.mp hid) hphase hw hstatus hattempts hprinter hagent ?_
        intro key' hkey' j hj hjw hjk
        have hnone := List.find?_eq_none.mp (not_not.mp hnew) j hj
        rw [hkey] at hkey'
        obtain rfl : key=key' := Option.some.inj hkey'
        simp [hjw,hjk] at hnone
  · rename_i hcase
    split at h
    · cases h
    · rename_i hid
      cases h
      refine .insert job t (not_not.mp hid) hphase hw hstatus hattempts hprinter hagent ?_
      intro key hkey
      cases hh : job.requestHash with
      | none => exact (hhash (by simp [hkey]) hh).elim
      | some hash => exact (hcase key hash hkey hh).elim

theorem afterUpdate_db {t : Target} {read : PrintJob} {message : String}
    (h : afterUpdate db t read message=.ok (db',p)) : db'=db ∧ ∃ r, p=.ended r := by
  unfold afterUpdate at h
  split at h
  · cases h
  · cases h
    exact ⟨rfl,_,rfl⟩

end Advance

namespace Target
variable (t : Target) (db : LabelsDb)

def PrinterOk : Prop := ∀ code, nullIfEmpty t.printerCode=some code → db.HasPrinter t.warehouseId code

def AgentOk : Prop := ∀ code, nullIfEmpty t.agentCode=some code → db.HasAgent t.warehouseId code

/-- No printed job is read for an update. -/
def ReadOk (request : Request) : Prop :=
  ∀ job, t.job=some job → job.status=.PRINTED → ∃ jobId dto, request=.reprint jobId dto

end Target

/-- What a call knows between its statements. -/
def Phase.Ready (db : LabelsDb) (request : Request) : Phase → Prop
  | .printer t => t.ReadOk request
  | .agent t => t.PrinterOk db ∧ t.ReadOk request
  | .layout t _ | .template t _ | .insert t _ | .insertReprint t _ => t.PrinterOk db ∧ t.AgentOk db
  | .update t read => t.PrinterOk db ∧ t.AgentOk db ∧ read.status≠.PRINTED
  | .tokenFailure a | .clearTokenFailures a | .heartbeat a | .select a | .claim a _ _ | .current a
  | .latest a => db.HasAgent a.warehouseId a.code
  | .result a read => db.HasAgent a.warehouseId a.code ∧ read.status∈[.CLAIMED,.PRINTING]
  | _ => True

section Ready
variable {env : Env} {now : ℕ} {db db' : LabelsDb} {request : Request} {t : Target} {p : Phase}

theorem toZpl_ready {dto : CreateRuntimePrintJobDto} (hp : t.PrinterOk db) (ha : t.AgentOk db)
    (h : toZpl env t dto=.ok p) : p.Ready db request := by
  unfold toZpl at h
  split at h
  · obtain ⟨zpl,_,h⟩ := bind_eq_ok h
    cases h
    exact ⟨hp,ha⟩
  · obtain ⟨zpl,_,h⟩ := bind_eq_ok h
    cases h
    exact ⟨hp,ha⟩
  · cases h
    exact ⟨hp,ha⟩
  · obtain ⟨zpl,_,h⟩ := bind_eq_ok h
    cases h
    exact ⟨hp,ha⟩

theorem toWrite_ready (hp : t.PrinterOk db) (ha : t.AgentOk db) (hr : t.ReadOk request)
    (h : toWrite env request t=.ok p) : p.Ready db request := by
  unfold toWrite at h
  split at h
  · exact toZpl_ready hp ha h
  · cases h
    exact ⟨hp,ha⟩
  · rename_i job hcreate hreprint hjob
    cases h
    refine ⟨hp,ha,?_⟩
    intro hprinted
    obtain ⟨jobId,dto,rfl⟩ := hr job hjob hprinted
    exact hreprint jobId dto rfl
  · cases h

theorem toAgent_ready (hp : t.PrinterOk db) (hr : t.ReadOk request)
    (h : toAgent env request t=.ok p) : p.Ready db request := by
  unfold toAgent at h
  split at h
  · rename_i hnone
    refine toWrite_ready hp ?_ hr h
    intro code hcode
    rw [hnone] at hcode
    cases hcode
  · cases h
    exact ⟨hp,hr⟩

theorem toPrinter_ready (hr : t.ReadOk request) (h : toPrinter env request t=.ok p) :
    p.Ready db request := by
  unfold toPrinter at h
  split at h
  · rename_i hnone
    refine toAgent_ready ?_ hr h
    intro code hcode
    rw [hnone] at hcode
    cases hcode
  · cases h
    exact hr

theorem afterWarehouse_ready {w : Uuid} (h : afterWarehouse env request w=.ok p) :
    p.Ready db request := by
  cases request with
  | create dto =>
    refine toPrinter_ready ?_ h
    intro job hjob
    cases hjob
  | _ => cases h; trivial

theorem afterJob_ready {w : Uuid} {job : PrintJob} (h : afterJob env request w job=.ok p) :
    p.Ready db request := by
  have hread : ∀ {printerCode agentCode}, job.status≠.PRINTED →
      Target.ReadOk ⟨w,some job,printerCode,agentCode⟩ request := by
    intro printerCode agentCode hne job' hjob hprinted
    cases hjob
    exact (hne hprinted).elim
  unfold afterJob at h
  split at h
  · split at h
    · cases h
    · rename_i hne
      exact toPrinter_ready (hread hne) h
  · split at h
    · cases h
    · rename_i hne
      cases h
      refine ⟨?_,?_,hne⟩
      · intro code hcode
        cases hcode
      · intro code hcode
        cases hcode
  · split at h
    · cases h
    · rename_i hne
      refine toPrinter_ready (hread ?_) h
      intro hprinted
      exact hne (by simp [hprinted])
  · refine toPrinter_ready ?_ h
    intro job' _ _
    exact ⟨_,_,rfl⟩
  · cases h
    trivial

theorem agentOf_some {w : Uuid} {code : Str} {a : PrintAgent} (h : db.agentOf w code=some a) :
    a∈db.agents ∧ a.warehouseId=w ∧ a.code=code := by
  have hkey := List.find?_some h
  exact ⟨List.mem_of_find?_eq_some h,by simpa using hkey⟩

theorem checkAgent_ready {w : Uuid} {code token : Str}
    (h : checkAgent env now (db.agentOf w code) token=.ok p) : p.Ready db request := by
  unfold checkAgent at h
  split at h
  · cases h
  · rename_i a ha
    obtain ⟨hmem,_,_⟩ := agentOf_some ha
    have hhas : db.HasAgent a.warehouseId a.code := ⟨a,hmem,rfl,rfl⟩
    split at h
    · cases h
    · split at h
      · cases h
      · split at h
        · cases h
          exact hhas
        · split at h
          · cases h
            exact hhas
          · cases h
            exact hhas

theorem mapAgent_keeps (agent : PrintAgent) {f : PrintAgent → PrintAgent}
    (hf : ∀ a, a.warehouseId=agent.warehouseId → a.code=agent.code →
      (f a).warehouseId=a.warehouseId ∧ (f a).code=a.code) : db.Keeps (db.mapAgent agent f) := by
  refine ⟨⟨fun w code h => h,?_⟩,fun _ h => h,?_⟩
  · intro w code h
    obtain ⟨a,ha,haw,hac⟩ := h
    by_cases hsame : a.warehouseId=agent.warehouseId ∧ a.code=agent.code
    · obtain ⟨hw,hc⟩ := hf a hsame.1 hsame.2
      exact ⟨f a,List.mem_map.mpr ⟨a,ha,if_pos hsame⟩,hw.trans haw,hc.trans hac⟩
    · exact ⟨a,List.mem_map.mpr ⟨a,ha,if_neg hsame⟩,haw,hac⟩
  · intro a' ha'
    obtain ⟨a,ha,rfl⟩ := List.mem_map.mp ha'
    refine ⟨a,ha,?_⟩
    split
    · rename_i hsame
      exact (hf a hsame.1 hsame.2).2
    · rfl

theorem Phase.Ready.mono (h : db.Extends db') (hp : p.Ready db request) : p.Ready db' request := by
  have hprinter : ∀ {t : Target}, t.PrinterOk db → t.PrinterOk db' :=
    fun ht code hcode => h.1 _ _ (ht code hcode)
  have hagent : ∀ {t : Target}, t.AgentOk db → t.AgentOk db' :=
    fun ht code hcode => h.2 _ _ (ht code hcode)
  cases p with
  | agent t => exact ⟨hprinter hp.1,hp.2⟩
  | layout t templateCode => exact ⟨hprinter hp.1,hagent hp.2⟩
  | template t templateCode => exact ⟨hprinter hp.1,hagent hp.2⟩
  | insert t zpl => exact ⟨hprinter hp.1,hagent hp.2⟩
  | insertReprint t source => exact ⟨hprinter hp.1,hagent hp.2⟩
  | update t read => exact ⟨hprinter hp.1,hagent hp.2.1,hp.2.2⟩
  | tokenFailure a => exact h.2 _ _ hp
  | clearTokenFailures a => exact h.2 _ _ hp
  | heartbeat a => exact h.2 _ _ hp
  | select a => exact h.2 _ _ hp
  | claim a ids claimed => exact h.2 _ _ hp
  | current a => exact h.2 _ _ hp
  | latest a => exact h.2 _ _ hp
  | result a read => exact ⟨h.2 _ _ hp.1,hp.2⟩
  | _ => exact hp

end Ready

/-- All that one statement does. -/
structure Advanced (now : ℕ) (db : LabelsDb) (c : Call) (db' : LabelsDb) (p : Phase) : Prop where
  write : JobWrite c now db.jobs db'.jobs
  keeps : db.Keeps db'
  ready : p.Ready db' c.request

section Statement
variable {env : Env} {now generated : ℕ} {db db' : LabelsDb} {ref : Str} {actor : ℕ}
  {request : Request} {p : Phase}

theorem reads {c : Call} (h : p.Ready db c.request) : Advanced now db c db p :=
  ⟨.none,keeps_of_eq rfl rfl,h⟩

theorem insertJob_kept {job : PrintJob} (h : insertJob db job=.ok (db',p)) :
    db.Keeps db' ∧ p.Ready db' request := by
  unfold insertJob at h
  split at h
  · split at h
    · cases h
      exact ⟨keeps_of_eq rfl rfl,trivial⟩
    · split at h
      · cases h
      · cases h
        exact ⟨keeps_of_eq rfl rfl,trivial⟩
  · split at h
    · cases h
    · cases h
      exact ⟨keeps_of_eq rfl rfl,trivial⟩

theorem claimOne_write (db : LabelsDb) (now : ℕ) (agent : PrintAgent) (id : ℕ) (ids : List ℕ) (claimed : List PrintJob)
    (c : Call) (hphase : c.phase=.claim agent (id::ids) claimed) :
    JobWrite c now db.jobs (claimOne now db agent id).1.jobs ∧
      db.Keeps (claimOne now db agent id).1 := by
  unfold claimOne
  split
  · exact ⟨.none,keeps_of_eq rfl rfl⟩
  · rename_i j hj
    obtain ⟨hget,hclaimable⟩ := Option.filter_eq_some_iff.mp hj
    obtain rfl : j.id=id := Table.key_of_get? hget
    exact ⟨.claim agent ids claimed j hphase hget hclaimable,keeps_of_eq rfl rfl⟩

theorem updates {c : Call} {t : Target} {read : PrintJob} {f : PrintJob → PrintJob}
    {hf : ∀ j, (f j).id=j.id} {message : String}
    (hwrite : JobWrite c now db.jobs (updated db.jobs t.warehouseId read.id f hf))
    (h : afterUpdate (db.updateJob t.warehouseId read.id f hf) t read message=.ok (db',p)) :
    Advanced now db c db' p := by
  obtain ⟨rfl,r,rfl⟩ := afterUpdate_db h
  exact ⟨hwrite,keeps_of_eq rfl rfl,trivial⟩

/-- The statement lemma. -/
theorem advanced {phase : Phase}
    (h : PrintJobs.advance env now generated db ⟨ref,actor,request,phase⟩=.ok (db',p))
    (hready : phase.Ready db request) : Advanced now db ⟨ref,actor,request,phase⟩ db' p := by
  cases phase with
  | warehouse =>
    simp only [PrintJobs.advance] at h
    obtain ⟨warehouse,_,h⟩ := bind_eq_ok h
    obtain ⟨next,hnext,h⟩ := bind_eq_ok h
    cases h
    exact reads (afterWarehouse_ready hnext)
  | job w =>
    simp only [PrintJobs.advance] at h
    obtain ⟨job,_,h⟩ := bind_eq_ok h
    obtain ⟨next,hnext,h⟩ := bind_eq_ok h
    cases h
    exact reads (afterJob_ready hnext)
  | printer t =>
    simp only [PrintJobs.advance] at h
    split at h
    · rename_i code hcode
      split at h
      · rename_i hfound
        obtain ⟨next,hnext,h⟩ := bind_eq_ok h
        cases h
        refine reads (toAgent_ready ?_ hready hnext)
        intro code' hcode'
        obtain ⟨q,hq,hqok⟩ := List.any_eq_true.mp hfound
        have hsome := (Option.filter_eq_some_iff.mp hcode').1
        rw [hcode] at hsome
        obtain rfl : code=code' := Option.some.inj hsome
        exact ⟨q,hq,by simpa using hqok⟩
      · cases h
    · cases h
  | agent t =>
    simp only [PrintJobs.advance] at h
    split at h
    · rename_i code hcode
      split at h
      · cases h
      · rename_i agent hagent
        split at h
        · obtain ⟨next,hnext,h⟩ := bind_eq_ok h
          cases h
          refine reads (toWrite_ready hready.1 ?_ hready.2 hnext)
          intro code' hcode'
          have hsome := (Option.filter_eq_some_iff.mp hcode').1
          rw [hcode] at hsome
          obtain rfl : code=code' := Option.some.inj hsome
          obtain ⟨hmem,hw,hc⟩ := agentOf_some hagent
          exact ⟨agent,hmem,hw,hc⟩
        · cases h
    · cases h
  | layout t templateCode =>
    cases request with
    | create dto =>
      simp only [PrintJobs.advance] at h
      split at h
      · obtain ⟨zpl,_,h⟩ := bind_eq_ok h
        cases h
        exact reads hready
      · cases h
        exact reads hready
    | _ => cases h; exact reads hready
  | template t templateCode =>
    cases request with
    | create dto =>
      simp only [PrintJobs.advance] at h
      split at h
      · cases h
      · split at h
        · cases h
        · split at h
          · obtain ⟨zpl,_,h⟩ := bind_eq_ok h
            cases h
            exact reads hready
          · obtain ⟨zpl,_,h⟩ := bind_eq_ok h
            cases h
            exact reads hready
    | _ => cases h; exact reads hready
  | insert t zpl =>
    cases request with
    | create dto =>
      obtain ⟨hkeeps,hp⟩ := insertJob_kept h
      have hkeyed : (createdJob env generated now actor t dto zpl).idempotencyKey≠none →
          (createdJob env generated now actor t dto zpl).requestHash≠none := by
        simp [createdJob]
      exact ⟨insertJob_write (.inl ⟨zpl,dto,rfl,rfl⟩) rfl rfl rfl rfl rfl hkeyed h,hkeeps,hp⟩
    | _ => cases h; exact reads hready
  | insertReprint t source =>
    cases request with
    | reprint jobId dto =>
      obtain ⟨hkeeps,hp⟩ := insertJob_kept h
      have hkeyed : (reprintedJob env generated now actor t source dto).idempotencyKey≠none →
          (reprintedJob env generated now actor t source dto).requestHash≠none := by
        simp [reprintedJob]
      exact ⟨insertJob_write (.inr ⟨source,jobId,dto,rfl,rfl⟩) rfl rfl rfl rfl rfl hkeyed h,hkeeps,hp⟩
    | _ => cases h; exact reads hready
  | replay w key hash =>
    simp only [PrintJobs.advance] at h
    split at h
    · cases h
    · split at h
      · cases h
      · cases h
        exact reads trivial
  | update t read =>
    cases request with
    | retry jobId dto => exact updates (.retry t read jobId dto rfl rfl) h
    | cancel jobId metadata => exact updates (.cancel t read _ jobId metadata rfl rfl) h
    | reassign jobId dto =>
      simp only [PrintJobs.advance] at h
      split at h
      · cases h
      · rename_i j hj
        cases h
        obtain ⟨hget,hstatus⟩ := Option.filter_eq_some_iff.mp hj
        exact ⟨.reassign t read j jobId dto rfl rfl (jobOf_some hget).1 (of_decide_eq_true hstatus),
          keeps_of_eq rfl rfl,trivial⟩
    | _ => cases h; exact reads hready
  | token w =>
    cases request with
    | claim dto =>
      obtain ⟨next,hnext,h⟩ := bind_eq_ok h
      cases h
      exact reads (checkAgent_ready hnext)
    | report jobId dto =>
      obtain ⟨next,hnext,h⟩ := bind_eq_ok h
      cases h
      exact reads (checkAgent_ready hnext)
    | _ => cases h; exact reads hready
  | tokenFailure agent =>
    cases h
    exact ⟨.none,mapAgent_keeps agent fun _ _ _ => ⟨rfl,rfl⟩,trivial⟩
  | clearTokenFailures agent =>
    cases h
    have hkeeps : db.Keeps (db.mapAgent agent fun a => {a with
        authFailedCount := 0, authLockedUntil := none, tokenLastFailedAt := none}) :=
      mapAgent_keeps agent fun _ _ _ => ⟨rfl,rfl⟩
    exact ⟨.none,hkeeps,hkeeps.grows.2 _ _ hready⟩
  | heartbeat agent =>
    have hkeeps : db.Keeps (db.mapAgent agent fun a => {a with status := .ONLINE}) :=
      mapAgent_keeps agent fun _ _ _ => ⟨rfl,rfl⟩
    cases request <;> cases h <;> exact ⟨.none,hkeeps,hkeeps.grows.2 _ _ hready⟩
  | select agent => cases request <;> cases h <;> exact reads hready
  | claim agent ids claimed =>
    cases ids with
    | nil =>
      cases h
      exact reads trivial
    | cons id ids =>
      cases h
      obtain ⟨hwrite,hkeeps⟩ := claimOne_write db now agent id ids claimed
        ⟨ref,actor,request,.claim agent (id::ids) claimed⟩ rfl
      exact ⟨hwrite,hkeeps,hkeeps.grows.2 _ _ hready⟩
  | current agent =>
    cases request with
    | report jobId dto =>
      obtain ⟨job,_,h⟩ := bind_eq_ok h
      split at h
      · cases h
      · split at h
        · cases h
        · rename_i hallowed
          split at h
          · cases h
            exact reads trivial
          · rename_i hopen
            cases h
            refine reads ⟨hready,?_⟩
            simp only [Bool.not_eq_true',Bool.not_eq_false] at hallowed
            cases hs : job.status with
            | CLAIMED => simp
            | PRINTING => simp
            | QUEUED => simp [hs,isPrintAgentStatusTransitionAllowed] at hallowed
            | PRINTED =>
              simp only [hs,isPrintAgentStatusTransitionAllowed,decide_eq_true_eq] at hallowed
              simp [hs,hallowed,PrintAgentReportedStatus.toStatus] at hopen
            | FAILED =>
              simp only [hs,isPrintAgentStatusTransitionAllowed,decide_eq_true_eq] at hallowed
              simp [hs,hallowed,PrintAgentReportedStatus.toStatus] at hopen
            | CANCELLED =>
              simp only [hs,isPrintAgentStatusTransitionAllowed,decide_eq_true_eq] at hallowed
              simp [hs,hallowed,PrintAgentReportedStatus.toStatus] at hopen
    | _ => cases h; exact reads hready
  | result agent read =>
    cases request with
    | report jobId dto =>
      simp only [PrintJobs.advance] at h
      split at h
      · cases h
        exact reads hready.1
      · rename_i j hj
        cases h
        obtain ⟨hget,hsame⟩ := Option.filter_eq_some_iff.mp hj
        simp only [Bool.and_eq_true,decide_eq_true_eq] at hsame
        exact ⟨.report agent read j jobId dto rfl rfl (jobOf_some hget).1 hsame.1 hsame.2,
          keeps_of_eq rfl rfl,trivial⟩
    | _ => cases h; exact reads hready
  | latest agent =>
    cases request with
    | report jobId dto =>
      obtain ⟨job,_,h⟩ := bind_eq_ok h
      split at h
      · cases h
        exact reads trivial
      · cases h
    | _ => cases h; exact reads hready
  | ended r =>
    cases request <;> cases h <;> exact reads trivial

end Statement

/-- What holds of a job row: attempts are counted, codes are those of stations and agents. -/
structure JobOk (db : LabelsDb) (j : PrintJob) : Prop where
  attempts : j.attempts≤j.maxAttempts
  printer : ∀ code, j.printerCode=some code → code≠[] ∧ db.HasPrinter j.warehouseId code
  agent : ∀ code, j.agentCode=some code →
    (j.status=.QUEUED → code≠[]) ∧ db.HasAgent j.warehouseId code

structure System.Inv (env : Env) (s : System) : Prop where
  printers : ∀ p∈s.db.printers, ∃ code, p.code=normalizeCode env code
  agents : ∀ a∈s.db.agents, ∃ code, a.code=normalizeCode env code
  jobs : ∀ j∈s.db.jobs.rows, JobOk s.db j
  calls : ∀ i c, s.call i=some c → c.phase.Ready s.db c.request

section Jobs
variable {now : ℕ} {db db' : LabelsDb} {c : Call} {T T' : Table PrintJob.id}

theorem JobOk.mono (h : db.Extends db') {j : PrintJob} (hj : JobOk db j) : JobOk db' j :=
  ⟨hj.attempts,fun code hc => ⟨(hj.printer code hc).1,h.1 _ _ (hj.printer code hc).2⟩,
    fun code hc => ⟨(hj.agent code hc).1,h.2 _ _ (hj.agent code hc).2⟩⟩

theorem mem_updated {w : Uuid} {id : ℕ} {f : PrintJob → PrintJob} {hf : ∀ j, (f j).id=j.id}
    {j' : PrintJob} (h : j'∈(updated T w id f hf).rows) :
    j'∈T.rows ∨ ∃ j∈T.rows, j.id=id ∧ j.warehouseId=w ∧ j'=f j := by
  obtain ⟨j,hj,rfl⟩ := List.mem_map.mp h
  by_cases hid : j.id=id ∧ j.warehouseId=w
  · simp only [hid.1,hid.2,decide_true,Bool.and_self,if_true]
    exact .inr ⟨j,hj,hid.1,hid.2,rfl⟩
  · have hp : (decide (j.id=id) && decide (j.warehouseId=w))=false := by
      simpa using not_and.mp hid
    simp only [hp,Bool.false_eq_true,if_false]
    exact .inl hj

theorem nullIfEmpty_some {o : Option Str} {code : Str} (h : nullIfEmpty o=some code) : code≠[] := by
  have hf := (Option.filter_eq_some_iff.mp h).2
  simpa using hf

theorem JobOk.requeued {t : Target} {j : PrintJob} (hj : JobOk db j) (hw : j.warehouseId=t.warehouseId)
    (hp : t.PrinterOk db) (ha : t.AgentOk db) :
    JobOk db (j.requeued t.printerCode t.agentCode) := by
  refine ⟨hj.attempts,?_,?_⟩
  · intro code hcode
    exact ⟨nullIfEmpty_some hcode,hw ▸ hp code hcode⟩
  · intro code hcode
    exact ⟨fun _ => nullIfEmpty_some hcode,hw ▸ ha code hcode⟩

theorem updated_ok {w : Uuid} {id : ℕ} {f : PrintJob → PrintJob} {hf : ∀ j, (f j).id=j.id}
    (h : ∀ j∈T.rows, JobOk db j)
    (hok : ∀ j∈T.rows, j.id=id → j.warehouseId=w → JobOk db j → JobOk db (f j)) :
    ∀ j∈(updated T w id f hf).rows, JobOk db j := by
  intro j' hj'
  cases mem_updated hj' with
  | inl hold => exact h j' hold
  | inr hnew =>
    obtain ⟨j,hj,hid,hw,rfl⟩ := hnew
    exact hok j hj hid hw (h j hj)

theorem JobWrite.ok (hw : JobWrite c now T T') (h : ∀ j∈T.rows, JobOk db j)
    (hready : c.phase.Ready db c.request) : ∀ j∈T'.rows, JobOk db j := by
  cases hw with
  | none => exact h
  | insert job t hid hphase hjw hstatus hattempts hprinter hagent hkey =>
    have ht : t.PrinterOk db ∧ t.AgentOk db := by
      cases hphase with
      | inl hp =>
        obtain ⟨zpl,dto,hp,_⟩ := hp
        rw [hp] at hready
        exact hready
      | inr hp =>
        obtain ⟨source,jobId,dto,hp,_⟩ := hp
        rw [hp] at hready
        exact hready
    intro j hj
    rw [Table.rows_insert hid,List.mem_append,List.mem_singleton] at hj
    cases hj with
    | inl hold => exact h j hold
    | inr hnew =>
      subst hnew
      refine ⟨by omega,?_,?_⟩
      · intro code hcode
        rw [hprinter] at hcode
        exact ⟨nullIfEmpty_some hcode,hjw ▸ ht.1 code hcode⟩
      · intro code hcode
        rw [hagent] at hcode
        exact ⟨fun _ => nullIfEmpty_some hcode,hjw ▸ ht.2 code hcode⟩
  | claim agent ids claimed j hphase hget hclaimable =>
    rw [hphase] at hready
    refine updated_ok h ?_
    intro k hk hid hkw hkok
    obtain rfl : k=j := Table.inj_of_nodup T.nodup hk (Table.mem_of_get? hget).1 hid
    have hattempts : k.attempts < k.maxAttempts := by
      simp only [PrintJob.claimable,Bool.and_eq_true,decide_eq_true_eq] at hclaimable
      exact hclaimable.1.2
    refine ⟨hattempts,hkok.printer,?_⟩
    intro code hcode
    obtain rfl : agent.code=code := Option.some.inj hcode
    refine ⟨?_,?_⟩
    · intro hs
      cases hs
    · show db.HasAgent k.warehouseId agent.code
      rw [hkw]
      exact hready
  | retry t read jobId dto hphase hrequest =>
    rw [hphase] at hready
    exact updated_ok h fun j _ _ hjw hj => hj.requeued hjw hready.1 hready.2.1
  | cancel t read reason jobId metadata hphase hrequest =>
    refine updated_ok h fun j _ _ _ hj => ⟨hj.attempts,hj.printer,?_⟩
    intro code hcode
    refine ⟨?_,(hj.agent code hcode).2⟩
    intro hs
    cases hs
  | reassign t read j jobId dto hphase hrequest hget hstatus =>
    rw [hphase] at hready
    exact updated_ok h fun j _ _ hjw hj => hj.requeued hjw hready.1 hready.2.1
  | report agent read j jobId dto hphase hrequest hget hstatus hagent =>
    refine updated_ok h fun j _ _ _ hj => ⟨hj.attempts,hj.printer,?_⟩
    intro code hcode
    refine ⟨?_,(hj.agent code hcode).2⟩
    intro hs
    cases hd : dto.status with
    | _ => simp [PrintJob.reported,hd,PrintAgentReportedStatus.toStatus] at hs

end Jobs

section Run
variable {env : Env} {s : System}

theorem System.Inv.put (h : s.Inv env) {db : LabelsDb} (hgrows : s.db.Extends db)
    (hprinters : ∀ p∈db.printers, ∃ code, p.code=normalizeCode env code)
    (hagents : ∀ a∈db.agents, ∃ code, a.code=normalizeCode env code)
    (hjobs : ∀ j∈db.jobs.rows, JobOk s.db j) (i : ℕ) (c : Call)
    (hc : c.phase.Ready db c.request) : (s.put db i c).Inv env := by
  refine ⟨hprinters,hagents,fun j hj => (hjobs j hj).mono hgrows,?_⟩
  intro k d hd
  by_cases hk : k=i
  · subst hk
    simp only [System.put,Function.update_self,Option.some.injEq] at hd
    subst hd
    exact hc
  · simp only [System.put,Function.update_of_ne hk] at hd
    exact (h.calls k d hd).mono hgrows

theorem System.Inv.kept (h : s.Inv env) {db : LabelsDb} (hkeeps : s.db.Keeps db)
    (hjobs : db.jobs=s.db.jobs) : System.Inv env {s with db} := by
  refine ⟨fun p hp => h.printers p (hkeeps.printers p hp),?_,?_,?_⟩
  · intro a ha
    obtain ⟨b,hb,hcode⟩ := hkeeps.agents a ha
    obtain ⟨code,hnormal⟩ := h.agents b hb
    exact ⟨code,hcode.trans hnormal⟩
  · intro j hj
    exact (h.jobs j (hjobs ▸ hj)).mono hkeeps.grows
  · intro i c hi
    exact (h.calls i c hi).mono hkeeps.grows

theorem upsertPrinter_inv (h : s.Inv env) (w : Uuid) (code : Str) :
    System.Inv env {s with db := upsertPrinter env s.db w code} := by
  unfold upsertPrinter
  split
  · exact h
  · have hgrows : s.db.Extends
        {s.db with printers := s.db.printers++[⟨w,normalizeCode env code⟩]} := by
      refine ⟨?_,fun _ _ h => h⟩
      intro w' code' hp
      obtain ⟨p,hp,hpok⟩ := hp
      exact ⟨p,List.mem_append_left _ hp,hpok⟩
    refine ⟨?_,h.agents,fun j hj => (h.jobs j hj).mono hgrows,fun i c hi => (h.calls i c hi).mono hgrows⟩
    intro p hp
    cases List.mem_append.mp hp with
    | inl hold => exact h.printers p hold
    | inr hnew =>
      rw [List.mem_singleton] at hnew
      exact ⟨code,by rw [hnew]⟩

theorem upsertPrintAgent_inv (h : s.Inv env) (w : Uuid) (code token : Str)
    (printerCodes : Option (List Str)) (metadata : Option Json) :
    System.Inv env {s with db := upsertPrintAgent env s.db w code token printerCodes metadata} := by
  unfold upsertPrintAgent
  simp only
  split
  · have hgrows : s.db.Extends {s.db with agents := s.db.agents++[⟨w,normalizeCode env code,
        env.hashToken token,.OFFLINE,withConfiguredPrinterCodes env metadata printerCodes,0,none,
        none⟩]} := by
      refine ⟨fun _ _ h => h,?_⟩
      intro w' code' ha
      obtain ⟨a,ha,haok⟩ := ha
      exact ⟨a,List.mem_append_left _ ha,haok⟩
    refine ⟨h.printers,?_,fun j hj => (h.jobs j hj).mono hgrows,fun i c hi => (h.calls i c hi).mono hgrows⟩
    intro a ha
    cases List.mem_append.mp ha with
    | inl hold => exact h.agents a hold
    | inr hnew =>
      rw [List.mem_singleton] at hnew
      exact ⟨code,by rw [hnew]⟩
  · refine h.kept (mapAgent_keeps _ ?_) rfl
    intro a hw hc
    exact ⟨hw.symm,hc.symm⟩

theorem System.Inv.act (h : s.Inv env) (a : Action) : (s.act env a).Inv env := by
  cases a with
  | start i ref actor request =>
    simp only [System.act]
    split
    · exact h
    · exact h.put (keeps_of_eq rfl rfl).grows h.printers h.agents h.jobs i _ trivial
  | advance i generated =>
    simp only [System.act]
    split
    · exact h
    · rename_i c hi
      split
      · exact h.put (keeps_of_eq rfl rfl).grows h.printers h.agents h.jobs i _ trivial
      · rename_i db p hstep
        obtain ⟨hwrite,hkeeps,hready⟩ := advanced hstep (h.calls i c hi)
        refine h.put hkeeps.grows (fun p hp => h.printers p (hkeeps.printers p hp)) ?_
          (hwrite.ok h.jobs (h.calls i c hi)) i _ hready
        intro a ha
        obtain ⟨b,hb,hcode⟩ := hkeeps.agents a ha
        obtain ⟨code,hnormal⟩ := h.agents b hb
        exact ⟨code,hcode.trans hnormal⟩
  | tick seconds => exact ⟨h.printers,h.agents,h.jobs,h.calls⟩
  | upsertPrinter w code => exact upsertPrinter_inv h w code
  | upsertPrintAgent w code token printerCodes metadata =>
    exact upsertPrintAgent_inv h w code token printerCodes metadata
  | labels templates layouts =>
    exact h.kept (show s.db.Keeps {s.db with templates, layouts} from keeps_of_eq rfl rfl) rfl

theorem System.Inv.run (h : s.Inv env) (as : List Action) : (s.run env as).Inv env := by
  induction as generalizing s with
  | nil => exact h
  | cons a as ih => exact ih (h.act a)

theorem inv_initial (env : Env) (places : OrderUpdates.Places) :
    (System.initial places).Inv env := by
  refine ⟨?_,?_,?_,?_⟩
  · intro p hp
    cases hp
  · intro a ha
    cases ha
  · intro j hj
    cases hj
  · intro i c hi
    cases hi

end Run
end AardvarkWms.PrintJobs
