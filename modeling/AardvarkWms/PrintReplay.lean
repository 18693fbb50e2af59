import AardvarkWms.PrintQueue
import Mathlib.Tactic.DeriveCountable
import Mathlib.Data.Rat.Encodable
import Mathlib.Data.Countable.Basic
import Mathlib.Logic.Equiv.List

/-! Idempotency keys of print requests: one job a key, and what a request finds that comes with a
key again. -/
namespace AardvarkWms.PrintJobs

open Messaging (Str trim)
open OrderUpdates (Uuid normalizeNullableString)
open Transactions.Txn (bind_eq_ok)

section Kept
variable {env : Env} {c : Call} {now : ℕ} {T T' T'' : Table PrintJob.id}

/-- What no statement changes in a job. -/
structure PrintJob.Same (j j' : PrintJob) : Prop where
  id : j'.id=j.id
  warehouseId : j'.warehouseId=j.warehouseId
  copies : j'.copies=j.copies
  idempotencyKey : j'.idempotencyKey=j.idempotencyKey
  requestHash : j'.requestHash=j.requestHash

theorem PrintJob.Same.refl (j : PrintJob) : j.Same j := ⟨rfl,rfl,rfl,rfl,rfl⟩

theorem PrintJob.Same.trans {j j' j'' : PrintJob} (h : j.Same j') (h' : j'.Same j'') : j.Same j'' :=
  ⟨h'.id.trans h.id,h'.warehouseId.trans h.warehouseId,h'.copies.trans h.copies,
    h'.idempotencyKey.trans h.idempotencyKey,h'.requestHash.trans h.requestHash⟩

/-- Jobs stay, with what does not change in them. -/
def JobsKept (T T' : Table PrintJob.id) : Prop :=
  ∀ id j, T.get? id=some j → ∃ j', T'.get? id=some j' ∧ j.Same j'

theorem JobsKept.refl (T : Table PrintJob.id) : JobsKept T T := fun _ j h => ⟨j,h,.refl j⟩

theorem JobsKept.trans (h : JobsKept T T') (h' : JobsKept T' T'') : JobsKept T T'' := by
  intro id j hj
  obtain ⟨k,hk,hjk⟩ := h id j hj
  obtain ⟨l,hl,hkl⟩ := h' id k hk
  exact ⟨l,hl,hjk.trans hkl⟩

theorem updated_kept (w : Uuid) (id : ℕ) {f : PrintJob → PrintJob} (hf : ∀ j, (f j).id=j.id)
    (hsame : ∀ j : PrintJob, j.Same (f j)) : JobsKept T (updated T w id f hf) := by
  intro id' j hj
  unfold updated
  rw [Table.get?_modifyWhere,hj,Option.map_some]
  refine ⟨_,rfl,?_⟩
  split
  · exact hsame j
  · exact .refl j

/-- At most one job of a warehouse has a key. -/
def KeysOnce (T : Table PrintJob.id) : Prop :=
  ∀ j∈T.rows, ∀ j'∈T.rows, j.warehouseId=j'.warehouseId → j.idempotencyKey≠none →
    j.idempotencyKey=j'.idempotencyKey → j=j'

theorem mem_updated_same {w : Uuid} {id : ℕ} {f : PrintJob → PrintJob} {hf : ∀ j, (f j).id=j.id}
    (hsame : ∀ j : PrintJob, j.Same (f j)) {j' : PrintJob} (h : j'∈(updated T w id f hf).rows) :
    ∃ j∈T.rows, j.Same j' := by
  cases mem_updated h with
  | inl hold => exact ⟨j',hold,.refl j'⟩
  | inr hnew =>
    obtain ⟨j,hj,_,_,rfl⟩ := hnew
    exact ⟨j,hj,hsame j⟩

theorem KeysOnce.updated (h : KeysOnce T) {w : Uuid} {id : ℕ} {f : PrintJob → PrintJob}
    {hf : ∀ j, (f j).id=j.id} (hsame : ∀ j : PrintJob, j.Same (f j)) : KeysOnce (updated T w id f hf) := by
  intro j hj j' hj' hw hkey hkeys
  obtain ⟨k,hk,hkj⟩ := mem_updated_same hsame hj
  obtain ⟨k',hk',hkj'⟩ := mem_updated_same hsame hj'
  have hsame' : k=k' := by
    refine h k hk k' hk' ?_ ?_ ?_
    · rw [← hkj.warehouseId,← hkj'.warehouseId]
      exact hw
    · rw [← hkj.idempotencyKey]
      exact hkey
    · rw [← hkj.idempotencyKey,← hkj'.idempotencyKey]
      exact hkeys
  refine Table.inj_of_nodup (PrintJobs.updated T w id f hf).nodup hj hj' ?_
  rw [hkj.id,hkj'.id,hsame']

theorem KeysOnce.insert (h : KeysOnce T) {job : PrintJob} (hid : T.get? job.id=none)
    (hfresh : ∀ key, job.idempotencyKey=some key →
      ∀ j∈T.rows, j.warehouseId=job.warehouseId → j.idempotencyKey≠some key) :
    KeysOnce (T.insert job) := by
  intro j hj j' hj' hw hkey hkeys
  rw [Table.rows_insert hid,List.mem_append,List.mem_singleton] at hj hj'
  obtain ⟨key,hsome⟩ := Option.ne_none_iff_exists'.mp hkey
  cases hj with
  | inl hold =>
    cases hj' with
    | inl hold' => exact h j hold j' hold' hw hkey hkeys
    | inr hnew' =>
      rw [hnew'] at hkeys hw
      exact (hfresh key (hkeys.symm.trans hsome) j hold hw hsome).elim
  | inr hnew =>
    cases hj' with
    | inl hold' =>
      rw [hnew] at hkeys hw hsome
      exact (hfresh key hsome j' hold' hw.symm (hkeys.symm.trans hsome)).elim
    | inr hnew' => rw [hnew,hnew']

theorem JobWrite.kept (hw : JobWrite c now T T') : JobsKept T T' ∧ (KeysOnce T → KeysOnce T') := by
  have hupdated : ∀ {w : Uuid} {id : ℕ} {f : PrintJob → PrintJob} (hf : ∀ j, (f j).id=j.id),
      (∀ j : PrintJob, j.Same (f j)) → JobsKept T (updated T w id f hf) ∧
        (KeysOnce T → KeysOnce (updated T w id f hf)) := by
    intro w id f hf hsame
    exact ⟨updated_kept w id hf hsame,fun h => h.updated hsame⟩
  cases hw with
  | none => exact ⟨.refl T,id⟩
  | insert job t hid hphase hjw hstatus hattempts hprinter hagent hfresh =>
    refine ⟨?_,fun h => h.insert hid hfresh⟩
    intro id j hj
    have hne : id≠job.id := by
      intro he
      rw [he,hid] at hj
      cases hj
    exact ⟨j,(Table.get?_insert_ne T hne).trans hj,.refl j⟩
  | claim agent ids claimed j => exact hupdated _ fun j => ⟨rfl,rfl,rfl,rfl,rfl⟩
  | retry t read => exact hupdated _ fun j => ⟨rfl,rfl,rfl,rfl,rfl⟩
  | cancel t read reason => exact hupdated _ fun j => ⟨rfl,rfl,rfl,rfl,rfl⟩
  | reassign t read j => exact hupdated _ fun j => ⟨rfl,rfl,rfl,rfl,rfl⟩
  | report agent read j => exact hupdated _ fun j => ⟨rfl,rfl,rfl,rfl,rfl⟩

variable {s : System}

theorem System.Inv.kept_act (h : s.Inv env) (a : Action) :
    JobsKept s.db.jobs (s.act env a).db.jobs ∧
      (KeysOnce s.db.jobs → KeysOnce (s.act env a).db.jobs) := by
  cases h.jobs_act a with
  | inl hsame =>
    rw [hsame]
    exact ⟨.refl _,id⟩
  | inr hwrite =>
    obtain ⟨i,generated,c,_,_,hw,_⟩ := hwrite
    exact hw.kept

theorem System.Inv.kept_run (as : List Action) : ∀ {s : System}, s.Inv env →
    JobsKept s.db.jobs (s.run env as).db.jobs ∧
      (KeysOnce s.db.jobs → KeysOnce (s.run env as).db.jobs) := by
  induction as with
  | nil => exact fun _ => ⟨.refl _,id⟩
  | cons a as ih =>
    intro s h
    obtain ⟨hkept,honce⟩ := h.kept_act a
    obtain ⟨hkept',honce'⟩ := ih (h.act a)
    exact ⟨hkept.trans hkept',fun hk => honce' (honce hk)⟩

end Kept

section Content

/-- What a call is about to insert: warehouse, key and what its request is hashed from. -/
def Call.content (c : Call) : Option (Uuid × Str × RequestKey) :=
  match c.phase, c.request with
  | .insert t zpl, .create dto => (normalizeNullableString dto.idempotencyKey).map fun key =>
      (t.warehouseId,key,createKey t.warehouseId t dto zpl c.actorUserId)
  | .insertReprint t source, .reprint _ dto => (normalizeNullableString dto.idempotencyKey).map
      fun key => (t.warehouseId,key,reprintKey t source dto c.actorUserId)
  | _, _ => none

def findStoredLayout (db : LabelsDb) (warehouseId : Uuid) (templateCode : Str) :
    Option LabelTemplateVersion :=
  ((db.layouts.filter fun l => l.warehouseId=warehouseId && l.templateCode=templateCode &&
    l.isActive).insertionSort fun a b => b.version≤a.version).head?

variable (env : Env) (db : LabelsDb)

def findTemplate (warehouseId : Uuid) (templateCode : Str) : Option LabelTemplate :=
  db.templates.find? fun x => x.warehouseId=warehouseId && OrderUpdates.Runtime.referenceWhere
    (normalizeCode env templateCode) templateCode x.id x.code

def resolveTemplate (warehouseId : Uuid) (templateCode : Str) : Except LabelsError LabelTemplate :=
  match findTemplate env db warehouseId templateCode with
  | none => throw (.notFound "Label template was not found".toList)
  | some template =>
    if !template.isActive then throw (.conflict "Label template is inactive".toList)
    else pure template

/-- The label text, read at once. -/
def resolveRuntimeZpl (warehouseId : Uuid) (dto : CreateRuntimePrintJobDto) :
    Except LabelsError Str :=
  match dto.renderedZpl.filter (fun zpl => trim zpl≠[]), dto.layout,
      normalizeNullableString dto.templateCode with
  | some zpl, _, _ => ensureQueueableZpl env (trim zpl) []
  | none, some layout, _ => renderLayout env (env.normalizeLabelLayout layout) dto
  | none, none, none => renderLayout env env.defaultLabelLayout dto
  | none, none, some templateCode =>
    match findStoredLayout db warehouseId templateCode with
    | some row => renderLayout env (env.normalizeLabelLayout row.layout) dto
    | none => do
      let template ← resolveTemplate env db warehouseId templateCode
      if ['^','X','A'].isPrefixOf (trim template.content) then
        ensureQueueableZpl env (env.renderContentTemplate template.content
          (dto.payload.getD (.object []))) []
      else renderLayout env env.defaultLabelLayout dto

/-- No agent is named, or it may still serve the printer. -/
def Target.AgentServes (t : Target) : Prop :=
  ∀ code, nullIfEmpty t.agentCode=some code → ∀ agent, db.agentOf t.warehouseId code=some agent →
    canServePrinter env agent t.printerCode=true

/-- The request would come to the same content again: its agent may still serve its printer, and its
label text, or the printer and the agent of the job to print again, are what they were. -/
def Call.StillResolves (c : Call) : Prop :=
  match c.phase, c.request with
  | .insert t zpl, .create dto =>
    t.AgentServes env db ∧ resolveRuntimeZpl env db t.warehouseId dto=.ok zpl
  | .insertReprint t source, .reprint _ dto =>
    t.AgentServes env db ∧ ∃ job, db.jobs.get? source.id=some job ∧
      (normalizeNullableString dto.printerCode).or job.printerCode=
        (normalizeNullableString dto.printerCode).or source.printerCode ∧
      (normalizeNullableString dto.agentCode).or job.agentCode=
        (normalizeNullableString dto.agentCode).or source.agentCode
  | _, _ => False

end Content

section Traced
variable {env : Env} {now generated : ℕ} {db db' : LabelsDb} {request : Request}
  {t : Target} {p : Phase}

/-- The target that a phase carries. -/
def Phase.Targets (t : Target) : Phase → Prop
  | .printer t' | .agent t' | .layout t' _ | .template t' _ | .insert t' _ | .update t' _ => t'=t
  | .insertReprint t' source => t'=t ∧ t.job=some source
  | _ => False

theorem toZpl_targets {dto : CreateRuntimePrintJobDto} (h : toZpl env t dto=.ok p) : p.Targets t := by
  unfold toZpl at h
  split at h
  · obtain ⟨zpl,_,h⟩ := bind_eq_ok h
    cases h
    exact rfl
  · obtain ⟨zpl,_,h⟩ := bind_eq_ok h
    cases h
    exact rfl
  · cases h
    exact rfl
  · obtain ⟨zpl,_,h⟩ := bind_eq_ok h
    cases h
    exact rfl

theorem toWrite_targets (h : toWrite env request t=.ok p) : p.Targets t := by
  unfold toWrite at h
  split at h
  · exact toZpl_targets h
  · rename_i hjob
    cases h
    exact ⟨rfl,hjob⟩
  · cases h
    exact rfl
  · cases h

theorem toAgent_targets (h : toAgent env request t=.ok p) : p.Targets t := by
  unfold toAgent at h
  split at h
  · exact toWrite_targets h
  · cases h
    exact rfl

theorem toPrinter_targets (h : toPrinter env request t=.ok p) : p.Targets t := by
  unfold toPrinter at h
  split at h
  · exact toAgent_targets h
  · cases h
    exact rfl

/-- Where a target comes from: the warehouse and the request, and the job row that was read. -/
structure Target.Of (t : Target) (env : Env) (db : LabelsDb) (reference : Str) (request : Request) :
    Prop where
  warehouse : ∃ warehouse, env.runtime.resolveWarehouse db.places reference=.ok warehouse ∧
    t.warehouseId=warehouse.id
  create : ∀ dto, request=.create dto → t.printerCode=normalizeNullableString dto.printerCode ∧
    t.agentCode=normalizeNullableString dto.agentCode
  reprint : ∀ jobId dto, request=.reprint jobId dto → ∀ source, t.job=some source →
    source.id=jobId ∧ (∃ job, db.jobs.get? jobId=some job ∧ source.Same job) ∧
      source.warehouseId=t.warehouseId ∧
      t.printerCode=(normalizeNullableString dto.printerCode).or source.printerCode ∧
      t.agentCode=(normalizeNullableString dto.agentCode).or source.agentCode

def Phase.Traced (env : Env) (db : LabelsDb) (reference : Str) (request : Request) : Phase → Prop
  | .job w => ∃ warehouse, env.runtime.resolveWarehouse db.places reference=.ok warehouse ∧
      w=warehouse.id
  | .printer t | .agent t | .layout t _ | .template t _ | .insert t _ =>
    t.Of env db reference request
  | .insertReprint t source => t.Of env db reference request ∧ t.job=some source
  | _ => True

theorem Phase.Targets.traced {reference : Str} (h : p.Targets t)
    (ht : t.Of env db reference request) : p.Traced env db reference request := by
  cases p with
  | printer t' => exact (show t'=t from h) ▸ ht
  | agent t' => exact (show t'=t from h) ▸ ht
  | layout t' code => exact (show t'=t from h) ▸ ht
  | template t' code => exact (show t'=t from h) ▸ ht
  | insert t' zpl => exact (show t'=t from h) ▸ ht
  | insertReprint t' source =>
    obtain ⟨rfl,hjob⟩ := h
    exact ⟨ht,hjob⟩
  | job w => exact h.elim
  | _ => trivial

theorem Target.Of.mono {reference : Str} (h : t.Of env db reference request)
    (hplaces : db'.places=db.places) (hkept : JobsKept db.jobs db'.jobs) :
    t.Of env db' reference request := by
  refine ⟨hplaces ▸ h.warehouse,h.create,?_⟩
  intro jobId dto hr source hsource
  obtain ⟨hid,hjob,hrest⟩ := h.reprint jobId dto hr source hsource
  obtain ⟨job,hget,hsame⟩ := hjob
  obtain ⟨job',hget',hsame'⟩ := hkept jobId job hget
  exact ⟨hid,⟨job',hget',hsame.trans hsame'⟩,hrest⟩

theorem Phase.Traced.mono {reference : Str} (h : p.Traced env db reference request)
    (hplaces : db'.places=db.places) (hkept : JobsKept db.jobs db'.jobs) :
    p.Traced env db' reference request := by
  cases p with
  | job w =>
    obtain ⟨warehouse,hwarehouse,hw⟩ := h
    exact ⟨warehouse,hplaces ▸ hwarehouse,hw⟩
  | printer t => exact Target.Of.mono h hplaces hkept
  | agent t => exact Target.Of.mono h hplaces hkept
  | layout t code => exact Target.Of.mono h hplaces hkept
  | template t code => exact Target.Of.mono h hplaces hkept
  | insert t zpl => exact Target.Of.mono h hplaces hkept
  | insertReprint t source => exact ⟨h.1.mono hplaces hkept,h.2⟩
  | _ => trivial

theorem insertJob_traced {ref : Str} {job : PrintJob} (h : insertJob db job=.ok (db',p)) :
    p.Traced env db' ref request ∧ db'.places=db.places := by
  unfold insertJob at h
  split at h
  · split at h
    · cases h
      exact ⟨trivial,rfl⟩
    · split at h
      · cases h
      · cases h
        exact ⟨trivial,rfl⟩
  · split at h
    · cases h
    · cases h
      exact ⟨trivial,rfl⟩

theorem checkAgent_traced {ref : Str} {agent : Option PrintAgent} {token : Str}
    (h : checkAgent env now agent token=.ok p) : p.Traced env db ref request := by
  unfold checkAgent at h
  split at h
  · cases h
  · split at h
    · cases h
    · split at h
      · cases h
      · split at h
        · cases h
          trivial
        · split at h
          · cases h
            trivial
          · cases h
            trivial

theorem afterWarehouse_traced {ref : Str} {warehouse : OrderUpdates.Warehouse}
    (hw : env.runtime.resolveWarehouse db.places ref=.ok warehouse)
    (h : afterWarehouse env request warehouse.id=.ok p) : p.Traced env db ref request := by
  cases request with
  | create dto =>
    refine (toPrinter_targets h).traced ⟨⟨warehouse,hw,rfl⟩,?_,?_⟩
    · intro dto' hr
      cases hr
      exact ⟨rfl,rfl⟩
    · intro jobId dto' hr
      cases hr
  | claim dto => cases h; trivial
  | report jobId dto => cases h; trivial
  | _ => cases h; exact ⟨warehouse,hw,rfl⟩

theorem afterJob_traced {ref : Str} {w : Uuid} {job : PrintJob}
    (hw : ∃ warehouse, env.runtime.resolveWarehouse db.places ref=.ok warehouse ∧ w=warehouse.id)
    (hjob : db.resolveRuntimePrintJobRow w (request.jobId.getD 0)=.ok job)
    (h : afterJob env request w job=.ok p) : p.Traced env db ref request := by
  obtain ⟨hget,hjw⟩ : db.jobs.get? (request.jobId.getD 0)=some job ∧ job.warehouseId=w := by
    unfold LabelsDb.resolveRuntimePrintJobRow at hjob
    cases hof : db.jobOf w (request.jobId.getD 0) with
    | none =>
      rw [hof] at hjob
      cases hjob
    | some j =>
      rw [hof] at hjob
      cases hjob
      exact jobOf_some hof
  unfold afterJob at h
  split at h
  · split at h
    · cases h
    · refine (toPrinter_targets h).traced ⟨hw,?_,?_⟩
      · intro dto' hr
        cases hr
      · intro jobId' dto' hr
        cases hr
  · split at h
    · cases h
    · cases h
      trivial
  · split at h
    · cases h
    · refine (toPrinter_targets h).traced ⟨hw,?_,?_⟩
      · intro dto' hr
        cases hr
      · intro jobId' dto' hr
        cases hr
  · refine (toPrinter_targets h).traced ⟨hw,?_,?_⟩
    · intro dto' hr
      cases hr
    · intro jobId' dto' hr source hsource
      cases hr
      cases hsource
      exact ⟨Table.key_of_get? hget,⟨_,hget,.refl _⟩,hjw,rfl,rfl⟩
  · cases h
    trivial

theorem advance_traced {ref : Str} {actor : ℕ} {phase : Phase}
    (h : PrintJobs.advance env now generated db ⟨ref,actor,request,phase⟩=.ok (db',p))
    (ht : phase.Traced env db ref request) :
    p.Traced env db' ref request ∧ db'.places=db.places := by
  cases phase with
  | warehouse =>
    obtain ⟨warehouse,hw,h⟩ := bind_eq_ok h
    obtain ⟨next,hnext,h⟩ := bind_eq_ok h
    cases h
    refine ⟨afterWarehouse_traced ?_ hnext,rfl⟩
    cases hr : env.runtime.resolveWarehouse db.places ref with
    | error e =>
      rw [hr] at hw
      cases hw
    | ok x =>
      rw [hr] at hw
      cases hw
      rfl
  | job w =>
    obtain ⟨job,hjob,h⟩ := bind_eq_ok h
    obtain ⟨next,hnext,h⟩ := bind_eq_ok h
    cases h
    exact ⟨afterJob_traced ht hjob hnext,rfl⟩
  | printer t =>
    simp only [PrintJobs.advance] at h
    split at h
    · split at h
      · obtain ⟨next,hnext,h⟩ := bind_eq_ok h
        cases h
        exact ⟨(toAgent_targets hnext).traced ht,rfl⟩
      · cases h
    · cases h
  | agent t =>
    simp only [PrintJobs.advance] at h
    split at h
    · split at h
      · cases h
      · split at h
        · obtain ⟨next,hnext,h⟩ := bind_eq_ok h
          cases h
          exact ⟨(toWrite_targets hnext).traced ht,rfl⟩
        · cases h
    · cases h
  | layout t templateCode =>
    cases request with
    | create dto =>
      simp only [PrintJobs.advance] at h
      split at h
      · obtain ⟨zpl,_,h⟩ := bind_eq_ok h
        cases h
        exact ⟨ht,rfl⟩
      · cases h
        exact ⟨ht,rfl⟩
    | _ => cases h; exact ⟨ht,rfl⟩
  | template t templateCode =>
    cases request with
    | create dto =>
      simp only [PrintJobs.advance] at h
      split at h
      · cases h
      · split at h
        · cases h
        · split at h
          · obtain ⟨zpl,_,h⟩ := bind_eq_ok h
            cases h
            exact ⟨ht,rfl⟩
          · obtain ⟨zpl,_,h⟩ := bind_eq_ok h
            cases h
            exact ⟨ht,rfl⟩
    | _ => cases h; exact ⟨ht,rfl⟩
  | insert t zpl =>
    cases request with
    | create dto => exact insertJob_traced h
    | _ => cases h; exact ⟨ht,rfl⟩
  | insertReprint t source =>
    cases request with
    | reprint jobId dto => exact insertJob_traced h
    | _ => cases h; exact ⟨ht,rfl⟩
  | replay w key hash =>
    simp only [PrintJobs.advance] at h
    split at h
    · cases h
    · split at h
      · cases h
      · cases h
        exact ⟨trivial,rfl⟩
  | update t read =>
    cases request with
    | retry jobId dto =>
      obtain ⟨rfl,r,rfl⟩ := afterUpdate_db h
      exact ⟨trivial,rfl⟩
    | cancel jobId metadata =>
      obtain ⟨rfl,r,rfl⟩ := afterUpdate_db h
      exact ⟨trivial,rfl⟩
    | reassign jobId dto =>
      simp only [PrintJobs.advance] at h
      split at h
      · cases h
      · cases h
        exact ⟨trivial,rfl⟩
    | _ => cases h; exact ⟨ht,rfl⟩
  | token w =>
    cases request with
    | claim dto =>
      obtain ⟨next,hnext,h⟩ := bind_eq_ok h
      cases h
      exact ⟨checkAgent_traced hnext,rfl⟩
    | report jobId dto =>
      obtain ⟨next,hnext,h⟩ := bind_eq_ok h
      cases h
      exact ⟨checkAgent_traced hnext,rfl⟩
    | _ => cases h; exact ⟨ht,rfl⟩
  | tokenFailure agent => cases h; exact ⟨trivial,rfl⟩
  | clearTokenFailures agent => cases h; exact ⟨trivial,rfl⟩
  | heartbeat agent => cases request <;> cases h <;> exact ⟨trivial,rfl⟩
  | select agent => cases request <;> cases h <;> exact ⟨trivial,rfl⟩
  | claim agent ids claimed =>
    cases ids with
    | nil => cases h; exact ⟨trivial,rfl⟩
    | cons id ids =>
      cases h
      refine ⟨trivial,?_⟩
      split
      · rfl
      · rfl
  | current agent =>
    cases request with
    | report jobId dto =>
      obtain ⟨job,_,h⟩ := bind_eq_ok h
      split at h
      · cases h
      · split at h
        · cases h
        · split at h
          · cases h
            exact ⟨trivial,rfl⟩
          · cases h
            exact ⟨trivial,rfl⟩
    | _ => cases h; exact ⟨ht,rfl⟩
  | result agent read =>
    cases request with
    | report jobId dto =>
      simp only [PrintJobs.advance] at h
      split at h
      · cases h
        exact ⟨trivial,rfl⟩
      · cases h
        exact ⟨trivial,rfl⟩
    | _ => cases h; exact ⟨ht,rfl⟩
  | latest agent =>
    cases request with
    | report jobId dto =>
      obtain ⟨job,_,h⟩ := bind_eq_ok h
      split at h
      · cases h
        exact ⟨trivial,rfl⟩
      · cases h
    | _ => cases h; exact ⟨ht,rfl⟩
  | ended r => cases request <;> cases h <;> exact ⟨trivial,rfl⟩

end Traced

section Run
variable {env : Env} {s : System}

/-- The invariant of keyed requests. -/
structure System.Keyed (env : Env) (s : System) : Prop where
  inv : s.Inv env
  once : KeysOnce s.db.jobs
  traced : ∀ i c, s.call i=some c → c.phase.Traced env s.db c.warehouseReference c.request

theorem upsertPrinter_places (db : LabelsDb) (w : Uuid) (code : Str) :
    (upsertPrinter env db w code).places=db.places := by
  unfold upsertPrinter
  split
  · rfl
  · rfl

theorem upsertPrintAgent_places (db : LabelsDb) (w : Uuid) (code token : Str)
    (printerCodes : Option (List Str)) (metadata : Option Json) :
    (upsertPrintAgent env db w code token printerCodes metadata).places=db.places := by
  unfold upsertPrintAgent
  simp only
  split
  · rfl
  · rfl

theorem traced_put {db : LabelsDb} {i : ℕ} {c : Call}
    (h : ∀ k d, s.call k=some d → d.phase.Traced env s.db d.warehouseReference d.request)
    (hplaces : db.places=s.db.places) (hkept : JobsKept s.db.jobs db.jobs)
    (hc : c.phase.Traced env db c.warehouseReference c.request) :
    ∀ k d, (s.put db i c).call k=some d → d.phase.Traced env db d.warehouseReference d.request := by
  intro k d hd
  by_cases hk : k=i
  · subst hk
    simp only [System.put,Function.update_self,Option.some.injEq] at hd
    subst hd
    exact hc
  · simp only [System.put,Function.update_of_ne hk] at hd
    exact (h k d hd).mono hplaces hkept

theorem System.Keyed.act (h : s.Keyed env) (a : Action) : (s.act env a).Keyed env := by
  obtain ⟨hkept,honce⟩ := h.inv.kept_act a
  refine ⟨h.inv.act a,honce h.once,?_⟩
  cases a with
  | start i ref actor request =>
    simp only [System.act]
    split
    · exact h.traced
    · exact traced_put h.traced rfl (.refl _) trivial
  | advance i generated =>
    cases hi : s.call i with
    | none =>
      simp only [System.act,hi]
      exact h.traced
    | some c =>
      cases hstep : PrintJobs.advance env s.now generated s.db c with
      | error e =>
        simp only [System.act,hi,hstep]
        exact traced_put h.traced rfl (.refl _) trivial
      | ok r =>
        obtain ⟨db,p⟩ := r
        simp only [System.act,hi,hstep] at hkept ⊢
        obtain ⟨htraced,hplaces⟩ := advance_traced hstep (h.traced i c hi)
        exact traced_put h.traced hplaces hkept htraced
  | tick seconds => exact h.traced
  | upsertPrinter w code =>
    intro i c hi
    exact (h.traced i c hi).mono (upsertPrinter_places _ w code) hkept
  | upsertPrintAgent w code token printerCodes metadata =>
    intro i c hi
    exact (h.traced i c hi).mono (upsertPrintAgent_places _ w code token printerCodes metadata) hkept
  | labels templates layouts =>
    intro i c hi
    exact (h.traced i c hi).mono rfl hkept

theorem System.Keyed.run (as : List Action) : ∀ {s : System}, s.Keyed env → (s.run env as).Keyed env := by
  induction as with
  | nil => exact fun h => h
  | cons a as ih => exact fun h => ih (h.act a)

theorem keyed_initial (env : Env) (places : OrderUpdates.Places) :
    (System.initial places).Keyed env := by
  refine ⟨inv_initial env places,?_,?_⟩
  · intro j hj
    cases hj
  · intro i c hi
    cases hi

theorem places_act (a : Action) (h : s.Keyed env) : (s.act env a).db.places=s.db.places := by
  cases a with
  | start i ref actor request =>
    simp only [System.act]
    split
    · rfl
    · rfl
  | advance i generated =>
    cases hi : s.call i with
    | none => simp only [System.act,hi]
    | some c =>
      cases hstep : PrintJobs.advance env s.now generated s.db c with
      | error e =>
        simp only [System.act,hi,hstep]
        rfl
      | ok r =>
        simp only [System.act,hi,hstep]
        exact (advance_traced hstep (h.traced i c hi)).2
  | tick seconds => rfl
  | upsertPrinter w code => exact upsertPrinter_places _ w code
  | upsertPrintAgent w code token printerCodes metadata =>
    exact upsertPrintAgent_places _ w code token printerCodes metadata
  | labels templates layouts => rfl

theorem places_run (as : List Action) : ∀ {s : System}, s.Keyed env →
    (s.run env as).db.places=s.db.places := by
  induction as with
  | nil => exact fun _ => rfl
  | cons a as ih => exact fun h => (ih (h.act a)).trans (places_act a h)

theorem System.Inv.extends_act (h : s.Inv env) (a : Action) : s.db.Extends (s.act env a).db := by
  have hsame : ∀ {db : LabelsDb}, db.printers=s.db.printers → db.agents=s.db.agents →
      s.db.Extends db := fun hp ha => (LabelsDb.keeps_of_eq hp ha).grows
  cases a with
  | start i ref actor request =>
    simp only [System.act]
    split
    · exact hsame rfl rfl
    · exact hsame rfl rfl
  | advance i generated =>
    cases hi : s.call i with
    | none =>
      simp only [System.act,hi]
      exact hsame rfl rfl
    | some c =>
      cases hstep : PrintJobs.advance env s.now generated s.db c with
      | error e =>
        simp only [System.act,hi,hstep]
        exact hsame rfl rfl
      | ok r =>
        simp only [System.act,hi,hstep]
        exact (advanced hstep (h.calls i c hi)).keeps.grows
  | tick seconds => exact hsame rfl rfl
  | upsertPrinter w code =>
    refine ⟨?_,?_⟩
    · intro w' code' hp
      obtain ⟨p,hp,hpok⟩ := hp
      simp only [System.act,upsertPrinter]
      split
      · exact ⟨p,hp,hpok⟩
      · exact ⟨p,List.mem_append_left _ hp,hpok⟩
    · intro w' code' ha
      obtain ⟨a,ha,haok⟩ := ha
      simp only [System.act,upsertPrinter]
      split
      · exact ⟨a,ha,haok⟩
      · exact ⟨a,ha,haok⟩
  | upsertPrintAgent w code token printerCodes metadata =>
    simp only [System.act,upsertPrintAgent]
    split
    · refine ⟨fun _ _ hp => hp,?_⟩
      intro w' code' ha
      obtain ⟨a,ha,haok⟩ := ha
      exact ⟨a,List.mem_append_left _ ha,haok⟩
    · refine (mapAgent_keeps _ ?_).grows
      intro a hw hc
      exact ⟨hw.symm,hc.symm⟩
  | labels templates layouts => exact hsame rfl rfl

theorem System.Inv.extends_run (as : List Action) : ∀ {s : System}, s.Inv env →
    s.db.Extends (s.run env as).db := by
  induction as with
  | nil => exact fun _ => ⟨fun _ _ h => h,fun _ _ h => h⟩
  | cons a as ih =>
    intro s h
    have hone := h.extends_act a
    have hrest := ih (h.act a)
    exact ⟨fun w code hp => hrest.1 w code (hone.1 w code hp),
      fun w code ha => hrest.2 w code (hone.2 w code ha)⟩

end Run

section Alone
variable {env : Env} {s : System} {k g n n' : ℕ} {c : Call} {x : Except LabelsError Phase}
  {p : Phase} {job : PrintJob} {P Q : Prop}

/-- Call `k` has come this far, or has failed. -/
def System.comeTo (s : System) (k : ℕ) (c : Call) : Except LabelsError Phase → System
  | .error e => s.put s.db k {c with phase := .ended (.error e)}
  | .ok p => s.put s.db k {c with phase := p}

/-- Left alone for `n` statements or more, the call ends, and with this job exactly where `P` holds. -/
def Answers (env : Env) (s : System) (k g : ℕ) (c : Call) (x : Except LabelsError Phase) (n : ℕ)
    (job : PrintJob) (P : Prop) : Prop :=
  ∀ m, n ≤ m → ∃ r, ((s.comeTo k c x).run env (List.replicate m (.advance k g))).call k=
    some {c with phase := .ended r} ∧ (r=.ok [job] ↔ P)

theorem put_put (db : LabelsDb) (c d : Call) : (s.put s.db k c).put db k d=s.put db k d := by
  simp [System.put]

theorem act_comeTo (h : PrintJobs.advance env s.now g s.db {c with phase := p}=x.map fun q => (s.db,q)) :
    (s.comeTo k c (.ok p)).act env (.advance k g)=s.comeTo k c x := by
  have hcall : (s.comeTo k c (.ok p)).call k=some {c with phase := p} := Function.update_self _ _ _
  simp only [System.act,hcall]
  have hnow : PrintJobs.advance env (s.comeTo k c (.ok p)).now g (s.comeTo k c (.ok p)).db
      {c with phase := p}=x.map fun q => (s.db,q) := h
  rw [hnow]
  cases x with
  | error e => exact put_put _ _ _
  | ok q => exact put_put _ _ _

theorem Answers.step (h : PrintJobs.advance env s.now g s.db {c with phase := p}=
    x.map fun q => (s.db,q)) (hx : Answers env s k g c x n job P) :
    Answers env s k g c (.ok p) (n+1) job P := by
  intro m hm
  obtain ⟨m,rfl⟩ : ∃ m', m=m'+1 := ⟨m-1,by omega⟩
  rw [List.replicate_succ]
  show ∃ r, (((s.comeTo k c (.ok p)).act env (.advance k g)).run env _).call k=_ ∧ _
  rw [act_comeTo h]
  exact hx m (by omega)

theorem answers_ended (r : Except LabelsError (List PrintJob)) :
    Answers env s k g c (.ok (.ended r)) 0 job (r=.ok [job]) := by
  intro m hm
  clear hm
  refine ⟨r,?_,Iff.rfl⟩
  induction m with
  | zero => exact Function.update_self _ _ _
  | succ m ih =>
    rw [List.replicate_succ]
    show (((s.comeTo k c (.ok (.ended r))).act env (.advance k g)).run env _).call k=_
    have hsame : (s.comeTo k c (.ok (.ended r))).act env (.advance k g)=s.comeTo k c (.ok (.ended r)) := by
      refine act_comeTo ?_
      cases c.request <;> rfl
    rw [hsame]
    exact ih

theorem answers_error (e : LabelsError) : Answers env s k g c (.error e) 0 job False := by
  intro m hm
  obtain ⟨r,hr,hiff⟩ := answers_ended (.error e) m hm
  refine ⟨r,hr,hiff.trans ?_⟩
  simp

theorem Answers.mono (h : Answers env s k g c x n job P) (hn : n≤n') :
    Answers env s k g c x n' job P := fun m hm => h m (hn.trans hm)

theorem Answers.congr (h : Answers env s k g c x n job P) (hiff : P ↔ Q) :
    Answers env s k g c x n job Q := by
  intro m hm
  obtain ⟨r,hr,hjob⟩ := h m hm
  exact ⟨r,hr,hjob.trans hiff⟩

/-- The content of a keyed request, as it would be stored. -/
structure Stands (db : LabelsDb) (job : PrintJob) (w : Uuid) (key : Str) : Prop where
  mem : job∈db.jobs.rows
  once : KeysOnce db.jobs
  warehouseId : job.warehouseId=w
  idempotencyKey : job.idempotencyKey=some key

theorem Stands.jobByKey {db : LabelsDb} {w : Uuid} {key : Str} (h : Stands db job w key) :
    db.jobByKey w key=some job := by
  cases hfound : db.jobByKey w key with
  | none =>
    have hnone := List.find?_eq_none.mp hfound job h.mem
    simp [h.warehouseId,h.idempotencyKey] at hnone
  | some j =>
    have hj := List.find?_some hfound
    simp only [Bool.and_eq_true,decide_eq_true_eq] at hj
    have hsame := h.once j (List.mem_of_find?_eq_some hfound) job h.mem
      (hj.1.trans h.warehouseId.symm) (by simp [hj.2]) (hj.2.trans h.idempotencyKey.symm)
    rw [hsame]

theorem insertJob_again {db : LabelsDb} {new : PrintJob} {key hash : Str}
    (h : Stands db job new.warehouseId key) (hkey : new.idempotencyKey=some key)
    (hhash : new.requestHash=some hash) :
    insertJob db new=.ok (db,.replay new.warehouseId key hash) := by
  unfold insertJob
  rw [hkey,hhash]
  simp only [h.jobByKey,ne_eq,reduceCtorEq,not_false_eq_true,if_true]
  rfl

theorem answers_replay {w : Uuid} {key hash : Str} (h : Stands s.db job w key) :
    Answers env s k g c (.ok (.replay w key hash)) 1 job (job.requestHash=some hash) := by
  by_cases hsame : job.requestHash=some hash
  · refine ((answers_ended (.ok [job])).step ?_).congr (by simp [hsame])
    simp only [PrintJobs.advance,h.jobByKey,hsame,ne_eq,not_true,if_false]
    rfl
  · refine ((answers_error (.conflict
      "Idempotency key was reused with a different runtime print request".toList)).step ?_).congr
      (by simp [hsame])
    simp only [PrintJobs.advance,h.jobByKey,ne_eq,hsame,not_false_eq_true,if_true]
    rfl

theorem answers_insert {new : PrintJob} {key hash : Str} (h : Stands s.db job new.warehouseId key)
    (hkey : new.idempotencyKey=some key) (hhash : new.requestHash=some hash)
    (hstep : PrintJobs.advance env s.now g s.db {c with phase := p}=insertJob s.db new) :
    Answers env s k g c (.ok p) 2 job (job.requestHash=some hash) := by
  refine (answers_replay h).step ?_
  rw [hstep,insertJob_again h hkey hhash]
  rfl

variable {t : Target} {key : Str} {actor : ℕ} {ref : Str}

theorem answers_text {dto : CreateRuntimePrintJobDto}
    (h : Stands s.db job t.warehouseId key) (hkey : normalizeNullableString dto.idempotencyKey=some key)
    (zpl : Except LabelsError Str) :
    Answers env s k g ⟨ref,actor,.create dto,.warehouse⟩ (zpl.map fun zpl => .insert t zpl) 2 job
      (∃ text, zpl=.ok text ∧
        job.requestHash=some (env.hashRequest (createKey t.warehouseId t dto text actor))) := by
  cases zpl with
  | error e => exact ((answers_error e).mono (Nat.zero_le 2)).congr (by simp)
  | ok text =>
    have hstored : (createdJob env g s.now actor t dto text).idempotencyKey=some key := hkey
    have hhash : (createdJob env g s.now actor t dto text).requestHash=
        some (env.hashRequest (createKey t.warehouseId t dto text actor)) := by
      simp [createdJob,hkey]
    exact (answers_insert h hstored hhash rfl).congr (by simp)

theorem answers_template {dto : CreateRuntimePrintJobDto} (h : Stands s.db job t.warehouseId key)
    (hkey : normalizeNullableString dto.idempotencyKey=some key) (templateCode : Str) :
    Answers env s k g ⟨ref,actor,.create dto,.warehouse⟩ (.ok (.template t templateCode)) 3 job
      (∃ text, (do
        let template ← resolveTemplate env s.db t.warehouseId templateCode
        if ['^','X','A'].isPrefixOf (trim template.content) then
          ensureQueueableZpl env (env.renderContentTemplate template.content
            (dto.payload.getD (.object []))) []
        else renderLayout env env.defaultLabelLayout dto)=.ok text ∧
        job.requestHash=some (env.hashRequest (createKey t.warehouseId t dto text actor))) := by
  refine (answers_text h hkey _).step ?_
  unfold resolveTemplate
  cases hfound : findTemplate env s.db t.warehouseId templateCode with
  | none =>
    unfold findTemplate at hfound
    simp only [PrintJobs.advance,hfound]
    rfl
  | some template =>
    unfold findTemplate at hfound
    simp only [PrintJobs.advance,hfound]
    cases hactive : template.isActive with
    | false => rfl
    | true =>
      simp only [Bool.not_true,Bool.false_eq_true,if_false]
      show _=Except.map _ (Except.map _ (if _ then _ else _))
      split
      · cases ensureQueueableZpl env (env.renderContentTemplate template.content
          (dto.payload.getD (.object []))) [] with
        | error e => rfl
        | ok text => rfl
      · cases renderLayout env env.defaultLabelLayout dto with
        | error e => rfl
        | ok text => rfl

theorem answers_toZpl {dto : CreateRuntimePrintJobDto} (h : Stands s.db job t.warehouseId key)
    (hkey : normalizeNullableString dto.idempotencyKey=some key) :
    Answers env s k g ⟨ref,actor,.create dto,.warehouse⟩ (toZpl env t dto) 4 job
      (∃ text, resolveRuntimeZpl env s.db t.warehouseId dto=.ok text ∧
        job.requestHash=some (env.hashRequest (createKey t.warehouseId t dto text actor))) := by
  have hmap : ∀ zpl : Except LabelsError Str, (do
      let zpl ← zpl
      pure (Phase.insert t zpl) : Except LabelsError Phase)=zpl.map fun zpl => .insert t zpl := by
    intro zpl
    cases zpl with
    | error e => rfl
    | ok text => rfl
  unfold toZpl resolveRuntimeZpl
  cases hzpl : dto.renderedZpl.filter (fun zpl => trim zpl≠[]) with
  | some zpl =>
    simp only [hmap]
    exact (answers_text h hkey _).mono (by omega)
  | none =>
    cases hlayout : dto.layout with
    | some layout =>
      simp only [hmap]
      exact (answers_text h hkey _).mono (by omega)
    | none =>
      cases hcode : normalizeNullableString dto.templateCode with
      | none =>
        simp only [hmap]
        exact (answers_text h hkey _).mono (by omega)
      | some templateCode =>
        simp only
        cases hstored : findStoredLayout s.db t.warehouseId templateCode with
        | none =>
          refine (answers_template h hkey templateCode).step ?_
          unfold findStoredLayout at hstored
          simp only [PrintJobs.advance,hstored]
          rfl
        | some row =>
          refine ((answers_text h hkey _).step ?_).mono (by omega)
          unfold findStoredLayout at hstored
          simp only [PrintJobs.advance,hstored]
          cases renderLayout env (env.normalizeLabelLayout row.layout) dto with
          | error e => rfl
          | ok text => rfl

theorem answers_toAgent {request : Request} (hagent : t.AgentOk s.db)
    (hx : Answers env s k g ⟨ref,actor,request,.warehouse⟩ (toWrite env request t) n job P) :
    Answers env s k g ⟨ref,actor,request,.warehouse⟩ (toAgent env request t) (n+1) job
      (t.AgentServes env s.db ∧ P) := by
  unfold toAgent
  split
  · rename_i hnone
    refine (hx.mono (Nat.le_succ n)).congr (and_iff_right ?_).symm
    intro code hcode
    rw [hnone] at hcode
    cases hcode
  · rename_i hsome
    obtain ⟨code,hcode⟩ := Option.ne_none_iff_exists'.mp hsome
    have hnamed := (Option.filter_eq_some_iff.mp hcode).1
    obtain ⟨a,ha,haw,hac⟩ := hagent code hcode
    cases hof : s.db.agentOf t.warehouseId code with
    | none =>
      have hnone := List.find?_eq_none.mp hof a ha
      simp [haw,hac] at hnone
    | some agent =>
      by_cases hserves : canServePrinter env agent t.printerCode=true
      · refine (hx.step ?_).congr (and_iff_right ?_).symm
        · simp only [PrintJobs.advance,hnamed,hof,hserves,if_true]
          cases toWrite env request t with
          | error e => rfl
          | ok p => rfl
        · intro code' hcode' agent' hagent'
          obtain rfl : code=code' := Option.some.inj (hcode.symm.trans hcode')
          obtain rfl : agent=agent' := Option.some.inj (hof.symm.trans hagent')
          exact hserves
      · refine (((answers_error (.conflict ("Print agent ".toList++code++
          " is not assigned to printer ".toList++t.printerCode.getD []))).step ?_).mono
          (Nat.le_add_left 1 n)).congr ?_
        · simp only [PrintJobs.advance,hnamed,hof,hserves]
          rfl
        · refine iff_of_false id ?_
          intro hboth
          exact hserves (hboth.1 code hcode agent hof)

theorem answers_toPrinter {request : Request} (hprinter : t.PrinterOk s.db) (hagent : t.AgentOk s.db)
    (hx : Answers env s k g ⟨ref,actor,request,.warehouse⟩ (toWrite env request t) n job P) :
    Answers env s k g ⟨ref,actor,request,.warehouse⟩ (toPrinter env request t) (n+2) job
      (t.AgentServes env s.db ∧ P) := by
  have hnext := answers_toAgent hagent hx
  unfold toPrinter
  split
  · exact hnext.mono (Nat.le_succ _)
  · rename_i hsome
    obtain ⟨code,hcode⟩ := Option.ne_none_iff_exists'.mp hsome
    have hnamed := (Option.filter_eq_some_iff.mp hcode).1
    obtain ⟨q,hq,hqw,hqc⟩ := hprinter code hcode
    have hfound : (s.db.printers.any fun p => p.warehouseId=t.warehouseId && p.code=code)=true :=
      List.any_eq_true.mpr ⟨q,hq,by simp [hqw,hqc]⟩
    refine hnext.step ?_
    simp only [PrintJobs.advance,hnamed,hfound,if_true]
    cases toAgent env request t with
    | error e => rfl
    | ok p => rfl

variable {db : LabelsDb}

theorem answers_create (hhash : Function.Injective env.hashRequest) {dto : CreateRuntimePrintJobDto}
    {zpl : Str} (h : Stands s.db job t.warehouseId key)
    (hkey : normalizeNullableString dto.idempotencyKey=some key)
    (hjob : job.requestHash=some (env.hashRequest (createKey t.warehouseId t dto zpl actor)))
    (hof : t.Of env s.db ref (.create dto)) (hprinter : t.PrinterOk s.db) (hagent : t.AgentOk s.db) :
    Answers env s k g ⟨ref,actor,.create dto,.warehouse⟩ (.ok .warehouse) 7 job
      (t.AgentServes env s.db ∧ resolveRuntimeZpl env s.db t.warehouseId dto=.ok zpl) := by
  obtain ⟨warehouse,hw,hid⟩ := hof.warehouse
  obtain ⟨hp,ha⟩ := hof.create dto rfl
  have hstep : PrintJobs.advance env s.now g s.db ⟨ref,actor,.create dto,.warehouse⟩=
      (toPrinter env (.create dto) ⟨t.warehouseId,none,t.printerCode,t.agentCode⟩).map
        fun q => (s.db,q) := by
    simp only [PrintJobs.advance,hw,hid,hp,ha]
    show Except.bind (toPrinter _ _ _) _=_
    cases toPrinter env (.create dto) ⟨warehouse.id,none,normalizeNullableString dto.printerCode,
      normalizeNullableString dto.agentCode⟩ with
    | error e => rfl
    | ok p => rfl
  have htext : Answers env s k g ⟨ref,actor,.create dto,.warehouse⟩
      (toZpl env ⟨t.warehouseId,none,t.printerCode,t.agentCode⟩ dto) 4 job _ := answers_toZpl h hkey
  have hprinter' : Target.PrinterOk ⟨t.warehouseId,none,t.printerCode,t.agentCode⟩ s.db := hprinter
  have hanswers := (answers_toPrinter hprinter' hagent htext).step hstep
  refine hanswers.congr (and_congr_right fun _ => ?_)
  constructor
  · rintro ⟨text,htext,hsame⟩
    rw [hjob] at hsame
    have hkeys := hhash (Option.some.inj hsame)
    simp only [createKey,RequestKey.print.injEq] at hkeys
    rw [htext,hkeys.2.2.2.2.2.2.2.1]
  · intro htext
    exact ⟨zpl,htext,hjob⟩

theorem printerOk_or (hnamed : t.PrinterOk db) (hjob : JobOk db job) {w : Uuid}
    (hw : job.warehouseId=w) (htw : t.warehouseId=w) {named read a : Option Str} {j : Option PrintJob}
    (ht : t.printerCode=named.or read) :
    Target.PrinterOk ⟨w,j,named.or job.printerCode,a⟩ db := by
  intro code hcode
  cases named with
  | none =>
    have hsome := (Option.filter_eq_some_iff.mp hcode).1
    exact hw ▸ (hjob.printer code hsome).2
  | some n =>
    have hsame : t.printerCode=some n := ht
    have hfound := hnamed code (by rw [hsame]; exact hcode)
    exact htw ▸ hfound

theorem agentOk_or (hnamed : t.AgentOk db) (hjob : JobOk db job) {w : Uuid}
    (hw : job.warehouseId=w) (htw : t.warehouseId=w) {named read p : Option Str} {j : Option PrintJob}
    (ht : t.agentCode=named.or read) :
    Target.AgentOk ⟨w,j,p,named.or job.agentCode⟩ db := by
  intro code hcode
  cases named with
  | none =>
    have hsome := (Option.filter_eq_some_iff.mp hcode).1
    exact hw ▸ (hjob.agent code hsome).2
  | some n =>
    have hsame : t.agentCode=some n := ht
    have hfound := hnamed code (by rw [hsame]; exact hcode)
    exact htw ▸ hfound

theorem answers_reprint (hhash : Function.Injective env.hashRequest) (hinv : s.Inv env)
    {dto : RuntimePrintJobActionDto} {source : PrintJob} {jobId : ℕ}
    (h : Stands s.db job t.warehouseId key)
    (hkey : normalizeNullableString dto.idempotencyKey=some key)
    (hjob : job.requestHash=some (env.hashRequest (reprintKey t source dto actor)))
    (hof : t.Of env s.db ref (.reprint jobId dto)) (hsource : t.job=some source)
    (hprinter : t.PrinterOk s.db) (hagent : t.AgentOk s.db) :
    Answers env s k g ⟨ref,actor,.reprint jobId dto,.warehouse⟩ (.ok .warehouse) 7 job
      (t.AgentServes env s.db ∧ ∃ row, s.db.jobs.get? source.id=some row ∧
        (normalizeNullableString dto.printerCode).or row.printerCode=
          (normalizeNullableString dto.printerCode).or source.printerCode ∧
        (normalizeNullableString dto.agentCode).or row.agentCode=
          (normalizeNullableString dto.agentCode).or source.agentCode) := by
  obtain ⟨warehouse,hw,hid⟩ := hof.warehouse
  obtain ⟨hsid,⟨row,hrow,hsame⟩,hsw,hp,ha⟩ := hof.reprint jobId dto rfl source hsource
  have hrw : row.warehouseId=t.warehouseId := hsame.warehouseId.trans hsw
  have hrowOk := hinv.jobs row (Table.mem_of_get? hrow).1
  set t' : Target := ⟨t.warehouseId,some row,(normalizeNullableString dto.printerCode).or row.printerCode,
    (normalizeNullableString dto.agentCode).or row.agentCode⟩ with ht'
  have hread : s.db.resolveRuntimePrintJobRow t.warehouseId jobId=.ok row := by
    unfold LabelsDb.resolveRuntimePrintJobRow LabelsDb.jobOf
    rw [hrow]
    simp only [Option.filter,hrw,decide_true,if_true]
    rfl
  have hfirst : PrintJobs.advance env s.now g s.db ⟨ref,actor,.reprint jobId dto,.warehouse⟩=
      (Except.ok (.job t.warehouseId) : Except LabelsError Phase).map fun q => (s.db,q) := by
    simp only [PrintJobs.advance,hw,hid]
    rfl
  have hsecond : PrintJobs.advance env s.now g s.db ⟨ref,actor,.reprint jobId dto,.job t.warehouseId⟩=
      (toPrinter env (.reprint jobId dto) t').map fun q => (s.db,q) := by
    simp only [PrintJobs.advance,Request.jobId,Option.getD_some,hread]
    show Except.bind (toPrinter _ _ t') _=_
    cases toPrinter env (.reprint jobId dto) t' with
    | error e => rfl
    | ok p => rfl
  have hstored : (reprintedJob env g s.now actor t' row dto).requestHash=
      some (env.hashRequest (reprintKey t' row dto actor)) := by
    simp [reprintedJob,hkey]
  have hkeyed : (reprintedJob env g s.now actor t' row dto).idempotencyKey=some key := hkey
  have hwrite : Answers env s k g ⟨ref,actor,.reprint jobId dto,.warehouse⟩
      (toWrite env (.reprint jobId dto) t') 2 job
      (job.requestHash=some (env.hashRequest (reprintKey t' row dto actor))) :=
    answers_insert h hkeyed hstored rfl
  have hprinter' : t'.PrinterOk s.db := printerOk_or hprinter hrowOk hrw rfl hp
  have hagent' : t'.AgentOk s.db := agentOk_or hagent hrowOk hrw rfl ha
  refine ((((answers_toPrinter hprinter' hagent' hwrite).step hsecond).step hfirst).mono
    (by omega)).congr ?_
  have hcontent : job.requestHash=some (env.hashRequest (reprintKey t' row dto actor)) ↔
      (normalizeNullableString dto.printerCode).or row.printerCode=t.printerCode ∧
        (normalizeNullableString dto.agentCode).or row.agentCode=t.agentCode := by
    rw [hjob,Option.some.injEq,hhash.eq_iff]
    simp only [reprintKey,RequestKey.reprint.injEq,ht',hsame.id,hsame.copies,true_and,and_true]
    exact and_congr eq_comm eq_comm
  rw [hcontent,hsid,← hp,← ha]
  constructor
  · rintro ⟨hserves,hpr,har⟩
    refine ⟨?_,row,hrow,hpr,har⟩
    intro code hcode agent hof
    rw [← har] at hcode
    rw [← hpr]
    exact hserves code hcode agent hof
  · rintro ⟨hserves,row',hrow',hpr,har⟩
    obtain rfl : row=row' := Option.some.inj (hrow.symm.trans hrow')
    refine ⟨?_,hpr,har⟩
    intro code hcode agent hof
    have hcode' : nullIfEmpty t.agentCode=some code := by
      rw [← har]
      exact hcode
    have hok := hserves code hcode' agent hof
    rw [← hpr] at hok
    exact hok

end Alone

section Keys
variable {env : Env} {s : System} {c : Call} {w : Uuid} {key : Str} {q q' : RequestKey}

theorem content_insert {now generated : ℕ} {db : LabelsDb} (h : c.content=some (w,key,q)) :
    ∃ new, PrintJobs.advance env now generated db c=insertJob db new ∧ new.warehouseId=w ∧
      new.idempotencyKey=some key ∧ new.requestHash=some (env.hashRequest q) := by
  obtain ⟨ref,actor,request,phase⟩ := c
  unfold Call.content at h
  split at h
  · rename_i t zpl dto hphase hrequest
    simp only at hphase hrequest
    subst hphase
    subst hrequest
    obtain ⟨key',hkey,hq⟩ := Option.map_eq_some_iff.mp h
    cases hq
    refine ⟨createdJob env generated now actor t dto zpl,rfl,rfl,hkey,?_⟩
    simp [createdJob,hkey]
  · rename_i t source jobId dto hphase hrequest
    simp only at hphase hrequest
    subst hphase
    subst hrequest
    obtain ⟨key',hkey,hq⟩ := Option.map_eq_some_iff.mp h
    cases hq
    refine ⟨reprintedJob env generated now actor t source dto,rfl,rfl,hkey,?_⟩
    simp [reprintedJob,hkey]
  · cases h

theorem Stands.run {job : PrintJob} (h : Stands s.db job w key) (hs : s.Keyed env)
    (as : List Action) : ∃ job', (s.run env as).db.jobs.get? job.id=some job' ∧ job.Same job' ∧
      Stands (s.run env as).db job' w key := by
  obtain ⟨hkept,_⟩ := hs.inv.kept_run as
  obtain ⟨job',hget,hsame⟩ := hkept job.id job (Table.get?_key h.mem)
  exact ⟨job',hget,hsame,(Table.mem_of_get? hget).1,(hs.run as).once,
    hsame.warehouseId.trans h.warehouseId,hsame.idempotencyKey.trans h.idempotencyKey⟩

theorem insertJob_ended {db db' : LabelsDb} {new job : PrintJob}
    (h : insertJob db new=.ok (db',.ended (.ok [job]))) :
    job=new ∧ db.jobs.get? new.id=none ∧ db'.jobs=db.jobs.insert new := by
  unfold insertJob at h
  split at h
  · split at h
    · cases h
    · split at h
      · cases h
      · rename_i hid
        cases h
        exact ⟨rfl,not_not.mp hid,rfl⟩
  · split at h
    · cases h
    · rename_i hid
      cases h
      exact ⟨rfl,not_not.mp hid,rfl⟩

theorem ended_inj {c : Call} {p p' : Phase}
    (h : some {c with phase := p}=some {c with phase := p'}) : p=p' := by
  simpa using h

theorem created_stands {i g : ℕ} {job : PrintJob} (hs : s.Keyed env) (hi : s.call i=some c)
    (hcontent : c.content=some (w,key,q))
    (hended : (s.act env (.advance i g)).call i=some {c with phase := .ended (.ok [job])}) :
    Stands (s.act env (.advance i g)).db job w key ∧
      job.requestHash=some (env.hashRequest q) := by
  have hs' := hs.act (.advance i g)
  obtain ⟨new,hstep,hw,hkey,hhash⟩ : ∃ new,
      PrintJobs.advance env s.now g s.db c=insertJob s.db new ∧ new.warehouseId=w ∧
        new.idempotencyKey=some key ∧ new.requestHash=some (env.hashRequest q) :=
    content_insert hcontent
  have honce := hs'.once
  cases hr : insertJob s.db new with
  | error e =>
    simp only [System.act,hi,hstep,hr,System.put,Function.update_self] at hended
    cases ended_inj hended
  | ok r =>
    obtain ⟨db,p⟩ := r
    simp only [System.act,hi,hstep,hr,System.put,Function.update_self] at hended honce ⊢
    obtain rfl := ended_inj hended
    obtain ⟨rfl,hid,hjobs⟩ := insertJob_ended hr
    refine ⟨⟨?_,honce,hw,hkey⟩,hhash⟩
    rw [hjobs,Table.rows_insert hid]
    exact List.mem_append_right _ (List.mem_singleton_self _)

/-- What a call for a key that has a job comes to, once it is about to insert one. -/
def Toward (env : Env) (c : Call) (w : Uuid) (key : Str) (q : RequestKey) (job : PrintJob)
    (p : Phase) : Prop :=
  p=c.phase ∨ p=.replay w key (env.hashRequest q) ∨ ∃ r, p=.ended r ∧
    (job.requestHash=some (env.hashRequest q) → ∃ j, r=.ok [j] ∧ j.id=job.id) ∧
    (job.requestHash≠some (env.hashRequest q) → r=.error (.conflict
      "Idempotency key was reused with a different runtime print request".toList))

theorem toward_advance (now g : ℕ) {db : LabelsDb} {job : PrintJob} {p : Phase}
    (hcontent : c.content=some (w,key,q)) (h : Stands db job w key) (hp : Toward env c w key q job p) :
    ∃ p', Toward env c w key q job p' ∧
      (PrintJobs.advance env now g db {c with phase := p}=.ok (db,p') ∨
        ∃ e, p'=.ended (.error e) ∧ PrintJobs.advance env now g db {c with phase := p}=.error e) := by
  cases hp with
  | inl hfirst =>
    subst hfirst
    obtain ⟨new,hstep,hw,hkey,hhash⟩ : ∃ new,
        PrintJobs.advance env now g db c=insertJob db new ∧ new.warehouseId=w ∧
          new.idempotencyKey=some key ∧ new.requestHash=some (env.hashRequest q) :=
      content_insert hcontent
    subst hw
    refine ⟨.replay new.warehouseId key (env.hashRequest q),.inr (.inl rfl),.inl ?_⟩
    exact hstep.trans (insertJob_again h hkey hhash)
  | inr hrest =>
    cases hrest with
    | inl hreplay =>
      subst hreplay
      by_cases hsame : job.requestHash=some (env.hashRequest q)
      · refine ⟨.ended (.ok [job]),.inr (.inr ⟨_,rfl,fun _ => ⟨job,rfl,rfl⟩,fun hne => (hne hsame).elim⟩),
          .inl ?_⟩
        simp only [PrintJobs.advance,h.jobByKey,hsame,ne_eq,not_true,if_false]
        rfl
      · refine ⟨_,.inr (.inr ⟨_,rfl,fun heq => (hsame heq).elim,fun _ => rfl⟩),.inr ⟨_,rfl,?_⟩⟩
        simp only [PrintJobs.advance,h.jobByKey,ne_eq,hsame,not_false_eq_true,if_true]
        rfl
    | inr hended =>
      obtain ⟨r,rfl,hr⟩ := hended
      refine ⟨.ended r,.inr (.inr ⟨r,rfl,hr⟩),.inl ?_⟩
      cases c.request <;> rfl

theorem call_act_other {k : ℕ} {a : Action} (hk : s.call k=some c) (ha : ∀ g, a≠.advance k g) :
    (s.act env a).call k=some c := by
  cases a with
  | start i ref actor request =>
    simp only [System.act]
    split
    · exact hk
    · rename_i hnone
      have hne : k≠i := by
        intro he
        rw [← he,hk] at hnone
        cases hnone
      simp only [System.put,Function.update_of_ne hne]
      exact hk
  | advance i g =>
    have hne : k≠i := by
      intro he
      exact ha g (he ▸ rfl)
    simp only [System.act]
    split
    · exact hk
    · split
      · simp only [System.put,Function.update_of_ne hne]
        exact hk
      · simp only [System.put,Function.update_of_ne hne]
        exact hk
  | _ => exact hk

theorem toward_act {k : ℕ} {job : PrintJob} {p : Phase} (hcontent : c.content=some (w,key,q))
    (h : Stands s.db job w key) (hk : s.call k=some {c with phase := p})
    (hp : Toward env c w key q job p) (a : Action) :
    ∃ p', (s.act env a).call k=some {c with phase := p'} ∧ Toward env c w key q job p' := by
  by_cases ha : ∃ g, a=.advance k g
  · obtain ⟨g,rfl⟩ := ha
    obtain ⟨p',hp',hcase⟩ := toward_advance s.now g hcontent h hp
    refine ⟨p',?_,hp'⟩
    cases hcase with
    | inl hok =>
      simp only [System.act,hk,hok]
      exact Function.update_self _ _ _
    | inr herror =>
      obtain ⟨e,rfl,herror⟩ := herror
      simp only [System.act,hk,herror]
      exact Function.update_self _ _ _
  · exact ⟨p,call_act_other hk (not_exists.mp ha),hp⟩

theorem toward_run {k : ℕ} (hcontent : c.content=some (w,key,q)) (as : List Action) :
    ∀ {s : System} {job : PrintJob} {p : Phase}, s.Keyed env → Stands s.db job w key →
      s.call k=some {c with phase := p} → Toward env c w key q job p →
      ∃ p', (s.run env as).call k=some {c with phase := p'} ∧ Toward env c w key q job p' := by
  induction as with
  | nil => exact fun _ _ hk hp => ⟨_,hk,hp⟩
  | cons a as ih =>
    intro s job p hs h hk hp
    obtain ⟨p',hk',hp'⟩ := toward_act hcontent h hk hp a
    obtain ⟨job',_,hsame,h'⟩ := h.run hs [a]
    have hp'' : Toward env c w key q job' p' := by
      unfold Toward at hp' ⊢
      rw [hsame.requestHash,hsame.id]
      exact hp'
    obtain ⟨p'',hrun,htoward⟩ := ih (hs.act a) h' hk' hp''
    refine ⟨p'',hrun,?_⟩
    unfold Toward at htoward ⊢
    rw [hsame.requestHash,hsame.id] at htoward
    exact htoward

theorem System.Keyed.repeats (hs : s.Keyed env) (hhash : Function.Injective env.hashRequest)
    (k g : ℕ) {job : PrintJob} (hcontent : c.content=some (w,key,q)) (h : Stands s.db job w key)
    (hjob : job.requestHash=some (env.hashRequest q))
    (htraced : c.phase.Traced env s.db c.warehouseReference c.request)
    (hready : c.phase.Ready s.db c.request) :
    Answers env s k g {c with phase := .warehouse} (.ok .warehouse) 7 job
      (c.StillResolves env s.db) := by
  obtain ⟨ref,actor,request,phase⟩ := c
  unfold Call.content at hcontent
  split at hcontent
  · rename_i t zpl dto hphase hrequest
    simp only at hphase hrequest
    subst hphase
    subst hrequest
    obtain ⟨key',hkey,hq⟩ := Option.map_eq_some_iff.mp hcontent
    cases hq
    exact answers_create hhash h hkey hjob htraced hready.1 hready.2
  · rename_i t source jobId dto hphase hrequest
    simp only at hphase hrequest
    subst hphase
    subst hrequest
    obtain ⟨key',hkey,hq⟩ := Option.map_eq_some_iff.mp hcontent
    cases hq
    exact answers_reprint hhash hs.inv h hkey hjob htraced.1 htraced.2 hready.1 hready.2
  · cases hcontent

/-- After a call that created a job: its request, made again and left alone, returns the job exactly
where it still resolves to what it did. -/
theorem System.Keyed.repeated {s₀ : System} (hs₀ : s₀.Keyed env)
    (hhash : Function.Injective env.hashRequest) {i g : ℕ} {job : PrintJob} (hi : s₀.call i=some c)
    (hcontent : c.content=some (w,key,q))
    (hended : (s₀.act env (.advance i g)).call i=some {c with phase := .ended (.ok [job])})
    (bs : List Action) (hrun : (s₀.act env (.advance i g)).run env bs=s) {k : ℕ}
    (hk : s.call k=none) :
    ∃ job', s.db.jobs.get? job.id=some job' ∧ ∀ g' m, 7 ≤ m → ∃ r,
      (s.run env (.start k c.warehouseReference c.actorUserId c.request::
        List.replicate m (.advance k g'))).call k=some {c with phase := .ended r} ∧
      (r=.ok [job'] ↔ c.StillResolves env s.db) := by
  obtain ⟨hstands,hhashed⟩ := created_stands hs₀ hi hcontent hended
  have hs₁ := hs₀.act (.advance i g)
  obtain ⟨job',hget,hsame,h⟩ := hstands.run hs₁ bs
  have hs := hs₁.run bs
  have hkept := ((hs₀.inv.kept_act (.advance i g)).1).trans ((hs₁.inv.kept_run bs).1)
  have hplaces := (places_run bs hs₁).trans (places_act (.advance i g) hs₀)
  have hgrows := hs₀.inv.extends_run (.advance i g::bs)
  have hready := (hs₀.inv.calls i c hi).mono hgrows
  change c.phase.Ready ((s₀.act env (.advance i g)).run env bs).db c.request at hready
  rw [hrun] at h hget hs hkept hplaces hready
  have htraced := (hs₀.traced i c hi).mono hplaces hkept
  refine ⟨job',hget,?_⟩
  intro g' m hm
  have hanswers := hs.repeats hhash k g' hcontent h (hsame.requestHash.trans hhashed) htraced hready m hm
  have hstart : s.act env (.start k c.warehouseReference c.actorUserId c.request)=
      s.comeTo k {c with phase := .warehouse} (.ok .warehouse) := by
    simp only [System.act,hk]
    rfl
  show ∃ r, ((s.act env (.start k c.warehouseReference c.actorUserId c.request)).run env _).call k=_ ∧ _
  rw [hstart]
  exact hanswers

theorem System.Keyed.refused (hs : s.Keyed env) (hhash : Function.Injective env.hashRequest)
    {job : PrintJob} (h : Stands s.db job w key) (hjob : job.requestHash=some (env.hashRequest q))
    {k : ℕ} (hk : s.call k=some c) (hcontent : c.content=some (w,key,q')) (hne : q'≠q)
    (cs : List Action) {r : Except LabelsError (List PrintJob)}
    (hr : (s.run env cs).call k=some {c with phase := .ended r}) : r=.error (.conflict
      "Idempotency key was reused with a different runtime print request".toList) := by
  obtain ⟨p,hp,htoward⟩ := toward_run hcontent cs hs h hk (.inl rfl)
  obtain rfl := ended_inj (hp.symm.trans hr)
  have hother : job.requestHash≠some (env.hashRequest q') := by
    rw [hjob]
    intro he
    exact hne (hhash (Option.some.inj he)).symm
  cases htoward with
  | inl hfirst =>
    unfold Call.content at hcontent
    rw [← hfirst] at hcontent
    cases hcontent
  | inr hrest =>
    cases hrest with
    | inl hreplay => cases hreplay
    | inr hended =>
      obtain ⟨r',hr',_,hconflict⟩ := hended
      cases hr'
      exact hconflict hother

end Keys

/-- In every reachable state a key has one job of its warehouse. Whatever follows a request that
created one: another request that comes with the key and another content is a conflict; and the same
request, made again, returns the job exactly where it still resolves to what it did. -/
theorem print_idempotency (env : Env) (hhash : Function.Injective env.hashRequest)
    (places : OrderUpdates.Places) (as : List Action) :
    KeysOnce ((System.initial places).run env as).db.jobs ∧
    ∀ i c g job w key q, ((System.initial places).run env as).call i=some c →
      c.content=some (w,key,q) →
      (((System.initial places).run env as).act env (.advance i g)).call i=
        some {c with phase := .ended (.ok [job])} →
      ∀ bs s, (((System.initial places).run env as).act env (.advance i g)).run env bs=s →
      (∀ k c' q', s.call k=some c' → c'.content=some (w,key,q') → q'≠q → ∀ cs r,
        (s.run env cs).call k=some {c' with phase := .ended r} → r=.error (.conflict
          "Idempotency key was reused with a different runtime print request".toList)) ∧
      ∀ k, s.call k=none → ∃ job', s.db.jobs.get? job.id=some job' ∧ ∀ g' m, 7 ≤ m → ∃ r,
        (s.run env (.start k c.warehouseReference c.actorUserId c.request::
          List.replicate m (.advance k g'))).call k=some {c with phase := .ended r} ∧
        (r=.ok [job'] ↔ c.StillResolves env s.db) := by
  have hs₀ := (keyed_initial env places).run as
  refine ⟨hs₀.once,?_⟩
  intro i c g job w key q hi hcontent hended bs s hrun
  refine ⟨?_,fun k hk => hs₀.repeated hhash hi hcontent hended bs hrun hk⟩
  intro k c' q' hk hcontent' hne cs r hr
  obtain ⟨hstands,hhashed⟩ := created_stands hs₀ hi hcontent hended
  have hs₁ := hs₀.act (.advance i g)
  obtain ⟨job',_,hsame,h⟩ := hstands.run hs₁ bs
  have hs := hs₁.run bs
  rw [hrun] at h hs
  exact hs.refused hhash h (hsame.requestHash.trans hhashed) hk hcontent' hne cs hr

instance printedChars : Countable Char :=
  Function.Injective.countable (f := Char.toNat) fun _ _ h => Char.toNat_inj.mp h

/-- Values as trees of one kind, for counting them. -/
inductive JsonTree
  | leaf (b : Bool ⊕ ℚ ⊕ List Char ⊕ Unit)
  | nil
  | cons (head tail : JsonTree)
  | field (name : List Char) (value tail : JsonTree)
  | array (items : JsonTree)
  | object (fields : JsonTree)
  deriving Countable

mutual
def jsonTree : Json → JsonTree
  | .null => .leaf (.inr (.inr (.inr ())))
  | .bool b => .leaf (.inl b)
  | .number q => .leaf (.inr (.inl q))
  | .string s => .leaf (.inr (.inr (.inl s.toList)))
  | .array items => .array (itemsTree items)
  | .object fields => .object (fieldsTree fields)

def itemsTree : List Json → JsonTree
  | [] => .nil
  | v::vs => .cons (jsonTree v) (itemsTree vs)

def fieldsTree : List (String × Json) → JsonTree
  | [] => .nil
  | (name,v)::fs => .field name.toList (jsonTree v) (fieldsTree fs)
end

mutual
theorem jsonTree_inj : ∀ a b : Json, jsonTree a=jsonTree b → a=b
  | .null, b, h => by cases b <;> simp_all [jsonTree]
  | .bool x, b, h => by cases b <;> simp_all [jsonTree]
  | .number q, b, h => by cases b <;> simp_all [jsonTree]
  | .string s, b, h => by cases b <;> simp_all [jsonTree,String.ext_iff]
  | .array items, b, h => by
    cases b with
    | array items' =>
      simp only [jsonTree,JsonTree.array.injEq] at h
      rw [itemsTree_inj items items' h]
    | _ => simp [jsonTree] at h
  | .object fields, b, h => by
    cases b with
    | object fields' =>
      simp only [jsonTree,JsonTree.object.injEq] at h
      rw [fieldsTree_inj fields fields' h]
    | _ => simp [jsonTree] at h

theorem itemsTree_inj : ∀ xs ys : List Json, itemsTree xs=itemsTree ys → xs=ys
  | [], [], _ => rfl
  | [], y::ys, h => by simp [itemsTree] at h
  | x::xs, [], h => by simp [itemsTree] at h
  | x::xs, y::ys, h => by
    simp only [itemsTree,JsonTree.cons.injEq] at h
    rw [jsonTree_inj x y h.1,itemsTree_inj xs ys h.2]

theorem fieldsTree_inj : ∀ xs ys : List (String × Json), fieldsTree xs=fieldsTree ys → xs=ys
  | [], [], _ => rfl
  | [], y::ys, h => by simp [fieldsTree] at h
  | x::xs, [], h => by simp [fieldsTree] at h
  | (n,x)::xs, (m,y)::ys, h => by
    simp only [fieldsTree,JsonTree.field.injEq] at h
    rw [fieldsTree_inj xs ys h.2.2,jsonTree_inj x y h.2.1,String.ext_iff.mpr h.1]
end

instance : Countable Json :=
  Function.Injective.countable (f := jsonTree) fun a b h => jsonTree_inj a b h

deriving instance Countable for RequestKey

/-- There are hashes without collisions. -/
theorem exists_request_hash : ∃ hash : RequestKey → Str, Function.Injective hash := by
  obtain ⟨f,hf⟩ := exists_injective_nat RequestKey
  refine ⟨fun q => List.replicate (f q) 'x',?_⟩
  intro q q' h
  have hlength := congrArg List.length h
  simp only [List.length_replicate] at hlength
  exact hf hlength

noncomputable def keyEnv : Env := {plainEnv with hashRequest := exists_request_hash.choose}

theorem keyEnv_injective : Function.Injective keyEnv.hashRequest := exists_request_hash.choose_spec

def againDto : RuntimePrintJobActionDto := {idempotencyKey := some ['k']}

/-- A job to print again, and the request for it, about to insert. -/
noncomputable def beforeAgain : System := (System.initial onePlace).run keyEnv
  (.upsertPrintAgent here ['A'] ['t'] none none::calls 0 2 (.create {renderedZpl := some "^XA".toList})++
    calls 1 2 (.reprint 10 againDto))

noncomputable def againRun : System := beforeAgain.act keyEnv (.advance 1 20)

def sourceRow : PrintJob :=
  ⟨10,here,none,none,none,1,.QUEUED,1,0,3,.object [],"^XA".toList,1,none,none,none,none,none,none,0⟩

def againTarget : Target := ⟨here,some sourceRow,none,none⟩

def againCall : Call := ⟨"MAIN".toList,1,.reprint 10 againDto,.insertReprint againTarget sourceRow⟩

def againKey : RequestKey := reprintKey againTarget sourceRow againDto 1

noncomputable def againRow : PrintJob := reprintedJob keyEnv 20 0 1 againTarget sourceRow againDto

theorem beforeAgain_call : beforeAgain.call 1=some againCall := rfl

theorem againCall_content : againCall.content=some (here,['k'],againKey) := rfl

theorem againRun_call : againRun.call 1=some {againCall with phase := .ended (.ok [againRow])} := rfl

theorem againRow_stored : againRun.db.jobs.get? againRow.id=some againRow := rfl

theorem againCall_resolves : againCall.StillResolves keyEnv againRun.db := by
  refine ⟨?_,sourceRow,rfl,rfl,rfl⟩
  intro code hcode
  cases hcode

/-- The same request at once: the same job. -/
theorem print_idempotency_demo :
    (againRun.run keyEnv (.start 5 againCall.warehouseReference againCall.actorUserId
      againCall.request::List.replicate 7 (.advance 5 10))).call 5=
      some {againCall with phase := .ended (.ok [againRow])} := by
  have hall := (print_idempotency keyEnv keyEnv_injective onePlace _).2 1 againCall 20 againRow here
    ['k'] againKey beforeAgain_call againCall_content againRun_call [] againRun rfl
  obtain ⟨job',hget,hanswers⟩ := hall.2 5 rfl
  obtain ⟨r,hr,hsame⟩ := hanswers 10 7 (le_refl 7)
  obtain rfl : againRow=job' := Option.some.inj (againRow_stored.symm.trans hget)
  rw [hsame.mpr againCall_resolves] at hr
  exact hr

/-- The source is given to an agent. -/
noncomputable def reassignedRun : System :=
  againRun.run keyEnv (calls 2 4 (.reassign 10 {agentCode := some ['A']}))

theorem reassignedRun_free : reassignedRun.call 5=none :=
  Option.isNone_iff_eq_none.mp (by decide +kernel)

theorem reassignedRun_source :
    reassignedRun.db.jobs.get? 10=some (sourceRow.requeued none (some ['A'])) := by
  decide +kernel

theorem reassignedRun_differs : ¬againCall.StillResolves keyEnv reassignedRun.db := by
  rintro ⟨_,row,hrow,_,hagent⟩
  obtain rfl := Option.some.inj (reassignedRun_source.symm.trans hrow)
  cases hagent

/-- Once the source has another agent, the same request is another one. -/
theorem reprint_not_recognised : ¬∀ env : Env, Function.Injective env.hashRequest →
    ∀ (places : OrderUpdates.Places) (as : List Action),
    ∀ i c g job w key q, ((System.initial places).run env as).call i=some c →
      c.content=some (w,key,q) →
      (((System.initial places).run env as).act env (.advance i g)).call i=
        some {c with phase := .ended (.ok [job])} →
      ∀ bs s, (((System.initial places).run env as).act env (.advance i g)).run env bs=s →
      ∀ k, s.call k=none → ∃ job', s.db.jobs.get? job.id=some job' ∧ ∀ g' m, 7 ≤ m →
        (s.run env (.start k c.warehouseReference c.actorUserId c.request::
          List.replicate m (.advance k g'))).call k=some {c with phase := .ended (.ok [job'])} := by
  intro hclaim
  obtain ⟨job',hget,hsame⟩ := hclaim keyEnv keyEnv_injective onePlace _ 1 againCall 20 againRow here
    ['k'] againKey beforeAgain_call againCall_content againRun_call _ reassignedRun rfl 5
    reassignedRun_free
  have hkeyed : beforeAgain.Keyed keyEnv := (keyed_initial keyEnv onePlace).run _
  obtain ⟨job'',hget',hanswers⟩ := hkeyed.repeated keyEnv_injective beforeAgain_call
    againCall_content againRun_call _ (show _=reassignedRun from rfl) reassignedRun_free
  obtain rfl : job'=job'' := Option.some.inj (hget.symm.trans hget')
  obtain ⟨r,hr,hiff⟩ := hanswers 10 7 (le_refl 7)
  have hsuccess := hsame 10 7 (le_refl 7)
  have hreturned : r=.ok [job'] := by
    cases ended_inj (hr.symm.trans hsuccess)
    rfl
  exact reassignedRun_differs (hiff.mp hreturned)

end AardvarkWms.PrintJobs
