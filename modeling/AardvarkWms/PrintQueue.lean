import AardvarkWms.PrintClaims
import Mathlib.Data.List.DropRight
import AardvarkWms.Texts

/-! The print queue: the routing rule in its three places, and where a print job can go. -/
namespace AardvarkWms.PrintJobs

open Messaging (Str)
open OrderUpdates (Uuid)

section Routing
variable {env : Env} {s : System} {j : PrintJob} {w : Uuid} {agentCode code : Str}
  {routing : PrintAgentRouting} {now : ℕ}

theorem normalizeNullableCode_some (hcode : normalizeCode env code=code) (hne : code≠[]) :
    normalizeNullableCode env (some code)=some code := by
  unfold normalizeNullableCode
  rw [Option.map_some,hcode]
  exact Option.filter_eq_some_iff.mpr ⟨rfl,by simpa using hne⟩

theorem claimable_unassigned (hprinter : ∀ c, j.printerCode=some c → normalizeCode env c=c ∧ c≠[]) :
    isRuntimePrintJobClaimableByAgent env none j.printerCode agentCode routing=
      (routing.legacyWarehouseClaim || j.routedTo routing) := by
  have hnone : normalizeNullableCode env none=none := rfl
  unfold isRuntimePrintJobClaimableByAgent PrintJob.routedTo
  simp only [hnone]
  cases hp : j.printerCode with
  | none => cases hl : routing.legacyWarehouseClaim <;> simp [hnone]
  | some c =>
    obtain ⟨hc,hne⟩ := hprinter c hp
    rw [normalizeNullableCode_some hc hne]
    cases hl : routing.legacyWarehouseClaim <;> simp

theorem claimable_assigned (hcode : normalizeCode env code=code) (hne : code≠[])
    (hagent : normalizeCode env agentCode=agentCode) (printerCode : Option Str) :
    isRuntimePrintJobClaimableByAgent env (some code) printerCode agentCode routing=
      decide (code=agentCode) := by
  unfold isRuntimePrintJobClaimableByAgent
  rw [normalizeNullableCode_some hcode hne,hagent]
  by_cases h : code=agentCode
  · simp [h]
  · simp [h]

theorem selected_iff : j.selected w agentCode routing now=true ↔
    j.warehouseId=w ∧ j.attempts < j.maxAttempts ∧
      (j.status=.QUEUED ∧ (j.agentCode=some agentCode ∨
          j.agentCode=none ∧ (routing.legacyWarehouseClaim=true ∨ j.routedTo routing=true)) ∨
        j.status=.CLAIMED ∧ j.leaseExpired now=true ∧ (routing.legacyWarehouseClaim=true ∨
          j.routedTo routing=true ∨ j.agentCode=some agentCode)) := by
  unfold PrintJob.selected
  cases routing.legacyWarehouseClaim with
  | true =>
    simp only [if_true,Bool.and_eq_true,Bool.or_eq_true,decide_eq_true_eq,and_assoc,true_or,
      and_true]
    tauto
  | false =>
    simp only [Bool.false_eq_true,if_false,Bool.and_eq_true,Bool.or_eq_true,decide_eq_true_eq,
      and_assoc,false_or]
    tauto

theorem claimable_iff : j.claimable w agentCode now=true ↔
    j.warehouseId=w ∧ j.attempts < j.maxAttempts ∧
      (j.status=.QUEUED ∧ (j.agentCode=none ∨ j.agentCode=some agentCode) ∨
        j.status=.CLAIMED ∧ j.leaseExpired now=true) := by
  simp only [PrintJob.claimable,Bool.and_eq_true,Bool.or_eq_true,decide_eq_true_eq,and_assoc]

theorem claimable_of_selected (h : j.selected w agentCode routing now=true) :
    j.claimable w agentCode now=true := by
  rw [selected_iff] at h
  rw [claimable_iff]
  tauto

theorem System.Inv.normal_agent (h : s.Inv env) (hnorm : env.Normalizes)
    (hcode : s.db.HasAgent w code) : normalizeCode env code=code := by
  obtain ⟨a,ha,_,rfl⟩ := hcode
  obtain ⟨raw,hraw⟩ := h.agents a ha
  rw [hraw]
  exact hnorm raw

theorem System.Inv.normal_printer (h : s.Inv env) (hnorm : env.Normalizes)
    (hcode : s.db.HasPrinter w code) : normalizeCode env code=code := by
  obtain ⟨p,hp,_,rfl⟩ := hcode
  obtain ⟨raw,hraw⟩ := h.printers p hp
  rw [hraw]
  exact hnorm raw

/-- The select and the update, in terms of the routing rule: a queued job goes by the rule, and an
expired claim goes by the rule without its agent, or back to that agent. -/
theorem System.Inv.claim_rule (h : s.Inv env) (hnorm : env.Normalizes) (hj : j∈s.db.jobs.rows)
    (hagent : s.db.HasAgent w agentCode) :
    (j.selected w agentCode routing now=true ∧ j.claimable w agentCode now=true) ↔
      j.warehouseId=w ∧ j.attempts < j.maxAttempts ∧
        (j.status=.QUEUED ∧ isRuntimePrintJobClaimableByAgent env j.agentCode j.printerCode
            agentCode routing=true ∨
          j.status=.CLAIMED ∧ j.leaseExpired now=true ∧
            (isRuntimePrintJobClaimableByAgent env none j.printerCode agentCode routing=true ∨
              j.agentCode=some agentCode)) := by
  have hok := h.jobs j hj
  have hnormal := h.normal_agent hnorm hagent
  have hprinter : ∀ c, j.printerCode=some c → normalizeCode env c=c ∧ c≠[] := by
    intro c hc
    obtain ⟨hne,hhas⟩ := hok.printer c hc
    exact ⟨h.normal_printer hnorm hhas,hne⟩
  have hqueued : j.status=.QUEUED →
      (isRuntimePrintJobClaimableByAgent env j.agentCode j.printerCode agentCode routing=true ↔
        j.agentCode=some agentCode ∨
          j.agentCode=none ∧ (routing.legacyWarehouseClaim=true ∨ j.routedTo routing=true)) := by
    intro hstatus
    cases hc : j.agentCode with
    | none => simp [claimable_unassigned hprinter]
    | some c =>
      obtain ⟨hne,hhas⟩ := hok.agent c hc
      rw [claimable_assigned (h.normal_agent hnorm hhas) (hne hstatus) hnormal]
      simp
  have hselected : (j.selected w agentCode routing now=true ∧ j.claimable w agentCode now=true) ↔
      j.selected w agentCode routing now=true :=
    and_iff_left_of_imp claimable_of_selected
  rw [hselected,selected_iff,claimable_unassigned hprinter]
  refine and_congr_right fun _ => and_congr_right fun _ => or_congr ?_ ?_
  · exact and_congr_right fun hstatus => (hqueued hstatus).symm
  · rw [Bool.or_eq_true,or_assoc]

end Routing

section Exclusive
variable {env : Env} {s : System} {j : PrintJob}

/-- Only claims make progress: the actions of other calls are left out. -/
def System.Claims (s : System) : Action → Prop
  | .advance i _ => ∀ c, s.call i=some c → ∃ dto, c.request=.claim dto
  | _ => True

def System.OnlyClaims (env : Env) (s : System) : List Action → Prop
  | [] => True
  | a::as => s.Claims a ∧ (s.act env a).OnlyClaims env as

theorem now_act (a : Action) : s.now≤(s.act env a).now := by
  cases a with
  | start i ref actor request =>
    simp only [System.act]
    split
    · exact le_refl _
    · exact le_refl _
  | advance i generated =>
    simp only [System.act]
    split
    · exact le_refl _
    · split
      · exact le_refl _
      · exact le_refl _
  | tick seconds => exact Nat.le_add_right _ _
  | upsertPrinter w code => exact le_refl _
  | upsertPrintAgent w code token printerCodes metadata => exact le_refl _
  | labels templates layouts => exact le_refl _

theorem now_run (as : List Action) : ∀ s : System, s.now≤(s.run env as).now := by
  induction as with
  | nil => exact fun s => le_refl _
  | cons a as ih => exact fun s => (now_act a).trans (ih _)

theorem get?_updated {T : Table PrintJob.id} (w : Uuid) {id id' : ℕ} (f : PrintJob → PrintJob)
    (hf : ∀ j, (f j).id=j.id) (hne : id'≠id) : (updated T w id f hf).get? id'=T.get? id' := by
  unfold updated
  rw [Table.get?_modifyWhere]
  cases hget : T.get? id' with
  | none => rfl
  | some j =>
    have hid : j.id=id' := Table.key_of_get? hget
    have hp : (decide (j.id=id) && decide (j.warehouseId=w))=false := by
      simp [hid,hne]
    simp only [Option.map_some,hp,Bool.false_eq_true,if_false]

theorem JobWrite.claim_kept {c : Call} {now e : ℕ} {T T' : Table PrintJob.id}
    (hw : JobWrite c now T T') {dto : ClaimPrintJobDto} (hc : c.request=.claim dto)
    (hget : T.get? j.id=some j) (hstatus : j.status=.CLAIMED) (hlease : j.claimExpiresAt=some e)
    (hnow : now≤e) : T'.get? j.id=some j := by
  cases hw with
  | none => exact hget
  | insert job t hid hphase =>
    cases hphase with
    | inl hcreate =>
      obtain ⟨zpl,dto',_,hr⟩ := hcreate
      rw [hc] at hr
      cases hr
    | inr hreprint =>
      obtain ⟨source,jobId,dto',_,hr⟩ := hreprint
      rw [hc] at hr
      cases hr
  | claim agent ids claimed k hphase hk hclaimable =>
    have hne : j.id≠k.id := by
      intro he
      have hsame : j=k := by
        rw [he,hk] at hget
        exact (Option.some.inj hget).symm
      rw [← hsame,claimable_iff] at hclaimable
      obtain ⟨_,_,hcase⟩ := hclaimable
      cases hcase with
      | inl hqueued =>
        rw [hstatus] at hqueued
        cases hqueued.1
      | inr hexpired =>
        have hbefore : e < now := by
          simpa [PrintJob.leaseExpired,hlease] using hexpired.2
        omega
    exact (get?_updated agent.warehouseId _ _ hne).trans hget
  | retry t read jobId dto' hphase hr =>
    rw [hc] at hr
    cases hr
  | cancel t read reason jobId metadata hphase hr =>
    rw [hc] at hr
    cases hr
  | reassign t read k jobId dto' hphase hr =>
    rw [hc] at hr
    cases hr
  | report agent read k jobId dto' hphase hr =>
    rw [hc] at hr
    cases hr

theorem upsertPrinter_jobs (db : LabelsDb) (w : Uuid) (code : Str) :
    (upsertPrinter env db w code).jobs=db.jobs := by
  unfold upsertPrinter
  split
  · rfl
  · rfl

theorem upsertPrintAgent_jobs (db : LabelsDb) (w : Uuid) (code token : Str)
    (printerCodes : Option (List Str)) (metadata : Option Json) :
    (upsertPrintAgent env db w code token printerCodes metadata).jobs=db.jobs := by
  unfold upsertPrintAgent
  simp only
  split
  · rfl
  · rfl

theorem System.Inv.jobs_act (h : s.Inv env) (a : Action) :
    (s.act env a).db.jobs=s.db.jobs ∨ ∃ i generated c, a=.advance i generated ∧
      s.call i=some c ∧ JobWrite c s.now s.db.jobs (s.act env a).db.jobs ∧
      c.phase.Ready s.db c.request := by
  cases a with
  | start i ref actor request =>
    refine .inl ?_
    simp only [System.act]
    split
    · rfl
    · rfl
  | advance i generated =>
    cases hi : s.call i with
    | none => exact .inl (by simp only [System.act,hi])
    | some c =>
      cases hstep : PrintJobs.advance env s.now generated s.db c with
      | error e => exact .inl (by simp only [System.act,hi,hstep]; rfl)
      | ok r =>
        refine .inr ⟨i,generated,c,rfl,hi,?_,h.calls i c hi⟩
        simp only [System.act,hi,hstep]
        exact (advanced hstep (h.calls i c hi)).write
  | tick seconds => exact .inl rfl
  | upsertPrinter w code => exact .inl (upsertPrinter_jobs _ w code)
  | upsertPrintAgent w code token printerCodes metadata =>
    exact .inl (upsertPrintAgent_jobs _ w code token printerCodes metadata)
  | labels templates layouts => exact .inl rfl

theorem System.Inv.claim_held {e : ℕ} (bs : List Action) : ∀ {s : System}, s.Inv env →
    s.OnlyClaims env bs → s.db.jobs.get? j.id=some j → j.status=.CLAIMED →
    j.claimExpiresAt=some e → (s.run env bs).now≤e → (s.run env bs).db.jobs.get? j.id=some j := by
  induction bs with
  | nil => exact fun _ _ hget _ _ _ => hget
  | cons a bs ih =>
    intro s h honly hget hstatus hlease hnow
    refine ih (h.act a) honly.2 ?_ hstatus hlease hnow
    cases h.jobs_act a with
    | inl hsame =>
      rw [hsame]
      exact hget
    | inr hwrite =>
      obtain ⟨i,generated,c,rfl,hi,hw,_⟩ := hwrite
      obtain ⟨dto,hdto⟩ := honly.1 c hi
      have hlater : s.now≤e := ((now_act _).trans (now_run bs _)).trans hnow
      exact hw.claim_kept hdto hget hstatus hlease hlater

end Exclusive

/-- A claim that has not expired is left alone by all other claims; and in every reachable state an
agent may claim a job exactly where it has attempts left and is queued and the routing rule accepts
it, or its claim is expired and the rule accepts it without its agent, or that agent is the one. -/
theorem print_claims (env : Env) (hnorm : env.Normalizes) (places : OrderUpdates.Places)
    (as : List Action) :
    (∀ (j : PrintJob) (e : ℕ),
      ((System.initial places).run env as).db.jobs.get? j.id=some j → j.status=.CLAIMED →
      j.claimExpiresAt=some e → ∀ bs, ((System.initial places).run env as).OnlyClaims env bs →
      (((System.initial places).run env as).run env bs).now≤e →
      (((System.initial places).run env as).run env bs).db.jobs.get? j.id=some j) ∧
    ∀ j∈((System.initial places).run env as).db.jobs.rows,
      ∀ a∈((System.initial places).run env as).db.agents, ∀ (routing : PrintAgentRouting) (now : ℕ),
      (j.selected a.warehouseId a.code routing now=true ∧
        j.claimable a.warehouseId a.code now=true) ↔
        j.warehouseId=a.warehouseId ∧ j.attempts < j.maxAttempts ∧
          (j.status=.QUEUED ∧ isRuntimePrintJobClaimableByAgent env j.agentCode j.printerCode
              a.code routing=true ∨
            j.status=.CLAIMED ∧ j.leaseExpired now=true ∧
              (isRuntimePrintJobClaimableByAgent env none j.printerCode a.code routing=true ∨
                j.agentCode=some a.code)) := by
  have hinv := (inv_initial env places).run as
  refine ⟨?_,?_⟩
  · intro j e hget hstatus hlease bs honly hnow
    exact hinv.claim_held bs honly hget hstatus hlease hnow
  · intro j hj a ha routing now
    exact hinv.claim_rule hnorm hj ⟨a,ha,rfl,rfl⟩

section States
variable {env : Env} {s : System} {j : PrintJob}

/-- The update of a retry or a cancel, which asks nothing of the row it writes to. -/
def Call.Overwrites (c : Call) (id : ℕ) : Prop :=
  ∃ t read, c.phase=.update t read ∧ read.id=id ∧ read.status≠.PRINTED ∧
    ((∃ jobId dto, c.request=.retry jobId dto) ∨ ∃ jobId metadata, c.request=.cancel jobId metadata)

def System.Overwrites (s : System) (id : ℕ) : Action → Prop
  | .advance i _ => ∃ c, s.call i=some c ∧ c.Overwrites id
  | _ => False

/-- No retry or cancel that read the job earlier writes to it. -/
def System.NeverOverwrites (env : Env) (id : ℕ) (s : System) : List Action → Prop
  | [] => True
  | a::as => ¬s.Overwrites id a ∧ (s.act env a).NeverOverwrites env id as

theorem JobWrite.printed_kept {db : LabelsDb} {c : Call} {now id : ℕ} {T T' : Table PrintJob.id}
    (hw : JobWrite c now T T') (hready : c.phase.Ready db c.request) (hget : T.get? id=some j)
    (hprinted : j.status=.PRINTED) (hno : ¬c.Overwrites id) : T'.get? id=some j := by
  have hother : ∀ {id' : ℕ} {k : PrintJob}, T.get? id'=some k → k.status≠.PRINTED → id≠id' := by
    intro id' k hk hstatus he
    rw [← he,hget] at hk
    cases hk
    exact hstatus hprinted
  cases hw with
  | none => exact hget
  | insert job t hid hphase =>
    have hne : id≠job.id := by
      intro he
      rw [he,hid] at hget
      cases hget
    exact (Table.get?_insert_ne T hne).trans hget
  | claim agent ids claimed k hphase hk hclaimable =>
    have hstatus : k.status≠.PRINTED := by
      rw [claimable_iff] at hclaimable
      intro hs
      simp [hs] at hclaimable
    exact (get?_updated agent.warehouseId _ _ (hother hk hstatus)).trans hget
  | retry t read jobId dto hphase hrequest =>
    rw [hphase] at hready
    have hne : id≠read.id := by
      intro he
      exact hno ⟨t,read,hphase,he.symm,hready.2.2,.inl ⟨jobId,dto,hrequest⟩⟩
    exact (get?_updated t.warehouseId _ _ hne).trans hget
  | cancel t read reason jobId metadata hphase hrequest =>
    rw [hphase] at hready
    have hne : id≠read.id := by
      intro he
      exact hno ⟨t,read,hphase,he.symm,hready.2.2,.inr ⟨jobId,metadata,hrequest⟩⟩
    exact (get?_updated t.warehouseId _ _ hne).trans hget
  | reassign t read k jobId dto hphase hrequest hk hstatus =>
    have hopen : k.status≠.PRINTED := by
      intro hs
      simp [hs] at hstatus
    exact (get?_updated t.warehouseId _ _ (hother hk hopen)).trans hget
  | report agent read k jobId dto hphase hrequest hk hstatus =>
    rw [hphase] at hready
    have hopen : k.status≠.PRINTED := by
      intro hs
      have hread := hready.2
      rw [← hstatus,hs] at hread
      simp at hread
    exact (get?_updated agent.warehouseId _ _ (hother hk hopen)).trans hget

theorem System.Inv.printed_act {id : ℕ} (h : s.Inv env) (a : Action)
    (hget : s.db.jobs.get? id=some j) (hprinted : j.status=.PRINTED) (hno : ¬s.Overwrites id a) :
    (s.act env a).db.jobs.get? id=some j := by
  cases h.jobs_act a with
  | inl hsame =>
    rw [hsame]
    exact hget
  | inr hwrite =>
    obtain ⟨i,generated,c,rfl,hi,hw,hready⟩ := hwrite
    refine hw.printed_kept hready hget hprinted ?_
    intro hover
    exact hno ⟨c,hi,hover⟩

theorem System.Inv.printed_run {id : ℕ} (bs : List Action) : ∀ {s : System}, s.Inv env →
    s.db.jobs.get? id=some j → j.status=.PRINTED → s.NeverOverwrites env id bs →
    (s.run env bs).db.jobs.get? id=some j := by
  induction bs with
  | nil => exact fun _ hget _ _ => hget
  | cons a bs ih =>
    intro s h hget hprinted hno
    exact ih (h.act a) (h.printed_act a hget hprinted hno.1) hprinted hno.2

/-- The agent and its printers serve the job: a queued job that names an agent waits for that one. -/
def PrintJob.ServedBy (j : PrintJob) (agentCode : Str) (routing : PrintAgentRouting) : Prop :=
  j.agentCode=some agentCode ∨ (j.status=.QUEUED → j.agentCode=none) ∧
    (routing.legacyWarehouseClaim=true ∨ j.routedTo routing=true)

theorem served_claimable (hattempts : j.attempts < j.maxAttempts)
    (hstatus : j.status=.QUEUED ∨ j.status=.CLAIMED) {agentCode : Str} {routing : PrintAgentRouting}
    (hserved : j.ServedBy agentCode routing) {now : ℕ} (hnow : ∀ e, j.claimExpiresAt=some e → e < now) :
    j.selected j.warehouseId agentCode routing now=true ∧
      j.claimable j.warehouseId agentCode now=true := by
  have hexpired : j.leaseExpired now=true := by
    unfold PrintJob.leaseExpired
    cases he : j.claimExpiresAt with
    | none => rfl
    | some e => simpa using hnow e he
  have hselected : j.selected j.warehouseId agentCode routing now=true := by
    rw [selected_iff]
    refine ⟨rfl,hattempts,?_⟩
    cases hstatus with
    | inl hqueued =>
      cases hserved with
      | inl hagent => exact .inl ⟨hqueued,.inl hagent⟩
      | inr hserves => exact .inl ⟨hqueued,.inr ⟨hserves.1 hqueued,hserves.2⟩⟩
    | inr hclaimed =>
      cases hserved with
      | inl hagent => exact .inr ⟨hclaimed,hexpired,.inr (.inr hagent)⟩
      | inr hserves =>
        cases hserves.2 with
        | inl hlegacy => exact .inr ⟨hclaimed,hexpired,.inl hlegacy⟩
        | inr hrouted => exact .inr ⟨hclaimed,hexpired,.inr (.inl hrouted)⟩
  exact ⟨hselected,claimable_of_selected hselected⟩

end States

/-- In every reachable state a printed job stays as it is, whatever follows, as long as no retry or
cancel that read it earlier writes to it; attempts are bounded; a queued or claimed job with
attempts left is for a registered agent where it names one, and from the end of its lease on
whoever serves it can claim it; and nobody claims a job that is printing. -/
theorem print_job_states (env : Env) (places : OrderUpdates.Places) (as : List Action) :
    (∀ id j, ((System.initial places).run env as).db.jobs.get? id=some j → j.status=.PRINTED →
      ∀ bs, ((System.initial places).run env as).NeverOverwrites env id bs →
      (((System.initial places).run env as).run env bs).db.jobs.get? id=some j) ∧
    ∀ j∈((System.initial places).run env as).db.jobs.rows, j.attempts≤j.maxAttempts ∧
      (j.status=.PRINTING → ∀ w agentCode now, j.claimable w agentCode now=false) ∧
      (j.attempts < j.maxAttempts → j.status=.QUEUED ∨ j.status=.CLAIMED →
        (∀ code, j.agentCode=some code →
          ((System.initial places).run env as).db.HasAgent j.warehouseId code) ∧
        ∃ t, ((System.initial places).run env as).now≤t ∧ ∀ now, t≤now → ∀ agentCode routing,
          j.ServedBy agentCode routing → j.selected j.warehouseId agentCode routing now=true ∧
            j.claimable j.warehouseId agentCode now=true) := by
  have hinv := (inv_initial env places).run as
  refine ⟨?_,?_⟩
  · intro id j hget hprinted bs hno
    exact hinv.printed_run bs hget hprinted hno
  · intro j hj
    have hok := hinv.jobs j hj
    refine ⟨hok.attempts,?_,?_⟩
    · intro hprinting w agentCode now
      simp [PrintJob.claimable,hprinting]
    intro hattempts hstatus
    refine ⟨fun code hcode => (hok.agent code hcode).2,
      max ((System.initial places).run env as).now (j.claimExpiresAt.getD 0+1),le_max_left _ _,?_⟩
    intro now hnow agentCode routing hserved
    refine served_claimable hattempts hstatus hserved ?_
    intro e he
    have hlate := (le_max_right _ _).trans hnow
    simp only [he,Option.getD_some] at hlate
    omega

def plainEnv : Env :=
  ⟨⟨id,fun _ => none⟩,id,fun _ => [],id,fun _ _ => ("^XA".toList,[]),.null,fun content _ => content,
    fun _ => []⟩

theorem plainEnv_normalizes : plainEnv.Normalizes := trim_trim

def onePlace : OrderUpdates.Places := ⟨[OrderUpdates.mainWarehouse],[],[]⟩

def here : Uuid := OrderUpdates.mainWarehouse.id

def claimBy (agentCode : Char) : Request := .claim {agentCode := [agentCode], token := ['t']}

/-- A call and as many of its statements. -/
def calls (i n : ℕ) (request : Request) : List Action :=
  .start i "MAIN".toList 1 request::List.replicate n (.advance i 10)

/-- Two agents without printers of their own, and a label that agent `A` claims. -/
def claimedByA : List Action :=
  [.upsertPrintAgent here ['A'] ['t'] none none,.upsertPrintAgent here ['B'] ['t'] none none]++
    calls 0 2 (.create {renderedZpl := some "^XA".toList})++calls 1 6 (claimBy 'A')

def demoState (as : List Action) : System := (System.initial onePlace).run plainEnv as

def anyJob : PrintAgentRouting := ⟨[],true,true⟩

def agentB : PrintAgent := ⟨here,['B'],['t'],.OFFLINE,.null,0,none,none⟩

def jobOfA : PrintJob :=
  ⟨10,here,none,some ['A'],none,1,.CLAIMED,1,1,3,.object [],"^XA".toList,1,none,none,none,some 0,
    some 120,none,0⟩

/-- An expired claim of `A` is one that `B` may take over. -/
theorem print_claims_demo : jobOfA.selected here ['B'] anyJob 121=true ∧
    jobOfA.claimable here ['B'] 121=true :=
  ((print_claims plainEnv plainEnv_normalizes onePlace (claimedByA++[.tick 121])).2 jobOfA
    (by decide +kernel) agentB (by decide +kernel) anyJob 121).mpr (by decide +kernel)

/-- The routing rule itself refuses it: the job names `A`. -/
theorem expired_claim_taken_over :
    ¬∀ j∈(demoState (claimedByA++[.tick 121])).db.jobs.rows,
      ∀ a∈(demoState (claimedByA++[.tick 121])).db.agents,
      ∀ (routing : PrintAgentRouting) (now : ℕ),
      (j.selected a.warehouseId a.code routing now=true ∧
        j.claimable a.warehouseId a.code now=true) ↔
        j.warehouseId=a.warehouseId ∧ j.attempts < j.maxAttempts ∧
          (j.status=.QUEUED ∨ j.status=.CLAIMED ∧ j.leaseExpired now=true) ∧
          isRuntimePrintJobClaimableByAgent plainEnv j.agentCode j.printerCode a.code routing=true := by
  intro h
  have hB := h jobOfA (by decide +kernel) agentB (by decide +kernel) anyJob 121
  revert hB
  decide +kernel

def printingByA : List Action :=
  claimedByA++calls 2 6 (.report 10 {agentCode := ['A'], token := ['t'], status := .PRINTING})

/-- An agent that stops while it prints leaves a job that no agent claims again. -/
theorem printing_not_claimed :
    ¬∀ j∈(demoState printingByA).db.jobs.rows,
      j.status=.QUEUED ∨ j.status=.CLAIMED ∨ j.status=.PRINTING → j.attempts < j.maxAttempts →
      ∃ agentCode routing now, j.selected j.warehouseId agentCode routing now=true ∧
        j.claimable j.warehouseId agentCode now=true := by
  intro h
  let j : PrintJob := {jobOfA with status := .PRINTING}
  obtain ⟨agentCode,routing,now,_,hclaim⟩ := h j (by decide +kernel) (.inr (.inr rfl)) (by decide)
  simp [j,PrintJob.claimable] at hclaim

end AardvarkWms.PrintJobs
