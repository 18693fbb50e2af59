import AardvarkWms.OfflineScans
import AardvarkWms.SerialCalls
import AardvarkWms.TaskRuns

/-! The quantity of a scanned pick: what the operator confirms at one step of the session, and
what the scan that ends the session takes. -/
namespace AardvarkWms.PickedQuantity

open Transactions Transactions.Txn Relational
open OfflineScans (openStep)

/-- A scan of a session, with the state that it found and the state that it left. -/
structure ScanStep where
  before : WmsDb
  dto : ScanRfStepDto
  after : WmsDb

/-- The task of a session with the rows that its plan shows. -/
def sessionTask (d : WmsDb) (session : ScannerSession) : Option RfTask :=
  session.taskId.bind fun id =>
    ((d .warehouseTasks).rows.find? fun t =>
      t.warehouseId=session.warehouseId && t.isNamedBy (.uuid id)).map fun task =>
        ⟨task,task.fromLocationId.bind (d .warehouseLocations).get?,
          task.toLocationId.bind (d .warehouseLocations).get?,task.skuId.bind (d .skus).get?⟩

def pickedTask (d : WmsDb) (sessionId : ℕ) : Option WarehouseTask :=
  ((d .scannerSessions).get? sessionId).bind fun session => (sessionTask d session).map (·.task)

def pickedQuantId (d : WmsDb) (task : WarehouseTask) : Option ℕ :=
  (task.reservationId.bind (d .reservations).get?).map (·.stockQuantId)

/-- The step that a scan completes, if it is the one that the session waits for. -/
def ScanStep.accepted (sessionId : ℕ) (x : ScanStep) : Option RfStepKey :=
  ((openStep x.before sessionId).filter fun step =>
    isExpectedScan step.expected x.dto.scannedValue).map (·.stepKey)

/-- What the operator confirms: the quantity field, or the number that was scanned, or else the
quantity that the step shows. -/
def confirmedQuantity (task : WarehouseTask) (dto : ScanRfStepDto) : ℤ :=
  (dto.quantity <|> dto.spelled <|> task.quantity).getD 0

def quantOnHand (d : WmsDb) (quantId : ℕ) : ℤ := (onHand d quantId).getD 0

def linePicked (d : WmsDb) (lineId : ℕ) : ℤ :=
  (((d .outboundOrderLines).get? lineId).map (·.pickedQuantity)).getD 0

/-- What the scans took from a quant. -/
def removed (quantId : ℕ) (steps : List ScanStep) : ℤ :=
  (steps.map fun x => quantOnHand x.before quantId-quantOnHand x.after quantId).sum

/-- What the scans credited to an order line. -/
def credited (lineId : ℕ) (steps : List ScanStep) : ℤ :=
  (steps.map fun x => linePicked x.after lineId-linePicked x.before lineId).sum

/-- What a session of a pick task shows: its steps and the quantity. -/
structure Shown where
  plan : List RfStepPlan
  quantity : Option ℤ

def taskShown (t : RfTask) : Shown := ⟨buildRfStepPlanSequence t,t.task.quantity⟩

/-- The session is active for a pick task that shows this. -/
structure Picks (d : WmsDb) (sessionId : ℕ) (shown : Shown) : Prop where
  session : ∃ s, (d .scannerSessions).get? sessionId=some s ∧ s.status=.ACTIVE ∧
    ∃ t, sessionTask d s=some t ∧ t.task.type=.PICK ∧ taskShown t=shown

def openSteps (d : WmsDb) (sessionId : ℕ) : List ScannerWorkflowStep :=
  (d .scannerWorkflowSteps).rows.filter fun s => s.sessionId=sessionId && s.status=.OPEN

/-- It waits for step `i` of the plan, and for no other. -/
structure Waits (d : WmsDb) (sessionId : ℕ) (shown : Shown) (i : ℕ) : Prop extends
    Picks d sessionId shown where
  waits : ∃ step plan, openSteps d sessionId=[step] ∧ shown.plan[i]?=some plan ∧
    step.stepKey=plan.key ∧ step.expected=plan.expected

/-- What others may do between two scans of a session: they leave its row and its steps, and what
its task shows. -/
structure Meanwhile (sessionId : ℕ) (d d' : WmsDb) : Prop where
  session : (d' .scannerSessions).get? sessionId=(d .scannerSessions).get? sessionId
  steps : openSteps d' sessionId=openSteps d sessionId
  task : ∀ s t, (d .scannerSessions).get? sessionId=some s → sessionTask d s=some t →
    ∃ t', sessionTask d' s=some t' ∧ t'.task.type=t.task.type ∧ taskShown t'=taskShown t

/-- Scans of a session one after the other, with other changes between them. -/
inductive ScanRun (warehouse : Text) (sessionId : ℕ) : WmsDb → List ScanStep → WmsDb → Prop
  | nil (d : WmsDb) : ScanRun warehouse sessionId d [] d
  | scan {d e e' d' : WmsDb} {steps : List ScanStep} {dto : ScanRfStepDto}
      (h : ScanRun warehouse sessionId d steps e) (hothers : Meanwhile sessionId e e')
      (hscan : Ran store (scan warehouse sessionId dto) e' () d') :
      ScanRun warehouse sessionId d (steps++[⟨e',dto,d'⟩]) d'

section Scans
variable {d d' : WmsDb}

theorem ran_sessionTask {session : ScannerSession} {o : Option RfTask}
    (h : Ran store (resolveSessionTask session.warehouseId session.taskId) d o d') :
    o=sessionTask d session := by
  unfold sessionTask
  cases hid : session.taskId with
  | none =>
    rw [hid] at h
    exact h.1
  | some id =>
    rw [hid] at h
    simp only [resolveSessionTask,resolveRfTask,includeTask,bind_eq,pure_eq,ran_bind,ran_demand,
      ran_done] at h
    obtain ⟨task,_,⟨_,_,hfound,rfl,rfl⟩,_,_,⟨l,_,hl,l',_,hl',k,_,hk,rfl,rfl⟩,rfl,rfl⟩ := h
    obtain ⟨hfind,rfl⟩ := ran_findFirst.mp hfound
    obtain ⟨rfl,rfl⟩ := ran_findOptional.mp hl
    obtain ⟨rfl,rfl⟩ := ran_findOptional.mp hl'
    obtain ⟨rfl,rfl⟩ := ran_findOptional.mp hk
    rw [Option.bind_some,← hfind]
    rfl

/-- What a scan finds: the session is active and waits for a step. -/
structure Found (d : WmsDb) (sessionId : ℕ) (s : ScannerSession) (step : ScannerWorkflowStep) :
    Prop where
  session : (d .scannerSessions).get? sessionId=some s
  active : s.status=.ACTIVE
  waits : openStep d sessionId=some step

/-- The step is done and the next one waits. -/
def advanced (sessionId : ℕ) (step : ScannerWorkflowStep) (next : RfStepPlan) (n : ℕ) (d : WmsDb) :
    WmsDb :=
  apply (D := wms) (.insert .scannerWorkflowSteps ⟨n,sessionId,next.key,step.sequence+1,.OPEN,next.expected⟩)
    (apply (D := wms) (.update .scannerWorkflowSteps step.id .COMPLETED) d)

/-- The step and its session are done. -/
def closed (sessionId : ℕ) (step : ScannerWorkflowStep) (d : WmsDb) : WmsDb :=
  apply (D := wms) (.update .scannerSessions sessionId .COMPLETED)
    (apply (D := wms) (.update .scannerWorkflowSteps step.id .COMPLETED) d)

theorem ran_scan_cases {warehouse : Text} {sessionId : ℕ} {dto : ScanRfStepDto} {u : Unit}
    (h : Ran store (scan warehouse sessionId dto) d u d') :
    ∃ s step, Found d sessionId s step ∧
      ((isExpectedScan step.expected dto.scannedValue=false ∧ d'=d) ∨
      (isExpectedScan step.expected dto.scannedValue=true ∧ ∃ next n,
        (sessionTask d s).bind (getNextStepAfterScan · step.stepKey)=some next ∧
        ((apply (D := wms) (.update .scannerWorkflowSteps step.id .COMPLETED) d)
          .scannerWorkflowSteps).get? n=none ∧ d'=advanced sessionId step next n d) ∨
      (isExpectedScan step.expected dto.scannedValue=true ∧
        (sessionTask d s).bind (getNextStepAfterScan · step.stepKey)=none ∧
        Ran store (completeTaskAfterRfScan s.warehouseId ((sessionTask d s).map (·.task)) dto)
          (closed sessionId step d) u d')) := by
  simp only [scan,resolveSession,bind_eq,pure_eq,ran_bind,ran_require,ran_demand] at h
  obtain ⟨w,_,hwarehouse,s,_,⟨_,_,hsession,hs,rfl⟩,_,_,⟨hactive,rfl⟩,task,_,htask,found,_,hfound,
    step,_,⟨hstep,rfl⟩,h⟩ := h
  obtain rfl := hwarehouse.reads (only_resolveWarehouse _)
  obtain ⟨rfl,rfl⟩ := ran_findWhere.mp hsession
  obtain ⟨hget,hin⟩ := Option.filter_eq_some_iff.mp hs
  have hid : s.id=sessionId := Table.key_of_get? hget
  have hw : s.warehouseId=w.id := by simpa using hin
  obtain rfl := htask.reads (only_resolveSessionTask _ _)
  obtain rfl := hfound.reads (only_getOpenStep _)
  rw [← hw] at htask h
  obtain rfl := ran_sessionTask htask
  simp only [getOpenStep,bind_eq,pure_eq,ran_bind,ran_done] at hfound
  obtain ⟨rows,_,hrows,hhead,_⟩ := hfound
  obtain ⟨rfl,_⟩ := ran_findMany.mp hrows
  have hwaits : openStep d sessionId=some step := by
    rw [← hstep,hhead,hid]
    rfl
  refine ⟨s,step,⟨hget,hactive,hwaits⟩,?_⟩
  simp only [ran_ite] at h
  rcases h with ⟨hexpected,h⟩|⟨hnot,_,rfl⟩
  · simp only [ran_bind] at h
    obtain ⟨_,e,hcompleted,h⟩ := h
    obtain ⟨_,rfl⟩ := (ran_update (D := wms) _ _).mp hcompleted
    cases hnext : (sessionTask d s).bind (getNextStepAfterScan · step.stepKey) with
    | some next =>
      rw [hnext] at h
      simp only [createScannerStep,bind_eq,ran_bind,ran_fresh] at h
      obtain ⟨n,_,rfl,hinsert⟩ := h
      obtain ⟨hnone,rfl⟩ := Ran.insert hinsert
      exact Or.inr (Or.inl ⟨hexpected,next,n,rfl,hnone,by rw [advanced,hid]⟩)
    | none =>
      rw [hnext] at h
      simp only [ran_bind] at h
      obtain ⟨_,e,hended,h⟩ := h
      obtain ⟨_,rfl⟩ := (ran_update (D := wms) _ _).mp hended
      rw [hid] at h
      exact Or.inr (Or.inr ⟨hexpected,rfl,h⟩)
  · exact Or.inl ⟨by simpa using hnot,rfl⟩

/-- The tables that a pick's effect is read from. -/
def effectTables : TableName → Bool
  | .stockQuants | .outboundOrderLines | .scannerSessions => true
  | _ => false

/-- What the last scan of a pick takes. -/
def pickQuantity (task : WarehouseTask) (dto : ScanRfStepDto) : ℤ :=
  (dto.quantity <|> task.quantity).getD 0

theorem ran_pick {warehouseId : ℕ} {task : WarehouseTask} {dto : ScanRfStepDto} {u : Unit}
    (h : Ran store (completePickTask warehouseId task dto) d u d') :
    ∃ r q line, task.reservationId.bind (d .reservations).get?=some r ∧
      (d .stockQuants).get? r.stockQuantId=some q ∧ task.outboundOrderLineId=some line.id ∧
      (d .outboundOrderLines).get? line.id=some line ∧
      SameOn effectTables (after [.update .stockQuants q.id
          {quantity := .decrement (pickQuantity task dto),
           reservedQuantity := .decrement (pickQuantity task dto), version := 1},
        .update .outboundOrderLines line.id (.increment (pickQuantity task dto))] d) d' :=
  ran_pickedQuant rfl h

/-- The last scan of a pick: what leaves the quant is credited to the line, and the session is
over. -/
theorem took {sessionId warehouseId : ℕ} {step : ScannerWorkflowStep} {task : WarehouseTask}
    {session : ScannerSession} {dto : ScanRfStepDto} {u : Unit}
    (hsession : (d .scannerSessions).get? sessionId=some session)
    (h : Ran store (completePickTask warehouseId task dto) (closed sessionId step d) u d') :
    ∃ quantId lineId, pickedQuantId d task=some quantId ∧ task.outboundOrderLineId=some lineId ∧
      quantOnHand d' quantId=quantOnHand d quantId-pickQuantity task dto ∧
      linePicked d' lineId=linePicked d lineId+pickQuantity task dto ∧
      (d' .scannerSessions).get? sessionId=some {session with status := .COMPLETED} := by
  obtain ⟨r,q,line,hr,hq,hlineId,hline,hsame⟩ := ran_pick h
  have hquants := hsame .stockQuants rfl
  have hlines := hsame .outboundOrderLines rfl
  have hsessions := hsame .scannerSessions rfl
  have hqid : q.id=r.stockQuantId := Table.key_of_get? hq
  rw [← hqid] at hq
  have hq' : (d .stockQuants).get? q.id=some q := hq
  have hline' : (d .outboundOrderLines).get? line.id=some line := hline
  refine ⟨q.id,line.id,?_,hlineId,?_,?_,?_⟩
  · have hr' : task.reservationId.bind (d .reservations).get?=some r := hr
    rw [pickedQuantId,hr',Option.map_some,hqid]
  · unfold quantOnHand onHand
    rw [← hquants,hq']
    simp [closed,hq',TableName.patch,StockQuantUpdate.patch,Change.apply]
  · unfold linePicked
    rw [← hlines,hline']
    simp [closed,hline',TableName.patch,Change.apply]
  · rw [← hsessions]
    simp [closed,hsession,TableName.patch]

end Scans

theorem plan_keys (t : RfTask) (htype : t.task.type=.PICK) :
    ((buildRfStepPlanSequence t).map (·.key)).Nodup ∧
      .CONFIRM_QUANTITY∈(buildRfStepPlanSequence t).map (·.key) := by
  unfold buildRfStepPlanSequence
  rw [htype]
  cases hfrom : t.fromLocation <;> cases hto : t.toLocation <;> cases hcode : t.task.handlingUnitCode <;>
    cases hsku : t.sku <;>
    simp [rfWorkflowDefinitions,stepPlanFromDefinition,sourceStep,destinationStep,itemOrHuStep,
      confirmStep,locationStep,itemStep,handlingUnitStep,quantityStep,dedupeConsecutiveStepKeys,
      hfrom,hto,hcode,hsku]

theorem next_eq {plan : List RfStepPlan} (hn : (plan.map (·.key)).Nodup) {i : ℕ} {x : RfStepPlan}
    (hx : plan[i]?=some x) : (plan.dropWhile (·.key≠x.key)).tail.head?=plan[i+1]? := by
  induction plan generalizing i with
  | nil => simp at hx
  | cons y plan ih =>
    rw [List.map_cons,List.nodup_cons] at hn
    cases i with
    | zero =>
      obtain rfl := Option.some.inj hx
      simp [List.head?_eq_getElem?]
    | succ i =>
      have hmem : x.key∈plan.map (·.key) :=
        List.mem_map.mpr ⟨x,List.mem_of_getElem? hx,rfl⟩
      have hne : y.key≠x.key := fun he => hn.1 (he ▸ hmem)
      simpa [hne] using ih hn.2 hx

section Progress
variable {d d' : WmsDb} {sessionId : ℕ} {shown : Shown} {i : ℕ}

theorem Waits.meanwhile (h : Waits d sessionId shown i) (hothers : Meanwhile sessionId d d') :
    Waits d' sessionId shown i := by
  obtain ⟨⟨s,hs,hactive,t,ht,htype,hshown⟩,hwaits⟩ := h
  obtain ⟨t',ht',htype',hshown'⟩ := hothers.task s t hs ht
  refine ⟨⟨s,hothers.session ▸ hs,hactive,t',ht',htype'.trans htype,hshown'.trans hshown⟩,?_⟩
  rw [hothers.steps]
  exact hwaits

theorem openStep_eq {step : ScannerWorkflowStep} (h : openSteps d sessionId=[step]) :
    openStep d sessionId=some step := by
  unfold openStep
  unfold openSteps at h
  rw [h]
  rfl

theorem sessionTask_advanced (step : ScannerWorkflowStep) (next : RfStepPlan) (n : ℕ)
    (session : ScannerSession) :
    sessionTask (advanced sessionId step next n d) session=sessionTask d session := by
  simp [sessionTask,advanced]

theorem openSteps_advanced {step : ScannerWorkflowStep} {next : RfStepPlan} {n : ℕ}
    (hone : openSteps d sessionId=[step])
    (hnew : ((apply (D := wms) (.update .scannerWorkflowSteps step.id .COMPLETED) d)
      .scannerWorkflowSteps).get? n=none) :
    openSteps (advanced sessionId step next n d) sessionId=
      [⟨n,sessionId,next.key,step.sequence+1,.OPEN,next.expected⟩] := by
  have hdone : openSteps (apply (D := wms) (.update .scannerWorkflowSteps step.id .COMPLETED) d)
      sessionId=[] := by
    refine List.filter_eq_nil_iff.mpr fun r hr => ?_
    rw [apply_update_self] at hr
    obtain ⟨x,hx,rfl⟩ := List.mem_map.mp hr
    by_cases hid : x.id=step.id
    · simp [TableName.key,hid,TableName.patch]
    · intro hopen
      have hkey : ¬TableName.key (t := .scannerWorkflowSteps) x=step.id := hid
      rw [if_neg hkey] at hopen
      have hmem : x∈openSteps d sessionId := List.mem_filter.mpr ⟨hx,hopen⟩
      rw [hone] at hmem
      exact hid (congrArg ScannerWorkflowStep.id (List.mem_singleton.mp hmem))
  unfold openSteps at hdone ⊢
  rw [advanced,apply_insert_self,Table.rows_insert hnew,List.filter_append,hdone]
  simp

/-- The scans so far completed the first `i` steps of the plan, and left quants and lines alone. -/
structure Progress (sessionId : ℕ) (shown : Shown) (steps : List ScanStep) (i : ℕ) : Prop where
  keys : steps.filterMap (·.accepted sessionId)=(shown.plan.take i).map (·.key)
  still : ∀ x∈steps, x.after .stockQuants=x.before .stockQuants ∧
    x.after .outboundOrderLines=x.before .outboundOrderLines

/-- What the last scan of a pick did. -/
structure Took (sessionId : ℕ) (shown : Shown) (last : ScanStep) (task : WarehouseTask)
    (quantId lineId : ℕ) : Prop where
  ofTask : pickedTask last.before sessionId=some task
  shows : task.quantity=shown.quantity
  quant : pickedQuantId last.before task=some quantId
  line : task.outboundOrderLineId=some lineId
  taken : quantOnHand last.after quantId=quantOnHand last.before quantId-pickQuantity task last.dto
  credited : linePicked last.after lineId=linePicked last.before lineId+pickQuantity task last.dto

/-- The session is over: its last scan completed the last step and took the stock. -/
structure Finished (sessionId : ℕ) (shown : Shown) (steps : List ScanStep) (d : WmsDb) : Prop where
  ended : ∃ s, (d .scannerSessions).get? sessionId=some s ∧ s.status=.COMPLETED
  last : ∃ before last i task quantId lineId, steps=before++[last] ∧
    Progress sessionId shown before i ∧ steps.filterMap (·.accepted sessionId)=shown.plan.map (·.key) ∧
    Took sessionId shown last task quantId lineId

theorem Waits.plan (h : Waits d sessionId shown i) : (shown.plan.map (·.key)).Nodup ∧
    .CONFIRM_QUANTITY∈shown.plan.map (·.key) := by
  obtain ⟨⟨s,hs,hactive,t,ht,htype,rfl⟩,hwaits⟩ := h
  exact plan_keys t htype

theorem Waits.scan (h : Waits d sessionId shown i) {steps : List ScanStep} {warehouse : Text}
    {dto : ScanRfStepDto} (hprogress : Progress sessionId shown steps i)
    (hscan : Ran store (scan warehouse sessionId dto) d () d') :
    (∃ j, Waits d' sessionId shown j ∧ Progress sessionId shown (steps++[⟨d,dto,d'⟩]) j) ∨
      Finished sessionId shown (steps++[⟨d,dto,d'⟩]) d' := by
  obtain ⟨s,step,hfound,hcases⟩ := ran_scan_cases hscan
  have hplan := h.plan
  obtain ⟨⟨s',hs',hactive,t,ht,htype,hshown⟩,step',planned,hone,hplanned,hkey,hexpected⟩ := h
  obtain rfl : s'=s := Option.some.inj (hs'.symm.trans hfound.session)
  obtain rfl : step'=step := Option.some.inj ((openStep_eq hone).symm.trans hfound.waits)
  have hnext : (sessionTask d s').bind (getNextStepAfterScan · step'.stepKey)=shown.plan[i+1]? := by
    rw [ht,Option.bind_some,hkey,← next_eq hplan.1 hplanned,← hshown]
    rfl
  have hkeys : isExpectedScan step'.expected dto.scannedValue=true →
      (steps++[(⟨d,dto,d'⟩ : ScanStep)]).filterMap (·.accepted sessionId)=(shown.plan.take (i+1)).map (·.key) := by
    intro hexpected
    have haccepted : ScanStep.accepted sessionId ⟨d,dto,d'⟩=some planned.key := by
      simp [ScanStep.accepted,hfound.waits,hexpected,hkey]
    rw [List.filterMap_append,hprogress.keys,List.take_add_one,hplanned,List.map_append]
    simp [haccepted]
  rcases hcases with ⟨hnot,rfl⟩|⟨hexpected',next,n,hsome,hnone,rfl⟩|⟨hexpected',hlast,hcomplete⟩
  · have haccepted : ScanStep.accepted sessionId ⟨d',dto,d'⟩=none := by
      simp [ScanStep.accepted,hfound.waits,hnot]
    refine Or.inl ⟨i,⟨⟨s',hs',hactive,t,ht,htype,hshown⟩,step',planned,hone,hplanned,hkey,hexpected⟩,
      ⟨?_,?_⟩⟩
    · rw [List.filterMap_append,hprogress.keys]
      simp [haccepted]
    · exact List.forall_mem_append.mpr ⟨hprogress.still,List.forall_mem_singleton.mpr ⟨rfl,rfl⟩⟩
  · rw [hnext] at hsome
    refine Or.inl ⟨i+1,⟨⟨s',?_,hactive,t,?_,htype,hshown⟩,?_⟩,⟨hkeys hexpected',?_⟩⟩
    · simpa [advanced] using hs'
    · rw [sessionTask_advanced]
      exact ht
    · exact ⟨_,next,openSteps_advanced hone hnone,hsome,rfl,rfl⟩
    · refine List.forall_mem_append.mpr ⟨hprogress.still,List.forall_mem_singleton.mpr ⟨?_,?_⟩⟩
      · simp [advanced]
      · simp [advanced]
  · rw [hnext] at hlast
    rw [ht,Option.map_some,completeTaskAfterRfScan,if_pos htype] at hcomplete
    obtain ⟨quantId,lineId,hquant,hline,htaken,hcredited,hover⟩ := took hs' hcomplete
    have hlength : shown.plan.length ≤ i+1 := List.getElem?_eq_none_iff.mp hlast
    refine Or.inr ⟨⟨_,hover,rfl⟩,steps,⟨d,dto,d'⟩,i,t.task,quantId,lineId,rfl,hprogress,?_,?_⟩
    · rw [hkeys hexpected',List.take_of_length_le hlength]
    · refine ⟨?_,by rw [← hshown]; rfl,hquant,hline,htaken,hcredited⟩
      simp [pickedTask,hs',ht]

theorem run_progress {warehouse : Text} {steps : List ScanStep} (h : Waits d sessionId shown 0)
    (hrun : ScanRun warehouse sessionId d steps d') :
    (∃ i, Waits d' sessionId shown i ∧ Progress sessionId shown steps i) ∨
      Finished sessionId shown steps d' := by
  induction hrun with
  | nil => exact Or.inl ⟨0,h,⟨rfl,fun x hx => by cases hx⟩⟩
  | scan hrun hothers hscan ih =>
    cases ih with
    | inl hwaits =>
      obtain ⟨i,hwaits,hprogress⟩ := hwaits
      exact (hwaits.meanwhile hothers).scan hprogress hscan
    | inr hfinished =>
      obtain ⟨s,hs,hstatus⟩ := hfinished.ended
      obtain ⟨s',_,hfound,_⟩ := ran_scan_cases hscan
      have hsame := hfound.session
      rw [hothers.session,hs] at hsame
      obtain rfl := Option.some.inj hsame
      have hactive := hfound.active
      rw [hstatus] at hactive
      cases hactive

end Progress

section Confirmed
variable {d d' : WmsDb} {sessionId : ℕ} {shown : Shown} {steps : List ScanStep}

theorem Progress.sums {i : ℕ} (h : Progress sessionId shown steps i) (quantId lineId : ℕ) :
    removed quantId steps=0 ∧ credited lineId steps=0 := by
  have hstill := h.still
  clear h
  induction steps with
  | nil => exact ⟨rfl,rfl⟩
  | cons x steps ih =>
    have hx := hstill x List.mem_cons_self
    have hrest := ih fun y hy => hstill y (List.mem_cons_of_mem x hy)
    unfold removed credited at hrest ⊢
    rw [List.map_cons,List.map_cons,List.sum_cons,List.sum_cons,hrest.1,hrest.2]
    simp [quantOnHand,onHand,linePicked,hx.1,hx.2]

theorem confirmed_once (hplan : (shown.plan.map (·.key)).Nodup ∧
      .CONFIRM_QUANTITY∈shown.plan.map (·.key))
    (hkeys : steps.filterMap (·.accepted sessionId)=shown.plan.map (·.key)) :
    ∃ confirm, steps.filter (·.accepted sessionId==some .CONFIRM_QUANTITY)=[confirm] := by
  have hcount : (shown.plan.map (·.key)).count .CONFIRM_QUANTITY=1 :=
    List.count_eq_one_of_mem hplan.1 hplan.2
  rw [← hkeys,List.count_filterMap,List.countP_eq_length_filter] at hcount
  exact List.length_eq_one_iff.mp hcount

/-- For every session of a pick task and every sequence of scans that ends it: one scan confirms the
quantity, and as much leaves the quant and is credited to the line exactly if the last scan's
quantity field, or else the task's quantity, is what was confirmed. -/
theorem rf_picks_what_was_confirmed {warehouse : Text} (hwaits : Waits d sessionId shown 0)
    (hrun : ScanRun warehouse sessionId d steps d')
    (hover : ((d' .scannerSessions).get? sessionId).map (·.status)=some .COMPLETED) :
    ∃ confirm last task quantId lineId,
      steps.filter (·.accepted sessionId==some .CONFIRM_QUANTITY)=[confirm] ∧
      steps.getLast?=some last ∧ pickedTask last.before sessionId=some task ∧
      pickedQuantId last.before task=some quantId ∧ task.outboundOrderLineId=some lineId ∧
      ((removed quantId steps=confirmedQuantity task confirm.dto ∧
        credited lineId steps=confirmedQuantity task confirm.dto) ↔
        (last.dto.quantity <|> task.quantity).getD 0=
          (confirm.dto.quantity <|> confirm.dto.spelled <|> task.quantity).getD 0) := by
  cases run_progress hwaits hrun with
  | inl hunfinished =>
    obtain ⟨i,⟨⟨s,hs,hactive,_⟩,_⟩,_⟩ := hunfinished
    rw [hs,Option.map_some,hactive] at hover
    cases hover
  | inr hfinished =>
    obtain ⟨before,last,i,task,quantId,lineId,rfl,hprogress,hkeys,htook⟩ := hfinished.last
    obtain ⟨confirm,hconfirm⟩ := confirmed_once hwaits.plan hkeys
    have hnone := hprogress.sums quantId lineId
    have hremoved : removed quantId (before++[last])=pickQuantity task last.dto := by
      have hlast : removed quantId (before++[last])=removed quantId before+
          (quantOnHand last.before quantId-quantOnHand last.after quantId) := by
        simp [removed]
      rw [hlast,hnone.1,htook.taken]
      omega
    have hcredited : credited lineId (before++[last])=pickQuantity task last.dto := by
      have hlast : credited lineId (before++[last])=credited lineId before+
          (linePicked last.after lineId-linePicked last.before lineId) := by
        simp [credited]
      rw [hlast,hnone.2,htook.credited]
      omega
    refine ⟨confirm,last,task,quantId,lineId,hconfirm,List.getLast?_concat,htook.ofTask,htook.quant,
      htook.line,?_⟩
    rw [hremoved,hcredited,and_self]
    exact Iff.rfl

/-- The state after a call that runs alone, drawing its ids from `n` on. -/
def afterCall (n : ℕ) (call : Wms Unit) (d : WmsDb) : WmsDb :=
  match alone store id call n [] (.start d) with
  | .ok e => e.ctx.view
  | .error _ => d

def returns (n : ℕ) (call : Wms Unit) (d : WmsDb) : Bool :=
  match alone store id call n [] (.start d) with
  | .ok _ => true
  | .error _ => false

theorem ran_afterCall {n : ℕ} {call : Wms Unit} (h : returns n call d=true) :
    Ran store call d () (afterCall n call d) := by
  unfold returns at h
  unfold afterCall
  split at h
  · rename_i e he
    exact Ran.alone he
  · cases h

theorem Meanwhile.refl (d : WmsDb) : Meanwhile sessionId d d where
  session := rfl
  steps := rfl
  task := fun _ t _ ht => ⟨t,ht,rfl,rfl⟩

end Confirmed

def someScan (value : Text) (spelled quantity : Option ℤ) (hs : ∀ n∈spelled, 0≤n)
    (hq : ∀ n∈quantity, 0≤n) : ScanRfStepDto :=
  ⟨value,spelled,quantity,hs,hq⟩

def locationScan : ScanRfStepDto := someScan (.word 3) none none nonneg_of_none nonneg_of_none

def skuScan : ScanRfStepDto := someScan (.word 7) none none nonneg_of_none nonneg_of_none

theorem nonneg_two : ∀ n∈some (2 : ℤ), 0≤n := by simp

/-- Two, as the scanned text or in the quantity field. -/
def spelledScan : ScanRfStepDto := someScan (.word 2) (some 2) none nonneg_two nonneg_of_none

def quantityScan : ScanRfStepDto := someScan (.word 2) (some 2) (some 2) nonneg_two nonneg_two

/-- The session on the pick of five, and its states as the scans leave them. -/
def demoBegun : WmsDb :=
  afterCall 10 (startSession (.word 1) {taskReference := some (.uuid 1)}) floor

def demoAtSku : WmsDb := afterCall 20 (scan (.word 1) 10 locationScan) demoBegun

def demoAtQuantity : WmsDb := afterCall 30 (scan (.word 1) 10 skuScan) demoAtSku

def demoDone (confirm : ScanRfStepDto) : WmsDb := afterCall 40 (scan (.word 1) 10 confirm) demoAtQuantity

theorem demo_run (confirm : ScanRfStepDto)
    (h : returns 40 (scan (.word 1) 10 confirm) demoAtQuantity=true) :
    ScanRun (.word 1) 10 demoBegun ([⟨demoBegun,locationScan,demoAtSku⟩]++
      [⟨demoAtSku,skuScan,demoAtQuantity⟩]++[⟨demoAtQuantity,confirm,demoDone confirm⟩])
      (demoDone confirm) := by
  have hlocation : returns 20 (scan (.word 1) 10 locationScan) demoBegun=true := rfl
  have hsku : returns 30 (scan (.word 1) 10 skuScan) demoAtSku=true := rfl
  exact (((ScanRun.nil demoBegun).scan (Meanwhile.refl _)
    (ran_afterCall hlocation)).scan (Meanwhile.refl _) (ran_afterCall hsku)).scan (Meanwhile.refl _) (ran_afterCall h)

def demoSteps (confirm : ScanRfStepDto) : List ScanStep :=
  [⟨demoBegun,locationScan,demoAtSku⟩,⟨demoAtSku,skuScan,demoAtQuantity⟩,
    ⟨demoAtQuantity,confirm,demoDone confirm⟩]

theorem demo_waits : ∃ shown, Waits demoBegun 10 shown 0 :=
  ⟨_,⟨⟨_,rfl,rfl,_,rfl,rfl,rfl⟩,_,_,rfl,rfl,rfl,rfl⟩⟩

/-- Two in the quantity field are taken. -/
theorem rf_picks_demo : ∃ confirm last task quantId lineId,
    (demoSteps quantityScan).filter (·.accepted 10==some .CONFIRM_QUANTITY)=[confirm] ∧
    (demoSteps quantityScan).getLast?=some last ∧ pickedTask last.before 10=some task ∧
    pickedQuantId last.before task=some quantId ∧ task.outboundOrderLineId=some lineId ∧
    ((removed quantId (demoSteps quantityScan)=confirmedQuantity task confirm.dto ∧
      credited lineId (demoSteps quantityScan)=confirmedQuantity task confirm.dto) ↔
      (last.dto.quantity <|> task.quantity).getD 0=
        (confirm.dto.quantity <|> confirm.dto.spelled <|> task.quantity).getD 0) := by
  obtain ⟨shown,hwaits⟩ := demo_waits
  have hreturns : returns 40 (scan (.word 1) 10 quantityScan) demoAtQuantity=true := rfl
  exact rf_picks_what_was_confirmed hwaits (demo_run quantityScan hreturns) rfl

/-- Two as the scanned text are confirmed, and the five of the task are taken. -/
theorem spelled_quantity_not_taken : ¬∀ (d d' : WmsDb) (warehouse : Text) (sessionId : ℕ)
    (shown : Shown) (steps : List ScanStep), Waits d sessionId shown 0 →
    ScanRun warehouse sessionId d steps d' →
    ((d' .scannerSessions).get? sessionId).map (·.status)=some .COMPLETED →
    ∀ confirm∈steps, confirm.accepted sessionId=some .CONFIRM_QUANTITY →
    ∀ last task quantId, steps.getLast?=some last → pickedTask last.before sessionId=some task →
    pickedQuantId last.before task=some quantId →
    removed quantId steps=confirmedQuantity task confirm.dto := by
  intro h
  obtain ⟨shown,hwaits⟩ := demo_waits
  have hreturns : returns 40 (scan (.word 1) 10 spelledScan) demoAtQuantity=true := rfl
  have hmem : (⟨demoAtQuantity,spelledScan,demoDone spelledScan⟩ : ScanStep)∈
      demoSteps spelledScan := by simp [demoSteps]
  have hall := h _ _ _ _ shown _ hwaits (demo_run spelledScan hreturns) rfl _ hmem rfl _ _ 1 rfl rfl rfl
  revert hall
  decide

end AardvarkWms.PickedQuantity
