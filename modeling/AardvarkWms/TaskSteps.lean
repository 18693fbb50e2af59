import AardvarkWms.Calls

/-! What the calls on warehouse tasks do to the task, to the stock on hand and to the
movements that name it. -/
namespace AardvarkWms

open Transactions Transactions.Txn Relational

def WarehouseTaskStatus.isTerminal : WarehouseTaskStatus → Bool
  | .DONE | .CANCELLED => true
  | _ => false

def taskTables : TableName → Bool
  | .stockQuants | .stockMovements | .warehouseTasks => true
  | _ => false

/-- The task is there and has not ended. -/
def OpenIn (v : WmsDb) (id : ℕ) : Prop :=
  ∃ t : WarehouseTask, (v .warehouseTasks).get? id=some t ∧ t.status.isTerminal=false

/-- A statement that changes a quant but not what is on hand of it. -/
def KeepsOnHand : Statement wms → Prop
  | .update .stockQuants _ p => p.quantity=.keep
  | _ => False

def onHand (v : WmsDb) (quantId : ℕ) : Option ℤ :=
  ((v .stockQuants).get? quantId).map (·.quantity)

/-- What a call does to a task: its statements on stock, the movement that records them,
the update of the task. -/
structure TaskChange where
  stock : List (Statement wms)
  movement : Option StockMovement
  task : ℕ
  update : WarehouseTaskUpdate

def TaskChange.writes (x : TaskChange) : List (Statement wms) :=
  x.stock++x.movement.toList.map (Statement.insert (D := wms) .stockMovements)
  ++[.update .warehouseTasks x.task x.update]

structure TaskChange.Valid (x : TaskChange) (v : WmsDb) : Prop where
  stock : ∀ w∈x.stock, w.table=.stockQuants
  still : x.movement=none → ∀ w∈x.stock, KeepsOnHand w
  movement : ∀ m∈x.movement, m.taskId=some x.task ∧ x.update.status=.DONE ∧
    (v .stockMovements).get? m.id=none

/-- A call leaves tasks and stock alone, or it changes a task that it is about, or one that
has not ended. -/
def TaskEffect (about : WmsCtx → ℕ → Prop) (c : WmsCtx) : Prop :=
  AppliesOn (D := wms) taskTables [] c.base c.view ∨
  ∃ x : TaskChange, x.Valid c.base ∧ AppliesOn (D := wms) taskTables x.writes c.base c.view ∧
    (about c x.task ∨ OpenIn c.base x.task)

/-- The task that a call read, by its id or as the first of those that it asked for. -/
def SawTask (c : WmsCtx) (t : WarehouseTask) : Prop :=
  c.Saw (Select.row (D := wms) .warehouseTasks t.id) (some t) ∨
  ∃ p ts, ts.head?=some t ∧ c.Saw (Select.rows (D := wms) .warehouseTasks p) ts

/-- The call read the task before it had ended. -/
def SawUnended (c : WmsCtx) (id : ℕ) : Prop :=
  ∃ t, SawTask c t ∧ t.status.isTerminal=false ∧ t.id=id

def SawOptional (c : WmsCtx) (t : TableName) : Option t.Id → Option t.Row → Prop
  | none, o => o=none
  | some id, o => c.Saw (Select.row (D := wms) t id) o

/-- By what the scan read, it is the expected one of the last step of its task. -/
structure Completes (dto : ScanRfStepDto) (c : WmsCtx) (t : RfTask) (step : ScannerWorkflowStep) :
    Prop where
  task : SawTask c t.task
  fromLocation : SawOptional c .warehouseLocations t.task.fromLocationId t.fromLocation
  toLocation : SawOptional c .warehouseLocations t.task.toLocationId t.toLocation
  sku : SawOptional c .skus t.task.skuId t.sku
  sawStep : ∃ sessionId steps, c.Saw (Select.rows (D := wms) .scannerWorkflowSteps fun s =>
      s.sessionId=sessionId && s.status=.OPEN) steps ∧
    (steps.insertionSort fun a b => a.sequence≤b.sequence).head?=some step
  expected : isExpectedScan step.expected dto.scannedValue=true
  last : getNextStepAfterScan t step.stepKey=none

/-- The demand that a confirmation read. -/
def SawDemand (c : WmsCtx) (d : ReplenishmentDemand) : Prop :=
  ∃ p ds, ds.head?=some d ∧ c.Saw (Select.rows (D := wms) .replenishmentDemands p) ds

namespace Call

/-- The calls of the warehouse task, scanner, putaway and replenishment services. -/
def worksOnTasks : Call → Bool
  | claimNext _ _ _ | assign _ _ _ _ | start _ _ _ _ | confirm _ _ _ | fail _ _ _ | cancel _ _ _
  | startSession _ _ | startTask _ _ _ _ | scan _ _ _ | reportTaskException _ _ _
  | confirmPutawayTask _ _ _ | confirmReplenishmentTask _ _ _ => true
  | _ => false

/-- The task that the call changes, going by what it read. The exception, the last scan and
the replenishment do not look at the status. -/
def About : Call → WmsCtx → ℕ → Prop
  | claimNext _ _ _, _, _ | startSession _ _, _, _ => False
  | reportTaskException _ _ _, c, id => ∃ t, SawTask c t ∧ t.id=id
  | scan _ _ dto, c, id => ∃ t step, Completes dto c t step ∧ t.task.id=id
  | confirmReplenishmentTask _ _ _, c, id => ∃ d, SawDemand c d ∧ d.warehouseTaskId=some id
  | _, c, id => SawUnended c id

end Call

theorem TaskChange.Valid.congr {x : TaskChange} {v v' : WmsDb} (h : x.Valid v)
    (hs : SameOn (D := wms) taskTables v v') : x.Valid v' :=
  ⟨h.stock,h.still,fun m hm => ⟨(h.movement m hm).1,(h.movement m hm).2.1,
    hs .stockMovements rfl ▸ (h.movement m hm).2.2⟩⟩

theorem SawTask.later {c c' : WmsCtx} {R : WmsDb → WmsDb → Prop} {t : WarehouseTask}
    (h : SawTask c t) (hc : c.Moves R c') : SawTask c' t := by
  rcases h with hrow|⟨p,ts,ht,hrows⟩
  · exact .inl (hc.saw hrow)
  · exact .inr ⟨p,ts,ht,hc.saw hrows⟩

theorem SawOptional.later {c c' : WmsCtx} {R : WmsDb → WmsDb → Prop} {t : TableName}
    {id : Option t.Id} {o : Option t.Row} (h : SawOptional c t id o) (hc : c.Moves R c') :
    SawOptional c' t id o := by
  cases id with
  | none => exact h
  | some id => exact hc.saw h

theorem Completes.later {dto : ScanRfStepDto} {c c' : WmsCtx} {R : WmsDb → WmsDb → Prop}
    {t : RfTask} {step : ScannerWorkflowStep} (h : Completes dto c t step) (hc : c.Moves R c') :
    Completes dto c' t step := by
  obtain ⟨sessionId,steps,hsaw,hhead⟩ := h.sawStep
  exact ⟨h.task.later hc,h.fromLocation.later hc,h.toLocation.later hc,h.sku.later hc,
    ⟨sessionId,steps,hc.saw hsaw,hhead⟩,h.expected,h.last⟩

theorem open_of_allowed {s s' : WarehouseTaskStatus} (h : s'∈allowedTransitions s) :
    s.isTerminal=false := by
  cases s with
  | DONE => cases h
  | CANCELLED => cases h
  | _ => rfl

/-- A statement on another table than those of tasks and stock. -/
abbrev AsideTasks (w : Statement wms) : Prop := ¬taskTables w.table=true

section Effects
variable {Mid : WmsCtx → Prop} {about : WmsCtx → ℕ → Prop} {d : WmsDb} {c : WmsCtx}

theorem idle_taskEffect (h : Reaching taskTables (.start d) [] c) : TaskEffect about c := by
  have hbase : c.base=d := h.base
  exact .inl (hbase ▸ h.view)

theorem wp_idle {prog : Wms Unit} (hp : Only AsideTasks prog) :
    wp store Mid prog (.start d) (fun _ c => TaskEffect about c) :=
  Reaching.wp_asides (Reaching.refl _) hp fun _ _ hc => idle_taskEffect hc

theorem taskEffect_of_reaching {x : TaskChange} (h : Reaching taskTables (.start d) x.writes c)
    (hx : x.Valid d) (habout : about c x.task ∨ OpenIn d x.task) : TaskEffect about c := by
  have hbase : c.base=d := h.base
  refine .inr ⟨x,?_,?_,?_⟩
  · rwa [hbase]
  · rw [hbase]
    exact h.view
  · rwa [hbase]

theorem wp_updateTask {id : ℕ} {u : WarehouseTaskUpdate} (hc : Reaching taskTables (.start d) [] c)
    (habout : ∀ c', c.Moves (AppliesOn (D := wms) taskTables [.update .warehouseTasks id u]) c' →
      about c' id ∨ OpenIn d id) :
    wp store Mid (update (D := wms) .warehouseTasks id u) c (fun _ c => TaskEffect about c) := by
  refine Reaching.wp_update (p := taskTables) (Reaching.refl c) fun c' hc' => ?_
  have hall : Reaching taskTables (.start d) (TaskChange.writes ⟨[],none,id,u⟩) c' := hc.append hc'
  exact taskEffect_of_reaching hall ⟨by simp,by simp,by simp⟩ (habout c' hc')

end Effects

/-! ### The warehouse task service -/

section Service
variable {Mid : WmsCtx → Prop} {ok : Statement wms → Prop} {c : WmsCtx}

theorem wp_findTask {warehouseId taskId : ℕ} {e : HttpException}
    {Q : WarehouseTask → WmsCtx → Prop}
    (h : ∀ t c', c.Moves Eq c' → SawTask c' t → t.id=taskId → Q t c') :
    wp store Mid (do
      let t ← findWhere (D := wms) .warehouseTasks taskId (·.warehouseId=warehouseId)
      demand t e) c Q := by
  simp only [bind_eq,wp_bind,wp_demand]
  refine wp_findWhere fun o ho t ht => ?_
  obtain ⟨rfl,_⟩ := Option.filter_eq_some_iff.mp ht
  obtain ⟨hid,_⟩ := ho t ht
  have hid : t.id=taskId := hid
  subst hid
  exact h t _ (c.moves_saw _ _) (.inl (Ctx.saw_saw _ _ _)) rfl

theorem wp_resolvePutawayTask {warehouseId taskId : ℕ} {Q : WarehouseTask → WmsCtx → Prop}
    (h : ∀ t c', c.Moves Eq c' → SawTask c' t → Q t c') :
    wp store Mid (resolvePutawayTask warehouseId taskId) c Q :=
  wp_findTask fun t c' hc hs _ => h t c' hc hs

namespace WarehouseTasks

theorem wp_resolveTask {warehouseId : ℕ} {reference : Text} {Q : WarehouseTask → WmsCtx → Prop}
    (h : ∀ t c', c.Moves Eq c' → SawTask c' t → Q t c') :
    wp store Mid (resolveTask warehouseId reference) c Q := by
  cases reference with
  | uuid id => exact wp_findTask fun t c' hc hs _ => h t c' hc hs
  | word n => trivial

theorem only_resolveUser (reference : Text) : Only ok (resolveUser reference) :=
  (only_findFirst (D := wms) _ _).bind fun _ => only_demand _ _

theorem only_resolveSku (reference : Text) : Only ok (WarehouseTasks.resolveSku reference) :=
  (only_findFirst (D := wms) _ _).bind fun _ => only_demand _ _

theorem only_resolveHandlingUnit (warehouseId : ℕ) (reference : Text) :
    Only ok (resolveHandlingUnit warehouseId reference) :=
  (only_findFirst (D := wms) _ _).bind fun _ => only_demand _ _

theorem only_resolveGiven {α : Type} {resolve : Text → Wms α} (reference : Option Text)
    (h : ∀ r, Only ok (resolve r)) : Only ok (resolveGiven reference resolve) := by
  cases reference with
  | none => exact only_done _
  | some r => exact (h r).bind fun _ => only_done _

theorem only_zoneLocations (zone : Option Text) : Only ok (zoneLocations zone) := by
  cases zone with
  | none => exact only_done _
  | some zone => exact (only_findMany (D := wms) _ _).bind fun _ => only_done _

variable {d : WmsDb}

theorem wp_updateSeen {t : WarehouseTask} {s : WarehouseTaskStatus} {u : WarehouseTaskUpdate}
    (hc : (Ctx.start d).Moves Eq c) (hs : SawTask c t) (hnext : s∈allowedTransitions t.status) :
    wp store Mid (update (D := wms) .warehouseTasks t.id u) c
      (fun _ c => TaskEffect SawUnended c) := by
  refine wp_updateTask ((Reaching.refl _).reads hc) fun c' hc' => .inl ?_
  exact ⟨t,hs.later hc',open_of_allowed hnext,rfl⟩

theorem wp_assign (w reference : Text) (dto : AssignWarehouseTaskDto) (actorId : ℕ) (d : WmsDb) :
    wp store Mid (assign w reference dto actorId) (.start d)
      (fun _ c => TaskEffect SawUnended c) := by
  simp only [assign,assertTransition,bind_eq,wp_bind,wp_require]
  refine wp_of_reads (only_resolveWarehouse _) fun warehouse c₁ h₁ => ?_
  refine wp_resolveTask fun t c₂ h₂ hs hnext => ?_
  refine wp_of_reads (only_resolveGiven _ only_resolveUser) fun user c₃ h₃ => ?_
  exact wp_updateSeen ((h₁.of_reads h₂).of_reads h₃) (hs.later h₃) hnext

theorem wp_start (w reference : Text) (dto : StartWarehouseTaskDto) (actorId : ℕ) (d : WmsDb) :
    wp store Mid (start w reference dto actorId) (.start d)
      (fun _ c => TaskEffect SawUnended c) := by
  simp only [start,assertTransition,bind_eq,wp_bind,wp_require]
  refine wp_of_reads (only_resolveWarehouse _) fun warehouse c₁ h₁ => ?_
  refine wp_resolveTask fun t c₂ h₂ hs hnext => ?_
  refine wp_of_reads (only_resolveGiven _ only_resolveUser) fun user c₃ h₃ => ?_
  exact wp_updateSeen ((h₁.of_reads h₂).of_reads h₃) (hs.later h₃) hnext

theorem wp_confirm (w reference : Text) (dto : ConfirmWarehouseTaskDto) (d : WmsDb) :
    wp store Mid (confirm w reference dto) (.start d) (fun _ c => TaskEffect SawUnended c) := by
  simp only [confirm,assertTransition,bind_eq,wp_bind,wp_require]
  refine wp_of_reads (only_resolveWarehouse _) fun warehouse c₁ h₁ => ?_
  refine wp_resolveTask fun t c₂ h₂ hs hnext => ?_
  have hlocation : ∀ r, Only (fun _ => False) (resolveLocation warehouse.id r) :=
    fun r => only_resolveLocation _ r
  refine wp_of_reads (only_resolveGiven _ hlocation) fun fromLocation c₃ h₃ => ?_
  refine wp_of_reads (only_resolveGiven _ hlocation) fun toLocation c₄ h₄ => ?_
  refine wp_of_reads (only_resolveGiven _ only_resolveSku) fun sku c₅ h₅ => ?_
  refine wp_of_reads (only_resolveGiven _ (only_resolveHandlingUnit _)) fun unit c₆ h₆ => ?_
  have hrest := ((h₃.of_reads h₄).of_reads h₅).of_reads h₆
  exact wp_updateSeen ((h₁.of_reads h₂).of_reads hrest) (hs.later hrest) hnext

theorem wp_fail (w reference : Text) (dto : FailWarehouseTaskDto) (d : WmsDb) :
    wp store Mid (fail w reference dto) (.start d) (fun _ c => TaskEffect SawUnended c) := by
  simp only [fail,assertTransition,bind_eq,wp_bind,wp_require]
  refine wp_of_reads (only_resolveWarehouse _) fun warehouse c₁ h₁ => ?_
  refine wp_resolveTask fun t c₂ h₂ hs hnext _ => ?_
  exact wp_updateSeen (h₁.of_reads h₂) hs hnext

theorem wp_cancel (w reference : Text) (dto : CancelWarehouseTaskDto) (d : WmsDb) :
    wp store Mid (cancel w reference dto) (.start d) (fun _ c => TaskEffect SawUnended c) := by
  simp only [cancel,assertTransition,bind_eq,wp_bind,wp_require]
  refine wp_of_reads (only_resolveWarehouse _) fun warehouse c₁ h₁ => ?_
  refine wp_resolveTask fun t c₂ h₂ hs hnext => ?_
  exact wp_updateSeen (h₁.of_reads h₂) hs hnext

/-- The user that a claim names, read for it. -/
structure NamedUser (d : WmsDb) (reference : Option Text) (user : Option User) : Prop where
  there : ∀ u∈user, (d .users).get? u.id=some u
  named : ∀ r∈reference, ∃ u∈user, userReferenceWhere u r=true
  none : reference=none → user=none

theorem wp_resolveGivenUser {reference : Option Text} {Q : Option User → WmsCtx → Prop}
    (h : ∀ user c', c.Moves Eq c' → NamedUser c.view reference user → Q user c') :
    wp store Mid (resolveGiven reference resolveUser) c Q := by
  cases reference with
  | none => exact h none c c.moves_refl ⟨by simp,by simp,fun _ => rfl⟩
  | some r =>
    simp only [resolveGiven,resolveUser,bind_eq,pure_eq,wp_bind,wp_done,wp_demand]
    refine wp_findFirst fun us hus u hu => ?_
    obtain ⟨hnamed,hsettled⟩ := hus u hu
    refine h (some u) _ (c.moves_saw _ _) ⟨?_,?_,by simp⟩
    · rintro u' ⟨⟩
      exact row_of_settled (fun _ => rfl) hsettled
    · rintro r' ⟨⟩
      exact ⟨u,rfl,hnamed⟩

/-- The claim locks the task before it reads it again. -/
theorem wp_claims {w : Text} {dto : ClaimNextWarehouseTaskDto} {actorId : ℕ} {d : WmsDb}
    {Q : WarehouseTask → WmsCtx → Prop}
    (h : ∀ t (user : Option User) u c, u=claimed dto ((user.map (·.id)).getD actorId) →
      (d .warehouseTasks).get? t.id=some t → .ASSIGNED∈allowedTransitions t.status →
      NamedUser d dto.assignedUserReference user →
      (Ctx.start d).Moves (AppliesOn (D := wms) taskTables [.update .warehouseTasks t.id u]) c →
      Q (u.patch t) c) :
    wp store Mid (claimNext w dto actorId) (.start d) Q := by
  simp only [claimNext,assertTransition,resolveTask,bind_eq,pure_eq,wp_bind,wp_require,wp_demand,
    wp_lockRow,wp_done]
  refine wp_of_reads (only_resolveWarehouse _) fun warehouse c₁ h₁ => ?_
  refine wp_resolveGivenUser fun user c₂ h₂ huser => ?_
  refine wp_of_reads (only_zoneLocations _) fun zone c₃ h₃ => ?_
  refine wp_of_reads (only_findMany (D := wms) _ _) fun tasks c₄ h₄ candidate _ => ?_
  have hreads := ((h₁.of_reads h₂).of_reads h₃).of_reads h₄
  have hview : c₄.view=d := hreads.view.symm
  have hview₁ : c₁.view=d := h₁.view.symm
  refine wp_findWhere_held (by simp) ?_
  simp only [Ctx.held_view,hview]
  intro t ht hnext
  obtain ⟨ht,_⟩ := Option.filter_eq_some_iff.mp ht
  have hid : t.id=candidate.id := Table.key_of_get? ht
  have hheld := hreads.of_reads (c₄.moves_held [Lock.row (D := wms) .warehouseTasks candidate.id])
  have hseen := hheld.of_reads (Ctx.moves_saw _ (Select.row (D := wms) .warehouseTasks candidate.id)
    ((d .warehouseTasks).get? candidate.id))
  refine Reaching.wp_update (p := taskTables) (Reaching.refl _) fun c hc => ?_
  refine h t user _ c rfl (hid ▸ ht) hnext (hview₁ ▸ huser) ?_
  exact hseen.of_reads hc

theorem wp_claimNext {about : WmsCtx → ℕ → Prop} (w : Text) (dto : ClaimNextWarehouseTaskDto)
    (actorId : ℕ) (d : WmsDb) :
    wp store Mid ((claimNext w dto actorId).bind fun _ => .done ()) (.start d)
      (fun _ c => TaskEffect about c) := by
  refine (wp_bind _ _).mpr (wp_claims fun t user u c _ ht hnext _ hc => ?_)
  refine taskEffect_of_reaching (x := ⟨[],none,t.id,u⟩) hc ⟨by simp,by simp,by simp⟩ (.inr ?_)
  exact ⟨t,ht,open_of_allowed hnext⟩

end WarehouseTasks

end Service

/-! ### The scanner -/

section Scanner
variable {Mid : WmsCtx → Prop} {ok : Statement wms → Prop} {c : WmsCtx}

theorem wp_firstTask {p : WarehouseTask → Bool} {e : HttpException}
    {Q : WarehouseTask → WmsCtx → Prop}
    (h : ∀ t c', c.Moves Eq c' → SawTask c' t → Q t c') :
    wp store Mid (do
      let t ← findFirst (D := wms) .warehouseTasks p
      demand t e) c Q := by
  simp only [bind_eq,wp_bind,wp_demand]
  refine wp_findFirst fun ts _ t ht => ?_
  exact h t _ (c.moves_saw _ _) (.inr ⟨p,ts,ht,Ctx.saw_saw _ _ _⟩)

theorem wp_seeRfTask {warehouseId : ℕ} {reference : Text} {Q : WarehouseTask → WmsCtx → Prop}
    (h : ∀ t c', c.Moves Eq c' → SawTask c' t → Q t c') :
    wp store Mid (resolveRfTask warehouseId reference) c Q :=
  wp_firstTask h

theorem wp_findOptional {t : TableName} {id : Option t.Id} {Q : Option t.Row → WmsCtx → Prop}
    (h : ∀ o c', c.Moves Eq c' → SawOptional c' t id o → Q o c') :
    wp store Mid (findOptional t id) c Q := by
  cases id with
  | none => exact h none c c.moves_refl rfl
  | some id => exact wp_find fun o _ => h o _ (c.moves_saw _ _) (Ctx.saw_saw _ _ _)

theorem wp_seeSessionTask {warehouseId : ℕ} {id : Option ℕ} {Q : Option RfTask → WmsCtx → Prop}
    (h : ∀ o c', c.Moves Eq c' → (∀ t, o=some t → SawTask c' t.task ∧
      SawOptional c' .warehouseLocations t.task.fromLocationId t.fromLocation ∧
      SawOptional c' .warehouseLocations t.task.toLocationId t.toLocation ∧
      SawOptional c' .skus t.task.skuId t.sku) → Q o c') :
    wp store Mid (resolveSessionTask warehouseId id) c Q := by
  cases id with
  | none => exact h none c c.moves_refl (by simp)
  | some id =>
    simp only [resolveSessionTask,includeTask,bind_eq,pure_eq,wp_bind,wp_done]
    refine wp_seeRfTask fun task c₁ h₁ hs => ?_
    refine wp_findOptional fun fromLocation c₂ h₂ hfrom => ?_
    refine wp_findOptional fun toLocation c₃ h₃ hto => ?_
    refine wp_findOptional fun sku c₄ h₄ hsku => ?_
    have h₂₄ := (h₂.of_reads h₃).of_reads h₄
    refine h _ c₄ (h₁.of_reads h₂₄) ?_
    rintro t ⟨⟩
    exact ⟨hs.later h₂₄,hfrom.later (h₃.of_reads h₄),hto.later h₄,hsku⟩

theorem asideTasks_insert {t : TableName} (ht : taskTables t=false) (r : t.Row) :
    Only AsideTasks (insert (D := wms) t r) :=
  only_insert (D := wms) (by simp [AsideTasks,Statement.table,ht])

theorem asideTasks_update {t : TableName} (ht : taskTables t=false) (id : t.Id) (p : t.Patch) :
    Only AsideTasks (update (D := wms) t id p) := by
  refine (only_update (D := wms) _ _ _).mpr ?_
  simp [AsideTasks,Statement.table,ht]

theorem asideTasks_createScannerStep (sessionId : ℕ) (plan : RfStepPlan) (sequence : ℕ) :
    Only AsideTasks (createScannerStep sessionId plan sequence) :=
  only_fresh.bind fun _ => asideTasks_insert rfl _

theorem only_resolveGivenScanner (warehouseId : ℕ) (reference : Option Text) :
    Only ok (resolveGivenScanner warehouseId reference) := by
  cases reference with
  | none => exact only_done _
  | some r =>
    refine Only.bind ((only_findFirst (D := wms) _ _).bind fun _ => only_demand _ _) fun _ => ?_
    exact only_done _

theorem only_resolveGivenTask (warehouseId : ℕ) (reference : Option Text) :
    Only ok (resolveGivenTask warehouseId reference) := by
  cases reference with
  | none => exact only_done _
  | some r =>
    refine (only_resolveRfTask _ _).bind fun task => (only_includeTask _).bind fun _ => ?_
    exact only_done _

theorem wp_startSession {about : WmsCtx → ℕ → Prop} (w : Text) (dto : StartRfSessionDto) (d : WmsDb) :
    wp store Mid (startSession w dto) (.start d) (fun _ c => TaskEffect about c) := by
  refine wp_idle ?_
  refine (only_resolveWarehouse _).bind fun warehouse => ?_
  refine (only_resolveGivenScanner _ _).bind fun _ => (only_resolveGivenTask _ _).bind fun task => ?_
  refine only_fresh.bind fun id => Only.bind (asideTasks_insert rfl _) fun _ => ?_
  exact asideTasks_createScannerStep _ _ _

theorem wp_startTask (w reference : Text) (dto : StartRfSessionDto) (actorId : ℕ) (d : WmsDb) :
    wp store Mid (startTask w reference dto actorId) (.start d)
      (fun _ c => TaskEffect SawUnended c) := by
  simp only [startTask,bind_eq,wp_bind,wp_require,wp_lockRow]
  refine wp_of_reads (only_resolveWarehouse _) fun warehouse c₁ h₁ => ?_
  refine wp_of_reads (only_resolveRfTask _ _) fun task c₂ h₂ => ?_
  refine wp_seeRfTask fun t c₃ h₃ hs hstatus => ?_
  have hheld := (h₁.of_reads h₂).of_reads (c₂.moves_held [Lock.row (D := wms) .warehouseTasks task.id])
  have hreads := hheld.of_reads h₃
  have hopen : t.status.isTerminal=false := by
    rcases hstatus with h|h|h <;> rw [h] <;> rfl
  refine Reaching.wp_update (p := taskTables) (Reaching.refl c₃) fun c hc => ?_
  refine Reaching.wp_reads hc (only_includeTask _) fun joined c hc => ?_
  refine Reaching.wp_reads hc (only_resolveGivenScanner _ _) fun _ c hc => ?_
  simp only [wp_fresh]
  intro id
  refine Reaching.wp_asides hc (asideTasks_insert rfl _) fun _ c hc => ?_
  refine Reaching.wp_asides hc (asideTasks_createScannerStep _ _ _) fun _ c hc => ?_
  refine taskEffect_of_reaching (x := ⟨[],none,t.id,_⟩) (hreads.of_reads hc)
    ⟨by simp,by simp,by simp⟩ (.inl ?_)
  exact ⟨t,hs.later hc,hopen,rfl⟩

theorem wp_pickTask {warehouseId : ℕ} {task : WarehouseTask} {dto : ScanRfStepDto}
    {Q : Unit → WmsCtx → Prop}
    (h : ∀ (x : TaskChange) c', Reaching taskTables c x.writes c' → x.Valid c.view →
      x.task=task.id → Q () c') : wp store Mid (completePickTask warehouseId task dto) c Q := by
  simp only [completePickTask,bind_eq,pure_eq,wp_bind,wp_demand,wp_require]
  intro orderId _ lineId _ reservationId _ _
  generalize (dto.quantity <|> task.quantity).getD 0=n
  refine Reaching.wp_reads (p := taskTables) (Reaching.refl c) (only_find (D := wms) _ _)
    fun found c₁ hc r _ => ?_
  refine Reaching.wp_lockRow hc fun c₁ hc _ => ?_
  refine Reaching.wp_reads hc (only_find (D := wms) _ _) fun found c₁ hc q _ => ?_
  refine Reaching.wp_reads hc (only_assertNoBlockingStockFreeze _) fun _ c₁ hc _ => ?_
  refine Reaching.wp_reads hc (only_find (D := wms) _ _) fun found c₁ hc line _ _ => ?_
  refine Reaching.wp_update hc fun c₁ hc => ?_
  refine Reaching.wp_asides hc (asideTasks_update rfl _ _) fun _ c₁ hc => ?_
  refine Reaching.wp_asides hc (asideTasks_update rfl _ _) fun _ c₁ hc => ?_
  simp only [wp_fresh]
  intro id
  refine Reaching.wp_insert_unique hc rfl fun c₁ hfresh _ hc => ?_
  refine Reaching.wp_update hc fun c₁ hc => ?_
  refine Reaching.wp_reads hc (only_findMany (D := wms) _ _) fun lines c₁ hc => ?_
  have hfresh : (c.view .stockMovements).get? id=none := hfresh
  have hdone : ∀ c₂, Reaching taskTables c₁ [] c₂ → Q () c₂ := by
    intro c₂ hc₂
    refine h ⟨[_],some _,task.id,_⟩ c₂ (hc.append hc₂) ⟨by simp [Statement.table],by simp,?_⟩ rfl
    rintro m ⟨⟩
    exact ⟨rfl,rfl,hfresh⟩
  simp only [wp_ite]
  refine ⟨fun _ => ?_,fun _ => hdone c₁ (Reaching.refl c₁)⟩
  exact Reaching.wp_asides (Reaching.refl c₁) (asideTasks_update rfl _ _) fun _ c₂ hc₂ => hdone c₂ hc₂

theorem wp_submitCountTask {warehouseId : ℕ} {task : WarehouseTask} {dto : ScanRfStepDto}
    {Q : Bool → WmsCtx → Prop} (hno : ∀ c', Reaching taskTables c [] c' → Q false c')
    (h : ∀ u c', Reaching taskTables c [.update .warehouseTasks task.id u] c' → Q true c') :
    wp store Mid (submitCycleCountFromRf warehouseId task dto) c Q := by
  simp only [submitCycleCountFromRf,bind_eq,pure_eq,wp_bind]
  refine Reaching.wp_reads (p := taskTables) (Reaching.refl c) (only_findFirst (D := wms) _ _)
    fun found c₁ hc => ?_
  cases found with
  | none =>
    simp only [wp_bind,wp_require,wp_done]
    exact fun _ => hno c₁ hc
  | some countTask =>
    simp only [wp_bind,wp_require,wp_demand,wp_done]
    intro _ counted _
    refine Reaching.wp_lockRow hc fun c₁ hc _ => ?_
    refine Reaching.wp_asides hc (asideTasks_update rfl _ _) fun _ c₁ hc => ?_
    refine Reaching.wp_update hc fun c₁ hc => ?_
    exact Reaching.wp_asides hc (asideTasks_update rfl _ _) fun _ c₁ hc => h _ c₁ hc

theorem wp_scanTask (warehouse : Text) (session : ℕ) (dto : ScanRfStepDto) (d : WmsDb) :
    wp store Mid (scan warehouse session dto) (.start d) (fun _ c =>
      TaskEffect (fun c id => ∃ t step, Completes dto c t step ∧ t.task.id=id) c) := by
  simp only [scan,resolveSession,getOpenStep,bind_eq,pure_eq,wp_bind,wp_done,wp_demand,
    wp_require,wp_ite]
  refine wp_of_reads (only_resolveWarehouse _) fun w c₁ h₁ => ?_
  refine wp_of_reads (only_findWhere (D := wms) _ _ _) fun found c₂ h₂ s _ _ => ?_
  refine wp_seeSessionTask fun task c₃ h₃ htask => ?_
  refine wp_findMany fun steps _ _ step hstep => ?_
  have hsaw := Ctx.saw_saw c₃ (Select.rows (D := wms) .scannerWorkflowSteps
    fun x => x.sessionId=s.id && x.status=.OPEN) steps
  have h₄ := c₃.moves_saw (Select.rows (D := wms) .scannerWorkflowSteps
    fun x => x.sessionId=s.id && x.status=.OPEN) steps
  generalize c₃.saw (Select.rows (D := wms) .scannerWorkflowSteps
    fun x => x.sessionId=s.id && x.status=.OPEN) steps=c₄ at hsaw h₄ ⊢
  have hreads := ((h₁.of_reads h₂).of_reads h₃).of_reads h₄
  have hidle : ∀ c, Reaching taskTables c₄ [] c →
      TaskEffect (fun c id => ∃ t step, Completes dto c t step ∧ t.task.id=id) c :=
    fun c hc => idle_taskEffect (hreads.of_reads hc)
  refine ⟨fun hexpected => ?_,fun _ => hidle c₄ (Reaching.refl c₄)⟩
  refine Reaching.wp_asides (Reaching.refl c₄) (asideTasks_update rfl _ _) fun _ c hc => ?_
  cases hnext : task.bind (getNextStepAfterScan · step.stepKey) with
  | some next =>
    exact Reaching.wp_asides hc (asideTasks_createScannerStep _ _ _) fun _ c hc => hidle c hc
  | none =>
    simp only [wp_bind]
    refine Reaching.wp_asides hc (asideTasks_update rfl _ _) fun _ c hc => ?_
    unfold completeTaskAfterRfScan
    cases task with
    | none => exact hidle c hc
    | some t =>
      simp only [Option.map_some,submitIfCount,bind_eq,pure_eq,wp_ite,wp_bind,wp_done]
      obtain ⟨htask,hfrom,hto,hsku⟩ := htask t rfl
      have hcompletes : Completes dto c₄ t step := ⟨htask.later h₄,hfrom.later h₄,hto.later h₄,
        hsku.later h₄,⟨s.id,steps,hsaw,hstep⟩,hexpected,hnext⟩
      have hchange : ∀ (x : TaskChange) c', Reaching taskTables c₄ x.writes c' → x.Valid d →
          x.task=t.task.id →
          TaskEffect (fun c id => ∃ t step, Completes dto c t step ∧ t.task.id=id) c' := by
        intro x c' hc' hx hid
        refine taskEffect_of_reaching (hreads.of_reads hc') hx (.inl ?_)
        exact ⟨t,step,hcompletes.later hc',hid.symm⟩
      refine ⟨fun _ => ?_,fun _ => ?_⟩
      · have hsame : SameOn (D := wms) taskTables c.view d := by
          have hview : c₄.view=d := hreads.view.symm
          exact hview ▸ SameOn.symm hc.view
        refine wp_pickTask fun x c' hc' hx hid => ?_
        exact hchange x c' (hc.append hc') (hx.congr hsame) hid
      · have hfinish : ∀ c', Reaching taskTables c₄ [] c' → wp store Mid
            (update (D := wms) .warehouseTasks t.task.id
              {status := .DONE, metadata := some t.task.metadata}) c'
            (fun _ c => TaskEffect
              (fun c id => ∃ t step, Completes dto c t step ∧ t.task.id=id) c) := by
          intro c' hc'
          refine Reaching.wp_update hc' fun c' hc' => ?_
          exact hchange ⟨[],none,t.task.id,_⟩ c' hc' ⟨by simp,by simp,by simp⟩ rfl
        refine ⟨fun _ => ?_,fun _ => ⟨by simp,fun _ => hfinish c hc⟩⟩
        refine wp_submitCountTask (fun c' hc' => ⟨by simp,fun _ => hfinish c' (hc.append hc')⟩)
          fun u c' hc' => ⟨fun _ => ?_,by simp⟩
        exact hchange ⟨[],none,t.task.id,u⟩ c' (hc.append hc') ⟨by simp,by simp,by simp⟩ rfl

theorem only_releaseTaskReservation (task : WarehouseTask) (dto : ReportRfExceptionDto) :
    Only (fun w : Statement wms => taskTables w.table=true → w.table=.stockQuants ∧ KeepsOnHand w)
      (releaseTaskReservationIfRequested task dto) := by
  unfold releaseTaskReservationIfRequested
  split
  · refine (only_find (D := wms) _ _).bind fun found => ?_
    cases found.filter (·.status=.ACTIVE) with
    | none => exact only_done _
    | some r =>
      refine Only.ite (fun _ => only_done _) (fun _ => ?_)
      refine (only_lockRow (D := wms) _ _).bind fun _ => (only_find (D := wms) _ _).bind fun _ => ?_
      refine (only_demand _ _).bind fun _ => (only_assertNoBlockingStockFreeze _).bind fun _ => ?_
      refine Only.bind ?_ fun _ => ?_
      · exact (only_update (D := wms) _ _ _).mpr fun _ => ⟨rfl,rfl⟩
      · refine (only_update (D := wms) _ _ _).mpr ?_
        simp [Statement.table,taskTables]
  · exact only_done _

theorem asideTasks_markOrderException (orderId : Option ℕ) :
    Only AsideTasks (markOrderException orderId) := by
  cases orderId with
  | none => exact only_done _
  | some id => exact asideTasks_update rfl _ _

theorem wp_reportException (warehouse task : Text) (dto : ReportRfExceptionDto) (d : WmsDb) :
    wp store Mid (reportTaskException warehouse task dto) (.start d)
      (fun _ c => TaskEffect (fun c id => ∃ t, SawTask c t ∧ t.id=id) c) := by
  simp only [reportTaskException,bind_eq,wp_bind,wp_lockRow]
  refine wp_of_reads (only_resolveWarehouse _) fun w c₁ h₁ => ?_
  refine wp_of_reads (only_resolveRfTask _ _) fun found c₂ h₂ => ?_
  refine wp_seeRfTask fun t c₃ h₃ hs => ?_
  have hheld := (h₁.of_reads h₂).of_reads (c₂.moves_held [Lock.row (D := wms) .warehouseTasks found.id])
  have hreads := hheld.of_reads h₃
  refine Reaching.wp_within (Reaching.refl c₃) (only_releaseTaskReservation _ _)
    fun _ c ws hws hc => ?_
  refine Reaching.wp_update hc fun c hc => ?_
  refine Reaching.wp_asides hc (asideTasks_markOrderException _) fun _ c hc => ?_
  have hall := hreads.of_reads hc
  simp only [List.nil_append] at hall
  refine taskEffect_of_reaching (x := ⟨ws,none,t.id,
      {status := exceptionTaskStatus dto, metadata := some t.metadata}⟩) (by simpa [TaskChange.writes] using hall) ⟨fun w hw => (hws w hw).1,fun _ w hw => (hws w hw).2,by simp⟩
    (.inl ?_)
  exact ⟨t,hs.later hc,rfl⟩

end Scanner

/-! ### Putaway and replenishment -/

section Stock
variable {Mid : WmsCtx → Prop} {ok : Statement wms → Prop} {c : WmsCtx}

/-- A program that writes quants and their owners. -/
abbrev OnStock (w : Statement wms) : Prop := taskTables w.table=true → w.table=.stockQuants

theorem onStock_createQuant (i : StockQuantIdentity) (n : ℤ) : Only OnStock (createQuant i n) :=
  only_createQuant (fun _ h _ => h) fun w h ht => by simp [h,taskTables] at ht

theorem onStock_update (id : ℕ) (p : StockQuantUpdate) :
    Only OnStock (update (D := wms) .stockQuants id p) :=
  (only_update (D := wms) _ _ _).mpr fun _ => rfl

theorem onStock_replenishDestination (warehouseId : ℕ) (d : ReplenishmentDemand) (n : ℤ) :
    Only OnStock (replenishDestination warehouseId d n) := by
  refine (only_findFirst (D := wms) _ _).bind fun found => ?_
  cases found with
  | none => exact (onStock_createQuant _ _).bind fun _ => only_done _
  | some q => exact onStock_update _ _

theorem onStock_incrementOrCreateTargetQuant (i : StockQuantIdentity) (n : ℤ) :
    Only OnStock (incrementOrCreateTargetQuant i n) := by
  refine (only_advisoryLock (D := wms) _).bind fun _ => (only_findByIdentity _ _).bind fun found => ?_
  cases found with
  | none => exact onStock_createQuant _ _
  | some q => exact (onStock_update _ _).bind fun _ => only_done _

theorem recorded {about : WmsCtx → ℕ → Prop} {d : WmsDb} {c₀ : WmsCtx} {stock : List (Statement wms)}
    {m : StockMovement} {id : ℕ} {u : WarehouseTaskUpdate} (hreads : (Ctx.start d).Moves Eq c₀)
    (hc : Reaching taskTables c₀
      (stock++[.insert .stockMovements m]++[.update .warehouseTasks id u]) c)
    (hstock : ∀ w∈stock, w.table=.stockQuants) (htask : m.taskId=some id) (hdone : u.status=.DONE)
    (hfresh : (applyAll stock c₀.view .stockMovements).get? m.id=none) (habout : about c id) :
    TaskEffect about c := by
  have hview : c₀.view=d := hreads.view.symm
  have hsame : applyAll stock c₀.view .stockMovements=c₀.view .stockMovements :=
    after_of_table fun w hw => by simp [hstock w hw]
  rw [hsame,hview] at hfresh
  refine taskEffect_of_reaching (x := ⟨stock,some m,id,u⟩) (hreads.of_reads hc)
    ⟨hstock,by simp,?_⟩ (.inl habout)
  rintro m' ⟨⟩
  exact ⟨htask,hdone,hfresh⟩

theorem wp_seeDemand {warehouseId reference : ℕ} {Q : ReplenishmentDemand → WmsCtx → Prop}
    (h : ∀ d c', c.Moves Eq c' → SawDemand c' d → Q d c') :
    wp store Mid (resolveDemand warehouseId reference) c Q := by
  simp only [resolveDemand,bind_eq,wp_bind,wp_demand]
  refine wp_findFirst fun ds _ d hd => ?_
  exact h d _ (c.moves_saw _ _) ⟨_,ds,hd,Ctx.saw_saw _ _ _⟩

theorem only_resolveDemandQuant (quantId : ℕ) : Only ok (resolveDemandQuant quantId) :=
  (only_lockRow (D := wms) _ _).bind fun _ => (only_find (D := wms) _ _).bind fun _ =>
    only_demand _ _

theorem SawDemand.later {c c' : WmsCtx} {R : WmsDb → WmsDb → Prop} {d : ReplenishmentDemand}
    (h : SawDemand c d) (hc : c.Moves R c') : SawDemand c' d := by
  obtain ⟨p,ds,hd,hsaw⟩ := h
  exact ⟨p,ds,hd,hc.saw hsaw⟩

theorem wp_confirmReplenishment (warehouse : Text) (reference : ℕ) (dto : ConfirmReplenishmentDto)
    (d : WmsDb) :
    wp store Mid (confirmReplenishmentTask warehouse reference dto) (.start d) (fun _ c =>
      TaskEffect (fun c id => ∃ d, SawDemand c d ∧ d.warehouseTaskId=some id) c) := by
  simp only [confirmReplenishmentTask,bind_eq,wp_bind,wp_demand,wp_require,wp_lockRow,wp_fresh]
  refine wp_of_reads (only_resolveWarehouse _) fun w c₁ h₁ => ?_
  refine wp_seeDemand fun x c₂ h₂ hsaw _ quantId _ locationId _ taskId htask => ?_
  have h₂ := (h₁.of_reads h₂).of_reads (c₂.moves_held [Lock.row (D := wms) .warehouseTasks taskId])
  have hsaw : SawDemand (c₂.held [Lock.row (D := wms) .warehouseTasks taskId]) x :=
    hsaw.later (c₂.moves_held _)
  generalize c₂.held [Lock.row (D := wms) .warehouseTasks taskId]=c₃ at h₂ hsaw ⊢
  refine Reaching.wp_reads (p := taskTables) (Reaching.refl c₃) (only_resolveDemandQuant _)
    fun source c hc => ?_
  refine Reaching.wp_reads hc (only_assertNoBlockingStockFreeze _) fun _ c hc => ?_
  refine Reaching.wp_reads hc (only_assertNoBlockingStockFreeze _) fun _ c hc _ => ?_
  refine Reaching.wp_update hc fun c hc => ?_
  refine Reaching.wp_within hc (onStock_replenishDestination _ _ _) fun _ c ws hws hc id => ?_
  refine Reaching.wp_insert_unique hc rfl fun c hfresh _ hc => ?_
  refine Reaching.wp_update hc fun c hc => ?_
  refine Reaching.wp_asides hc (asideTasks_update rfl _ _) fun _ c hc => ?_
  refine recorded h₂ hc ?_ htask rfl hfresh ⟨x,hsaw.later hc,htask⟩
  intro w' hw'
  rcases List.mem_append.mp hw' with hw'|hw'
  · rw [List.mem_singleton.mp hw']
    rfl
  · exact hws w' hw'

theorem only_findIdempotentConfirmation (warehouseId : ℕ) (key : Option IdempotencyKey) :
    Only ok (findIdempotentConfirmation warehouseId key) := by
  cases key with
  | none => exact only_done _
  | some key =>
    refine (only_findFirst (D := wms) _ _).bind fun found => ?_
    cases found with
    | none => exact only_done _
    | some movement =>
      refine (only_require _ _).bind fun _ => (only_demand _ _).bind fun _ => ?_
      refine (only_demand _ _).bind fun _ => Only.bind ?_ fun _ => ?_
      · exact (only_findWhere (D := wms) _ _ _).bind fun _ => only_demand _ _
      · exact (only_resolveStockQuant _ _).bind fun _ => only_done _

theorem only_resolveConfirmationSourceQuant (warehouseId : ℕ) (task : WarehouseTask)
    (dto : ConfirmPutawayTaskDto) : Only ok (resolveConfirmationSourceQuant warehouseId task dto) := by
  unfold resolveConfirmationSourceQuant
  split
  · exact only_resolveQuant _ _
  · exact (only_findMany (D := wms) _ _).bind fun _ => only_demand _ _
  · exact only_refuse _

theorem only_scannedLocationId (warehouseId : ℕ) (reference : Option Text) (fallback : Option ℕ) :
    Only ok (scannedLocationId warehouseId reference fallback) := by
  cases reference with
  | none => exact only_done _
  | some r => exact (only_resolveLocation _ _).bind fun _ => only_done _

theorem only_assertPutawayQuantity (source : StockQuant) (quantity : ℤ) :
    Only ok (assertPutawayQuantity source quantity) :=
  (only_require _ _).bind fun _ => (only_require _ _).bind fun _ =>
    (only_require _ _).bind fun _ => only_require _ _

theorem wp_confirmPutaway (warehouse : Text) (reference : ℕ) (dto : ConfirmPutawayTaskDto)
    (d : WmsDb) :
    wp store Mid (confirmPutawayTask warehouse reference dto) (.start d)
      (fun _ c => TaskEffect SawUnended c) := by
  simp only [confirmPutawayTask,bind_eq,pure_eq,wp_bind,wp_demand,wp_require,wp_ite,wp_done]
  refine wp_of_reads (only_resolveWarehouse _) fun w c₁ h₁ => ?_
  refine wp_of_reads (only_findIdempotentConfirmation _ _) fun existing c₂ h₂ => ?_
  refine ⟨fun _ => idle_taskEffect ((Reaching.refl _).reads (h₁.of_reads h₂)),fun _ => ?_⟩
  refine wp_resolvePutawayTask fun t c₃ h₃ hs _ hstatus => ?_
  have hreads := (h₁.of_reads h₂).of_reads h₃
  have hopen : t.status.isTerminal=false := by
    rcases hstatus with h|h <;> rw [h] <;> rfl
  refine Reaching.wp_reads (p := taskTables) (Reaching.refl c₃)
    (only_resolveConfirmationSourceQuant _ _ _) fun source c hc => ?_
  refine Reaching.wp_reads hc (only_ownerClientIdOf _ _) fun sourceOwner c hc => ?_
  refine Reaching.wp_reads hc (only_scannedLocationId _ _ _) fun sourceLocation c hc _ => ?_
  refine Reaching.wp_reads hc (only_scannedLocationId _ _ _) fun found c hc target _ _ => ?_
  generalize (dto.quantity <|> t.quantity).getD (quantAvailableQuantity source)=n
  refine Reaching.wp_reads hc (only_assertPutawayQuantity _ _) fun _ c hc => ?_
  refine Reaching.wp_update hc fun c hc => ?_
  refine Reaching.wp_within hc (onStock_incrementOrCreateTargetQuant _ _) fun quant c ws hws hc => ?_
  simp only [wp_fresh]
  intro id
  refine Reaching.wp_insert_unique hc rfl fun c hfresh _ hc => ?_
  refine Reaching.wp_update hc fun c hc => ?_
  refine recorded hreads hc ?_ rfl rfl hfresh ⟨t,hs.later hc,hopen,rfl⟩
  intro w' hw'
  rcases List.mem_append.mp hw' with hw'|hw'
  · rw [List.mem_singleton.mp hw']
    rfl
  · exact hws w' hw'

end Stock

end AardvarkWms
