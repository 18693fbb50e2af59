import AardvarkWms.TaskSteps

/-! Does a task that has ended stay so, and does its stock move once? -/
namespace AardvarkWms

open Transactions Transactions.Txn Relational

def taskStatus (v : WmsDb) (id : ℕ) : Option WarehouseTaskStatus :=
  ((v .warehouseTasks).get? id).map (·.status)

/-- How often stock was moved for a task: every such change records a movement for it. -/
def stockEffects (v : WmsDb) (id : ℕ) : ℕ :=
  ((v .stockMovements).rows.filter (·.taskId=some id)).length

def Ended (v : WmsDb) (id : ℕ) : Prop := ∃ s, s.isTerminal=true ∧ taskStatus v id=some s

/-- Since `d` stock was not moved for the task, or once, the task having not ended in `d` and
being done now. -/
def MovedOnce (d : WmsDb) (id : ℕ) (v : WmsDb) : Prop :=
  stockEffects v id=stockEffects d id ∨
  (¬Ended d id ∧ taskStatus v id=some .DONE ∧ stockEffects v id=stockEffects d id+1)

/-- A task that had ended in `d` has the same status, and its stock was moved at most once. -/
structure Lasts (d : WmsDb) (id : ℕ) (v : WmsDb) : Prop where
  ended : ∀ s, s.isTerminal=true → taskStatus d id=some s → taskStatus v id=some s
  once : MovedOnce d id v

/-- The task that the call is about has not ended where the call commits. -/
def TasksOpen (op : Call) (c : WmsCtx) : Prop :=
  op.worksOnTasks=true ∧ ∀ id, op.About c id → OpenIn c.base id

theorem Call.taskEffect (op : Call) :
    Spec store (fun c => op.worksOnTasks=true → TaskEffect op.About c) op.prog := by
  intro d
  by_cases hop : op.worksOnTasks=true
  · refine wp_mono (fun _ c h _ => h) ?_
    cases op with
    | claimNext w dto actor => exact WarehouseTasks.wp_claimNext w dto actor d
    | assign w t dto actor => exact WarehouseTasks.wp_assign w t dto actor d
    | start w t dto actor => exact WarehouseTasks.wp_start w t dto actor d
    | confirm w t dto => exact WarehouseTasks.wp_confirm w t dto d
    | fail w t dto => exact WarehouseTasks.wp_fail w t dto d
    | cancel w t dto => exact WarehouseTasks.wp_cancel w t dto d
    | startSession w dto => exact wp_startSession w dto d
    | startTask w t dto actor => exact wp_startTask w t dto actor d
    | scan w s dto => exact wp_scanTask w s dto d
    | reportTaskException w t dto => exact wp_reportException w t dto d
    | confirmPutawayTask w t dto => exact wp_confirmPutaway w t dto d
    | confirmReplenishmentTask w t dto => exact wp_confirmReplenishment w t dto d
    | _ => cases hop
  · have htrue : (fun c => op.worksOnTasks=true → TaskEffect op.About c)=fun _ => True := by
      funext c
      simp [hop]
    rw [htrue]
    exact wp_true _

section Effects
variable {about : WmsCtx → ℕ → Prop} {c : WmsCtx} {x : TaskChange} {v v' : WmsDb}

theorem applyAll_stock {ws : List (Statement wms)} {t : TableName} (ht : t≠.stockQuants)
    (h : ∀ w∈ws, w.table=.stockQuants) (v : WmsDb) : applyAll ws v t=v t :=
  after_of_table fun w hw => by
    rw [h w hw]
    exact fun hne => ht hne.symm

theorem TaskChange.Valid.tasks_view (hx : x.Valid v)
    (hw : AppliesOn (D := wms) taskTables x.writes v v') :
    v' .warehouseTasks=(v .warehouseTasks).modify x.task x.update.patch (fun _ => rfl) := by
  have hstock : applyAll x.stock v .warehouseTasks=v .warehouseTasks :=
    applyAll_stock (by simp) hx.stock v
  rw [hw.table (t := .warehouseTasks) rfl,TaskChange.writes,applyAll_append,applyAll_append]
  refine (apply_update_self _ _ _ _).trans ?_
  congr 1
  cases x.movement with
  | none => exact hstock
  | some m => exact (apply_insert_ne (D := wms) (t := .stockMovements) m _ (by simp)).trans hstock

theorem TaskChange.Valid.movements_view (hx : x.Valid v)
    (hw : AppliesOn (D := wms) taskTables x.writes v v') :
    (v' .stockMovements).rows=(v .stockMovements).rows++x.movement.toList := by
  have hstock : applyAll x.stock v .stockMovements=v .stockMovements :=
    applyAll_stock (by simp) hx.stock v
  have hlast : ∀ v : WmsDb, after [.update .warehouseTasks x.task x.update] v .stockMovements=
      v .stockMovements := fun v => by simp
  rw [hw.table (t := .stockMovements) rfl,TaskChange.writes,applyAll_append,applyAll_append]
  refine (congrArg Table.rows (hlast _)).trans ?_
  cases hm : x.movement with
  | none =>
    simp only [Option.toList_none,List.map_nil,List.append_nil]
    exact congrArg Table.rows hstock
  | some m =>
    have hfresh := (hx.movement m hm).2.2
    have hinsert : after [.insert .stockMovements m] (applyAll x.stock v) .stockMovements=
        (applyAll x.stock v .stockMovements).insert m := by simp
    simp only [Option.toList_some,List.map_cons,List.map_nil]
    refine (congrArg Table.rows hinsert).trans ?_
    rw [hstock]
    exact Table.rows_insert hfresh

theorem onHand_apply {w : Statement wms} (h : KeepsOnHand w) (v : WmsDb) (quantId : ℕ) :
    onHand (apply w v) quantId=onHand v quantId := by
  cases w with
  | insert t r => exact h.elim
  | update t id p =>
    cases t with
    | stockQuants =>
      have hp : p.quantity=.keep := h
      have happly : apply (.update (D := wms) .stockQuants id p) v .stockQuants=
          (v .stockQuants).modify id p.patch (fun _ => rfl) := apply_update_self _ _ _ _
      unfold onHand
      rw [happly]
      by_cases hid : quantId=id
      · subst hid
        have hget := Table.get?_modify_self (v .stockQuants) quantId p.patch (fun _ => rfl)
        refine (congrArg (Option.map StockQuant.quantity) hget).trans ?_
        cases (v .stockQuants).get? quantId with
        | none => rfl
        | some q => simp [StockQuantUpdate.patch,hp]
      · exact congrArg (Option.map StockQuant.quantity) (Table.get?_modify_ne _ _ _ hid)
    | _ => exact h.elim

theorem onHand_applyAll {ws : List (Statement wms)} (h : ∀ w∈ws, KeepsOnHand w) (quantId : ℕ) :
    ∀ v, onHand (applyAll ws v) quantId=onHand v quantId := by
  induction ws with
  | nil => exact fun v => rfl
  | cons w ws ih =>
    intro v
    have hrest := ih (fun w hw => h w (List.mem_cons_of_mem _ hw)) (apply w v)
    exact hrest.trans (onHand_apply (h w List.mem_cons_self) v quantId)

theorem TaskChange.Valid.status_ne (hx : x.Valid v)
    (hw : AppliesOn (D := wms) taskTables x.writes v v') {id : ℕ} (hid : id≠x.task) :
    taskStatus v' id=taskStatus v id := by
  unfold taskStatus
  rw [hx.tasks_view hw]
  congr 1
  exact Table.get?_modify_ne _ _ _ hid

theorem TaskEffect.status (h : TaskEffect about c) (habout : ∀ id, about c id → OpenIn c.base id)
    {id : ℕ} {s : WarehouseTaskStatus} (hs : s.isTerminal=true)
    (hbase : taskStatus c.base id=some s) : taskStatus c.view id=some s := by
  rcases h with hidle|⟨x,hx,hw,hopen⟩
  · have htasks : c.view .warehouseTasks=c.base .warehouseTasks := hidle.table rfl
    unfold taskStatus at hbase ⊢
    rwa [htasks]
  · obtain ⟨t,ht,hstatus⟩ := hopen.elim (habout _) fun h => h
    have hne : id≠x.task := by
      rintro rfl
      have he : some t.status=some s := by
        rw [← hbase,taskStatus,ht]
        rfl
      rw [Option.some.inj he,hs] at hstatus
      cases hstatus
    rw [hx.status_ne hw hne]
    exact hbase

theorem TaskEffect.effects (h : TaskEffect about c) (habout : ∀ id, about c id → OpenIn c.base id)
    (id : ℕ) : stockEffects c.view id=stockEffects c.base id ∨
      (OpenIn c.base id ∧ taskStatus c.view id=some .DONE ∧
        stockEffects c.view id=stockEffects c.base id+1) := by
  rcases h with hidle|⟨x,hx,hw,hopen⟩
  · have hmovements : c.view .stockMovements=c.base .stockMovements := hidle.table rfl
    exact .inl (by rw [stockEffects,hmovements,stockEffects])
  · have hrows := hx.movements_view hw
    have hopen := hopen.elim (habout _) fun h => h
    cases hm : x.movement with
    | none =>
      rw [hm,Option.toList_none,List.append_nil] at hrows
      exact .inl (by rw [stockEffects,hrows,stockEffects])
    | some m =>
      obtain ⟨htask,hdone,_⟩ := hx.movement m hm
      rw [hm,Option.toList_some] at hrows
      by_cases hid : id=x.task
      · subst hid
        refine .inr ⟨hopen,?_,?_⟩
        · obtain ⟨t,ht,_⟩ := hopen
          have hget := Table.get?_modify_self (c.base .warehouseTasks) x.task x.update.patch
            (fun _ => rfl)
          rw [taskStatus,hx.tasks_view hw]
          refine (congrArg (Option.map WarehouseTask.status) hget).trans ?_
          rw [ht]
          exact congrArg some hdone
        · rw [stockEffects,hrows,List.filter_append,List.length_append,stockEffects]
          simp [htask]
      · refine .inl ?_
        have hne : m.taskId≠some id := fun he => hid (Option.some.inj (he.symm.trans htask))
        rw [stockEffects,hrows,List.filter_append,List.length_append,stockEffects]
        simp [hne]

theorem TaskEffect.still (h : TaskEffect about c) :
    (∃ id, stockEffects c.view id=stockEffects c.base id+1) ∨
      ∀ quantId, onHand c.view quantId=onHand c.base quantId := by
  rcases h with hidle|⟨x,hx,hw,_⟩
  · have hquants : c.view .stockQuants=c.base .stockQuants := hidle.table rfl
    exact .inr fun quantId => by rw [onHand,hquants,onHand]
  · cases hm : x.movement with
    | some m =>
      have hrows := hx.movements_view hw
      rw [hm,Option.toList_some] at hrows
      refine .inl ⟨x.task,?_⟩
      rw [stockEffects,hrows,List.filter_append,List.length_append,stockEffects]
      simp [(hx.movement m hm).1]
    | none =>
      refine .inr fun quantId => ?_
      have hquants : c.view .stockQuants=applyAll x.stock c.base .stockQuants := by
        rw [hw.table (t := .stockQuants) rfl,TaskChange.writes,hm,applyAll_append,applyAll_append]
        have hlast : ∀ v : WmsDb, after [.update .warehouseTasks x.task x.update] v .stockQuants=
            v .stockQuants := fun v => by simp
        exact hlast _
      have hstill := onHand_applyAll (hx.still hm) quantId c.base
      rw [onHand] at hstill ⊢
      rwa [hquants]

theorem TaskEffect.lasts {d : WmsDb} {id : ℕ} (h : TaskEffect about c)
    (habout : ∀ id, about c id → OpenIn c.base id) (hbase : Lasts d id c.base) :
    Lasts d id c.view := by
  refine ⟨fun s hs hd => h.status habout hs (hbase.ended s hs hd),?_⟩
  rcases h.effects habout id with hsame|⟨⟨t,ht,hopen⟩,hdone,hmore⟩
  · rcases hbase.once with hnone|⟨hended,hdone,hone⟩
    · exact .inl (hsame.trans hnone)
    · exact .inr ⟨hended,h.status habout rfl hdone,hsame.trans hone⟩
  · have hstatus : taskStatus c.base id=some t.status := by rw [taskStatus,ht]; rfl
    -- A task that had ended would have ended still, or be done.
    have hended : ∀ s, s.isTerminal=true → taskStatus c.base id≠some s := by
      intro s hs he
      rw [Option.some.inj (hstatus.symm.trans he),hs] at hopen
      cases hopen
    rcases hbase.once with hnone|⟨_,hdone',_⟩
    · refine .inr ⟨?_,hdone,by rw [hmore,hnone]⟩
      rintro ⟨s,hs,hd⟩
      exact hended s hs (hbase.ended s hs hd)
    · exact absurd hdone' (hended _ rfl)

end Effects

/-- In every run whose calls commit while the tasks that they are about have not ended: a
task that has ended keeps its status, the stock of a task moves at most once, and every
commit that changes what is on hand moves the stock of a task. -/
theorem tasks_end_once {d : WmsDb} {tr : List (Call × WmsCtx)}
    {c : Config (interface wms) WmsDb Call} (hrun : Run store Call.prog TasksOpen d tr c) :
    (∀ e∈tr, ∀ id s, s.isTerminal=true → taskStatus e.2.view id=some s →
      taskStatus c.committed id=some s) ∧
    (∀ id, Lasts d id c.committed) ∧
    ∀ e∈tr, (∃ id, stockEffects e.2.view id=stockEffects e.2.base id+1) ∨
      ∀ quantId, onHand e.2.view quantId=onHand e.2.base quantId := by
  refine ⟨fun e he id s hs => ?_,fun id => ?_,fun e he => ?_⟩
  · refine hrun.carried Call.taskEffect (P := fun v => taskStatus v id=some s) ?_ e he
    intro op c hpost hok hbase
    exact (hpost hok.1).status hok.2 hs hbase
  · have hstart : Lasts d id d := ⟨fun _ _ h => h,.inl rfl⟩
    refine (hrun.invariant Call.taskEffect hstart ?_).1
    intro op c hpost hok hbase
    exact (hpost hok.1).lasts hok.2 hbase
  · obtain ⟨hpost,hok⟩ := hrun.commits Call.taskEffect e he
    exact (hpost hok.1).still

/-- A pick of five for which five are reserved, and a putaway of three from the dock. -/
def floor : WmsDb := after
  [.insert .warehouses ⟨1,.word 1⟩,.insert .skus ⟨1,.word 7,none,⟨false,false,false⟩⟩,
   .insert .warehouseLocations ⟨1,1,.word 3,none,none,none,.STORAGE,true⟩,
   .insert .warehouseLocations ⟨2,1,.word 4,none,none,none,.STORAGE,true⟩,
   .insert .stockQuants ⟨1,1,1,1,none,none,none,none,none,10,5,.AVAILABLE,1,0⟩,
   .insert .reservations ⟨1,1,none,none,1,1,5,.ACTIVE⟩,
   .insert .outboundOrders ⟨1,1,.word 1,.PICKING,none⟩,
   .insert .outboundOrderLines ⟨1,1,.word 1,.word 7,5,0,⟨false,false,false⟩,none⟩,
   .insert .warehouseTasks {WarehouseTask.record 1 1 .PICK with
     skuId := some 1, fromLocationId := some 1, outboundOrderId := some 1,
     outboundOrderLineId := some 1, reservationId := some 1, quantity := some 5},
   .insert .warehouseTasks {WarehouseTask.record 2 1 .PUTAWAY with
     skuId := some 1, fromLocationId := some 1, toLocationId := some 2, quantity := some 3}]
  emptyDb

def demoScan (session : ℕ) (value : Text) (quantity : Option ℤ) (h : ∀ n∈quantity, 0≤n) : Call :=
  .scan (.word 1) session
    {scannedValue := value, spelled := none, quantity := quantity, spelled_nonneg := nonneg_of_none,
     quantity_nonneg := h}

/-- A session on the pick, and the scans that take two of the five. -/
def demoSession (session : ℕ) : List Call :=
  [.startSession (.word 1) {taskReference := some (.uuid 1)},
   demoScan session (.word 3) none nonneg_of_none,
   demoScan session (.word 7) none nonneg_of_none,
   demoScan session (.word 2) (some 2) (by simp)]

theorem open_of_seen {c : WmsCtx} (h : ∀ x∈c.log, SeenIn (D := wms) c.base x) {id : ℕ}
    (hs : SawUnended c id) : OpenIn c.base id := by
  obtain ⟨t,hsaw,hstatus,rfl⟩ := hs
  refine ⟨t,?_,hstatus⟩
  rcases hsaw with hrow|⟨p,ts,ht,hrows⟩
  · exact (h _ hrow).symm
  · have hts : ts=(c.base .warehouseTasks).rows.filter p := h _ hrows
    have hmem : t∈ts := List.mem_of_mem_head? ht
    rw [hts] at hmem
    exact Table.get?_key (List.mem_of_mem_filter hmem)

def demoPutaway : List Call :=
  [.start (.word 1) (.uuid 2) {} 5,.confirmPutawayTask (.word 1) 2 ⟨none,none,none,none,none,by simp⟩]

theorem tasks_end_once_demo : ∃ tr d, serially store Call.prog id demoPutaway 10 [] floor=.ok (tr,d) ∧
    taskStatus d 2=some .DONE ∧ (∀ id, Lasts floor id d) ∧
    ∀ e∈tr, (∃ id, stockEffects e.2.view id=stockEffects e.2.base id+1) ∨
      ∀ quantId, onHand e.2.view quantId=onHand e.2.base quantId := by
  have hhistory : ∃ tr d, serially store Call.prog id demoPutaway 10 [] floor=.ok (tr,d) ∧
      taskStatus d 2=some .DONE ∧ ∀ e∈tr, ∀ x∈e.2.log, SeenIn (D := wms) e.2.base x :=
    ⟨_,_,rfl,by decide,by decide⟩
  obtain ⟨tr,d,he,hdone,hseen⟩ := hhistory
  have hrun : Run store Call.prog TasksOpen floor tr (.idle d) := by
    refine Run.serially he .start fun e hmem => ?_
    have hop : e.1∈demoPutaway := (ops_serially he e hmem).elim (fun h => by cases h) fun h => h
    simp only [demoPutaway,List.mem_cons,List.not_mem_nil,or_false] at hop
    rcases hop with hop|hop <;> rw [hop] <;> exact ⟨rfl,fun id => open_of_seen (hseen e hmem)⟩
  obtain ⟨_,hlasts,hstill⟩ := tasks_end_once hrun
  exact ⟨tr,d,he,hdone,hlasts,hstill⟩

/-- Two sessions on one pick: the second takes as much again, and the task that is done twice
fails on an exception. -/
theorem finished_task_redone : (¬∀ d tr (c : Config (interface wms) WmsDb Call),
      Run store Call.prog (fun op _ => op.worksOnTasks=true) d tr c →
      ∀ e∈tr, ∀ id s, s.isTerminal=true → taskStatus e.2.view id=some s →
        taskStatus c.committed id=some s) ∧
    ¬∀ d tr (c : Config (interface wms) WmsDb Call),
      Run store Call.prog (fun op _ => op.worksOnTasks=true) d tr c →
      ∀ id, stockEffects c.committed id ≤ stockEffects d id+1 := by
  have hhistory : ∃ tr d, serially store Call.prog id (demoSession 10++demoSession 15++
      [.reportTaskException (.word 1) (.uuid 1) ⟨none,none,false,none,by simp⟩]) 10 [] floor=
        .ok (tr,d) ∧ (∃ e∈tr, taskStatus e.2.view 1=some .DONE) ∧ taskStatus d 1=some .FAILED ∧
      stockEffects d 1=2 := ⟨_,_,rfl,by decide,by decide,by decide⟩
  obtain ⟨tr,d,he,⟨e,hmem,hdone⟩,hfailed,htwice⟩ := hhistory
  have hrun : Run store Call.prog (fun op _ => op.worksOnTasks=true) floor tr (.idle d) :=
    Run.serial he (by simp [demoSession,demoScan,Call.worksOnTasks])
  constructor
  · intro h
    have hstays := h _ _ _ hrun e hmem 1 .DONE rfl hdone
    have hboth := hfailed.symm.trans hstays
    cases hboth
  · intro h
    have honce : stockEffects d 1 ≤ stockEffects floor 1+1 := h _ _ _ hrun 1
    have hnone : stockEffects floor 1=0 := by decide
    omega

end AardvarkWms
