import AardvarkWms.SerialSteps

/-! What a receive, a move, a confirmed pick and a scanned pick do to quants and serials when
they run alone, together with the stock that each was about as its reads resolve it. -/
namespace AardvarkWms

open Transactions Transactions.Txn Relational

section Quants
variable {d d' : WmsDb}

theorem sameSerials_update {t : TableName} (ht : serialTables t=false) (id : t.Id) (p : t.Patch)
    (d : WmsDb) : SameSerials d (apply (.update t id p) d) :=
  sameOn_apply d (by simp [Statement.table,ht])

theorem only_incrementOrCreateQuant {ok : Statement wms → Prop} {i : StockQuantIdentity} {n : ℤ}
    (hquant : ∀ w : Statement wms, w.table=.stockQuants → ok w)
    (howner : ∀ w : Statement wms, w.table=.ownerClientIds → ok w) :
    Only ok (incrementOrCreateQuant i n) := by
  refine (only_advisoryLock (D := wms) _).bind fun _ => (only_findByIdentity _ _).bind fun found => ?_
  cases found with
  | none => exact only_createQuant hquant howner
  | some q => exact ((only_update (D := wms) _ _ _).mpr (hquant _ rfl)).bind fun _ => only_done _

theorem ran_incrementOrCreateQuant {i : StockQuantIdentity} {n : ℤ} {q : StockQuant}
    (h : Ran store (incrementOrCreateQuant i n) d q d') :
    ∃ t : Deposit, t.quant=q ∧ t.Valid d n i ∧ SameSerials (after (t.writes 0 n) d) d' := by
  have hwp : wp store (fun _ => True) (incrementOrCreateQuant i n) (.start d) fun q c =>
      ∃ t : Deposit, t.quant=q ∧ t.Valid d n i ∧ Reaches (.start d) (t.writes 0 n) c :=
    wp_incrementOrCreateQuant (Reaches.refl _) fun t c ht hc => ⟨t,rfl,ht,hc⟩
  obtain ⟨c,rfl,t,hq,ht,hc⟩ := Ran.wp hwp h
  refine ⟨t,hq,ht,fun table htable => ?_⟩
  have hserials : SameOn (D := wms) (fun t => decide (t=.serialNumbers)) d c.view :=
    Ran.aside h (only_incrementOrCreateQuant (fun w hw => by simp [hw]) fun w hw => by simp [hw])
  cases table with
  | skus => exact hc.view .skus rfl
  | stockQuants => exact hc.view .stockQuants rfl
  | serialNumbers =>
    have hkept : after (t.writes 0 n) d .serialNumbers=d .serialNumbers := by
      refine after_of_table fun w hw => ?_
      rw [t.writes_table 0 n w hw]
      decide
    rw [hkept]
    exact hserials .serialNumbers (by simp)
  | _ => cases htable

theorem ran_resolveStockQuant {warehouseId id : ℕ} {q : StockQuant}
    (h : Ran store (resolveStockQuant warehouseId id) d q d') :
    (d .stockQuants).get? id=some q ∧ d=d' := by
  simp only [resolveStockQuant,bind_eq,ran_bind,ran_demand] at h
  obtain ⟨o,e,hread,hq,rfl⟩ := h
  obtain ⟨rfl,rfl⟩ := ran_findWhere.mp hread
  exact ⟨(Option.filter_eq_some_iff.mp hq).1,rfl⟩

theorem ran_decrementQuant {q : StockQuant} {n : ℤ} {preserve : Bool} {u : Unit}
    (h : Ran store (decrementQuant q n preserve) d u d') :
    after [.update .stockQuants q.id {quantity := .decrement n}] d=d' := by
  simp only [decrementQuant,lockAndReloadStockQuant,bind_eq,ran_bind,ran_lockRow,ran_require,
    ran_update] at h
  obtain ⟨locked,_,⟨_,_,rfl,hlocked⟩,_,_,hfreeze,_,_,⟨_,rfl⟩,_,_,⟨_,rfl⟩,_,rfl⟩ := h
  obtain ⟨hrow,rfl⟩ := ran_resolveStockQuant hlocked
  obtain rfl := hfreeze.reads (only_assertNoBlockingStockFreeze _)
  have hid : locked.id=q.id := Table.key_of_get? hrow
  rw [hid]
  rfl

end Quants

/-- The quant that a move takes stock from, if it is not a replay. -/
def moveSource (warehouseReference : Text) (dto : MoveStockDto) : Wms (Option StockQuant) := do
  let warehouse ← resolveWarehouse warehouseReference
  match ← findIdempotentOperation warehouse.id .MOVE dto.request with
  | some _ => return none
  | none =>
    let _ ← resolveLocation warehouse.id dto.toLocationReference
    let sourceQuant ← resolveMoveSourceQuant warehouse.id dto
    let current ← resolveStockQuant warehouse.id sourceQuant.id
    return some current

theorem ran_move {warehouse : Text} {dto : MoveStockDto} {r : StockOperationResponse}
    {d d' : WmsDb} (h : Ran store (move warehouse dto) d r d') : d=d' ∨
    ∃ (q : StockQuant) (t : Deposit), Ran store (moveSource warehouse dto) d (some q) d ∧
      (d .stockQuants).get? q.id=some q ∧ t.quant.skuId=q.skuId ∧
      t.Fits (after [.update .stockQuants q.id {quantity := .decrement dto.quantity}] d)
        dto.quantity ∧
      SameSerials (after (.update .stockQuants q.id {quantity := .decrement dto.quantity}
        ::t.writes 0 dto.quantity) d) d' := by
  simp only [move,bind_eq,pure_eq,ran_bind] at h
  obtain ⟨w,_,hwarehouse,found,_,hfound,h⟩ := h
  obtain rfl := hwarehouse.reads (only_resolveWarehouse _)
  obtain rfl := hfound.reads (only_findIdempotentOperation _ _ _)
  cases found with
  | some existing => exact .inl h.2
  | none =>
    simp only [ran_bind,ran_require,ran_done] at h
    obtain ⟨l,_,hlocation,source,_,hsource,_,_,⟨_,rfl⟩,q,_,hcurrent,o,_,howner,_,_,hfreeze,h⟩ := h
    obtain rfl := hlocation.reads (only_resolveLocation _ _)
    obtain rfl := hsource.reads (only_resolveMoveSourceQuant _ _)
    obtain ⟨hrow,rfl⟩ := ran_resolveStockQuant hcurrent
    obtain rfl := howner.reads (only_ownerClientIdOf _ _)
    obtain rfl := hfreeze.reads (only_assertNoBlockingStockFreeze _)
    obtain ⟨_,_,hdecrement,target,_,hdeposit,m,_,hmovement,owner,_,hreads,_,_,hlink,_,rfl⟩ := h
    obtain rfl := ran_decrementQuant hdecrement
    obtain ⟨t,rfl,ht,hsame⟩ := ran_incrementOrCreateQuant hdeposit
    have hid : q.id=source.id := Table.key_of_get? hrow
    refine .inr ⟨q,t,?_,hid ▸ hrow,(quantIdentityWhere_eq ht.identity).2.1,ht.fits,?_⟩
    · simp only [moveSource,bind_eq,pure_eq,ran_bind]
      refine ⟨w,d,hwarehouse,none,d,hfound,?_⟩
      simp only [ran_bind,ran_done]
      exact ⟨l,d,hlocation,source,d,hsource,q,d,hcurrent,rfl,rfl⟩
    · have hmoved := Ran.aside (p := serialTables) hmovement
        (only_fresh.bind fun _ => (apart_insert rfl _).bind fun _ => only_done _)
      obtain rfl := hreads.reads (only_resolveOperationOwner _ _ _)
      have hlinked := Ran.aside (p := serialTables) hlink ?_
      · exact (hsame.trans hmoved).trans hlinked
      · cases owner with
        | none => exact only_done _
        | some owner => exact (links_linkOwnerResources _ _ _).mono Links.apart

/-- The quant of the task's reservation, if the task is a pick. -/
def pickedTaskQuant : Option WarehouseTask → Wms (Option StockQuant)
  | none => pure none
  | some task =>
    if task.type=.PICK then do
      let reservation ← findOptional .reservations task.reservationId
      findOptional .stockQuants (reservation.map (·.stockQuantId))
    else pure none

/-- The quant that a scan picks from, if it is the scan that ends a pick task. -/
def scannedQuant (warehouseReference : Text) (sessionReference : ℕ) (dto : ScanRfStepDto) :
    Wms (Option StockQuant) := do
  let warehouse ← resolveWarehouse warehouseReference
  let session ← resolveSession warehouse.id sessionReference
  let task ← resolveSessionTask warehouse.id session.taskId
  let found ← getOpenStep session.id
  let step ← demand found (.conflict "RF session has no open step")
  if isExpectedScan step.expected dto.scannedValue=true ∧
      (task.bind (getNextStepAfterScan · step.stepKey)).isNone=true then
    pickedTaskQuant (task.map (·.task))
  else return none

section Scan
variable {d d' : WmsDb}

theorem ran_findOptional {t : TableName} {id : Option t.Id} {o : Option t.Row} :
    Ran store (findOptional t id) d o d' ↔ o=id.bind (d t).get? ∧ d=d' := by
  cases id with
  | none => exact Iff.rfl
  | some id => exact Iff.rfl

theorem pickedTaskQuant_congr {task : Option WarehouseTask} {o : Option StockQuant}
    (hreservations : d' .reservations=d .reservations) (hquants : d' .stockQuants=d .stockQuants)
    (h : Ran store (pickedTaskQuant task) d' o d') : Ran store (pickedTaskQuant task) d o d := by
  cases task with
  | none => exact ⟨h.1,rfl⟩
  | some task =>
    simp only [pickedTaskQuant,bind_eq,pure_eq,ran_ite,ran_bind,ran_done] at h ⊢
    rcases h with ⟨hpick,r,e,hr,hq⟩|⟨hother,h⟩
    · obtain ⟨rfl,rfl⟩ := ran_findOptional.mp hr
      obtain ⟨rfl,_⟩ := ran_findOptional.mp hq
      refine .inl ⟨hpick,_,d,ran_findOptional.mpr ⟨rfl,rfl⟩,ran_findOptional.mpr ⟨?_,rfl⟩⟩
      rw [hreservations,hquants]
    · exact .inr ⟨hother,h.1,trivial⟩

/-- A scanned pick takes from the quant of its task's reservation what it gives the order line, and
writes four tables besides. -/
theorem ran_pickedQuant {p : TableName → Bool} {warehouseId : ℕ} {task : WarehouseTask}
    {dto : ScanRfStepDto} {u : Unit}
    (hp : [TableName.reservations,.stockMovements,.warehouseTasks,.outboundOrders].all (!p ·)=true)
    (h : Ran store (completePickTask warehouseId task dto) d u d') :
    ∃ r q line, task.reservationId.bind (d .reservations).get?=some r ∧
      (d .stockQuants).get? r.stockQuantId=some q ∧ task.outboundOrderLineId=some line.id ∧
      (d .outboundOrderLines).get? line.id=some line ∧
      SameOn p (after [.update .stockQuants q.id
          {quantity := .decrement ((dto.quantity <|> task.quantity).getD 0),
           reservedQuantity := .decrement ((dto.quantity <|> task.quantity).getD 0), version := 1},
        .update .outboundOrderLines line.id
          (.increment ((dto.quantity <|> task.quantity).getD 0))] d) d' := by
  have hapart : ∀ t∈[TableName.reservations,.stockMovements,.warehouseTasks,.outboundOrders],
      ¬p t=true := fun t ht => by simpa using List.all_eq_true.mp hp t ht
  have hupdate : ∀ (t : TableName) (id : t.Id) (q : t.Patch) (v : WmsDb), ¬p t=true →
      SameOn p v (apply (D := wms) (.update t id q) v) := fun t id q v ht => sameOn_apply v ht
  simp only [completePickTask,bind_eq,pure_eq,ran_bind,ran_demand,ran_require,ran_lockRow,
    ran_update,ran_fresh] at h
  obtain ⟨orderId,_,⟨_,rfl⟩,lineId,_,⟨hlineId,rfl⟩,reservationId,_,⟨hid,rfl⟩,_,_,⟨_,rfl⟩,found,_,
    hfound,h⟩ := h
  obtain ⟨rfl,rfl⟩ := ran_find.mp hfound
  obtain ⟨r,_,⟨hr,rfl⟩,_,_,rfl,foundQuant,_,hquant,q,_,⟨hq,rfl⟩,_,_,hfreeze,_,_,⟨_,rfl⟩,h⟩ := h
  obtain ⟨rfl,rfl⟩ := ran_find.mp hquant
  obtain rfl := hfreeze.reads (only_assertNoBlockingStockFreeze _)
  obtain ⟨foundLine,_,hline,line,_,⟨hl,rfl⟩,_,_,⟨_,rfl⟩,h⟩ := h
  obtain ⟨rfl,rfl⟩ := ran_find.mp hline
  obtain ⟨hreservation,_⟩ := Option.filter_eq_some_iff.mp hr
  have hlid : line.id=lineId := Table.key_of_get? hl
  subst hlid
  obtain ⟨_,_,⟨_,rfl⟩,_,_,⟨_,rfl⟩,_,_,⟨_,rfl⟩,id,_,rfl,_,_,hmovement,_,_,⟨_,rfl⟩,lines,_,hlines,h⟩ := h
  refine ⟨r,q,line,by rw [hid]; exact hreservation,hq,hlineId,hl,?_⟩
  have hmoved := Ran.aside (p := p) hmovement (only_insert (D := wms) (hapart .stockMovements (by simp)))
  obtain ⟨rfl,rfl⟩ := ran_findMany.mp hlines
  have hdone := Ran.aside (p := p) h (Only.ite
    (fun _ => (only_update (D := wms) _ _ _).mpr (hapart .outboundOrders (by simp)))
    fun _ => only_done _)
  have hreserved := hupdate .reservations r.id 
    (pickedReservation r.quantity ((dto.quantity <|> task.quantity).getD 0))
    (apply (D := wms) (.update .stockQuants q.id
      {quantity := .decrement ((dto.quantity <|> task.quantity).getD 0),
       reservedQuantity := .decrement ((dto.quantity <|> task.quantity).getD 0), version := 1}) d)
    (hapart .reservations (by simp))
  have hline := hreserved.apply (.update .outboundOrderLines line.id
    (.increment ((dto.quantity <|> task.quantity).getD 0)))
  exact ((hline.trans hmoved).trans
    (hupdate .warehouseTasks task.id {status := .DONE} _ (hapart .warehouseTasks (by simp)))).trans hdone

theorem ran_completePickTask {warehouseId : ℕ} {task : WarehouseTask} {dto : ScanRfStepDto}
    {u : Unit} (htask : task.type=.PICK) (h : Ran store (completePickTask warehouseId task dto) d u d') :
    ∃ (q : StockQuant) (n : ℤ), Ran store (pickedTaskQuant (some task)) d (some q) d ∧
      (d .stockQuants).get? q.id=some q ∧
      SameSerials (after [.update .stockQuants q.id
        {quantity := .decrement n, reservedQuantity := .decrement n, version := 1}] d) d' := by
  obtain ⟨r,q,line,hr,hq,_,_,hsame⟩ := ran_pickedQuant (p := serialTables) rfl h
  have hqid : q.id=r.stockQuantId := Table.key_of_get? hq
  have hline := sameSerials_update (t := .outboundOrderLines) rfl line.id
    (.increment ((dto.quantity <|> task.quantity).getD 0))
  refine ⟨q,(dto.quantity <|> task.quantity).getD 0,?_,hqid ▸ hq,(hline _).trans hsame⟩
  cases hid : task.reservationId with
  | none => simp [hid] at hr
  | some id =>
    rw [hid] at hr
    simp only [pickedTaskQuant,htask,if_true,bind_eq,ran_bind,hid,findOptional]
    exact ⟨some r,d,ran_find.mpr ⟨hr.symm,rfl⟩,ran_find.mpr ⟨hq.symm,rfl⟩⟩

theorem only_findSession {ok : Statement wms → Prop} (warehouseId sessionId : ℕ) :
    Only ok (resolveSession warehouseId sessionId) :=
  (only_findWhere (D := wms) _ _ _).bind fun _ => only_demand _ _

theorem apart_submitIfCount (warehouseId : ℕ) (task : WarehouseTask) (dto : ScanRfStepDto) :
    Only Apart (submitIfCount warehouseId task dto) := by
  refine Only.ite (fun _ => ?_) fun _ => only_done _
  refine (only_findFirst (D := wms) _ _).bind fun found => ?_
  cases found with
  | none => exact (only_require _ _).bind fun _ => only_done _
  | some count =>
    refine (only_require _ _).bind fun _ => (only_demand _ _).bind fun _ => ?_
    refine (only_lockRow (D := wms) _ _).bind fun _ => (apart_update rfl _ _).bind fun _ => ?_
    exact (apart_update rfl _ _).bind fun _ => (apart_update rfl _ _).bind fun _ => only_done _

theorem ran_scan {warehouse : Text} {session : ℕ} {dto : ScanRfStepDto} {u : Unit}
    (h : Ran store (scan warehouse session dto) d u d') : SameSerials d d' ∨
    ∃ (q : StockQuant) (n : ℤ), Ran store (scannedQuant warehouse session dto) d (some q) d ∧
      (d .stockQuants).get? q.id=some q ∧
      SameSerials (after [.update .stockQuants q.id
        {quantity := .decrement n, reservedQuantity := .decrement n, version := 1}] d) d' := by
  simp only [scan,bind_eq,pure_eq,ran_bind,ran_require,ran_demand] at h
  obtain ⟨w,_,hwarehouse,s,_,hsession,_,_,⟨_,rfl⟩,task,_,htask,found,_,hfound,step,_,⟨hstep,rfl⟩,h⟩ := h
  obtain rfl := hwarehouse.reads (only_resolveWarehouse _)
  obtain rfl := hsession.reads (only_findSession _ _)
  obtain rfl := htask.reads (only_resolveSessionTask _ _)
  obtain rfl := hfound.reads (only_getOpenStep _)
  simp only [ran_ite] at h
  rcases h with ⟨hexpected,h⟩|⟨_,_,rfl⟩
  · simp only [ran_bind] at h
    obtain ⟨_,e,hcompleted,h⟩ := h
    obtain ⟨_,rfl⟩ := (ran_update (D := wms) _ _).mp hcompleted
    have hsame := sameSerials_update (t := .scannerWorkflowSteps) rfl step.id .COMPLETED d
    cases hnext : task.bind (getNextStepAfterScan · step.stepKey) with
    | some next =>
      rw [hnext] at h
      exact .inl (hsame.trans (Ran.aside h (only_fresh.bind fun _ => apart_insert rfl _)))
    | none =>
      rw [hnext] at h
      simp only [ran_bind] at h
      obtain ⟨_,e,hended,h⟩ := h
      obtain ⟨_,rfl⟩ := (ran_update (D := wms) _ _).mp hended
      have hsame := hsame.trans (sameSerials_update (t := .scannerSessions) rfl s.id .COMPLETED _)
      cases task with
      | none => exact .inl (h.2 ▸ hsame)
      | some task =>
        simp only [Option.map_some,completeTaskAfterRfScan,ran_ite] at h
        rcases h with ⟨hpick,h⟩|⟨_,h⟩
        · obtain ⟨q,n,hread,hrow,hpicked⟩ := ran_completePickTask hpick h
          refine .inr ⟨q,n,?_,hsame .stockQuants rfl ▸ hrow,?_⟩
          · simp only [scannedQuant,bind_eq,pure_eq,ran_bind]
            refine ⟨w,d,hwarehouse,s,d,hsession,some task,d,htask,found,d,hfound,step,d,
              (ran_demand _ _ _).mpr ⟨hstep,rfl⟩,?_⟩
            rw [if_pos ⟨hexpected,by rw [hnext]; rfl⟩]
            exact pickedTaskQuant_congr (by simp) (by simp) hread
          · exact (sameOn_applyAll hsame).trans hpicked
        · refine .inl (hsame.trans (Ran.aside h ?_))
          refine (apart_submitIfCount _ _ _).bind fun _ => ?_
          exact Only.ite (fun _ => only_done _) fun _ => apart_update rfl _ _
  · exact .inl (SameOn.refl d)

end Scan

/-- What a confirmed pick is about: how much of which quant, and for which line of which SKU. -/
structure PickTarget where
  warehouseId : ℕ
  line : OutboundOrderLine
  quantity : ℤ
  stockQuant : StockQuant
  sku : Option Sku

def pickTarget (warehouseReference : Text) (taskReference : ℕ) (dto : ConfirmPickDto) :
    Wms PickTarget := do
  let warehouse ← resolveWarehouse warehouseReference
  let candidate ← resolveWarehouseTask warehouse.id taskReference
  let order ← resolvePickOrder warehouse.id candidate dto
  let task ← resolveWarehouseTask warehouse.id taskReference
  let line ← resolvePickLine order task dto
  let quantity := resolvePickQuantity task dto (line.orderedQuantity-line.pickedQuantity)
  let reservation ← resolvePickReservation warehouse.id line task
  let stockQuant ← resolvePickStockQuant warehouse.id line task reservation
  let sku ← resolveSkuByCode line.sku
  return ⟨warehouse.id,line,quantity,stockQuant,sku⟩

/-- How the serials of the pick are transitioned. -/
def PickTarget.input (x : PickTarget) (dto : ConfirmPickDto) : SerialTransitionInput where
  warehouseId := x.warehouseId
  skuId := some x.stockQuant.skuId
  outboundOrderLineId := x.line.id
  stockQuant := some x.stockQuant
  serialNumbers := dto.serialNumbers
  fromStatus := [.AVAILABLE,.RESERVED]
  toStatus := .PICKED
  operation := "Confirm pick"
  quantity := x.quantity
  requireExact := (resolveTraceabilityPolicy x.sku x.line).serialRequired

def PickTarget.take (x : PickTarget) : StockQuantUpdate where
  quantity := .decrement x.quantity
  reservedQuantity := .decrement x.quantity

section ConfirmPick
variable {d d' : WmsDb}

theorem only_resolvePickOrder {ok : Statement wms → Prop} (warehouseId : ℕ) (task : WarehouseTask)
    (dto : ConfirmPickDto) : Only ok (resolvePickOrder warehouseId task dto) := by
  unfold resolvePickOrder
  split
  · exact only_resolveOrder _ _
  · split
    · refine (only_find (D := wms) _ _).bind fun _ => (only_demand _ _).bind fun _ => ?_
      exact only_resolveOrder _ _
    · exact only_refuse _

theorem only_resolvePickReservation {ok : Statement wms → Prop} (warehouseId : ℕ)
    (line : OutboundOrderLine) (task : WarehouseTask) :
    Only ok (resolvePickReservation warehouseId line task) := by
  unfold resolvePickReservation
  split
  · refine (only_findWhere (D := wms) _ _ _).bind fun _ => (only_demand _ _).bind fun _ => ?_
    exact only_done _
  · exact (only_findMany (D := wms) _ _).bind fun _ => only_done _

theorem ran_resolvePickStockQuant {warehouseId : ℕ} {line : OutboundOrderLine}
    {task : WarehouseTask} {reservation : Option Reservation} {q : StockQuant}
    (h : Ran store (resolvePickStockQuant warehouseId line task reservation) d q d') :
    (d .stockQuants).get? q.id=some q ∧ d=d' := by
  cases reservation with
  | some r =>
    simp only [resolvePickStockQuant,bind_eq,ran_bind,ran_demand] at h
    obtain ⟨o,_,hread,hq,rfl⟩ := h
    obtain ⟨rfl,rfl⟩ := ran_find.mp hread
    have hid : q.id=r.stockQuantId := Table.key_of_get? hq
    exact ⟨hid ▸ hq,rfl⟩
  | none =>
    simp only [resolvePickStockQuant,bind_eq,ran_bind,ran_demand] at h
    obtain ⟨o,_,hsku,skuId,_,⟨_,rfl⟩,quants,_,hread,hq,rfl⟩ := h
    obtain rfl := hsku.reads (only_resolveKnownSkuId _ _)
    obtain ⟨rfl,rfl⟩ := ran_findMany.mp hread
    have hmem := (List.mem_insertionSort _).mp (List.mem_of_mem_head? hq)
    exact ⟨Table.get?_key (List.mem_filter.mp hmem).1,rfl⟩

theorem ran_applyPickInventory {q : StockQuant} {o : Option Reservation} {n : ℤ} {u : Unit}
    (h : Ran store (applyPickInventory q o n) d u d') : SameSerials (after [.update .stockQuants q.id
      {quantity := .decrement n, reservedQuantity := .decrement n}] d) d' := by
  simp only [applyPickInventory,takeFromQuant,bind_eq,pure_eq,ran_bind,ran_lockRow,ran_demand,
    ran_require,ran_update] at h
  obtain ⟨current,_,hcurrent,_,_,rfl,found,_,hfound,locked,_,⟨hlocked,rfl⟩,_,_,hfreeze,h⟩ := h
  have honly : Only (fun _ => False) (reloadPickReservation o n) := by
    cases o with
    | none => exact only_done _
    | some r =>
      refine (only_lockRow (D := wms) _ _).bind fun _ => (only_find (D := wms) _ _).bind fun _ => ?_
      exact (only_demand _ _).bind fun _ => only_done _
  obtain rfl := hcurrent.reads honly
  obtain ⟨rfl,rfl⟩ := ran_find.mp hfound
  obtain rfl := hfreeze.reads (only_assertNoBlockingStockFreeze _)
  obtain ⟨_,_,⟨_,rfl⟩,_,_,⟨_,rfl⟩,h⟩ := h
  have hid : locked.id=q.id := Table.key_of_get? hlocked
  rw [hid] at h
  cases current with
  | none => exact h.2 ▸ SameOn.refl _
  | some r =>
    obtain ⟨_,rfl⟩ := (ran_update (D := wms) _ _).mp h
    exact sameSerials_update rfl _ _ _

theorem ran_confirmPick {warehouse : Text} {task : ℕ} {dto : ConfirmPickDto}
    {actor : AuthenticatedUser} {u : Unit}
    (h : Ran store (confirmPick warehouse task dto actor) d u d') :
    ∃ x d₁ d₂, Ran store (pickTarget warehouse task dto) d x d ∧ 0 < x.quantity ∧
      (d .stockQuants).get? x.stockQuant.id=some x.stockQuant ∧
      SameSerials (after [.update .stockQuants x.stockQuant.id x.take] d) d₁ ∧
      Ran store (transitionOutboundSerials (x.input dto)) d₁ () d₂ ∧ SameSerials d₂ d' := by
  simp only [confirmPick,resolvePickLine,bind_eq,pure_eq,ran_bind,ran_require,ran_demand,
    ran_update] at h
  obtain ⟨w,_,hwarehouse,candidate,_,hcandidate,order,_,horder,t,_,htask,owner,_,howner,_,_,hactor,
    h⟩ := h
  obtain rfl := hwarehouse.reads (only_resolveWarehouse _)
  obtain rfl := hcandidate.reads (only_resolveWarehouseTask _ _)
  obtain rfl := horder.reads (only_resolvePickOrder _ _ _)
  obtain rfl := htask.reads (only_resolveWarehouseTask _ _)
  obtain rfl := howner.reads (only_findResourceOwner _ _)
  obtain rfl := hactor.reads (only_assertActorCanAccessOwner _ _ _)
  obtain ⟨_,_,⟨_,rfl⟩,line,_,⟨hline,rfl⟩,_,_,⟨hpos,rfl⟩,_,_,⟨_,rfl⟩,r,_,hreservation,q,_,hquant,h⟩ := h
  obtain rfl := hreservation.reads (only_resolvePickReservation _ _ _)
  obtain ⟨hrow,rfl⟩ := ran_resolvePickStockQuant hquant
  obtain ⟨sku,_,hsku,_,_,hcapture,_,d₁,hinventory,_,_,⟨_,rfl⟩,_,d₂,hmovement,_,d₃,htransition,h⟩ := h
  obtain rfl := hsku.reads (only_resolveSkuByCode _)
  obtain ⟨rfl,_⟩ := ran_assertTraceabilityCapture hcapture
  obtain ⟨_,_,⟨_,rfl⟩,refreshed,_,hrefreshed,h⟩ := h
  obtain rfl := hrefreshed.reads (only_resolveOrder _ _)
  have hmoved := (sameSerials_update (t := .outboundOrderLines) rfl line.id
    (.set (line.pickedQuantity+resolvePickQuantity t dto (line.orderedQuantity-line.pickedQuantity)))
    d₁).trans (Ran.aside (p := serialTables) hmovement (apart_createFulfillmentMovement _ _))
  have hdone := Ran.aside (p := serialTables) h
    (Only.ite (fun _ => apart_update rfl _ _) fun _ => only_done _)
  refine ⟨⟨w.id,line,_,q,sku⟩,d₂,d₃,?_,
    resolvePickQuantity_pos t dto hpos,hrow,(ran_applyPickInventory hinventory).trans hmoved,
    htransition,(sameSerials_update rfl _ _ _).trans hdone⟩
  simp only [pickTarget,resolvePickLine,bind_eq,pure_eq,ran_bind,ran_demand,ran_done]
  exact ⟨w,d,hwarehouse,candidate,d,hcandidate,order,d,horder,t,d,htask,line,d,⟨hline,rfl⟩,r,d,
    hreservation,q,d,hquant,sku,d,hsku,rfl,rfl⟩

end ConfirmPick

section Receive
variable {d d' : WmsDb}

theorem ran_resolveSku {reference : Text} {sku : Sku}
    (h : Ran store (Inbound.resolveSku reference) d sku d') : sku∈(d .skus).rows ∧ d=d' := by
  simp only [Inbound.resolveSku,bind_eq,ran_bind,ran_demand] at h
  obtain ⟨o,_,hread,hsku,rfl⟩ := h
  obtain ⟨rfl,rfl⟩ := ran_findFirst.mp hread
  exact ⟨List.mem_of_find?_eq_some hsku,rfl⟩

theorem ran_assertReceiveSerialDistribution {good damaged : ℤ} {goods damages : List Text}
    {policy : TraceabilityPolicy} {u : Unit}
    (h : Ran store (Inbound.assertReceiveSerialDistribution good damaged goods damages policy) d u d') :
    d=d' ∧ (policy.serialRequired=true → (goods.length : ℤ)=good ∧ (damages.length : ℤ)=damaged) := by
  simp only [Inbound.assertReceiveSerialDistribution,bind_eq,pure_eq,ran_ite,ran_bind,ran_require,
    ran_done] at h
  rcases h with ⟨⟨hfree,_⟩,_,rfl⟩|⟨_,_,_,⟨hgood,rfl⟩,hdamaged,rfl⟩
  · exact ⟨rfl,fun hrequired => by rw [hfree] at hrequired; cases hrequired⟩
  · exact ⟨rfl,fun _ => ⟨hgood,hdamaged⟩⟩

theorem links_resolveReceiveOwner (warehouseId shipmentId : ℕ) (reference : Option Text) :
    Only Links (Inbound.resolveReceiveOwner warehouseId shipmentId reference) := by
  cases reference with
  | none =>
    unfold Inbound.resolveReceiveOwner
    exact only_findResourceOwner _ _
  | some r =>
    refine (only_resolveOwnerClient _ _).bind fun _ => (only_demand _ _).bind fun _ => ?_
    exact (links_linkResourceToResolvedClient _ _ _).bind fun _ => only_done _

theorem apart_resolveOrCreateReceiveLot (warehouseId skuId : ℕ) (reference : Option Text)
    (quality : Option ReceiveQualityStatus) :
    Only Apart (Inbound.resolveOrCreateReceiveLot warehouseId skuId reference quality) := by
  cases reference with
  | none => exact only_done _
  | some code =>
    refine (only_findFirst (D := wms) _ _).bind fun found => ?_
    cases found with
    | some lot => exact (only_require _ _).bind fun _ => only_done _
    | none => exact only_fresh.bind fun _ => (apart_insert rfl _).bind fun _ => only_done _

theorem apart_resolveReceiveLine (shipmentId : ℕ) (lines : List InboundShipmentLine)
    (dto : Inbound.ReceiveInboundLineDto) :
    Only Apart (Inbound.resolveReceiveLine shipmentId lines dto) := by
  unfold Inbound.resolveReceiveLine
  split
  · exact ((only_findFirst (D := wms) _ _).bind fun _ => only_demand _ _).bind fun _ => only_done _
  · refine (only_require _ _).bind fun _ => (only_demand _ _).bind fun _ => ?_
    refine (Inbound.only_resolveSku _).bind fun _ => only_fresh.bind fun _ => ?_
    exact (apart_insert rfl _).bind fun _ => only_done _

theorem ran_resolveReceive {warehouseId : ℕ} {reference : Text}
    {dto : Inbound.ReceiveInboundLineDto} {x : Inbound.ReceiveContext}
    (h : Ran store (Inbound.resolveReceive warehouseId reference dto) d x d') :
    SameSerials d d' ∧ x.sku∈(d .skus).rows ∧ (x.sku.traceability.serialRequired=true →
      (dto.serialNumbers.length : ℤ)=dto.quantity ∧
      (dto.damagedSerialNumbers.length : ℤ)=dto.damaged) := by
  simp only [Inbound.resolveReceive,Inbound.assertNotOverReceived,bind_eq,pure_eq,ran_bind,
    ran_require,ran_done] at h
  obtain ⟨s,_,hshipment,lines,_,hlines,o,_,howner,_,_,⟨_,rfl⟩,y,_,hline,_,_,hover,sku,_,hsku,h⟩ := h
  obtain rfl := hshipment.reads (Inbound.only_resolveShipment _ _)
  obtain ⟨_,rfl⟩ := ran_findMany.mp hlines
  have howned := Ran.aside (p := serialTables) howner
    ((links_resolveReceiveOwner _ _ _).mono Links.apart)
  have hlined := Ran.aside (p := serialTables) hline (apart_resolveReceiveLine _ _ _)
  obtain ⟨_,_,⟨_,rfl⟩,_,rfl⟩ := hover
  obtain ⟨hmem,rfl⟩ := ran_resolveSku hsku
  obtain ⟨l,_,hlocation,_,_,⟨_,rfl⟩,_,_,hcapture,_,_,hcount,lot,_,hlot,rfl,rfl⟩ := h
  obtain rfl := hlocation.reads (only_resolveLocation _ _)
  obtain ⟨rfl,_⟩ := ran_assertTraceabilityCapture hcapture
  obtain ⟨rfl,hlengths⟩ := ran_assertReceiveSerialDistribution hcount
  have hsame := howned.trans hlined
  have hlotted := Ran.aside (p := serialTables) hlot (apart_resolveOrCreateReceiveLot _ _ _ _)
  refine ⟨hsame.trans hlotted,?_,fun hrequired => hlengths ?_⟩
  · rw [hsame .skus rfl]
    exact hmem
  · have hpolicy : sku.traceability.serialRequired=true := hrequired
    simp [mergePolicy,hpolicy]

end Receive

end AardvarkWms
