import AardvarkWms.CycleCounts
import AardvarkWms.AllocationSteps

/-! What the two pick paths and the scanner's exception do to the stock tables. -/
namespace AardvarkWms

open Transactions Transactions.Txn Relational

/-- A pick: the quant as it is when the pick commits, the reservation and the line as they
were read, the order that the pick completes. -/
structure Pick where
  quant : StockQuant
  reservation : Option Reservation
  line : OutboundOrderLine
  quantity : ℤ
  movement : StockMovement
  completed : Option ℕ

/-- The order is marked as picked, if it is. -/
def completionWrites (completed : Option ℕ) : List (Statement wms) :=
  completed.toList.map fun id => .update .outboundOrders id
    {status := .PICKED, fulfillmentStatus := some (some .PICKED)}

def takeWrites (quantId version : ℕ) (n : ℤ) (o : Option Reservation) : List (Statement wms) :=
  .update .stockQuants quantId
      {quantity := .decrement n, reservedQuantity := .decrement n, version := version}
    ::o.toList.map fun r => .update .reservations r.id (pickedReservation r.quantity n)

/-- The paths differ in the version bump and in how they credit the line. -/
def Pick.writes (p : Pick) (version : ℕ) (credit : Change) : List (Statement wms) :=
  takeWrites p.quant.id version p.quantity p.reservation
  ++[.update .outboundOrderLines p.line.id credit,.insert .stockMovements p.movement]
  ++completionWrites p.completed

structure Pick.Valid (p : Pick) (v : WmsDb) : Prop where
  quant : (v .stockQuants).get? p.quant.id=some p.quant
  pos : 0<p.quantity
  enough : p.quantity≤p.quant.quantity ∧ p.quantity≤p.quant.reservedQuantity
  reservation : ∀ r∈p.reservation, r.status=.ACTIVE ∧ p.quantity ≤ r.quantity ∧
    r.stockQuantId=p.quant.id
  remaining : p.line.pickedQuantity+p.quantity≤p.line.orderedQuantity
  movement : p.movement.type=.PICK ∧ (v .stockMovements).get? p.movement.id=none

/-- What the task of a pick said where it was read, and what was read for it. -/
structure Resolved (c : WmsCtx) (taskId : ℕ) (dto : ConfirmPickDto) (p : Pick)
    (task : WarehouseTask) (orderId : ℕ) (lines : List OutboundOrderLine) : Prop where
  sawTask : c.Saw (Select.row (D := wms) .warehouseTasks taskId) (some task)
  saw : c.Saw (Select.rows (D := wms) .outboundOrderLines (·.orderId=orderId)) lines
  line : pickLine (lines.insertionSort fun a b => a.lineNumber.le b.lineNumber=true) task dto=
    some p.line
  named : ∀ id, task.reservationId=some id → ∃ r∈p.reservation, r.id=id
  found : task.reservationId=none → ∀ r∈p.reservation, r.outboundOrderLineId=some p.line.id
  none : p.reservation=none → ∃ warehouseId,
    c.Saw (Select.rows (D := wms) .reservations (lineReservation warehouseId p.line.id)) []

structure Confirmed (taskId : ℕ) (dto : ConfirmPickDto) (c : WmsCtx) (p : Pick) : Prop where
  writes : Applies (p.writes 0 (.set (p.line.pickedQuantity+p.quantity))) c.base c.view
  valid : p.Valid c.base
  reservation : ∀ r∈p.reservation, (c.base .reservations).get? r.id=some r
  resolved : ∃ task orderId lines, Resolved c taskId dto p task orderId lines

/-- The scanner goes by the reservation and the line that the task names. -/
structure Scanned (dto : ScanRfStepDto) (c : WmsCtx) (p : Pick) (r : Reservation) : Prop where
  writes : Applies (p.writes 1 (.increment p.quantity)) c.base c.view
  valid : p.Valid c.base
  reservation : p.reservation=some r
  saw : c.Saw (Select.row (D := wms) .reservations r.id) (some r)
  sawLine : c.Saw (Select.row (D := wms) .outboundOrderLines p.line.id) (some p.line)
  task : ∃ taskId t, (c.base .warehouseTasks).get? taskId=some t ∧ t.reservationId=some r.id ∧
    t.outboundOrderLineId=some p.line.id

/-- The count task that a submission or an approval read, without a lock. -/
def SawCountTask (c : WmsCtx) (t : CycleCountTask) : Prop :=
  ∃ warehouseId reference ts, ts.head?=some t ∧
    (c.Saw (Select.rows (D := wms) .cycleCountTasks (isCountTaskNamed warehouseId reference)) ts ∨
     c.Saw (Select.rows (D := wms) .cycleCountTasks (isCountTaskOf warehouseId reference)) ts)

def submitWrites (t : CycleCountTask) (counted : ℤ) : List (Statement wms) :=
  [.update .cycleCountTasks t.id
     (submittedCount counted (calculateCountVariance t.expectedQuantity counted)),
   .update .cycleCountPlans t.planId
     (countedPlanStatus (calculateCountVariance t.expectedQuantity counted))]

structure CountSubmitted (c : WmsCtx) (t : CycleCountTask) (counted : ℤ) : Prop where
  writes : Applies (submitWrites t counted) c.base c.view
  status : t.status=.OPEN ∨ t.status=.IN_PROGRESS
  nonneg : 0≤counted
  saw : SawCountTask c t
  settled : Settled (D := wms) c.base .cycleCountTasks t.id t

/-- A reservation that an exception gives back, as it was read. -/
structure Returned where
  quant : StockQuant
  reservation : Reservation
  quantity : ℤ

def Returned.writes (x : Returned) : List (Statement wms) :=
  [.update .stockQuants x.quant.id {reservedQuantity := .decrement x.quantity},
   .update .reservations x.reservation.id
     (releasedReservation x.reservation.quantity x.quantity)]

structure Returned.Valid (x : Returned) (v : WmsDb) : Prop where
  quant : (v .stockQuants).get? x.quant.id=some x.quant
  ofQuant : x.reservation.stockQuantId=x.quant.id
  active : x.reservation.status=.ACTIVE
  pos : 0<x.quantity
  le : x.quantity≤x.reservation.quantity

def exceptionWrites (returned : Option Returned) (order : Option ℕ) : List (Statement wms) :=
  returned.toList.flatMap Returned.writes
  ++order.toList.map fun id => .update .outboundOrders id
    {status := .EXCEPTION, fulfillmentStatus := some none}

structure Reported (c : WmsCtx) (returned : Option Returned) (order : Option ℕ) : Prop where
  writes : Applies (exceptionWrites returned order) c.base c.view
  valid : ∀ x∈returned, x.Valid c.base ∧
    c.Saw (Select.row (D := wms) .reservations x.reservation.id) (some x.reservation)

theorem Pick.Valid.congr {p : Pick} {v v' : WmsDb} (h : p.Valid v) (hs : SameStock v v') :
    p.Valid v' :=
  ⟨hs .stockQuants rfl ▸ h.quant,h.pos,h.enough,h.reservation,h.remaining,h.movement.1,
    hs .stockMovements rfl ▸ h.movement.2⟩

theorem SawCountTask.later {c c' : WmsCtx} {R : WmsDb → WmsDb → Prop} {t : CycleCountTask}
    (h : SawCountTask c t) (hc : c.Moves R c') : SawCountTask c' t := by
  obtain ⟨warehouseId,reference,ts,ht,hsaw⟩ := h
  exact ⟨warehouseId,reference,ts,ht,hsaw.imp hc.saw hc.saw⟩

section Only
variable {ok : Statement wms → Prop}

theorem only_resolveSkuByCode (code : Text) : Only ok (resolveSkuByCode code) :=
  only_findFirst (D := wms) _ _

theorem only_resolveKnownSkuId (known : Option ℕ) (line : OutboundOrderLine) :
    Only ok (resolveKnownSkuId known line) := by
  cases known with
  | none => exact (only_resolveSkuByCode _).bind fun _ => only_done _
  | some id => exact only_done _

theorem only_resolveOrder (warehouseId : ℕ) (reference : Text) :
    Only ok (resolveOrder warehouseId reference) := by
  refine (only_resolveOutboundOrderByReference _ _).bind fun _ => ?_
  refine (only_lockRow (D := wms) _ _).bind fun _ => (only_resolveOutboundOrder _ _).bind fun _ => ?_
  exact ((only_findMany (D := wms) _ _).bind fun _ => only_done _).bind fun _ => only_done _

theorem only_resolveWarehouseTask (warehouseId taskId : ℕ) :
    Only ok (resolveWarehouseTask warehouseId taskId) := by
  refine (only_findWhere (D := wms) _ _ _).bind fun _ => (only_demand _ _).bind fun _ => ?_
  exact (only_require _ _).bind fun _ => (only_require _ _).bind fun _ => only_done _

theorem aside_linkFulfillmentOwner (warehouseId orderId : ℕ)
    (resources : List (ResourceType × Option ℕ)) :
    Only Aside (linkFulfillmentOwner warehouseId orderId resources) := by
  refine (only_findResourceOwner _ _).bind fun owner => ?_
  cases owner with
  | none => exact only_done _
  | some owner => exact aside_ensureOwnedResourceLinks _ _ _

theorem aside_transitionSerial (input : SerialTransitionInput) (serial : SerialNumber) :
    Only Aside (transitionSerial input serial) := by
  refine (only_require _ _).bind fun _ => (only_require _ _).bind fun _ => ?_
  refine (only_require _ _).bind fun _ => (only_update (D := wms) _ _ _).mpr ?_
  simp [Aside,Statement.table,stockTables]

theorem only_selectSerialNumbers (input : SerialTransitionInput) :
    Only ok (selectSerialNumbers input) := by
  unfold selectSerialNumbers
  split
  · exact (only_findMany (D := wms) _ _).bind fun _ => only_done _
  · exact only_done _

theorem aside_transitionOutboundSerials (input : SerialTransitionInput) :
    Only Aside (transitionOutboundSerials input) := by
  refine (only_selectSerialNumbers _).bind fun numbers => ?_
  refine Only.ite (fun _ => only_done _) (fun _ => ?_)
  refine (only_assertTraceabilityCapture _).bind fun _ => ?_
  refine (only_findMany (D := wms) _ _).bind fun _ => (only_require _ _).bind fun _ => ?_
  exact (Only.each fun _ _ => aside_transitionSerial _ _).bind fun _ => only_done _

end Only

section Reads
variable {Mid : WmsCtx → Prop} {c : WmsCtx}

theorem wp_resolveOrder {warehouseId : ℕ} {reference : Text}
    {Q : OutboundOrderWithLines → WmsCtx → Prop}
    (h : ∀ o c', c.Moves Eq c' → (∃ ls, c'.Saw (Select.rows (D := wms) .outboundOrderLines
        (·.orderId=o.order.id)) ls ∧
        o.lines=ls.insertionSort fun a b => a.lineNumber.le b.lineNumber=true) → Q o c') :
    wp store Mid (resolveOrder warehouseId reference) c Q := by
  simp only [resolveOrder,findOrderLines,bind_eq,pure_eq,wp_bind,wp_done,wp_lockRow]
  refine wp_of_reads (only_resolveOutboundOrderByReference _ _) fun found c₁ h₁ => ?_
  refine wp_of_reads (only_resolveOutboundOrder _ _) fun order c₂ h₂ => ?_
  refine wp_findMany fun ls _ _ => ?_
  have h₃ := (h₁.of_reads (c₁.moves_held _)).of_reads h₂
  exact h _ _ (h₃.of_reads (c₂.moves_saw _ _)) ⟨ls,Ctx.saw_saw _ _ _,rfl⟩

theorem wp_resolvePickOrder {warehouseId : ℕ} {task : WarehouseTask} {dto : ConfirmPickDto}
    {Q : OutboundOrderWithLines → WmsCtx → Prop}
    (h : ∀ o c', c.Moves Eq c' → (∃ ls, c'.Saw (Select.rows (D := wms) .outboundOrderLines
        (·.orderId=o.order.id)) ls ∧
        o.lines=ls.insertionSort fun a b => a.lineNumber.le b.lineNumber=true) → Q o c') :
    wp store Mid (resolvePickOrder warehouseId task dto) c Q := by
  unfold resolvePickOrder
  split
  · exact wp_resolveOrder h
  · split
    · simp only [bind_eq,wp_bind,wp_demand]
      refine wp_find fun o _ line _ => ?_
      exact wp_resolveOrder fun o c' hc => h o c' ((c.moves_saw _ _).of_reads hc)
    · trivial

theorem wp_resolveWarehouseTask {warehouseId taskId : ℕ} {Q : WarehouseTask → WmsCtx → Prop}
    (h : ∀ t c', c.Moves Eq c' →
      c'.Saw (Select.row (D := wms) .warehouseTasks taskId) (some t) → Q t c') :
    wp store Mid (resolveWarehouseTask warehouseId taskId) c Q := by
  simp only [resolveWarehouseTask,bind_eq,pure_eq,wp_bind,wp_done,wp_demand,wp_require]
  refine wp_findWhere fun o _ t ht _ _ => ?_
  obtain ⟨rfl,_⟩ := Option.filter_eq_some_iff.mp ht
  exact h t _ (c.moves_saw _ _) (Ctx.saw_saw _ _ _)

theorem wp_resolvePickReservation {warehouseId : ℕ} {line : OutboundOrderLine}
    {task : WarehouseTask} {Q : Option Reservation → WmsCtx → Prop}
    (h : ∀ o c', c.Moves Eq c' →
      (∀ r, o=some r → Settled (D := wms) c.view .reservations r.id r) →
      (∀ id, task.reservationId=some id → ∃ r, o=some r ∧ r.id=id) →
      (task.reservationId=none → ∀ r, o=some r → r.outboundOrderLineId=some line.id) →
      (o=none → c'.Saw (Select.rows (D := wms) .reservations (lineReservation warehouseId line.id)) []) →
      Q o c') :
    wp store Mid (resolvePickReservation warehouseId line task) c Q := by
  unfold resolvePickReservation
  cases hid : task.reservationId with
  | some id =>
    simp only [bind_eq,pure_eq,wp_bind,wp_done,wp_demand]
    refine wp_findWhere fun o ho r hr => ?_
    obtain ⟨hrid,_,hs⟩ := ho r hr
    refine h _ _ (c.moves_saw _ _) ?_ ?_ (by simp [hid]) (by simp)
    · rintro r' ⟨⟩
      have hrid' : r.id=id := hrid
      exact hrid' ▸ hs
    · rintro id' hid'
      have he : id=id' := Option.some.inj (hid.symm.trans hid')
      exact ⟨r,rfl,he ▸ hrid⟩
  | none =>
    simp only [findLineReservations,bind_eq,pure_eq,wp_bind,wp_done]
    refine wp_findMany fun rs _ hrs => ?_
    refine h _ _ (c.moves_saw _ _) ?_ (by simp [hid]) ?_ ?_
    · intro r hr
      exact (hrs r (List.mem_of_mem_head? hr)).2
    · intro _ r hr
      have hline := (hrs r (List.mem_of_mem_head? hr)).1
      simp only [lineReservation,activeReservationsOfLine,Bool.and_eq_true,
        decide_eq_true_eq] at hline
      exact hline.2.1
    · intro hnone
      have hnil : rs=[] := List.head?_eq_none_iff.mp hnone
      exact hnil ▸ Ctx.saw_saw _ _ _

theorem wp_resolvePickStockQuant {warehouseId : ℕ} {line : OutboundOrderLine}
    {task : WarehouseTask} {reservation : Option Reservation} {Q : StockQuant → WmsCtx → Prop}
    (h : ∀ q c', c.Moves Eq c' → (∀ r, reservation=some r → q.id=r.stockQuantId) → Q q c') :
    wp store Mid (resolvePickStockQuant warehouseId line task reservation) c Q := by
  unfold resolvePickStockQuant
  cases reservation with
  | some r =>
    simp only [bind_eq,wp_bind,wp_demand]
    refine wp_find fun o ho q hq => ?_
    refine h q _ (c.moves_saw _ _) ?_
    rintro r' ⟨⟩
    exact (ho q hq).1
  | none =>
    refine wp_of_reads ?_ fun q c' hc => h q c' hc (by simp)
    refine (only_resolveKnownSkuId _ _).bind fun _ => (only_demand _ _).bind fun _ => ?_
    exact (only_findMany (D := wms) _ _).bind fun _ => only_demand _ _

end Reads

section Writes
variable {Mid : WmsCtx → Prop} {c₀ c : WmsCtx} {ws : List (Statement wms)}

theorem wp_createFulfillmentMovement {type : StockMovementType} {context : StockMovementContext}
    {Q : Unit → WmsCtx → Prop} (hc : Reaches c₀ ws c)
    (h : ∀ m c, m.type=type → (after ws c₀.view .stockMovements).get? m.id=none →
      Reaches c₀ (ws++[.insert .stockMovements m]) c → Q () c) :
    wp store Mid (createFulfillmentMovement type context) c Q := by
  simp only [createFulfillmentMovement,bind_eq,wp_bind,wp_demand,wp_fresh]
  refine wp_reads (only_resolveKnownSkuId _ _) hc fun sku c hc skuId _ id => ?_
  refine wp_inserts (t := .stockMovements) rfl hc fun c hn hc => ?_
  exact wp_asides (aside_linkFulfillmentOwner _ _ _) hc fun _ c hc => h _ c rfl hn hc

theorem wp_takeFromQuant {q : StockQuant} {o : Option Reservation} {n : ℤ}
    {Q : Unit → WmsCtx → Prop} (hc : Reaches c₀ ws c)
    (h : ∀ q' c, (after ws c₀.view .stockQuants).get? q.id=some q' →
      n≤q'.quantity ∧ n≤q'.reservedQuantity →
      Reaches c₀ (ws++takeWrites q'.id 0 n o) c →
      Q () c) :
    wp store Mid (takeFromQuant q n o) c Q := by
  simp only [takeFromQuant,bind_eq,pure_eq,wp_bind,wp_demand,wp_require]
  refine wp_locks hc fun c hc hk => ?_
  refine wp_finds_held (t := .stockQuants) rfl hk hc fun c hc q' hq' => ?_
  refine wp_freeze hc fun c hc hn => ?_
  refine wp_updates hc fun c hc => ?_
  cases o with
  | none => exact h q' c hq' hn hc
  | some r =>
    exact wp_updates hc fun c hc => h q' c hq' hn (by simpa [takeWrites] using hc)

theorem wp_applyPickInventory {q : StockQuant} {o : Option Reservation} {n : ℤ}
    {Q : Unit → WmsCtx → Prop} (hc : Reaches c₀ ws c)
    (h : ∀ q' (o' : Option Reservation) c, (after ws c₀.view .stockQuants).get? q.id=some q' →
      n≤q'.quantity ∧ n≤q'.reservedQuantity → o'.map (·.id)=o.map (·.id) →
      (∀ r∈o', (after ws c₀.view .reservations).get? r.id=some r ∧ r.status=.ACTIVE ∧
        n ≤ r.quantity) →
      Reaches c₀ (ws++takeWrites q'.id 0 n o') c →
      Q () c) :
    wp store Mid (applyPickInventory q o n) c Q := by
  simp only [applyPickInventory,bind_eq,wp_bind]
  cases o with
  | none =>
    simp only [reloadPickReservation,pure_eq,wp_done]
    exact wp_takeFromQuant hc fun q' c hq' hn hc => h q' none c hq' hn rfl (by simp) hc
  | some r =>
    simp only [reloadPickReservation,bind_eq,pure_eq,wp_bind,wp_demand,wp_done]
    refine wp_locks hc fun c hc hk => ?_
    refine wp_finds_held (t := .reservations) rfl hk hc fun c hc r' hr' => ?_
    obtain ⟨hr',htest⟩ := Option.filter_eq_some_iff.mp hr'
    have hid : r'.id=r.id := Table.key_of_get? hr'
    simp only [Bool.and_eq_true,decide_eq_true_eq] at htest
    refine wp_takeFromQuant hc fun q' c hq' hn hc => ?_
    refine h q' (some r') c hq' hn (congrArg some hid) ?_ hc
    rintro r'' ⟨⟩
    exact ⟨hid ▸ hr',htest⟩

theorem wp_completeOrder {p : Prop} [Decidable p] {order : OutboundOrder}
    {Q : Unit → WmsCtx → Prop} (hc : Reaches c₀ ws c)
    (h : ∀ completed c, Reaches c₀ (ws++completionWrites completed) c → Q () c) :
    wp store Mid (if p then updateOrderStatus order .PICKED else pure ()) c Q := by
  simp only [wp_ite]
  refine ⟨fun _ => ?_,fun _ => h none c (by simpa [completionWrites] using hc)⟩
  exact wp_updates hc fun c hc => h (some order.id) c hc

end Writes

theorem resolvePickQuantity_pos (task : WarehouseTask) (dto : ConfirmPickDto) {n : ℤ}
    (h : 0<n) : 0 < resolvePickQuantity task dto n := by
  unfold resolvePickQuantity
  cases hq : dto.quantity with
  | some m => exact dto.quantity_pos m hq
  | none =>
    cases ht : positiveInt task.quantity with
    | none => simpa using h
    | some m =>
      have hm := (Option.filter_eq_some_iff.mp ht).2
      simpa using hm

theorem takeWrites_movements (quantId version : ℕ) (n : ℤ) (o : Option Reservation)
    (v : WmsDb) : after (takeWrites quantId version n o) v .stockMovements=v .stockMovements := by
  cases o <;> simp [takeWrites]

theorem wp_confirmPick {Mid : WmsCtx → Prop} (warehouse : Text) (taskId : ℕ)
    (dto : ConfirmPickDto) (actor : AuthenticatedUser) (d : WmsDb) :
    wp store Mid (confirmPick warehouse taskId dto actor) (.start d)
      (fun _ c => ∃ p, Confirmed taskId dto c p) := by
  simp only [confirmPick,resolvePickLine,bind_eq,pure_eq,wp_bind,wp_demand,wp_require]
  refine wp_of_reads (only_resolveWarehouse _) fun w c₁ h₁ => ?_
  refine wp_of_reads (only_resolveWarehouseTask _ _) fun candidate c₂ h₂ => ?_
  refine wp_resolvePickOrder fun order c₃ h₃ hlines => ?_
  have h₃ := (h₁.of_reads h₂).of_reads h₃
  refine wp_resolveWarehouseTask fun task c₄ h₄ htask => ?_
  refine wp_of_reads (only_findResourceOwner _ _) fun owner c₅ h₅ => ?_
  refine wp_of_reads (only_assertActorCanAccessOwner _ _ _) fun _ c₆ h₆ _ line hline hpos => ?_
  have hn := resolvePickQuantity_pos task dto hpos
  generalize resolvePickQuantity task dto (line.orderedQuantity-line.pickedQuantity)=n at hn ⊢
  intro hle
  have htask := h₆.saw (h₅.saw htask)
  have h₆ := (h₄.of_reads h₅).of_reads h₆
  refine wp_resolvePickReservation fun o c₇ h₇ hs hnamed hfound hnone => ?_
  refine wp_resolvePickStockQuant fun q c₈ h₇₈ hquant => ?_
  have h₈ := (h₆.of_reads h₇).of_reads h₇₈
  have hreads := h₃.of_reads h₈
  have hview : c₈.view=d := hreads.view.symm
  have hview₃ : c₃.view=d := h₃.view.symm
  refine wp_reads (only_resolveSkuByCode _) (Reaches.refl c₈) fun sku c hc => ?_
  refine wp_reads (only_assertTraceabilityCapture _) hc fun _ c hc => ?_
  refine wp_applyPickInventory hc fun q' o' c hq' henough hid ho' hc => ?_
  refine wp_updates hc fun c hc => ?_
  refine wp_createFulfillmentMovement hc fun m c hm hfresh hc => ?_
  refine wp_asides (aside_transitionOutboundSerials _) hc fun _ c hc => ?_
  refine wp_asides (aside_update rfl _ _) hc fun _ c hc => ?_
  refine wp_reads (only_resolveOrder _ _) hc fun refreshed c hc => ?_
  refine wp_completeOrder hc fun completed c hc => ?_
  have hall := hreads.of_reads hc
  have hbase : c.base=d := hall.base
  have hids : q'.id=q.id := Table.key_of_get? hq'
  simp only [List.nil_append,after_nil,after_append,after_cons,apply_update_ne,
    takeWrites_movements,ne_eq,reduceCtorEq,not_false_eq_true,hview,← hbase] at hq' hfresh ho'
  rw [h₆.view.symm,hview₃,← hbase] at hs
  have halike : ∀ r∈o', ∃ r₀, o=some r₀ ∧ r.Alike r₀ := by
    intro r hr
    obtain rfl := hr
    obtain ⟨r₀,rfl,hrid⟩ := Option.map_eq_some_iff.mp hid.symm
    have hrid : r₀.id=r.id := hrid
    exact ⟨r₀,rfl,reservation_alike_of_settled (hrid ▸ hs r₀ rfl) (ho' r rfl).1⟩
  obtain ⟨ls,hsaw,hls⟩ := hlines
  rw [hls] at hline
  refine ⟨⟨q',o',line,n,m,completed⟩,?_,⟨hids ▸ hq',hn,henough,?_,?_,hm,hfresh⟩,?_,task,
    order.order.id,ls,?_⟩
  · rw [hbase]
    simpa [Pick.writes,Ctx.start] using hall.view
  · intro r hr
    obtain ⟨r₀,ho,hr₀⟩ := halike r hr
    refine ⟨(ho' r hr).2.1,(ho' r hr).2.2,?_⟩
    exact hr₀.stockQuantId.trans ((hquant r₀ ho).symm.trans hids.symm)
  · have hle : n≤line.orderedQuantity-line.pickedQuantity := hle
    simpa using by omega
  · exact fun r hr => (ho' r hr).1
  · refine ⟨hc.saw ((h₇.of_reads h₇₈).saw htask),hc.saw (h₈.saw hsaw),hline,?_,?_,?_⟩
    · intro id hid'
      obtain ⟨r₀,rfl,rfl⟩ := hnamed id hid'
      obtain ⟨r,hr,hrid⟩ := Option.map_eq_some_iff.mp hid
      exact ⟨r,hr,hrid⟩
    · intro hnone' r hr
      obtain ⟨r₀,ho,hr₀⟩ := halike r hr
      exact hr₀.outboundOrderLineId.trans (hfound hnone' r₀ ho)
    · rintro rfl
      have ho : o=none := Option.map_eq_none_iff.mp hid.symm
      exact ⟨w.id,hc.saw (h₇₈.saw (hnone ho))⟩

section Scanner
variable {Mid : WmsCtx → Prop} {c : WmsCtx}

theorem wp_resolveRfTask {warehouseId : ℕ} {reference : Text} {Q : WarehouseTask → WmsCtx → Prop}
    (h : ∀ t c', c.Moves Eq c' → Settled (D := wms) c.view .warehouseTasks t.id t → Q t c') :
    wp store Mid (resolveRfTask warehouseId reference) c Q := by
  simp only [resolveRfTask,bind_eq,wp_bind,wp_demand]
  refine wp_findFirst fun rs hrs t ht => ?_
  exact h t _ (c.moves_saw _ _) (hrs t ht).2

theorem only_findOptional {ok : Statement wms → Prop} (t : TableName) (id : Option t.Id) :
    Only ok (findOptional t id) := by
  cases id with
  | none => exact only_done _
  | some id => exact only_find (D := wms) _ _

theorem only_includeTask {ok : Statement wms → Prop} (task : WarehouseTask) :
    Only ok (includeTask task) := by
  refine (only_findOptional .warehouseLocations _).bind fun _ => ?_
  refine (only_findOptional .warehouseLocations _).bind fun _ => ?_
  exact (only_findOptional .skus _).bind fun _ => only_done _

theorem only_resolveRfTask {ok : Statement wms → Prop} (warehouseId : ℕ) (reference : Text) :
    Only ok (resolveRfTask warehouseId reference) :=
  (only_findFirst (D := wms) _ _).bind fun _ => only_demand _ _

theorem only_resolveSessionTask {ok : Statement wms → Prop} (warehouseId : ℕ) (id : Option ℕ) :
    Only ok (resolveSessionTask warehouseId id) := by
  cases id with
  | none => exact only_done _
  | some id =>
    refine (only_resolveRfTask _ _).bind fun task => (only_includeTask _).bind fun _ => ?_
    exact only_done _

theorem only_getOpenStep {ok : Statement wms → Prop} (sessionId : ℕ) :
    Only ok (getOpenStep sessionId) :=
  (only_findMany (D := wms) _ _).bind fun _ => only_done _

theorem wp_resolveSessionTask {warehouseId : ℕ} {id : Option ℕ}
    {Q : Option RfTask → WmsCtx → Prop}
    (h : ∀ o c', c.Moves Eq c' → (∀ t, o=some t →
      Settled (D := wms) c.view .warehouseTasks t.task.id t.task) → Q o c') :
    wp store Mid (resolveSessionTask warehouseId id) c Q := by
  cases id with
  | none => exact h none c c.moves_refl (by simp)
  | some id =>
    simp only [resolveSessionTask,bind_eq,pure_eq,wp_bind,wp_done]
    refine wp_resolveRfTask fun task c₁ h₁ hs => ?_
    simp only [includeTask,bind_eq,pure_eq,wp_bind,wp_done]
    refine wp_of_reads (only_findOptional .warehouseLocations _) fun l c₂ h₂ => ?_
    refine wp_of_reads (only_findOptional .warehouseLocations _) fun l' c₃ h₃ => ?_
    refine wp_of_reads (only_findOptional .skus _) fun sku c₄ h₄ => ?_
    refine h _ c₄ (((h₁.of_reads h₂).of_reads h₃).of_reads h₄) ?_
    rintro t ⟨⟩
    exact hs

theorem aside_createScannerStep (sessionId : ℕ) (plan : RfStepPlan) (sequence : ℕ) :
    Only Aside (createScannerStep sessionId plan sequence) :=
  only_fresh.bind fun _ => only_insert (D := wms) (by simp [Aside,Statement.table,stockTables])

/-- Does a scan of the task pick, and what does it take? -/
theorem wp_completePickTask {warehouseId : ℕ} {task : WarehouseTask} {dto : ScanRfStepDto}
    {Q : Unit → WmsCtx → Prop}
    (h : ∀ (p : Pick) r c', Reaches c (p.writes 1 (.increment p.quantity)) c' → p.Valid c.view →
      p.reservation=some r → c'.Saw (Select.row (D := wms) .reservations r.id) (some r) →
      c'.Saw (Select.row (D := wms) .outboundOrderLines p.line.id) (some p.line) →
      task.reservationId=some r.id → task.outboundOrderLineId=some p.line.id → Q () c') :
    wp store Mid (completePickTask warehouseId task dto) c Q := by
  simp only [completePickTask,bind_eq,pure_eq,wp_bind,wp_demand,wp_require]
  intro orderId _ lineId hlineId reservationId hreservationId hpos
  generalize (dto.quantity <|> task.quantity).getD 0=n at hpos ⊢
  refine wp_find fun o ho r hr => ?_
  obtain ⟨rfl,hactive⟩ := Option.filter_eq_some_iff.mp hr
  obtain ⟨rfl,_⟩ := ho r rfl
  refine wp_find_held (by simp) ?_
  simp only [Ctx.held_view,Ctx.saw_view]
  intro q hq
  refine wp_of_reads (only_assertNoBlockingStockFreeze _) fun _ c₁ h₁ henough => ?_
  refine wp_find fun o ho line hline hremaining => ?_
  obtain rfl := hline
  have h₂ := h₁.of_reads (c₁.moves_saw (Select.row (D := wms) .outboundOrderLines lineId) (some line))
  have hlid : line.id=lineId := (ho line rfl).1
  subst hlid
  have hrest := ((Ctx.moves_held (c.saw (Select.row (D := wms) .reservations r.id) (some r))
    [Lock.row (D := wms) .stockQuants r.stockQuantId]).of_reads (Ctx.moves_saw _ _ _)).of_reads h₂
  have hreads := (c.moves_saw (Select.row (D := wms) .reservations r.id) (some r)).of_reads hrest
  have hsaw := hrest.saw (Ctx.saw_saw c _ _)
  have hsawLine := Ctx.saw_saw c₁ (Select.row (D := wms) .outboundOrderLines line.id) (some line)
  generalize (c₁.saw (Select.row (D := wms) .outboundOrderLines line.id) (some line))=c₂
    at hreads hsaw hsawLine ⊢
  have hview : c₂.view=c.view := hreads.view.symm
  have hqid : q.id=r.stockQuantId := Table.key_of_get? hq
  refine wp_updates (Reaches.refl c₂) fun c₃ hc => ?_
  refine wp_updates hc fun c₃ hc => ?_
  refine wp_updates hc fun c₃ hc => ?_
  simp only [wp_fresh]
  intro id
  refine wp_inserts (t := .stockMovements) rfl hc fun c₃ hfresh hc => ?_
  refine wp_asides (aside_update rfl _ _) hc fun _ c₃ hc => ?_
  refine wp_selects (t := .outboundOrderLines) rfl hc fun ls c₃ hc _ _ _ => ?_
  have htype : (rfPickMovement id warehouseId task r q n).type=.PICK := rfl
  generalize rfPickMovement id warehouseId task r q n=m at htype hfresh hc
  have hdone : ∀ completed c₄, Reaches c₂ (Pick.writes ⟨q,some r,line,n,m,completed⟩ 1
      (.increment n)) c₄ → Q () c₄ := by
    intro completed c₄ hc
    refine h ⟨q,some r,line,n,m,completed⟩ r c₄ (hreads.of_reads hc) ?_ rfl (hc.saw hsaw)
      (hc.saw hsawLine) hreservationId hlineId
    simp only [List.nil_append,List.cons_append,after_nil,after_cons,apply_update_ne,ne_eq,
      reduceCtorEq,not_false_eq_true,hview] at hfresh
    refine ⟨hqid ▸ hq,hpos,⟨henough.1,henough.2.1⟩,?_,hremaining,htype,hfresh⟩
    rintro r' ⟨⟩
    exact ⟨by simpa using hactive,henough.2.2,hqid.symm⟩
  simp only [wp_ite]
  refine ⟨fun _ => wp_updates hc fun c₄ hc => hdone (some orderId) c₄ hc,fun _ => ?_⟩
  exact hdone none c₃ hc

theorem countedQuantity_nonneg {dto : ScanRfStepDto} {n : ℤ}
    (h : (dto.quantity <|> dto.spelled)=some n) : 0≤n := by
  cases hq : dto.quantity with
  | some m =>
    rw [hq] at h
    obtain rfl : m=n := Option.some.inj h
    exact dto.quantity_nonneg m hq
  | none =>
    rw [hq] at h
    exact dto.spelled_nonneg n h

theorem wp_submitCycleCountFromRf {warehouseId : ℕ} {task : WarehouseTask} {dto : ScanRfStepDto}
    {Q : Bool → WmsCtx → Prop} (hno : ∀ c', Reaches c [] c' → Q false c')
    (h : ∀ t n c', Reaches c (submitWrites t n) c' → (t.status=.OPEN ∨ t.status=.IN_PROGRESS) →
      0≤n → SawCountTask c' t → Settled (D := wms) c.view .cycleCountTasks t.id t → Q true c') :
    wp store Mid (submitCycleCountFromRf warehouseId task dto) c Q := by
  simp only [submitCycleCountFromRf,findFirst,bind_eq,pure_eq,wp_bind,wp_done]
  refine wp_selects (t := .cycleCountTasks) rfl (Reaches.refl c) fun ts c₁ h₁ hsaw _ hts => ?_
  cases ht : ts.head? with
  | none =>
    simp only [wp_bind,wp_require,wp_done]
    exact fun _ => hno c₁ h₁
  | some t =>
    simp only [wp_bind,wp_require,wp_demand,wp_done]
    intro hstatus n hn
    have hsaw₁ : SawCountTask c₁ t := ⟨warehouseId,task.id,ts,ht,.inr hsaw⟩
    have hs := (hts t (List.mem_of_mem_head? ht)).2
    have hnonneg := countedQuantity_nonneg hn
    refine wp_locks (Reaches.refl c₁) fun c₂ hc _ => ?_
    refine wp_updates hc fun c₂ hc => ?_
    refine wp_asides (aside_update rfl _ _) hc fun _ c₂ hc => ?_
    refine wp_updates hc fun c₂ hc => ?_
    exact h t n c₂ (h₁.append hc) hstatus hnonneg (hsaw₁.later hc) hs

end Scanner

/-- A scan ends in a pick or a submitted count, or the stock tables stay as they are. -/
def ScanEffect (dto : ScanRfStepDto) (c : WmsCtx) : Prop :=
  Applies [] c.base c.view ∨ (∃ p r, Scanned dto c p r) ∨ ∃ t n, CountSubmitted c t n

theorem wp_scan {Mid : WmsCtx → Prop} (warehouse : Text) (session : ℕ) (dto : ScanRfStepDto)
    (d : WmsDb) :
    wp store Mid (scan warehouse session dto) (.start d) (fun _ c => ScanEffect dto c) := by
  simp only [scan,resolveSession,findWhere,bind_eq,pure_eq,wp_bind,wp_done,wp_demand,wp_require,
    wp_ite]
  refine wp_of_reads (only_resolveWarehouse _) fun w c₁ h₁ => ?_
  refine wp_find fun o _ s _ _ => ?_
  have h₂ := h₁.of_reads (c₁.moves_saw (Select.row (D := wms) .scannerSessions session) o)
  refine wp_resolveSessionTask fun task c₃ h₃ htask => ?_
  refine wp_of_reads (only_getOpenStep _) fun step c₄ h₄ step' _ => ?_
  have hreads := (h₂.of_reads h₃).of_reads h₄
  have hview : c₄.view=d := hreads.view.symm
  have hidle : ∀ c, Reaches c₄ [] c → ScanEffect dto c := by
    intro c hc
    have hall := hreads.of_reads hc
    exact .inl (hall.base ▸ hall.view)
  refine ⟨fun _ => ?_,fun _ => hidle c₄ (Reaches.refl c₄)⟩
  refine wp_asides (aside_update rfl _ _) (Reaches.refl c₄) fun _ c hc => ?_
  cases hnext : task.bind (getNextStepAfterScan · step'.stepKey) with
  | some next => exact wp_asides (aside_createScannerStep _ _ _) hc fun _ c hc => hidle c hc
  | none =>
    simp only [wp_bind]
    refine wp_asides (aside_update rfl _ _) hc fun _ c hc => ?_
    have hbase : c.base=d := (hreads.of_reads hc).base
    have hsame : SameStock c.view c.base := by
      rw [hbase,← hview]
      exact SameOn.symm hc.view
    unfold completeTaskAfterRfScan
    cases task with
    | none => exact hidle c hc
    | some t =>
      simp only [Option.map_some,bind_eq,pure_eq,wp_ite,wp_bind,wp_done]
      refine ⟨fun _ => ?_,fun _ => ?_⟩
      · refine wp_completePickTask fun p r c' hc' hvalid hr hsaw hline hrid hlid => ?_
        have hall := hreads.of_reads (hc.append hc')
        have hview₂ : (c₁.saw (Select.row (D := wms) .scannerSessions session) o).view=d :=
          h₂.view.symm
        have hs := htask t rfl
        rw [hview₂] at hs
        obtain ⟨t',ht',halike⟩ := task_alike_of_settled hs
        refine .inr (.inl ⟨p,r,?_,?_,hr,hsaw,hline,t.task.id,t',?_,?_,?_⟩)
        · rw [hall.base]
          exact hall.view
        · rw [hc'.base]
          exact hvalid.congr hsame
        · rw [hall.base]
          exact ht'
        · exact halike.reservationId.trans hrid
        · exact halike.outboundOrderLineId.trans hlid
      · have hfinish : ∀ c', Reaches c [] c' → wp store Mid
            (update (D := wms) .warehouseTasks t.task.id
              {status := .DONE, metadata := some t.task.metadata}) c'
            (fun _ c => ScanEffect dto c) := by
          intro c' hc'
          exact wp_asides (aside_update rfl _ _) (hc.append hc') fun _ c hc => hidle c hc
        unfold submitIfCount
        simp only [wp_ite]
        refine ⟨fun _ => ?_,fun _ => ⟨by simp,fun _ => hfinish c (Reaches.refl c)⟩⟩
        refine wp_submitCycleCountFromRf (fun c' hc' => ⟨by simp,fun _ => hfinish c' hc'⟩)
          fun ct n c' hc' hstatus hn hsaw hs => ⟨fun _ => ?_,by simp⟩
        have hall := hreads.of_reads (hc.append hc')
        refine .inr (.inr ⟨ct,n,?_,hstatus,hn,hsaw,?_⟩)
        · rw [hall.base]
          exact hall.view
        · rw [hc'.base]
          unfold Settled
          rwa [← hsame .cycleCountTasks rfl]

theorem wp_releaseTaskReservation {Mid : WmsCtx → Prop} {task : WarehouseTask}
    {dto : ReportRfExceptionDto} {c : WmsCtx} {Q : Unit → WmsCtx → Prop}
    (hno : ∀ c', Reaches c [] c' → Q () c')
    (h : ∀ (x : Returned) c', Reaches c x.writes c' → x.Valid c.view →
      c'.Saw (Select.row (D := wms) .reservations x.reservation.id) (some x.reservation) →
      Q () c') :
    wp store Mid (releaseTaskReservationIfRequested task dto) c Q := by
  unfold releaseTaskReservationIfRequested
  split
  · rename_i id _ _
    simp only [bind_eq,pure_eq,wp_bind]
    refine wp_find fun o ho => ?_
    have h₁ := c.moves_saw (Select.row (D := wms) .reservations id) o
    cases hr : o.filter (·.status=.ACTIVE) with
    | none => exact hno _ ((Reaches.refl c).reads h₁)
    | some r =>
      obtain ⟨rfl,hactive⟩ := Option.filter_eq_some_iff.mp hr
      obtain rfl : r.id=id := (ho r rfl).1
      simp only [wp_ite,wp_bind,wp_demand]
      refine ⟨fun _ => hno _ ((Reaches.refl c).reads h₁),fun hpos => ?_⟩
      generalize hn : min (dto.shortQuantity.getD r.quantity) r.quantity=n at hpos ⊢
      have hsaw := Ctx.saw_saw c (Select.row (D := wms) .reservations r.id) (some r)
      generalize c.saw (Select.row (D := wms) .reservations r.id) (some r)=c₁ at h₁ hsaw ⊢
      refine wp_locks (Reaches.refl c₁) fun c₂ hc hk => ?_
      refine wp_finds_held (t := .stockQuants) rfl hk hc fun c₂ hc q hq => ?_
      refine wp_freeze hc fun c₂ hc => ?_
      refine wp_updates hc fun c₂ hc => ?_
      refine wp_updates hc fun c₂ hc => ?_
      have hqid : q.id=r.stockQuantId := Table.key_of_get? hq
      rw [after_nil,← h₁.view] at hq
      refine h ⟨q,r,n⟩ c₂ ?_ ⟨hqid ▸ hq,hqid.symm,by simpa using hactive,?_,?_⟩ (hc.saw hsaw)
      · have hall := h₁.of_reads hc
        simpa [Returned.writes,hqid] using hall
      · show 0<n
        omega
      · show n ≤ r.quantity
        omega
  · exact hno c (Reaches.refl c)

theorem wp_reportTaskException {Mid : WmsCtx → Prop} (warehouse task : Text)
    (dto : ReportRfExceptionDto) (d : WmsDb) :
    wp store Mid (reportTaskException warehouse task dto) (.start d)
      (fun _ c => ∃ returned order, Reported c returned order) := by
  simp only [reportTaskException,bind_eq,wp_bind,wp_lockRow]
  refine wp_of_reads (only_resolveWarehouse _) fun w c₁ h₁ => ?_
  refine wp_resolveRfTask fun t c₂ h₂ _ => ?_
  have h₃ := (h₁.of_reads h₂).of_reads (c₂.moves_held [Lock.row (D := wms) .warehouseTasks t.id])
  refine wp_resolveRfTask fun t' c₄ h₄ _ => ?_
  have h₄ := h₃.of_reads h₄
  have hbase : c₄.base=d := h₄.base
  have hview : c₄.view=d := h₄.view.symm
  have horder : ∀ (returned : Option Returned) c, Reaches c₄ (returned.toList.flatMap Returned.writes) c →
      (∀ x∈returned, x.Valid d ∧
        c.Saw (Select.row (D := wms) .reservations x.reservation.id) (some x.reservation)) →
      wp store Mid (update (D := wms) .warehouseTasks t'.id
          {status := exceptionTaskStatus dto, metadata := some t'.metadata}) c
        fun _ c => wp store Mid (markOrderException t'.outboundOrderId) c
          fun _ c => ∃ returned order, Reported c returned order := by
    intro returned c hc hvalid
    have hdone : ∀ (order : Option ℕ) c', Reaches c (order.toList.map fun id => .update .outboundOrders id
        {status := .EXCEPTION, fulfillmentStatus := some none}) c' →
        ∃ returned order, Reported c' returned order := by
      intro order c' hc'
      have hall := h₄.of_reads (hc.append hc')
      refine ⟨returned,order,?_,fun x hx => ?_⟩
      · rw [hall.base]
        exact hall.view
      · rw [hall.base]
        exact ⟨(hvalid x hx).1,hc'.saw (hvalid x hx).2⟩
    refine wp_asides (aside_update rfl _ _) (Reaches.refl c) fun _ c' hc' => ?_
    cases t'.outboundOrderId with
    | none => exact hdone none c' hc'
    | some id => exact wp_updates hc' fun c' hc' => hdone (some id) c' hc'
  refine wp_releaseTaskReservation (fun c hc => horder none c hc (by simp))
    fun x c hc hvalid hsaw => horder (some x) c (by simpa using hc) ?_
  rintro x' ⟨⟩
  exact ⟨hview ▸ hvalid,hsaw⟩

end AardvarkWms
