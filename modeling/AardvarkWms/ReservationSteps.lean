import AardvarkWms.StockSteps

/-! What reservation create and release do to the stock tables when they commit. -/
namespace AardvarkWms

open Transactions Transactions.Txn Relational

/-- What a reservation holds of its quant and of its line. -/
def Reservation.held (r : Reservation) : ℤ := if r.status=.ACTIVE then r.quantity else 0

def reserveWrites (quantId : ℕ) (r : Reservation) (m : StockMovement) : List (Statement wms) :=
  [.update .stockQuants quantId {reservedQuantity := .increment r.quantity},
   .insert .reservations r,.insert .stockMovements m]

/-- The reservation `r` may be made of the quant `q` in `v`. -/
structure Reserving (v : WmsDb) (q : StockQuant) (r : Reservation) (m : StockMovement) :
    Prop where
  quant : (v .stockQuants).get? q.id=some q
  pos : 0 < r.quantity
  available : r.quantity≤availableQuantity q
  ofQuant : r.stockQuantId=q.id
  sku : r.skuId=q.skuId
  active : r.status=.ACTIVE
  fresh : (v .reservations).get? r.id=none
  movement : m.type=.RESERVE ∧ (v .stockMovements).get? m.id=none

/-- The quantity was inside what the transaction saw to remain of the line. -/
def LineRemaining (c : WmsCtx) (lineId : ℕ) (n : ℤ) : Prop :=
  ∃ line rs, c.Saw (Select.row (D := wms) .outboundOrderLines lineId) (some line) ∧
    c.Saw (Select.rows (D := wms) .reservations (activeReservationsOfLine lineId)) rs ∧
    n≤line.orderedQuantity-line.pickedQuantity-activeQuantity rs

/-- `r` is the new reservation of `n` of the quant `q` for the order context. -/
structure Reservation.IsFor (r : Reservation) (context : OrderContext) (q : StockQuant) (n : ℤ) :
    Prop where
  order : r.outboundOrderId=context.outboundOrderId
  line : r.outboundOrderLineId=context.outboundOrderLineId
  quant : r.stockQuantId=q.id
  sku : r.skuId=q.skuId
  quantity : r.quantity=n
  active : r.status=.ACTIVE

structure Created (dto : CreateReservationDto) (c : WmsCtx) (q : StockQuant) (r : Reservation)
    (m : StockMovement) : Prop where
  writes : Applies (reserveWrites q.id r m) c.base c.view
  reserving : Reserving c.base q r m
  target : q.id=dto.stockQuantReference
  quantity : r.quantity=dto.quantity
  line : r.outboundOrderLineId=dto.outboundOrderLineId
  remaining : ∀ l, r.outboundOrderLineId=some l → LineRemaining c l r.quantity

def releaseWrites (quantId : ℕ) (r : Reservation) (target : ReleaseStatus) (m : StockMovement) :
    List (Statement wms) :=
  [.update .stockQuants quantId {reservedQuantity := .decrement r.quantity},
   .update .reservations r.id {status := some target.status},.insert .stockMovements m]

structure Released (target : ReleaseStatus) (c : WmsCtx) (q : StockQuant) (r : Reservation)
    (m : StockMovement) : Prop where
  writes : Applies (releaseWrites q.id r target m) c.base c.view
  quant : (c.base .stockQuants).get? q.id=some q
  reservation : (c.base .reservations).get? r.id=some r
  ofQuant : q.id=r.stockQuantId
  active : r.status=.ACTIVE
  pos : 0 < r.quantity
  reserved : r.quantity≤q.reservedQuantity
  movement : m.type=.CANCEL_RESERVATION ∧ (c.base .stockMovements).get? m.id=none

section Only
variable {ok : Statement wms → Prop}

theorem only_resolveReservation (warehouseId id : ℕ) :
    Only ok (resolveReservation warehouseId id) :=
  (only_findWhere (D := wms) _ _ _).bind fun _ => only_demand _ _

theorem only_resolveOutboundOrder (warehouseId orderId : ℕ) :
    Only ok (resolveOutboundOrder warehouseId orderId) :=
  (only_findWhere (D := wms) _ _ _).bind fun _ => only_demand _ _

theorem only_lockOutboundOrder (order : Option ℕ) : Only ok (lockOutboundOrder order) := by
  cases order <;> trivial

theorem only_lockReservableOrder (warehouseId : ℕ) (order : Option ℕ) :
    Only ok (lockReservableOrder warehouseId order) := by
  cases order with
  | none => trivial
  | some id =>
    exact (only_lockRow (D := wms) _ _).bind fun _ =>
      (only_resolveOutboundOrder _ _).bind fun _ => only_require _ _

theorem only_resolveReservationOwner (warehouseId : ℕ) (dto : CreateReservationDto)
    (q : StockQuant) (context : OrderContext) :
    Only ok (resolveReservationOwner warehouseId dto q context) := by
  refine (only_resolveSingleOwnerFromResources _ _).bind fun inherited => ?_
  cases dto.ownerClientReference with
  | none => trivial
  | some reference =>
    refine (only_resolveOwnerClient _ _).bind fun _ => (only_demand _ _).bind fun _ => ?_
    exact (only_require _ _).bind fun _ => trivial

theorem aside_createReservationPickTask (warehouseId : ℕ) (q : StockQuant) (r : Reservation)
    (context : OrderContext) (n : ℤ) :
    Only Aside (createReservationPickTask warehouseId q r context n) := by
  refine only_fresh.bind fun id => (only_insert (D := wms) ?_).bind fun _ => trivial
  simp [Aside,Statement.table,stockTables]

theorem aside_cancelOpenReservationTasks (warehouseId reservationId : ℕ) :
    Only Aside (cancelOpenReservationTasks warehouseId reservationId) := by
  refine (only_findFirst (D := wms) _ _).bind fun _ => (only_require _ _).bind fun _ => ?_
  exact only_updateMany (D := wms) fun _ => by simp [Aside,Statement.table,stockTables]

end Only

section Rules
variable {Mid : WmsCtx → Prop} {c₀ c : WmsCtx} {ws : List (Statement wms)}

theorem wp_resolveOutboundOrderLine {warehouseId lineId : ℕ}
    {Q : OutboundOrderLine → WmsCtx → Prop} (hc : Reaches c₀ ws c)
    (h : ∀ line c, Reaches c₀ ws c → line.id=lineId →
      c.Saw (Select.row (D := wms) .outboundOrderLines lineId) (some line) → Q line c) :
    wp store Mid (resolveOutboundOrderLine warehouseId lineId) c Q := by
  simp only [resolveOutboundOrderLine,bind_eq,pure_eq,wp_bind,wp_done,wp_demand,wp_require]
  refine wp_finds (t := .outboundOrderLines) rfl hc fun o c hc hsaw ho line hl => ?_
  subst hl
  refine wp_findWhere fun o ho' => ?_
  intro _
  refine h line _ (hc.reads (c.moves_saw _ _)) (ho line rfl).1 ?_
  exact (c.moves_saw _ _).saw hsaw

theorem wp_resolveOrderContext {warehouseId : ℕ} {dto : CreateReservationDto}
    {Q : OrderContext → WmsCtx → Prop} (hc : Reaches c₀ ws c)
    (h : ∀ context c, Reaches c₀ ws c →
      context.outboundOrderLineId=dto.outboundOrderLineId → Q context c) :
    wp store Mid (resolveOrderContext warehouseId dto) c Q := by
  unfold resolveOrderContext
  cases hline : dto.outboundOrderLineId with
  | some lineId =>
    simp only [bind_eq,pure_eq,wp_bind,wp_done,wp_require]
    refine wp_resolveOutboundOrderLine hc fun line c hc hid _ _ => ?_
    exact h _ c hc (by simp [hline,hid])
  | none =>
    cases dto.outboundOrderId with
    | some orderId =>
      simp only [bind_eq,pure_eq,wp_bind,wp_done]
      refine wp_reads (only_resolveOutboundOrder _ _) hc fun order c hc => ?_
      exact h _ c hc hline.symm
    | none => exact h _ c hc hline.symm

theorem wp_assertLineRemaining {warehouseId : ℕ} {n : ℤ} {line : Option ℕ}
    {Q : Unit → WmsCtx → Prop} (hc : Reaches c₀ ws c)
    (h : ∀ c, Reaches c₀ ws c → (∀ l, line=some l → LineRemaining c l n) → Q () c) :
    wp store Mid (assertLineRemaining warehouseId n line) c Q := by
  cases line with
  | none => exact h c hc (by simp)
  | some lineId =>
    simp only [assertLineRemaining,bind_eq,wp_bind,wp_require]
    refine wp_resolveOutboundOrderLine hc fun line c hc _ hsaw => ?_
    refine wp_selects (t := .reservations) rfl (Reaches.refl c) fun rs c' hc' hrs _ _ hn => ?_
    refine h c' (hc.then hc') ?_
    rintro l ⟨⟩
    exact ⟨line,rs,hc'.saw hsaw,hrs,hn⟩

theorem wp_createReservationRecord {warehouseId : ℕ} {q : StockQuant} {context : OrderContext}
    {n : ℤ} {Q : Reservation → WmsCtx → Prop} (hc : Reaches c₀ ws c)
    (h : ∀ r c, r.IsFor context q n → (after ws c₀.view .reservations).get? r.id=none →
      Reaches c₀ (ws++[.insert .reservations r]) c → Q r c) :
    wp store Mid (createReservationRecord warehouseId q context n) c Q := by
  simp only [createReservationRecord,bind_eq,pure_eq,wp_bind,wp_fresh,wp_done]
  intro id
  exact wp_inserts (t := .reservations) rfl hc fun c hn hc =>
    h _ c ⟨rfl,rfl,rfl,rfl,rfl,rfl⟩ hn hc

theorem wp_createReserveMovement {warehouseId : ℕ} {q : StockQuant} {r : Reservation}
    {taskId : Option ℕ} {n : ℤ} {Q : StockMovement → WmsCtx → Prop} (hc : Reaches c₀ ws c)
    (h : ∀ m c, m.type=.RESERVE → (after ws c₀.view .stockMovements).get? m.id=none →
      Reaches c₀ (ws++[.insert .stockMovements m]) c → Q m c) :
    wp store Mid (createReserveMovement warehouseId q r taskId n) c Q := by
  simp only [createReserveMovement,bind_eq,pure_eq,wp_bind,wp_fresh,wp_done]
  intro id
  exact wp_inserts (t := .stockMovements) rfl hc fun c hn hc => h _ c rfl hn hc

theorem wp_resolveReservation_held {warehouseId id : ℕ} {Q : Reservation → WmsCtx → Prop}
    (hk : Lock.row (D := wms) .reservations id∈c.locks) (hc : Reaches c₀ ws c)
    (h : ∀ r c, Reaches c₀ ws c → (after ws c₀.view .reservations).get? id=some r → Q r c) :
    wp store Mid (resolveReservation warehouseId id) c Q := by
  simp only [resolveReservation,findWhere,bind_eq,pure_eq,wp_bind,wp_done,wp_demand]
  refine wp_finds_held (t := .reservations) rfl hk hc fun c hc r hr => ?_
  exact h r c hc (Option.filter_eq_some_iff.mp hr).1

theorem wp_releaseReservedStockQuant {q : StockQuant} {n : ℤ} {Q : Unit → WmsCtx → Prop}
    (hc : Reaches c₀ ws c)
    (h : ∀ q' c, Reaches c₀ (ws++[.update .stockQuants q.id {reservedQuantity := .decrement n}]) c →
      (after ws c₀.view .stockQuants).get? q.id=some q' → n≤q'.reservedQuantity → Q () c) :
    wp store Mid (releaseReservedStockQuant q n) c Q := by
  simp only [releaseReservedStockQuant,bind_eq,wp_bind,wp_require]
  refine wp_lockAndReloadStockQuant hc fun q' c hc hq _ => ?_
  refine wp_freeze hc fun c hc => ?_
  intro hn
  exact wp_updates hc fun c hc => h q' c hc hq hn

theorem wp_createReleaseStockMovement {warehouseId : ℕ} {q : StockQuant} {r : Reservation}
    {n : ℤ} {Q : Unit → WmsCtx → Prop} (hc : Reaches c₀ ws c)
    (h : ∀ m c, m.type=.CANCEL_RESERVATION → (after ws c₀.view .stockMovements).get? m.id=none →
      Reaches c₀ (ws++[.insert .stockMovements m]) c → Q () c) :
    wp store Mid (createReleaseStockMovement warehouseId q r n) c Q := by
  simp only [createReleaseStockMovement,bind_eq,wp_bind,wp_fresh]
  intro id
  exact wp_inserts (t := .stockMovements) rfl hc fun c hn hc => h _ c rfl hn hc

end Rules

theorem reserving_of_settled {v : WmsDb} {q' q : StockQuant} {r : Reservation}
    {m : StockMovement} {context : OrderContext} {n : ℤ} (hr : r.IsFor context q' n)
    (hq : (v .stockQuants).get? q'.id=some q)
    (hs : Settled (D := wms) v .stockQuants q'.id q') (hn : 0<n)
    (ha : n≤availableQuantity q) (hfresh : (v .reservations).get? r.id=none)
    (hm : m.type=.RESERVE ∧ (v .stockMovements).get? m.id=none) : Reserving v q r m := by
  have hid : q.id=q'.id := Table.key_of_get? hq
  have hsku := (alike_of_settled hs hq).skuId
  have hquantity := hr.quantity
  exact ⟨hid ▸ hq,by omega,by omega,hr.quant.trans hid.symm,hr.sku.trans hsku.symm,
    hr.active,hfresh,hm⟩

theorem wp_createReservation {Mid : WmsCtx → Prop} (warehouse : Text)
    (dto : CreateReservationDto) (d : WmsDb) :
    wp store Mid (createReservation warehouse dto) (.start d)
      (fun _ c => ∃ q r m, Created dto c q r m) := by
  simp only [createReservation,bind_eq,wp_bind,wp_require]
  refine wp_reads (only_resolveWarehouse _) (Reaches.refl _) fun w c hc => ?_
  refine wp_resolveOrderContext hc fun context c hc hline => ?_
  refine wp_reads (only_lockReservableOrder _ _) hc fun _ c hc => ?_
  refine wp_assertLineRemaining hc fun c₁ hc₁ hrem => ?_
  refine wp_resolveStockQuant (Reaches.refl c₁) fun q c hc hid _ _ hs _ => ?_
  refine wp_reads (only_resolveReservationOwner _ _ _ _) hc fun owner c hc => ?_
  refine wp_reserveStockQuant hc fun q' c hc hq' ha => ?_
  refine wp_createReservationRecord hc fun r c hr hfresh hc => ?_
  refine wp_createReserveMovement hc fun m c hm hmfresh hc => ?_
  refine wp_asides ?_ hc fun _ c hc => ?_
  · cases context.outboundOrderLineId with
    | none =>
      refine (only_done _).bind fun _ => ?_
      cases owner with
      | none => exact only_done _
      | some owner => exact aside_ensureOwnedResourceLinks _ _ _
    | some l =>
      refine (aside_createReservationPickTask _ _ _ _ _).bind fun _ => ?_
      refine (only_done _).bind fun _ => ?_
      cases owner with
      | none => exact only_done _
      | some owner => exact aside_ensureOwnedResourceLinks _ _ _
  have hall := hc₁.append hc
  have htable : ∀ t, stockTables t=true → c₁.view t=c.base t := by
    intro t ht
    rw [hall.base]
    exact hc₁.table ht
  have hids : q'.id=q.id := Table.key_of_get? hq'
  simp only [Settled,List.nil_append,List.cons_append,after_nil,after_cons,apply_update_ne,
    apply_insert_ne,ne_eq,reduceCtorEq,not_false_eq_true,htable .stockQuants rfl,
    htable .reservations rfl,htable .stockMovements rfl] at hq' hs hfresh hmfresh
  refine ⟨q',r,m,?_,reserving_of_settled hr hq' (hid ▸ hs) dto.quantity_pos ha hfresh
    ⟨hm,hmfresh⟩,hids.trans hid,hr.quantity,hr.line.trans hline,?_⟩
  · rw [hall.base,hids,reserveWrites,hr.quantity]
    exact hall.view
  · intro l hl
    obtain ⟨line,rs,hsaw,hrs,hn⟩ := hrem l (hr.line.symm.trans hl)
    exact ⟨line,rs,hc.saw hsaw,hc.saw hrs,hr.quantity ▸ hn⟩

theorem wp_releaseReservation {Mid : WmsCtx → Prop} (warehouse : Text) (reference : ℕ)
    (target : ReleaseStatus) (d : WmsDb) :
    wp store Mid (releaseReservation warehouse reference target) (.start d)
      (fun _ c => ∃ q r m, Released target c q r m) := by
  simp only [releaseReservation,bind_eq,wp_bind,wp_require]
  refine wp_reads (only_resolveWarehouse _) (Reaches.refl _) fun w c hc => ?_
  refine wp_reads (only_resolveReservation _ _) hc fun candidate c hc => ?_
  refine wp_reads (only_lockOutboundOrder _) hc fun _ c hc => ?_
  refine wp_locks hc fun c hc hk => ?_
  refine wp_resolveReservation_held hk hc fun r c hc hr hactive hpos => ?_
  refine wp_resolveStockQuant hc fun q c hc hid _ _ _ => ?_
  refine wp_releaseReservedStockQuant hc fun q' c hc hq' hn => ?_
  refine wp_asides (aside_cancelOpenReservationTasks _ _) hc fun _ c hc => ?_
  refine wp_updates hc fun c hc => ?_
  refine wp_createReleaseStockMovement hc fun m c hm hfresh hc => ?_
  have hids : q'.id=q.id := Table.key_of_get? hq'
  have hbase : c.base=d := hc.base
  simp only [List.nil_append,List.cons_append,after_nil,after_cons,apply_update_ne,ne_eq,
    reduceCtorEq,not_false_eq_true,Ctx.start] at hq' hr hfresh
  rw [← hbase] at hq' hr hfresh
  have hrid : r.id=candidate.id := Table.key_of_get? hr
  refine ⟨q',r,m,?_,hids ▸ hq',hrid ▸ hr,hids.trans hid,hactive,hpos,hn,hm,hfresh⟩
  rw [hc.base,hids]
  exact hc.view

end AardvarkWms
