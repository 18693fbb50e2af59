import AardvarkWms.Inbound
import AardvarkWms.InventorySteps

/-! What a receive against an inbound shipment leaves: stock, a movement for each part, and
the line's received quantity. -/
namespace AardvarkWms.Inbound

open Transactions Transactions.Txn Relational

/-- The good or the damaged part of a receive. -/
structure Part where
  deposit : Deposit
  movement : StockMovement

/-- What a receive did that had not been processed before; `created` says that its line was. -/
structure Receipt where
  context : ReceiveContext
  created : Bool
  good : Option Part
  damaged : Option Part
  task : Option ℕ

def lineWrites (created : Bool) (line : InboundShipmentLine) : List (Statement wms) :=
  if created then [.insert .inboundShipmentLines line] else []

def partWrites (part : Option Part) (n : ℤ) : List (Statement wms) :=
  part.toList.flatMap (·.deposit.writes 0 n)

theorem partWrites_map (part : Option Part) (n : ℤ) :
    (part.map (·.deposit)).toList.flatMap (·.writes 0 n)=partWrites part n := by
  cases part <;> rfl

theorem lineWrites_table (created : Bool) (line : InboundShipmentLine) :
    ∀ w∈lineWrites created line, Statement.table w=.inboundShipmentLines := by
  intro w hw
  unfold lineWrites at hw
  split at hw
  · rw [List.mem_singleton.mp hw]
    rfl
  · cases hw

theorem partWrites_table (part : Option Part) (n : ℤ) :
    ∀ w∈partWrites part n, Statement.table w=.stockQuants := by
  intro w hw
  obtain ⟨p,_,hw⟩ := List.mem_flatMap.mp hw
  cases hd : p.deposit with
  | onto q =>
    rw [hd,Deposit.writes,List.mem_singleton] at hw
    rw [hw]
    rfl
  | fresh q =>
    rw [hd,Deposit.writes,List.mem_singleton] at hw
    rw [hw]
    rfl

namespace Receipt

def line (x : Receipt) : InboundShipmentLine := x.context.resolution.line

def parts (x : Receipt) : List Part := x.good.toList++x.damaged.toList

def movements (x : Receipt) : List StockMovement := x.parts.map (·.movement)

/-- Before the movements. -/
def stockWrites (x : Receipt) (dto : ReceiveInboundLineDto) : List (Statement wms) :=
  lineWrites x.created x.line++partWrites x.good dto.quantity++partWrites x.damaged dto.damaged

def writes (x : Receipt) (dto : ReceiveInboundLineDto) : List (Statement wms) :=
  x.stockWrites dto++x.movements.map (Statement.insert (D := wms) .stockMovements)
    ++[.update .inboundShipmentLines x.line.id (.increment dto.total)]

def response (x : Receipt) (dto : ReceiveInboundLineDto) : InboundReceiveResponse :=
  receiveResponse x.context dto (x.parts.map (·.deposit.quant.id)) x.movements x.task

end Receipt

theorem exists_part {t : Option Deposit} {m : Option StockMovement} (h : m.isSome=t.isSome) :
    ∃ p : Option Part, p.map (·.deposit)=t ∧ p.map (·.movement)=m := by
  cases t with
  | none => exact ⟨none,rfl,(Option.isNone_iff_eq_none.mp (by simpa using h)).symm⟩
  | some t =>
    obtain ⟨m,rfl⟩ := Option.isSome_iff_exists.mp h
    exact ⟨some ⟨t,m⟩,rfl,rfl⟩

/-- The rows that a call read for its line reference. -/
def lineQuery (shipmentId : ℕ) (reference : LineNumber) : Select wms :=
  .rows .inboundShipmentLines fun l => l.shipmentId=shipmentId && lineNamed reference l

/-- The line of a receive: one that was read, or a new one without expectation. -/
structure LineResolved (dto : ReceiveInboundLineDto) (shipmentId : ℕ) (v : WmsDb) (c : WmsCtx)
    (created : Bool) (x : ReceiveLineResolution) : Prop where
  ofShipment : x.line.shipmentId=shipmentId
  read : created=false → ∃ reference rs, dto.lineReference=some reference ∧
    c.Saw (lineQuery shipmentId reference) rs ∧ rs.head?=some x.line ∧
    Settled (D := wms) v .inboundShipmentLines x.line.id x.line
  flag : x.isUnexpected=x.line.unexpectedSku
  new : created=true → (v .inboundShipmentLines).get? x.line.id=none ∧
    x.line.receivedQuantity=0 ∧ x.line.unexpectedSku=true
  accepted : x.line.unexpectedSku=true ∨ x.line.receivedQuantity+dto.total≤x.line.expectedQuantity
    ∨ dto.allowOverReceive=true
  pos : 0 < dto.total

/-- A part is there if any of it was received: stock of the warehouse with a movement. -/
structure PartReceived (v : WmsDb) (warehouseId : ℕ) (n : ℤ) (input : StockQuant → ReceiveMovementInput)
    (part : Option Part) : Prop where
  some_iff : part.isSome=true ↔ 0 < n
  movement : ∀ p∈part, ∃ id, p.movement=receiveMovement id (input p.deposit.quant)
  fits : ∀ p∈part, p.deposit.Fits v n
  warehouseId : ∀ p∈part, p.deposit.quant.warehouseId=warehouseId

structure Received (warehouse shipment : Text) (dto : ReceiveInboundLineDto) (c : WmsCtx)
    (x : Receipt) : Prop where
  writes : Applies (x.writes dto) c.base c.view
  warehouse : ∃ w : Warehouse, warehouse.names w.id w.code=true ∧
    (c.base .warehouses).get? w.id=some w ∧ x.context.warehouseId=w.id
  shipment : Settled (D := wms) c.base .inboundShipments x.context.shipment.id x.context.shipment
  ofWarehouse : x.context.shipment.warehouseId=x.context.warehouseId
  line : LineResolved dto x.context.shipment.id c.base c x.created x.context.resolution
  good : PartReceived (after (lineWrites x.created x.line) c.base) x.context.warehouseId
    dto.quantity (x.context.movementInput dto x.task dto.quantity dto.idempotencyKey .RECEIVED)
    x.good
  damaged : PartReceived (after (lineWrites x.created x.line++partWrites x.good dto.quantity)
    c.base) x.context.warehouseId dto.damaged (x.context.movementInput dto none dto.damaged
    (damagedKey (x.good.map (·.movement)) dto.idempotencyKey) .DAMAGED) x.damaged
  movements : NewMovements (after (x.stockWrites dto) c.base) x.movements
  untasked : x.good=none → x.task=none
  task : ∀ id∈x.task, ∃ t : WarehouseTask, (c.view .warehouseTasks).get? id=some t ∧
    t.warehouseId=x.context.warehouseId

theorem LineResolved.later {dto : ReceiveInboundLineDto} {shipmentId : ℕ} {v : WmsDb}
    {c c' : WmsCtx} {created : Bool} {x : ReceiveLineResolution}
    (h : LineResolved dto shipmentId v c created x) (hlog : ∀ s∈c.log, s∈c'.log) :
    LineResolved dto shipmentId v c' created x := by
  refine ⟨h.ofShipment,fun he => ?_,h.flag,h.new,h.accepted,h.pos⟩
  obtain ⟨reference,rs,href,hsaw,hrs,hsettled⟩ := h.read he
  exact ⟨reference,rs,href,hlog _ hsaw,hrs,hsettled⟩

section Only
variable {ok : Statement wms → Prop}

theorem only_resolveShipment (warehouseId : ℕ) (reference : Text) :
    Only ok (resolveShipment warehouseId reference) :=
  (only_findFirst (D := wms) _ _).bind fun _ => only_demand _ _

theorem only_resolveSku (reference : Text) : Only ok (resolveSku reference) :=
  (only_findFirst (D := wms) _ _).bind fun _ => only_demand _ _

theorem only_resolveTask (warehouseId taskId : ℕ) :
    Only ok (Inbound.resolveWarehouseTask warehouseId taskId) :=
  (only_findWhere (D := wms) _ _ _).bind fun _ => only_demand _ _

theorem only_findIdempotentReceive (warehouseId : ℕ) (key : Option IdempotencyKey) :
    Only ok (findIdempotentReceive warehouseId key) := by
  cases key with
  | none => exact only_done _
  | some key =>
    refine (only_findFirst (D := wms) _ _).bind fun found => ?_
    cases found with
    | none => exact only_done _
    | some m =>
      refine (only_require _ _).bind fun _ => (only_demand _ _).bind fun _ => ?_
      refine (only_demand _ _).bind fun _ => (only_require _ _).bind fun _ => ?_
      refine (only_findMany (D := wms) _ _).bind fun _ => (only_resolveShipment _ _).bind fun _ => ?_
      refine (only_findMany (D := wms) _ _).bind fun _ => ?_
      refine (Only.each fun _ _ => only_resolveStockQuant _ _).bind fun _ => ?_
      dsimp only
      cases m.taskId with
      | none => exact (only_require _ _).bind fun _ => only_done _
      | some t =>
        refine (only_resolveTask _ _).bind fun _ => ?_
        exact (only_require _ _).bind fun _ => only_done _

theorem aside_resolveReceiveOwner (warehouseId shipmentId : ℕ) (reference : Option Text) :
    Only Aside (resolveReceiveOwner warehouseId shipmentId reference) := by
  cases reference with
  | none =>
    unfold resolveReceiveOwner
    exact only_findResourceOwner _ _
  | some r =>
    refine (only_resolveOwnerClient _ _).bind fun _ => (only_demand _ _).bind fun _ => ?_
    exact (aside_linkResourceToResolvedClient _ _ _).bind fun _ => only_done _

theorem aside_resolveOrCreateReceiveLot (warehouseId skuId : ℕ) (reference : Option Text)
    (quality : Option ReceiveQualityStatus) :
    Only Aside (resolveOrCreateReceiveLot warehouseId skuId reference quality) := by
  cases reference with
  | none => exact only_done _
  | some code =>
    refine (only_findFirst (D := wms) _ _).bind fun found => ?_
    cases found with
    | some lot => exact (only_require _ _).bind fun _ => only_done _
    | none => exact only_fresh.bind fun _ => (aside_insert rfl _).bind fun _ => only_done _

theorem only_assertReceiveSerialDistribution (good damaged : ℤ) (goods damages : List Text)
    (policy : TraceabilityPolicy) :
    Only ok (assertReceiveSerialDistribution good damaged goods damages policy) :=
  Only.ite (fun _ => only_done _) fun _ => (only_require _ _).bind fun _ => only_require _ _

theorem aside_createReceiveException (warehouseId : ℕ) (e : ReceiveExceptionCode × ℤ) :
    Only Aside (createReceiveException warehouseId e) :=
  only_fresh.bind fun _ => aside_insert rfl _

theorem aside_recordReceiveSerial (warehouseId skuId locationId : ℕ) (quant : Option StockQuant)
    (status : SerialNumberStatus) (serialNumber : Text) :
    Only Aside (recordReceiveSerial warehouseId skuId locationId quant status serialNumber) := by
  refine (only_findFirst (D := wms) _ _).bind fun found => ?_
  cases found with
  | some s =>
    refine (only_require _ _).bind fun _ => (only_require _ _).bind fun _ => ?_
    refine ((only_update (D := wms) _ _ _).mpr ?_).bind fun _ => only_done _
    simp [Aside,Statement.table,stockTables]
  | none =>
    refine only_fresh.bind fun _ => only_fresh.bind fun _ => ?_
    exact (aside_insert rfl _).bind fun _ => only_done _

theorem aside_recordReceiveSerials (warehouseId skuId locationId : ℕ)
    (goodQuant damagedQuant : Option StockQuant) (goods damages : List Text) :
    Only Aside (recordReceiveSerials warehouseId skuId locationId goodQuant damagedQuant goods
      damages) :=
  (Only.each fun _ _ => aside_recordReceiveSerial _ _ _ _ _ _).bind fun _ =>
    (Only.each fun _ _ => aside_recordReceiveSerial _ _ _ _ _ _).bind fun _ => only_done _

theorem only_putawayTarget (warehouseId skuId sourceId : ℕ) (quant : StockQuant)
    (reference : Option Text) :
    Only ok (putawayTarget warehouseId skuId sourceId quant reference) := by
  cases reference with
  | some r => exact (only_resolveLocation _ _).bind fun _ => only_done _
  | none =>
    refine (only_findMany (D := wms) _ _).bind fun quants => ?_
    dsimp only
    cases (quants.insertionSort fun a b => b.quantity≤a.quantity).head? with
    | some q => exact only_done _
    | none =>
      refine (only_findMany (D := wms) _ _).bind fun _ => (only_findMany (D := wms) _ _).bind fun _ => ?_
      exact (only_demand _ _).bind fun _ => only_done _

theorem only_recordReceive (x : ReceiveContext) (dto : ReceiveInboundLineDto)
    (quant damagedQuant : Option StockQuant) (task : Option ℕ) :
    Only (fun _ => True) (recordReceive x dto quant damagedQuant task) := by
  have hpart : ∀ (input : StockQuant → ReceiveMovementInput) (q : Option StockQuant),
      Only (fun _ : Statement wms => True) (createPartMovement input q) := by
    intro input q
    cases q with
    | none => exact only_done _
    | some q =>
      refine (only_fresh.bind fun _ => ?_).bind fun _ => only_done _
      exact (only_insert (D := wms) trivial).bind fun _ => only_done _
  have haside : ∀ w : Statement wms, Aside w → True := fun _ _ => trivial
  simp only [recordReceive,bind_eq,pure_eq]
  refine (hpart _ _).bind fun m => (hpart _ _).bind fun m' => (only_require _ _).bind fun _ => ?_
  refine ((aside_recordReceiveSerials _ _ _ _ _ _ _).mono haside).bind fun serials => ?_
  cases x.owner with
  | none =>
    refine ((only_update (D := wms) _ _ _).mpr trivial).bind fun _ => ?_
    exact ((only_update (D := wms) _ _ _).mpr trivial).bind fun _ => only_done _
  | some owner =>
    refine ((aside_linkOwnerResources _ _ _).mono haside).bind fun _ => ?_
    refine ((only_update (D := wms) _ _ _).mpr trivial).bind fun _ => ?_
    exact ((only_update (D := wms) _ _ _).mpr trivial).bind fun _ => only_done _

end Only

section Rules
variable {Mid : WmsCtx → Prop} {c₀ c : WmsCtx} {ws : List (Statement wms)}

theorem wp_resolveShipment {warehouseId : ℕ} {reference : Text}
    {Q : InboundShipment → WmsCtx → Prop}
    (h : ∀ s c', c.Moves Eq c' → s.warehouseId=warehouseId →
      Settled (D := wms) c.view .inboundShipments s.id s → Q s c') :
    wp store Mid (resolveShipment warehouseId reference) c Q := by
  simp only [resolveShipment,bind_eq,wp_bind]
  refine wp_findFirst (D := wms) fun rs hrs => ?_
  simp only [wp_demand]
  intro s hs
  obtain ⟨hp,hsettled⟩ := hrs s hs
  simp only [Bool.and_eq_true,decide_eq_true_eq] at hp
  exact h s _ (c.moves_saw _ _) hp.1 hsettled

theorem wp_resolveReceiveLine {shipmentId : ℕ} {lines : List InboundShipmentLine}
    {dto : ReceiveInboundLineDto} {Q : ReceiveLineResolution → WmsCtx → Prop}
    (h : ∀ x created c', Reaches c (lineWrites created x.line) c' →
      x.line.shipmentId=shipmentId → x.isUnexpected=x.line.unexpectedSku →
      (created=false → ∃ reference rs, dto.lineReference=some reference ∧
        c'.Saw (lineQuery shipmentId reference) rs ∧ rs.head?=some x.line ∧
        Settled (D := wms) c.view .inboundShipmentLines x.line.id x.line) →
      (created=true → (c.view .inboundShipmentLines).get? x.line.id=none ∧
        x.line.receivedQuantity=0 ∧ x.line.unexpectedSku=true) → Q x c') :
    wp store Mid (resolveReceiveLine shipmentId lines dto) c Q := by
  unfold resolveReceiveLine
  cases href : dto.lineReference with
  | some reference =>
    simp only [resolveLine,bind_eq,pure_eq,wp_bind,wp_done]
    refine wp_findFirst (D := wms) fun rs hrs => ?_
    simp only [wp_demand]
    intro line hline
    obtain ⟨hp,hsettled⟩ := hrs line hline
    simp only [Bool.and_eq_true,decide_eq_true_eq] at hp
    refine h ⟨line,line.unexpectedSku,lines⟩ false _ ((Reaches.refl c).reads (c.moves_saw _ _))
      hp.1 rfl (fun _ => ⟨reference,rs,href,Ctx.saw_saw _ _ _,hline,hsettled⟩) ?_
    intro he
    cases he
  | none =>
    simp only [bind_eq,pure_eq,wp_bind,wp_done,wp_require,wp_demand]
    intro _ reference _
    refine wp_reads (only_resolveSku _) (Reaches.refl c) fun sku c₁ h₁ => ?_
    simp only [wp_fresh]
    intro id
    refine wp_inserts (t := .inboundShipmentLines) rfl h₁ fun c₂ hid h₂ => ?_
    refine h ⟨_,true,_⟩ true c₂ h₂ rfl rfl ?_ fun _ => ⟨hid,rfl,rfl⟩
    intro he
    cases he

theorem wp_resolveReceive {warehouseId : ℕ} {reference : Text} {dto : ReceiveInboundLineDto}
    {Q : ReceiveContext → WmsCtx → Prop}
    (h : ∀ x created c', Reaches c (lineWrites created x.resolution.line) c' →
      x.warehouseId=warehouseId → x.shipment.warehouseId=warehouseId →
      Settled (D := wms) c.view .inboundShipments x.shipment.id x.shipment →
      LineResolved dto x.shipment.id c.view c' created x.resolution → Q x c') :
    wp store Mid (resolveReceive warehouseId reference dto) c Q := by
  simp only [resolveReceive,bind_eq,pure_eq,wp_bind,wp_done,wp_require]
  refine wp_resolveShipment fun shipment c₁ h₁ hwarehouse hsettled => ?_
  refine wp_reads (only_findMany (D := wms) _ _) ((Reaches.refl c).reads h₁) fun lines c₂ h₂ => ?_
  refine wp_asides (aside_resolveReceiveOwner _ _ _) h₂ fun owner c₃ h₃ => ?_
  intro _
  refine wp_resolveReceiveLine fun resolution created c₄ h₄ hof hflag hread hnew => ?_
  simp only [assertNotOverReceived,bind_eq,wp_bind,wp_require]
  intro hpos haccepted
  have hlines : c₃.view .inboundShipmentLines=c.view .inboundShipmentLines := h₃.table rfl
  have hline : LineResolved dto shipment.id c.view c₄ created resolution := by
    refine ⟨hof,fun he => ?_,hflag,fun he => ?_,?_,hpos⟩
    · obtain ⟨r,rs,hr,hsaw,hrs,hs⟩ := hread he
      unfold Settled at hs ⊢
      rw [hlines] at hs
      exact ⟨r,rs,hr,hsaw,hrs,hs⟩
    · rw [← hlines]
      exact hnew he
    · rcases haccepted with hu|hle|ho
      · exact .inl (hflag ▸ hu)
      · refine .inr (.inl ?_)
        unfold overReceivedQuantity at hle
        omega
      · exact .inr (.inr ho)
  refine wp_reads (only_resolveSku _) (Reaches.refl c₄) fun sku c₅ h₅ => ?_
  refine wp_reads (only_resolveLocation _ _) h₅ fun location c₅ h₅ => ?_
  intro _
  refine wp_reads (only_assertTraceabilityCapture _) h₅ fun _ c₅ h₅ => ?_
  refine wp_reads (only_assertReceiveSerialDistribution _ _ _ _ _) h₅ fun _ c₅ h₅ => ?_
  refine wp_asides (aside_resolveOrCreateReceiveLot _ _ _ _) h₅ fun lot c₅ h₅ => ?_
  have hall : Reaches c (lineWrites created resolution.line) c₅ := by
    simpa using (h₃.append h₄).append h₅
  exact h ⟨warehouseId,shipment,owner,resolution,sku,location.id,lot,_,_⟩ created c₅ hall rfl
    hwarehouse hsettled (hline.later h₅.log)

theorem wp_receivePart {i : StockQuantIdentity} {n : ℤ} {Q : Option StockQuant → WmsCtx → Prop}
    (hc : Reaches c₀ ws c) (h : ∀ (t : Option Deposit) c,
      Reaches c₀ (ws++t.toList.flatMap (·.writes 0 n)) c → (t.isSome=true ↔ 0 < n) →
      (∀ q∈t, q.Valid (after ws c₀.view) n i) → Q (t.map (·.quant)) c) :
    wp store Mid (receivePart i n) c Q := by
  simp only [receivePart,wp_ite,bind_eq,pure_eq,wp_bind,wp_done]
  refine ⟨fun hn => ?_,fun hn => ?_⟩
  · refine wp_incrementOrCreateQuant hc fun t c ht hc => ?_
    exact h (some t) c (by simpa using hc) (by simpa using hn) (by simpa using ht)
  · exact h none c (by simpa using hc) (by simpa using hn) (by simp)

theorem wp_createPartMovement {input : StockQuant → ReceiveMovementInput}
    {quant : Option StockQuant} {Q : Option StockMovement → WmsCtx → Prop} (hc : Reaches c₀ ws c)
    (h : ∀ (m : Option StockMovement) c,
      Reaches c₀ (ws++m.toList.map (Statement.insert (D := wms) .stockMovements)) c →
      NewMovements (after ws c₀.view) m.toList → (m.isSome=quant.isSome) →
      (∀ m'∈m, ∀ q∈quant, ∃ id, m'=receiveMovement id (input q)) → Q m c) :
    wp store Mid (createPartMovement input quant) c Q := by
  cases quant with
  | none => exact h none c (by simpa using hc) trivial rfl (by simp)
  | some quant =>
    simp only [createPartMovement,createReceiveMovement,bind_eq,pure_eq,wp_bind,wp_done,wp_fresh]
    intro id
    refine wp_inserts_unique (t := .stockMovements) rfl hc fun c hn hu hc => ?_
    refine h (some _) c (by simpa using hc) ⟨⟨hn,hu⟩,trivial⟩ rfl ?_
    rintro m ⟨⟩ q ⟨⟩
    exact ⟨id,rfl⟩

theorem wp_receivePutaway {x : ReceiveContext} {dto : ReceiveInboundLineDto}
    {quant : Option StockQuant} {Q : Option ℕ → WmsCtx → Prop} (hc : Reaches c₀ ws c)
    (h : ∀ task c', Reaches c₀ ws c' → (quant=none → task=none) → (∀ id∈task, ∃ t : WarehouseTask,
      (c'.view .warehouseTasks).get? id=some t ∧ t.warehouseId=x.warehouseId) → Q task c') :
    wp store Mid (receivePutaway x dto quant) c Q := by
  have hnone : Q none c := h none c hc (fun _ => rfl) (by simp)
  cases quant with
  | none => exact hnone
  | some quant =>
    simp only [receivePutaway,createPutawayTaskForReceive,bind_eq,pure_eq,wp_ite,wp_bind,wp_done]
    refine ⟨fun _ => hnone,fun _ => ?_⟩
    refine wp_reads (only_putawayTarget _ _ _ _ _) hc fun target c₁ h₁ => ?_
    simp only [wp_require,wp_fresh]
    intro _ id
    refine wp_insert (D := wms) fun c₂ hn h₂ _ => ?_
    have haside : ∀ t : WarehouseTask, Aside (.insert .warehouseTasks t) := fun _ => by
      simp [Aside,Statement.table,stockTables]
    refine h (some id) _ ((h₁.reads h₂).asides ?_) (fun hq => by cases hq) ?_
    · refine (Ctx.moves_wrote _ store _).imp fun hv => ?_
      rw [hv]
      exact sameOn_apply _ (haside _)
    · rintro _ ⟨⟩
      refine ⟨receivePutawayTask id x.warehouseId x.sku.id x.receivingLocationId target quant
        dto.quantity,?_,rfl⟩
      rw [Ctx.wrote_view,database_apply,apply_insert_self,← h₂.view]
      exact Table.get?_insert_new hn

theorem wp_recordReceive {x : ReceiveContext} {dto : ReceiveInboundLineDto}
    {t t' : Option Deposit} {task : Option ℕ} {Q : InboundReceiveResponse → WmsCtx → Prop}
    (hc : Reaches c₀ ws c)
    (h : ∀ (m m' : Option StockMovement) c', Reaches c₀ (ws++
        (m.toList++m'.toList).map (Statement.insert (D := wms) .stockMovements)
        ++[.update .inboundShipmentLines x.resolution.line.id (.increment dto.total)]) c' →
      NewMovements (after ws c₀.view) (m.toList++m'.toList) → m.isSome=t.isSome →
      m'.isSome=t'.isSome →
      (∀ y∈m, ∀ q∈t, ∃ id, y=receiveMovement id
        (x.movementInput dto task dto.quantity dto.idempotencyKey .RECEIVED q.quant)) →
      (∀ y∈m', ∀ q∈t', ∃ id, y=receiveMovement id (x.movementInput dto none dto.damaged
        (damagedKey m dto.idempotencyKey) .DAMAGED q.quant)) →
      Q (receiveResponse x dto (((t.map (·.quant)).toList++(t'.map (·.quant)).toList).map (·.id))
        (m.toList++m'.toList) task) c') :
    wp store Mid (recordReceive x dto (t.map (·.quant)) (t'.map (·.quant)) task) c Q := by
  simp only [recordReceive,bind_eq,pure_eq,wp_bind,wp_require]
  refine wp_createPartMovement hc fun m c h₁ hnew hm hmovement => ?_
  refine wp_createPartMovement h₁ fun m' c h₂ hnew' hm' hmovement' => ?_
  intro _
  refine wp_asides (aside_recordReceiveSerials _ _ _ _ _ _ _) h₂ fun serials c h₃ => ?_
  have hend : ∀ c, Reaches c₀ (ws++m.toList.map (Statement.insert (D := wms) .stockMovements)
        ++m'.toList.map (Statement.insert (D := wms) .stockMovements)) c →
      wp store Mid (update (D := wms) .inboundShipmentLines x.resolution.line.id
        (.increment dto.total)) c fun _ c => wp store Mid (update (D := wms) .inboundShipments
        x.shipment.id (if x.exceptions dto=[] then resolveReceiveStatus x.resolution.lines
          x.resolution.line.id (x.resolution.line.receivedQuantity+dto.total) else .EXCEPTION)) c
        fun _ c => Q (receiveResponse x dto (((t.map (·.quant)).toList
          ++(t'.map (·.quant)).toList).map (·.id)) (m.toList++m'.toList) task) c := by
    intro c hc
    refine wp_updates hc fun c hc => ?_
    refine wp_asides (aside_update rfl _ _) hc fun _ c hc => ?_
    refine h m m' c ?_ ?_ (hm.trans (by simp)) (hm'.trans (by simp)) ?_ ?_
    · simpa using hc
    · refine hnew.append ?_
      rw [← after_append]
      exact hnew'
    · intro y hy q hq
      exact hmovement y hy q.quant (Option.mem_map_of_mem _ hq)
    · intro y hy q hq
      exact hmovement' y hy q.quant (Option.mem_map_of_mem _ hq)
  cases x.owner with
  | none => exact hend _ h₃
  | some owner =>
    simp only [wp_bind]
    exact wp_asides (aside_linkOwnerResources _ _ _) h₃ fun _ c hc => hend c hc

theorem wp_receiveInto {x : ReceiveContext} {dto : ReceiveInboundLineDto} {created : Bool}
    {Q : InboundReceiveResponse → WmsCtx → Prop}
    (hc : Reaches c₀ (lineWrites created x.resolution.line) c)
    (h : ∀ (y : Receipt) c', y.context=x → y.created=created →
      Reaches c₀ (y.writes dto) c' →
      PartReceived (after (lineWrites created y.line) c₀.view) x.warehouseId dto.quantity
        (x.movementInput dto y.task dto.quantity dto.idempotencyKey .RECEIVED) y.good →
      PartReceived (after (lineWrites created y.line++partWrites y.good dto.quantity) c₀.view)
        x.warehouseId dto.damaged (x.movementInput dto none dto.damaged
          (damagedKey (y.good.map (·.movement)) dto.idempotencyKey) .DAMAGED) y.damaged →
      NewMovements (after (y.stockWrites dto) c₀.view) y.movements →
      (y.good=none → y.task=none) → (∀ id∈y.task, ∃ t : WarehouseTask, (c'.view .warehouseTasks).get? id=some t ∧
        t.warehouseId=x.warehouseId) → Q (y.response dto) c') :
    wp store Mid (receiveInto x dto) c Q := by
  simp only [receiveInto,bind_eq,wp_bind]
  refine wp_asides (Only.each fun _ _ => aside_createReceiveException _ _) hc fun _ c h₁ => ?_
  refine wp_receivePart h₁ fun t c h₂ ht hvalid => ?_
  refine wp_receivePart h₂ fun t' c h₃ ht' hvalid' => ?_
  refine wp_receivePutaway h₃ fun task c h₄ huntasked htask => ?_
  -- the task that was created is still there when the call commits
  refine wp_mono ?_ (wp_and_only (S := store) (R := store.Later) store.later_trans
    (fun w d _ => store.later_apply w d) (only_recordReceive _ _ _ _ _) (store.later_refl _)
    (wp_recordReceive (Q := fun r c' => ∃ y : Receipt, y.context=x ∧ y.created=created ∧
      y.good.map (·.deposit)=t ∧ y.damaged.map (·.deposit)=t' ∧ y.task=task ∧
      r=y.response dto ∧ Reaches c₀ (y.writes dto) c' ∧
      NewMovements (after (y.stockWrites dto) c₀.view) y.movements ∧
      (∀ p∈y.good, ∃ id, p.movement=receiveMovement id (x.movementInput dto task dto.quantity
        dto.idempotencyKey .RECEIVED p.deposit.quant)) ∧
      (∀ p∈y.damaged, ∃ id, p.movement=receiveMovement id (x.movementInput dto none dto.damaged
        (damagedKey (y.good.map (·.movement)) dto.idempotencyKey) .DAMAGED p.deposit.quant))) h₄ ?_))
  · rintro r c' ⟨⟨y,rfl,rfl,rfl,rfl,rfl,rfl,hreach,hnew,hgood,hdamaged⟩,hlater⟩
    refine h y c' rfl rfl hreach ⟨?_,hgood,?_,?_⟩ ⟨?_,hdamaged,?_,?_⟩ hnew ?_ ?_
    · simpa using ht
    · exact fun p hp => (hvalid _ (Option.mem_map_of_mem _ hp)).fits
    · exact fun p hp =>
        (quantIdentityWhere_eq (hvalid _ (Option.mem_map_of_mem _ hp)).identity).1
    · simpa using ht'
    · intro p hp
      have hv := hvalid' _ (Option.mem_map_of_mem _ hp)
      rw [partWrites_map] at hv
      exact hv.fits
    · exact fun p hp =>
        (quantIdentityWhere_eq (hvalid' _ (Option.mem_map_of_mem _ hp)).identity).1
    · intro hnone
      exact huntasked (by simp [hnone])
    · intro id hid
      obtain ⟨task,ht,hw⟩ := htask id hid
      obtain ⟨task',ht',hf⟩ := hlater .warehouseTasks id task ht
      have hf : TableName.fixed (t := .warehouseTasks) task'=TableName.fixed task := hf
      simp only [TableName.fixed,WarehouseTask.mk.injEq] at hf
      exact ⟨task',ht',hf.2.1.trans hw⟩
  · intro m m' c' hreach hnew hm hm' hgood hdamaged
    obtain ⟨good,rfl,rfl⟩ := exists_part hm
    obtain ⟨damaged,rfl,rfl⟩ := exists_part hm'
    rw [partWrites_map,partWrites_map] at hreach hnew
    refine ⟨⟨x,created,good,damaged,task⟩,rfl,rfl,rfl,rfl,rfl,?_,?_,?_,?_,?_⟩
    · cases good <;> cases damaged <;> rfl
    · simpa [Receipt.writes,Receipt.stockWrites,Receipt.parts,Receipt.movements,Receipt.line,
        Option.toList_map] using hreach
    · simpa [Receipt.stockWrites,Receipt.parts,Receipt.movements,Receipt.line,
        Option.toList_map] using hnew
    · exact fun p hp => hgood _ (Option.mem_map_of_mem _ hp) _ (Option.mem_map_of_mem _ hp)
    · exact fun p hp => hdamaged _ (Option.mem_map_of_mem _ hp) _ (Option.mem_map_of_mem _ hp)

theorem wp_receive (warehouse shipment : Text) (dto : ReceiveInboundLineDto) (d : WmsDb) :
    wp store Mid (receive warehouse shipment dto) (.start d) (fun r c => c.view=c.base ∨
      ∃ x, Received warehouse shipment dto c x ∧ r=x.response dto) := by
  simp only [receive,resolveWarehouse,bind_eq,wp_bind]
  refine wp_findFirst (D := wms) fun ws hws => ?_
  simp only [wp_demand]
  intro w hw
  obtain ⟨hname,hrow⟩ := hws w hw
  have hrow : (d .warehouses).get? w.id=some w := row_of_settled (fun _ => rfl) hrow
  have hnil : Reaches (.start d) [] ((Ctx.start d).saw _ ws) := (Reaches.refl _).reads (Ctx.moves_saw _ _ _)
  refine wp_of_reads (only_findIdempotentReceive _ _) fun found c hc => ?_
  cases found with
  | some response =>
    simp only [pure_eq,wp_done]
    exact .inl (hc.view.symm.trans hc.base.symm)
  | none =>
    simp only [wp_bind]
    have hstart : Reaches (.start d) [] c := hnil.reads hc
    have hview : c.view=d := hc.view.symm
    refine wp_resolveReceive fun x created c₁ h₁ hwarehouse hof hsettled hline => ?_
    rw [hview] at hsettled hline
    refine wp_mono ?_ (wp_logged (Q := fun r c => ∃ y : Receipt, y.context=x ∧ y.created=created ∧
      (LineResolved dto x.shipment.id d c created x.resolution → c.view=c.base ∨
        Received warehouse shipment dto c y) ∧ r=y.response dto) (fun s hs => hs) ?_)
    · rintro r c' ⟨⟨y,hx,hcreated,hreceived,rfl⟩,hlog⟩
      subst hx hcreated
      exact (hreceived (hline.later hlog)).imp id fun h => ⟨y,h,rfl⟩
    refine wp_receiveInto (Reaches.append hstart h₁)
      fun y c₂ hx hcreated h₂ hgood hdamaged hnew huntasked htask => ?_
    subst hx hcreated
    refine ⟨y,rfl,rfl,fun hline => .inr ?_,rfl⟩
    have hbase : c₂.base=d := h₂.base
    have hwrites : Applies (y.writes dto) c₂.base c₂.view := hbase ▸ h₂.view
    subst hbase
    exact ⟨hwrites,⟨w,hname,hrow,hwarehouse⟩,hsettled,hof.trans hwarehouse.symm,hline,hgood,
      hdamaged,hnew,huntasked,htask⟩

end Rules

end AardvarkWms.Inbound
