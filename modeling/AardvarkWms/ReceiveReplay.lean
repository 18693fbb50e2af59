import AardvarkWms.Calls
import AardvarkWms.Outcomes

/-! A receive with a key that was used before: what it answers, and when that is what the
first receive with the key answered. -/
namespace AardvarkWms

open Transactions Transactions.Txn Relational

namespace Inbound

/-- Movements are told apart by their keys, and the quant of each one with a key is there. -/
structure Keyed (d : WmsDb) : Prop where
  indexed : Indexed (D := wms) .stockMovements (d .stockMovements)
  quant : ∀ m∈(d .stockMovements).rows, m.idempotencyKey.isSome=true → ∀ id∈m.stockQuantId,
    ∃ q : StockQuant, (d .stockQuants).get? id=some q ∧ q.warehouseId=m.warehouseId

/-- What a replay answers from the movements that it finds. -/
def replayed (lineId : ℕ) (task : Option ℕ) (movements : List StockMovement) :
    InboundReceiveResponse :=
  let quantityOf := fun (d : ReceivedDisposition) =>
    ((movements.filter (receiveDisposition ·=d)).map (·.quantity)).sum
  {line := lineId, putawayTask := task, quants := movements.filterMap (·.stockQuantId),
   movements := movements, receivedQuantity := quantityOf .RECEIVED,
   damagedQuantity := quantityOf .DAMAGED,
   qualityHeldQuantity := heldQuantity (toIdempotentReceiveQualityCheck movements)}

/-- The shipments that the id of one means: the first one counts. -/
def shipmentsById (d : WmsDb) (warehouseId shipmentId : ℕ) : List InboundShipment :=
  (d .inboundShipments).rows.filter fun s =>
    s.warehouseId=warehouseId && Text.names (.uuid shipmentId) s.id s.shipmentNumber

/-- The movements in the warehouse whose keys start with the key and a colon. -/
def siblings (d : WmsDb) (warehouseId : ℕ) (key : IdempotencyKey) : List StockMovement :=
  (d .stockMovements).rows.filter (siblingMovementWhere warehouseId key)

section Received
variable {w s : Text} {dto : ReceiveInboundLineDto} {c : WmsCtx} {x : Receipt}

theorem stockWrites_movements (x : Receipt) (dto : ReceiveInboundLineDto) :
    ∀ w∈x.stockWrites dto, Statement.table w≠.stockMovements := by
  intro w hw
  rcases List.mem_append.mp hw with hw|hw
  · rcases List.mem_append.mp hw with hw|hw
    · simp [lineWrites_table _ _ w hw]
    · simp [partWrites_table _ _ w hw]
  · simp [partWrites_table _ _ w hw]

theorem Received.newMovements (h : Received w s dto c x) : NewMovements c.base x.movements :=
  h.movements.congr (after_of_table (stockWrites_movements x dto)).symm

theorem Received.movements_view (h : Received w s dto c x) : c.view .stockMovements=
    after (x.movements.map (Statement.insert (D := wms) .stockMovements)) c.base .stockMovements := by
  rw [h.writes.table (t := .stockMovements) rfl,Receipt.writes,after_append,after_append]
  rw [after_of_table (by simp [Statement.table])]
  exact after_congr (after_of_table (stockWrites_movements x dto))

theorem Received.rows_view (h : Received w s dto c x) :
    (c.view .stockMovements).rows=(c.base .stockMovements).rows++x.movements := by
  rw [h.movements_view,h.newMovements.rows]

theorem PartReceived.present {v : WmsDb} {warehouseId : ℕ} {n : ℤ}
    {input : StockQuant → ReceiveMovementInput} {part : Option Part}
    (h : PartReceived v warehouseId n input part) : ∀ p∈part, Settled (D := wms)
      (after (partWrites part n) v) .stockQuants p.deposit.quant.id p.deposit.quant := by
  rintro p hp
  obtain rfl := Option.mem_def.mp hp
  simpa [partWrites] using (h.fits p rfl).present 0

theorem Received.present (h : Received w s dto c x) : ∀ p∈x.parts, Settled (D := wms) c.view
    .stockQuants p.deposit.quant.id p.deposit.quant ∧
      p.deposit.quant.warehouseId=x.context.warehouseId := by
  have hview : ∀ {ws : List (Statement wms)} (ws' : List (Statement wms)) {p : Part}, x.writes dto=ws++ws' →
      Settled (D := wms) (after ws c.base) .stockQuants p.deposit.quant.id p.deposit.quant →
      Settled (D := wms) c.view .stockQuants p.deposit.quant.id p.deposit.quant := by
    intro ws ws' p hws hs
    have hend := hs.later (store.later_applyAll ws' _)
    unfold Settled at hend ⊢
    rw [h.writes.table (t := .stockQuants) rfl,hws,after_append]
    exact hend
  intro p hp
  rcases List.mem_append.mp hp with hp|hp
  · have hp := Option.mem_toList.mp hp
    refine ⟨?_,h.good.warehouseId p hp⟩
    have hs := h.good.present p hp
    rw [← after_append] at hs
    refine hview (partWrites x.damaged dto.damaged
      ++x.movements.map (Statement.insert (D := wms) .stockMovements)
      ++[.update .inboundShipmentLines x.line.id (.increment dto.total)]) ?_ hs
    simp [Receipt.writes,Receipt.stockWrites]
  · have hp := Option.mem_toList.mp hp
    refine ⟨?_,h.damaged.warehouseId p hp⟩
    have hs := h.damaged.present p hp
    rw [← after_append] at hs
    refine hview (x.movements.map (Statement.insert (D := wms) .stockMovements)
      ++[.update .inboundShipmentLines x.line.id (.increment dto.total)]) ?_ hs
    simp [Receipt.writes,Receipt.stockWrites]

/-- What the movement of a part says. -/
structure Part.Recorded (p : Part) (x : Receipt) : Prop where
  type : p.movement.type=.RECEIVE
  warehouseId : p.movement.warehouseId=x.context.warehouseId
  shipment : p.movement.inboundShipmentId=some x.context.shipment.id
  line : p.movement.inboundShipmentLineId=some x.line.id
  quant : p.movement.stockQuantId=some p.deposit.quant.id

theorem Received.recorded (h : Received w s dto c x) : ∀ p∈x.parts, p.Recorded x := by
  have hrecorded : ∀ {v n input part}, PartReceived v x.context.warehouseId n input part →
      (∀ q, (input q).warehouseId=x.context.warehouseId ∧ (input q).shipmentId=x.context.shipment.id
        ∧ (input q).lineId=x.line.id ∧ (input q).quant=q) → ∀ p∈part, p.Recorded x := by
    intro v n input part hpart hinput p hp
    obtain ⟨id,hid⟩ := hpart.movement p hp
    obtain ⟨hw,hs,hl,hq⟩ := hinput p.deposit.quant
    constructor <;> simp [hid,receiveMovement,hw,hs,hl,hq,StockMovement.record]
  intro p hp
  rcases List.mem_append.mp hp with hp|hp
  · exact hrecorded h.good (fun _ => ⟨rfl,rfl,rfl,rfl⟩) p (Option.mem_toList.mp hp)
  · exact hrecorded h.damaged (fun _ => ⟨rfl,rfl,rfl,rfl⟩) p (Option.mem_toList.mp hp)

theorem Received.keyed (h : Received w s dto c x) (hv : Keyed c.base) : Keyed c.view := by
  refine ⟨h.movements_view ▸ h.newMovements.indexed hv.indexed,fun m hm hkey id hid => ?_⟩
  rw [h.rows_view] at hm
  rcases List.mem_append.mp hm with hm|hm
  · obtain ⟨q,hq,hwarehouse⟩ := hv.quant m hm hkey id hid
    obtain ⟨q',hq',hf⟩ := store.later_applyAll (x.writes dto) c.base .stockQuants id q hq
    refine ⟨q',?_,(alike_of_fixed hf).warehouseId.trans hwarehouse⟩
    rw [h.writes.table (t := .stockQuants) rfl]
    exact hq'
  · obtain ⟨p,hp,rfl⟩ := List.mem_map.mp hm
    have hrecorded := h.recorded p hp
    obtain ⟨hsettled,hwarehouse⟩ := h.present p hp
    rw [hrecorded.quant] at hid
    obtain rfl := Option.mem_some.mp hid
    obtain ⟨q,hq,hf⟩ := hsettled
    refine ⟨q,hq,?_⟩
    rw [(alike_of_fixed hf).warehouseId,hwarehouse,hrecorded.warehouseId]

end Received

section Replay
variable {M : Setting (interface wms) WmsDb} {n : ℕ} {c : WmsCtx} {warehouseId : ℕ}

theorem outcome_resolveStockQuants {ids : List ℕ} {Q : List StockQuant → ℕ → WmsCtx → Prop}
    (h : ∀ id∈ids, ∃ q : StockQuant, (c.view .stockQuants).get? id=some q ∧
      q.warehouseId=warehouseId)
    (hQ : ∀ qs c', c'.base=c.base → c'.view=c.view → qs.map (·.id)=ids → Q qs n c') :
    outcome store M (each ids (resolveStockQuant warehouseId)) n c Q := by
  induction ids generalizing c Q with
  | nil => exact hQ [] c rfl rfl rfl
  | cons id ids ih =>
    obtain ⟨q,hq,hwarehouse⟩ := h id List.mem_cons_self
    simp only [each,resolveStockQuant,bind_eq,outcome_bind]
    refine outcome_findWhere.mpr ?_
    rw [hq,Option.filter_some,if_pos (by simpa using hwarehouse)]
    refine ih (fun id' hid' => h id' (List.mem_cons_of_mem _ hid')) fun qs c' hbase hview hqs => ?_
    refine hQ (q::qs) c' hbase hview ?_
    rw [List.map_cons,hqs]
    exact congrArg (·::ids) (Table.key_of_get? hq)

/-- A movement with the key and all that it refers to, but maybe not its shipment. -/
structure Replayable (v : WmsDb) (warehouseId : ℕ) (key : IdempotencyKey) (shipmentId lineId : ℕ)
    (m : StockMovement) : Prop where
  first : ((v .stockMovements).rows.filter (receiveMovementWhere warehouseId key)).head?=some m
  type : m.type=.RECEIVE
  shipment : m.inboundShipmentId=some shipmentId
  line : m.inboundShipmentLineId=some lineId
  quant : m.stockQuantId.isSome=true
  ofShipment : ∃ l : InboundShipmentLine, (v .inboundShipmentLines).get? lineId=some l ∧
    l.shipmentId=shipmentId
  quants : ∀ m'∈m::siblings v warehouseId key, ∀ id∈m'.stockQuantId,
    ∃ q : StockQuant, (v .stockQuants).get? id=some q ∧ q.warehouseId=warehouseId
  task : ∀ id∈m.taskId, ∃ t : WarehouseTask, (v .warehouseTasks).get? id=some t ∧
    t.warehouseId=warehouseId

/-- The id of the shipment is looked up as any reference is. -/
def ShipmentFound (v : WmsDb) (warehouseId shipmentId : ℕ) : Prop :=
  (shipmentsById v warehouseId shipmentId).head?.map (·.id)=some shipmentId

theorem any_line {v : WmsDb} {lineId shipmentId : ℕ} (shipmentId' : ℕ)
    (h : ∃ l : InboundShipmentLine, (v .inboundShipmentLines).get? lineId=some l ∧
      l.shipmentId=shipmentId) :
    ((v .inboundShipmentLines).rows.filter (·.shipmentId=shipmentId')).any (·.id=lineId)=true ↔
      shipmentId'=shipmentId := by
  obtain ⟨l,hl,hof⟩ := h
  have hid : l.id=lineId := Table.key_of_get? hl
  rw [List.any_eq_true]
  constructor
  · rintro ⟨l',hl',hid'⟩
    rw [List.mem_filter,decide_eq_true_eq] at hl'
    rw [decide_eq_true_eq] at hid'
    have he : l'=l := Table.inj_of_nodup (v .inboundShipmentLines).nodup hl'.1
      (Table.mem_of_get? hl).1 (hid'.trans hid.symm)
    exact hl'.2.symm.trans (he ▸ hof)
  · rintro rfl
    exact ⟨l,by simp [(Table.mem_of_get? hl).1,hof],by simpa using hid⟩

theorem outcome_findIdempotentReceive {key : IdempotencyKey} {shipmentId lineId : ℕ}
    {m : StockMovement} (h : Replayable c.view warehouseId key shipmentId lineId m)
    {Q : Option InboundReceiveResponse → ℕ → WmsCtx → Prop}
    (hfound : ShipmentFound c.view warehouseId shipmentId → ∀ c', c'.base=c.base →
      c'.view=c.view → Q (some (replayed lineId m.taskId (m::siblings c.view warehouseId key))) n c')
    (hlost : ¬ShipmentFound c.view warehouseId shipmentId → ∀ e, M.fault (.refused e)) :
    outcome store M (findIdempotentReceive warehouseId (some key)) n c Q := by
  simp only [findIdempotentReceive,bind_eq,outcome_bind]
  refine outcome_findFirst.mpr ?_
  rw [h.first]
  simp only [outcome_bind,outcome_require,h.type,if_true,h.shipment,h.line,demand,outcome_done,
    h.quant]
  refine outcome_findMany.mpr ?_
  simp only [resolveShipment,bind_eq,outcome_bind]
  refine outcome_findFirst.mpr ?_
  rw [outcome_demand]
  refine ⟨fun ship hship => ?_,fun hnone => hlost ?_ _⟩
  · have hship : (shipmentsById c.view warehouseId shipmentId).head?=some ship := hship
    have hiff : ShipmentFound c.view warehouseId shipmentId ↔ ship.id=shipmentId := by
      simp [ShipmentFound,hship]
    have hline := any_line ship.id h.ofShipment
    refine outcome_findMany.mpr ?_
    refine outcome_resolveStockQuants ?_ fun qs c' hbase hview hqs => ?_
    · intro id hid
      obtain ⟨m',hm',hid⟩ := List.mem_filterMap.mp hid
      exact h.quants m' hm' id hid
    have hview : c'.view=c.view := hview
    have hend : ∀ c', c'.base=c.base → c'.view=c.view → outcome store M
        (require ((((c.view .inboundShipmentLines).rows.filter (·.shipmentId=ship.id)).any
          (·.id=lineId))=true) (.notFound "Inbound shipment line was not found")) n c'
        fun _ n c' => Q (some (replayed lineId m.taskId (m::siblings c.view warehouseId key))) n c' := by
      intro c' hbase hview
      rw [outcome_require]
      split
      · rename_i hany
        exact hfound (hiff.mpr (hline.mp hany)) c' hbase hview
      · rename_i hany
        exact hlost (fun hf => hany (hline.mpr (hiff.mp hf))) _
    cases htask : m.taskId with
    | none =>
      simp only [pure_eq,outcome_bind,outcome_done]
      have hdone := hend c' hbase hview
      simpa [replayed,htask,siblings,hqs] using hdone
    | some taskId =>
      obtain ⟨t,ht,hwarehouse⟩ := h.task taskId htask
      simp only [pure_eq,outcome_bind,outcome_done,resolveWarehouseTask,bind_eq]
      refine outcome_findWhere.mpr ?_
      rw [hview,ht,Option.filter_some,if_pos (by simpa using hwarehouse)]
      simp only [demand,outcome_done]
      have hdone := hend (c'.saw (.row .warehouseTasks taskId) (some t)) hbase hview
      have hid : t.id=taskId := Table.key_of_get? ht
      simpa [replayed,htask,siblings,hqs,hid] using hdone
  · intro hfound
    have hship : (shipmentsById c.view warehouseId shipmentId).head?=none := hnone
    rw [ShipmentFound,hship] at hfound
    cases hfound

/-- The warehouse that a reference means. -/
def MeansWarehouse (v : WmsDb) (reference : Text) (warehouseId : ℕ) : Prop :=
  ((v .warehouses).rows.find? fun w => reference.names w.id w.code).map (·.id)=some warehouseId

instance (v : WmsDb) (reference : Text) (warehouseId : ℕ) :
    Decidable (MeansWarehouse v reference warehouseId) := inferInstanceAs (Decidable (_=_))

instance (v : WmsDb) (warehouseId shipmentId : ℕ) :
    Decidable (ShipmentFound v warehouseId shipmentId) := inferInstanceAs (Decidable (_=_))

theorem alone_receive {v : WmsDb} (ids : ℕ → ℕ) (n : ℕ) {w : Text} (s : Text) {dto : ReceiveInboundLineDto}
    {key : IdempotencyKey} {shipmentId lineId : ℕ} {m : StockMovement}
    (hwarehouse : MeansWarehouse v w warehouseId) (hkey : dto.idempotencyKey=some key)
    (h : Replayable v warehouseId key shipmentId lineId m) :
    (ShipmentFound v warehouseId shipmentId → ∃ e,
      alone store ids (receive w s dto) n [] (.start v)=.ok e ∧ e.ctx.view=v ∧
        e.value=replayed lineId m.taskId (m::siblings v warehouseId key)) ∧
    (¬ShipmentFound v warehouseId shipmentId → ∃ e,
      alone store ids (receive w s dto) n [] (.start v)=.error (.refused e)) := by
  obtain ⟨u,hu,rfl⟩ := Option.map_eq_some_iff.mp hwarehouse
  have hall : ∀ (E : Fault (interface wms) → Prop) (Q : InboundReceiveResponse → WmsCtx → Prop),
      (ShipmentFound v u.id shipmentId → ∀ c', c'.view=v →
        Q (replayed lineId m.taskId (m::siblings v u.id key)) c') →
      (¬ShipmentFound v u.id shipmentId → ∀ e, E (.refused e)) →
      outcome store ⟨store.accepts,ids,E⟩ (receive w s dto) n (.start v) fun r _ c => Q r c := by
    intro E Q hfound hlost
    simp only [receive,resolveWarehouse,bind_eq,outcome_bind]
    refine outcome_findFirst.mpr ?_
    rw [List.head?_filter,Ctx.start,hu]
    simp only [demand,outcome_done,hkey]
    refine outcome_findIdempotentReceive (c := (Ctx.start v).saw _ _) h ?_ hlost
    intro hf c' _ hview
    exact hfound hf c' hview
  constructor
  · intro hf
    have hout := hall (fun _ => False) (fun r c => r=replayed lineId m.taskId
      (m::siblings v u.id key) ∧ c.view=v) (fun _ c hc => ⟨rfl,hc⟩) (fun hl => (hl hf).elim)
    obtain ⟨e,he,hvalue,hview⟩ := alone_ok hout []
    exact ⟨e,he,hview,hvalue⟩
  · intro hl
    have hout := hall (fun f => ∃ e, f=.refused e) (fun _ _ => False) (fun hf => (hl hf).elim)
      (fun _ e => ⟨e,rfl⟩)
    obtain ⟨_,he,e,rfl⟩ := alone_error hout []
    exact ⟨e,he⟩

end Replay

section Family
variable {w s : Text} {dto : ReceiveInboundLineDto} {c : WmsCtx} {x : Receipt}
  {key : IdempotencyKey} {v : WmsDb}

theorem ReceiveInboundLineDto.damaged_nonneg' (dto : ReceiveInboundLineDto) : 0≤dto.damaged := by
  unfold ReceiveInboundLineDto.damaged
  cases hd : dto.damagedQuantity with
  | none => exact le_refl 0
  | some n => exact dto.damaged_nonneg n hd

theorem startsWithKey_self (key : IdempotencyKey) : startsWithKey key key=false := by
  rw [startsWithKey,Bool.eq_false_iff,ne_eq,List.isPrefixOf_iff_prefix]
  intro h
  have hlen := h.length_le
  rw [List.length_append,List.length_singleton] at hlen
  omega

theorem startsWithKey_suffix (key : IdempotencyKey) (suffix : String) :
    startsWithKey key (appendIdempotencySuffix key suffix)=true := by
  rw [startsWithKey,List.isPrefixOf_iff_prefix]
  exact ⟨suffix.toList,by simp [appendIdempotencySuffix]⟩

theorem heldQuantity_none {dto : ReceiveInboundLineDto} (h : dto.quantity=0) :
    heldQuantity dto.check=0 := by
  simp only [ReceiveInboundLineDto.check,toReceiveQualityCheck,heldQuantity,h]
  cases dto.qualityStatus <;> simp

theorem held_replayed (movements : List StockMovement) (check : Option InboundReceiveQualityCheck)
    (h : ∀ m∈movements, m.qualityStatus=check.map (·.status) ∧
      m.qualityHeldQuantity=heldQuantity check) :
    heldQuantity (toIdempotentReceiveQualityCheck movements)=
      movements.length*heldQuantity check := by
  cases check with
  | none =>
    have hnone : movements.findSome? (·.qualityStatus)=none :=
      List.findSome?_eq_none_iff.mpr fun m hm => (h m hm).1
    simp [toIdempotentReceiveQualityCheck,hnone,heldQuantity]
  | some q =>
    have hstatus : ∀ m∈movements, m.qualityStatus=some q.status := fun m hm => (h m hm).1
    have hall : movements.filter (·.qualityStatus=some q.status)=movements :=
      List.filter_eq_self.mpr fun m hm => by simpa using hstatus m hm
    have hsum : (movements.map (·.qualityHeldQuantity)).sum=
        movements.length*heldQuantity (some q) := by
      rw [List.map_congr_left fun m hm => (h m hm).2,List.map_const',List.sum_replicate,
        nsmul_eq_mul]
    cases hm : movements with
    | nil => simp [toIdempotentReceiveQualityCheck,heldQuantity]
    | cons m ms =>
      have hfirst : movements.findSome? (·.qualityStatus)=some q.status := by
        rw [hm,List.findSome?_cons_of_isSome] <;> simp [hstatus m (by simp [hm])]
      rw [← hm]
      simp only [toIdempotentReceiveQualityCheck,hfirst,Option.map_some,hall,hsum]
      rfl

/-- The numbers that the movement of a part says. -/
structure Part.Measured (p : Part) (n : ℤ) (disposition : ReceivedDisposition)
    (check : Option InboundReceiveQualityCheck) : Prop where
  quantity : p.movement.quantity=n
  disposition : receiveDisposition p.movement=disposition
  status : p.movement.qualityStatus=check.map (·.status)
  held : p.movement.qualityHeldQuantity=heldQuantity check

theorem Received.good_measured (h : Received w s dto c x) {p : Part} (hp : x.good=some p) :
    p.Measured dto.quantity .RECEIVED dto.check ∧ p.movement.taskId=x.task ∧
      p.movement.sourceSystem=dto.idempotencyKey.map (fun _ => wmsSourceSystem) ∧
      p.movement.idempotencyKey=dto.idempotencyKey := by
  obtain ⟨id,hid⟩ := h.good.movement p hp
  rw [hid]
  refine ⟨⟨?_,?_,?_,?_⟩,rfl,rfl,rfl⟩ <;> rw [hid] <;> rfl

theorem Received.damaged_measured (h : Received w s dto c x) {p : Part} (hp : x.damaged=some p) :
    p.Measured dto.damaged .DAMAGED dto.check ∧ p.movement.taskId=none ∧
      p.movement.sourceSystem=(damagedKey (x.good.map (·.movement)) dto.idempotencyKey).map
        (fun _ => wmsSourceSystem) ∧
      p.movement.idempotencyKey=damagedKey (x.good.map (·.movement)) dto.idempotencyKey := by
  obtain ⟨id,hid⟩ := h.damaged.movement p hp
  rw [hid]
  refine ⟨⟨?_,?_,?_,?_⟩,rfl,rfl,rfl⟩ <;> rw [hid] <;> rfl

/-- The movements of a receive: the first has its key, and the damaged part beside a good
one has a key that starts with it. -/
theorem Received.family (h : Received w s dto c x) (hkey : dto.idempotencyKey=some key) :
    ∃ m rest, x.movements=m::rest ∧ m.sourceSystem=some wmsSourceSystem ∧
      m.idempotencyKey=some key ∧ m.taskId=x.task ∧ (rest=[] ∨ ∃ m', rest=[m'] ∧ siblingMovementWhere x.context.warehouseId key m'=true) ∧
      (replayed x.line.id m.taskId x.movements=x.response dto ↔
        ¬(heldQuantity dto.check≠0 ∧ 0 < dto.damaged)) := by
  have hpos := h.line.pos
  have hquantity := dto.quantity_nonneg
  have hdamaged := dto.damaged_nonneg'
  unfold ReceiveInboundLineDto.total at hpos
  cases hgood : x.good with
  | none =>
    have hzero : dto.quantity=0 := by
      have hsome := h.good.some_iff
      simp [hgood] at hsome
      omega
    have hheld := heldQuantity_none hzero
    cases hbad : x.damaged with
    | none =>
      have hsome := h.damaged.some_iff
      simp [hbad] at hsome
      omega
    | some q =>
      obtain ⟨hq,htask,hqsource,hqkey⟩ := h.damaged_measured hbad
      have hquant := (h.recorded q (by simp [Receipt.parts,hbad])).quant
      have hcheck := held_replayed [q.movement] dto.check
        (by simp [hq.status,hq.held])
      have hnone := h.untasked hgood
      refine ⟨q.movement,[],?_,?_,?_,?_,.inl rfl,?_⟩
      · simp [Receipt.movements,Receipt.parts,hgood,hbad]
      · simpa [hgood,damagedKey,hkey] using hqsource
      · simpa [hgood,damagedKey,hkey] using hqkey
      · rw [htask,hnone]
      · simp [replayed,Receipt.response,receiveResponse,Receipt.movements,Receipt.parts,Receipt.line,
          hgood,hbad,hq.quantity,hq.disposition,hquant,hcheck,hheld,hzero,htask,hnone]
  | some p =>
    obtain ⟨hp,htask,hpsource,hpkey⟩ := h.good_measured hgood
    rw [hkey,Option.map_some] at hpsource
    have hpquant := (h.recorded p (by simp [Receipt.parts,hgood])).quant
    cases hbad : x.damaged with
    | none =>
      have hzero : dto.damaged=0 := by
        have hsome := h.damaged.some_iff
        simp [hbad] at hsome
        omega
      have hcheck := held_replayed [p.movement] dto.check
        (by simp [hp.status,hp.held])
      refine ⟨p.movement,[],?_,hpsource,hpkey.trans hkey,htask,.inl rfl,?_⟩
      · simp [Receipt.movements,Receipt.parts,hgood,hbad]
      · simp [replayed,Receipt.response,receiveResponse,Receipt.movements,Receipt.parts,Receipt.line,
          hgood,hbad,hp.quantity,hp.disposition,hpquant,hcheck,hzero,htask]
    | some q =>
      obtain ⟨hq,_,hqsource,hqkey⟩ := h.damaged_measured hbad
      have hqrecorded := h.recorded q (by simp [Receipt.parts,hbad])
      have hsome : 0 < dto.damaged := h.damaged.some_iff.mp (by simp [hbad])
      have hcheck := held_replayed [p.movement,q.movement] dto.check
        (by simp [hp.status,hp.held,hq.status,hq.held])
      refine ⟨p.movement,[q.movement],?_,hpsource,hpkey.trans hkey,htask,.inr ⟨_,rfl,?_⟩,?_⟩
      · simp [Receipt.movements,Receipt.parts,hgood,hbad]
      · simp [siblingMovementWhere,hqrecorded.warehouseId,hqsource,hqkey,hgood,damagedKey,hkey,
          startsWithKey_suffix]
      · simp [replayed,Receipt.response,receiveResponse,Receipt.movements,Receipt.parts,Receipt.line,
          hgood,hbad,hp.quantity,hp.disposition,hq.quantity,hq.disposition,hpquant,hqrecorded.quant,
          hcheck,hsome,htask]
        omega

/-- Every movement whose key starts with the request's is the request's own. -/
def OwnKeys (v : WmsDb) (x : Receipt) (key : IdempotencyKey) : Prop :=
  ∀ m∈siblings v x.context.warehouseId key, m∈x.movements

theorem siblings_iff {m : StockMovement}
    {rest : List StockMovement} (hx : x.movements=m::rest) (hm : m.idempotencyKey=some key)
    (hrest : rest=[] ∨ ∃ m', rest=[m'] ∧ siblingMovementWhere x.context.warehouseId key m'=true)
    (hrows : ∀ m∈x.movements, m∈(v .stockMovements).rows) :
    siblings v x.context.warehouseId key=rest ↔ OwnKeys v x key := by
  have hnodup : (siblings v x.context.warehouseId key).Nodup :=
    ((v .stockMovements).nodup.of_map _).sublist List.filter_sublist
  have hout : m∉siblings v x.context.warehouseId key := by
    intro hmem
    have hp := (List.mem_filter.mp hmem).2
    simp [siblingMovementWhere,hm,startsWithKey_self] at hp
  constructor
  · intro he m' hm'
    rw [hx]
    exact List.mem_cons_of_mem _ (he ▸ hm')
  · intro hown
    have hsub : ∀ m'∈siblings v x.context.warehouseId key, m'∈rest := by
      intro m' hm'
      have hmem := hown m' hm'
      rw [hx] at hmem
      rcases List.mem_cons.mp hmem with rfl|hmem
      · exact (hout hm').elim
      · exact hmem
    rcases hrest with rfl|⟨m',rfl,hm'⟩
    · exact List.eq_nil_iff_forall_not_mem.mpr fun m' hm' => by simpa using hsub m' hm'
    · have hmem : m'∈siblings v x.context.warehouseId key :=
        List.mem_filter.mpr ⟨hrows m' (by simp [hx]),hm'⟩
      refine List.perm_singleton.mp ((List.perm_ext_iff_of_nodup hnodup (by simp)).mpr fun y => ?_)
      exact ⟨hsub y,fun hy => List.mem_singleton.mp hy ▸ hmem⟩

theorem first_of_indexed {warehouseId : ℕ} {m : StockMovement} (hv : Keyed v)
    (hmem : m∈(v .stockMovements).rows) (hwarehouse : m.warehouseId=warehouseId)
    (hsource : m.sourceSystem=some wmsSourceSystem) (hkey : m.idempotencyKey=some key) :
    ((v .stockMovements).rows.filter (receiveMovementWhere warehouseId key)).head?=some m := by
  have hm : m∈(v .stockMovements).rows.filter (receiveMovementWhere warehouseId key) :=
    List.mem_filter.mpr ⟨hmem,by simp [receiveMovementWhere,hwarehouse,hsource,hkey]⟩
  have hall : ∀ m'∈(v .stockMovements).rows.filter (receiveMovementWhere warehouseId key), m'=m := by
    intro m' hm'
    obtain ⟨hrow,hp⟩ := List.mem_filter.mp hm'
    simp only [receiveMovementWhere,Bool.and_eq_true,decide_eq_true_eq] at hp
    refine hv.indexed m' hrow m hmem (.movementKey wmsSourceSystem key) ?_ ?_
    · simp [TableName.unique,hp.1.2,hp.2]
    · simp [TableName.unique,hsource,hkey]
  cases hlist : (v .stockMovements).rows.filter (receiveMovementWhere warehouseId key) with
  | nil => simp [hlist] at hm
  | cons m' ms => rw [List.head?_cons,hall m' (by simp [hlist])]

theorem Received.line_present (h : Received w s dto c x) :
    Settled (D := wms) c.view .inboundShipmentLines x.line.id x.line := by
  have hstart : Settled (D := wms) (after (lineWrites x.created x.line) c.base)
      .inboundShipmentLines x.line.id x.line := by
    cases hcreated : x.created with
    | false =>
      obtain ⟨_,_,_,_,_,hsettled⟩ := h.line.read hcreated
      exact hsettled
    | true =>
      refine ⟨x.line,?_,rfl⟩
      simp only [lineWrites,if_true,after_cons,after_nil,apply_insert_self]
      exact Table.get?_insert_new (h.line.new hcreated).1
  have hend := hstart.later (store.later_applyAll (partWrites x.good dto.quantity
    ++partWrites x.damaged dto.damaged++x.movements.map (Statement.insert (D := wms) .stockMovements)
    ++[.update .inboundShipmentLines x.line.id (.increment dto.total)]) _)
  have hwrites : x.writes dto=lineWrites x.created x.line++(partWrites x.good dto.quantity
      ++partWrites x.damaged dto.damaged++x.movements.map (Statement.insert (D := wms) .stockMovements)
      ++[.update .inboundShipmentLines x.line.id (.increment dto.total)]) := by
    simp [Receipt.writes,Receipt.stockWrites]
  unfold Settled at hend ⊢
  rw [h.writes.table (t := .inboundShipmentLines) rfl,hwrites,after_append]
  exact hend

theorem Received.replayable (h : Received w s dto c x) (hkey : dto.idempotencyKey=some key)
    (hlater : store.Later c.view v) (hv : Keyed v) : ∃ m rest, x.movements=m::rest ∧
      Replayable v x.context.warehouseId key x.context.shipment.id x.line.id m ∧
      (replayed x.line.id m.taskId (m::siblings v x.context.warehouseId key)=x.response dto ↔
        OwnKeys v x key ∧ ¬(heldQuantity dto.check≠0 ∧ 0 < dto.damaged)) := by
  obtain ⟨m,rest,hx,hsource,hm,htask,hrest,hresponse⟩ := h.family hkey
  have hrows : ∀ m∈x.movements, m∈(v .stockMovements).rows := by
    intro m' hm'
    have hview : m'∈(c.view .stockMovements).rows := by
      rw [h.rows_view]
      exact List.mem_append_right _ hm'
    obtain ⟨m'',hget,hf⟩ := hlater .stockMovements _ m' (Table.get?_key hview)
    have hf : m''=m' := hf
    exact hf ▸ (Table.mem_of_get? hget).1
  have hmem : m∈(v .stockMovements).rows := hrows m (by simp [hx])
  obtain ⟨p,hp,rfl⟩ := List.mem_map.mp (show m∈x.movements by simp [hx])
  have hrecorded := h.recorded p hp
  refine ⟨p.movement,rest,hx,⟨?_,hrecorded.type,hrecorded.shipment,hrecorded.line,?_,?_,?_,?_⟩,?_⟩
  · exact first_of_indexed hv hmem hrecorded.warehouseId hsource hm
  · simp [hrecorded.quant]
  · obtain ⟨l,hl,hf⟩ := h.line_present.later hlater
    have hf : TableName.fixed (t := .inboundShipmentLines) l=TableName.fixed x.line := hf
    simp only [TableName.fixed,InboundShipmentLine.mk.injEq] at hf
    exact ⟨l,hl,hf.2.1.trans h.line.ofShipment⟩
  · intro m' hm' id hid
    have hm' : m'∈(v .stockMovements).rows ∧ m'.idempotencyKey.isSome=true ∧
        m'.warehouseId=x.context.warehouseId := by
      rcases List.mem_cons.mp hm' with rfl|hm'
      · exact ⟨hmem,by simp [hm],hrecorded.warehouseId⟩
      · obtain ⟨hrow,hp⟩ := List.mem_filter.mp hm'
        simp only [siblingMovementWhere,Bool.and_eq_true,decide_eq_true_eq] at hp
        refine ⟨hrow,?_,hp.1.1⟩
        cases hk : m'.idempotencyKey with
        | none => simp [hk] at hp
        | some k => rfl
    rw [← hm'.2.2]
    exact hv.quant m' hm'.1 hm'.2.1 id hid
  · intro id hid
    rw [htask] at hid
    obtain ⟨t,ht,hwarehouse⟩ := h.task id hid
    obtain ⟨t',ht',hf⟩ := hlater .warehouseTasks id t ht
    have hf : TableName.fixed (t := .warehouseTasks) t'=TableName.fixed t := hf
    simp only [TableName.fixed,WarehouseTask.mk.injEq] at hf
    exact ⟨t',ht',hf.2.1.trans hwarehouse⟩
  · rw [← hresponse,hx,← siblings_iff hx hm hrest hrows]
    constructor
    · intro he
      have hsib : siblings v x.context.warehouseId key=rest := by
        have hms : p.movement::siblings v x.context.warehouseId key=x.movements :=
          congrArg InboundReceiveResponse.movements he
        rw [hx] at hms
        exact List.tail_eq_of_cons_eq hms
      exact ⟨hsib,hsib ▸ he⟩
    · rintro ⟨hsib,he⟩
      rw [hsib]
      exact he

end Family

end Inbound

open Inbound

/-- The request has the content of an earlier one: its body, for the same shipment. -/
def SameRequest (x : Receipt) (dto : ReceiveInboundLineDto) (shipment : Text)
    (dto' : ReceiveInboundLineDto) : Prop :=
  dto'=dto ∧ shipment.names x.context.shipment.id x.context.shipment.shipmentNumber=true

/-- A repeated request is answered as the first one was, another one is refused; and
nothing changes. -/
def Faithful (same : Prop) (v : WmsDb) (original : InboundReceiveResponse) :
    Except (Fault (interface wms)) (Ended (interface wms) WmsDb InboundReceiveResponse) → Prop
  | .ok e => same ∧ e.value=original ∧ e.ctx.view=v
  | .error f => ¬same ∧ ∃ e, f=.refused e

def Call.receivesInbound : Call → Bool
  | receiveInbound _ _ _ => true
  | _ => false

/-- The permitted commits: receives against inbound shipments, replayed or not. -/
def ReceivesInbound (op : Call) (_ : WmsCtx) : Prop := op.receivesInbound=true

theorem keyed_run {d : WmsDb} {tr : List (Call × WmsCtx)}
    {c : Config (interface wms) WmsDb Call} (hstart : Keyed d)
    (hrun : Run store Call.prog ReceivesInbound d tr c) : Keyed c.committed := by
  refine (hrun.invariant Call.effect hstart ?_).1
  intro op c hpost hok h
  cases op with
  | receiveInbound w s dto =>
    rcases hpost with hreplay|⟨x,hx⟩
    · exact hreplay ▸ h
    · exact hx.keyed h
  | _ => cases hok

/-- One shipment with one line of ten. -/
def dock : WmsDb := after
  [.insert .warehouses ⟨1,.word 1⟩,
   .insert .warehouseLocations ⟨1,1,.word 0,none,none,none,.RECEIVING,true⟩,
   .insert .skus ⟨7,.word 7,none,⟨false,false,false⟩⟩,
   .insert .inboundShipments ⟨1,1,.word 11,.EXPECTED⟩,
   .insert .inboundShipmentLines ⟨1,1,.text (.word 1),.word 7,10,0,false,⟨false,false,false⟩,
     none,none,none⟩] emptyDb

def demoReceiveDto (n : ℤ) (key : IdempotencyKey) (h : 0≤n) : ReceiveInboundLineDto :=
  {lineReference := some (.text (.word 1)), quantity := n, idempotencyKey := some key,
   createPutawayTask := some false, quantity_nonneg := h, damaged_nonneg := nonneg_of_none}

def demoReceive (n : ℤ) (key : IdempotencyKey) (h : 0≤n) : Call :=
  .receiveInbound (.word 1) (.word 11) (demoReceiveDto n key h)

theorem Inbound.Received.dock {w s : Text} {dto : ReceiveInboundLineDto} {c : WmsCtx} {x : Receipt}
    (h : Received w s dto c x) (hw : ∀ u∈(c.base .warehouses).rows, u.id=1)
    (hs : ∀ u∈(c.base .inboundShipments).rows, u.id=1 ∧ u.shipmentNumber=.word 11) :
    x.context.warehouseId=1 ∧ x.context.shipment.id=1 ∧
      x.context.shipment.shipmentNumber=.word 11 := by
  obtain ⟨u,_,hu,hwarehouse⟩ := h.warehouse
  obtain ⟨t,ht,hf⟩ := h.shipment
  have hf : TableName.fixed (t := .inboundShipments) t=TableName.fixed x.context.shipment := hf
  simp only [TableName.fixed,InboundShipment.mk.injEq] at hf
  obtain ⟨hid,hnumber⟩ := hs t (Table.mem_of_get? ht).1
  exact ⟨hwarehouse.trans (hw u (Table.mem_of_get? hu).1),hf.1.symm.trans hid,
    hf.2.2.1.symm.trans hnumber⟩

theorem keyed_dock : Keyed dock := by
  constructor
  · intro r hr
    cases hr
  · intro m hm
    cases hm

end AardvarkWms
