import AardvarkWms.ReceiveReplay
import AardvarkWms.Overlap

/-! Is what a line has received what was recorded for it, and does it stay inside what was
expected? -/
namespace AardvarkWms

open Transactions Transactions.Txn Relational Inbound

/-- What a movement received for a line. -/
def StockMovement.receivedFor (m : StockMovement) (lineId : ℕ) : ℤ :=
  if m.type=.RECEIVE ∧ m.inboundShipmentLineId=some lineId then m.quantity else 0

/-- What was recorded as received for a line. -/
def recordedQuantity (d : WmsDb) (lineId : ℕ) : ℤ :=
  (d .stockMovements).total (·.receivedFor lineId)

def receivedQuantity (d : WmsDb) (lineId : ℕ) : ℤ :=
  (((d .inboundShipmentLines).get? lineId).map (·.receivedQuantity)).getD 0

/-- Every line has received what the movements say. -/
def Tallied (d : WmsDb) : Prop := ∀ lineId, recordedQuantity d lineId=receivedQuantity d lineId

/-- Every line that was announced has received at most what was expected. -/
def WithinExpected (d : WmsDb) : Prop := ∀ l∈(d .inboundShipmentLines).rows,
  l.unexpectedSku=false → l.receivedQuantity≤l.expectedQuantity

instance (d : WmsDb) : Decidable (WithinExpected d) := List.decidableBAll _ _

/-- Receives that do not ask for more than was expected. -/
def ReceivesExpected : Call → WmsCtx → Prop
  | .receiveInbound _ _ dto, _ => dto.allowOverReceive=false
  | _, _ => False

/-- The line that the call read for its reference has still received as much where the call
commits. -/
def LineFresh (c : WmsCtx) : Prop := ∀ shipmentId reference (rs : List InboundShipmentLine),
  c.Saw (lineQuery shipmentId reference) rs → ∀ l∈rs.head?,
  ∀ l'∈(c.base .inboundShipmentLines).get? l.id, l'.receivedQuantity=l.receivedQuantity

section Received
variable {w s : Text} {dto : ReceiveInboundLineDto} {c : WmsCtx} {x : Receipt} {v : WmsDb}

theorem total_inserts {ms : List StockMovement} (h : NewMovements v ms) (f : StockMovement → ℤ) :
    (after (ms.map (Statement.insert (D := wms) .stockMovements)) v .stockMovements).total f=
      (v .stockMovements).total f+(ms.map f).sum := by
  simp [Table.total,h.rows]

theorem Inbound.Received.recorded_sum (h : Received w s dto c x) (lineId : ℕ) :
    (x.movements.map (·.receivedFor lineId)).sum=if lineId=x.line.id then dto.total else 0 := by
  have hline : ∀ p∈x.parts, p.movement.receivedFor lineId=
      if lineId=x.line.id then p.movement.quantity else 0 := by
    intro p hp
    have hrecorded := h.recorded p hp
    simp [StockMovement.receivedFor,hrecorded.type,hrecorded.line,eq_comm]
  have hgood : (x.good.toList.map (·.movement.quantity)).sum=dto.quantity := by
    have hnonneg := dto.quantity_nonneg
    have hsome := h.good.some_iff
    cases hg : x.good with
    | none =>
      simp [hg] at hsome
      simp
      omega
    | some p => simp [(h.good_measured hg).1.quantity]
  have hdamaged : (x.damaged.toList.map (·.movement.quantity)).sum=dto.damaged := by
    have hnonneg := dto.damaged_nonneg'
    have hsome := h.damaged.some_iff
    cases hd : x.damaged with
    | none =>
      simp [hd] at hsome
      simp
      omega
    | some p => simp [(h.damaged_measured hd).1.quantity]
  rw [Receipt.movements,List.map_map,List.map_congr_left (g := fun p =>
    if lineId=x.line.id then p.movement.quantity else 0) hline]
  by_cases hid : lineId=x.line.id
  · simp only [hid,if_true,Receipt.parts,List.map_append,List.sum_append,hgood,hdamaged]
    rfl
  · simp [hid]

theorem Inbound.Received.lines_view (h : Received w s dto c x) : c.view .inboundShipmentLines=
    (after (lineWrites x.created x.line) c.base .inboundShipmentLines).modify x.line.id
      (TableName.patch (t := .inboundShipmentLines) (.increment dto.total)) (fun _ => rfl) := by
  rw [h.writes.table (t := .inboundShipmentLines) rfl,Receipt.writes,after_append,after_cons,
    after_nil]
  refine (apply_update_self _ _ _ _).trans ?_
  congr 1
  rw [Receipt.stockWrites,List.append_assoc,List.append_assoc,after_append]
  refine after_of_table fun w hw => ?_
  rcases List.mem_append.mp hw with hw|hw
  · simp [partWrites_table _ _ w hw]
  · rcases List.mem_append.mp hw with hw|hw
    · simp [partWrites_table _ _ w hw]
    · obtain ⟨m,_,rfl⟩ := List.mem_map.mp hw
      simp [Statement.table]

theorem Inbound.Received.line_start (h : Received w s dto c x) :
    (∃ l, (after (lineWrites x.created x.line) c.base .inboundShipmentLines).get? x.line.id=some l ∧
      l.receivedQuantity=receivedQuantity c.base x.line.id ∧
      l.unexpectedSku=x.line.unexpectedSku ∧ l.expectedQuantity=x.line.expectedQuantity) ∧
    ∀ lineId, lineId≠x.line.id →
      (after (lineWrites x.created x.line) c.base .inboundShipmentLines).get? lineId=
        (c.base .inboundShipmentLines).get? lineId := by
  cases hcreated : x.created with
  | false =>
    obtain ⟨_,_,_,_,_,l,hl,hf⟩ := h.line.read hcreated
    have hf : TableName.fixed (t := .inboundShipmentLines) l=TableName.fixed x.line := hf
    simp only [TableName.fixed,InboundShipmentLine.mk.injEq] at hf
    have hl : (c.base .inboundShipmentLines).get? x.line.id=some l := hl
    refine ⟨⟨l,hl,?_,hf.2.2.2.2.2.2.1,hf.2.2.2.2.1⟩,fun _ _ => rfl⟩
    rw [receivedQuantity,hl]
    rfl
  | true =>
    obtain ⟨hnone,hzero,_⟩ := h.line.new hcreated
    have hnone : (c.base .inboundShipmentLines).get? x.line.id=none := hnone
    simp only [lineWrites,if_true,after_cons,after_nil,apply_insert_self]
    refine ⟨⟨x.line,Table.get?_insert_new hnone,?_,rfl,rfl⟩,fun _ hid => Table.get?_insert_ne _ hid⟩
    rw [receivedQuantity,hnone]
    exact hzero

theorem Inbound.Received.line_view (h : Received w s dto c x) :
    (∃ l : InboundShipmentLine, (c.view .inboundShipmentLines).get? x.line.id=some l ∧
      l.receivedQuantity=receivedQuantity c.base x.line.id+dto.total ∧
      l.unexpectedSku=x.line.unexpectedSku ∧ l.expectedQuantity=x.line.expectedQuantity) ∧
    ∀ lineId, lineId≠x.line.id → (c.view .inboundShipmentLines).get? lineId=
      (c.base .inboundShipmentLines).get? lineId := by
  obtain ⟨⟨l,hl,hreceived,hsku,hexpected⟩,hother⟩ := h.line_start
  rw [h.lines_view]
  constructor
  · refine ⟨{l with receivedQuantity := l.receivedQuantity+dto.total},?_,?_,hsku,hexpected⟩
    · refine (Table.get?_modify_self _ _ _ _).trans ?_
      rw [hl]
      rfl
    · simp only [hreceived]
  · intro lineId hid
    exact (Table.get?_modify_ne _ _ _ hid).trans (hother lineId hid)

theorem Inbound.Received.tallied (h : Received w s dto c x) (hv : Tallied c.base) :
    Tallied c.view := by
  intro lineId
  have hrecorded : recordedQuantity c.view lineId=recordedQuantity c.base lineId+
      if lineId=x.line.id then dto.total else 0 := by
    rw [recordedQuantity,h.movements_view,total_inserts h.newMovements,h.recorded_sum]
    rfl
  obtain ⟨⟨l,hl,hreceived,_⟩,hother⟩ := h.line_view
  rw [hrecorded,hv lineId]
  by_cases hid : lineId=x.line.id
  · subst hid
    have hview : receivedQuantity c.view x.line.id=l.receivedQuantity := by
      rw [receivedQuantity,hl]
      rfl
    rw [if_pos rfl,hview,hreceived]
  · rw [if_neg hid,add_zero,receivedQuantity,receivedQuantity,hother lineId hid]

theorem Inbound.Received.within (h : Received w s dto c x) (hover : dto.allowOverReceive=false)
    (hfresh : LineFresh c) (hv : WithinExpected c.base) : WithinExpected c.view := by
  intro l hl hsku
  obtain ⟨⟨l',hl',hreceived,hsku',hexpected⟩,hother⟩ := h.line_view
  have hget : (c.view .inboundShipmentLines).get? l.id=some l := Table.get?_key hl
  by_cases hid : l.id=x.line.id
  · rw [hid,hl'] at hget
    obtain rfl := Option.some.inj hget
    cases hcreated : x.created with
    | true =>
      have hunexpected := (h.line.new hcreated).2.2
      rw [hsku] at hsku'
      exact absurd (hsku'.trans hunexpected) (by decide)
    | false =>
      obtain ⟨reference,rs,_,hsaw,hhead,r,hr,_⟩ := h.line.read hcreated
      have hr : (c.base .inboundShipmentLines).get? x.line.id=some r := hr
      have hsame : receivedQuantity c.base x.line.id=x.line.receivedQuantity := by
        rw [receivedQuantity,hr]
        exact hfresh _ _ rs hsaw _ hhead r hr
      rcases h.line.accepted with hu|hle|ho
      · rw [hsku] at hsku'
        exact absurd (hsku'.trans hu) (by decide)
      · rw [hreceived,hexpected,hsame]
        exact hle
      · rw [hover] at ho
        cases ho
  · rw [hother l.id hid] at hget
    exact hv l (Table.mem_of_get? hget).1 hsku

end Received

theorem tallied_run {d : WmsDb} {tr : List (Call × WmsCtx)}
    {c : Config (interface wms) WmsDb Call} (hstart : Tallied d)
    (hrun : Run store Call.prog ReceivesExpected d tr c) : Tallied c.committed := by
  refine (hrun.invariant Call.effect hstart ?_).1
  intro op c hpost hok h
  cases op with
  | receiveInbound w s dto =>
    rcases hpost with hreplay|⟨x,hx⟩
    · exact hreplay ▸ h
    · exact hx.tallied h
  | _ => cases hok

theorem withinExpected_run {d : WmsDb} {tr : List (Call × WmsCtx)}
    {c : Config (interface wms) WmsDb Call} (hstart : WithinExpected d)
    (hrun : Run store Call.prog ReceivesExpected d tr c) (hfresh : ∀ e∈tr, LineFresh e.2) :
    WithinExpected c.committed := by
  have hrun : Run store Call.prog (fun op c => ReceivesExpected op c ∧ LineFresh c) d tr c :=
    hrun.imp fun e he hok => ⟨hok,hfresh e he⟩
  refine (hrun.invariant Call.effect hstart ?_).1
  intro op c hpost hok h
  cases op with
  | receiveInbound w s dto =>
    rcases hpost with hreplay|⟨x,hx⟩
    · exact hreplay ▸ h
    · exact hx.within hok.1 hok.2 h
  | _ => cases hok.1

/-- In every run of receives that do not ask for more, the movements of every line add up to
what it has received; and if each call commits where its line has still received as much as
it read, every announced line stays inside what is expected. -/
theorem no_over_receipt {d : WmsDb} {tr : List (Call × WmsCtx)}
    {c : Config (interface wms) WmsDb Call} (htallied : Tallied d) (hwithin : WithinExpected d)
    (hrun : Run store Call.prog ReceivesExpected d tr c) :
    (∀ l∈(c.committed .inboundShipmentLines).rows,
      recordedQuantity c.committed l.id=l.receivedQuantity) ∧
    ((∀ e∈tr, LineFresh e.2) → ∀ l∈(c.committed .inboundShipmentLines).rows,
      l.unexpectedSku=false → l.receivedQuantity≤l.expectedQuantity) := by
  refine ⟨fun l hl => ?_,withinExpected_run hwithin hrun⟩
  have hget : (c.committed .inboundShipmentLines).get? l.id=some l := Table.get?_key hl
  rw [tallied_run htallied hrun l.id,receivedQuantity,hget]
  rfl

theorem lineFresh_of_seen {c : WmsCtx} (h : ∀ x∈c.log, SeenIn (D := wms) c.base x) : LineFresh c := by
  intro shipmentId reference rs hsaw l hl l' hl'
  have hrs : rs=(c.base .inboundShipmentLines).rows.filter
      fun l => l.shipmentId=shipmentId && lineNamed reference l := h _ hsaw
  have hmem : l∈rs := List.mem_of_mem_head? hl
  rw [hrs] at hmem
  have hget : (c.base .inboundShipmentLines).get? l.id=some l :=
    Table.get?_key (List.mem_of_mem_filter hmem)
  rw [hget] at hl'
  rw [Option.mem_some.mp hl']

theorem tallied_dock : Tallied dock := by
  intro lineId
  rw [receivedQuantity]
  cases hget : (dock .inboundShipmentLines).get? lineId with
  | none => rfl
  | some l =>
    have hzero : ∀ l∈(dock .inboundShipmentLines).rows, l.receivedQuantity=0 := by decide
    exact (hzero l (Table.mem_of_get? hget).1).symm

theorem no_over_receipt_demo : ∃ tr d, serially store Call.prog id
      [demoReceive 6 ['a'] (by decide),demoReceive 4 ['b'] (by decide)] 10 [] dock=.ok (tr,d) ∧
    (∀ l∈(d .inboundShipmentLines).rows, recordedQuantity d l.id=l.receivedQuantity) ∧
    ∀ l∈(d .inboundShipmentLines).rows, l.unexpectedSku=false →
      l.receivedQuantity≤l.expectedQuantity := by
  have hhistory : ∃ tr d, serially store Call.prog id
      [demoReceive 6 ['a'] (by decide),demoReceive 4 ['b'] (by decide)] 10 [] dock=.ok (tr,d) ∧
      ∀ e∈tr, ∀ x∈e.2.log, SeenIn (D := wms) e.2.base x := ⟨_,_,rfl,by decide⟩
  obtain ⟨tr,d,he,hseen⟩ := hhistory
  have hrun : Run store Call.prog ReceivesExpected dock tr (.idle d) :=
    Run.serial he (by simp [demoReceive,demoReceiveDto,ReceivesExpected])
  obtain ⟨hrecorded,hwithin⟩ := no_over_receipt tallied_dock (by decide) hrun
  exact ⟨tr,d,he,hrecorded,hwithin fun e he => lineFresh_of_seen (hseen e he)⟩

/-- Two receives of six read the line before either has received. -/
theorem overlapping_receives_exceed : ¬∀ d tr (c : Config (interface wms) WmsDb Call),
    Tallied d → WithinExpected d → Run store Call.prog ReceivesExpected d tr c →
    WithinExpected c.committed := by
  intro h
  have hhistory : ∃ tr d, overlapping store Call.prog id (demoReceive 6 ['a'] (by decide))
      (demoReceive 6 ['b'] (by decide)) 6 100 dock=some (tr,d) ∧ ¬WithinExpected d :=
    ⟨_,_,rfl,by decide⟩
  obtain ⟨tr,d,he,hbad⟩ := hhistory
  refine hbad (h _ _ _ tallied_dock (by decide) (Run.overlapping he fun e hmem => ?_))
  rcases ops_overlapping he e hmem with hop|hop
  · rw [hop]
    rfl
  · rw [hop]
    rfl

end AardvarkWms
