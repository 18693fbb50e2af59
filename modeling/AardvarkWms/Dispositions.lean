import AardvarkWms.Histories
import AardvarkWms.Quality

/-! What the dispositions of quality inspections keep: stock with active reservations stays
available, each disposition is applied once, within its inspection, and wholly or not at all. -/
namespace AardvarkWms.Quality

open Relational (database)
open Statements

/-- The quant has active reservations. -/
def Reserved (d : State) (quantId : ℕ) : Prop :=
  ∃ r∈(d.stock.committed .reservations).rows, Reservation.stockQuantId r=quantId ∧
    Reservation.status r=.ACTIVE

/-- The stock lies in the inspection's own warehouse and is of its SKU. -/
structure Within (x : QualityInspection) (warehouseId skuId : ℕ) : Prop where
  warehouse : warehouseId=x.warehouseId
  sku : ∀ s, x.skuId=some s → skuId=s

/-- The statements by which an inspection is completed. -/
def Statement.completes : Statement → Bool
  | .completeInspection _ _ | .setQuantStatus _ _ (some _) | .setLotStatus _ _ _ => true
  | _ => false

/-- The statements that apply its disposition. -/
def Statement.disposes : Statement → Bool
  | .setQuantStatus _ _ (some _) | .setLotStatus _ _ _ => true
  | _ => false

/-- The statements of a call that complete an inspection, in their order. -/
def written (made : List Statement) : List Statement := (made.filter Statement.completes).reverse

/-- The disposition of an inspection, on the quant and on the lot that it names. -/
def dispositions (decision : QualityDisposition) (x : QualityInspection) : List Statement :=
  (decision.stockStatus.bind fun status => x.stockQuantId.map fun quantId =>
    Statement.setQuantStatus quantId status (some x.id)).toList++
  (decision.lotStatus.bind fun status => decision.lotQualityStatus.bind fun qualityStatus =>
    x.lotId.map fun lotId => Statement.setLotStatus lotId status qualityStatus).toList

/-- All that completing an inspection changes. -/
def completionWrites (dto : CompleteQualityInspectionDto) (actor : ℕ) (x : QualityInspection) :
    List Statement :=
  .completeInspection x.id (completionOf dto actor)::
    dispositions (decideQualityDisposition dto.result) x

/-- What is never written of an inspection again. -/
def QualityInspection.identity (x : QualityInspection) : QualityInspection :=
  {x with status := .OPEN, result := none, notes := none, completedByUserId := none}

/-- The inspection is there. -/
def Known (d : State) (x : QualityInspection) : Prop :=
  ∃ row, d.inspections.get? x.id=some row ∧ row.identity=x.identity

def Completed (c : Statements.Call quality Op) (inspectionId : ℕ) : Prop :=
  ∃ completion, Statement.completeInspection inspectionId completion∈c.made

/-- The call has applied the disposition of the inspection to its quant or its lot. -/
def AppliedFor (c : Statements.Call quality Op) (inspectionId : ℕ) : Prop :=
  Completed c inspectionId ∧ ∃ st∈c.made, Statement.disposes st=true

/-- What holds of the dispositions in a state. -/
structure Law (s : System) : Prop where
  once : ∀ (i j : ℕ) (c c' : Statements.Call quality Op) (x : ℕ), s.calls[i]?=some c →
    s.calls[j]?=some c' → AppliedFor c x → AppliedFor c' x → i=j
  single : ∀ c∈s.calls, (written c.made).Nodup
  together : ∀ c∈s.calls, c.rest.Ended → ∀ w r dto actor, c.op=.completeInspection w r dto actor →
    written c.made=[] ∨ ∃ x, Known s.state x ∧ written c.made=completionWrites dto actor x

/-- What holds of a step: no reserved quant stops being available, and a disposition is applied
to a quant or lot of its inspection's warehouse and SKU only. -/
structure StepLaw (s : System) (e : Event) (s' : System) : Prop where
  reserved : ∀ (id : ℕ) (q : StockQuant), s.state.quants.get? id=some q → q.status=.AVAILABLE →
    Reserved s.state id → ∃ q', s'.state.quants.get? id=some q' ∧ q'.status=.AVAILABLE
  quant : ∀ (i : ℕ) (c : Statements.Call quality Op) (id : ℕ) (status : StockQuantStatus) (x : ℕ)
    next, e=.statement i → s.calls[i]?=some c → c.rest=.run (.setQuantStatus id status (some x)) next →
      ∀ q row, s.state.quants.get? id=some q → s.state.inspections.get? x=some row →
        Within row q.warehouseId q.skuId
  lot : ∀ (i : ℕ) (c : Statements.Call quality Op) (id : ℕ) (status : LotStatus)
    (qualityStatus : LotQualityStatus) (x : ℕ) next, e=.statement i → s.calls[i]?=some c →
      c.rest=.run (.setLotStatus id status qualityStatus) next → Completed c x →
        ∀ l row, s.state.lots.get? id=some l → s.state.inspections.get? x=some row →
          Within row l.warehouseId l.skuId

/-- An inspection is completed while it is open, unless it names neither a quant nor a lot; a
disposition meets a quant of the inspection's warehouse and SKU, and makes it unavailable only
where it is so already or has no active reservations. -/
def StatementPermitted : Statement → State → Prop
  | .completeInspection id _, d => ∀ x, d.inspections.get? id=some x →
      x.status=.OPEN ∨ x.stockQuantId=none ∧ x.lotId=none
  | .setQuantStatus id status inspectionId, d => ∀ q, d.quants.get? id=some q →
      (q.status=.AVAILABLE → Reserved d id → status=.AVAILABLE) ∧
      ∀ x row, inspectionId=some x → d.inspections.get? x=some row →
        Within row q.warehouseId q.skuId
  | _, _ => True

/-- Each statement is permitted, and no call is lost between the first and the last of the
statements that complete an inspection. -/
def Permitted (s : System) : Event → Prop
  | .statement i => ∀ c st next, s.calls[i]?=some c → c.rest=.run st next →
      StatementPermitted st s.state
  | .lose i => ∀ c, s.calls[i]?=some c → written c.made=[]
  | _ => True

/-- A system in which no inspection has been created yet, on any stock. -/
def System.initial (stock : Stock) (lotQuality : ℕ → LotQualityStatus) : System :=
  ⟨⟨stock,lotQuality,Table.empty⟩,[]⟩

abbrev Step : System → Event → System → Prop := Statements.Step semantics Op.prog Beside

abbrev Reaches (stock : Stock) (lotQuality : ℕ → LotQualityStatus)
    (ok : System → Event → Prop) : System → Prop :=
  Statements.Run semantics Op.prog Beside ok (System.initial stock lotQuality)

section Later

/-- Lots stay where they are, inspections keep what they are about, and what has been completed is
not open again. -/
structure Later (d d' : State) : Prop where
  lots : ∀ id l, d.lots.get? id=some l →
    ∃ l', d'.lots.get? id=some l' ∧ l'.warehouseId=l.warehouseId ∧ l'.skuId=l.skuId
  inspections : ∀ id x, d.inspections.get? id=some x → ∃ x', d'.inspections.get? id=some x' ∧
    x'.identity=x.identity ∧ (x.status≠.OPEN → x'.status≠.OPEN)

variable {d d' d'' : State} {st : Statement} {x : QualityInspection}

theorem Later.refl (d : State) : Later d d :=
  ⟨fun _ l h => ⟨l,h,rfl,rfl⟩,fun _ x h => ⟨x,h,rfl,id⟩⟩

theorem Later.trans (h : Later d d') (h' : Later d' d'') : Later d d'' := by
  constructor
  · intro id l hl
    obtain ⟨l',hl',hw,hs⟩ := h.lots id l hl
    obtain ⟨l'',hl'',hw',hs'⟩ := h'.lots id l' hl'
    exact ⟨l'',hl'',hw'.trans hw,hs'.trans hs⟩
  · intro id x hx
    obtain ⟨x',hx',hi,ho⟩ := h.inspections id x hx
    obtain ⟨x'',hx'',hi',ho'⟩ := h'.inspections id x' hx'
    exact ⟨x'',hx'',hi'.trans hi,fun hn => ho' (ho hn)⟩

theorem Later.of_eq (hlots : d'.lots=d.lots) (hinspections : d'.inspections=d.inspections) :
    Later d d' := by
  constructor
  · rw [hlots]
    exact (Later.refl d).lots
  · rw [hinspections]
    exact (Later.refl d).inspections

theorem Known.later (h : Known d x) (hd : Later d d') : Known d' x := by
  obtain ⟨row,hrow,hi⟩ := h
  obtain ⟨row',hrow',hi',_⟩ := hd.inspections _ row hrow
  exact ⟨row',hrow',hi'.trans hi⟩

theorem known_of_get? (h : d.inspections.get? x.id=some x) : Known d x := ⟨x,h,rfl⟩

@[simp] theorem lots_withQuants (d : State) (rows : Table StockQuant.id) :
    (d.withQuants rows).lots=d.lots := rfl

@[simp] theorem quants_withLots (d : State) (rows : Table SkuLot.id) :
    (d.withLots rows).quants=d.quants := rfl

@[simp] theorem lots_withLots (d : State) (rows : Table SkuLot.id) :
    (d.withLots rows).lots=rows := rfl

@[simp] theorem quants_withQuants (d : State) (rows : Table StockQuant.id) :
    (d.withQuants rows).quants=rows := rfl

theorem committed_later (stock : Stock) (ws : List (Relational.Statement wms)) :
    Table.Grows (TableName.fixed (t := .stockQuants)) (stock.committed .stockQuants)
        ((database wms).applyAll ws stock.committed .stockQuants) ∧
      Table.Grows (TableName.fixed (t := .skuLots)) (stock.committed .skuLots)
        ((database wms).applyAll ws stock.committed .skuLots) := by
  have hlater : (database wms).Later stock.committed ((database wms).applyAll ws stock.committed) :=
    Transactions.Store.later_applyAll (S := database wms) ws stock.committed
  exact ⟨hlater .stockQuants,hlater .skuLots⟩

theorem stockStep_committed {c c' : Stock} (h : StockStep c c') : c'.committed=c.committed ∨
    ∃ ws, c'.committed=(database wms).applyAll ws c.committed := by
  cases h with
  | begin i op hi => exact .inl rfl
  | move i hs hm => exact .inl rfl
  | flush i hs hrest => exact .inr ⟨_,rfl⟩
  | finish i hs hrest => exact .inr ⟨_,rfl⟩
  | abort i => exact .inl rfl

theorem beside_keeps (h : Beside d d') : Later d d' ∧
    ∀ id q, d.quants.get? id=some q → ∃ q', d'.quants.get? id=some q' ∧ q'.status=q.status := by
  obtain ⟨stock,hstep,rfl⟩ := h
  rcases stockStep_committed hstep with hsame|⟨ws,hws⟩
  · refine ⟨Later.of_eq ?_ rfl,?_⟩
    · unfold State.lots
      rw [hsame]
    · intro id q hq
      refine ⟨q,?_,rfl⟩
      unfold State.quants at hq ⊢
      rw [hsame]
      exact hq
  · obtain ⟨hquants,hlots⟩ := committed_later d.stock ws
    rw [← hws] at hquants hlots
    refine ⟨⟨?_,(Later.refl d).inspections⟩,?_⟩
    · intro id l hl
      obtain ⟨l',hl',hfixed⟩ := hlots id l hl
      have hsame : l'=l := hfixed
      exact ⟨l',hl',by rw [hsame],by rw [hsame]⟩
    · intro id q hq
      obtain ⟨q',hq',hfixed⟩ := hquants id q hq
      have hstatus : StockQuant.status (TableName.fixed (t := .stockQuants) q')=
          StockQuant.status (TableName.fixed (t := .stockQuants) q) :=
        congrArg (fun r : StockQuant => r.status) hfixed
      exact ⟨q',hq',hstatus⟩

theorem exec_later {a : st.Answer} (h : exec st d=.ok (a,d')) : Later d d' := by
  cases st with
  | insertInspection row =>
    rw [exec_insertInspection] at h
    split at h
    · rename_i hnew
      cases h
      refine ⟨(Later.refl d).lots,?_⟩
      intro id x hx
      refine ⟨x,?_,rfl,fun h => h⟩
      have hne : id≠row.id := by
        rintro rfl
        rw [hnew.1] at hx
        cases hx
      exact (Table.get?_insert_ne _ hne).trans hx
    · cases h
  | completeInspection id completion =>
    cases h
    refine ⟨(Later.refl d).lots,?_⟩
    intro i x hx
    by_cases hi : i=id
    · subst hi
      refine ⟨completion.apply x,?_,rfl,?_⟩
      · have hget := Table.get?_modify_self d.inspections i completion.apply completion.apply_id
        rw [hx] at hget
        exact hget
      · exact fun _ => completion.closed
    · have hget := Table.get?_modify_ne d.inspections completion.apply completion.apply_id hi
      exact ⟨x,hget.trans hx,rfl,fun h => h⟩
  | setQuantStatus id status inspectionId =>
    cases h
    exact Later.of_eq (lots_withQuants d _) rfl
  | setLotStatus id status qualityStatus =>
    cases h
    refine ⟨?_,(Later.refl d).inspections⟩
    intro i l hl
    change ∃ l', (d.withLots _).lots.get? i=some l' ∧ _
    rw [lots_withLots,Table.get?_modify,hl]
    split
    · exact ⟨_,rfl,rfl,rfl⟩
    · exact ⟨l,rfl,rfl,rfl⟩
  | _ =>
    cases h
    exact Later.refl d

theorem step_later {s s' : System} {e : Event} (h : Step s e s') : Later s.state s'.state := by
  cases h with
  | begin op => exact Later.refl _
  | statement i hget hrest hready hexec => exact exec_later hexec
  | fails i hget hrest hready hexec => exact Later.refl _
  | lose i err hget hrest => exact Later.refl _
  | outside hout => exact (beside_keeps hout).1

end Later

section Programs
variable {d d' : State} {op : Op} {made before : List Statement} {st : Statement}
  {x : QualityInspection} {dto : CompleteQualityInspectionDto} {actor : ℕ} {w r : Text}

/-- The lot of an inspection lies in its warehouse and is of its SKU. -/
def LotFits (d : State) (x : QualityInspection) : Prop :=
  ∀ id, x.lotId=some id → ∃ l, d.lots.get? id=some l ∧ l.warehouseId=x.warehouseId ∧
    x.skuId=some l.skuId

/-- What a call has written so far begins what completing one inspection writes. -/
def Prefixed (op : Op) (made : List Statement) (d : State) : Prop :=
  written made=[] ∨ ∃ w r dto actor x, op=.completeInspection w r dto actor ∧ Known d x ∧
    written made<+:completionWrites dto actor x

/-- A call ends when it has written nothing or all of it. -/
def Whole (op : Op) (made : List Statement) (d : State) : Prop :=
  written made=[] ∨ ∃ w r dto actor x, op=.completeInspection w r dto actor ∧ Known d x ∧
    written made=completionWrites dto actor x

/-- Where a statement is made. -/
structure MadeWell (op : Op) (before : List Statement) (st : Statement) (d : State) : Prop where
  lot : ∀ row, st=.insertInspection row → LotFits d row
  prefixed : Prefixed op (st::before) d

abbrev SafeCall : Op → List Statement → Call Unit → State → Prop :=
  Safe semantics Later (fun _ _ st d => StatementPermitted st d) MadeWell Whole

theorem Prefixed.later (h : Prefixed op made d) (hd : Later d d') : Prefixed op made d' := by
  rcases h with h|⟨w,r,dto,actor,x,hop,hx,h⟩
  · exact .inl h
  · exact .inr ⟨w,r,dto,actor,x,hop,hx.later hd,h⟩

theorem whole_lasting : Lasting (I := quality) Later Whole := by
  intro op made d d' hd h
  rcases h with h|⟨w,r,dto,actor,x,hop,hx,h⟩
  · exact .inl h
  · exact .inr ⟨w,r,dto,actor,x,hop,hx.later hd,h⟩

theorem LotFits.later (h : LotFits d x) (hd : Later d d') : LotFits d' x := by
  intro id hid
  obtain ⟨l,hl,hw,hs⟩ := h id hid
  obtain ⟨l',hl',hw',hs'⟩ := hd.lots id l hl
  exact ⟨l',hl',hw'.trans hw,hs.trans (congrArg some hs'.symm)⟩

theorem written_cons_false (h : st.completes=false) : written (st::made)=written made := by
  simp [written,h]

theorem written_cons_true (h : st.completes=true) : written (st::made)=written made++[st] := by
  simp [written,h]

def Statement.selects : Statement → Bool
  | .warehouse _ | .client _ | .sku _ | .lot _ _ _ | .inspection _ _ | .quant _ _ => true
  | _ => false

theorem exec_selects (h : st.selects=true) (d : State) : ∃ a, exec st d=.ok (a,d) := by
  cases st with
  | insertInspection row => cases h
  | completeInspection id completion => cases h
  | setQuantStatus id status inspectionId => cases h
  | setLotStatus id status qualityStatus => cases h
  | _ => exact ⟨_,rfl⟩

theorem selects_completes (h : st.selects=true) : st.completes=false := by
  cases st <;> first | rfl | cases h

/-- A part of a call that writes nothing, and what holds of its result where it ends. -/
structure Reads {α : Type} (p : Call α) (P : α → State → Prop) : Prop where
  safe : ∀ {op : Op} {made : List Statement} {d : State} {f : α → Call Unit}, written made=[] →
    (∀ a d' made, Later d d' → P a d' → written made=[] → SafeCall op made (f a) d') →
    SafeCall op made (p.bind f) d

theorem reads_resolve {α : Type} (st : Statement) (g : st.Answer → Option α) (e : HttpException)
    (hs : st.selects=true) : Reads (.run st fun a => Program.demand (g a) e)
      fun found d => ∃ a, exec st d=.ok (a,d) ∧ g a=some found := by
  constructor
  intro op made d f hw h
  have hmade : written (st::made)=[] := by rw [written_cons_false (selects_completes hs),hw]
  intro d' hd
  obtain ⟨a,ha⟩ := exec_selects hs d'
  constructor
  · intro err _
    exact .inl hw
  · intro _
    refine ⟨⟨?_,.inl hmade⟩,?_⟩
    · rintro row rfl
      cases hs
    · intro b d'' hb
      have hsame : (a,d')=(b,d'') := Except.ok.inj (ha.symm.trans hb)
      obtain ⟨rfl,rfl⟩ := Prod.mk.inj hsame
      change SafeCall op (st::made) ((Program.demand (g a) e).bind f) d'
      cases hg : g a with
      | none => exact Or.inl hmade
      | some found => exact h found d' _ hd ⟨a,ha,hg⟩ hmade

theorem Reads.imp {α : Type} {p : Call α} {P Q : α → State → Prop} (h : Reads p P)
    (himp : ∀ a d, P a d → Q a d) : Reads p Q :=
  ⟨fun hw hf => h.safe hw fun a d made hd hP hmade => hf a d made hd (himp a d hP) hmade⟩

theorem reads_ifGiven {α : Type} {resolve : Text → Call α} {P : α → State → Prop}
    (h : ∀ r, Reads (resolve r) P) (reference : Option Text) :
    Reads (ifGiven resolve reference) fun found d => ∀ a, found=some a → P a d := by
  constructor
  intro op made d f hw hf
  cases reference with
  | none =>
    refine hf none d made (Later.refl d) ?_ hw
    intro a ha
    cases ha
  | some r =>
    have hbind : (ifGiven resolve (some r)).bind f=(resolve r).bind fun found => f (some found) :=
      Program.bind_assoc (resolve r) _ f
    rw [hbind]
    refine (h r).safe hw fun found d' made hd hP hmade => hf (some found) d' made hd ?_ hmade
    intro a ha
    cases ha
    exact hP

theorem reads_warehouse (reference : Text) :
    Reads (resolveWarehouse reference) fun _ _ => True :=
  (reads_resolve (.warehouse reference) (fun a : Option Warehouse => a)
    (.notFound "Warehouse was not found") rfl).imp fun _ _ _ => trivial

theorem reads_client (reference : Text) : Reads (resolveClient reference) fun _ _ => True :=
  (reads_resolve (.client reference) (fun a : Option WmsClient => a)
    (.notFound "Client was not found") rfl).imp fun _ _ _ => trivial

theorem reads_sku (reference : Text) : Reads (resolveSku reference) fun _ _ => True :=
  (reads_resolve (.sku reference) (fun a : Option Sku => a)
    (.notFound "SKU was not found") rfl).imp fun _ _ _ => trivial

theorem reads_lot (warehouseId skuId : ℕ) (reference : Text) :
    Reads (resolveLot warehouseId skuId reference) fun l d => d.lots.get? l.id=some l ∧
      l.warehouseId=warehouseId ∧ l.skuId=skuId := by
  refine (reads_resolve (.lot warehouseId skuId reference) (fun a : Option SkuLot => a)
    (.notFound "Lot was not found") rfl).imp ?_
  rintro l d ⟨a,ha,hl⟩
  cases ha
  have hwhere := List.find?_some hl
  simp only [Bool.and_eq_true,decide_eq_true_eq] at hwhere
  exact ⟨Table.get?_key (List.mem_of_find?_eq_some hl),hwhere.1.1,hwhere.1.2⟩

theorem reads_inspection (warehouseId : ℕ) (reference : Text) :
    Reads (resolveInspection warehouseId reference) fun x d => Known d x := by
  refine (reads_resolve (.inspection warehouseId reference) (fun a : Option QualityInspection => a)
    (.notFound "Quality inspection was not found") rfl).imp ?_
  rintro x d ⟨a,ha,hx⟩
  cases ha
  exact known_of_get? (Table.get?_key (List.mem_of_find?_eq_some hx))

theorem reads_quant (warehouseId : ℕ) (reference : Text) :
    Reads (resolveQuant warehouseId reference) fun _ _ => True :=
  (reads_resolve (.quant warehouseId reference) (fun a : Option StockQuant => a)
    (.notFound "Stock quant was not found") rfl).imp fun _ _ _ => trivial

theorem safe_insertInspection {row : QualityInspection} (hw : written made=[]) (hfits : LotFits d row) :
    SafeCall op made (.run (.insertInspection row) .done) d := by
  have hmade : written (Statement.insertInspection row::made)=[] := by
    rw [written_cons_false rfl,hw]
  intro d' hd
  constructor
  · intro err _
    exact .inl hw
  · intro _
    refine ⟨⟨?_,.inl hmade⟩,fun a d'' _ => Or.inl hmade⟩
    rintro row' hrow
    cases hrow
    exact hfits.later hd

theorem safe_require {p : Prop} [Decidable p] {e : HttpException} {f : Unit → Call Unit}
    (hw : written made=[]) (h : SafeCall op made (f ()) d) :
    SafeCall op made ((Program.require p e).bind f) d := by
  unfold Program.require
  split
  · exact h
  · exact Or.inl hw

theorem safe_quantIdOf {reference : Option Text} {f : Option ℕ → Call Unit}
    (hw : written made=[]) (h : ∀ id, SafeCall op made (f id) d) :
    SafeCall op made ((quantIdOf reference).bind f) d := by
  cases reference with
  | none => exact h none
  | some r =>
    cases r with
    | uuid id => exact h (some id)
    | word n => exact Or.inl hw

theorem safe_createInspection (dto : CreateQualityInspectionDto) (actor generated : ℕ)
    (hw : written made=[]) : SafeCall op made (createInspection w dto actor generated) d := by
  unfold createInspection
  refine (reads_warehouse w).safe hw fun warehouse d₁ made _ _ hw => ?_
  refine (reads_ifGiven reads_client dto.ownerClientReference).safe hw fun owner d₂ made _ _ hw => ?_
  refine (reads_ifGiven reads_sku dto.skuReference).safe hw fun sku d₃ made _ _ hw => ?_
  cases sku with
  | none =>
    refine safe_require hw (safe_quantIdOf hw fun id => safe_insertInspection hw ?_)
    intro l hl
    cases hl
  | some sku =>
    refine (reads_ifGiven (reads_lot warehouse.id sku.id) dto.lotReference).safe hw
      fun lot d₄ made _ hlot hw => ?_
    refine safe_require hw (safe_quantIdOf hw fun id => safe_insertInspection hw ?_)
    intro l hl
    obtain ⟨found,hfound,rfl⟩ := Option.map_eq_some_iff.mp hl
    obtain ⟨hget,hwarehouse,hsku⟩ := hlot found hfound
    exact ⟨found,hget,hwarehouse,congrArg some hsku.symm⟩

theorem safe_releaseQuarantine (hw : written made=[]) :
    SafeCall op made (releaseQuarantine w r) d := by
  unfold releaseQuarantine
  refine (reads_warehouse w).safe hw fun warehouse d₁ made _ _ hw => ?_
  refine (reads_quant warehouse.id r).safe hw fun quant d₂ made _ _ hw => ?_
  have hmade : written (Statement.setQuantStatus quant.id .AVAILABLE none::made)=[] := by
    rw [written_cons_false rfl,hw]
  intro d' hd
  constructor
  · intro err _
    exact .inl hw
  · intro _
    refine ⟨⟨?_,.inl hmade⟩,fun a d'' _ => Or.inl hmade⟩
    rintro row hrow
    cases hrow

/-- Statements one after the other. -/
def writeAll : List Statement → Call Unit
  | [] => .done ()
  | st::sts => .run st fun _ => writeAll sts

theorem setStock_setLot (decision : QualityDisposition) (x : QualityInspection) :
    ((setStock decision x).bind fun _ => setLot decision x)=writeAll (dispositions decision x) := by
  unfold setStock setLot dispositions
  cases decision.stockStatus <;> cases x.stockQuantId <;> cases decision.lotStatus <;>
    cases decision.lotQualityStatus <;> cases x.lotId <;> rfl

theorem dispositions_disposes {decision : QualityDisposition} {st : Statement}
    (h : st∈dispositions decision x) : st.disposes=true := by
  simp only [dispositions,List.mem_append,Option.mem_toList,Option.bind_eq_some_iff,
    Option.map_eq_some_iff] at h
  rcases h with ⟨status,_,q,_,rfl⟩|⟨status,_,qualityStatus,_,l,_,rfl⟩
  · rfl
  · rfl

theorem disposes_completes (h : st.disposes=true) : st.completes=true := by
  cases st with
  | setQuantStatus id status inspectionId =>
    cases inspectionId with
    | none => cases h
    | some x => rfl
  | setLotStatus id status qualityStatus => rfl
  | _ => cases h

theorem exec_disposes (h : st.disposes=true) (d : State) : ∃ r, exec st d=.ok r := by
  cases st with
  | setQuantStatus id status inspectionId => exact ⟨_,rfl⟩
  | setLotStatus id status qualityStatus => exact ⟨_,rfl⟩
  | _ => cases h

theorem safe_writeAll (hop : op=.completeInspection w r dto actor) (sts : List Statement)
    (hsts : ∀ st∈sts, st.disposes=true) (hx : Known d x)
    (hw : written made++sts=completionWrites dto actor x) :
    SafeCall op made (writeAll sts) d := by
  induction sts generalizing made d with
  | nil => exact Or.inr ⟨w,r,dto,actor,x,hop,hx,by simpa using hw⟩
  | cons st sts ih =>
    have hst := hsts st (by simp)
    have hmade : written (st::made)++sts=completionWrites dto actor x := by
      rw [written_cons_true (disposes_completes hst),← hw]
      simp
    intro d' hd
    constructor
    · intro err herr
      obtain ⟨r,hr⟩ := exec_disposes hst d'
      have hcontra := hr.symm.trans herr
      cases hcontra
    · intro _
      refine ⟨⟨?_,.inr ⟨w,r,dto,actor,x,hop,hx.later hd,sts,hmade⟩⟩,?_⟩
      · rintro row rfl
        cases hst
      · intro a d'' hexec
        exact ih (fun st' hst' => hsts st' (by simp [hst'])) ((hx.later hd).later (exec_later hexec))
          hmade

theorem dispositions_identity {decision : QualityDisposition} {x y : QualityInspection}
    (h : x.identity=y.identity) : dispositions decision x=dispositions decision y := by
  have hid : x.identity.id=y.identity.id := congrArg QualityInspection.id h
  have hquant : x.identity.stockQuantId=y.identity.stockQuantId :=
    congrArg QualityInspection.stockQuantId h
  have hlot : x.identity.lotId=y.identity.lotId := congrArg QualityInspection.lotId h
  change x.id=y.id at hid
  change x.stockQuantId=y.stockQuantId at hquant
  change x.lotId=y.lotId at hlot
  unfold dispositions
  rw [hid,hquant,hlot]

theorem safe_completeInspection (hop : op=.completeInspection w r dto actor) (hw : written made=[]) :
    SafeCall op made (completeInspection w r dto actor) d := by
  unfold completeInspection
  refine (reads_warehouse w).safe hw fun warehouse d₁ made _ _ hw => ?_
  refine (reads_inspection warehouse.id r).safe hw fun existing d₂ made _ hknown hw => ?_
  have hmade : written (Statement.completeInspection existing.id (completionOf dto actor)::made)=
      [.completeInspection existing.id (completionOf dto actor)] := by
    rw [written_cons_true rfl,hw]
    rfl
  intro d' hd
  constructor
  · intro err herr
    cases herr
  · intro _
    refine ⟨⟨?_,.inr ⟨w,r,dto,actor,existing,hop,hknown.later hd,?_⟩⟩,?_⟩
    · rintro row hrow
      cases hrow
    · rw [hmade]
      exact List.prefix_append _ _
    · intro a d'' hexec
      obtain ⟨row,hrow,hidentity⟩ := hknown.later hd
      have hexec : exec (.completeInspection existing.id (completionOf dto actor)) d'=
          .ok (a,d'') := hexec
      have hknown' : Known d'' existing := (hknown.later hd).later (exec_later hexec)
      have ha : a=some ((completionOf dto actor).apply row) := by
        cases hexec
        rw [hrow]
        rfl
      subst ha
      have hrest : dispositions (decideQualityDisposition dto.result)
          ((completionOf dto actor).apply row)=
            dispositions (decideQualityDisposition dto.result) existing :=
        dispositions_identity hidentity
      change SafeCall op _ ((setStock _ _).bind fun _ => setLot _ _) d''
      rw [setStock_setLot,hrest]
      refine safe_writeAll hop _ (fun st hst => dispositions_disposes hst) hknown' ?_
      rw [hmade]
      rfl

theorem safe_prog (op : Op) (d : State) : SafeCall op [] op.prog d := by
  cases op with
  | createInspection w dto actor generated => exact safe_createInspection dto actor generated rfl
  | completeInspection w x dto actor => exact safe_completeInspection rfl rfl
  | releaseQuarantine w q => exact safe_releaseQuarantine rfl

end Programs

section Runs
variable {stock : Stock} {lotQuality : ℕ → LotQualityStatus} {s s' : System} {e : Event}
  {c : Statements.Call quality Op} {i : ℕ} {st : Statement} {d : State} {x : ℕ}
  {row : QualityInspection}

abbrev GoodCall (c : Statements.Call quality Op) (d : State) : Prop :=
  c.Good semantics Later (fun _ _ st d => StatementPermitted st d) MadeWell Whole d

theorem permits : Permits (I := quality) Permitted (fun _ _ st d => StatementPermitted st d) Whole where
  statement := fun h hget hrest => h _ _ _ hget hrest
  lose := fun h hget _ => .inl (h _ hget)

theorem good_calls (h : Reaches stock lotQuality Permitted s) : ∀ c∈s.calls, GoodCall c s.state := by
  refine h.good Later.refl (fun _ _ _ => Later.trans) whole_lasting safe_prog permits
    (fun _ _ _ hstep _ => step_later hstep) ?_
  intro c hc
  cases hc

theorem made_well (h : Reaches stock lotQuality Permitted s) (hok : Permitted s (.statement i)) {next}
    (hget : s.calls[i]?=some c) (hrest : c.rest=.run st next) : MadeWell c.op c.made st s.state := by
  have hsafe := (good_calls h c (List.mem_of_getElem? hget)).safe
  rw [hrest] at hsafe
  exact ((hsafe s.state (Later.refl _)).2 (hok c st next hget hrest)).1

theorem prefixed (h : GoodCall c d) : Prefixed c.op c.made d := by
  cases hmade : c.made with
  | nil => exact .inl rfl
  | cons st before =>
    obtain ⟨d₁,hd,hwell⟩ := h.recorded st before (hmade ▸ List.suffix_refl _)
    exact hwell.prefixed.later hd

theorem mem_written {made : List Statement} (h : st∈made) (hst : st.completes=true) :
    st∈written made := by
  simp [written,h,hst]

/-- A call that has completed an inspection is the one on it: the inspection is there, and what
the call has written begins its completion. -/
theorem Prefixed.completed {op : Op} {made : List Statement} (h : Prefixed op made d) {u : Completion}
    (hmem : Statement.completeInspection x u∈made) : ∃ y dto actor, y.id=x ∧ Known d y ∧
      written made<+:completionWrites dto actor y := by
  have hw := mem_written hmem rfl
  rcases h with hnone|⟨w,r,dto,actor,y,_,hy,hpart⟩
  · rw [hnone] at hw
    cases hw
  · refine ⟨y,dto,actor,?_,hy,hpart⟩
    rcases List.mem_cons.mp (hpart.subset hw) with hhead|htail
    · cases hhead
      rfl
    · have hcontra := dispositions_disposes htail
      cases hcontra

theorem mem_dispositions {decision : QualityDisposition} {y : QualityInspection}
    (h : st∈dispositions decision y) :
    (∃ q status, st=.setQuantStatus q status (some y.id) ∧ y.stockQuantId=some q) ∨
      ∃ l status qualityStatus, st=.setLotStatus l status qualityStatus ∧ y.lotId=some l := by
  simp only [dispositions,List.mem_append,Option.mem_toList,Option.bind_eq_some_iff,
    Option.map_eq_some_iff] at h
  rcases h with ⟨status,_,q,hq,rfl⟩|⟨status,_,qualityStatus,_,l,hl,rfl⟩
  · exact .inl ⟨q,status,rfl,hq⟩
  · exact .inr ⟨l,status,qualityStatus,rfl,hl⟩

theorem disposed_among {made : List Statement} {y : QualityInspection}
    {dto : CompleteQualityInspectionDto} {actor : ℕ}
    (h : written made<+:completionWrites dto actor y) (hmem : st∈made) (hst : st.disposes=true) :
    st∈dispositions (decideQualityDisposition dto.result) y := by
  rcases List.mem_cons.mp (h.subset (mem_written hmem (disposes_completes hst))) with rfl|htail
  · cases hst
  · exact htail

/-- The lots of the inspections fit, completed inspections are not open, and two calls complete one
inspection only if it names nothing. -/
structure Inv (s : System) : Prop where
  lots : ∀ id row, s.state.inspections.get? id=some row → LotFits s.state row
  closed : ∀ c∈s.calls, ∀ x, Completed c x →
    ∃ row, s.state.inspections.get? x=some row ∧ row.status≠.OPEN
  apart : ∀ (i j : ℕ) (c c' : Statements.Call quality Op), i≠j → s.calls[i]?=some c →
    s.calls[j]?=some c' → ∀ x, Completed c x → Completed c' x →
      ∃ row, s.state.inspections.get? x=some row ∧ row.stockQuantId=none ∧ row.lotId=none

theorem LotFits.identity {y : QualityInspection} (h : LotFits d row) (hy : y.identity=row.identity) :
    LotFits d y := by
  have hwarehouse : y.identity.warehouseId=row.identity.warehouseId :=
    congrArg QualityInspection.warehouseId hy
  have hsku : y.identity.skuId=row.identity.skuId := congrArg QualityInspection.skuId hy
  have hlot : y.identity.lotId=row.identity.lotId := congrArg QualityInspection.lotId hy
  change y.warehouseId=row.warehouseId at hwarehouse
  change y.skuId=row.skuId at hsku
  change y.lotId=row.lotId at hlot
  unfold LotFits
  rw [hwarehouse,hsku,hlot]
  exact h

theorem names_nothing {y : QualityInspection} (hy : y.identity=row.identity)
    (h : row.stockQuantId=none ∧ row.lotId=none) : y.stockQuantId=none ∧ y.lotId=none := by
  have hquant : y.identity.stockQuantId=row.identity.stockQuantId :=
    congrArg QualityInspection.stockQuantId hy
  have hlot : y.identity.lotId=row.identity.lotId := congrArg QualityInspection.lotId hy
  exact ⟨hquant.trans h.1,hlot.trans h.2⟩

theorem Inv.later (h : Inv s) (hd : Later s.state d)
    (hlots : ∀ id row, d.inspections.get? id=some row → LotFits d row)
    {calls : List (Statements.Call quality Op)}
    (hcalls : ∀ (j : ℕ) (c : Statements.Call quality Op), calls[j]?=some c → ∀ x, Completed c x →
      ∃ c', s.calls[j]?=some c' ∧ Completed c' x) : Inv ⟨d,calls⟩ := by
  refine ⟨hlots,?_,?_⟩
  · intro c hc x hx
    obtain ⟨j,hj⟩ := List.mem_iff_getElem?.mp hc
    obtain ⟨c',hc',hx'⟩ := hcalls j c hj x hx
    obtain ⟨row,hrow,hopen⟩ := h.closed c' (List.mem_of_getElem? hc') x hx'
    obtain ⟨row',hrow',_,hopen'⟩ := hd.inspections x row hrow
    exact ⟨row',hrow',hopen' hopen⟩
  · intro i j c c' hij hc hc' x hx hx'
    obtain ⟨c₁,hc₁,hx₁⟩ := hcalls i c hc x hx
    obtain ⟨c₂,hc₂,hx₂⟩ := hcalls j c' hc' x hx'
    obtain ⟨row,hrow,hnone⟩ := h.apart i j c₁ c₂ hij hc₁ hc₂ x hx₁ hx₂
    obtain ⟨row',hrow',hidentity,_⟩ := hd.inspections x row hrow
    exact ⟨row',hrow',names_nothing hidentity hnone⟩

/-- The inspections of a later state are those of the earlier one, but for one that a statement
inserts. -/
theorem lots_exec {a : st.Answer} {d' : State} (h : exec st d=.ok (a,d'))
    (hlots : ∀ id row, d.inspections.get? id=some row → LotFits d row)
    (hinsert : ∀ row, st=.insertInspection row → LotFits d row) :
    ∀ id row, d'.inspections.get? id=some row → LotFits d' row := by
  have hlater := exec_later h
  cases st with
  | insertInspection new =>
    rw [exec_insertInspection] at h
    split at h
    · cases h
      intro id row hrow
      change (d.inspections.insert new).get? id=some row at hrow
      rw [Table.get?_insert] at hrow
      split at hrow
      · rename_i hid
        rename_i hfree
        subst hid
        rw [hfree.1] at hrow
        cases hrow
        exact (hinsert new rfl).later hlater
      · exact (hlots id row hrow).later hlater
    · cases h
  | completeInspection id completion =>
    cases h
    intro i row hrow
    change (d.inspections.modify id completion.apply completion.apply_id).get? i=some row at hrow
    rw [Table.get?_modify] at hrow
    split at hrow
    · obtain ⟨old,hold,rfl⟩ := Option.map_eq_some_iff.mp hrow
      exact ((hlots i old hold).later hlater).identity rfl
    · exact (hlots i row hrow).later hlater
  | setQuantStatus id status inspectionId =>
    cases h
    exact fun id row hrow => (hlots id row hrow).later hlater
  | setLotStatus id status qualityStatus =>
    cases h
    exact fun id row hrow => (hlots id row hrow).later hlater
  | _ =>
    cases h
    exact hlots

theorem completed_set {calls : List (Statements.Call quality Op)} {c' : Statements.Call quality Op}
    (hget : calls[i]?=some c) (hmade : ∀ x u, Statement.completeInspection x u∈c'.made →
      Statement.completeInspection x u∈c.made) :
    ∀ (j : ℕ) (y : Statements.Call quality Op), (calls.set i c')[j]?=some y → ∀ x, Completed y x →
      ∃ y', calls[j]?=some y' ∧ Completed y' x := by
  intro j y hy x hx
  rcases Histories.getElem?_set_cases hy with ⟨rfl,rfl⟩|⟨_,hold⟩
  · obtain ⟨u,hu⟩ := hx
    exact ⟨c,hget,u,hmade x u hu⟩
  · exact ⟨y,hold,hx⟩

theorem Inv.complete (h : Inv s) {u : Completion} {next} (hget : s.calls[i]?=some c)
    (hrow : s.state.inspections.get? x=some row) (hopen : row.status=.OPEN ∨
      row.stockQuantId=none ∧ row.lotId=none) (hexec : exec (.completeInspection x u) s.state=
        .ok (some (u.apply row),d)) (hlots : ∀ id row, d.inspections.get? id=some row → LotFits d row) :
    Inv ⟨d,s.calls.set i ⟨c.op,next,.completeInspection x u::c.made⟩⟩ := by
  have hlater : Later s.state d := exec_later hexec
  have hrow' : d.inspections.get? x=some (u.apply row) := by
    rw [exec_completeInspection] at hexec
    obtain ⟨_,rfl⟩ := Prod.mk.inj (Except.ok.inj hexec)
    rw [Table.get?_modify_self,hrow]
    rfl
  -- whoever else has completed the inspection, it is closed, and so it names nothing
  have hother : ∀ c'∈s.calls, Completed c' x → row.stockQuantId=none ∧ row.lotId=none := by
    intro c' hc' hx
    obtain ⟨row₁,hrow₁,hclosed⟩ := h.closed c' hc' x hx
    obtain rfl : row=row₁ := Option.some.inj (hrow.symm.trans hrow₁)
    exact hopen.resolve_left hclosed
  refine ⟨hlots,?_,?_⟩
  · intro y hy z hz
    rcases List.mem_or_eq_of_mem_set hy with hy|rfl
    · obtain ⟨r,hr,hclosed⟩ := h.closed y hy z hz
      obtain ⟨r',hr',_,hclosed'⟩ := hlater.inspections z r hr
      exact ⟨r',hr',hclosed' hclosed⟩
    · obtain ⟨v,hv⟩ := hz
      rcases List.mem_cons.mp hv with hsame|hv
      · cases hsame
        exact ⟨_,hrow',u.closed⟩
      · obtain ⟨r,hr,hclosed⟩ := h.closed c (List.mem_of_getElem? hget) z ⟨v,hv⟩
        obtain ⟨r',hr',_,hclosed'⟩ := hlater.inspections z r hr
        exact ⟨r',hr',hclosed' hclosed⟩
  · have hboth : ∀ (j k : ℕ) (y y' : Statements.Call quality Op), j≠k → s.calls[j]?=some y →
        s.calls[k]?=some y' → ∀ z, Completed y z → Completed y' z →
          ∃ r, d.inspections.get? z=some r ∧ r.stockQuantId=none ∧ r.lotId=none := by
      intro j k y y' hjk hy hy' z hz hz'
      obtain ⟨r,hr,hnone⟩ := h.apart j k y y' hjk hy hy' z hz hz'
      obtain ⟨r',hr',hidentity,_⟩ := hlater.inspections z r hr
      exact ⟨r',hr',names_nothing hidentity hnone⟩
    -- the new completion beside an older one
    have hnew : ∀ (k : ℕ) (y' : Statements.Call quality Op), i≠k → s.calls[k]?=some y' → ∀ z,
        Completed ⟨c.op,next,.completeInspection x u::c.made⟩ z → Completed y' z →
          ∃ r, d.inspections.get? z=some r ∧ r.stockQuantId=none ∧ r.lotId=none := by
      intro k y' hik hy' z hz hz'
      obtain ⟨v,hv⟩ := hz
      rcases List.mem_cons.mp hv with hsame|hv
      · cases hsame
        exact ⟨_,hrow',hother y' (List.mem_of_getElem? hy') hz'⟩
      · exact hboth i k c y' hik hget hy' z ⟨v,hv⟩ hz'
    intro j k y y' hjk hy hy' z hz hz'
    rcases Histories.getElem?_set_cases hy with ⟨rfl,rfl⟩|⟨_,hj⟩ <;>
      rcases Histories.getElem?_set_cases hy' with ⟨rfl,rfl⟩|⟨_,hk⟩
    · exact (hjk rfl).elim
    · exact hnew k y' hjk hk z hz hz'
    · exact hnew j y (Ne.symm hjk) hj z hz' hz
    · exact hboth j k y y' hjk hj hk z hz hz'

theorem inv_step (h : Reaches stock lotQuality Permitted s) (hinv : Inv s) (hstep : Step s e s')
    (hok : Permitted s e) : Inv s' := by
  have hlater := step_later hstep
  have hsame : ∀ id row, s.state.inspections.get? id=some row → LotFits s.state row := hinv.lots
  cases hstep with
  | begin op =>
    refine hinv.later (Later.refl _) hsame ?_
    intro j y hy x hx
    rw [List.getElem?_append] at hy
    split at hy
    · exact ⟨y,hy,hx⟩
    · have hnew := List.mem_singleton.mp (List.mem_of_getElem? hy)
      subst hnew
      obtain ⟨u,hu⟩ := hx
      cases hu
  | @statement c st next a d i hget hrest hready hexec =>
    have hwell := made_well h hok hget hrest
    have hexec : exec st s.state=.ok (a,d) := hexec
    have hlots := lots_exec hexec hinv.lots hwell.lot
    cases st with
    | completeInspection x u =>
      obtain ⟨y,dto,actor,rfl,⟨row,hrow,_⟩,_⟩ := hwell.prefixed.completed (List.mem_cons_self ..)
      have hopen := hok c _ next hget hrest row hrow
      have ha : a=some (u.apply row) := by
        cases hexec
        rw [hrow]
        rfl
      subst ha
      exact hinv.complete hget hrow hopen hexec hlots
    | _ =>
      refine hinv.later hlater hlots (completed_set hget ?_)
      intro x u hu
      rcases List.mem_cons.mp hu with hcontra|hu
      · cases hcontra
      · exact hu
  | fails i hget hrest hready hexec =>
    exact hinv.later (Later.refl _) hsame (completed_set hget fun _ _ hu => hu)
  | lose i err hget hrest =>
    exact hinv.later (Later.refl _) hsame (completed_set hget fun _ _ hu => hu)
  | outside hout =>
    refine hinv.later hlater ?_ fun j y hy x hx => ⟨y,hy,hx⟩
    obtain ⟨stock,_,rfl⟩ := hout
    exact fun id row hrow => (hinv.lots id row hrow).later hlater

theorem inv_reached (h : Reaches stock lotQuality Permitted s) : Inv s := by
  induction h with
  | start =>
    refine ⟨?_,?_,?_⟩
    · intro id row hrow
      cases hrow
    · intro c hc
      cases hc
    · intro i j c c' _ hc
      cases hc
  | step h hstep hok ih => exact inv_step h ih hstep hok

theorem completionWrites_nodup (dto : CompleteQualityInspectionDto) (actor : ℕ) (y : QualityInspection) :
    (completionWrites dto actor y).Nodup := by
  unfold completionWrites dispositions
  cases dto.result <;> cases y.stockQuantId <;> cases y.lotId <;>
    simp [decideQualityDisposition]

theorem law_reached (h : Reaches stock lotQuality Permitted s) : Law s := by
  have hinv := inv_reached h
  have hgood := good_calls h
  refine ⟨?_,?_,?_⟩
  · intro i j c c' x hc hc' hx hx'
    by_contra hij
    obtain ⟨row,hrow,hquant,hlot⟩ := hinv.apart i j c c' hij hc hc' x hx.1 hx'.1
    obtain ⟨⟨u,hu⟩,st,hst,hdisposes⟩ := hx
    have hparted := prefixed (hgood c (List.mem_of_getElem? hc))
    obtain ⟨y,dto,actor,rfl,⟨row₁,hrow₁,hidentity⟩,hpart⟩ := hparted.completed hu
    obtain rfl : row=row₁ := Option.some.inj (hrow.symm.trans hrow₁)
    have hnone := names_nothing hidentity.symm ⟨hquant,hlot⟩
    rcases mem_dispositions (disposed_among hpart hst hdisposes) with
      ⟨q,_,_,hq⟩|⟨l,_,_,_,hl⟩
    · rw [hnone.1] at hq
      cases hq
    · rw [hnone.2] at hl
      cases hl
  · intro c hc
    rcases prefixed (hgood c hc) with hnone|⟨w,r,dto,actor,y,_,_,hpart⟩
    · rw [hnone]
      exact List.nodup_nil
    · exact (completionWrites_nodup dto actor y).sublist hpart.sublist
  · intro c hc hended w r dto actor hop
    rcases (hgood c hc).ended hended with hnone|⟨w',r',dto',actor',y,hop',hy,hwritten⟩
    · exact .inl hnone
    · rw [hop] at hop'
      cases hop'
      exact .inr ⟨y,hy,hwritten⟩

theorem reserved_exec {a : st.Answer} {d' : State} (h : exec st d=.ok (a,d'))
    (hok : StatementPermitted st d) (id : ℕ) (q : StockQuant) (hq : d.quants.get? id=some q)
    (havailable : q.status=.AVAILABLE) (hreserved : Reserved d id) :
    ∃ q', d'.quants.get? id=some q' ∧ q'.status=.AVAILABLE := by
  cases st with
  | insertInspection row =>
    rw [exec_insertInspection] at h
    split at h
    · cases h
      exact ⟨q,hq,havailable⟩
    · cases h
  | setQuantStatus target status inspectionId =>
    cases h
    rw [quants_withQuants,Table.get?_modify]
    split
    · rename_i hid
      subst hid
      refine ⟨setStatus status q,by rw [hq]; rfl,?_⟩
      exact (hok q hq).1 havailable hreserved
    · exact ⟨q,hq,havailable⟩
  | completeInspection x u =>
    cases h
    exact ⟨q,hq,havailable⟩
  | setLotStatus l status qualityStatus =>
    cases h
    exact ⟨q,hq,havailable⟩
  | _ =>
    cases h
    exact ⟨q,hq,havailable⟩

theorem stepLaw_reached (h : Reaches stock lotQuality Permitted s) (hstep : Step s e s')
    (hok : Permitted s e) : StepLaw s e s' := by
  refine ⟨?_,?_,?_⟩
  · intro id q hq havailable hreserved
    cases hstep with
    | begin op => exact ⟨q,hq,havailable⟩
    | statement i hget hrest hready hexec =>
      exact reserved_exec hexec (hok _ _ _ hget hrest) id q hq havailable hreserved
    | fails i hget hrest hready hexec => exact ⟨q,hq,havailable⟩
    | lose i err hget hrest => exact ⟨q,hq,havailable⟩
    | outside hout =>
      obtain ⟨q',hq',hstatus⟩ := (beside_keeps hout).2 id q hq
      exact ⟨q',hq',hstatus.trans havailable⟩
  · rintro i c id status x next rfl hget hrest q row hq hrow
    exact (hok c _ next hget hrest q hq).2 x row rfl hrow
  · rintro i c id status qualityStatus x next rfl hget hrest ⟨u,hu⟩ l row hl hrow
    have hwell := made_well h hok hget hrest
    obtain ⟨y,dto,actor,rfl,⟨row₁,hrow₁,hidentity⟩,hpart⟩ :=
      hwell.prefixed.completed (List.mem_cons_of_mem _ hu)
    obtain rfl : row=row₁ := Option.some.inj (hrow.symm.trans hrow₁)
    rcases mem_dispositions (disposed_among hpart (List.mem_cons_self ..) rfl) with
      ⟨_,_,hcontra,_⟩|⟨l₁,_,_,hsame,hlot⟩
    · cases hcontra
    · cases hsame
      have hfits := ((inv_reached h).lots y.id row hrow).identity hidentity.symm
      obtain ⟨l₂,hl₂,hwarehouse,hsku⟩ := hfits id hlot
      obtain rfl : l=l₂ := Option.some.inj (hl.symm.trans hl₂)
      have hw : y.identity.warehouseId=row.identity.warehouseId :=
        congrArg QualityInspection.warehouseId hidentity.symm
      have hs : y.identity.skuId=row.identity.skuId :=
        congrArg QualityInspection.skuId hidentity.symm
      refine ⟨hwarehouse.trans hw,?_⟩
      intro k hk
      exact Option.some.inj ((hsku.symm.trans hs).trans hk)

end Runs

section Result

/-- In every run of permitted steps the dispositions keep the law. -/
theorem dispositions_respect_stock {stock : Stock} {lotQuality : ℕ → LotQualityStatus} {s : System}
    (h : Reaches stock lotQuality Permitted s) :
    Law s ∧ ∀ e s', Step s e s' → Permitted s e → StepLaw s e s' :=
  ⟨law_reached h,fun _ _ hstep hok => stepLaw_reached h hstep hok⟩

/-- The next statement of a call. -/
def advance (s : System) (i : ℕ) : System :=
  match s.calls[i]? with
  | none => s
  | some c =>
    match c.rest with
    | .run st next =>
      match exec st s.state with
      | .ok (a,d) => ⟨d,s.calls.set i ⟨c.op,next a,st::c.made⟩⟩
      | .error e => ⟨s.state,s.calls.set i ⟨c.op,.refuse e,c.made⟩⟩
    | _ => s

def begin (s : System) (op : Op) : System := ⟨s.state,s.calls++[⟨op,op.prog,[]⟩]⟩

/-- No transaction runs, and the quants keep their CHECK constraints. -/
structure Quiet (d : State) : Prop where
  idle : ∀ i, d.stock.session i=none
  checked : ∀ q∈d.quants.rows, TableName.check (t := .stockQuants) q=true

variable {s : System} {d d' : State} {st : Statement} {ok : System → Event → Prop} {stock : Stock}
  {lotQuality : ℕ → LotQualityStatus}

theorem Quiet.ready (h : Quiet d) (st : Statement) : Ready st d := by
  have hfree : ∀ t id, d.Unlocked t id := by
    intro t id i s hs
    rw [h.idle i] at hs
    cases hs
  cases st with
  | setQuantStatus id status inspectionId =>
    exact ⟨hfree _ _,fun q hq => h.checked q (Table.mem_of_get? hq).1⟩
  | setLotStatus id status qualityStatus => exact hfree _ _
  | _ => trivial

theorem Quiet.exec (h : Quiet d) {a : st.Answer} (hexec : Quality.exec st d=.ok (a,d')) : Quiet d' := by
  cases st with
  | insertInspection row =>
    rw [exec_insertInspection] at hexec
    split at hexec
    · cases hexec
      exact ⟨h.idle,h.checked⟩
    · cases hexec
  | setQuantStatus id status inspectionId =>
    cases hexec
    refine ⟨h.idle,?_⟩
    intro q hq
    change q∈(d.quants.modify id (setStatus status) (setStatus_id status)).rows at hq
    rw [Table.rows_modify] at hq
    obtain ⟨x,hx,rfl⟩ := List.mem_map.mp hq
    split
    · exact h.checked x hx
    · exact h.checked x hx
  | completeInspection x u =>
    cases hexec
    exact ⟨h.idle,h.checked⟩
  | setLotStatus l status qualityStatus =>
    cases hexec
    exact ⟨h.idle,h.checked⟩
  | _ =>
    cases hexec
    exact h

/-- What the calls reach without transactions beside them. -/
structure Reached (stock : Stock) (lotQuality : ℕ → LotQualityStatus) (ok : System → Event → Prop)
    (s : System) : Prop where
  run : Reaches stock lotQuality ok s
  quiet : Quiet s.state

theorem Reached.begin (h : Reached stock lotQuality ok s) (op : Op) (hok : ok s (.begin op)) :
    Reached stock lotQuality ok (begin s op) :=
  ⟨h.run.step (.begin op) hok,h.quiet⟩

theorem step_advance (hs : Quiet s.state) {i : ℕ} {c : Statements.Call quality Op} {next}
    (hget : s.calls[i]?=some c) (hrest : c.rest=.run st next) : Step s (.statement i) (advance s i) := by
  unfold advance
  rw [hget]
  dsimp only
  rw [hrest]
  dsimp only
  cases hexec : exec st s.state with
  | error e => exact .fails i hget hrest (hs.ready st) hexec
  | ok r => exact .statement i hget hrest (hs.ready st) hexec

theorem Reached.advance (h : Reached stock lotQuality ok s) (i : ℕ) (hok : ok s (.statement i)) :
    Reached stock lotQuality ok (advance s i) := by
  cases hget : s.calls[i]? with
  | none =>
    have hsame : Quality.advance s i=s := by simp [Quality.advance,hget]
    rw [hsame]
    exact h
  | some c =>
    cases hrest : c.rest with
    | done a =>
      have hsame : Quality.advance s i=s := by simp [Quality.advance,hget,hrest]
      rw [hsame]
      exact h
    | refuse e =>
      have hsame : Quality.advance s i=s := by simp [Quality.advance,hget,hrest]
      rw [hsame]
      exact h
    | run st next =>
      refine ⟨h.run.step (step_advance h.quiet hget hrest) hok,?_⟩
      unfold Quality.advance
      rw [hget]
      dsimp only
      rw [hrest]
      dsimp only
      cases hexec : Quality.exec st s.state with
      | error e => exact h.quiet
      | ok r => exact h.quiet.exec hexec

/-- Five of ten are reserved; a second quant is not. -/
def shelf : Stock := .idle (after
  [.insert .warehouses ⟨1,.word 1⟩,.insert .skus ⟨1,.word 7,none,⟨false,false,false⟩⟩,
   .insert .stockQuants ⟨1,1,1,1,none,none,none,none,none,10,5,.AVAILABLE,1,0⟩,
   .insert .stockQuants ⟨2,1,1,1,none,none,none,none,none,10,0,.AVAILABLE,1,0⟩,
   .insert .reservations ⟨1,1,none,none,1,1,5,.ACTIVE⟩] emptyDb)

def inspect (quantId : ℕ) : Op :=
  .createInspection (.word 1)
    {inspectionNumber := .word 3, skuReference := some (.word 7),
     stockQuantId := some (.uuid quantId)} 9 1

def complete (result : QualityInspectionResult) : Op :=
  .completeInspection (.word 1) (.word 3) {result} 9

/-- Each call after the other, with as many statements as it has. -/
def serially (ops : List (Op × ℕ)) : System :=
  ops.zipIdx.foldl (fun s op => (List.replicate op.1.2 op.2).foldl advance (begin s op.1.1))
    (System.initial shelf fun _ => .RELEASED)

theorem reached_advances (h : Reached stock lotQuality (fun _ _ => True) s) (is : List ℕ) :
    Reached stock lotQuality (fun _ _ => True) (is.foldl advance s) := by
  induction is generalizing s with
  | nil => exact h
  | cons i is ih => exact ih (h.advance i trivial)

theorem quiet_shelf : Quiet (System.initial shelf fun _ => .RELEASED).state :=
  ⟨fun _ => rfl,by decide⟩

theorem reached_serially (ops : List (Op × ℕ)) :
    Reached shelf (fun _ => .RELEASED) (fun _ _ => True) (serially ops) := by
  have hfold : ∀ (ops : List ((Op × ℕ) × ℕ)) (s : System),
      Reached shelf (fun _ => .RELEASED) (fun _ _ => True) s →
        Reached shelf (fun _ => .RELEASED) (fun _ _ => True) (ops.foldl
          (fun s op => (List.replicate op.1.2 op.2).foldl advance (begin s op.1.1)) s) := by
    intro ops
    induction ops with
    | nil => exact fun _ h => h
    | cons op ops ih => exact fun s h => ih _ (reached_advances (h.begin _ trivial) _)
  exact hfold _ _ ⟨.start,quiet_shelf⟩

theorem permitted_statement {i : ℕ} {c : Statements.Call quality Op} {next} (hget : s.calls[i]?=some c)
    (hrest : c.rest=.run st next) (hok : StatementPermitted st s.state) :
    Permitted s (.statement i) := by
  intro c' st' next' hget' hrest'
  obtain rfl : c=c' := Option.some.inj (hget.symm.trans hget')
  rw [hrest] at hrest'
  cases hrest'
  exact hok

/-- A failed inspection of the quant without reservations. -/
theorem dispositions_respect_stock_demo : ∃ s, Reaches shelf (fun _ => .RELEASED) Permitted s ∧
    (∃ q, s.state.quants.get? 2=some q ∧ q.status=.DAMAGED) ∧ Law s := by
  have h₀ : Reached shelf (fun _ => .RELEASED) Permitted (begin (System.initial shelf _) (inspect 2)) :=
    Reached.begin ⟨.start,quiet_shelf⟩ _ trivial
  have h₁ := h₀.advance 0 (permitted_statement rfl rfl trivial)
  have h₂ := h₁.advance 0 (permitted_statement rfl rfl trivial)
  have h₃ := h₂.advance 0 (permitted_statement rfl rfl trivial)
  have h₄ := h₃.begin (complete .FAIL) trivial
  have h₅ := h₄.advance 1 (permitted_statement rfl rfl trivial)
  have h₆ := h₅.advance 1 (permitted_statement rfl rfl trivial)
  have hopen : StatementPermitted (.completeInspection 1 (completionOf {result := .FAIL} 9))
      (advance (advance (begin (advance (advance (advance (begin (System.initial shelf fun _ =>
        .RELEASED) (inspect 2)) 0) 0) 0) (complete .FAIL)) 1) 1).state := by
    intro x hx
    cases hx
    exact .inl rfl
  have h₇ := h₆.advance 1 (permitted_statement rfl rfl hopen)
  have hdispose : StatementPermitted (.setQuantStatus 2 .DAMAGED (some 1))
      (advance (advance (advance (begin (advance (advance (advance (begin (System.initial shelf
        fun _ => .RELEASED) (inspect 2)) 0) 0) 0) (complete .FAIL)) 1) 1) 1).state := by
    intro q hq
    cases hq
    constructor
    · rintro - ⟨r,hr,hquant,-⟩
      cases List.mem_singleton.mp hr
      cases hquant
    · intro x row hx hrow
      cases hx
      cases hrow
      exact ⟨rfl,by rintro k ⟨⟩; rfl⟩
  have h₈ := h₇.advance 1 (permitted_statement rfl rfl hdispose)
  exact ⟨_,h₈.run,⟨_,rfl,rfl⟩,(dispositions_respect_stock h₈.run).1⟩

/-- A failed inspection makes a quant with active reservations unavailable; and an inspection may be
completed again, with another result. -/
theorem disposition_ignores_reservations :
    (∃ s e s', Reaches shelf (fun _ => .RELEASED) (fun _ _ => True) s ∧ Step s e s' ∧
      ¬StepLaw s e s') ∧
    ∃ s, Reaches shelf (fun _ => .RELEASED) (fun _ _ => True) s ∧ ¬Law s := by
  constructor
  · have hreached := reached_serially [(inspect 1,3),(complete .FAIL,3)]
    refine ⟨_,.statement 1,_,hreached.run,step_advance hreached.quiet (i := 1) rfl rfl,?_⟩
    intro hlaw
    obtain ⟨q,hq,hstatus⟩ := hlaw.reserved 1 _ rfl rfl ⟨_,List.mem_singleton.mpr rfl,rfl,rfl⟩
    cases hq
    cases hstatus
  · refine ⟨_,(reached_serially [(inspect 2,3),(complete .FAIL,4),(complete .PASS,4)]).run,?_⟩
    intro hlaw
    have hsame := hlaw.once 1 2 _ _ 1 rfl rfl 
      ⟨⟨_,List.mem_cons_of_mem _ (List.mem_cons_self ..)⟩,_,List.mem_cons_self ..,rfl⟩
      ⟨⟨_,List.mem_cons_of_mem _ (List.mem_cons_self ..)⟩,_,List.mem_cons_self ..,rfl⟩
    cases hsame

end Result
end AardvarkWms.Quality
