import AardvarkWms.Calls
import AardvarkWms.Holdings
import AardvarkWms.Outcomes

/-! Is allocation exact, and does it stay with the client that owns the order? -/
namespace AardvarkWms

open Transactions Transactions.Txn Relational

/-- What the active reservations of a line hold. -/
def lineHeld (v : WmsDb) (lineId : ℕ) : ℤ :=
  activeQuantity ((v .reservations).rows.filter (activeReservationsOfLine lineId))

/-- What a line has been picked and what is reserved for it. -/
def OutboundOrderLine.committed (l : OutboundOrderLine) (v : WmsDb) : ℤ :=
  l.pickedQuantity+lineHeld v l.id

/-- The order that a request names. -/
def namedOrder (d : WmsDb) (warehouse reference : Text) : Option OutboundOrder :=
  ((d .warehouses).rows.find? fun w => warehouse.names w.id w.code).bind fun w =>
    (d .outboundOrders).rows.find? fun o =>
      o.warehouseId=w.id && reference.names o.id o.orderNumber

def orderLines (d : WmsDb) (orderId : ℕ) : List OutboundOrderLine :=
  (d .outboundOrderLines).rows.filter (·.orderId=orderId)

/-- The client that a quant is linked to. -/
def quantOwner (d : WmsDb) (warehouseId quantId : ℕ) : Option ℕ :=
  ((d .clientResourceLinks).get? (warehouseId,.STOCK_QUANT,quantId)).map (·.clientId)

/-- Nobody gets or loses a quant, and the clients and warehouses stay. -/
structure SameOwners (d d' : WmsDb) : Prop where
  warehouses : d' .warehouses=d .warehouses
  clients : d' .wmsClients=d .wmsClients
  quants : ∀ w id, quantOwner d' w id=quantOwner d w id

/-- A statement that touches neither these nor the links of quants. -/
def KeepsOwners (w : Statement wms) : Prop := ∀ d, SameOwners d (apply w d)

theorem SameOwners.refl (d : WmsDb) : SameOwners d d :=
  ⟨rfl,rfl,fun _ _ => rfl⟩

theorem SameOwners.trans {d d' d'' : WmsDb} (h : SameOwners d d') (h' : SameOwners d' d'') :
    SameOwners d d'' :=
  ⟨h'.warehouses.trans h.warehouses,h'.clients.trans h.clients,
    fun w id => (h'.quants w id).trans (h.quants w id)⟩

theorem keepsOwners_of_table {w : Statement wms} (hw : w.table≠.warehouses)
    (hc : w.table≠.wmsClients) (hl : w.table≠.clientResourceLinks) : KeepsOwners w := by
  intro d
  have hother : ∀ t : TableName, w.table≠t → apply w d t=d t := by
    intro t ht
    cases w with
    | insert t' r => exact apply_insert_ne _ _ (Ne.symm ht)
    | update t' id p => exact apply_update_ne _ _ _ (Ne.symm ht)
  exact ⟨hother _ hw,hother _ hc,fun _ _ => by simp [quantOwner,hother _ hl]⟩

theorem keepsOwners_link {w id : ℕ} {type : ResourceType} (clientId : ℕ) (h : type≠.STOCK_QUANT) :
    KeepsOwners (.insert (D := wms) .clientResourceLinks ⟨w,type,id,clientId⟩) := by
  intro d
  refine ⟨by simp,by simp,fun w' id' => ?_⟩
  have hne : (w',ResourceType.STOCK_QUANT,id')≠(w,type,id) := by
    intro he
    exact h (Prod.mk.inj (Prod.mk.inj he).2).1.symm
  simp only [quantOwner,apply_insert_self]
  rw [Table.get?_insert_ne _ (r := (⟨w,type,id,clientId⟩ : ClientResourceLink)) hne]

theorem keepsOwners_relink {w id : ℕ} {type : ResourceType} (clientId : ℕ)
    (h : type≠.STOCK_QUANT) :
    KeepsOwners (.update (D := wms) .clientResourceLinks (w,type,id) clientId) := by
  intro d
  refine ⟨by simp,by simp,fun w' id' => ?_⟩
  have hne : (w',ResourceType.STOCK_QUANT,id')≠(w,type,id) := by
    intro he
    exact h (Prod.mk.inj (Prod.mk.inj he).2).1.symm
  simp only [quantOwner,apply_update_self]
  rw [Table.get?_modify_ne _ _ _ hne]

theorem keepsOwners_linkResource (warehouseId clientId : ℕ) {type : ResourceType}
    (h : type≠.STOCK_QUANT) (id : Option ℕ) :
    Only KeepsOwners (linkResourceToResolvedClient warehouseId clientId (type,id)) := by
  cases id with
  | none => exact only_done _
  | some id =>
    refine Only.bind ?_ fun _ => ?_
    · refine (only_find (D := wms) _ _).bind fun old => ?_
      cases old with
      | none => exact only_insert (D := wms) (keepsOwners_link clientId h)
      | some o =>
        refine (only_require _ _).bind fun _ => ?_
        exact (only_update (D := wms) _ _ _).mpr (keepsOwners_relink clientId h)
    · refine Only.ite (fun _ => ?_) (fun _ => only_done _)
      refine Only.bind ?_ fun _ => ?_
      · cases type <;> trivial
      · refine (only_find (D := wms) _ _).bind fun old => ?_
        cases old with
        | none =>
          exact only_insert (D := wms) (keepsOwners_of_table (by simp [Statement.table])
            (by simp [Statement.table]) (by simp [Statement.table]))
        | some o =>
          exact (only_update (D := wms) _ _ _).mpr
            (keepsOwners_of_table (by simp [Statement.table]) (by simp [Statement.table])
              (by simp [Statement.table]))

theorem keepsOwners_reserveStockQuant (q : StockQuant) (n : ℤ) (operation verb : String) :
    Only KeepsOwners (reserveStockQuant q n operation verb) := by
  refine Only.bind ?_ fun locked => ?_
  · refine (only_lockRow (D := wms) _ _).bind fun _ => ?_
    exact (only_findWhere (D := wms) _ _ _).bind fun _ => only_demand _ _
  · refine (only_assertNoBlockingStockFreeze _).bind fun _ => (only_require _ _).bind fun _ => ?_
    exact (only_update (D := wms) _ _ _).mpr
      (keepsOwners_of_table (by simp [Statement.table]) (by simp [Statement.table])
              (by simp [Statement.table]))

theorem keepsOwners_allocateQuant (warehouseId : ℕ) (order : OutboundOrder)
    (line : OutboundOrderLine) (q : StockQuant) (n : ℤ) (owner : Option WmsClient) :
    Only KeepsOwners (allocateQuant warehouseId order line q n owner) := by
  have hinsert : ∀ {t : TableName} (r : t.Row), t≠.warehouses → t≠.wmsClients →
      t≠.clientResourceLinks → Only KeepsOwners (insert (D := wms) t r) := by
    intro t r hw hc hl
    exact only_insert (D := wms) (keepsOwners_of_table hw hc hl)
  refine (keepsOwners_reserveStockQuant _ _ _ _).bind fun _ => ?_
  refine Only.bind ?_ fun reservation => Only.bind ?_ fun task => Only.bind ?_ fun movement => ?_
  · exact only_fresh.bind fun _ => (hinsert _ (by simp) (by simp) (by simp)).bind fun _ => only_done _
  · exact only_fresh.bind fun _ => (hinsert _ (by simp) (by simp) (by simp)).bind fun _ => only_done _
  · exact only_fresh.bind fun _ => (hinsert _ (by simp) (by simp) (by simp)).bind fun _ => only_done _
  · cases owner with
    | none => exact only_done _
    | some owner =>
      refine (Only.each fun r hr => ?_).bind fun _ => only_done _
      have htype : r.1≠.STOCK_QUANT := by
        simp only [List.mem_cons,List.not_mem_nil,or_false] at hr
        rcases hr with rfl|rfl|rfl|rfl|rfl <;> simp
      exact keepsOwners_linkResource _ _ htype r.2

theorem keepsOwners_allocateCandidates (warehouseId : ℕ) (order : OutboundOrder)
    (line : OutboundOrderLine) (owner : Option WmsClient) (qs : List StockQuant) :
    ∀ n, Only KeepsOwners (allocateCandidates warehouseId order line owner qs n) := by
  induction qs with
  | nil => exact fun _ => only_done _
  | cons q qs ih =>
    intro n
    refine Only.ite (fun _ => only_done _) fun _ => Only.ite (fun _ => ih n) fun _ => ?_
    exact (keepsOwners_allocateQuant _ _ _ _ _ _).bind fun _ => ih _

theorem lineHeld_eq (v : WmsDb) (lineId : ℕ) : lineHeld v lineId=
    Table.held (·.outboundOrderLineId) Reservation.held lineId (v .reservations) := by
  unfold lineHeld activeQuantity
  rw [← Table.total_ite]
  refine Table.total_congr fun r _ => ?_
  by_cases hl : r.outboundOrderLineId=some lineId
  · simp [activeReservationsOfLine,Reservation.held,hl]
  · simp [activeReservationsOfLine,hl]

theorem shifts_chunks {lineId : ℕ} {xs : List Chunk} : ∀ {v : WmsDb}, Admissible v xs →
    (∀ x∈xs, x.reservation.outboundOrderLineId=some lineId) →
    Table.Shifts (·.outboundOrderLineId) Reservation.held (some lineId)
      (xs.map (·.reservation.quantity)).sum (v .reservations)
      (after (chunkWrites xs) v .reservations) := by
  induction xs with
  | nil => exact fun _ _ => Table.shifts_refl _ _
  | cons x xs ih =>
    intro v hx hfor
    have hline := hfor x List.mem_cons_self
    have hheld : x.reservation.held=x.reservation.quantity := by
      simp [Reservation.held,hx.1.active]
    have hfirst : Table.Shifts (·.outboundOrderLineId) Reservation.held (some lineId)
        x.reservation.quantity (v .reservations) (after x.writes v .reservations) := by
      have hins : Table.Shifts (fun r : Reservation => r.outboundOrderLineId) Reservation.held
          x.reservation.outboundOrderLineId x.reservation.held (v .reservations)
          ((v .reservations).insert x.reservation) := Table.shifts_insert hx.1.fresh
      rw [hline,hheld] at hins
      simpa [Chunk.writes,reserveWrites] using hins
    have hrest := ih hx.2 (fun y hy => hfor y (List.mem_cons_of_mem _ hy))
    have hcons : chunkWrites (x::xs)=x.writes++chunkWrites xs := rfl
    rw [List.map_cons,List.sum_cons,hcons,after_append]
    exact hfirst.trans hrest

theorem reservation_after_chunks {xs : List Chunk} : ∀ {v : WmsDb}, Admissible v xs →
    ∀ r∈(after (chunkWrites xs) v .reservations).rows,
      r∈(v .reservations).rows ∨ ∃ x∈xs, r=x.reservation := by
  induction xs with
  | nil => exact fun _ r hr => .inl hr
  | cons x xs ih =>
    intro v hx r hr
    have hcons : chunkWrites (x::xs)=x.writes++chunkWrites xs := rfl
    rw [hcons,after_append] at hr
    rcases ih hx.2 r hr with hr|⟨y,hy,rfl⟩
    · have htable : after x.writes v .reservations=(v .reservations).insert x.reservation := by
        simp [Chunk.writes,reserveWrites]
      rw [htable,Table.rows_insert hx.1.fresh] at hr
      rcases List.mem_append.mp hr with hr|hr
      · exact .inl hr
      · exact .inr ⟨x,List.mem_cons_self,List.mem_singleton.mp hr⟩
    · exact .inr ⟨y,List.mem_cons_of_mem _ hy,rfl⟩

theorem Admissible.ofQuant {xs : List Chunk} : ∀ {v : WmsDb}, Admissible v xs →
    ∀ x∈xs, x.reservation.stockQuantId=x.quant.id := by
  induction xs with
  | nil => simp
  | cons x xs ih =>
    intro v h y hy
    rcases List.mem_cons.mp hy with rfl|hy
    · exact h.1.ofQuant
    · exact ih h.2 y hy

theorem chunkWrites_table {t : TableName} (hq : t≠.stockQuants) (hr : t≠.reservations)
    (hm : t≠.stockMovements) (xs : List Chunk) : ∀ v, after (chunkWrites xs) v t=v t := by
  induction xs with
  | nil => exact fun _ => rfl
  | cons x xs ih =>
    intro v
    have hcons : chunkWrites (x::xs)=x.writes++chunkWrites xs := rfl
    rw [hcons,after_append,ih]
    simp [Chunk.writes,reserveWrites,hq,hr,hm]

section Exact
variable {ids : ℕ → ℕ} {n k : ℕ} {c : WmsCtx} {d : WmsDb}

/-- The candidates as the state has them, with enough available for what is left: the
induction is on the candidates, and each chunk leaves those after it as they are. -/
theorem outcome_allocateCandidates {warehouseId : ℕ} {order : OutboundOrder}
    {line : OutboundOrderLine} {owner : Option WmsClient} {Q : Unit → ℕ → WmsCtx → Prop} :
    ∀ {qs : List StockQuant} {n : ℤ} {k : ℕ} {c : WmsCtx}, 0≤n →
    n≤(qs.map availableQuantity).sum → (qs.map (·.id)).Nodup →
    (∀ q∈qs, Candidate c.view line q ∧ (c.view .stockQuants).get? q.id=some q) →
    SameOwners d c.view →
    (∀ xs k c', Reaches c (chunkWrites xs) c' → Admissible c.view xs →
      (∀ x∈xs, x.reservation.outboundOrderLineId=some line.id ∧ x.quant.id∈qs.map (·.id)) →
      (xs.map (·.reservation.quantity)).sum=n → SameOwners d c'.view → Q () k c') →
    outcome store (.free _ _ ids) (allocateCandidates warehouseId order line owner qs n) k c Q := by
  intro qs
  induction qs with
  | nil =>
    intro n k c hn hle _ _ ho h
    have hzero : n=0 := by
      simp only [List.map_nil,List.sum_nil] at hle
      omega
    exact h [] k c (Reaches.refl c) trivial (by simp) (by simp [hzero]) ho
  | cons q qs ih =>
    intro n k c hn hle hnodup hq ho h
    simp only [List.map_cons,List.sum_cons] at hle
    rw [List.map_cons,List.nodup_cons] at hnodup
    simp only [allocateCandidates,outcome_ite]
    refine ⟨fun hdone => ?_,fun hpos => ⟨fun hnone => ?_,fun hquantity => ?_⟩⟩
    · exact h [] k c (Reaches.refl c) trivial (by simp) (by simp; omega) ho
    · have hnonneg : 0≤availableQuantity q := le_max_right _ _
      refine ih hn (by omega) hnodup.2 (fun q' hq' => hq q' (List.mem_cons_of_mem _ hq')) ho ?_
      intro xs k c' hc hxs hfor hsum ho
      refine h xs k c' hc hxs (fun x hx => ?_) hsum ho
      exact ⟨(hfor x hx).1,List.mem_cons_of_mem _ (hfor x hx).2⟩
    · have hrest : 0≤(qs.map availableQuantity).sum := by
        refine List.sum_nonneg fun a ha => ?_
        obtain ⟨q',_,rfl⟩ := List.mem_map.mp ha
        exact le_max_right _ _
      simp only [bind_eq,outcome_bind]
      have hcandidate := hq q List.mem_cons_self
      refine outcome_mono (fun _ k c₁ hdone => ?_) (outcome_and_only (R := SameOwners)
        SameOwners.trans (fun w d hw => hw d) (keepsOwners_allocateQuant _ _ _ _ _ _) ho
        (outcome_of_wp (fun _ => True) (wp_allocateQuant (by omega)
          (show Candidate (after [] c.view) line q from hcandidate.1)
          (Reaches.refl c) (Q := fun _ c₁ => ∃ x : Chunk, Reaches c x.writes c₁ ∧
            Reserving c.view x.quant x.reservation x.movement ∧ x.IsFor c.view line ∧
            x.reservation.quantity=min (availableQuantity q) n ∧ x.quant.id=q.id)
          fun x c₁ hc hx hfor hxn hid => ⟨x,hc,hx,hfor,hxn,hid⟩)))
      obtain ⟨⟨x,hc,hx,hfor,hxn,hid⟩,ho₁⟩ := hdone
      have hquants : c₁.view .stockQuants=after x.writes c.view .stockQuants := hc.table rfl
      refine ih (by omega) (by omega) hnodup.2 (fun q' hq' => ?_) ho₁ ?_
      · have hq' := hq q' (List.mem_cons_of_mem _ hq')
        have hne : q'.id≠x.quant.id := by
          rw [hid]
          intro he
          exact hnodup.1 (he ▸ List.mem_map.mpr ⟨q',by assumption,rfl⟩)
        have hget : (c₁.view .stockQuants).get? q'.id=some q' := by
          rw [hquants]
          simp only [Chunk.writes,reserveWrites,after_cons,after_nil,apply_insert_ne,ne_eq,
            reduceCtorEq,not_false_eq_true,apply_update_self]
          rw [Table.get?_modify_ne _ _ _ hne]
          exact hq'.2
        refine ⟨⟨hq'.1.status,?_,settled_of_get? hget⟩,hget⟩
        have hskus : c₁.view .skus=c.view .skus := by
          rw [hc.table rfl]
          simp [Chunk.writes,reserveWrites]
        exact (lineSku_congr hskus).mp hq'.1.sku
      · intro xs k c₂ hc₂ hxs hfors hsum ho₂
        refine h (x::xs) k c₂ (hc.append hc₂) ⟨hx,admissible_congr (SameOn.symm hc.view) hxs⟩
          ?_ ?_ ho₂
        · intro y hy
          rcases List.mem_cons.mp hy with rfl|hy
          · exact ⟨hfor.reservation,by simp [hid]⟩
          · exact ⟨(hfors y hy).1,List.mem_cons_of_mem _ (hfors y hy).2⟩
        · rw [List.map_cons,List.sum_cons]
          omega

/-- The clients have codes of their own, as the schema's unique index says. -/
def ClientCodes (d : WmsDb) : Prop := ((d .wmsClients).rows.map (·.code)).Nodup

theorem ClientCodes.eq {a b : WmsClient} (h : ClientCodes d) (ha : a∈(d .wmsClients).rows)
    (hb : b∈(d .wmsClients).rows) (hcode : a.code=b.code) : a=b :=
  List.inj_on_of_nodup_map h ha hb hcode

theorem outcome_stockQuantScope {warehouseId : ℕ} {owner : Option WmsClient}
    {Q : Option (List ℕ) → ℕ → WmsCtx → Prop}
    (howner : ∀ o∈owner, o∈(c.view .wmsClients).rows)
    (h : ∀ scope c', c.Moves Eq c' → (ClientCodes c.view → ∀ o∈owner, ∃ ids, scope=some ids ∧
      ∀ i∈ids, quantOwner c.view warehouseId i=some o.id) → Q scope k c') :
    outcome store (.free _ _ ids) (stockQuantScope warehouseId owner) k c Q := by
  cases owner with
  | none => exact h none c c.moves_refl (by simp)
  | some o =>
    simp only [stockQuantScope,findOwnedStockQuantIds,bind_eq,pure_eq,outcome_bind,
      outcome_demand,outcome_done]
    refine ⟨fun client hclient => ?_,fun _ => trivial⟩
    have hmem := List.mem_filter.mp (List.mem_of_mem_head? hclient)
    refine h _ _ ((c.moves_saw _ _).of_reads (Ctx.moves_saw _ _ _)) fun hcodes o' ho' => ?_
    obtain rfl := Option.some.inj ho'
    have hsame : client=o := hcodes.eq hmem.1 (howner o rfl) (by simpa using hmem.2)
    refine ⟨_,rfl,fun i hi => ?_⟩
    obtain ⟨l,hl,rfl⟩ := List.mem_map.mp hi
    obtain ⟨hl,hp⟩ := List.mem_filter.mp hl
    simp only [Bool.and_eq_true,decide_eq_true_eq,hsame] at hp
    have hkey : wms.key (t := .clientResourceLinks) l=
        (warehouseId,ResourceType.STOCK_QUANT,l.resourceId) := by
      simp [TableName.key,hp]
    have hget : (c.view .clientResourceLinks).get? (warehouseId,.STOCK_QUANT,l.resourceId)=
        some l := Table.get?_eq_some.mpr ⟨hl,hkey⟩
    simp [quantOwner,hget,hp]

theorem outcome_findAvailableStockQuants {warehouseId : ℕ} {line : OutboundOrderLine} {n : ℤ}
    {owner : Option WmsClient} {strategy : AllocationStrategy}
    {Q : List StockQuant → ℕ → WmsCtx → Prop}
    (howner : ∀ o∈owner, o∈(c.view .wmsClients).rows)
    (h : ∀ qs c', c.Moves Eq c' → n≤(qs.map availableQuantity).sum → (qs.map (·.id)).Nodup →
      (∀ q∈qs, (Candidate c.view line q ∧ (c.view .stockQuants).get? q.id=some q) ∧
        (ClientCodes c.view → ∀ o∈owner, quantOwner c.view warehouseId q.id=some o.id)) →
      Q qs k c') :
    outcome store (.free _ _ ids)
      (findAvailableStockQuants warehouseId line n owner strategy) k c Q := by
  have hsku : outcome store (.free _ _ ids) (resolveLineSkuId line) k c
      (fun id k' c' => k'=k ∧ c.Moves Eq c' ∧ LineSku c.view line id) := by
    unfold resolveLineSkuId
    cases hline : line.sku with
    | uuid id => exact ⟨rfl,c.moves_refl,.inl hline⟩
    | word w =>
      simp only [bind_eq,pure_eq,outcome_bind,outcome_demand,outcome_done]
      refine ⟨fun s hs => ⟨rfl,c.moves_saw _ _,.inr ?_⟩,fun _ => trivial⟩
      obtain ⟨hmem,hcode⟩ := List.mem_filter.mp (List.mem_of_mem_head? hs)
      exact ⟨s,Table.get?_key hmem,by simpa [hline] using hcode⟩
  simp only [findAvailableStockQuants,bind_eq,pure_eq,outcome_bind,outcome_require,outcome_done]
  refine outcome_mono (fun skuId k' c₁ hdone => ?_) hsku
  obtain ⟨rfl,hc₁,hline⟩ := hdone
  have hview : c₁.view=c.view := hc₁.view.symm
  refine outcome_stockQuantScope (hview ▸ howner) fun scope c₂ hc₂ hscope => ?_
  have hview₂ : c₂.view=c.view := hc₂.view.symm.trans hview
  refine (outcome_findMany (D := wms)).mpr ?_
  split
  · rename_i htotal
    refine h _ _ ((hc₁.of_reads hc₂).and_reads (Ctx.moves_saw _ _ _)) htotal ?_ ?_
    · refine ((List.perm_insertionSort _ _).map _).nodup_iff.mpr ?_
      refine List.Nodup.sublist ((List.filter_sublist.trans List.filter_sublist).map _) ?_
      refine ((List.perm_insertionSort _ _).map _).nodup_iff.mpr ?_
      exact List.Nodup.sublist (List.filter_sublist.map _) (c₂.view .stockQuants).nodup
    · intro q hq
      have hq := List.mem_filter.mp ((List.mem_insertionSort _).mp hq)
      have hq := List.mem_filter.mp hq.1
      have hmem := (List.mem_insertionSort _).mp hq.1
      obtain ⟨hrow,hp⟩ := List.mem_filter.mp hmem
      simp only [allocatableQuant,Bool.and_eq_true,decide_eq_true_eq] at hp
      rw [hview₂] at hrow
      have hget := Table.get?_key hrow
      refine ⟨⟨⟨hp.1.2,hp.2 ▸ hline,settled_of_get? hget⟩,hget⟩,fun hcodes o ho => ?_⟩
      obtain ⟨is,rfl,his⟩ := hscope (hview ▸ hcodes) o ho
      have hin : q.id∈is := by simpa using hq.2
      exact hview ▸ his q.id hin
  · trivial

/-- An allocation that came to its lines `rest`, from `d` on. -/
structure Sofar (d : WmsDb) (warehouseId : ℕ) (owner : Option WmsClient)
    (lines rest : List OutboundOrderLine) (c : WmsCtx) : Prop where
  sameLines : c.view .outboundOrderLines=d .outboundOrderLines
  sameOrders : c.view .outboundOrders=d .outboundOrders
  owners : SameOwners d c.view
  suffix : ∃ done, done++rest=lines
  todo : ∀ l∈rest, lineHeld c.view l.id=lineHeld d l.id
  done : ∀ l∈lines, l∉rest →
    lineHeld c.view l.id=max (l.orderedQuantity-l.pickedQuantity) (lineHeld d l.id)
  idle : (∀ l∈lines, l.orderedQuantity-l.pickedQuantity≤lineHeld d l.id) →
    c.view .reservations=d .reservations ∧ c.view .stockQuants=d .stockQuants
  owned : ClientCodes d → ∀ o∈owner, ∀ r∈(c.view .reservations).rows,
    r∈(d .reservations).rows ∨ quantOwner d warehouseId r.stockQuantId=some o.id

section Line
variable {warehouseId : ℕ} {owner : Option WmsClient} {lines rest : List OutboundOrderLine}
variable {line : OutboundOrderLine}

theorem Sofar.mem (h : Sofar d warehouseId owner lines (line::rest) c) : line∈lines := by
  obtain ⟨done,hdone⟩ := h.suffix
  simp [← hdone]

theorem Sofar.skip {c' : WmsCtx} (h : Sofar d warehouseId owner lines (line::rest) c)
    (hc : c.Moves Eq c') (henough : line.orderedQuantity-line.pickedQuantity≤lineHeld c.view line.id) :
    Sofar d warehouseId owner lines rest c' := by
  have hview : c'.view=c.view := hc.view.symm
  have hline := h.todo line List.mem_cons_self
  refine ⟨hview ▸ h.sameLines,hview ▸ h.sameOrders,hview ▸ h.owners,?_,?_,?_,hview ▸ h.idle,hview ▸ h.owned⟩
  · obtain ⟨done,hdone⟩ := h.suffix
    exact ⟨done++[line],by simpa using hdone⟩
  · intro l hl
    rw [hview]
    exact h.todo l (List.mem_cons_of_mem _ hl)
  · intro l hl hn
    rw [hview]
    by_cases he : l=line
    · subst he
      rw [hline] at henough ⊢
      exact (max_eq_right henough).symm
    · exact h.done l hl (by simp [he,hn])

theorem Sofar.allot {c' : WmsCtx} {xs : List Chunk} (hnodup : (lines.map (·.id)).Nodup)
    (h : Sofar d warehouseId owner lines (line::rest) c) (hc : Reaches c (chunkWrites xs) c')
    (hxs : Admissible c.view xs)
    (hfor : ∀ x∈xs, x.reservation.outboundOrderLineId=some line.id ∧
      (ClientCodes d → ∀ o∈owner,
        quantOwner c.view warehouseId x.reservation.stockQuantId=some o.id))
    (hsum : (xs.map (·.reservation.quantity)).sum=
      line.orderedQuantity-line.pickedQuantity-lineHeld c.view line.id)
    (hneed : lineHeld c.view line.id<line.orderedQuantity-line.pickedQuantity)
    (howners : SameOwners d c'.view) : Sofar d warehouseId owner lines rest c' := by
  have hreservations : c'.view .reservations=after (chunkWrites xs) c.view .reservations :=
    hc.table rfl
  have hheld : ∀ l : ℕ, lineHeld c'.view l=lineHeld c.view l+if some line.id=some l then
      line.orderedQuantity-line.pickedQuantity-lineHeld c.view line.id else 0 := by
    intro l
    rw [lineHeld_eq,hreservations,shifts_chunks hxs (fun x hx => (hfor x hx).1) l,hsum,
      ← lineHeld_eq]
  have hother : ∀ l∈lines, l≠line → lineHeld c'.view l.id=lineHeld c.view l.id := by
    intro l hl hne
    have hid : line.id≠l.id := fun he => hne (List.inj_on_of_nodup_map hnodup hl h.mem he.symm)
    rw [hheld]
    simp [hid]
  have hline := h.todo line List.mem_cons_self
  have hrest : ∀ l∈rest, l∈lines ∧ l≠line := by
    intro l hl
    obtain ⟨done,hdone⟩ := h.suffix
    refine ⟨by simp [← hdone,hl],?_⟩
    rintro rfl
    rw [← hdone,List.map_append,List.map_cons] at hnodup
    have htail := (List.nodup_append.mp hnodup).2.1
    exact (List.nodup_cons.mp htail).1 (List.mem_map.mpr ⟨l,hl,rfl⟩)
  refine ⟨?_,?_,howners,?_,?_,?_,?_,?_⟩
  · rw [hc.table rfl,chunkWrites_table (by simp) (by simp) (by simp),h.sameLines]
  · rw [hc.table rfl,chunkWrites_table (by simp) (by simp) (by simp),h.sameOrders]
  · obtain ⟨done,hdone⟩ := h.suffix
    exact ⟨done++[line],by simpa using hdone⟩
  · intro l hl
    rw [hother l (hrest l hl).1 (hrest l hl).2]
    exact h.todo l (List.mem_cons_of_mem _ hl)
  · intro l hl hn
    by_cases he : l=line
    · subst he
      rw [hheld,if_pos rfl,← hline]
      omega
    · rw [hother l hl he]
      exact h.done l hl (by simp [he,hn])
  · intro henough
    have hline' := henough line h.mem
    omega
  · intro hcodes o ho r hr
    rw [hreservations] at hr
    rcases reservation_after_chunks hxs r hr with hr|⟨x,hx,rfl⟩
    · exact h.owned hcodes o ho r hr
    · exact .inr (h.owners.quants _ _ ▸ (hfor x hx).2 hcodes o ho)

theorem outcome_allocateLine {order : OutboundOrder} {strategy : AllocationStrategy}
    (hnodup : (lines.map (·.id)).Nodup) (howner : ∀ o∈owner, o∈(d .wmsClients).rows)
    (h : Sofar d warehouseId owner lines (line::rest) c) :
    outcome store (.free _ _ ids) (allocateLine warehouseId order owner strategy line) k c
      (fun _ _ c => Sofar d warehouseId owner lines rest c) := by
  simp only [allocateLine,countActiveReservations,bind_eq,pure_eq,outcome_bind,outcome_done,
    outcome_ite]
  refine (outcome_findMany (D := wms)).mpr ⟨fun hneed => ?_,fun hnone => ?_⟩
  · have hclients : c.view .wmsClients=d .wmsClients := h.owners.clients
    have hcodes : ClientCodes d → ClientCodes c.view := by
      unfold ClientCodes
      rw [hclients]
      exact id
    have hneed' : (0:ℤ) < max (line.orderedQuantity-line.pickedQuantity-lineHeld c.view line.id) 0 :=
      hneed
    refine outcome_findAvailableStockQuants (hclients ▸ howner)
      fun qs c₁ hc₁ htotal hqs hq => ?_
    have hview : c₁.view=c.view := hc₁.view.symm
    refine outcome_allocateCandidates hneed.le htotal hqs (fun q hq' => ?_)
      (hview ▸ h.owners) fun xs k c₂ hc₂ hxs hfor hsum howners => ?_
    · rw [hview]
      exact (hq q hq').1
    rw [hview] at hxs
    have hreach : Reaches c (chunkWrites xs) c₂ :=
      Ctx.Moves.of_reads ((c.moves_saw _ _).of_reads hc₁) hc₂
    refine h.allot hnodup hreach hxs (fun x hx => ⟨(hfor x hx).1,fun hd o ho => ?_⟩) ?_ ?_
      howners
    · obtain ⟨q,hqm,hid⟩ := List.mem_map.mp (hfor x hx).2
      rw [hxs.ofQuant x hx,← hid]
      exact (hq q hqm).2 (hcodes hd) o ho
    · have hsum' : (xs.map (·.reservation.quantity)).sum=
          max (line.orderedQuantity-line.pickedQuantity-lineHeld c.view line.id) 0 := hsum
      omega
    · omega
  · refine h.skip (c.moves_saw _ _) ?_
    have hle : ¬(0:ℤ) < max (line.orderedQuantity-line.pickedQuantity-lineHeld c.view line.id) 0 :=
      hnone
    omega

/-- The client of an order: the one that the request names, or else the one it is linked to. -/
def allocationOwner (d : WmsDb) (warehouseId orderId : ℕ) : Option Text → Option ℕ
  | some reference =>
    ((d .wmsClients).rows.find? fun c => reference.names c.id c.code).map (·.id)
  | none => ((d .clientResourceLinks).get? (warehouseId,.OUTBOUND_ORDER,orderId)).map (·.clientId)

theorem keepsOwners_resolveAllocationOwner (warehouseId : ℕ) (order : OutboundOrder)
    (reference : Option Text) :
    Only KeepsOwners (resolveAllocationOwner warehouseId order reference) := by
  unfold resolveAllocationOwner
  cases reference with
  | none => exact only_findResourceOwner _ _
  | some r =>
    refine (only_resolveOwnerClient _ _).bind fun _ => (only_demand _ _).bind fun _ => ?_
    exact (keepsOwners_linkResource _ _ (by simp) _).bind fun _ => only_done _

theorem outcome_resolveAllocationOwner {order : OutboundOrder} {reference : Option Text} :
    outcome store (.free _ _ ids) (resolveAllocationOwner warehouseId order reference) k c
      (fun owner _ c' => (owner.map (·.id)=allocationOwner c.view warehouseId order.id reference ∧
        ∀ o∈owner, o∈(c.view .wmsClients).rows) ∧ SameStock c.view c'.view) := by
  cases reference with
  | none =>
    simp only [resolveAllocationOwner,findResourceOwner,bind_eq,pure_eq,outcome_bind]
    refine (outcome_find (D := wms)).mpr ?_
    cases hlink : (c.view .clientResourceLinks).get? (warehouseId,.OUTBOUND_ORDER,order.id) with
    | none => exact ⟨⟨by simp [allocationOwner,hlink],by simp⟩,SameOn.refl _⟩
    | some link =>
      simp only [outcome_bind,outcome_demand,outcome_done]
      refine (outcome_find (D := wms)).mpr ⟨fun o ho => ?_,fun _ => trivial⟩
      have hget : (c.view .wmsClients).get? link.clientId=some o := ho
      obtain ⟨hmem,hid⟩ := Table.mem_of_get? hget
      refine ⟨⟨?_,?_⟩,SameOn.refl _⟩
      · simp only [allocationOwner,hlink,Option.map_some]
        exact congrArg some hid
      · intro o' ho'
        obtain rfl := Option.some.inj ho'
        exact hmem
  | some r =>
    simp only [resolveAllocationOwner,resolveOwnerClient,bind_eq,pure_eq,outcome_bind,
      outcome_demand,outcome_require]
    refine (outcome_findFirst (D := wms)).mpr ⟨fun o ho => ?_,fun _ => trivial⟩
    have hmem := List.mem_filter.mp (List.mem_of_mem_head? ho)
    split
    · refine (outcome_find (D := wms)).mpr ?_
      split
      · simp only [outcome_done]
        refine ⟨fun o' ho' => ?_,fun _ => trivial⟩
        obtain rfl := Option.some.inj ho'
        refine outcome_of_only (R := SameStock) SameOn.refl SameOn.trans
          (fun _ d hw => sameOn_apply d hw) (fun _ _ _ => rfl) (fun _ => trivial)
          (aside_linkResourceToResolvedClient _ _ _) fun _ _ c' hc' => ?_
        refine ⟨⟨?_,?_⟩,hc'.view⟩
        · rw [List.head?_filter] at ho
          simp only [allocationOwner,Option.map_some]
          exact (congrArg (Option.map WmsClient.id) ho).symm
        · intro o' ho'
          obtain rfl := Option.some.inj ho'
          exact hmem.1
      · trivial
    · trivial

end Line

/-- What an allocation that returned did, from `d` to `v`. -/
structure AllocatedOrder (d : WmsDb) (warehouse reference : Text)
    (ownerReference : Option Text) (v : WmsDb) (o : OutboundOrder) : Prop where
  order : namedOrder d warehouse reference=some o
  again : ∃ o', namedOrder v warehouse reference=some o' ∧ o'.id=o.id
  lines : v .outboundOrderLines=d .outboundOrderLines
  exact : ∀ l∈orderLines d o.id,
    lineHeld v l.id=max (l.orderedQuantity-l.pickedQuantity) (lineHeld d l.id)
  idle : (∀ l∈orderLines d o.id, l.orderedQuantity-l.pickedQuantity≤lineHeld d l.id) →
    v .reservations=d .reservations ∧ v .stockQuants=d .stockQuants
  owned : ClientCodes d → ∀ k, allocationOwner d o.warehouseId o.id ownerReference=some k →
    ∀ r∈(v .reservations).rows,
      r∈(d .reservations).rows ∨ quantOwner d o.warehouseId r.stockQuantId=some k

theorem find?_modify_order (t : Table (TableName.key (t := .outboundOrders)))
    (u : OutboundOrderUpdate) (id : ℕ) (p : OutboundOrder → Bool)
    (hp : ∀ o, p (u.patch o)=p o) :
    ((t.modify id (wms.patch (t := .outboundOrders) u)
      (wms.key_patch (t := .outboundOrders) u)).rows.find? p).map (·.id)=
    (t.rows.find? p).map (·.id) := by
  rw [Table.rows_modify]
  induction t.rows with
  | nil => rfl
  | cons o os ih =>
    simp only [List.map_cons,List.find?_cons]
    by_cases hid : TableName.key (t := .outboundOrders) o=id
    · have hpatch : p (wms.patch (t := .outboundOrders) u o)=p o := hp o
      simp only [hid,if_true,hpatch]
      cases p o with
      | true => rfl
      | false => exact ih
    · simp only [hid,if_false]
      cases p o with
      | true => rfl
      | false => exact ih

theorem outcome_allocateOutboundOrder (warehouse reference : Text)
    (dto : AllocateOutboundOrderDto) (ids : ℕ → ℕ) (n : ℕ) (d : WmsDb) :
    outcome store (.free _ _ ids) (allocateOutboundOrder warehouse reference dto) n (.start d)
      (fun _ _ c => ∃ o,
        AllocatedOrder d warehouse reference dto.ownerClientReference c.view o) := by
  simp only [allocateOutboundOrder,resolveWarehouse,resolveOutboundOrderByReference,
    resolveOutboundOrder,findOrderLines,bind_eq,pure_eq,outcome_bind,outcome_demand,
    outcome_require,outcome_done]
  refine (outcome_findFirst (D := wms)).mpr ⟨fun w hw => ?_,fun _ => trivial⟩
  refine (outcome_findFirst (D := wms)).mpr ⟨fun o ho => ?_,fun _ => trivial⟩
  change ((d .warehouses).rows.filter _).head?=some w at hw
  change ((d .outboundOrders).rows.filter _).head?=some o at ho
  refine (outcome_lockRow (D := wms)).mpr ?_
  refine (outcome_findWhere (D := wms)).mpr ⟨fun o' ho' => ?_,fun _ => trivial⟩
  have hrow : o∈(d .outboundOrders).rows := (List.mem_filter.mp (List.mem_of_mem_head? ho)).1
  have hsame : o=o' := by
    have hget : (d .outboundOrders).get? o.id=some o := Table.get?_key hrow
    exact Option.some.inj (hget.symm.trans (Option.filter_eq_some_iff.mp ho').1)
  subst hsame
  have hnamed : namedOrder d warehouse reference=some o := by
    rw [List.head?_filter] at hw ho
    exact Option.bind_eq_some_iff.mpr ⟨w,hw,ho⟩
  have hwarehouse : o.warehouseId=w.id := by
    have hp := (List.mem_filter.mp (List.mem_of_mem_head? ho)).2
    simp only [Bool.and_eq_true,decide_eq_true_eq] at hp
    exact hp.1
  refine (outcome_findMany (D := wms)).mpr ?_
  split
  · refine outcome_mono (fun owner k c hdone => ?_) (outcome_and_only (R := SameOwners)
      SameOwners.trans (fun w d hw => hw d) (keepsOwners_resolveAllocationOwner _ _ _)
      (SameOwners.refl _) outcome_resolveAllocationOwner)
    obtain ⟨⟨⟨howner,hmem⟩,hstock⟩,howners⟩ := hdone
    split
    · have hstart : Sofar d w.id owner ((orderLines d o.id).insertionSort
          fun a b => a.lineNumber.le b.lineNumber=true) ((orderLines d o.id).insertionSort
          fun a b => a.lineNumber.le b.lineNumber=true) c := by
        have hreservations : c.view .reservations=d .reservations := (hstock .reservations rfl).symm
        refine ⟨(hstock .outboundOrderLines rfl).symm,(hstock .outboundOrders rfl).symm,howners,
          ⟨[],rfl⟩,?_,fun l hl hn => (hn hl).elim,
          fun _ => ⟨hreservations,(hstock .stockQuants rfl).symm⟩,?_⟩
        · intro l _
          simp [lineHeld,hreservations]
        · intro _ _ _ r hr
          exact .inl (hreservations ▸ hr)
      have hnodup : (((orderLines d o.id).insertionSort
          fun a b => a.lineNumber.le b.lineNumber=true).map (·.id)).Nodup := by
        refine ((List.perm_insertionSort _ _).map _).nodup_iff.mpr ?_
        exact List.Nodup.sublist (List.filter_sublist.map _) (d .outboundOrderLines).nodup
      refine outcome_mono (fun _ k c hdone => ?_) (outcome_for
        (fun rest _ c => Sofar d w.id owner _ rest c)
        (fun line rest n c h => outcome_allocateLine hnodup hmem h) hstart)
      refine (outcome_update (D := wms)).mpr ?_
      have hheld : ∀ l : ℕ, lineHeld (c.wrote store (.update .outboundOrders o.id
          {status := .ALLOCATED})).view l=lineHeld c.view l := by
        intro l
        simp [lineHeld]
      have hsorted : ∀ l∈orderLines d o.id, l∈(orderLines d o.id).insertionSort
          fun a b => a.lineNumber.le b.lineNumber=true := by
        intro l hl
        exact (List.mem_insertionSort _).mpr hl
      refine ⟨o,hnamed,?_,?_,?_,?_,?_⟩
      · have horders := find?_modify_order (c.view .outboundOrders) {status := .ALLOCATED} o.id
          (fun o => o.warehouseId=w.id && reference.names o.id o.orderNumber) (fun _ => rfl)
        rw [hdone.sameOrders] at horders
        have hfound : (d .outboundOrders).rows.find? (fun o =>
            o.warehouseId=w.id && reference.names o.id o.orderNumber)=some o := by
          rw [List.head?_filter] at ho
          exact ho
        rw [hfound,Option.map_some] at horders
        obtain ⟨o',ho',hid⟩ := Option.map_eq_some_iff.mp horders
        refine ⟨o',?_,hid⟩
        have hwarehouses : (d .warehouses).rows.find? (fun w => warehouse.names w.id w.code)=
            some w := by
          rw [List.head?_filter] at hw
          exact hw
        refine Option.bind_eq_some_iff.mpr ⟨w,?_,?_⟩
        · simpa [hdone.owners.warehouses] using hwarehouses
        · simpa [hdone.sameOrders] using ho'
      · simpa using hdone.sameLines
      · intro l hl
        rw [hheld]
        exact hdone.done l (hsorted l hl) (by simp)
      · intro henough
        have hidle := hdone.idle fun l hl => henough l ((List.mem_insertionSort _).mp hl)
        simpa using hidle
      · intro hcodes k hk r hr
        have howner' : owner.map (·.id)=allocationOwner d w.id o.id dto.ownerClientReference :=
          howner
        rw [hwarehouse] at hk ⊢
        rw [← howner'] at hk
        obtain ⟨x,hx,rfl⟩ := Option.map_eq_some_iff.mp hk
        have hr' : r∈(c.view .reservations).rows := by simpa using hr
        exact hdone.owned hcodes x hx r hr'
    · trivial
  · trivial

theorem keepsOwners_allocateOutboundOrder (warehouse reference : Text)
    (dto : AllocateOutboundOrderDto) :
    Only KeepsOwners (allocateOutboundOrder warehouse reference dto) := by
  refine (only_resolveWarehouse _).bind fun w => ?_
  refine (only_resolveOutboundOrderByReference _ _).bind fun o => ?_
  refine (only_lockRow (D := wms) _ _).bind fun _ => (only_resolveOutboundOrder _ _).bind fun o => ?_
  refine ((only_findMany (D := wms) _ _).bind fun _ => only_done _).bind fun lines => ?_
  refine (only_require _ _).bind fun _ => ?_
  refine (keepsOwners_resolveAllocationOwner _ _ _).bind fun owner => ?_
  refine (only_require _ _).bind fun _ => (Only.each fun line _ => ?_).bind fun _ => ?_
  · refine ((only_findMany (D := wms) _ _).bind fun _ => only_done _).bind fun _ => ?_
    refine Only.ite (fun _ => Only.bind ?_ fun qs => ?_) (fun _ => only_done _)
    · refine Only.bind ?_ fun _ => (only_stockQuantScope _ _).bind fun _ => ?_
      · unfold resolveLineSkuId
        cases line.sku with
        | uuid id => exact only_done _
        | word w =>
          refine (only_findFirst (D := wms) _ _).bind fun _ => (only_demand _ _).bind fun _ => ?_
          exact only_done _
      · refine (only_findMany (D := wms) _ _).bind fun _ => (only_require _ _).bind fun _ => ?_
        exact only_done _
    · exact keepsOwners_allocateCandidates _ _ _ _ _ _
  · exact (only_update (D := wms) _ _ _).mpr (keepsOwners_of_table (by simp [Statement.table])
      (by simp [Statement.table]) (by simp [Statement.table]))

theorem allocatedOrder_of_alone {warehouse reference : Text} {dto : AllocateOutboundOrderDto}
    {e : Ended (interface wms) WmsDb Unit}
    (he : alone store ids (allocateOutboundOrder warehouse reference dto) n [] (.start d)=.ok e) :
    ∃ o, AllocatedOrder d warehouse reference dto.ownerClientReference e.ctx.view o :=
  outcome_returns store.accepts _
    (outcome_allocateOutboundOrder warehouse reference dto ids n d) he

end Exact

/-- An order that has a client only takes stock of that client. -/
theorem allocation_stays_with_owner (warehouse reference : Text)
    (dto : AllocateOutboundOrderDto) (ids : ℕ → ℕ) (n : ℕ) (d : WmsDb) (hcodes : ClientCodes d)
    (e : Ended (interface wms) WmsDb Unit)
    (he : alone store ids (allocateOutboundOrder warehouse reference dto) n [] (.start d)=.ok e) :
    ∃ o, namedOrder d warehouse reference=some o ∧
      ∀ k, allocationOwner d o.warehouseId o.id dto.ownerClientReference=some k →
        ∀ r∈(e.ctx.view .reservations).rows,
          r∈(d .reservations).rows ∨ quantOwner d o.warehouseId r.stockQuantId=some k := by
  obtain ⟨o,ho⟩ := allocatedOrder_of_alone he
  exact ⟨o,ho.order,ho.owned hcodes⟩

def demoAllocation : AllocateOutboundOrderDto := ⟨none,none⟩

/-- Two lines of an order want five and three of a SKU of which one quant holds ten; the
quant and, where `owner` is there, the order are linked to a client. -/
def unallocatedOrder (owner : Option ℕ) : WmsDb := after
  ([.insert .warehouses ⟨1,.word 1⟩,.insert .skus ⟨1,.word 7,none,⟨false,false,false⟩⟩,
    .insert .wmsClients ⟨1,.word 9,.ACTIVE⟩,
    .insert .stockQuants ⟨1,1,1,1,none,none,none,none,none,10,0,.AVAILABLE,1,0⟩,
    .insert .clientResourceLinks ⟨1,.STOCK_QUANT,1,1⟩,
    .insert .outboundOrders ⟨1,1,.word 1,.CREATED,none⟩,
    .insert .outboundOrderLines ⟨1,1,.word 1,.word 7,5,0,⟨false,false,false⟩,none⟩,
    .insert .outboundOrderLines ⟨2,1,.word 2,.word 7,3,0,⟨false,false,false⟩,none⟩]
    ++owner.toList.map fun k => .insert .clientResourceLinks ⟨1,.OUTBOUND_ORDER,1,k⟩) emptyDb

theorem allocation_stays_with_owner_demo :
    ∃ e, alone store id (allocateOutboundOrder (.word 1) (.word 1) demoAllocation) 10 []
        (.start (unallocatedOrder (some 1)))=.ok e ∧
      ∃ o, namedOrder (unallocatedOrder (some 1)) (.word 1) (.word 1)=some o ∧
      ∀ k, allocationOwner (unallocatedOrder (some 1)) o.warehouseId o.id none=some k →
        ∀ r∈(e.ctx.view .reservations).rows, r∈(unallocatedOrder (some 1) .reservations).rows ∨
          quantOwner (unallocatedOrder (some 1)) o.warehouseId r.stockQuantId=some k := by
  obtain ⟨e,he⟩ : ∃ e, alone store id (allocateOutboundOrder (.word 1) (.word 1) demoAllocation)
      10 [] (.start (unallocatedOrder (some 1)))=.ok e := ⟨_,rfl⟩
  exact ⟨e,he,allocation_stays_with_owner (.word 1) (.word 1) demoAllocation id 10 _
    (by unfold ClientCodes; decide) e he⟩

/-- An order without a client takes stock of any client. -/
theorem unowned_order_takes_owned_stock : ¬∀ warehouse reference dto ids n d e,
    alone store ids (allocateOutboundOrder warehouse reference dto) n [] (.start d)=.ok e →
    ∀ o, namedOrder d warehouse reference=some o → ∀ r∈(e.ctx.view .reservations).rows,
      r∈(d .reservations).rows ∨ quantOwner d o.warehouseId r.stockQuantId=
        allocationOwner d o.warehouseId o.id dto.ownerClientReference := by
  intro h
  obtain ⟨e,he,r,hr,hnew,hquant⟩ : ∃ e, alone store id
      (allocateOutboundOrder (.word 1) (.word 1) demoAllocation) 10 []
      (.start (unallocatedOrder none))=.ok e ∧ ∃ r, r∈(e.ctx.view .reservations).rows ∧
        r∉(unallocatedOrder none .reservations).rows ∧ r.stockQuantId=1 :=
    ⟨_,rfl,_,List.mem_cons_self,by decide,rfl⟩
  rcases h _ _ _ _ _ _ e he _ rfl r hr with hold|howner
  · exact hnew hold
  · rw [hquant] at howner
    exact absurd howner (by decide)

end AardvarkWms
