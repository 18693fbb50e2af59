import AardvarkWms.Allocation
import AardvarkWms.ReservationSteps

/-! What the allocation of an order does to the stock tables: a chain of reservations,
each inside what its quant has left, together inside what each line has left. -/
namespace AardvarkWms

open Transactions Transactions.Txn Relational

/-- One reservation that the allocator makes. -/
structure Chunk where
  quant : StockQuant
  reservation : Reservation
  movement : StockMovement

def Chunk.writes (x : Chunk) : List (Statement wms) :=
  reserveWrites x.quant.id x.reservation x.movement

def chunkWrites (xs : List Chunk) : List (Statement wms) := xs.flatMap Chunk.writes

/-- Each reservation may be made where those before it have been made. -/
def Admissible : WmsDb → List Chunk → Prop
  | _, [] => True
  | v, x::xs => Reserving v x.quant x.reservation x.movement ∧ Admissible (after x.writes v) xs

/-- The SKU that an order line names, by id or by code. -/
def LineSku (v : WmsDb) (line : OutboundOrderLine) (skuId : ℕ) : Prop :=
  line.sku=.uuid skuId ∨ ∃ s, (v .skus).get? skuId=some s ∧ s.code=line.sku

structure Chunk.IsFor (v : WmsDb) (line : OutboundOrderLine) (x : Chunk) : Prop where
  reservation : x.reservation.outboundOrderLineId=some line.id
  status : x.quant.status=.AVAILABLE
  sku : LineSku v line x.quant.skuId

structure AllocatedLine where
  line : OutboundOrderLine
  chunks : List Chunk

def AllocatedLine.total (a : AllocatedLine) : ℤ := (a.chunks.map (·.reservation.quantity)).sum

/-- The line's reservations are for it, and in sum inside what was seen to remain. -/
structure AllocatedLine.Justified (a : AllocatedLine) (c : WmsCtx) : Prop where
  isFor : ∀ x∈a.chunks, x.IsFor c.base a.line
  remaining : ∃ rs, c.Saw (Select.rows (D := wms) .reservations
      (activeReservationsOfLine a.line.id)) rs ∧
    a.total ≤ max (a.line.orderedQuantity-a.line.pickedQuantity-activeQuantity rs) 0

structure Allocated (c : WmsCtx) (orderId : ℕ) (lines : List OutboundOrderLine)
    (as : List AllocatedLine) : Prop where
  writes : Applies (chunkWrites (as.flatMap (·.chunks))
    ++[.update .outboundOrders orderId {status := .ALLOCATED}]) c.base c.view
  admissible : Admissible c.base (as.flatMap (·.chunks))
  saw : c.Saw (Select.rows (D := wms) .outboundOrderLines (·.orderId=orderId)) lines
  nodup : (as.map (·.line.id)).Nodup
  mem : ∀ a∈as, a.line∈lines
  justified : ∀ a∈as, a.Justified c

theorem chunkWrites_append (xs ys : List Chunk) :
    chunkWrites (xs++ys)=chunkWrites xs++chunkWrites ys := by
  simp [chunkWrites]

theorem chunkWrites_skus (xs : List Chunk) :
    ∀ v, after (chunkWrites xs) v .skus=v .skus := by
  induction xs with
  | nil => exact fun _ => rfl
  | cons x xs ih =>
    intro v
    have hx : after x.writes v .skus=v .skus := by simp [Chunk.writes,reserveWrites]
    have hcons : chunkWrites (x::xs)=x.writes++chunkWrites xs := rfl
    rw [hcons,after_append,ih,hx]

theorem admissible_append {xs ys : List Chunk} : ∀ {v : WmsDb}, Admissible v xs →
    Admissible (after (chunkWrites xs) v) ys → Admissible v (xs++ys) := by
  induction xs with
  | nil => exact fun _ h => h
  | cons x xs ih =>
    intro v h h'
    refine ⟨h.1,ih h.2 ?_⟩
    simpa [chunkWrites,after_append] using h'

theorem reserving_congr {v v' : WmsDb} (h : SameStock v v') {q : StockQuant} {r : Reservation}
    {m : StockMovement} (hr : Reserving v q r m) : Reserving v' q r m := by
  refine ⟨?_,hr.pos,hr.available,hr.ofQuant,hr.sku,hr.active,?_,hr.movement.1,?_⟩
  · exact h .stockQuants rfl ▸ hr.quant
  · exact h .reservations rfl ▸ hr.fresh
  · exact h .stockMovements rfl ▸ hr.movement.2

theorem admissible_congr {xs : List Chunk} : ∀ {v v' : WmsDb}, SameStock v v' →
    Admissible v xs → Admissible v' xs := by
  induction xs with
  | nil => exact fun _ _ => trivial
  | cons x xs ih =>
    intro v v' h hx
    exact ⟨reserving_congr h hx.1,ih (sameOn_applyAll h) hx.2⟩

theorem AllocatedLine.Justified.later {a : AllocatedLine} {c c' : WmsCtx}
    {R : WmsDb → WmsDb → Prop} (h : a.Justified c) (hc : c.Moves R c') : a.Justified c' := by
  obtain ⟨rs,hrs,hle⟩ := h.remaining
  exact ⟨hc.base ▸ h.isFor,rs,hc.saw hrs,hle⟩

section Rules
variable {Mid : WmsCtx → Prop} {c₀ c : WmsCtx} {ws : List (Statement wms)}

theorem wp_resolveLineSkuId {line : OutboundOrderLine} {Q : ℕ → WmsCtx → Prop}
    (hc : Reaches c₀ ws c)
    (h : ∀ id c, Reaches c₀ ws c → LineSku (after ws c₀.view) line id → Q id c) :
    wp store Mid (resolveLineSkuId line) c Q := by
  unfold resolveLineSkuId
  cases hsku : line.sku with
  | uuid id => exact h id c hc (.inl hsku)
  | word w =>
    simp only [bind_eq,pure_eq,wp_bind,wp_done,wp_demand]
    refine wp_firsts (t := .skus) rfl hc fun o c hc ho s hs => ?_
    obtain ⟨hcode,s',hs',hf⟩ := ho s hs
    refine h s.id c hc (.inr ⟨s',hs',?_⟩)
    have hse : s'=s := hf
    rw [hse,hsku]
    simpa using hcode

theorem only_stockQuantScope {ok : Statement wms → Prop} (warehouseId : ℕ)
    (owner : Option WmsClient) : Only ok (stockQuantScope warehouseId owner) := by
  cases owner with
  | none => exact only_done _
  | some owner =>
    refine Only.bind ?_ fun _ => only_done _
    refine (only_findFirst (D := wms) _ _).bind fun _ => (only_demand _ _).bind fun _ => ?_
    exact (only_findMany (D := wms) _ _).bind fun _ => only_done _

theorem only_resolveOutboundOrderByReference {ok : Statement wms → Prop} (warehouseId : ℕ)
    (reference : Text) : Only ok (resolveOutboundOrderByReference warehouseId reference) :=
  (only_findFirst (D := wms) _ _).bind fun _ => only_demand _ _

theorem aside_resolveAllocationOwner (warehouseId : ℕ) (order : OutboundOrder)
    (reference : Option Text) :
    Only Aside (resolveAllocationOwner warehouseId order reference) := by
  unfold resolveAllocationOwner
  cases reference with
  | none => exact only_findResourceOwner _ _
  | some r =>
    refine (only_resolveOwnerClient _ _).bind fun _ => (only_demand _ _).bind fun _ => ?_
    exact (aside_linkResourceToResolvedClient _ _ _).bind fun _ => only_done _

/-- A candidate of the allocator, as it was read. -/
structure Candidate (v : WmsDb) (line : OutboundOrderLine) (q : StockQuant) : Prop where
  status : q.status=.AVAILABLE
  sku : LineSku v line q.skuId
  settled : Settled (D := wms) v .stockQuants q.id q

theorem wp_findAvailableStockQuants {warehouseId : ℕ} {line : OutboundOrderLine} {n : ℤ}
    {owner : Option WmsClient} {strategy : AllocationStrategy}
    {Q : List StockQuant → WmsCtx → Prop} (hc : Reaches c₀ ws c)
    (h : ∀ qs c, Reaches c₀ ws c → (∀ q∈qs, Candidate (after ws c₀.view) line q) → Q qs c) :
    wp store Mid (findAvailableStockQuants warehouseId line n owner strategy) c Q := by
  simp only [findAvailableStockQuants,bind_eq,pure_eq,wp_bind,wp_require,wp_done]
  refine wp_resolveLineSkuId hc fun skuId c hc hsku => ?_
  refine wp_reads (only_stockQuantScope _ _) hc fun owned c hc => ?_
  refine wp_selects (t := .stockQuants) rfl hc fun quants c hc _ _ hquants _ => ?_
  refine h _ c hc fun q hq => ?_
  have hmem : q∈quants := by
    have hq := List.mem_of_mem_filter (List.mem_of_mem_filter ((List.mem_insertionSort _).mp hq))
    exact (List.mem_insertionSort _).mp hq
  obtain ⟨hallocatable,hs⟩ := hquants q hmem
  simp only [allocatableQuant,Bool.and_eq_true,decide_eq_true_eq] at hallocatable
  exact ⟨hallocatable.1.2,hallocatable.2 ▸ hsku,hs⟩

theorem wp_allocateQuant {warehouseId : ℕ} {order : OutboundOrder} {line : OutboundOrderLine}
    {q : StockQuant} {n : ℤ} {owner : Option WmsClient} {Q : Unit → WmsCtx → Prop} (hn : 0<n)
    (hq : Candidate (after ws c₀.view) line q) (hc : Reaches c₀ ws c)
    (h : ∀ (x : Chunk) c, Reaches c₀ (ws++x.writes) c →
      Reserving (after ws c₀.view) x.quant x.reservation x.movement →
      x.IsFor (after ws c₀.view) line → x.reservation.quantity=n → x.quant.id=q.id → Q () c) :
    wp store Mid (allocateQuant warehouseId order line q n owner) c Q := by
  simp only [allocateQuant,bind_eq,wp_bind]
  refine wp_reserveStockQuant hc fun q' c hc hq' ha => ?_
  refine wp_createReservationRecord hc fun r c hr hfresh hc => ?_
  refine wp_asides (aside_createReservationPickTask _ _ _ _ _) hc fun task c hc => ?_
  refine wp_createReserveMovement hc fun m c hm hmfresh hc => ?_
  refine wp_asides ?_ hc fun _ c hc => ?_
  · cases owner with
    | none => exact only_done _
    | some owner =>
      exact (Only.each fun _ _ => aside_linkResourceToResolvedClient _ _ _).bind fun _ =>
        only_done _
  have hids : q'.id=q.id := Table.key_of_get? hq'
  have halike := alike_of_settled hq.settled hq'
  simp only [List.append_assoc,after_append,List.cons_append,List.nil_append,after_nil,after_cons,
    apply_update_ne,apply_insert_ne,ne_eq,reduceCtorEq,not_false_eq_true] at hfresh hmfresh
  refine h ⟨q',r,m⟩ c ?_ (reserving_of_settled hr hq' hq.settled hn ha hfresh ⟨hm,hmfresh⟩)
    ⟨hr.line,?_,?_⟩ hr.quantity hids
  · simpa [Chunk.writes,reserveWrites,hids,hr.quantity] using hc
  · exact halike.status.trans hq.status
  · exact halike.skuId ▸ hq.sku

theorem Candidate.later {line : OutboundOrderLine} {q : StockQuant} {v : WmsDb}
    (h : Candidate v line q) (x : Chunk) : Candidate (after x.writes v) line q := by
  refine ⟨h.status,?_,h.settled.later (store.later_applyAll _ _)⟩
  simpa [LineSku,Chunk.writes,reserveWrites] using h.sku

theorem wp_allocateCandidates {warehouseId : ℕ} {order : OutboundOrder}
    {line : OutboundOrderLine} {owner : Option WmsClient} {Q : Unit → WmsCtx → Prop} :
    ∀ {candidates : List StockQuant} {n : ℤ} {ws : List (Statement wms)} {c : WmsCtx}, 0≤n →
    (∀ q∈candidates, Candidate (after ws c₀.view) line q) → Reaches c₀ ws c →
    (∀ xs c, Reaches c₀ (ws++chunkWrites xs) c → Admissible (after ws c₀.view) xs →
      (∀ x∈xs, x.IsFor (after ws c₀.view) line) →
      (xs.map (·.reservation.quantity)).sum≤n → Q () c) →
    wp store Mid (allocateCandidates warehouseId order line owner candidates n) c Q := by
  intro candidates
  induction candidates with
  | nil =>
    intro n ws c hn _ hc h
    refine h [] c (by simpa [chunkWrites] using hc) trivial (by simp) (by simpa using hn)
  | cons q qs ih =>
    intro n ws c hn hq hc h
    have hstop : wp store Mid (pure () : Wms Unit) c Q := by
      refine h [] c (by simpa [chunkWrites] using hc) trivial (by simp) (by simpa using hn)
    simp only [allocateCandidates,wp_ite]
    refine ⟨fun _ => hstop,fun hpos => ⟨fun _ => ?_,fun hquantity => ?_⟩⟩
    · exact ih hn (fun q' hq' => hq q' (List.mem_cons_of_mem _ hq')) hc h
    · simp only [bind_eq,wp_bind]
      refine wp_allocateQuant (by omega) (hq q List.mem_cons_self) hc fun x c hc hx hfor hxn _ => ?_
      refine ih (n := n-min (availableQuantity q) n) (by omega) (fun q' hq' => ?_) hc
        fun xs c hc hxs hfors hsum => ?_
      · rw [after_append]
        exact (hq q' (List.mem_cons_of_mem _ hq')).later x
      rw [after_append] at hxs hfors
      refine h (x::xs) c (by simpa [chunkWrites] using hc) ⟨hx,hxs⟩ ?_ ?_
      · intro y hy
        rcases List.mem_cons.mp hy with rfl|hy
        · exact hfor
        · have hy := hfors y hy
          refine ⟨hy.reservation,hy.status,?_⟩
          simpa [LineSku,Chunk.writes,reserveWrites] using hy.sku
      · rw [List.map_cons,List.sum_cons]
        omega

/-- The lines that are done, and those still to do. -/
structure Progress (c₁ c : WmsCtx) (lines rest : List OutboundOrderLine)
    (as : List AllocatedLine) : Prop where
  reaches : Reaches c₁ (chunkWrites (as.flatMap (·.chunks))) c
  admissible : Admissible c₁.view (as.flatMap (·.chunks))
  lines : as.map (·.line)++rest=lines
  justified : ∀ a∈as, a.Justified c

theorem lineSku_congr {v v' : WmsDb} (h : v' .skus=v .skus) {line : OutboundOrderLine} {id : ℕ} :
    LineSku v line id ↔ LineSku v' line id := by
  simp [LineSku,h]

theorem Progress.next {c₁ c₂ c : WmsCtx} {lines rest : List OutboundOrderLine}
    {line : OutboundOrderLine} {as : List AllocatedLine} {xs : List Chunk}
    (hbase : SameStock c₁.base c₁.view) (h : Progress c₁ c₂ lines (line::rest) as)
    (hc : Reaches c₂ (chunkWrites xs) c) (hxs : Admissible c₂.view xs)
    (hfor : ∀ x∈xs, x.IsFor c₂.view line)
    (hrem : ∃ rs, c.Saw (Select.rows (D := wms) .reservations
        (activeReservationsOfLine line.id)) rs ∧ (xs.map (·.reservation.quantity)).sum≤
      max (line.orderedQuantity-line.pickedQuantity-activeQuantity rs) 0) :
    Progress c₁ c lines rest (as++[⟨line,xs⟩]) := by
  have hskus : c₂.view .skus=c.base .skus := by
    rw [(h.reaches.append hc).base,hbase .skus rfl,h.reaches.table rfl,chunkWrites_skus]
  refine ⟨?_,?_,by simpa using h.lines,?_⟩
  · simpa [chunkWrites_append] using h.reaches.append hc
  · simpa using admissible_append h.admissible (admissible_congr (SameOn.symm h.reaches.view) hxs)
  · intro a ha
    rcases List.mem_append.mp ha with ha|ha
    · exact (h.justified a ha).later hc
    · obtain rfl := List.mem_singleton.mp ha
      refine ⟨fun x hx => ?_,hrem⟩
      have hx := hfor x hx
      exact ⟨hx.reservation,hx.status,(lineSku_congr hskus.symm).mp hx.sku⟩

theorem wp_allocateLine {warehouseId : ℕ} {order : OutboundOrder} {line : OutboundOrderLine}
    {owner : Option WmsClient} {strategy : AllocationStrategy} {c₁ : WmsCtx}
    {lines rest : List OutboundOrderLine} {as : List AllocatedLine}
    (hbase : SameStock c₁.base c₁.view) (h : Progress c₁ c lines (line::rest) as) :
    wp store Mid (allocateLine warehouseId order owner strategy line) c
      (fun _ c => ∃ as, Progress c₁ c lines rest as) := by
  simp only [allocateLine,countActiveReservations,bind_eq,pure_eq,wp_bind,wp_done,wp_ite]
  refine wp_selects (t := .reservations) rfl (Reaches.refl c) fun rs c₂ hc₂ hrs _ _ => ?_
  refine ⟨fun hpos => ?_,fun hnone => ?_⟩
  · refine wp_findAvailableStockQuants (Reaches.refl c₂) fun qs c₃ hc₃ hqs => ?_
    refine wp_allocateCandidates hpos.le hqs hc₃ fun xs c₄ hc₄ hxs hfor hsum => ?_
    refine ⟨_,h.next hbase (hc₂.append hc₄) ?_ (fun x hx => ?_) ⟨rs,hc₄.saw hrs,hsum⟩⟩
    · exact admissible_congr (SameOn.symm hc₂.view) hxs
    · have hskus : c₂.view .skus=c.view .skus := hc₂.table rfl
      have hx := hfor x hx
      exact ⟨hx.reservation,hx.status,(lineSku_congr hskus.symm).mp hx.sku⟩
  · refine ⟨_,h.next hbase (show Reaches c (chunkWrites []) c₂ from hc₂) trivial ?_ ⟨rs,hrs,?_⟩⟩
    · intro x hx
      cases hx
    · exact le_max_right _ _

end Rules

theorem wp_allocateOutboundOrder {Mid : WmsCtx → Prop} (warehouse reference : Text)
    (dto : AllocateOutboundOrderDto) (d : WmsDb) :
    wp store Mid (allocateOutboundOrder warehouse reference dto) (.start d)
      (fun _ c => ∃ orderId lines as, Allocated c orderId lines as) := by
  simp only [allocateOutboundOrder,findOrderLines,bind_eq,pure_eq,wp_bind,wp_done,wp_require]
  refine wp_reads (only_resolveWarehouse _) (Reaches.refl _) fun w c hc => ?_
  refine wp_reads (only_resolveOutboundOrderByReference _ _) hc fun o c hc => ?_
  refine wp_locks hc fun c hc _ => ?_
  refine wp_reads (only_resolveOutboundOrder _ _) hc fun order c hc => ?_
  refine wp_selects (t := .outboundOrderLines) rfl hc fun lines c₁ hc₁ hlines hnodup _ => ?_
  intro _
  refine wp_asides (aside_resolveAllocationOwner _ _ _) (Reaches.refl c₁) fun owner c hc _ => ?_
  have hbase : SameStock c₁.base c₁.view := hc₁.base ▸ hc₁.view
  have hstart : Progress c₁ c (lines.insertionSort fun a b => a.lineNumber.le b.lineNumber=true)
      (lines.insertionSort fun a b => a.lineNumber.le b.lineNumber=true) [] :=
    ⟨hc,trivial,rfl,by simp⟩
  refine wp_mono (fun _ c₂ hdone => ?_) (wp_for (fun rest c => ∃ as, Progress c₁ c _ rest as)
    (fun line rest c h => h.elim fun as h => wp_allocateLine hbase h) ⟨[],hstart⟩)
  obtain ⟨as,has⟩ := hdone
  refine wp_updates (Reaches.refl c₂) fun c₃ hc₃ => ?_
  have hlater := has.reaches.append hc₃
  have hall := hc₁.append hlater
  have hlines' := has.lines
  rw [List.append_nil] at hlines'
  have hmem : ∀ a∈as, a.line∈lines := by
    intro a ha
    have hsorted : a.line∈as.map (·.line) := List.mem_map.mpr ⟨a,ha,rfl⟩
    rw [hlines'] at hsorted
    exact (List.mem_insertionSort _).mp hsorted
  have hids : (as.map (·.line.id)).Nodup := by
    have hperm := ((List.perm_insertionSort (fun a b : OutboundOrderLine =>
      a.lineNumber.le b.lineNumber=true) lines).map (·.id)).nodup_iff.mpr hnodup
    rw [← hlines',List.map_map] at hperm
    exact hperm
  refine ⟨order.id,lines,as,?_,?_,hlater.saw hlines,hids,hmem,?_⟩
  · rw [hall.base]
    exact hall.view
  · rw [hlater.base]
    exact admissible_congr (SameOn.symm hbase) has.admissible
  · exact fun a ha => (has.justified a ha).later hc₃

end AardvarkWms
