import AardvarkWms.Allotment
import AardvarkWms.Filling

/-! In which order the quants of a line's SKU are reserved, and how much of each. -/
namespace AardvarkWms.AllocationOrder

open Transactions Transactions.Txn Relational Filling

/-- What the allocator reads of a quant: each field may be missing. -/
structure StockQuantRecord where
  quantity : Option ℤ
  reservedQuantity : Option ℤ
  expiryDate : Option ℤ
  createdAt : Option ℤ

def availableQuantity (stockQuant : StockQuantRecord) : ℤ :=
  max (stockQuant.quantity.getD 0-stockQuant.reservedQuantity.getD 0) 0

def compareCreatedAt (left right : StockQuantRecord) : ℤ :=
  left.createdAt.getD 0-right.createdAt.getD 0

def compareStockQuantForAllocation (strategy : AllocationStrategy)
    (left right : StockQuantRecord) : ℤ :=
  match strategy with
  | .LIFO => compareCreatedAt right left
  | .FIFO => compareCreatedAt left right
  | .FEFO =>
    match left.expiryDate, right.expiryDate with
    | some leftExpiry, some rightExpiry =>
      if leftExpiry≠rightExpiry then leftExpiry-rightExpiry else compareCreatedAt left right
    | some _, none => -1
    | none, some _ => 1
    | none, none => compareCreatedAt left right

/-- A row of the table as the allocator reads it. -/
def record (q : StockQuant) : StockQuantRecord :=
  ⟨some q.quantity,some q.reservedQuantity,q.expiryDate.map Int.ofNat,some q.createdAt⟩

section Order

theorem consistent_compareCreatedAt : Consistent compareCreatedAt :=
  consistent_sub fun q : StockQuantRecord => q.createdAt.getD 0

theorem consistent_compare (strategy : AllocationStrategy) :
    Consistent (compareStockQuantForAllocation strategy) := by
  cases strategy with
  | LIFO => exact consistent_compareCreatedAt.flip
  | FIFO => exact consistent_compareCreatedAt
  | FEFO =>
    constructor
    · intro a b
      unfold compareStockQuantForAllocation
      cases a.expiryDate <;> cases b.expiryDate <;> grind [compareCreatedAt]
    · intro a b c
      unfold compareStockQuantForAllocation
      cases a.expiryDate <;> cases b.expiryDate <;> cases c.expiryDate <;>
        grind [compareCreatedAt]

theorem compareCreatedAt_record (l r : StockQuant) :
    compareCreatedAt (record l) (record r)≤0 ↔ l.createdAt ≤ r.createdAt := by
  simp only [compareCreatedAt,record,Option.getD_some]
  omega

theorem compare_record (strategy : AllocationStrategy) (l r : StockQuant) :
    AardvarkWms.compareStockQuantForAllocation strategy l r=true ↔
      compareStockQuantForAllocation strategy (record l) (record r)≤0 := by
  cases strategy with
  | LIFO => simp [AardvarkWms.compareStockQuantForAllocation,compareStockQuantForAllocation,
      compareCreatedAt_record]
  | FIFO => simp [AardvarkWms.compareStockQuantForAllocation,compareStockQuantForAllocation,
      compareCreatedAt_record]
  | FEFO =>
    have hl : (record l).expiryDate=l.expiryDate.map Int.ofNat := rfl
    have hr : (record r).expiryDate=r.expiryDate.map Int.ofNat := rfl
    unfold AardvarkWms.compareStockQuantForAllocation compareStockQuantForAllocation
    rw [hl,hr]
    cases l.expiryDate with
    | none => cases r.expiryDate <;> simp [compareCreatedAt_record]
    | some a =>
      cases r.expiryDate with
      | none => simp
      | some b =>
        by_cases hab : a=b
        · simp [compareCreatedAt_record,hab]
        · simp only [hab,if_false,Option.map_some,decide_eq_true_eq,ne_eq,Int.ofNat_eq_natCast,
            Nat.cast_inj,not_false_eq_true,if_true]
          omega

variable {α : Type} (read : α → StockQuantRecord) (strategy : AllocationStrategy)

/-- The quants with something available, in the strategy's order. -/
def candidates (eligible : List α) : List α :=
  sorted (fun a b => compareStockQuantForAllocation strategy (read a) (read b))
    (eligible.filter fun a => 0<availableQuantity (read a))

/-- What is reserved of which quant for a line. -/
def reserved (eligible : List α) (required : ℤ) : List (α × ℤ) :=
  fill (fun a => availableQuantity (read a)) (candidates read strategy eligible) required

/-- The quants that are reserved come first in the strategy's order, and each but the last is
used up. -/
structure Follows (eligible : List α) (taken : List (α × ℤ)) : Prop where
  order : ∃ order : List α, order.Perm (eligible.filter fun a => 0<availableQuantity (read a)) ∧
    order.Pairwise (fun a b => compareStockQuantForAllocation strategy (read a) (read b)≤0) ∧
    taken.map (·.1) <+: order
  amount : ∀ x∈taken, 0<x.2 ∧ x.2≤availableQuantity (read x.1)
  consumed : ∀ done last, taken=done++[last] → ∀ x∈done, x.2=availableQuantity (read x.1)

variable {read strategy}

theorem candidates_available (eligible : List α) :
    ∀ a∈candidates read strategy eligible, 0<availableQuantity (read a) := by
  intro a ha
  have hmem := (sorted_perm _ _).mem_iff.mp ha
  simpa using (List.mem_filter.mp hmem).2

theorem follows_reserved (eligible : List α) (required : ℤ) :
    Follows read strategy eligible (reserved read strategy eligible required) := by
  have hpos : ∀ a∈candidates read strategy eligible, 0<availableQuantity (read a) :=
    candidates_available eligible
  refine ⟨⟨candidates read strategy eligible,sorted_perm _ _,?_,fill_first hpos required⟩,
    fill_amount hpos required,fun done last h => fill_consumed hpos h⟩
  exact sorted_pairwise ((consistent_compare strategy).comp read) _

theorem Follows.perm {eligible eligible' : List α} {taken : List (α × ℤ)}
    (h : Follows read strategy eligible taken) (hperm : eligible.Perm eligible') :
    Follows read strategy eligible' taken := by
  obtain ⟨order,horder,hsorted,hfirst⟩ := h.order
  exact ⟨⟨order,horder.trans (hperm.filter _),hsorted,hfirst⟩,h.amount,h.consumed⟩

end Order

/-- The pieces are what is taken of the quants, in the same order. -/
def Pieces (taken : List (StockQuant × ℤ)) (xs : List Chunk) : Prop :=
  xs.map (fun x => (x.quant.id,x.reservation.quantity))=taken.map fun p => (p.1.id,p.2)

/-- What is reserved for a line follows the strategy, on the quants as they were read. -/
def LineFollows (c : WmsCtx) (strategy : AllocationStrategy) (a : AllocatedLine) : Prop :=
  ∃ rs, c.Saw (Select.rows (D := wms) .reservations (activeReservationsOfLine a.line.id)) rs ∧
    ((a.line.orderedQuantity-a.line.pickedQuantity-activeQuantity rs≤0 ∧ a.chunks=[]) ∨
      ∃ (warehouseId skuId : ℕ) (owned : Option (List ℕ)) (quants : List StockQuant)
        (taken : List (StockQuant × ℤ)), LineSku c.base a.line skuId ∧
        c.Saw (Select.rows (D := wms) .stockQuants (allocatableQuant warehouseId skuId)) quants ∧
        Follows record strategy (quants.filter fun q => owned.all fun ids => ids.contains q.id)
          taken ∧
        (taken.map (·.2)).sum=a.line.orderedQuantity-a.line.pickedQuantity-activeQuantity rs ∧
        Pieces taken a.chunks)

/-- The allocation of an order writes what it reserves for its lines, each by the strategy. -/
structure OrderFollows (c : WmsCtx) (strategy : AllocationStrategy) (orderId : ℕ)
    (lines : List OutboundOrderLine) (as : List AllocatedLine) : Prop where
  writes : Applies (chunkWrites (as.flatMap (·.chunks))
    ++[.update .outboundOrders orderId {status := .ALLOCATED}]) c.base c.view
  saw : c.Saw (Select.rows (D := wms) .outboundOrderLines (·.orderId=orderId)) lines
  each : (as.map (·.line)).Perm lines
  nodup : (lines.map (·.id)).Nodup
  follows : ∀ a∈as, LineFollows c strategy a

theorem LineFollows.later {c c' : WmsCtx} {R : WmsDb → WmsDb → Prop}
    {strategy : AllocationStrategy} {a : AllocatedLine} (h : LineFollows c strategy a)
    (hc : c.Moves R c') : LineFollows c' strategy a := by
  obtain ⟨rs,hrs,hline⟩ := h
  refine ⟨rs,hc.saw hrs,hline.imp_right ?_⟩
  rintro ⟨w,skuId,owned,quants,taken,hsku,hquants,hrest⟩
  exact ⟨w,skuId,owned,quants,taken,hc.base ▸ hsku,hc.saw hquants,hrest⟩

section Rules
variable {Mid : WmsCtx → Prop} {c₀ c : WmsCtx} {ws : List (Statement wms)}

/-- The allocator's loop reserves what filling takes: the induction is on the candidates, and
each piece leaves those after it as they were read. -/
theorem wp_allocateCandidates_fill {warehouseId : ℕ} {order : OutboundOrder}
    {line : OutboundOrderLine} {owner : Option WmsClient} {Q : Unit → WmsCtx → Prop} :
    ∀ {qs : List StockQuant} {n : ℤ} {ws : List (Statement wms)} {c : WmsCtx},
    (∀ q∈qs, Candidate (after ws c₀.view) line q) →
    (∀ q∈qs, 0<AardvarkWms.availableQuantity q) → Reaches c₀ ws c →
    (∀ xs c, Reaches c₀ (ws++chunkWrites xs) c →
      Pieces (fill AardvarkWms.availableQuantity qs n) xs → Q () c) →
    wp store Mid (allocateCandidates warehouseId order line owner qs n) c Q := by
  intro qs
  induction qs with
  | nil =>
    intro n ws c _ _ hc h
    exact h [] c (by simpa [chunkWrites] using hc) rfl
  | cons q qs ih =>
    intro n ws c hq hpos hc h
    have ha := hpos q List.mem_cons_self
    simp only [allocateCandidates,wp_ite]
    refine ⟨fun hdone => ?_,fun hwanted => ⟨fun hnone => ?_,fun hquantity => ?_⟩⟩
    · refine h [] c (by simpa [chunkWrites] using hc) ?_
      rw [fill_done _ hdone]
      rfl
    · omega
    · simp only [bind_eq,wp_bind]
      refine wp_allocateQuant (by omega) (hq q List.mem_cons_self) hc
        fun x c hc hx hfor hxn hid => ?_
      refine ih (fun q' hq' => ?_) (fun q' hq' => hpos q' (List.mem_cons_of_mem _ hq')) hc
        fun xs c hc hxs => ?_
      · rw [after_append]
        exact (hq q' (List.mem_cons_of_mem _ hq')).later x
      · refine h (x::xs) c (by simpa [chunkWrites] using hc) ?_
        unfold Pieces at hxs ⊢
        rw [fill_cons qs ha (not_le.mp hwanted),List.map_cons,List.map_cons,hxs,hid,hxn]

/-- The candidates are the quants of the SKU that were read, those of the owner where the order
has one, in the strategy's order. -/
theorem wp_findAvailable {warehouseId : ℕ} {line : OutboundOrderLine} {n : ℤ}
    {owner : Option WmsClient} {strategy : AllocationStrategy}
    {Q : List StockQuant → WmsCtx → Prop}
    (h : ∀ (skuId : ℕ) (owned : Option (List ℕ)) (quants eligible : List StockQuant) c',
      Reaches c [] c' → LineSku c.view line skuId →
      c'.Saw (Select.rows (D := wms) .stockQuants (allocatableQuant warehouseId skuId)) quants →
      eligible.Perm (quants.filter fun q => owned.all fun ids => ids.contains q.id) →
      (∀ q∈candidates record strategy eligible, Candidate c.view line q) →
      n≤((candidates record strategy eligible).map AardvarkWms.availableQuantity).sum →
      Q (candidates record strategy eligible) c') :
    wp store Mid (findAvailableStockQuants warehouseId line n owner strategy) c Q := by
  simp only [findAvailableStockQuants,bind_eq,pure_eq,wp_bind,wp_require,wp_done]
  refine wp_resolveLineSkuId (Reaches.refl c) fun skuId c₁ hc₁ hsku => ?_
  refine wp_reads (only_stockQuantScope _ _) hc₁ fun owned c₂ hc₂ => ?_
  refine wp_selects (t := .stockQuants) rfl hc₂ fun quants c₃ hc₃ hsaw _ hquants hle => ?_
  have hperm : ((quants.insertionSort fun a b => a.createdAt≤b.createdAt).filter
      fun q => owned.all fun ids => ids.contains q.id).Perm
      (quants.filter fun q => owned.all fun ids => ids.contains q.id) :=
    (List.perm_insertionSort _ _).filter _
  have hsame : ∀ eligible : List StockQuant,
      (eligible.filter fun q => 0<AardvarkWms.availableQuantity q).insertionSort
        (fun a b => AardvarkWms.compareStockQuantForAllocation strategy a b=true)=
      candidates record strategy eligible := by
    intro eligible
    unfold candidates sorted
    congr 1
    funext a b
    exact propext (compare_record strategy a b)
  rw [hsame] at hle ⊢
  refine h skuId owned quants _ c₃ hc₃ hsku hsaw hperm ?_ hle
  intro q hq
  have hmem := (sorted_perm _ _).mem_iff.mp hq
  have hmem := List.mem_of_mem_filter (hperm.mem_iff.mp (List.mem_of_mem_filter hmem))
  obtain ⟨hallocatable,hs⟩ := hquants q hmem
  simp only [allocatableQuant,Bool.and_eq_true,decide_eq_true_eq] at hallocatable
  exact ⟨hallocatable.1.2,hallocatable.2 ▸ hsku,hs⟩

theorem wp_allocateLine_follows {warehouseId : ℕ} {order : OutboundOrder}
    {line : OutboundOrderLine} {owner : Option WmsClient} {strategy : AllocationStrategy}
    (hbase : c.view .skus=c.base .skus) :
    wp store Mid (allocateLine warehouseId order owner strategy line) c
      (fun _ c' => ∃ xs, Reaches c (chunkWrites xs) c' ∧ LineFollows c' strategy ⟨line,xs⟩) := by
  simp only [allocateLine,countActiveReservations,bind_eq,pure_eq,wp_bind,wp_done,wp_ite]
  refine wp_selects (t := .reservations) rfl (Reaches.refl c) fun rs c₁ hc₁ hrs _ _ => ?_
  constructor
  · intro hpos
    have hrequired : max (line.orderedQuantity-line.pickedQuantity-activeQuantity rs) 0=
        line.orderedQuantity-line.pickedQuantity-activeQuantity rs := by omega
    rw [hrequired]
    refine wp_findAvailable fun skuId owned quants eligible c₂ hc₂ hsku hquants hperm hqs hle => ?_
    have hpositive : ∀ q∈candidates record strategy eligible,
        0<AardvarkWms.availableQuantity q := candidates_available eligible
    have hcandidates : ∀ q∈candidates record strategy eligible,
        Candidate (after [] c₁.view) line q := hqs
    refine wp_mono (fun _ c₃ hdone => ?_) (wp_logged (L := c₂.log) (fun _ hs => hs)
      (wp_allocateCandidates_fill hcandidates hpositive hc₂
        (Q := fun _ c₃ => ∃ xs, Reaches c₁ (chunkWrites xs) c₃ ∧ Pieces (fill
          AardvarkWms.availableQuantity (candidates record strategy eligible)
          (line.orderedQuantity-line.pickedQuantity-activeQuantity rs)) xs)
        fun xs c₃ hc₃ hxs => ⟨xs,hc₃,hxs⟩))
    obtain ⟨⟨xs,hc₃,hxs⟩,hlog⟩ := hdone
    refine ⟨xs,hc₁.append hc₃,rs,hc₃.saw hrs,.inr ⟨warehouseId,skuId,owned,quants,
      reserved record strategy eligible _,?_,hlog _ hquants,
      (follows_reserved eligible _).perm hperm,?_,hxs⟩⟩
    · have hskus : c₁.view .skus=c₃.base .skus := by
        rw [hc₃.base,hc₁.base,← hbase]
        exact hc₁.table rfl
      exact (lineSku_congr hskus.symm).mp hsku
    · have hrest : 0≤line.orderedQuantity-line.pickedQuantity-activeQuantity rs := by omega
      exact (fill_sum hpositive hrest).trans (min_eq_left hle)
  · intro hnone
    have hdone : line.orderedQuantity-line.pickedQuantity-activeQuantity rs≤0 := by omega
    exact ⟨[],hc₁,rs,hrs,.inl ⟨hdone,rfl⟩⟩

theorem wp_allocateOutboundOrder_follows (warehouse reference : Text)
    (dto : AllocateOutboundOrderDto) (d : WmsDb) :
    wp store Mid (allocateOutboundOrder warehouse reference dto) (.start d) (fun _ c =>
      ∃ orderId lines as, OrderFollows c (dto.allocationStrategy.getD .FEFO) orderId lines as) := by
  simp only [allocateOutboundOrder,findOrderLines,bind_eq,pure_eq,wp_bind,wp_done,wp_require]
  refine wp_reads (only_resolveWarehouse _) (Reaches.refl _) fun w c hc => ?_
  refine wp_reads (only_resolveOutboundOrderByReference _ _) hc fun o c hc => ?_
  refine wp_locks hc fun c hc _ => ?_
  refine wp_reads (only_resolveOutboundOrder _ _) hc fun order c hc => ?_
  refine wp_selects (t := .outboundOrderLines) rfl hc fun lines c₁ hc₁ hlines hnodup _ => ?_
  intro _
  refine wp_asides (aside_resolveAllocationOwner _ _ _) (Reaches.refl c₁) fun owner c hc _ => ?_
  have hstart : Reaches (.start d) [] c := hc₁.append hc
  have hskus : ∀ xs c', Reaches (.start d) (chunkWrites xs) c' → c'.view .skus=c'.base .skus := by
    intro xs c' hc'
    rw [hc'.base,hc'.table rfl,chunkWrites_skus]
    rfl
  refine wp_mono (fun _ c₂ hdone => ?_) (wp_for (fun rest c => ∃ as : List AllocatedLine,
      Reaches (.start d) (chunkWrites (as.flatMap (·.chunks))) c ∧
      c.Saw (Select.rows (D := wms) .outboundOrderLines (·.orderId=order.id)) lines ∧
      as.map (·.line)++rest=lines.insertionSort
        (fun a b => a.lineNumber.le b.lineNumber=true) ∧
      ∀ a∈as, LineFollows c (dto.allocationStrategy.getD .FEFO) a) ?_
    ⟨[],hstart,hc.saw hlines,rfl,fun a ha => by cases ha⟩)
  · obtain ⟨as,has,hsaw,hrows,hfollows⟩ := hdone
    refine wp_updates (Reaches.refl c₂) fun c₃ hc₃ => ?_
    rw [List.append_nil] at hrows
    have hall := has.append hc₃
    refine ⟨order.id,lines,as,?_,hc₃.saw hsaw,?_,hnodup,fun a ha => (hfollows a ha).later hc₃⟩
    · rw [hall.base]
      exact hall.view
    · rw [hrows]
      exact List.perm_insertionSort _ _
  · rintro line rest c ⟨as,has,hsaw,hrows,hfollows⟩
    refine wp_mono (fun _ c' hdone => ?_) (wp_allocateLine_follows (hskus _ c has))
    obtain ⟨xs,hc',hline⟩ := hdone
    refine ⟨as++[⟨line,xs⟩],?_,hc'.saw hsaw,by simpa using hrows,?_⟩
    · simpa [chunkWrites_append] using has.append hc'
    · intro a ha
      rcases List.mem_append.mp ha with ha|ha
      · exact (hfollows a ha).later hc'
      · rw [List.mem_singleton.mp ha]
        exact hline

/-- What the commits of a call do, where it allocates. -/
def AllocatesInOrder : Call → WmsCtx → Prop
  | .allocateOutboundOrder _ _ dto, c => ∃ orderId lines as,
    OrderFollows c (dto.allocationStrategy.getD .FEFO) orderId lines as
  | _, _ => True

theorem allocates_in_order (op : Call) : Spec store (AllocatesInOrder op) op.prog := by
  intro d
  cases op with
  | allocateOutboundOrder w o dto => exact wp_allocateOutboundOrder_follows w o dto d
  | _ => exact wp_true _

end Rules

end AardvarkWms.AllocationOrder
