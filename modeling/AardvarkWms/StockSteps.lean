import AardvarkWms.Effects
import AardvarkWms.Reservations

/-! What a statement can do to stock, said once: the tables that carry it, the reads
that find a row of it, and the elementary changes the operations are made of. -/
namespace AardvarkWms

open Transactions Transactions.Txn Relational

/-- The tables that the stock invariants are about. Ownership, tasks and serials stay
outside. -/
def stockTables : TableName → Bool
  | .stockQuants | .reservations | .outboundOrders | .outboundOrderLines | .stockMovements
  | .stockFreezes | .cycleCountPlans | .cycleCountTasks | .skus | .inboundShipmentLines
  | .shipmentPackages => true
  | _ => false

abbrev SameStock : WmsDb → WmsDb → Prop := SameOn stockTables

abbrev Aside (w : Statement wms) : Prop := ¬stockTables w.table=true

/-- On the stock tables `v'` is `v` with these statements. -/
def Applies (ws : List (Statement wms)) (v v' : WmsDb) : Prop := SameStock (after ws v) v'

section Applies
variable {ws ws' : List (Statement wms)} {v v' : WmsDb}

@[simp] theorem after_nil (v : WmsDb) : after [] v=v := rfl

@[simp] theorem after_cons (w : Statement wms) (ws : List (Statement wms)) (v : WmsDb) :
    after (w::ws) v=after ws (apply w v) := rfl

theorem after_append (ws ws' : List (Statement wms)) (v : WmsDb) :
    after (ws++ws') v=after ws' (after ws v) := by
  simp [after,Store.applyAll]

theorem after_congr {t : TableName} (h : v t=v' t) : after ws v t=after ws v' t := by
  have hall : SameOn (D := wms) (fun t' => decide (t'=t)) (after ws v) (after ws v') := by
    have hstart : SameOn (D := wms) (fun t' => decide (t'=t)) v v' := by
      intro t' ht
      rw [decide_eq_true_eq] at ht
      exact ht ▸ h
    exact sameOn_applyAll hstart
  exact hall t (by simp)

theorem after_of_table {t : TableName} (h : ∀ w∈ws, Statement.table w≠t) : after ws v t=v t := by
  induction ws generalizing v with
  | nil => rfl
  | cons w ws ih =>
    rw [after_cons,ih fun w' hw' => h w' (List.mem_cons_of_mem _ hw')]
    exact apply_of_table v (h w List.mem_cons_self)

theorem Applies.table (h : Applies ws v v') {t : TableName} (ht : stockTables t=true) :
    v' t=after ws v t := (h t ht).symm

end Applies

/-- The transaction came from `c` to `c'` and wrote `ws` to the stock tables. -/
abbrev Reaches (c : WmsCtx) (ws : List (Statement wms)) (c' : WmsCtx) : Prop :=
  c.Moves (Applies ws) c'

section Reaches
variable {ws ws' : List (Statement wms)} {c c' c'' : WmsCtx}

theorem Reaches.refl (c : WmsCtx) : Reaches c [] c := Reaching.refl c

theorem Reaches.append (h : Reaches c ws c') (h' : Reaches c' ws' c'') :
    Reaches c (ws++ws') c'' :=
  Reaching.append h h'

theorem Reaches.then (h : Reaches c ws c') (h' : Reaches c' [] c'') : Reaches c ws c'' := by
  simpa using h.append h'

theorem Reaches.reads (h : Reaches c ws c') (h' : c'.Moves Eq c'') : Reaches c ws c'' :=
  h.and_reads h'

theorem Reaches.asides (h : Reaches c ws c') (h' : c'.Moves SameStock c'') : Reaches c ws c'' :=
  Reaching.asides h h'

theorem Reaches.table (h : Reaches c ws c') {t : TableName} (ht : stockTables t=true) :
    c'.view t=after ws c.view t := h.view.table ht

end Reaches

theorem aside_insert {t : TableName} (ht : stockTables t=false) (r : t.Row) :
    Only Aside (insert (D := wms) t r) :=
  only_insert (D := wms) (by simp [Aside,Statement.table,ht])

theorem aside_update {t : TableName} (ht : stockTables t=false) (id : t.Id) (p : t.Patch) :
    Only Aside (update (D := wms) t id p) := by
  refine (only_update (D := wms) _ _ _).mpr ?_
  simp [Aside,Statement.table,ht]

section Owners

variable {ok : Statement wms → Prop}

theorem only_resolveWarehouse (reference : Text) : Only ok (resolveWarehouse reference) :=
  (only_findFirst (D := wms) _ _).bind fun _ => only_demand _ _

theorem only_resolveOwnerClient (warehouseId : ℕ) (reference : Option Text) :
    Only ok (resolveOwnerClient warehouseId reference) := by
  cases reference with
  | none => trivial
  | some r =>
    refine (only_findFirst (D := wms) _ _).bind fun _ => (only_demand _ _).bind fun _ => ?_
    refine (only_require _ _).bind fun _ => (only_find (D := wms) _ _).bind fun _ => ?_
    exact (only_require _ _).bind fun _ => trivial

theorem only_findResourceOwner (warehouseId : ℕ) (resource : ResourceType × Option ℕ) :
    Only ok (findResourceOwner warehouseId resource) := by
  obtain ⟨type,id⟩ := resource
  cases id with
  | none => trivial
  | some id =>
    refine (only_find (D := wms) _ _).bind fun link => ?_
    cases link with
    | none => trivial
    | some link =>
      exact (only_find (D := wms) _ _).bind fun _ => (only_demand _ _).bind fun _ => trivial

theorem only_resolveSingleOwnerFromResources (warehouseId : ℕ)
    (resources : List (ResourceType × Option ℕ)) :
    Only ok (resolveSingleOwnerFromResources warehouseId resources) :=
  (Only.each fun r _ => only_findResourceOwner _ r).bind fun _ =>
    (only_require _ _).bind fun _ => trivial

theorem only_assertActorCanAccessOwner (actor : AuthenticatedUser) (owner : Option WmsClient)
    (warehouseId : ℕ) : Only ok (assertActorCanAccessOwner actor owner warehouseId) :=
  Only.ite (fun _ => (only_demand _ _).bind fun _ => only_require _ _) (fun _ => trivial)

/-- The statements that link resources to their owners. -/
def Links (w : Statement wms) : Prop := w.table=.clientResourceLinks ∨ w.table=.ownerClientIds

theorem Links.aside (w : Statement wms) (h : Links w) : Aside w := by
  intro hstock
  cases h with
  | inl ht => rw [ht] at hstock; cases hstock
  | inr ht => rw [ht] at hstock; cases hstock

theorem links_mirrorOwnerClientIdToResource (type : ResourceType) (id clientId : ℕ) :
    Only Links (mirrorOwnerClientIdToResource type id clientId) := by
  refine Only.ite (fun _ => ?_) (fun _ => trivial)
  refine Only.bind ?_ fun _ => ?_
  · cases type <;> trivial
  · refine (only_find (D := wms) _ _).bind fun old => ?_
    cases old with
    | none => exact only_insert (D := wms) (.inr rfl)
    | some o => exact (only_update (D := wms) _ _ _).mpr (.inr rfl)

theorem links_ensureOwnedResourceLink (warehouseId clientId : ℕ) (type : ResourceType) (id : ℕ) :
    Only Links (ensureOwnedResourceLink warehouseId clientId type id) := by
  refine (only_find (D := wms) _ _).bind fun old => ?_
  cases old with
  | none => exact only_insert (D := wms) (.inl rfl)
  | some o =>
    refine (only_require _ _).bind fun _ => ?_
    exact (only_update (D := wms) _ _ _).mpr (.inl rfl)

theorem links_linkResourceToResolvedClient (warehouseId clientId : ℕ)
    (resource : ResourceType × Option ℕ) :
    Only Links (linkResourceToResolvedClient warehouseId clientId resource) := by
  obtain ⟨type,id⟩ := resource
  cases id with
  | none => trivial
  | some id =>
    exact (links_ensureOwnedResourceLink _ _ _ _).bind fun _ =>
      links_mirrorOwnerClientIdToResource _ _ _

theorem aside_linkResourceToResolvedClient (warehouseId clientId : ℕ)
    (resource : ResourceType × Option ℕ) :
    Only Aside (linkResourceToResolvedClient warehouseId clientId resource) :=
  (links_linkResourceToResolvedClient _ _ _).mono Links.aside

theorem links_linkOwnerResources (warehouseId : ℕ) (owner : WmsClient)
    (resources : List (ResourceType × Option ℕ)) :
    Only Links (linkOwnerResources warehouseId owner resources) :=
  (Only.each fun _ _ => links_linkResourceToResolvedClient _ _ _).bind fun _ => trivial

theorem aside_linkOwnerResources (warehouseId : ℕ) (owner : WmsClient)
    (resources : List (ResourceType × Option ℕ)) :
    Only Aside (linkOwnerResources warehouseId owner resources) :=
  (links_linkOwnerResources _ _ _).mono Links.aside

theorem aside_ensureOwnedResourceLinks (warehouseId clientId : ℕ)
    (resources : List (ResourceType × Option ℕ)) :
    Only Aside (ensureOwnedResourceLinks warehouseId clientId resources) := by
  refine Only.mono Links.aside ?_
  exact (Only.each fun _ _ => links_ensureOwnedResourceLink _ _ _ _).bind fun _ =>
    (Only.each fun _ _ => links_mirrorOwnerClientIdToResource _ _ _).bind fun _ => trivial

end Owners

theorem row_of_settled {v : WmsDb} {t : TableName} {id : t.Id} {r : t.Row}
    (hfixed : ∀ r : t.Row, TableName.fixed r=r) (h : Settled (D := wms) v t id r) :
    (v t).get? id=some r := by
  obtain ⟨r',hr',hf⟩ := h
  have hf : TableName.fixed r'=TableName.fixed r := hf
  rw [hfixed,hfixed] at hf
  exact hf ▸ hr'

/-- Two states of one quant: where updates do not go, they agree. -/
structure StockQuant.Alike (q q' : StockQuant) : Prop where
  id : q.id=q'.id
  warehouseId : q.warehouseId=q'.warehouseId
  locationId : q.locationId=q'.locationId
  skuId : q.skuId=q'.skuId
  status : q.status=q'.status

theorem alike_of_fixed {q q' : StockQuant}
    (h : TableName.fixed (t := .stockQuants) q=TableName.fixed (t := .stockQuants) q') :
    q.Alike q' := by
  simp only [TableName.fixed,StockQuant.mk.injEq] at h
  obtain ⟨hid,hwarehouse,hlocation,hsku,_,_,_,_,_,_,_,hstatus,_⟩ := h
  exact ⟨hid,hwarehouse,hlocation,hsku,hstatus⟩

theorem alike_of_settled {v : WmsDb} {id : ℕ} {q q' : StockQuant}
    (hs : Settled (D := wms) v .stockQuants id q) (hq : (v .stockQuants).get? id=some q') :
    q'.Alike q := by
  obtain ⟨q'',hq'',hf⟩ := hs
  have he : q'=q'' := Option.some.inj (hq.symm.trans hq'')
  exact he ▸ alike_of_fixed hf

/-- Two states of one reservation. -/
structure Reservation.Alike (r r' : Reservation) : Prop where
  id : r.id=r'.id
  outboundOrderLineId : r.outboundOrderLineId=r'.outboundOrderLineId
  stockQuantId : r.stockQuantId=r'.stockQuantId
  skuId : r.skuId=r'.skuId

theorem reservation_alike_of_settled {v : WmsDb} {id : ℕ} {r r' : Reservation}
    (hs : Settled (D := wms) v .reservations id r) (hr : (v .reservations).get? id=some r') :
    r'.Alike r := by
  obtain ⟨r'',hr'',hf⟩ := hs
  have he : r'=r'' := Option.some.inj (hr.symm.trans hr'')
  subst he
  have hf : TableName.fixed (t := .reservations) r'=TableName.fixed (t := .reservations) r := hf
  simp only [TableName.fixed,Reservation.mk.injEq] at hf
  obtain ⟨hid,_,_,hline,hquant,hsku,_⟩ := hf
  exact ⟨hid,hline,hquant,hsku⟩

/-- Two states of one task: its context stays. -/
structure WarehouseTask.Alike (t t' : WarehouseTask) : Prop where
  id : t.id=t'.id
  outboundOrderId : t.outboundOrderId=t'.outboundOrderId
  outboundOrderLineId : t.outboundOrderLineId=t'.outboundOrderLineId
  reservationId : t.reservationId=t'.reservationId

theorem task_alike_of_settled {v : WmsDb} {id : ℕ} {t : WarehouseTask}
    (hs : Settled (D := wms) v .warehouseTasks id t) :
    ∃ t' : WarehouseTask, (v .warehouseTasks).get? id=some t' ∧ t'.Alike t := by
  obtain ⟨t',ht',hf⟩ := hs
  have hf : TableName.fixed (t := .warehouseTasks) t'=TableName.fixed (t := .warehouseTasks) t := hf
  simp only [TableName.fixed,WarehouseTask.mk.injEq] at hf
  obtain ⟨hid,_,_,_,_,_,_,_,horder,hline,hreservation,_⟩ := hf
  exact ⟨t',ht',hid,horder,hline,hreservation⟩

section Rules
variable {Mid : WmsCtx → Prop} {c₀ c : WmsCtx} {ws : List (Statement wms)} {α : Type}

theorem wp_reads {prog : Wms α} {Q : α → WmsCtx → Prop} (hp : Only (fun _ => False) prog)
    (hc : Reaches c₀ ws c) (h : ∀ a c, Reaches c₀ ws c → Q a c) : wp store Mid prog c Q :=
  Reaching.wp_reads hc hp h

theorem wp_asides {prog : Wms α} {Q : α → WmsCtx → Prop} (hp : Only Aside prog)
    (hc : Reaches c₀ ws c) (h : ∀ a c, Reaches c₀ ws c → Q a c) : wp store Mid prog c Q :=
  Reaching.wp_asides hc hp h

theorem wp_updates {t : TableName} {id : t.Id} {p : t.Patch} {Q : Unit → WmsCtx → Prop}
    (hc : Reaches c₀ ws c) (h : ∀ c, Reaches c₀ (ws++[.update t id p]) c → Q () c) :
    wp store Mid (update (D := wms) t id p) c Q :=
  Reaching.wp_update hc h

theorem wp_inserts_unique {t : TableName} {r : t.Row} {Q : Unit → WmsCtx → Prop}
    (ht : stockTables t=true) (hc : Reaches c₀ ws c)
    (h : ∀ c, (after ws c₀.view t).get? (TableName.key r)=none →
      (∀ a, TableName.unique r=some a → ∀ s∈(after ws c₀.view t).rows, TableName.unique s≠some a) →
      Reaches c₀ (ws++[.insert t r]) c → Q () c) :
    wp store Mid (insert (D := wms) t r) c Q :=
  Reaching.wp_insert_unique hc ht h

theorem wp_inserts {t : TableName} {r : t.Row} {Q : Unit → WmsCtx → Prop}
    (ht : stockTables t=true) (hc : Reaches c₀ ws c)
    (h : ∀ c, (after ws c₀.view t).get? (TableName.key r)=none →
      Reaches c₀ (ws++[.insert t r]) c → Q () c) :
    wp store Mid (insert (D := wms) t r) c Q :=
  wp_inserts_unique ht hc fun c hn _ => h c hn

theorem wp_locks {t : TableName} {id : t.Id} {Q : Unit → WmsCtx → Prop} (hc : Reaches c₀ ws c)
    (h : ∀ c, Reaches c₀ ws c → Lock.row (D := wms) t id∈c.locks → Q () c) :
    wp store Mid (lockRow (D := wms) t id) c Q :=
  Reaching.wp_lockRow hc h

theorem wp_finds {t : TableName} {id : t.Id} {Q : Option t.Row → WmsCtx → Prop}
    (ht : stockTables t=true) (hc : Reaches c₀ ws c)
    (h : ∀ o c, Reaches c₀ ws c → c.Saw (Select.row (D := wms) t id) o → (∀ r, o=some r →
      TableName.key r=id ∧ Settled (D := wms) (after ws c₀.view) t id r) → Q o c) :
    wp store Mid (find (D := wms) t id) c Q :=
  Reaching.wp_find hc ht h

theorem wp_finds_held {t : TableName} {id : t.Id} {Q : Option t.Row → WmsCtx → Prop}
    (ht : stockTables t=true) (hk : Lock.row (D := wms) t id∈c.locks) (hc : Reaches c₀ ws c)
    (h : ∀ c, Reaches c₀ ws c → Q ((after ws c₀.view t).get? id) c) :
    wp store Mid (find (D := wms) t id) c Q :=
  Reaching.wp_find_held hc ht hk h

theorem wp_selects {t : TableName} {p : t.Row → Bool} {Q : List t.Row → WmsCtx → Prop}
    (ht : stockTables t=true) (hc : Reaches c₀ ws c)
    (h : ∀ rs c, Reaches c₀ ws c → c.Saw (Select.rows (D := wms) t p) rs →
      (rs.map (TableName.key (t := t))).Nodup →
      (∀ r∈rs, p r=true ∧ Settled (D := wms) (after ws c₀.view) t (TableName.key r) r) → Q rs c) :
    wp store Mid (findMany (D := wms) t p) c Q :=
  Reaching.wp_findMany hc ht h

theorem wp_firsts {t : TableName} {p : t.Row → Bool} {Q : Option t.Row → WmsCtx → Prop}
    (ht : stockTables t=true) (hc : Reaches c₀ ws c)
    (h : ∀ o c, Reaches c₀ ws c → (∀ r, o=some r → p r=true ∧
      Settled (D := wms) (after ws c₀.view) t (TableName.key r) r) → Q o c) :
    wp store Mid (findFirst (D := wms) t p) c Q := by
  simp only [findFirst,bind_eq,pure_eq,wp_bind,wp_done]
  refine wp_selects ht hc fun rs c hc _ _ hrs => h _ c hc fun r hr => ?_
  exact hrs r (List.mem_of_mem_head? hr)

theorem wp_selects_guarded {t : TableName} {p : t.Row → Bool} {k : Lock wms}
    {Q : List t.Row → WmsCtx → Prop} (ht : stockTables t=true) (hk : k∈c.locks)
    (hp : ∀ r, p r=true → k∈guards (D := wms) r) (hfixed : ∀ r, p (TableName.fixed r)=p r)
    (hc : Reaches c₀ ws c) (h : ∀ rs c, Reaches c₀ ws c →
      rs.map TableName.fixed=((after ws c₀.view t).rows.filter p).map TableName.fixed → Q rs c) :
    wp store Mid (findMany (D := wms) t p) c Q :=
  Reaching.wp_findMany_guarded hc ht hk hp hfixed h

theorem wp_freeze {input : StockFreezeCheckInput} {Q : Unit → WmsCtx → Prop}
    (hc : Reaches c₀ ws c) (h : ∀ c, Reaches c₀ ws c → Q () c) :
    wp store Mid (assertNoBlockingStockFreeze input) c Q :=
  wp_reads (only_assertNoBlockingStockFreeze input) hc fun _ => h

theorem wp_resolveStockQuant {warehouseId id : ℕ} {Q : StockQuant → WmsCtx → Prop}
    (hc : Reaches c₀ ws c) (h : ∀ q c, Reaches c₀ ws c → q.id=id → q.warehouseId=warehouseId →
      c.Saw (Select.row (D := wms) .stockQuants id) (some q) →
      Settled (D := wms) (after ws c₀.view) .stockQuants id q → Q q c) :
    wp store Mid (resolveStockQuant warehouseId id) c Q := by
  simp only [resolveStockQuant,findWhere,bind_eq,pure_eq,wp_bind,wp_done]
  refine wp_finds (t := .stockQuants) rfl hc fun o c hc hsaw ho => ?_
  simp only [wp_demand]
  intro q hq
  obtain ⟨rfl,hwh⟩ := Option.filter_eq_some_iff.mp hq
  obtain ⟨hid,hs⟩ := ho q rfl
  exact h q c hc hid (by simpa using hwh) hsaw hs

theorem wp_lockAndReloadStockQuant {warehouseId id : ℕ} {Q : StockQuant → WmsCtx → Prop}
    (hc : Reaches c₀ ws c) (h : ∀ q c, Reaches c₀ ws c →
      (after ws c₀.view .stockQuants).get? id=some q → q.warehouseId=warehouseId → Q q c) :
    wp store Mid (lockAndReloadStockQuant warehouseId id) c Q := by
  simp only [lockAndReloadStockQuant,resolveStockQuant,findWhere,bind_eq,pure_eq,wp_bind,wp_done]
  refine wp_locks hc fun c hc hk => ?_
  refine wp_finds_held (t := .stockQuants) rfl hk hc fun c hc => ?_
  simp only [wp_demand]
  intro q hq
  obtain ⟨hq,hwh⟩ := Option.filter_eq_some_iff.mp hq
  exact h q c hc hq (by simpa using hwh)

theorem wp_reserveStockQuant {stockQuant : StockQuant} {n : ℤ} {operation verb : String}
    {Q : Unit → WmsCtx → Prop} (hc : Reaches c₀ ws c)
    (h : ∀ q c, Reaches c₀
        (ws++[.update .stockQuants stockQuant.id {reservedQuantity := .increment n}]) c →
      (after ws c₀.view .stockQuants).get? stockQuant.id=some q → n≤availableQuantity q →
      Q () c) :
    wp store Mid (reserveStockQuant stockQuant n operation verb) c Q := by
  simp only [reserveStockQuant,bind_eq,wp_bind]
  refine wp_lockAndReloadStockQuant hc fun q c hc hq _ => ?_
  refine wp_freeze hc fun c hc => ?_
  simp only [wp_require]
  intro hn
  exact wp_updates hc fun c hc => h q c hc hq hn

end Rules

end AardvarkWms
