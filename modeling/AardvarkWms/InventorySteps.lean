import AardvarkWms.StockSteps
import AardvarkWms.Putaway
import AardvarkWms.Replenishment

/-! What the stock operations do to the stock tables when they commit. -/
namespace AardvarkWms

open Transactions Transactions.Txn Relational

/-- Where an operation puts stock: on a quant that is there, as it was read, or in a new one. -/
inductive Deposit
  | onto (q : StockQuant)
  | fresh (q : StockQuant)

namespace Deposit

def quant : Deposit → StockQuant
  | onto q => q
  | fresh q => q

def writes (version : ℕ) (n : ℤ) : Deposit → List (Statement wms)
  | onto q => [.update .stockQuants q.id {quantity := .increment n, version := version}]
  | fresh q => [.insert .stockQuants q]

/-- The quant is there, or its key is free and it holds just what is put there. -/
def Fits (v : WmsDb) (n : ℤ) : Deposit → Prop
  | onto q => Settled (D := wms) v .stockQuants q.id q
  | fresh q => (v .stockQuants).get? q.id=none ∧ q.quantity=n ∧ q.reservedQuantity=0

structure Valid (t : Deposit) (v : WmsDb) (n : ℤ) (i : StockQuantIdentity) : Prop where
  identity : quantIdentityWhere i t.quant=true
  fits : t.Fits v n

theorem Fits.present {v : WmsDb} {n : ℤ} {t : Deposit} (h : t.Fits v n) (version : ℕ) :
    Settled (D := wms) (after (t.writes version n) v) .stockQuants t.quant.id t.quant := by
  cases t with
  | onto q => exact h.later (store.later_apply _ _)
  | fresh q =>
    refine ⟨q,?_,rfl⟩
    rw [Deposit.writes,after_cons,after_nil,apply_insert_self]
    exact Table.get?_insert_new h.1

end Deposit

/-- A movement whose key and whose entry in the unique index are free. -/
structure NewMovement (v : WmsDb) (m : StockMovement) : Prop where
  key : (v .stockMovements).get? m.id=none
  unique : ∀ a, TableName.unique (t := .stockMovements) m=some a →
    ∀ s∈(v .stockMovements).rows, TableName.unique (t := .stockMovements) s≠some a

def NewMovements : WmsDb → List StockMovement → Prop
  | _, [] => True
  | v, m::ms => NewMovement v m ∧ NewMovements (apply (.insert .stockMovements m) v) ms

theorem NewMovements.append {ms ms' : List StockMovement} : ∀ {v : WmsDb}, NewMovements v ms →
    NewMovements (after (ms.map (Statement.insert (D := wms) .stockMovements)) v) ms' →
    NewMovements v (ms++ms') := by
  induction ms with
  | nil => exact fun _ h => h
  | cons m ms ih => exact fun h h' => ⟨h.1,ih h.2 h'⟩

section Movements
variable {v : WmsDb} {ms : List StockMovement}

theorem NewMovements.congr {v' : WmsDb} (h : NewMovements v ms)
    (he : v' .stockMovements=v .stockMovements) : NewMovements v' ms := by
  induction ms generalizing v v' with
  | nil => trivial
  | cons m ms ih =>
    obtain ⟨⟨hkey,hunique⟩,hrest⟩ := h
    refine ⟨⟨he ▸ hkey,fun a ha => he ▸ hunique a ha⟩,ih hrest ?_⟩
    simp [he]

theorem NewMovements.indexed (h : NewMovements v ms)
    (hv : Indexed (D := wms) .stockMovements (v .stockMovements)) :
    Indexed (D := wms) .stockMovements
      (after (ms.map (Statement.insert (D := wms) .stockMovements)) v .stockMovements) := by
  induction ms generalizing v with
  | nil => exact hv
  | cons m ms ih =>
    rw [List.map_cons,after_cons]
    refine ih h.2 ?_
    rw [apply_insert_self]
    exact hv.insert h.1.key h.1.unique

theorem NewMovements.rows (h : NewMovements v ms) :
    (after (ms.map (Statement.insert (D := wms) .stockMovements)) v .stockMovements).rows=
      (v .stockMovements).rows++ms := by
  induction ms generalizing v with
  | nil => simp
  | cons m ms ih =>
    rw [List.map_cons,after_cons,ih h.2,apply_insert_self,Table.rows_insert h.1.key]
    simp

end Movements

/-- The key was used before, for this very request, and nothing happens. -/
structure Repeated (warehouseId : ℕ) (type : StockMovementType) (request : StockRequest)
    (r : StockOperationResponse) (c : WmsCtx) : Prop where
  view : c.view=c.base
  movement : r.movement∈(c.base .stockMovements).rows
  warehouseId : r.movement.warehouseId=warehouseId
  type : r.movement.type=type
  key : r.movement.idempotencyKey=request.idempotencyKey
  fingerprint : r.movement.requestFingerprint=some request.requestFingerprint
  quant : r.movement.stockQuantId=some r.quant
  present : ∃ q : StockQuant, (c.base .stockQuants).get? r.quant=some q ∧
    q.warehouseId=r.movement.warehouseId

/-- The operation wrote `ws` to quants and a movement for the request. -/
structure Operated (input : CreateStockMovementInput) (ws : List (Statement wms))
    (r : StockOperationResponse) (c : WmsCtx) : Prop where
  writes : Applies (ws++[.insert .stockMovements r.movement]) c.base c.view
  quants : ∀ w∈ws, Statement.table w=.stockQuants
  movement : ∃ id, r.movement=operationMovement id input
  fresh : NewMovement c.base r.movement
  quant : r.quant=input.quantId
  present : ∃ q : StockQuant, (c.view .stockQuants).get? input.quantId=some q ∧
    q.warehouseId=input.warehouseId

/-- What a stock operation of the type does for the request. -/
def Processed (type : StockMovementType) (reference : Text) (request : StockRequest)
    (r : StockOperationResponse) (c : WmsCtx) : Prop :=
  ∃ w : Warehouse, reference.names w.id w.code=true ∧ (c.base .warehouses).get? w.id=some w ∧
    (Repeated w.id type request r c ∨ ∃ input ws, Operated input ws r c ∧
      input.warehouseId=w.id ∧ input.type=type ∧ input.request=request)

section Only
variable {ok : Statement wms → Prop}

theorem only_ownerClientIdOf (type : ResourceType) (id : ℕ) :
    Only ok (ownerClientIdOf type id) :=
  (only_find (D := wms) _ _).bind fun _ => only_done _

theorem only_withOwner (q : StockQuant) : Only ok (withOwner q) :=
  (only_ownerClientIdOf _ _).bind fun _ => only_done _

theorem only_resolveStockQuant (warehouseId id : ℕ) : Only ok (resolveStockQuant warehouseId id) :=
  (only_findWhere (D := wms) _ _ _).bind fun _ => only_demand _ _

theorem only_resolveLocation (warehouseId : ℕ) (reference : Text) :
    Only ok (resolveLocation warehouseId reference) :=
  (only_findFirst (D := wms) _ _).bind fun _ => only_demand _ _

theorem only_resolveSku (reference : Text) : Only ok (resolveSku reference) :=
  (only_findFirst (D := wms) _ _).bind fun _ => only_demand _ _

theorem only_resolveQuant (warehouseId : ℕ) (reference : Text) :
    Only ok (resolveQuant warehouseId reference) := by
  cases reference with
  | uuid id => exact only_resolveStockQuant _ _
  | word w => exact (only_findFirst (D := wms) _ _).bind fun _ => only_demand _ _

theorem only_findIdempotentOperation (warehouseId : ℕ) (type : StockMovementType)
    (request : StockRequest) : Only ok (findIdempotentOperation warehouseId type request) := by
  unfold findIdempotentOperation
  split
  · exact only_done _
  · refine (only_findMany (D := wms) _ _).bind fun movements => ?_
    cases movements.getLast? with
    | none => exact only_done _
    | some movement =>
      refine (only_require _ _).bind fun _ => (only_require _ _).bind fun _ => ?_
      refine (only_demand _ _).bind fun _ => (only_resolveStockQuant _ _).bind fun _ => ?_
      exact only_done _

theorem only_resolveMoveSourceQuant (warehouseId : ℕ) (dto : MoveStockDto) :
    Only ok (resolveMoveSourceQuant warehouseId dto) := by
  unfold resolveMoveSourceQuant
  split
  · exact only_resolveQuant _ _
  · refine (only_resolveSku _).bind fun _ => (only_resolveLocation _ _).bind fun _ => ?_
    exact (only_findMany (D := wms) _ _).bind fun _ => only_demand _ _
  · exact only_refuse _

theorem only_resolveAdjustTarget (warehouseId : ℕ) (dto : AdjustStockDto) :
    Only (fun _ => False) (resolveAdjustTarget warehouseId dto) := by
  unfold resolveAdjustTarget
  split
  · exact (only_resolveQuant _ _).bind fun _ => (only_ownerClientIdOf _ _).bind fun _ => only_done _
  · refine (only_resolveSku _).bind fun _ => (only_resolveLocation _ _).bind fun _ => ?_
    refine (only_findFirst (D := wms) _ _).bind fun quant => ?_
    cases quant with
    | none => exact only_done _
    | some q => exact (only_ownerClientIdOf _ _).bind fun _ => only_done _
  · exact only_refuse _

theorem only_resolveOperationOwner (warehouseId : ℕ) (reference : Option Text)
    (resources : List (ResourceType × Option ℕ)) :
    Only ok (resolveOperationOwner warehouseId reference resources) := by
  refine (only_resolveSingleOwnerFromResources _ _).bind fun inherited => ?_
  cases reference with
  | none => exact only_done _
  | some r =>
    refine (only_resolveOwnerClient _ _).bind fun _ => (only_demand _ _).bind fun _ => ?_
    exact (only_require _ _).bind fun _ => only_done _

theorem aside_linkStockOperation (warehouseId : ℕ) (owner : Option WmsClient) (quantId id : ℕ) :
    Only Aside (linkStockOperation warehouseId owner quantId id) := by
  cases owner with
  | none => exact only_done _
  | some owner =>
    exact (Only.each fun _ _ => aside_linkResourceToResolvedClient _ _ _).bind fun _ => only_done _

theorem only_setOwnerClientId {type : ResourceType} {id clientId : ℕ}
    (h : ∀ w : Statement wms, w.table=.ownerClientIds → ok w) :
    Only ok (setOwnerClientId type id clientId) := by
  refine (only_find (D := wms) _ _).bind fun old => ?_
  cases old with
  | none => exact only_insert (D := wms) (h _ rfl)
  | some o => exact (only_update (D := wms) _ _ _).mpr (h _ rfl)

theorem aside_setOwnerClientId (type : ResourceType) (id clientId : ℕ) :
    Only Aside (setOwnerClientId type id clientId) :=
  only_setOwnerClientId fun w hw => by simp [Aside,hw,stockTables]

theorem only_createQuant {i : StockQuantIdentity} {n : ℤ}
    (hquant : ∀ w : Statement wms, w.table=.stockQuants → ok w)
    (howner : ∀ w : Statement wms, w.table=.ownerClientIds → ok w) :
    Only ok (createQuant i n) := by
  refine only_fresh.bind fun id => only_fresh.bind fun createdAt => ?_
  refine Only.bind (only_insert (D := wms) (hquant _ rfl)) fun _ => ?_
  cases i.ownerClientId with
  | none => exact only_done _
  | some owner => exact (only_setOwnerClientId howner).bind fun _ => only_done _

theorem only_findByIdentity (owner : Option ℕ) (p : StockQuant → Bool) :
    Only ok (findByIdentity owner p) := by
  refine (only_findMany (D := wms) _ _).bind fun quants => ?_
  exact (Only.each fun q _ => only_withOwner q).bind fun _ => only_done _

end Only

section Rules
variable {Mid : WmsCtx → Prop} {c₀ c : WmsCtx} {ws : List (Statement wms)}

theorem wp_findByIdentity {owner : Option ℕ} {p : StockQuant → Bool}
    {Q : Option StockQuant → WmsCtx → Prop} (hc : Reaches c₀ ws c)
    (h : ∀ o c, Reaches c₀ ws c → (∀ q, o=some q → p q=true ∧
      Settled (D := wms) (after ws c₀.view) .stockQuants q.id q) → Q o c) :
    wp store Mid (findByIdentity owner p) c Q := by
  simp only [findByIdentity,bind_eq,pure_eq,wp_bind,wp_done]
  refine wp_selects (t := .stockQuants) rfl hc fun quants c hc _ _ hquants => ?_
  refine wp_mono (fun owned c hdone => ?_) (wp_each (R := fun q (x : StockQuant × Option ℕ) => x.1=q)
    (J := fun c => Reaches c₀ ws c) (fun q _ c hc => ?_) hc)
  · refine h _ c hdone.2 fun q hq => ?_
    obtain ⟨x,hx,rfl⟩ := Option.map_eq_some_iff.mp hq
    have hmem := List.mem_of_find?_eq_some hx
    obtain ⟨q',hq',he⟩ := hdone.1 x hmem
    exact he ▸ hquants q' hq'
  · simp only [withOwner,bind_eq,pure_eq,wp_bind,wp_done]
    exact wp_reads (only_ownerClientIdOf _ _) hc fun _ c hc => ⟨trivial,hc⟩

theorem wp_createQuant {i : StockQuantIdentity} {n : ℤ} {Q : StockQuant → WmsCtx → Prop}
    (hc : Reaches c₀ ws c)
    (h : ∀ q c, (Deposit.fresh q).Valid (after ws c₀.view) n i →
      Reaches c₀ (ws++(Deposit.fresh q).writes 0 n) c → Q q c) :
    wp store Mid (createQuant i n) c Q := by
  simp only [createQuant,bind_eq,pure_eq,wp_bind,wp_fresh]
  intro id createdAt
  refine wp_inserts (t := .stockQuants) rfl hc fun c hn hc => ?_
  have hvalid : ∀ q : StockQuant, q=⟨id,i.warehouseId,i.locationId,i.skuId,i.handlingUnitId,
      i.lotId,i.batch,i.expiry,none,n,0,i.status,1,createdAt⟩ →
      (Deposit.fresh q).Valid (after ws c₀.view) n i := by
    rintro q rfl
    exact ⟨by simp [quantIdentityWhere,Deposit.quant],hn,rfl,rfl⟩
  cases i.ownerClientId with
  | none => exact h _ c (hvalid _ rfl) hc
  | some owner =>
    simp only [wp_bind,wp_done]
    exact wp_asides (aside_setOwnerClientId _ _ _) hc fun _ c hc => h _ c (hvalid _ rfl) hc

theorem quantIdentityWhere_eq {i : StockQuantIdentity} {q : StockQuant}
    (h : quantIdentityWhere i q=true) : q.warehouseId=i.warehouseId ∧ q.skuId=i.skuId ∧
      q.locationId=i.locationId ∧ q.status=i.status ∧ q.lotId=i.lotId ∧ q.batch=i.batch ∧
      q.expiryDate=i.expiry := by
  simpa only [quantIdentityWhere,Bool.and_eq_true,decide_eq_true_eq,and_assoc] using h

theorem wp_incrementOrCreateQuant {i : StockQuantIdentity} {n : ℤ}
    {Q : StockQuant → WmsCtx → Prop} (hc : Reaches c₀ ws c)
    (h : ∀ (t : Deposit) c, t.Valid (after ws c₀.view) n i → Reaches c₀ (ws++t.writes 0 n) c →
      Q t.quant c) : wp store Mid (incrementOrCreateQuant i n) c Q := by
  simp only [incrementOrCreateQuant,bind_eq,wp_bind,wp_advisoryLock]
  refine wp_findByIdentity (hc.reads (c.moves_held _)) fun o c hc ho => ?_
  cases o with
  | some q =>
    obtain ⟨hi,hs⟩ := ho q rfl
    simp only [pure_eq,wp_bind,wp_done]
    exact wp_updates hc fun c hc => h (.onto q) c ⟨hi,hs⟩ hc
  | none => exact wp_createQuant hc fun q c hv hc => h (.fresh q) c hv hc

theorem wp_decrementQuant {q : StockQuant} {n : ℤ} {preserve : Bool} {Q : Unit → WmsCtx → Prop}
    (hc : Reaches c₀ ws c)
    (h : ∀ q' c, Reaches c₀ (ws++[.update .stockQuants q'.id {quantity := .decrement n}]) c →
      (after ws c₀.view .stockQuants).get? q.id=some q' → n≤q'.quantity →
      (preserve=true → q'.reservedQuantity≤q'.quantity-n) → Q () c) :
    wp store Mid (decrementQuant q n preserve) c Q := by
  simp only [decrementQuant,bind_eq,wp_bind,wp_require]
  refine wp_lockAndReloadStockQuant hc fun q' c hc hq _ => ?_
  refine wp_freeze hc fun c hc => ?_
  intro hn hpreserve
  exact wp_updates hc fun c hc => h q' c hc hq hn hpreserve

theorem wp_createStockMovement {input : CreateStockMovementInput}
    {Q : StockMovement → WmsCtx → Prop} (hc : Reaches c₀ ws c)
    (h : ∀ id c, NewMovement (after ws c₀.view) (operationMovement id input) →
      Reaches c₀ (ws++[.insert .stockMovements (operationMovement id input)]) c →
      Q (operationMovement id input) c) :
    wp store Mid (createStockMovement input) c Q := by
  simp only [createStockMovement,bind_eq,pure_eq,wp_bind,wp_fresh,wp_done]
  intro id
  exact wp_inserts_unique (t := .stockMovements) rfl hc fun c hn hu hc => h id c ⟨hn,hu⟩ hc

theorem wp_resolves {warehouseId id : ℕ} {d : WmsDb} {Q : StockQuant → WmsCtx → Prop}
    (hc : (Ctx.start d).Moves Eq c) (h : ∀ (q : StockQuant) c, (Ctx.start d).Moves Eq c → q.id=id →
      (∃ q' : StockQuant, (d .stockQuants).get? id=some q' ∧ q'.warehouseId=warehouseId) → Q q c) :
    wp store Mid (resolveStockQuant warehouseId id) c Q := by
  simp only [resolveStockQuant,bind_eq,wp_bind,wp_demand]
  refine wp_findWhere fun o ho q hq => ?_
  obtain ⟨hid,hwarehouse,q',hq',hf⟩ := ho q hq
  rw [← hc.view] at hq'
  refine h q _ (hc.and_reads (Ctx.moves_saw _ _ _)) hid ⟨q',hq',?_⟩
  exact (alike_of_fixed hf).warehouseId.trans (by simpa using hwarehouse)

theorem wp_findIdempotentOperation {warehouseId : ℕ} {type : StockMovementType}
    {request : StockRequest} {d : WmsDb} {Q : Option StockOperationResponse → WmsCtx → Prop}
    (hc : (Ctx.start d).Moves Eq c) (hnone : ∀ c, (Ctx.start d).Moves Eq c → Q none c)
    (hsome : ∀ (r : StockOperationResponse) c, c.base=d →
      Repeated warehouseId type request r c → Q (some r) c) :
    wp store Mid (findIdempotentOperation warehouseId type request) c Q := by
  unfold findIdempotentOperation
  cases hkey : request.idempotencyKey with
  | none => exact hnone c hc
  | some key =>
    simp only [bind_eq,pure_eq,wp_bind]
    refine wp_findMany fun movements _ hmovements => ?_
    have hsaw := fun p => hc.and_reads
      (Ctx.moves_saw (I := interface wms) c (.rows .stockMovements p) movements)
    cases hlast : movements.getLast? with
    | none => exact hnone _ (hsaw _)
    | some movement =>
      obtain ⟨hp,hs⟩ := hmovements movement (List.mem_of_getLast? hlast)
      simp only [Bool.and_eq_true,decide_eq_true_eq] at hp
      have hrow := row_of_settled (t := .stockMovements) (fun _ => rfl) hs
      rw [← hc.view] at hrow
      simp only [wp_bind,wp_require,wp_demand,wp_done]
      intro htype hfingerprint quantId hquant
      refine wp_resolves (hsaw _) fun q c' hc hid hpresent => ?_
      have hbase : c'.base=d := hc.base
      subst hbase
      refine hsome ⟨q.id,movement⟩ c' rfl ⟨hc.view.symm,(Table.mem_of_get? hrow).1,hp.1,htype,?_,
        hfingerprint,?_,?_⟩
      · exact hp.2.trans hkey.symm
      · exact hid ▸ hquant
      · rw [hp.1]
        exact hid ▸ hpresent

theorem operated_of_reaches {d : WmsDb} {input : CreateStockMovementInput} {id : ℕ}
    (hnew : NewMovement (after ws d) (operationMovement id input))
    (hws : ∀ w∈ws, Statement.table w=.stockQuants)
    (hquant : ∃ q, Settled (D := wms) (after ws d) .stockQuants input.quantId q ∧
      q.warehouseId=input.warehouseId)
    (hc : Reaches (.start d) (ws++[.insert .stockMovements (operationMovement id input)]) c) :
    Operated input ws ⟨input.quantId,operationMovement id input⟩ c := by
  have hbase : c.base=d := hc.base
  subst hbase
  refine ⟨hc.view,hws,⟨id,rfl⟩,?_,rfl,?_⟩
  · have htable : after ws c.base .stockMovements=c.base .stockMovements := by
      refine after_of_table fun w hw => ?_
      rw [hws w hw]
      decide
    exact ⟨htable ▸ hnew.key,htable ▸ hnew.unique⟩
  · obtain ⟨q,hs,hwarehouse⟩ := hquant
    obtain ⟨q',hq',hf⟩ := hs.later (store.later_applyAll
      [.insert .stockMovements (operationMovement id input)] _)
    have hview : c.view .stockQuants=
        after (ws++[.insert .stockMovements (operationMovement id input)]) c.base .stockQuants :=
      hc.table rfl
    refine ⟨q',?_,(alike_of_fixed hf).warehouseId.trans hwarehouse⟩
    rw [hview,after_append]
    exact hq'

end Rules

section Operations
variable {Mid : WmsCtx → Prop} {d : WmsDb}

theorem wp_resolveWarehouse {reference : Text} {Q : Warehouse → WmsCtx → Prop}
    (h : ∀ (w : Warehouse) c, (Ctx.start d).Moves Eq c → reference.names w.id w.code=true →
      (d .warehouses).get? w.id=some w → Q w c) :
    wp store Mid (resolveWarehouse reference) (.start d) Q := by
  simp only [resolveWarehouse,findFirst,bind_eq,pure_eq,wp_bind,wp_done,wp_demand]
  refine wp_findMany fun ws _ hws w hw => ?_
  obtain ⟨hp,hs⟩ := hws w (List.mem_of_mem_head? hw)
  exact h w _ (Ctx.moves_saw _ _ _) hp (row_of_settled (t := .warehouses) (fun _ => rfl) hs)

theorem wp_processes {reference : Text} {type : StockMovementType} {request : StockRequest}
    {body : Warehouse → Wms StockOperationResponse}
    (h : ∀ w : Warehouse, ∀ c, Reaches (.start d) [] c → wp store Mid (body w) c fun r c =>
      c.base=d ∧ ∃ input ws, Operated input ws r c ∧ input.warehouseId=w.id ∧ input.type=type ∧
        input.request=request) :
    wp store Mid (do
      let w ← resolveWarehouse reference
      match ← findIdempotentOperation w.id type request with
      | some existing => return existing
      | none => body w) (.start d) (Processed type reference request) := by
  simp only [bind_eq,wp_bind]
  refine wp_resolveWarehouse fun w c hc hnames hw => ?_
  refine wp_findIdempotentOperation hc ?_ ?_
  · intro c hc
    have hstart : Reaches (.start d) [] c := (Reaches.refl _).reads hc
    refine wp_mono (fun r c hr => ?_) (h w c hstart)
    obtain ⟨rfl,hr⟩ := hr
    exact ⟨w,hnames,hw,.inr hr⟩
  · intro r c hbase hr
    subst hbase
    exact ⟨w,hnames,hw,.inl hr⟩

theorem Deposit.Valid.present {v : WmsDb} {n : ℤ} {t : Deposit} {i : StockQuantIdentity}
    (h : t.Valid v n i) : ∃ q, Settled (D := wms) (after (t.writes 0 n) v) .stockQuants t.quant.id q ∧
      q.warehouseId=i.warehouseId :=
  ⟨t.quant,h.fits.present 0,(quantIdentityWhere_eq h.identity).1⟩

theorem Deposit.writes_table (t : Deposit) (version : ℕ) (n : ℤ) :
    ∀ w∈t.writes version n, Statement.table w=.stockQuants := by
  cases t <;> simp [Deposit.writes,Statement.table]

theorem wp_receive (reference : Text) (dto : ReceiveStockDto) :
    wp store Mid (receive reference dto) (.start d) (Processed .RECEIVE reference dto.request) := by
  refine wp_processes fun w c hc => ?_
  simp only [bind_eq,pure_eq,wp_bind,wp_done]
  refine wp_reads (only_resolveSku _) hc fun sku c hc => ?_
  refine wp_reads (only_resolveLocation _ _) hc fun location c hc => ?_
  refine wp_freeze hc fun c hc => ?_
  refine wp_reads (only_resolveOperationOwner _ _ _) hc fun owner c hc => ?_
  refine wp_incrementOrCreateQuant hc fun t c ht hc => ?_
  refine wp_createStockMovement hc fun id c hnew hc => ?_
  refine wp_asides (aside_linkStockOperation _ _ _ _) hc fun _ c hc => ?_
  refine ⟨hc.base,_,_,operated_of_reaches hnew ?_ ?_ hc,rfl,rfl,rfl⟩
  · simpa using t.writes_table 0 dto.quantity
  · simpa using ht.present

theorem wp_move (reference : Text) (dto : MoveStockDto) :
    wp store Mid (move reference dto) (.start d) (Processed .MOVE reference dto.request) := by
  refine wp_processes fun w c hc => ?_
  simp only [bind_eq,pure_eq,wp_bind,wp_done,wp_require]
  refine wp_reads (only_resolveLocation _ _) hc fun location c hc => ?_
  refine wp_reads (only_resolveMoveSourceQuant _ _) hc fun source c hc _ => ?_
  refine wp_reads (only_resolveStockQuant _ _) hc fun current c hc => ?_
  refine wp_reads (only_ownerClientIdOf _ _) hc fun currentOwner c hc => ?_
  refine wp_freeze hc fun c hc => ?_
  refine wp_decrementQuant hc fun q c hc _ _ _ => ?_
  refine wp_incrementOrCreateQuant hc fun t c ht hc => ?_
  refine wp_createStockMovement hc fun id c hnew hc => ?_
  refine wp_reads (only_resolveOperationOwner _ _ _) hc fun owner c hc => ?_
  refine wp_asides (aside_linkStockOperation _ _ _ _) hc fun _ c hc => ?_
  refine ⟨hc.base,_,_,operated_of_reaches hnew ?_ ?_ hc,rfl,rfl,rfl⟩
  · simpa [Statement.table] using t.writes_table 0 dto.quantity
  · rw [after_append]
    exact ht.present

theorem wp_adjust (reference : Text) (dto : AdjustStockDto) :
    wp store Mid (adjust reference dto) (.start d) (Processed .ADJUST reference dto.request) := by
  refine wp_processes fun w c hc => ?_
  simp only [bind_eq,wp_bind,wp_require]
  intro _
  refine wp_reads (only_resolveAdjustTarget _ _) hc fun target c hc => ?_
  have hdone : ∀ {ws : List (Statement wms)} {q : StockQuant} {quantId n : ℕ} {id delta c},
      (∀ w∈ws, Statement.table w=.stockQuants) →
      (after ws d .stockQuants).get? quantId=some q → q.warehouseId=w.id →
      NewMovement (after (ws++[.update .stockQuants q.id {quantity := .set (adjustedQuantity dto q.quantity)}]) d)
        (operationMovement id ⟨w.id,q.id,q.skuId,.ADJUST,delta,n,none,q.locationId,dto.request⟩) →
      Reaches (.start d) (ws++[.update .stockQuants q.id {quantity := .set (adjustedQuantity dto q.quantity)}]
        ++[.insert .stockMovements (operationMovement id
          ⟨w.id,q.id,q.skuId,.ADJUST,delta,n,none,q.locationId,dto.request⟩)]) c →
      c.base=d ∧ ∃ input ws, Operated input ws ⟨q.id,operationMovement id
          ⟨w.id,q.id,q.skuId,.ADJUST,delta,n,none,q.locationId,dto.request⟩⟩ c ∧
        input.warehouseId=w.id ∧ input.type=.ADJUST ∧ input.request=dto.request := by
    intro ws q quantId n id delta c hws hq hwarehouse hnew hc
    have hid : q.id=quantId := Table.key_of_get? hq
    subst hid
    refine ⟨hc.base,_,_,operated_of_reaches hnew ?_ ?_ hc,rfl,rfl,rfl⟩
    · intro w' hw'
      rcases List.mem_append.mp hw' with hw'|hw'
      · exact hws w' hw'
      · rw [List.mem_singleton.mp hw']
        rfl
    · refine ⟨q,?_,hwarehouse⟩
      rw [after_append]
      exact (settled_of_get? hq).later (store.later_applyAll _ _)
  cases target.quant with
  | some q =>
    simp only [wp_bind,wp_require]
    refine wp_reads (only_resolveStockQuant _ _) hc fun quant c hc => ?_
    refine wp_lockAndReloadStockQuant hc fun q c hc hq hwarehouse => ?_
    refine wp_freeze hc fun c hc _ _ => ?_
    refine wp_updates hc fun c hc => ?_
    refine wp_createStockMovement hc fun id c hnew hc => ?_
    refine wp_reads (only_resolveOperationOwner _ _ _) hc fun owner c hc => ?_
    refine wp_asides (aside_linkStockOperation _ _ _ _) hc fun _ c hc => ?_
    exact hdone (by simp) hq hwarehouse hnew hc
  | none =>
    simp only [wp_bind,wp_require]
    refine wp_incrementOrCreateQuant hc fun t c ht hc => ?_
    refine wp_lockAndReloadStockQuant hc fun q c hc hq hwarehouse => ?_
    refine wp_freeze hc fun c hc _ _ => ?_
    refine wp_updates hc fun c hc => ?_
    refine wp_createStockMovement hc fun id c hnew hc => ?_
    refine wp_reads (only_resolveOperationOwner _ _ _) hc fun owner c hc => ?_
    refine wp_asides (aside_linkStockOperation _ _ _ _) hc fun _ c hc => ?_
    exact hdone (by simpa using t.writes_table 0 0) hq hwarehouse hnew hc

theorem wp_transferQuantStatus {source : StockQuant} {quantity : Option ℤ}
    {targetStatus : StockQuantStatus} {type : StockMovementType} {request : StockRequest}
    {warehouseId : ℕ} {c : WmsCtx} (hc : Reaches (.start d) [] c) :
    wp store Mid (transferQuantStatus warehouseId source quantity targetStatus type request) c
      fun r c => c.base=d ∧ ∃ input ws, Operated input ws r c ∧ input.warehouseId=warehouseId ∧
        input.type=type ∧ input.request=request := by
  simp only [transferQuantStatus,bind_eq,pure_eq,wp_bind,wp_done,wp_require]
  refine wp_reads (only_resolveStockQuant _ _) hc fun source c hc => ?_
  refine wp_reads (only_ownerClientIdOf _ _) hc fun sourceOwner c hc _ _ => ?_
  refine wp_decrementQuant hc fun q c hc _ _ _ => ?_
  refine wp_incrementOrCreateQuant hc fun t c ht hc => ?_
  refine wp_createStockMovement hc fun id c hnew hc => ?_
  refine wp_reads (only_resolveOperationOwner _ _ _) hc fun owner c hc => ?_
  refine wp_asides (aside_linkStockOperation _ _ _ _) hc fun _ c hc => ?_
  refine ⟨hc.base,_,_,operated_of_reaches hnew ?_ ?_ hc,rfl,rfl,rfl⟩
  · simpa [Statement.table] using t.writes_table 0 _
  · rw [after_append]
    exact ht.present

theorem wp_block (reference quantReference : Text) (dto : TransferStockDto) :
    wp store Mid (block reference quantReference dto) (.start d)
      (Processed .BLOCK reference dto.request) := by
  refine wp_processes fun w c hc => ?_
  simp only [bind_eq,wp_bind,wp_require]
  intro _
  refine wp_reads (only_resolveQuant _ _) hc fun source c hc => ?_
  exact wp_transferQuantStatus hc

theorem wp_unblock (reference quantReference : Text) (dto : TransferStockDto) :
    wp store Mid (unblock reference quantReference dto) (.start d)
      (Processed .UNBLOCK reference dto.request) := by
  refine wp_processes fun w c hc => ?_
  simp only [bind_eq,wp_bind,wp_require]
  intro _
  refine wp_reads (only_resolveQuant _ _) hc fun source c hc _ => ?_
  exact wp_transferQuantStatus hc

end Operations

end AardvarkWms
