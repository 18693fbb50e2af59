import AardvarkWms.InventorySteps
import AardvarkWms.Outcomes
import Mathlib.Data.Countable.Basic
import Mathlib.Logic.Encodable.Basic
import Mathlib.Logic.Equiv.List
import Mathlib.Tactic.DeriveCountable

/-! Stock requests with a key: each takes effect once, and is answered with the movement
that it made then. -/
namespace AardvarkWms

open Transactions Transactions.Txn Relational

/-- A stock request with the part of its path that is no warehouse. -/
inductive StockCommand
  | receive (dto : ReceiveStockDto)
  | move (dto : MoveStockDto)
  | adjust (dto : AdjustStockDto)
  | block (quantReference : Text) (dto : TransferStockDto)
  | unblock (quantReference : Text) (dto : TransferStockDto)

namespace StockCommand

def type : StockCommand → StockMovementType
  | receive _ => .RECEIVE
  | move _ => .MOVE
  | adjust _ => .ADJUST
  | block _ _ => .BLOCK
  | unblock _ _ => .UNBLOCK

def request : StockCommand → StockRequest
  | receive dto => dto.request
  | move dto => dto.request
  | adjust dto => dto.request
  | block _ dto => dto.request
  | unblock _ dto => dto.request

def withRequest (r : StockRequest) : StockCommand → StockCommand
  | receive dto => receive {dto with request := r}
  | move dto => move {dto with request := r}
  | adjust dto => adjust {dto with request := r}
  | block q dto => block q {dto with request := r}
  | unblock q dto => unblock q {dto with request := r}

/-- The fingerprint is no part of a request: the service adds it. -/
def withFingerprint (fingerprint : ℕ) (k : StockCommand) : StockCommand :=
  k.withRequest {k.request with requestFingerprint := fingerprint}

def prog (warehouse : Text) : StockCommand → Wms StockOperationResponse
  | receive dto => AardvarkWms.receive warehouse dto
  | move dto => AardvarkWms.move warehouse dto
  | adjust dto => AardvarkWms.adjust warehouse dto
  | block q dto => AardvarkWms.block warehouse q dto
  | unblock q dto => AardvarkWms.unblock warehouse q dto

variable (k : StockCommand) (n : ℕ)

@[simp] theorem type_withFingerprint : (k.withFingerprint n).type=k.type := by
  cases k <;> rfl

@[simp] theorem key_withFingerprint :
    (k.withFingerprint n).request.idempotencyKey=k.request.idempotencyKey := by
  cases k <;> rfl

@[simp] theorem fingerprint_withFingerprint :
    (k.withFingerprint n).request.requestFingerprint=n := by
  cases k <;> rfl

theorem type_of_withFingerprint {k k' : StockCommand}
    (h : k.withFingerprint n=k'.withFingerprint n) : k.type=k'.type := by
  rw [← k.type_withFingerprint n,h,type_withFingerprint]

theorem wp_prog (warehouse : Text) {Mid : WmsCtx → Prop} {d : WmsDb} :
    wp store Mid (k.prog warehouse) (.start d) (Processed k.type warehouse k.request) := by
  cases k with
  | receive dto => exact wp_receive warehouse dto
  | move dto => exact wp_move warehouse dto
  | adjust dto => exact wp_adjust warehouse dto
  | block q dto => exact wp_block warehouse q dto
  | unblock q dto => exact wp_unblock warehouse q dto

end StockCommand

/-- A request as it comes in. `details` are the fields of its body that are only stored. -/
structure StockCall (Details : Type) where
  warehouse : Text
  actorId : ℕ
  command : StockCommand
  details : Details

/-- What is hashed for a request. -/
structure StockContent (Details : Type) where
  warehouseId : ℕ
  actorId : ℕ
  command : StockCommand
  details : Details

namespace StockCall
variable {Details : Type}

def key (k : StockCall Details) : Option IdempotencyKey := k.command.request.idempotencyKey

/-- The body, with the reference in the path. -/
def body (k : StockCall Details) : StockCommand × Details := (k.command.withFingerprint 0,k.details)

def content (warehouseId : ℕ) (k : StockCall Details) : StockContent Details :=
  ⟨warehouseId,k.actorId,k.command.withFingerprint 0,k.details⟩

/-- The request with the fingerprint that the service of the warehouse gives it. -/
def hashed (hash : StockContent Details → ℕ) (warehouseId : ℕ) (k : StockCall Details) : StockCommand :=
  k.command.withFingerprint (hash (k.content warehouseId))

def run (hash : StockContent Details → ℕ) (warehouseId : ℕ) (k : StockCall Details) :
    Wms StockOperationResponse :=
  (k.hashed hash warehouseId).prog k.warehouse

section Hashed
variable (hash : StockContent Details → ℕ) (warehouseId : ℕ) (k : StockCall Details)

@[simp] theorem type_hashed : (k.hashed hash warehouseId).type=k.command.type :=
  StockCommand.type_withFingerprint _ _

@[simp] theorem key_hashed : (k.hashed hash warehouseId).request.idempotencyKey=k.key :=
  StockCommand.key_withFingerprint _ _

@[simp] theorem fingerprint_hashed :
    (k.hashed hash warehouseId).request.requestFingerprint=hash (k.content warehouseId) :=
  StockCommand.fingerprint_withFingerprint _ _

end Hashed

end StockCall

/-- A request with what it is answered, so that a history shows the answers. -/
structure AnsweredCall (Details : Type) where
  call : StockCall Details
  response : StockOperationResponse

namespace AnsweredCall
variable {Details : Type}

/-- The calls that are answered otherwise are not this one. -/
def prog (hash : StockContent Details → ℕ) (warehouseId : ℕ) (a : AnsweredCall Details) : Wms Unit := do
  let r ← a.call.run hash warehouseId
  require (r=a.response) (.conflict "Answered otherwise")

def Effect (hash : StockContent Details → ℕ) (warehouseId : ℕ) (a : AnsweredCall Details) :
    WmsCtx → Prop :=
  Processed a.call.command.type a.call.warehouse (a.call.hashed hash warehouseId).request a.response

theorem effect (hash : StockContent Details → ℕ) (warehouseId : ℕ) (a : AnsweredCall Details) :
    Spec store (a.Effect hash warehouseId) (a.prog hash warehouseId) := by
  intro d
  simp only [prog,bind_eq,wp_bind,wp_require]
  refine wp_mono (fun r c hr he => ?_) (StockCommand.wp_prog _ _)
  rw [StockCall.type_hashed,he] at hr
  exact hr

end AnsweredCall

/-- Movements are told apart by their keys, and only the WMS gives keys. -/
structure WmsKeyed (d : WmsDb) : Prop where
  indexed : Indexed (D := wms) .stockMovements (d .stockMovements)
  source : ∀ m∈(d .stockMovements).rows, m.idempotencyKey.isSome=true →
    m.sourceSystem=some wmsSourceSystem

/-- The reference means the warehouse, and no other one. -/
def MeansOnly (v : WmsDb) (reference : Text) (warehouseId : ℕ) : Prop :=
  ((v .warehouses).rows.filter fun w => reference.names w.id w.code).map (·.id)=[warehouseId]

instance (v : WmsDb) (reference : Text) (warehouseId : ℕ) :
    Decidable (MeansOnly v reference warehouseId) := inferInstanceAs (Decidable (_=_))

section Step
variable {type : StockMovementType} {reference : Text} {request : StockRequest}
  {r : StockOperationResponse} {c : WmsCtx} {warehouseId : ℕ}

/-- What a request with a key leaves: its movement, with its quant. -/
structure Recorded (warehouseId : ℕ) (type : StockMovementType) (request : StockRequest)
    (m : StockMovement) (v : WmsDb) : Prop where
  present : (v .stockMovements).get? m.id=some m
  warehouseId : m.warehouseId=warehouseId
  type : m.type=type
  key : m.idempotencyKey=request.idempotencyKey
  fingerprint : m.requestFingerprint=some request.requestFingerprint
  quant : ∃ q : StockQuant, m.stockQuantId=some q.id ∧ (v .stockQuants).get? q.id=some q ∧
    q.warehouseId=m.warehouseId

theorem Operated.rows {input : CreateStockMovementInput} {ws : List (Statement wms)}
    (h : Operated input ws r c) : c.view .stockMovements=(c.base .stockMovements).insert r.movement := by
  have htable : after ws c.base .stockMovements=c.base .stockMovements := by
    refine after_of_table fun w hw => ?_
    rw [h.quants w hw]
    decide
  rw [h.writes.table (t := .stockMovements) rfl,after_append,after_cons,after_nil,
    apply_insert_self,htable]

theorem MeansOnly.eq {v : WmsDb} {w : Warehouse} (h : MeansOnly v reference warehouseId)
    (hnames : reference.names w.id w.code=true) (hw : (v .warehouses).get? w.id=some w) :
    w.id=warehouseId := by
  have hmem : w.id∈((v .warehouses).rows.filter fun w => reference.names w.id w.code).map (·.id) :=
    List.mem_map_of_mem (List.mem_filter.mpr ⟨(Table.mem_of_get? hw).1,hnames⟩)
  rw [h] at hmem
  simpa using hmem

theorem Processed.recorded (h : Processed type reference request r c)
    (hmeans : MeansOnly c.base reference warehouseId) :
    Recorded warehouseId type request r.movement c.view := by
  obtain ⟨w,hnames,hw,hdone⟩ := h
  obtain rfl := hmeans.eq hnames hw
  rcases hdone with h|⟨input,ws,h,hwarehouse,rfl,rfl⟩
  · rw [h.view]
    obtain ⟨q,hq,hquant⟩ := h.present
    have hid : q.id=r.quant := Table.key_of_get? hq
    refine ⟨Table.get?_key h.movement,h.warehouseId,h.type,h.key,h.fingerprint,q,?_,?_,hquant⟩
    · rw [hid]
      exact h.quant
    · rw [hid]
      exact hq
  · obtain ⟨id,hm⟩ := h.movement
    obtain ⟨q,hq,hquant⟩ := h.present
    have hid : q.id=input.quantId := Table.key_of_get? hq
    refine ⟨?_,?_,?_,?_,?_,q,?_,hid ▸ hq,?_⟩
    · rw [h.rows]
      exact Table.get?_insert_new h.fresh.key
    all_goals rw [hm]
    · exact hwarehouse
    · rfl
    · rfl
    · rfl
    · exact congrArg some hid.symm
    · exact hquant

theorem Recorded.later {m : StockMovement} {v v' : WmsDb}
    (h : Recorded warehouseId type request m v) (hlater : store.Later v v') :
    Recorded warehouseId type request m v' := by
  obtain ⟨q,hm,hq,hquant⟩ := h.quant
  obtain ⟨q',hq',hf⟩ := hlater .stockQuants _ _ hq
  have hid : q'.id=q.id := Table.key_of_get? hq'
  refine ⟨?_,h.warehouseId,h.type,h.key,h.fingerprint,q',hid ▸ hm,hid ▸ hq',?_⟩
  · exact row_of_settled (t := .stockMovements) (fun _ => rfl)
      ((settled_of_get? h.present).later hlater)
  · exact (alike_of_fixed hf).warehouseId.trans hquant

theorem Processed.keyed (h : Processed type reference request r c) (hbase : WmsKeyed c.base) :
    WmsKeyed c.view := by
  obtain ⟨w,_,_,h|⟨input,ws,h,_⟩⟩ := h
  · exact h.view ▸ hbase
  · obtain ⟨id,hm⟩ := h.movement
    constructor
    · rw [h.rows]
      exact hbase.indexed.insert h.fresh.key h.fresh.unique
    · intro m hmem hkey
      rw [h.rows,Table.rows_insert h.fresh.key] at hmem
      rcases List.mem_append.mp hmem with hmem|hmem
      · exact hbase.source m hmem hkey
      · rw [List.mem_singleton.mp hmem,hm] at hkey ⊢
        cases hk : input.request.idempotencyKey with
        | none => simp [operationMovement,hk] at hkey
        | some key => simp [operationMovement,hk]

theorem WmsKeyed.entry {v : WmsDb} (h : WmsKeyed v) {m : StockMovement}
    (hm : m∈(v .stockMovements).rows) {key : IdempotencyKey} (hkey : m.idempotencyKey=some key) :
    TableName.unique (t := .stockMovements) m=some (.movementKey wmsSourceSystem key) := by
  have hsource := h.source m hm (by simp [hkey])
  simp [TableName.unique,hsource,hkey]

theorem WmsKeyed.unique {v : WmsDb} (h : WmsKeyed v) {m m' : StockMovement}
    (hm : m∈(v .stockMovements).rows) (hm' : m'∈(v .stockMovements).rows) {key : IdempotencyKey}
    (hkey : m.idempotencyKey=some key) (hkey' : m'.idempotencyKey=some key) : m=m' := by
  refine h.indexed m hm m' hm' _ (h.entry hm hkey) (h.entry hm' hkey')

theorem Processed.repeats {type' : StockMovementType} {request' : StockRequest} {m : StockMovement}
    (h : Processed type reference request r c) (hbase : WmsKeyed c.base)
    (hm : Recorded warehouseId type' request' m c.base) {key : IdempotencyKey}
    (hkey : request.idempotencyKey=some key) (hkey' : request'.idempotencyKey=some key) :
    c.view=c.base ∧ r.movement=m ∧ type=type' ∧
      request.requestFingerprint=request'.requestFingerprint := by
  have hmem := (Table.mem_of_get? hm.present).1
  have hmkey : m.idempotencyKey=some key := hm.key.trans hkey'
  obtain ⟨w,hnames,hw,hdone⟩ := h
  rcases hdone with h|⟨input,ws,h,_,_,hrequest⟩
  · have he : r.movement=m := hbase.unique h.movement hmem (h.key.trans hkey) hmkey
    have hfingerprint := h.fingerprint
    rw [he,hm.fingerprint] at hfingerprint
    exact ⟨h.view,he,by rw [← h.type,he,hm.type],(Option.some.inj hfingerprint).symm⟩
  · obtain ⟨id,hid⟩ := h.movement
    have hnew : TableName.unique (t := .stockMovements) r.movement=
        some (.movementKey wmsSourceSystem key) := by
      rw [hid]
      simp [TableName.unique,operationMovement,hrequest,hkey]
    exact (h.fresh.unique _ hnew m hmem (hbase.entry hmem hmkey)).elim

end Step

section Alone
variable {M : Setting (interface wms) WmsDb} {n : ℕ} {v : WmsDb} {warehouseId : ℕ}
  {type : StockMovementType} {request : StockRequest} {m : StockMovement} {key : IdempotencyKey}

/-- The request is the one that made the movement. -/
def Matches (m : StockMovement) (type : StockMovementType) (request : StockRequest) : Prop :=
  m.type=type ∧ m.requestFingerprint=some request.requestFingerprint

theorem last_of_key (hkeyed : WmsKeyed v) (hm : (v .stockMovements).get? m.id=some m)
    (hwarehouse : m.warehouseId=warehouseId) (hkey : m.idempotencyKey=some key) :
    ((v .stockMovements).rows.filter fun m =>
      m.warehouseId=warehouseId && m.idempotencyKey=some key).getLast?=some m := by
  have hmem := (Table.mem_of_get? hm).1
  have hin : m∈(v .stockMovements).rows.filter fun m =>
      m.warehouseId=warehouseId && m.idempotencyKey=some key := by
    rw [List.mem_filter]
    exact ⟨hmem,by simp [hwarehouse,hkey]⟩
  cases hlast : ((v .stockMovements).rows.filter fun m =>
      m.warehouseId=warehouseId && m.idempotencyKey=some key).getLast? with
  | none =>
    rw [List.getLast?_eq_none_iff.mp hlast] at hin
    cases hin
  | some m' =>
    obtain ⟨hmem',hp⟩ := List.mem_filter.mp (List.mem_of_getLast? hlast)
    simp only [Bool.and_eq_true,decide_eq_true_eq] at hp
    rw [hkeyed.unique hmem' hmem hp.2 hkey]

theorem outcome_repeats {reference : Text} {body : Warehouse → Wms StockOperationResponse}
    {type' : StockMovementType} {request' : StockRequest}
    (hkeyed : WmsKeyed v) (hmeans : MeansOnly v reference warehouseId)
    (hm : Recorded warehouseId type' request' m v) (hkey' : request'.idempotencyKey=some key)
    (hkey : request.idempotencyKey=some key)
    {Q : StockOperationResponse → ℕ → WmsCtx → Prop}
    (hsame : Matches m type request → ∀ r c, r.movement=m → c.view=v → Q r n c)
    (hother : ¬Matches m type request → ∀ e, M.fault (.refused e)) :
    outcome store M (do
      let w ← resolveWarehouse reference
      match ← findIdempotentOperation w.id type request with
      | some existing => return existing
      | none => body w) n (.start v) Q := by
  have hfirst : ∃ w, ((v .warehouses).rows.filter fun w =>
      reference.names w.id w.code).head?=some w ∧ w.id=warehouseId := by
    unfold MeansOnly at hmeans
    cases hws : (v .warehouses).rows.filter fun w => reference.names w.id w.code with
    | nil => simp [hws] at hmeans
    | cons w ws =>
      rw [hws,List.map_cons] at hmeans
      exact ⟨w,rfl,List.head_eq_of_cons_eq hmeans⟩
  obtain ⟨w,hw,rfl⟩ := hfirst
  obtain ⟨q,hquant,hq,hqw⟩ := hm.quant
  simp only [resolveWarehouse,findIdempotentOperation,hkey,bind_eq,pure_eq,outcome_bind]
  refine outcome_findFirst.mpr ?_
  rw [Ctx.start,hw]
  simp only [demand,outcome_done]
  refine outcome_findMany.mpr ?_
  simp only [Ctx.saw_view]
  rw [last_of_key hkeyed hm.present hm.warehouseId (hm.key.trans hkey')]
  simp only [outcome_bind,outcome_require]
  by_cases htype : m.type=type
  · by_cases hfingerprint : m.requestFingerprint=some request.requestFingerprint
    · rw [if_pos htype,if_pos hfingerprint,hquant]
      simp only [resolveStockQuant,demand,bind_eq,outcome_bind,outcome_done]
      refine outcome_findWhere.mpr ?_
      simp only [Ctx.saw_view,hq,Option.filter_some]
      rw [if_pos (by simp [hqw,hm.warehouseId])]
      exact hsame ⟨htype,hfingerprint⟩ _ _ rfl rfl
    · rw [if_pos htype,if_neg hfingerprint]
      exact hother (fun h => hfingerprint h.2) _
  · rw [if_neg htype]
    exact hother (fun h => htype h.1) _

theorem StockCommand.outcome_prog (k : StockCommand) {reference : Text}
    {type' : StockMovementType} {request' : StockRequest}
    (hkeyed : WmsKeyed v) (hmeans : MeansOnly v reference warehouseId)
    (hm : Recorded warehouseId type' request' m v) (hkey' : request'.idempotencyKey=some key)
    (hkey : k.request.idempotencyKey=some key)
    {Q : StockOperationResponse → ℕ → WmsCtx → Prop}
    (hsame : Matches m k.type k.request → ∀ r c, r.movement=m → c.view=v → Q r n c)
    (hother : ¬Matches m k.type k.request → ∀ e, M.fault (.refused e)) :
    outcome store M (k.prog reference) n (.start v) Q := by
  cases k <;> exact outcome_repeats hkeyed hmeans hm hkey' hkey hsame hother

end Alone

/-- The permitted commits: requests in the warehouse, with a key. -/
def KeyedIn {Details : Type} (warehouseId : ℕ) (a : AnsweredCall Details) (c : WmsCtx) : Prop :=
  a.call.key.isSome=true ∧ MeansOnly c.base a.call.warehouse warehouseId

section Runs
variable {Details : Type} {hash : StockContent Details → ℕ} {warehouseId : ℕ} {d : WmsDb}
  {tr : List (AnsweredCall Details × WmsCtx)}
  {c : Config (interface wms) WmsDb (AnsweredCall Details)}

theorem keyed_commits (hstart : WmsKeyed d)
    (hrun : Run store (AnsweredCall.prog hash warehouseId) (KeyedIn warehouseId) d tr c) :
    WmsKeyed c.committed ∧ ∀ e∈tr, WmsKeyed e.2.base :=
  hrun.invariant (AnsweredCall.effect hash warehouseId) hstart fun _ _ hpost _ h => hpost.keyed h

theorem AnsweredCall.recorded {a : AnsweredCall Details} {x : WmsCtx} (hmem : (a,x)∈tr)
    (hrun : Run store (AnsweredCall.prog hash warehouseId) (KeyedIn warehouseId) d tr c) {v : WmsDb}
    (hlater : store.Later x.view v) :
    Recorded warehouseId a.call.command.type (a.call.hashed hash warehouseId).request
      a.response.movement v := by
  obtain ⟨hpost,hok⟩ := hrun.commits (AnsweredCall.effect hash warehouseId) _ hmem
  have hrecorded : Recorded _ _ _ _ x.view := Processed.recorded hpost hok.2
  exact hrecorded.later hlater

theorem StockCall.content_eq {k k' : StockCall Details} :
    k.content warehouseId=k'.content warehouseId ↔ k.actorId=k'.actorId ∧ k.body=k'.body := by
  simp [StockCall.content,StockCall.body]

theorem StockCall.type_of_body {k k' : StockCall Details} (h : k.body=k'.body) :
    k.command.type=k'.command.type :=
  StockCommand.type_of_withFingerprint 0 (congrArg Prod.fst h)

theorem StockCall.matches_iff (hhash : Function.Injective hash) {k k' : StockCall Details}
    {m : StockMovement} {v : WmsDb} (hm : Recorded warehouseId k'.command.type
      (k'.hashed hash warehouseId).request m v) :
    Matches m (k.hashed hash warehouseId).type (k.hashed hash warehouseId).request ↔
      k.actorId=k'.actorId ∧ k.body=k'.body := by
  rw [Matches,hm.type,hm.fingerprint,fingerprint_hashed,fingerprint_hashed,type_hashed,
    Option.some.injEq,hhash.eq_iff,eq_comm (b := k.content _),StockCall.content_eq]
  constructor
  · exact fun h => h.2
  · exact fun h => ⟨(StockCall.type_of_body h.2).symm,h⟩

/-- In every history of stock requests with keys in one warehouse, all but the first commit
of a key leave everything as it was, have the first one's content and are answered with its
movement; and a later request alone with that key, whoever brings it and whatever its
content, gets that movement if it is the same actor's with an equal body, and is refused
otherwise. -/
theorem stock_requests_once (hhash : Function.Injective hash) (hstart : WmsKeyed d)
    (hrun : Run store (AnsweredCall.prog hash warehouseId) (KeyedIn warehouseId) d tr c) :
    (tr.Pairwise fun later earlier => later.1.call.key=earlier.1.call.key →
      later.2.view=later.2.base ∧ later.1.call.actorId=earlier.1.call.actorId ∧
        later.1.call.body=earlier.1.call.body ∧
        later.1.response.movement=earlier.1.response.movement) ∧
    ∀ e∈tr, ∀ k : StockCall Details, k.key=e.1.call.key →
      MeansOnly c.committed k.warehouse warehouseId → ∀ ids n,
      (k.actorId=e.1.call.actorId ∧ k.body=e.1.call.body → ∃ x,
        alone store ids (k.run hash warehouseId) n [] (.start c.committed)=.ok x ∧
          x.ctx.view=c.committed ∧ x.value.movement=e.1.response.movement) ∧
      (¬(k.actorId=e.1.call.actorId ∧ k.body=e.1.call.body) → ∃ x,
        alone store ids (k.run hash warehouseId) n [] (.start c.committed)=.error (.refused x)) := by
  obtain ⟨hend,hkeyed⟩ := keyed_commits hstart hrun
  constructor
  · refine hrun.ordered.imp_of_mem ?_
    rintro ⟨a,x⟩ ⟨a',x'⟩ hmem hmem' hlater hkey
    obtain ⟨hpost,hok⟩ := hrun.commits (AnsweredCall.effect hash warehouseId) _ hmem
    obtain ⟨key,ha⟩ := Option.isSome_iff_exists.mp hok.1
    have hm := AnsweredCall.recorded hmem' hrun hlater
    obtain ⟨hview,hmovement,_,hfingerprint⟩ := Processed.repeats hpost (hkeyed _ hmem) hm
      ((StockCall.key_hashed _ _ _).trans ha) ((StockCall.key_hashed _ _ _).trans (hkey.symm.trans ha))
    rw [StockCall.fingerprint_hashed,StockCall.fingerprint_hashed] at hfingerprint
    obtain ⟨hactor,hbody⟩ := StockCall.content_eq.mp (hhash hfingerprint)
    exact ⟨hview,hactor,hbody,hmovement⟩
  · rintro ⟨a,x⟩ hmem k hkey hmeans ids n
    have hok := (hrun.commits (AnsweredCall.effect hash warehouseId) _ hmem).2
    obtain ⟨key,ha⟩ := Option.isSome_iff_exists.mp hok.1
    have hm := AnsweredCall.recorded hmem hrun (hrun.later _ hmem).2
    have hmatches := StockCall.matches_iff hhash (k := k) hm
    constructor
    · intro hsame
      have hout := (k.hashed hash warehouseId).outcome_prog (n := n)
        (M := ⟨store.accepts,ids,fun _ => False⟩) hend hmeans hm
        ((StockCall.key_hashed _ _ _).trans ha) ((StockCall.key_hashed _ _ _).trans (hkey.trans ha))
        (Q := fun r _ c' => r.movement=a.response.movement ∧ c'.view=c.committed)
        (fun _ r c' hr hview => ⟨hr,hview⟩) (fun hn => (hn (hmatches.mpr hsame)).elim)
      obtain ⟨x,hx,hmovement,hview⟩ := alone_ok hout []
      exact ⟨x,hx,hview,hmovement⟩
    · intro hother
      have hout := (k.hashed hash warehouseId).outcome_prog (n := n)
        (M := ⟨store.accepts,ids,fun f => ∃ e, f=.refused e⟩) hend hmeans hm
        ((StockCall.key_hashed _ _ _).trans ha) ((StockCall.key_hashed _ _ _).trans (hkey.trans ha))
        (Q := fun _ _ _ => False) (fun hs => (hother (hmatches.mp hs)).elim) (fun _ e => ⟨e,rfl⟩)
      obtain ⟨_,he,e,rfl⟩ := alone_error hout []
      exact ⟨e,he⟩

end Runs

instance charCountable : Countable Char :=
  Function.Injective.countable (f := Char.toNat) fun _ _ h => Char.toNat_inj.mp h

deriving instance Countable for Text
deriving instance Countable for StockQuantStatus
deriving instance Countable for StockRequest
deriving instance Countable for ReceiveStockDto
deriving instance Countable for MoveStockDto
deriving instance Countable for AdjustStockDto
deriving instance Countable for TransferStockDto
deriving instance Countable for StockCommand
deriving instance Countable for StockContent

theorem exists_hash (x : StockContent Unit) :
    ∃ hash : StockContent Unit → ℕ, Function.Injective hash ∧ hash x=0 := by
  obtain ⟨f,hf⟩ := exists_injective_nat (StockContent Unit)
  refine ⟨fun y => Equiv.swap (f x) 0 (f y),?_,Equiv.swap_apply_left _ _⟩
  exact (Equiv.injective _).comp hf

/-- A warehouse with one location and one SKU. -/
def shelf : WmsDb := after
  [.insert .warehouses ⟨1,.word 1⟩,
   .insert .warehouseLocations ⟨1,1,.word 0,none,none,none,.STORAGE,true⟩,
   .insert .skus ⟨7,.word 7,none,⟨false,false,false⟩⟩] emptyDb

theorem wmsKeyed_shelf : WmsKeyed shelf := by
  constructor
  · intro m hm
    cases hm
  · intro m hm
    cases hm

/-- Five pieces come in. -/
def demoStockCall (actorId : ℕ) : StockCall Unit :=
  {warehouse := .word 1, actorId := actorId, details := (),
   command := .receive
     {request := ⟨none,some ['k'],0⟩, skuReference := .word 7, locationReference := .word 0,
      quantity := 5, status := none, batch := none, expiry := none, quantity_pos := by decide}}

def demoAnswered : AnsweredCall Unit :=
  ⟨demoStockCall 1,10,operationMovement 12 ⟨1,10,7,.RECEIVE,5,5,none,1,⟨none,some ['k'],0⟩⟩⟩

theorem alone_demo {hash : StockContent Unit → ℕ} (h : hash ((demoStockCall 1).content 1)=0) :
    ∃ e, alone store id (demoAnswered.prog hash 1) 10 [] (.start shelf)=.ok e ∧ e.mids=[] ∧
      MeansOnly e.ctx.base (.word 1) 1 ∧ MeansOnly e.ctx.view (.word 1) 1 := by
  have hprog : demoAnswered.prog hash 1=(((demoStockCall 1).command.withFingerprint 0).prog
      (.word 1)).bind fun r => require (r=demoAnswered.response) (.conflict "Answered otherwise") := by
    rw [← h]
    rfl
  rw [hprog]
  exact ⟨_,rfl,rfl,by decide,by decide⟩

/-- The history in which they come in once. -/
theorem run_demo {hash : StockContent Unit → ℕ} (h : hash ((demoStockCall 1).content 1)=0) :
    ∃ x v, Run store (AnsweredCall.prog hash 1) (KeyedIn 1) shelf [(demoAnswered,x)] (.idle v) ∧
      MeansOnly v (.word 1) 1 := by
  obtain ⟨e,he,hmids,hbase,hview⟩ := alone_demo h
  refine ⟨e.ctx,e.ctx.view,?_,hview⟩
  have hserial : serially store (AnsweredCall.prog hash 1) id [demoAnswered] 10 [] shelf=
      .ok ([(demoAnswered,e.ctx)],e.ctx.view) := by
    simp [serially,he,hmids]
  refine Run.serially hserial .start ?_
  intro y hy
  rw [List.mem_singleton.mp hy]
  exact ⟨rfl,hbase⟩

theorem stock_requests_once_demo : ∃ hash : StockContent Unit → ℕ, ∃ x v,
    Run store (AnsweredCall.prog hash 1) (KeyedIn 1) shelf [(demoAnswered,x)] (.idle v) ∧
    (∃ y, alone store id ((demoStockCall 1).run hash 1) 50 [] (.start v)=.ok y ∧ y.ctx.view=v ∧
      y.value.movement=demoAnswered.response.movement) ∧
    ∃ e, alone store id ((demoStockCall 2).run hash 1) 50 [] (.start v)=.error (.refused e) := by
  obtain ⟨hash,hhash,hzero⟩ := exists_hash ((demoStockCall 1).content 1)
  obtain ⟨x,v,hrun,hmeans⟩ := run_demo hzero
  have hlater := (stock_requests_once hhash wmsKeyed_shelf hrun).2 _ List.mem_cons_self
  refine ⟨hash,x,v,hrun,?_,?_⟩
  · exact (hlater (demoStockCall 1) rfl hmeans id 50).1 ⟨rfl,rfl⟩
  · exact (hlater (demoStockCall 2) rfl hmeans id 50).2 (fun h => absurd h.1 (show ¬(2:ℕ)=1 by decide))

/-- Another actor with an equal body is refused. -/
theorem equal_body_refused : ¬∀ (hash : StockContent Unit → ℕ) (warehouseId : ℕ) (d : WmsDb)
    (tr : List (AnsweredCall Unit × WmsCtx)) (c : Config (interface wms) WmsDb (AnsweredCall Unit)),
    Function.Injective hash → WmsKeyed d →
    Run store (AnsweredCall.prog hash warehouseId) (KeyedIn warehouseId) d tr c →
    ∀ e∈tr, ∀ k : StockCall Unit, k.key=e.1.call.key → k.body=e.1.call.body →
      MeansOnly c.committed k.warehouse warehouseId → ∃ x,
        alone store id (k.run hash warehouseId) 50 [] (.start c.committed)=.ok x ∧
          x.ctx.view=c.committed ∧ x.value.movement=e.1.response.movement := by
  intro hclaim
  obtain ⟨hash,hhash,hzero⟩ := exists_hash ((demoStockCall 1).content 1)
  obtain ⟨x,v,hrun,hmeans⟩ := run_demo hzero
  obtain ⟨y,hy,_⟩ := hclaim hash 1 shelf _ _ hhash wmsKeyed_shelf hrun _ List.mem_cons_self
    (demoStockCall 2) rfl rfl hmeans
  have hm := AnsweredCall.recorded (List.mem_singleton_self _) hrun (hrun.later _ List.mem_cons_self).2
  have hend := (keyed_commits wmsKeyed_shelf hrun).1
  have hkey : ∀ actorId, ((demoStockCall actorId).hashed hash 1).request.idempotencyKey=some ['k'] :=
    fun _ => rfl
  have hout := ((demoStockCall 2).hashed hash 1).outcome_prog (n := 50)
    (M := ⟨store.accepts,id,fun f => ∃ e, f=.refused e⟩) hend hmeans hm
    (hkey 1) (hkey 2) (Q := fun _ _ _ => False)
    (fun hs => absurd ((StockCall.matches_iff hhash hm).mp hs).1 (by decide)) (fun _ e => ⟨e,rfl⟩)
  obtain ⟨_,he,_⟩ := alone_error hout []
  have he : alone store id ((demoStockCall 2).run hash 1) 50 [] (.start v)=_ := he
  have hboth := hy.symm.trans he
  cases hboth

end AardvarkWms
