import AardvarkWms.Overlap
import AardvarkWms.Workflow

/-! Release, completion and cancellation of warehouse orders: `src/warehouse-orders`. The order is
read and its transition checked before the transaction, which begins by updating the order's row and
so keeps the other transactions of this order off. -/
namespace AardvarkWms.WarehouseOrders

open Messaging (Str trim)
open OrderUpdates (Uuid isUuid)
open Workflow (evaluateWorkflowTransition)
open Transactions Transactions.Txn

inductive WarehouseOrderType
  | MOVE | PUTAWAY | PICK | REPLENISH | COUNT | LOAD | ADJUSTMENT
  deriving DecidableEq

inductive WarehouseOrderStatus
  | DRAFT | RELEASED | IN_PROGRESS | PARTIALLY_COMPLETED | COMPLETED | CANCELLED | EXCEPTION
  deriving DecidableEq

def WarehouseOrderStatus.value : WarehouseOrderStatus → String
  | DRAFT => "DRAFT"
  | RELEASED => "RELEASED"
  | IN_PROGRESS => "IN_PROGRESS"
  | PARTIALLY_COMPLETED => "PARTIALLY_COMPLETED"
  | COMPLETED => "COMPLETED"
  | CANCELLED => "CANCELLED"
  | EXCEPTION => "EXCEPTION"

inductive WarehouseOrderLineStatus
  | OPEN | ALLOCATED | IN_PROGRESS | DONE | CANCELLED | EXCEPTION
  deriving DecidableEq

structure WarehouseOrder where
  id : Uuid
  warehouseId : Uuid
  orderNumber : Str
  orderType : WarehouseOrderType
  status : WarehouseOrderStatus
  priority : ℤ
  deriving DecidableEq

structure WarehouseOrderLine where
  id : Uuid
  warehouseOrderId : Uuid
  lineNumber : Str
  skuId : Option Uuid
  requestedQuantity : ℤ
  allocatedQuantity : ℤ
  completedQuantity : ℤ
  status : WarehouseOrderLineStatus
  deriving DecidableEq

/-- A link of a task to an order, and to a line of it. -/
structure WarehouseOrderTask where
  warehouseOrderId : Uuid
  warehouseOrderLineId : Option Uuid
  warehouseTaskId : ℕ
  deriving DecidableEq

structure WarehouseTask where
  id : ℕ
  warehouseId : Uuid
  type : WarehouseTaskType
  status : WarehouseTaskStatus
  skuId : Option Uuid
  quantity : ℤ
  priority : ℤ
  externalReference : Str
  deriving DecidableEq

structure OrderDb where
  warehouses : List OrderUpdates.Warehouse
  orders : Table WarehouseOrder.id
  lines : Table WarehouseOrderLine.id
  links : List WarehouseOrderTask
  tasks : Table WarehouseTask.id

/-- The statements that change something. -/
inductive Write
  | setOrder (id : Uuid) (status : WarehouseOrderStatus)
  | insertTask (task : WarehouseTask)
  | insertLink (link : WarehouseOrderTask)
  | startLine (id : Uuid)
  | completeLines (warehouseOrderId : Uuid)
  | cancelLines (warehouseOrderId : Uuid)
  | completeTasks (warehouseOrderId : Uuid)
  | cancelTasks (warehouseOrderId : Uuid)

def WarehouseOrder.withStatus (status : WarehouseOrderStatus) (o : WarehouseOrder) : WarehouseOrder :=
  {o with status := status}

def WarehouseTask.withStatus (status : WarehouseTaskStatus) (t : WarehouseTask) : WarehouseTask :=
  {t with status := status}

def WarehouseOrderLine.start (l : WarehouseOrderLine) : WarehouseOrderLine :=
  {l with status := .IN_PROGRESS, allocatedQuantity := l.requestedQuantity}

def WarehouseOrderLine.complete (l : WarehouseOrderLine) : WarehouseOrderLine :=
  {l with status := .DONE, completedQuantity := l.requestedQuantity}

def WarehouseOrderLine.cancel (l : WarehouseOrderLine) : WarehouseOrderLine :=
  {l with status := .CANCELLED}

namespace OrderDb
variable (db : OrderDb)

/-- The order has a link to the task. -/
def isLinked (warehouseOrderId : Uuid) (taskId : ℕ) : Bool :=
  db.links.any fun k => k.warehouseOrderId=warehouseOrderId && k.warehouseTaskId=taskId

def setTasks (p : WarehouseTask → Bool) (status : WarehouseTaskStatus) : OrderDb :=
  {db with tasks := db.tasks.modifyWhere p (.withStatus status) fun _ => rfl}

def setLines (p : WarehouseOrderLine → Bool) (f : WarehouseOrderLine → WarehouseOrderLine)
    (hf : ∀ l, (f l).id=l.id) : OrderDb :=
  {db with lines := db.lines.modifyWhere p f hf}

/-- A link that is there already is kept. -/
def insertLink (link : WarehouseOrderTask) : OrderDb :=
  if db.isLinked link.warehouseOrderId link.warehouseTaskId then db
  else {db with links := db.links++[link]}

end OrderDb

/-- What each statement changes. Completion asks for the tasks that are not
DONE, cancellation for those that are neither DONE nor CANCELLED. -/
def apply : Write → OrderDb → OrderDb
  | .setOrder id status, db =>
    {db with orders := db.orders.modify id (.withStatus status) fun _ => rfl}
  | .insertTask task, db => {db with tasks := db.tasks.insert task}
  | .insertLink link, db => db.insertLink link
  | .startLine id, db => db.setLines (fun l => l.id=id) WarehouseOrderLine.start fun _ => rfl
  | .completeLines id, db =>
    db.setLines (fun l => l.warehouseOrderId=id) WarehouseOrderLine.complete fun _ => rfl
  | .cancelLines id, db =>
    db.setLines (fun l => l.warehouseOrderId=id && l.status≠.DONE)
      WarehouseOrderLine.cancel fun _ => rfl
  | .completeTasks id, db => db.setTasks (fun t => db.isLinked id t.id && t.status≠.DONE) .DONE
  | .cancelTasks id, db =>
    db.setTasks (fun t => db.isLinked id t.id && t.status∉[.DONE,.CANCELLED]) .CANCELLED

/-- The locks: the row of an order, under which its lines and its tasks are written too, and the key
of a task that is inserted. -/
inductive Key
  | order (id : Uuid)
  | task (id : ℕ)
  deriving DecidableEq

def keys : Write → List Key
  | .setOrder id _ => [.order id]
  | .insertTask task => [.task task.id]
  | _ => []

inductive OrderError
  | notFound (message : String)
  | conflict (message : Str)
  | duplicate
  | otherOrder
  deriving DecidableEq

inductive Query
  | warehouse (p : OrderUpdates.Warehouse → Bool)
  | order (p : WarehouseOrder → Bool)
  | lines (warehouseOrderId : Uuid)
  | taken (taskId : ℕ)

abbrev Query.Answer : Query → Type
  | .warehouse _ => Option OrderUpdates.Warehouse
  | .order _ => Option WarehouseOrder
  | .lines _ => List WarehouseOrderLine
  | .taken _ => Bool

def answer : (q : Query) → OrderDb → q.Answer
  | .warehouse p, db => db.warehouses.find? p
  | .order p, db => db.orders.rows.find? p
  | .lines id, db => db.lines.rows.filter fun l => l.warehouseOrderId=id
  | .taken id, db => (db.tasks.get? id).isSome

abbrev interface : Interface where
  Query := Query
  Answer := Query.Answer
  Write := Write
  Key := Key
  Err := OrderError

abbrev Tx (α : Type) : Type := Txn interface α

/-- Which line belongs to which order: no statement changes it. -/
def OrderDb.placed (db : OrderDb) : List (Uuid × Uuid) :=
  db.lines.rows.map fun l => (l.id,l.warehouseOrderId)

theorem placed_setLines {db : OrderDb} {p : WarehouseOrderLine → Bool}
    {f : WarehouseOrderLine → WarehouseOrderLine} (hf : ∀ l, (f l).id=l.id)
    (horder : ∀ l, (f l).warehouseOrderId=l.warehouseOrderId) :
    (db.setLines p f hf).placed=db.placed := by
  unfold OrderDb.placed OrderDb.setLines
  rw [show (db.lines.modifyWhere p f hf).rows=db.lines.rows.map fun l => if p l then f l else l from rfl,
    List.map_map]
  refine List.map_congr_left fun l _ => ?_
  by_cases hp : p l=true <;> simp [hp,hf,horder]

theorem placed_apply (w : Write) (db : OrderDb) : (apply w db).placed=db.placed := by
  cases w with
  | setOrder id status => rfl
  | insertTask task => rfl
  | insertLink link =>
    change (db.insertLink link).placed=db.placed
    unfold OrderDb.insertLink
    split <;> rfl
  | startLine id => exact placed_setLines _ fun _ => rfl
  | completeLines id => exact placed_setLines _ fun _ => rfl
  | cancelLines id => exact placed_setLines _ fun _ => rfl
  | completeTasks id => rfl
  | cancelTasks id => rfl

/-- Whether there is a task with a number. -/
def OrderDb.hasTask (db : OrderDb) (id : ℕ) : Bool := (db.tasks.get? id).isSome

theorem get?_setTasks {db : OrderDb} {p : WarehouseTask → Bool} {status : WarehouseTaskStatus} (id : ℕ) :
    (db.setTasks p status).tasks.get? id=
      (db.tasks.get? id).map fun t => if p t then t.withStatus status else t :=
  Table.get?_modifyWhere _ _ (WarehouseTask.withStatus status) (fun _ => rfl) _

theorem get?_setOrder {db : OrderDb} {id : Uuid} {status : WarehouseOrderStatus} (i : Uuid) :
    (apply (.setOrder id status) db).orders.get? i=
      if i=id then (db.orders.get? i).map (.withStatus status) else db.orders.get? i :=
  Table.get?_modify _ _ (WarehouseOrder.withStatus status) (fun _ => rfl) _

theorem hasTask_setTasks {db : OrderDb} {p : WarehouseTask → Bool} {status : WarehouseTaskStatus}
    (id : ℕ) : (db.setTasks p status).hasTask id=db.hasTask id := by
  unfold OrderDb.hasTask
  rw [get?_setTasks,Option.isSome_map]

theorem hasTask_insertTask {task : WarehouseTask} {db : OrderDb} (id : ℕ) :
    (apply (.insertTask task) db).hasTask id=(db.hasTask id || id=task.id) := by
  simp only [OrderDb.hasTask,apply,Table.get?_insert]
  by_cases hid : id=task.id
  · simp [hid]
  · simp [hid]

theorem hasTask_apply {w : Write} {db : OrderDb} {id : ℕ} (h : Key.task id∉keys w) :
    (apply w db).hasTask id=db.hasTask id := by
  cases w with
  | setOrder id status => rfl
  | insertTask task =>
    have hne : id≠task.id := by
      intro he
      exact h (by simp [keys,he])
    rw [hasTask_insertTask]
    simp [hne]
  | insertLink link =>
    change (db.insertLink link).hasTask id=db.hasTask id
    unfold OrderDb.insertLink
    split <;> rfl
  | startLine id => rfl
  | completeLines id => rfl
  | cancelLines id => rfl
  | completeTasks id => exact hasTask_setTasks _
  | cancelTasks id => exact hasTask_setTasks _

/-- Whoever holds the key of a task knows whether the task is there. -/
def SameUnder : Key → OrderDb → OrderDb → Prop
  | .order _, _, _ => True
  | .task id, db, db' => db.hasTask id=db'.hasTask id

def store : Store interface OrderDb where
  answer := answer
  apply := apply
  keys := keys
  accepts := fun _ _ => true
  Same := SameUnder
  Later := fun db db' => db.placed⊆db'.placed
  same_refl := by
    intro k db
    cases k with
    | order id => trivial
    | task id => rfl
  same_trans := by
    intro k d d' d'' h h'
    cases k with
    | order id => trivial
    | task id => exact Eq.trans h h'
  later_refl := fun _ => List.Subset.refl _
  later_trans := fun h h' => List.Subset.trans h h'
  later_apply := fun w db => by rw [placed_apply]; exact List.Subset.refl _
  frame := by
    intro k w db h
    cases k with
    | order id => trivial
    | task id => exact (hasTask_apply h).symm
  same_apply := by
    intro k w d d' hkeys _ h
    cases k with
    | order id => trivial
    | task id =>
      by_cases hmem : Key.task id∈keys w
      · cases w with
        | insertTask task =>
          change (apply _ d).hasTask id=(apply _ d').hasTask id
          have hsame : d.hasTask id=d'.hasTask id := h
          rw [hasTask_insertTask,hasTask_insertTask,hsame]
        | _ => simp [keys] at hmem
      · change (apply _ d).hasTask id=(apply _ d').hasTask id
        rw [hasTask_apply hmem,hasTask_apply hmem]
        exact h
  later_congr := by
    intro w d d' _ h
    rw [placed_apply,placed_apply]
    exact h

/-! ### The calls -/

def mapOrderTypeToTaskType : WarehouseOrderType → WarehouseTaskType
  | .ADJUSTMENT => .COUNT
  | .COUNT => .COUNT
  | .LOAD => .LOAD
  | .PICK => .PICK
  | .PUTAWAY => .PUTAWAY
  | .REPLENISH => .REPLENISH
  | .MOVE => .MOVE

section Calls
variable (lang : Language)

def normalizeCode (value : Str) : Str := lang.toUpperCase (trim value)

def resolveWarehouse (reference : Str) : Tx OrderUpdates.Warehouse := do
  let w ← query (I := interface) (.warehouse fun w =>
    (isUuid reference && w.id.isCalled reference) || w.code=normalizeCode lang reference)
  demand w (.notFound "Warehouse was not found")

def resolveOrder (warehouseId : Uuid) (reference : Str) : Tx WarehouseOrder := do
  let o ← query (I := interface) (.order fun o => o.warehouseId=warehouseId &&
    (o.id.val=reference || o.orderNumber=normalizeCode lang reference))
  demand o (.notFound "Warehouse order was not found")

def assertWarehouseOrderTransition (order : WarehouseOrder) (action : String)
    (actor : AccessControl.AuthenticatedUser) (reasonCode : Option Str) : Except OrderError Unit :=
  let evaluation := evaluateWorkflowTransition lang
    (Workflow.orderRequest actor order.status.value.toList (some action.toList) none reasonCode)
  if evaluation.allowed then .ok ()
  else
    let message := [' '].intercalate (evaluation.issues.map (·.message))
    .error (.conflict (if message=[] then s!"Warehouse order action {action} is not allowed from ".toList++
      order.status.value.toList++['.'] else message))

/-- What the transaction of a release does for one line. -/
def releaseLine (order : WarehouseOrder) (line : WarehouseOrderLine) : Tx Unit := do
  let taskId ← fresh
  acquire (I := interface) (.task taskId)
  let taken ← query (I := interface) (.taken taskId)
  require (taken=false) .duplicate
  write (I := interface) (.insertTask
    {id := taskId
     warehouseId := order.warehouseId
     type := mapOrderTypeToTaskType order.orderType
     status := .OPEN
     skuId := line.skuId
     quantity := line.requestedQuantity
     priority := order.priority
     externalReference := order.orderNumber++ ':'::line.lineNumber})
  write (I := interface) (.insertLink ⟨order.id,some line.id,taskId⟩)
  write (I := interface) (.startLine line.id)

inductive Operation
  | release | complete | cancel (reason : Str)

/-- A call, with the order that its references come to. -/
structure Call where
  operation : Operation
  warehouseReference : Str
  orderReference : Str
  actor : AccessControl.AuthenticatedUser
  order : Uuid

/-- The order of a call, whose transition is allowed by what was read of it. -/
def resolveCall (k : Call) (action : String) (reasonCode : WarehouseOrder → Option Str) :
    Tx WarehouseOrder := do
  let warehouse ← resolveWarehouse lang k.warehouseReference
  let order ← resolveOrder lang warehouse.id k.orderReference
  require (order.id=k.order) .otherOrder
  compute (assertWarehouseOrderTransition lang order action k.actor (reasonCode order))
  return order

def releaseOrder (k : Call) : Tx Unit := do
  let order ← resolveCall lang k "RELEASE" fun order =>
    if order.status=.EXCEPTION then some "EXCEPTION_RECOVERED".toList else none
  let lines ← query (I := interface) (.lines order.id)
  write (I := interface) (.setOrder order.id .RELEASED)
  let _ ← each lines (releaseLine order)
  return ()

def completeOrder (k : Call) : Tx Unit := do
  let order ← resolveCall lang k "COMPLETE" fun _ => none
  write (I := interface) (.setOrder order.id .COMPLETED)
  write (I := interface) (.completeLines order.id)
  write (I := interface) (.completeTasks order.id)

def cancelOrder (k : Call) (reason : Str) : Tx Unit := do
  let order ← resolveCall lang k "CANCEL" fun _ => some reason
  write (I := interface) (.setOrder order.id .CANCELLED)
  write (I := interface) (.cancelLines order.id)
  write (I := interface) (.cancelTasks order.id)

def Call.prog (k : Call) : Tx Unit :=
  match k.operation with
  | .release => releaseOrder lang k
  | .complete => completeOrder lang k
  | .cancel reason => cancelOrder lang k reason

end Calls
end AardvarkWms.WarehouseOrders
