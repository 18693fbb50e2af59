import AardvarkWms.WarehouseOrders

/-! The life of a warehouse order while calls release, complete and cancel side by side: what each
transaction keeps where the order is as its check found it. -/
namespace AardvarkWms.WarehouseOrders

open Messaging (Str)
open OrderUpdates (Uuid)
open Transactions Transactions.Txn

namespace OrderDb
variable (db : OrderDb)

/-- There is a task with this number that is neither DONE nor CANCELLED. -/
def Open (taskId : ℕ) : Prop :=
  ∃ t, db.tasks.get? taskId=some t ∧ t.status≠.DONE ∧ t.status≠.CANCELLED

instance (taskId : ℕ) : Decidable (db.Open taskId) :=
  decidable_of_iff (∃ t∈db.tasks.get? taskId, t.status≠.DONE ∧ t.status≠.CANCELLED) Iff.rfl

/-- What holds between the three tables. -/
structure Consistent : Prop where
  linked : ∀ k∈db.links, db.hasTask k.warehouseTaskId=true
  single : ∀ k∈db.links, ∀ k'∈db.links, ∀ l, k.warehouseOrderLineId=some l →
    k'.warehouseOrderLineId=some l → db.Open k.warehouseTaskId → db.Open k'.warehouseTaskId →
    k.warehouseTaskId=k'.warehouseTaskId
  completed : ∀ o∈db.orders.rows, o.status=.COMPLETED →
    (∀ l∈db.lines.rows, l.warehouseOrderId=o.id → l.status=.DONE) ∧
      ∀ k∈db.links, k.warehouseOrderId=o.id → ¬db.Open k.warehouseTaskId
  cancelled : ∀ o∈db.orders.rows, o.status=.CANCELLED →
    ∀ k∈db.links, k.warehouseOrderId=o.id → ¬db.Open k.warehouseTaskId

end OrderDb

/-- What a later state keeps of an earlier one: the status of completed and cancelled orders, and of
cancelled tasks. -/
structure Kept (db db' : OrderDb) : Prop where
  order : ∀ id o, db.orders.get? id=some o → o.status=.COMPLETED ∨ o.status=.CANCELLED →
    ∃ o', db'.orders.get? id=some o' ∧ o'.status=o.status
  task : ∀ id t, db.tasks.get? id=some t → t.status=.CANCELLED →
    ∃ t', db'.tasks.get? id=some t' ∧ t'.status=.CANCELLED

theorem Kept.refl (db : OrderDb) : Kept db db := ⟨fun _ o h _ => ⟨o,h,rfl⟩,fun _ t h hs => ⟨t,h,hs⟩⟩

theorem Kept.trans {db db' db'' : OrderDb} (h : Kept db db') (h' : Kept db' db'') : Kept db db'' := by
  constructor
  · intro id o ho hs
    obtain ⟨o',ho',hs'⟩ := h.order id o ho hs
    obtain ⟨o'',ho'',hs''⟩ := h'.order id o' ho' (by rw [hs']; exact hs)
    exact ⟨o'',ho'',hs''.trans hs'⟩
  · intro id t ht hs
    obtain ⟨t',ht',hs'⟩ := h.task id t ht hs
    exact h'.task id t' ht' hs'

/-- The state in which a transaction of a call commits. A release finds the order neither completed nor
cancelled, and no open task of its lines; a completion finds the order not cancelled, and no cancelled
task of it; a cancellation finds the order not completed. -/
def Undisturbed (k : Call) (c : Ctx interface OrderDb) : Prop :=
  match k.operation with
  | .release => (∀ o∈c.base.orders.get? k.order, o.status≠.COMPLETED ∧ o.status≠.CANCELLED) ∧
      ∀ x∈c.base.links, ∀ l∈x.warehouseOrderLineId, (l,k.order)∈c.base.placed →
        ¬c.base.Open x.warehouseTaskId
  | .complete => (∀ o∈c.base.orders.get? k.order, o.status≠.CANCELLED) ∧
      ∀ x∈c.base.links, x.warehouseOrderId=k.order →
        ∀ t∈c.base.tasks.get? x.warehouseTaskId, t.status≠.CANCELLED
  | .cancel _ => ∀ o∈c.base.orders.get? k.order, o.status≠.COMPLETED

instance (k : Call) (c : Ctx interface OrderDb) : Decidable (Undisturbed k c) := by
  unfold Undisturbed
  cases k.operation <;> exact inferInstance

section Tables
variable {db : OrderDb} {id : Uuid} {status : WarehouseOrderStatus}

theorem mem_setOrder {o : WarehouseOrder} (h : o∈(apply (.setOrder id status) db).orders.rows) :
    o.id=id ∧ o.status=status ∨ o.id≠id ∧ o∈db.orders.rows := by
  rw [show (apply (.setOrder id status) db).orders.rows=db.orders.rows.map fun o =>
    if o.id=id then o.withStatus status else o from rfl] at h
  obtain ⟨o₀,ho₀,rfl⟩ := List.mem_map.mp h
  by_cases hid : o₀.id=id
  · rw [if_pos hid]
    exact Or.inl ⟨hid,rfl⟩
  · rw [if_neg hid]
    exact Or.inr ⟨hid,ho₀⟩

theorem order_kept (hid : ∀ o, db.orders.get? id=some o →
      o.status=.COMPLETED ∨ o.status=.CANCELLED → o.status=status) {i : Uuid} {o : WarehouseOrder}
    (ho : db.orders.get? i=some o) (hs : o.status=.COMPLETED ∨ o.status=.CANCELLED) :
    ∃ o', (apply (.setOrder id status) db).orders.get? i=some o' ∧ o'.status=o.status := by
  rw [get?_setOrder,ho]
  by_cases hi : i=id
  · subst hi
    rw [if_pos rfl]
    exact ⟨_,rfl,(hid o ho hs).symm⟩
  · rw [if_neg hi]
    exact ⟨o,rfl,rfl⟩

theorem open_setTasks {p : WarehouseTask → Bool} {s : WarehouseTaskStatus} (hs : s=.DONE ∨ s=.CANCELLED)
    {taskId : ℕ} (h : (db.setTasks p s).Open taskId) :
    ∃ t, db.tasks.get? taskId=some t ∧ p t=false ∧ t.status≠.DONE ∧ t.status≠.CANCELLED := by
  obtain ⟨t',ht',hdone,hcancelled⟩ := h
  rw [get?_setTasks] at ht'
  obtain ⟨t,ht,rfl⟩ := Option.map_eq_some_iff.mp ht'
  cases hp : p t with
  | true =>
    rw [hp,if_pos rfl] at hdone hcancelled
    cases hs with
    | inl hs => exact absurd hs hdone
    | inr hs => exact absurd hs hcancelled
  | false =>
    rw [hp,if_neg (by decide)] at hdone hcancelled
    exact ⟨t,ht,hp,hdone,hcancelled⟩

theorem isLinked_of_mem {k : WarehouseOrderTask} (h : k∈db.links) :
    db.isLinked k.warehouseOrderId k.warehouseTaskId=true := by
  unfold OrderDb.isLinked
  refine List.any_eq_true.mpr ⟨k,h,?_⟩
  simp

end Tables

section Closing
variable {b : OrderDb} {o : Uuid}

/-- What is left where tasks are closed is as consistent as before, and no task of the order is open
if all that were open are closed. -/
theorem not_open_closed {p : WarehouseTask → Bool} {s : WarehouseTaskStatus}
    (hs : s=.DONE ∨ s=.CANCELLED)
    (hp : ∀ t, t.status≠.DONE → t.status≠.CANCELLED → b.isLinked o t.id=true → p t=true)
    {k : WarehouseOrderTask} (hk : k∈b.links) (ho : k.warehouseOrderId=o) :
    ¬(b.setTasks p s).Open k.warehouseTaskId := by
  intro hopen
  obtain ⟨t,ht,hpt,hdone,hcancelled⟩ := open_setTasks hs hopen
  have hid : t.id=k.warehouseTaskId := Table.key_of_get? ht
  have hlinked : b.isLinked o t.id=true := by
    rw [hid,← ho]
    exact isLinked_of_mem hk
  rw [hp t hdone hcancelled hlinked] at hpt
  cases hpt

theorem open_of_closed {p : WarehouseTask → Bool} {s : WarehouseTaskStatus}
    (hs : s=.DONE ∨ s=.CANCELLED) {taskId : ℕ} (h : (b.setTasks p s).Open taskId) : b.Open taskId := by
  obtain ⟨t,ht,-,hstatus⟩ := open_setTasks hs h
  exact ⟨t,ht,hstatus⟩

/-- The state after a completion. -/
def OrderDb.completed (b : OrderDb) (o : Uuid) : OrderDb :=
  apply (.completeTasks o) (apply (.completeLines o) (apply (.setOrder o .COMPLETED) b))

/-- The state after a cancellation. -/
def OrderDb.cancelled (b : OrderDb) (o : Uuid) : OrderDb :=
  apply (.cancelTasks o) (apply (.cancelLines o) (apply (.setOrder o .CANCELLED) b))

theorem mem_completed_lines {l : WarehouseOrderLine} (h : l∈(b.completed o).lines.rows) :
    l.warehouseOrderId=o ∧ l.status=.DONE ∨ l.warehouseOrderId≠o ∧ l∈b.lines.rows := by
  obtain ⟨l₀,hl₀,rfl⟩ := List.mem_map.mp h
  by_cases ho : l₀.warehouseOrderId=o
  · rw [if_pos (decide_eq_true ho)]
    exact Or.inl ⟨ho,rfl⟩
  · rw [if_neg (by simpa using ho)]
    exact Or.inr ⟨ho,hl₀⟩

theorem mem_cancelled_lines {l : WarehouseOrderLine} (h : l∈(b.cancelled o).lines.rows)
    (ho : l.warehouseOrderId≠o) : l∈b.lines.rows := by
  obtain ⟨l₀,hl₀,rfl⟩ := List.mem_map.mp h
  by_cases hp : (l₀.warehouseOrderId=o && l₀.status≠.DONE)=true
  · rw [if_pos hp] at ho
    exact absurd (of_decide_eq_true (Bool.and_eq_true_iff.mp hp).1) ho
  · rw [if_neg hp]
    exact hl₀

/-- What a completion and a cancellation share: the order gets its status, with its lines done where
it is completed, and its open tasks are closed. -/
theorem Consistent.closed {v : OrderDb} {status : WarehouseOrderStatus} (h : b.Consistent)
    (hlinked : ∀ k∈v.links, k∈b.links ∧ v.hasTask k.warehouseTaskId=b.hasTask k.warehouseTaskId)
    (hopen : ∀ {taskId}, v.Open taskId → b.Open taskId)
    (hclosed : ∀ k∈v.links, k.warehouseOrderId=o → ¬v.Open k.warehouseTaskId)
    (horders : ∀ x∈v.orders.rows, x.id=o ∧ x.status=status ∨ x.id≠o ∧ x∈b.orders.rows)
    (hlines : ∀ l∈v.lines.rows, l.warehouseOrderId=o ∧ (status=.COMPLETED → l.status=.DONE) ∨
      l.warehouseOrderId≠o ∧ l∈b.lines.rows) : v.Consistent := by
  constructor
  · intro k hk
    exact (hlinked k hk).2.trans (h.linked k (hlinked k hk).1)
  · intro k hk k' hk' l hl hl' ho ho'
    exact h.single k (hlinked k hk).1 k' (hlinked k' hk').1 l hl hl' (hopen ho) (hopen ho')
  · intro x hx hs
    cases horders x hx with
    | inl hsame =>
      refine ⟨?_,fun k hk horder => hclosed k hk (horder.trans hsame.1)⟩
      intro l hl horder
      cases hlines l hl with
      | inl hdone => exact hdone.2 (hsame.2.symm.trans hs)
      | inr hother => exact absurd (horder.trans hsame.1) hother.1
    | inr hother =>
      obtain ⟨hdone,hlinks⟩ := h.completed x hother.2 hs
      refine ⟨?_,fun k hk horder hopen' => hlinks k (hlinked k hk).1 horder (hopen hopen')⟩
      intro l hl horder
      cases hlines l hl with
      | inl hsame => exact absurd (horder.symm.trans hsame.1) hother.1
      | inr hsame => exact hdone l hsame.2 horder
  · intro x hx hs k hk horder hopen'
    cases horders x hx with
    | inl hsame => exact hclosed k hk (horder.trans hsame.1) hopen'
    | inr hother => exact h.cancelled x hother.2 hs k (hlinked k hk).1 horder (hopen hopen')

theorem Consistent.completed (h : b.Consistent) (o : Uuid) : (b.completed o).Consistent := by
  refine Consistent.closed h (fun k hk => ⟨hk,hasTask_setTasks _⟩) (fun h => open_of_closed (Or.inl rfl) h)
    ?_ (fun _ hx => mem_setOrder hx) fun l hl => ?_
  · intro k hk ho
    refine not_open_closed (Or.inl rfl) ?_ hk ho
    intro t hdone _ hlinked
    exact Bool.and_eq_true_iff.mpr ⟨hlinked,decide_eq_true hdone⟩
  · exact (mem_completed_lines hl).imp (fun hdone => ⟨hdone.1,fun _ => hdone.2⟩) id

theorem Consistent.cancelled (h : b.Consistent) (o : Uuid) : (b.cancelled o).Consistent := by
  refine Consistent.closed h (fun k hk => ⟨hk,hasTask_setTasks _⟩) (fun h => open_of_closed (Or.inr rfl) h)
    ?_ (fun _ hx => mem_setOrder hx) fun l hl => ?_
  · intro k hk ho
    refine not_open_closed (Or.inr rfl) ?_ hk ho
    intro t hdone hcancelled hlinked
    refine Bool.and_eq_true_iff.mpr ⟨hlinked,decide_eq_true ?_⟩
    simp [hdone,hcancelled]
  · by_cases ho : l.warehouseOrderId=o
    · exact Or.inl ⟨ho,nofun⟩
    · exact Or.inr ⟨ho,mem_cancelled_lines hl ho⟩

theorem kept_completed (hstatus : ∀ x, b.orders.get? o=some x → x.status≠.CANCELLED)
    (htasks : ∀ x∈b.links, x.warehouseOrderId=o →
      ∀ t, b.tasks.get? x.warehouseTaskId=some t → t.status≠.CANCELLED) :
    Kept b (b.completed o) := by
  constructor
  · intro id x hx hs
    refine order_kept ?_ hx hs
    intro y hy hterminal
    exact hterminal.resolve_right (hstatus y hy)
  · intro id t ht hs
    refine ⟨t,?_,hs⟩
    rw [show (b.completed o).tasks.get? id=(b.tasks.get? id).map _ from get?_setTasks id,ht]
    have hunlinked : b.isLinked o t.id=false := by
      refine Bool.eq_false_iff.mpr fun hlinked => ?_
      obtain ⟨k,hk,hsame⟩ := List.any_eq_true.mp hlinked
      simp only [Bool.and_eq_true,decide_eq_true_eq] at hsame
      refine htasks k hk hsame.1 t ?_ hs
      rw [hsame.2,Table.key_of_get? ht]
      exact ht
    have hp : ((apply (.completeLines o) (apply (.setOrder o .COMPLETED) b)).isLinked o t.id &&
        t.status≠.DONE)=false := by
      exact Bool.and_eq_false_iff.mpr (Or.inl hunlinked)
    rw [Option.map_some,hp]
    rfl

theorem kept_cancelled (hstatus : ∀ x, b.orders.get? o=some x → x.status≠.COMPLETED) :
    Kept b (b.cancelled o) := by
  constructor
  · intro id x hx hs
    refine order_kept ?_ hx hs
    intro y hy hterminal
    exact hterminal.resolve_left (hstatus y hy)
  · intro id t ht hs
    refine ⟨t,?_,hs⟩
    rw [show (b.cancelled o).tasks.get? id=(b.tasks.get? id).map _ from get?_setTasks id,ht]
    have hp : ((apply (.cancelLines o) (apply (.setOrder o .CANCELLED) b)).isLinked o t.id &&
        t.status∉[.DONE,.CANCELLED])=false := by
      rw [hs]
      exact Bool.and_false _
    rw [Option.map_some,hp]
    rfl

end Closing

section Releasing
variable {b v : OrderDb} {o : Uuid} {done : List Uuid}

/-- A release on its way from the state `b`, with the lines that are done. -/
structure Releasing (b : OrderDb) (o : Uuid) (done : List Uuid) (v : OrderDb) : Prop where
  orders : v.orders=(apply (.setOrder o .RELEASED) b).orders
  lines : ∀ l∈v.lines.rows, ∃ l₀∈b.lines.rows, l₀.id=l.id ∧
    l₀.warehouseOrderId=l.warehouseOrderId ∧ (l.id∉done → l=l₀)
  tasks : ∀ id t, b.tasks.get? id=some t → v.tasks.get? id=some t
  linked : ∀ k∈v.links, v.hasTask k.warehouseTaskId=true
  links : ∃ new, v.links=b.links++new ∧ new.map (·.warehouseOrderLineId)=done.map some ∧
    ∀ k∈new, k.warehouseOrderId=o

theorem releasing_start (h : ∀ k∈b.links, b.hasTask k.warehouseTaskId=true) :
    Releasing b o [] (apply (.setOrder o .RELEASED) b) :=
  ⟨rfl,fun l hl => ⟨l,hl,rfl,rfl,fun _ => rfl⟩,fun _ _ ht => ht,h,[],by simp [apply],rfl,by simp⟩

theorem get?_insertTask_ne {db : OrderDb} {task : WarehouseTask} {id : ℕ} (h : id≠task.id) :
    (apply (.insertTask task) db).tasks.get? id=db.tasks.get? id := Table.get?_insert_ne _ h

theorem Releasing.line (h : Releasing b o done v) {task : WarehouseTask} {l : Uuid}
    (hfree : v.hasTask task.id=false) :
    Releasing b o (done++[l]) (apply (.startLine l) (apply (.insertLink ⟨o,some l,task.id⟩)
      (apply (.insertTask task) v))) := by
  have hunlinked : (apply (.insertTask task) v).isLinked o task.id=false := by
    refine Bool.eq_false_iff.mpr fun hlinked => ?_
    obtain ⟨k,hk,hsame⟩ := List.any_eq_true.mp hlinked
    simp only [Bool.and_eq_true,decide_eq_true_eq] at hsame
    have hhas := h.linked k hk
    rw [hsame.2,hfree] at hhas
    cases hhas
  have hinsert : apply (.insertLink ⟨o,some l,task.id⟩) (apply (.insertTask task) v)=
      {apply (.insertTask task) v with links := v.links++[⟨o,some l,task.id⟩]} := by
    change (apply (.insertTask task) v).insertLink _=_
    unfold OrderDb.insertLink
    rw [if_neg (by rw [hunlinked]; decide)]
    rfl
  rw [hinsert]
  obtain ⟨new,hnew,hmap,horder⟩ := h.links
  constructor
  · exact h.orders
  · intro x hx
    obtain ⟨x₀,hx₀,rfl⟩ := List.mem_map.mp hx
    obtain ⟨l₀,hl₀,hid,ho,hsame⟩ := h.lines x₀ hx₀
    refine ⟨l₀,hl₀,?_⟩
    by_cases hline : x₀.id=l
    · rw [if_pos (decide_eq_true hline)]
      refine ⟨hid,ho,fun hnot => absurd ?_ hnot⟩
      exact List.mem_append_right _ (List.mem_singleton.mpr hline)
    · rw [if_neg (by simpa using hline)]
      exact ⟨hid,ho,fun hnot => hsame fun hmem => hnot (List.mem_append_left _ hmem)⟩
  · intro id t ht
    have hv := h.tasks id t ht
    have hne : id≠task.id := by
      rintro rfl
      rw [OrderDb.hasTask,hv] at hfree
      cases hfree
    exact (get?_insertTask_ne hne).trans hv
  · intro k hk
    change (apply (.insertTask task) v).hasTask k.warehouseTaskId=true
    rw [hasTask_insertTask]
    cases List.mem_append.mp hk with
    | inl hold => rw [h.linked k hold,Bool.true_or]
    | inr hlast =>
      rw [List.mem_singleton.mp hlast]
      simp
  · refine ⟨new++[⟨o,some l,task.id⟩],?_,?_,?_⟩
    · change v.links++_=_
      rw [hnew,List.append_assoc]
    · rw [List.map_append,hmap,List.map_append]
      rfl
    · intro k hk
      cases List.mem_append.mp hk with
      | inl hold => exact horder k hold
      | inr hlast => rw [List.mem_singleton.mp hlast]

theorem Releasing.open_old (h : Releasing b o done v) {id : ℕ} (hhas : b.hasTask id=true)
    (hopen : v.Open id) : b.Open id := by
  obtain ⟨t,ht,hstatus⟩ := hopen
  obtain ⟨t₀,ht₀⟩ := Option.isSome_iff_exists.mp hhas
  rw [h.tasks id t₀ ht₀] at ht
  cases ht
  exact ⟨t,ht₀,hstatus⟩

/-- The lines that a release has done are lines of its order, each done once. -/
structure OfOrder (b : OrderDb) (o : Uuid) (done : List Uuid) : Prop where
  once : done.Nodup
  placed : ∀ l∈done, (l,o)∈b.placed

theorem Releasing.line_other (h : Releasing b o done v) (hdone : OfOrder b o done)
    {l : WarehouseOrderLine} (hl : l∈v.lines.rows) (ho : l.warehouseOrderId≠o) : l∈b.lines.rows := by
  obtain ⟨l₀,hl₀,hid,horder,hsame⟩ := h.lines l hl
  have hnot : l.id∉done := by
    intro hmem
    obtain ⟨l₁,hl₁,hpair⟩ := List.mem_map.mp (hdone.placed l.id hmem)
    have hline : l₁=l₀ := Table.inj_of_nodup b.lines.nodup hl₁ hl₀ ((Prod.mk.inj hpair).1.trans hid.symm)
    rw [hline,horder] at hpair
    exact ho (Prod.mk.inj hpair).2
  rw [hsame hnot]
  exact hl₀

theorem Releasing.consistent (h : Releasing b o done v) (hdone : OfOrder b o done) (hb : b.Consistent)
    (hfree : ∀ x∈b.links, ∀ l, x.warehouseOrderLineId=some l → (l,o)∈b.placed →
      ¬b.Open x.warehouseTaskId) : v.Consistent := by
  obtain ⟨new,hnew,hmap,horder⟩ := h.links
  have hline : ∀ k∈new, ∀ l, k.warehouseOrderLineId=some l → (l,o)∈b.placed := by
    intro k hk l hl
    have hmem : some l∈done.map some := by
      rw [← hmap,← hl]
      exact List.mem_map_of_mem hk
    obtain ⟨l',hl',he⟩ := List.mem_map.mp hmem
    cases he
    exact hdone.placed l hl'
  have hold : ∀ k∈b.links, v.Open k.warehouseTaskId → b.Open k.warehouseTaskId :=
    fun k hk => h.open_old (hb.linked k hk)
  have hother : ∀ x∈v.orders.rows, x.status≠.RELEASED → x.id≠o ∧ x∈b.orders.rows := by
    intro x hx hs
    rw [h.orders] at hx
    exact (mem_setOrder hx).resolve_left fun hsame => hs hsame.2
  have hclosed : ∀ x : WarehouseOrder, x.id≠o →
      (∀ k∈b.links, k.warehouseOrderId=x.id → ¬b.Open k.warehouseTaskId) →
      ∀ k∈v.links, k.warehouseOrderId=x.id → ¬v.Open k.warehouseTaskId := by
    intro x hne hlinks k hk hx hopen
    rw [hnew] at hk
    cases List.mem_append.mp hk with
    | inl hk => exact hlinks k hk hx (hold k hk hopen)
    | inr hk => exact hne (hx.symm.trans (horder k hk))
  constructor
  · exact h.linked
  · intro k hk k' hk' l hl hl' hopen hopen'
    rw [hnew] at hk hk'
    cases List.mem_append.mp hk with
    | inl hk =>
      have hopen := hold k hk hopen
      cases List.mem_append.mp hk' with
      | inl hk' => exact hb.single k hk k' hk' l hl hl' hopen (hold k' hk' hopen')
      | inr hk' => exact absurd hopen (hfree k hk l hl (hline k' hk' l hl'))
    | inr hk =>
      cases List.mem_append.mp hk' with
      | inl hk' => exact absurd (hold k' hk' hopen') (hfree k' hk' l hl' (hline k hk l hl))
      | inr hk' =>
        have hnodup : (new.map (·.warehouseOrderLineId)).Nodup := by
          rw [hmap]
          exact hdone.once.map (Option.some_injective _)
        rw [Table.inj_of_nodup hnodup hk hk' (hl.trans hl'.symm)]
  · intro x hx hs
    obtain ⟨hne,hxb⟩ := hother x hx (by rw [hs]; decide)
    obtain ⟨hlines,hlinks⟩ := hb.completed x hxb hs
    refine ⟨?_,hclosed x hne hlinks⟩
    intro l hl hlx
    exact hlines l (h.line_other hdone hl (by rw [hlx]; exact hne)) hlx
  · intro x hx hs
    obtain ⟨hne,hxb⟩ := hother x hx (by rw [hs]; decide)
    exact hclosed x hne (hb.cancelled x hxb hs)

theorem Releasing.kept (h : Releasing b o done v)
    (hstatus : ∀ x, b.orders.get? o=some x → x.status≠.COMPLETED ∧ x.status≠.CANCELLED) : Kept b v := by
  constructor
  · intro id x hx hs
    rw [h.orders]
    refine order_kept ?_ hx hs
    intro y hy hterminal
    obtain ⟨hcompleted,hcancelled⟩ := hstatus y hy
    exact absurd (hterminal.resolve_left hcompleted) hcancelled
  · exact fun id t ht hs => ⟨t,h.tasks id t ht,hs⟩

end Releasing

section Calls
variable {lang : Language}

/-- What a transaction of a call leaves, said of the state that it commits in. -/
def Left (k : Call) (c : Ctx interface OrderDb) : Prop :=
  match k.operation with
  | .release => (∀ x∈c.base.links, c.base.hasTask x.warehouseTaskId=true) →
      ∃ done, OfOrder c.base k.order done ∧ Releasing c.base k.order done c.view
  | .complete => c.view=c.base.completed k.order
  | .cancel _ => c.view=c.base.cancelled k.order

theorem wp_resolveCall {k : Call} {action : String} {reasonCode : WarehouseOrder → Option Str}
    {Mid : Ctx interface OrderDb → Prop} {c : Ctx interface OrderDb}
    {Q : WarehouseOrder → Ctx interface OrderDb → Prop}
    (h : ∀ order c', order.id=k.order → c.Moves Eq c' → Q order c') :
    wp store Mid (resolveCall lang k action reasonCode) c Q := by
  simp only [resolveCall,resolveWarehouse,resolveOrder,bind_eq,wp_bind,wp_demand,wp_require,
    wp_compute,pure_eq,wp_done]
  intro d _ w _ d' _ order _ hid _ _
  exact h order _ hid ((Ctx.moves_saw _ _ _).of_reads (Ctx.moves_saw _ _ _))

theorem wp_releaseLine {Mid : Ctx interface OrderDb → Prop} {c : Ctx interface OrderDb}
    {order : WarehouseOrder} {line : WarehouseOrderLine} :
    wp store Mid (releaseLine order line) c fun _ c' => c'.base=c.base ∧
      ∀ done, Releasing c.base order.id done c.view →
        Releasing c.base order.id (done++[line.id]) c'.view := by
  simp only [releaseLine,bind_eq,wp_bind,wp_fresh,wp_acquire,wp_require,wp_write]
  intro taskId d hd hfree
  -- The key of the task is held, so the answer is that of the view.
  have hsame : d.hasTask taskId=c.view.hasTask taskId := hd.1 (.task taskId) (by simp)
  have hview : c.view.hasTask taskId=false := hsame.symm.trans hfree
  exact ⟨rfl,fun done h => h.line hview⟩

theorem ofOrder_read {b e : OrderDb} {o : Uuid} (h : e.placed⊆b.placed) :
    OfOrder b o ((answer (.lines o) e).map (·.id)) := by
  constructor
  · exact e.lines.nodup.sublist (List.filter_sublist.map _)
  · intro l hl
    obtain ⟨line,hline,rfl⟩ := List.mem_map.mp hl
    obtain ⟨hmem,ho⟩ := List.mem_filter.mp hline
    have horder : line.warehouseOrderId=o := of_decide_eq_true ho
    refine h (List.mem_map.mpr ⟨line,hmem,?_⟩)
    rw [horder]

/-- What is done and what is still to do come to the lines that were read. -/
def Pending (b : OrderDb) (o : Uuid) (all : List Uuid) (rest : List WarehouseOrderLine)
    (c : Ctx interface OrderDb) : Prop :=
  c.base=b ∧ ((∀ x∈b.links, b.hasTask x.warehouseTaskId=true) →
    ∃ done, done++rest.map (·.id)=all ∧ Releasing b o done c.view)

theorem wp_pending {Mid : Ctx interface OrderDb → Prop} {c : Ctx interface OrderDb} {b : OrderDb}
    {order : WarehouseOrder} {line : WarehouseOrderLine} {all : List Uuid}
    {rest : List WarehouseOrderLine} (h : Pending b order.id all (line::rest) c) :
    wp store Mid (releaseLine order line) c fun _ c' => Pending b order.id all rest c' := by
  refine wp_mono (fun _ c' hc' => ?_) wp_releaseLine
  obtain ⟨hbase,hstep⟩ := hc'
  refine ⟨hbase.trans h.1,fun hlinked => ?_⟩
  obtain ⟨done,hall,hreleasing⟩ := h.2 hlinked
  refine ⟨done++[line.id],?_,?_⟩
  · rw [← hall,List.map_cons,List.append_assoc]
    rfl
  · rw [← h.1] at hreleasing ⊢
    exact hstep done hreleasing

theorem spec (lang : Language) (k : Call) : Spec store (Left k) (k.prog lang) := by
  intro d
  unfold Call.prog Left
  cases hop : k.operation with
  | complete =>
    simp only [completeOrder,bind_eq,wp_bind]
    refine wp_resolveCall fun order c hid hc => ?_
    have hview : c.view=c.base := hc.view.symm.trans hc.base.symm
    simp only [wp_write,Ctx.wrote_view,Ctx.wrote_base,hview,hid]
    rfl
  | cancel reason =>
    simp only [cancelOrder,bind_eq,wp_bind]
    refine wp_resolveCall fun order c hid hc => ?_
    have hview : c.view=c.base := hc.view.symm.trans hc.base.symm
    simp only [wp_write,Ctx.wrote_view,Ctx.wrote_base,hview,hid]
    rfl
  | release =>
    simp only [releaseOrder,bind_eq,wp_bind]
    refine wp_resolveCall fun order c hid hc => ?_
    have hview : c.view=c.base := hc.view.symm.trans hc.base.symm
    intro e he
    simp only [wp_write,pure_eq,wp_done]
    have hof : OfOrder c.base order.id ((answer (.lines order.id) e).map (·.id)) :=
      ofOrder_read (hview ▸ he.2)
    have hpending : Pending c.base order.id ((answer (.lines order.id) e).map (·.id))
        (answer (.lines order.id) e) ((c.saw (.lines order.id) (answer (.lines order.id) e)).wrote store
          (.setOrder order.id .RELEASED)) := by
      refine ⟨rfl,fun hlinked => ⟨[],rfl,?_⟩⟩
      rw [Ctx.wrote_view,Ctx.saw_view,hview]
      exact releasing_start hlinked
    refine wp_mono (fun _ c' hc' => ?_) (wp_for (Pending c.base order.id
      ((answer (.lines order.id) e).map (·.id))) (fun _ _ _ h => wp_pending h) hpending)
    intro hlinked
    rw [hc'.1] at hlinked ⊢
    obtain ⟨done,hall,hreleasing⟩ := hc'.2 hlinked
    rw [List.map_nil,List.append_nil] at hall
    subst hall
    rw [← hid]
    exact ⟨_,hof,hreleasing⟩

/-- A transaction that commits undisturbed keeps what holds between the tables, and the orders and
tasks that are at their end. -/
theorem Left.keeps {k : Call} {c : Ctx interface OrderDb} (h : Left k c) (hok : Undisturbed k c)
    (hb : c.base.Consistent) : c.view.Consistent ∧ Kept c.base c.view := by
  unfold Left at h
  unfold Undisturbed at hok
  cases hop : k.operation with
  | release =>
    rw [hop] at h hok
    obtain ⟨done,hdone,hreleasing⟩ := h hb.linked
    exact ⟨hreleasing.consistent hdone hb hok.2,hreleasing.kept hok.1⟩
  | complete =>
    rw [hop] at h hok
    rw [h]
    exact ⟨Consistent.completed hb k.order,kept_completed hok.1 hok.2⟩
  | cancel reason =>
    rw [hop] at h hok
    rw [h]
    exact ⟨Consistent.cancelled hb k.order,kept_cancelled hok⟩

/-- What a state is to an earlier one. -/
structure Reached (d₀ d : OrderDb) : Prop where
  consistent : d.Consistent
  kept : Kept d₀ d

/-- Any calls run side by side, and every transaction commits undisturbed. Then all that holds between
the tables holds at every time, and of what a state has at its end nothing changes afterwards. -/
theorem warehouse_order_lifecycle {lang : Language} {d₀ : OrderDb} (hstart : d₀.Consistent)
    {tr : List (Call × Ctx interface OrderDb)} {c : Config interface OrderDb Call}
    (hrun : Run store (Call.prog lang) Undisturbed d₀ tr c) :
    c.committed.Consistent ∧ Kept d₀ c.committed ∧
      ∀ e∈tr, e.2.base.Consistent ∧ Kept e.2.base c.committed := by
  have hspec := spec lang
  have hinvariant : ∀ k x, Left k x → Undisturbed k x → Reached d₀ x.base → Reached d₀ x.view := by
    intro k x hleft hok hx
    obtain ⟨hview,hstep⟩ := hleft.keeps hok hx.consistent
    exact ⟨hview,hx.kept.trans hstep⟩
  obtain ⟨hend,hbases⟩ := hrun.invariant hspec ⟨hstart,Kept.refl d₀⟩ hinvariant
  have hrun' : Run store (Call.prog lang) (fun k x => Undisturbed k x ∧ x.base.Consistent) d₀ tr c := by
    refine hrun.imp ?_
    intro e he hok
    exact ⟨hok,(hbases e he).consistent⟩
  refine ⟨hend.consistent,hend.kept,fun e he => ⟨(hbases e he).consistent,?_⟩⟩
  have hcommit := hrun'.commits hspec e he
  refine hrun'.carried hspec (P := Kept e.2.base) ?_ e he (hcommit.1.keeps hcommit.2.1 hcommit.2.2).2
  intro k x hleft hok hx
  exact hx.trans (hleft.keeps hok.1 hok.2).2

end Calls

section Demo
open OrderUpdates (someUuid)

def demoActor : AccessControl.AuthenticatedUser where
  id := someUuid '5' OrderUpdates.isHex_five
  permissions := ["warehouse-order.manage".toList]
  warehouses := [⟨someUuid '1' OrderUpdates.isHex_one,"MAIN".toList,["warehouse-order.manage".toList]⟩]
  clientAccess := []

def demoOrder : WarehouseOrder :=
  ⟨someUuid '2' OrderUpdates.isHex_two,someUuid '1' OrderUpdates.isHex_one,"WO-1".toList,.MOVE,.DRAFT,100⟩

def demoLine : WarehouseOrderLine :=
  ⟨someUuid '3' OrderUpdates.isHex_three,demoOrder.id,"1".toList,none,4,0,0,.OPEN⟩

/-- An order as it is created, with one line. -/
def drafted : OrderDb where
  warehouses := [⟨someUuid '1' OrderUpdates.isHex_one,"MAIN".toList⟩]
  orders := Table.empty.insert demoOrder
  lines := Table.empty.insert demoLine
  links := []
  tasks := .empty

def demoCall (operation : Operation) : Call :=
  ⟨operation,"MAIN".toList,"wo-1".toList,demoActor,demoOrder.id⟩

theorem drafted_consistent : drafted.Consistent := by
  constructor
  · intro k hk
    cases hk
  · intro k hk
    cases hk
  · intro o ho hs
    have hdraft : ∀ o∈drafted.orders.rows, o.status≠.COMPLETED := by decide
    exact absurd hs (hdraft o ho)
  · intro o _ _ k hk
    cases hk

/-- Released and then completed. -/
theorem warehouse_order_lifecycle_demo : ∃ tr d,
    serially store (Call.prog .ascii) id [demoCall .release,demoCall .complete] 10 [] drafted=.ok (tr,d) ∧
      d.Consistent := by
  obtain ⟨tr,d,he,hok⟩ : ∃ tr d, serially store (Call.prog .ascii) id
      [demoCall .release,demoCall .complete] 10 [] drafted=.ok (tr,d) ∧ ∀ e∈tr, Undisturbed e.1 e.2 :=
    ⟨_,_,rfl,by decide +kernel⟩
  exact ⟨tr,d,he,(warehouse_order_lifecycle drafted_consistent (Run.serially he .start hok)).1⟩

/-- Two releases check the draft before either of them commits. -/
theorem released_twice : ¬∀ (lang : Language) (d₀ : OrderDb) (tr : List (Call × Ctx interface OrderDb))
    (c : Config interface OrderDb Call), d₀.Consistent →
    Run store (Call.prog lang) (fun _ _ => True) d₀ tr c → c.committed.Consistent := by
  intro h
  obtain ⟨tr,d,he,hbad⟩ : ∃ tr d, overlapping store (Call.prog .ascii) id (demoCall .release)
      (demoCall .release) 3 10 drafted=some (tr,d) ∧ ∃ k∈d.links, ∃ k'∈d.links,
        ∃ l∈k.warehouseOrderLineId, l∈k'.warehouseOrderLineId ∧ d.Open k.warehouseTaskId ∧
          d.Open k'.warehouseTaskId ∧ k.warehouseTaskId≠k'.warehouseTaskId :=
    ⟨_,_,rfl,by decide +kernel⟩
  obtain ⟨k,hk,k',hk',l,hl,hl',hopen,hopen',hne⟩ := hbad
  have hconsistent := h _ _ _ _ drafted_consistent (Run.overlapping he fun _ _ => trivial)
  exact hne (hconsistent.single k hk k' hk' l hl hl' hopen hopen')

end Demo
end AardvarkWms.WarehouseOrders
