import AardvarkWms.Outcomes
import AardvarkWms.CycleCounts

/-! Do the rows of a count pass the CHECK constraints of their tables? -/
namespace AardvarkWms

open Transactions Transactions.Txn Relational

/-- The database refuses no row of the call. -/
def Storable (ids : ℕ → ℕ) (n : ℕ) (d : WmsDb) (p : Wms Unit) : Prop :=
  ∀ w, alone store ids p n [] (.start d)≠.error (.rejected w)

/-- A call is followed to its end, or to a refusal of its own. -/
def storing (ids : ℕ → ℕ) : Setting (interface wms) WmsDb :=
  ⟨store.accepts,ids,fun f => ∀ w, f≠.rejected w⟩

/-- The uuids that are drawn from now on are new ones. -/
def Unused (ids : ℕ → ℕ) (n : ℕ) (d : WmsDb) : Prop :=
  ∀ m, n ≤ m → (d .warehouseTasks).get? (ids m)=none ∧ (d .cycleCountTasks).get? (ids m)=none ∧
    (d .stockFreezes).get? (ids m)=none ∧ (d .stockMovements).get? (ids m)=none

/-- Which quants the scope of a plan takes in, of those that can be counted. -/
def inScope (d : WmsDb) (warehouseId : ℕ) (plan : CycleCountPlan) (q : StockQuant) : Bool :=
  match plan.scopeType, plan.scopeReference with
  | .ALL, _ => true
  | .LOCATION, some reference =>
    ((d .warehouseLocations).rows.find? fun l => l.warehouseId=warehouseId
      && (reference.names l.id l.code || l.barcode=some reference)).any (q.locationId=·.id)
  | .SKU, some reference =>
    ((d .skus).rows.find? fun s => reference.names s.id s.code || s.barcode=some reference).any
      (q.skuId=·.id)
  | .ZONE, some reference =>
    ((d .warehouseLocations).rows.filter (·.zone=some reference)).any (·.id=q.locationId)
  | _, none => false

def planScope (d : WmsDb) (warehouseId : ℕ) (plan : CycleCountPlan) : List StockQuant :=
  (d .stockQuants).rows.filter fun q => isCountable warehouseId q && inScope d warehouseId plan q

section
variable {ids : ℕ → ℕ} {n : ℕ} {d : WmsDb} {c : WmsCtx}

theorem storable_iff {p : Wms Unit} :
    Storable ids n d p ↔ outcome store (storing ids) p n (.start d) (fun _ _ _ => True) := by
  rw [storing,outcome_alone p []]
  constructor
  · intro h
    refine ⟨fun _ _ => trivial,fun f hf w hw => h w ?_⟩
    rw [hf,hw]
  · rintro ⟨_,h⟩ w hw
    exact h _ hw w rfl

@[simp] theorem storing_refused (e : HttpException) : (storing ids).fault (.refused e) := by
  intro w
  simp

@[simp] theorem storing_rejected (w : Statement wms) : ¬(storing ids).fault (.rejected w) :=
  fun h => h w rfl

@[simp] theorem storing_ids (m : ℕ) : (storing ids).ids m=ids m := rfl

@[simp] theorem storing_insert (t : TableName) (r : t.Row) (d : WmsDb) :
    (storing ids).accepts (.insert t r) d=TableName.check r := rfl

theorem storing_update (t : TableName) (id : t.Id) (p : t.Patch) (d : WmsDb) :
    (storing ids).accepts (.update t id p) d=
      ((d t).get? id).all fun r => TableName.check (TableName.patch p r) := rfl

theorem goes_releaseQuant (hinj : ids.Injective) (hu : Unused ids n c.view)
    (warehouseId planId : ℕ) (q : StockQuant) : ∃ c', Unused ids (n+3) c'.view ∧
      Goes store (storing ids) (releaseQuant warehouseId planId q) n c (0<q.quantity) () (n+3) c' := by
  have htask := (hu n le_rfl).1
  have hcount := (hu (n+1) (by omega)).2.1
  have hfreeze := (hu (n+2) (by omega)).2.2.1
  refine ⟨_,?_,(goes_fresh.bind ((goes_insert (D := wms) (t := .warehouseTasks) rfl (storing_rejected _)
    htask).bind (goes_fresh.bind ((goes_insert (D := wms) (t := .cycleCountTasks)
    rfl (storing_rejected _) ?_).bind (goes_fresh.bind (goes_insert (D := wms) (t := .stockFreezes) rfl
    (storing_rejected _) ?_)))))).congr ?_⟩
  · intro m hm
    have hne : ∀ k, k<n+3 → ids m≠ids k := fun k hk he => by
      have := hinj he
      omega
    obtain ⟨ht,hc,hf,hm⟩ := hu m (by omega)
    simp [Table.get?_insert,TableName.key,countWarehouseTask,WarehouseTask.record,countTaskOf,
      countFreeze,ht,hc,hf,hm,hne]
  · simpa [TableName.key,countTaskOf] using hcount
  · simpa [TableName.key,countFreeze] using hfreeze
  · simp [TableName.check,countWarehouseTask]

theorem goes_releaseQuants (hinj : ids.Injective) (warehouseId planId : ℕ) :
    ∀ (qs : List StockQuant) {n : ℕ} {c : WmsCtx}, Unused ids n c.view → ∃ n' c',
      Goes store (storing ids) (each qs (releaseQuant warehouseId planId)) n c
        (∀ q∈qs, 0<q.quantity) (qs.map fun _ => ()) n' c' := by
  intro qs
  induction qs with
  | nil => exact fun {n c} _ => ⟨n,c,(goes_done _).congr (by simp)⟩
  | cons q qs ih =>
    intro n c hu
    obtain ⟨c₁,hu₁,h₁⟩ := goes_releaseQuant hinj hu warehouseId planId q
    obtain ⟨n₂,c₂,h₂⟩ := ih hu₁
    exact ⟨n₂,c₂,(h₁.bind (h₂.bind (goes_done (()::_)))).congr (by simp)⟩

theorem goes_findQuantsForPlan (ids : ℕ → ℕ) (n : ℕ) {c : WmsCtx} {warehouseId : ℕ} {plan : CycleCountPlan}
    (hscope : planScope c.view warehouseId plan≠[]) : ∃ c', c'.view=c.view ∧
      Goes store (storing ids) (findQuantsForPlan warehouseId plan) n c True
        (planScope c.view warehouseId plan) n c' := by
  have hany : ∀ {α : Type} {o : Option α} {p : α → StockQuant → Bool},
      (c.view .stockQuants).rows.filter (fun q => isCountable warehouseId q && o.any (p · q))≠[] →
      ∃ a, o=some a := by
    intro α o p h
    cases o with
    | none => simp at h
    | some a => exact ⟨a,rfl⟩
  unfold findQuantsForPlan
  unfold planScope inScope at hscope ⊢
  split
  · rename_i hs
    simp only [hs]
    exact ⟨c.saw _ _,rfl,goes_findMany (D := wms) (t := .stockQuants)⟩
  · rename_i r hs hr
    simp only [hs,hr] at hscope ⊢
    obtain ⟨l,hl⟩ := hany hscope
    simp only [hl,Option.any_some]
    refine ⟨_,?_,((goes_resolve (D := wms) (t := .warehouseLocations) hl).bind
      (f := fun l => findCountableQuants warehouseId (·.locationId=l.id))
      (goes_findMany (D := wms) (t := .stockQuants))).congr and_self_iff⟩
    rfl
  · rename_i r hs hr
    simp only [hs,hr] at hscope ⊢
    obtain ⟨s,hsku⟩ := hany hscope
    simp only [hsku,Option.any_some]
    refine ⟨_,?_,((goes_resolve (D := wms) (t := .skus) hsku).bind
      (f := fun s => findCountableQuants warehouseId (·.skuId=s.id))
      (goes_findMany (D := wms) (t := .stockQuants))).congr and_self_iff⟩
    rfl
  · rename_i r hs hr
    simp only [hs,hr]
    refine ⟨_,?_,((goes_findMany (D := wms) (t := .warehouseLocations)).bind
      (f := fun zone => findCountableQuants warehouseId fun q => zone.any (·.id=q.locationId))
      (goes_findMany (D := wms) (t := .stockQuants))).congr and_self_iff⟩
    rfl
  all_goals
    rename_i hs hr
    simp [hs,hr] at hscope

/-- A draft plan with something in its scope. -/
structure Releasable (d : WmsDb) (warehouse plan : Text) (w : Warehouse) (p : CycleCountPlan) :
    Prop where
  warehouse : (d .warehouses).rows.find? (fun w => warehouse.names w.id w.code)=some w
  plan : (d .cycleCountPlans).rows.find?
    (fun p => p.warehouseId=w.id && plan.names p.id p.code)=some p
  draft : p.status=.DRAFT
  scope : planScope d w.id p≠[]

theorem goes_resolveWarehouse (ids : ℕ → ℕ) (n : ℕ) {c : WmsCtx} {reference : Text} {w : Warehouse}
    (h : (c.view .warehouses).rows.find? (fun w => reference.names w.id w.code)=some w) :
    ∃ c', c'.view=c.view ∧
      Goes store (storing ids) (resolveWarehouse reference) n c True w n c' := by
  refine ⟨_,?_,goes_resolve (D := wms) (t := .warehouses) h⟩
  rfl

theorem releasePlan_storable_iff {warehouse plan : Text} {w : Warehouse} {p : CycleCountPlan}
    (hinj : ids.Injective) (hu : Unused ids n d) (h : Releasable d warehouse plan w p) :
    Storable ids n d (releasePlan warehouse plan) ↔ ∀ q∈planScope d w.id p, 0<q.quantity := by
  obtain ⟨c₁,hc₁,h₁⟩ := goes_resolveWarehouse ids n (c := .start d) h.warehouse
  have hc₁ : c₁.view=d := hc₁
  have h₂ : Goes store (storing ids) (resolvePlan w.id plan) n c₁ True p n _ :=
    goes_resolve (D := wms) (t := .cycleCountPlans) (hc₁ ▸ h.plan)
  have hscope := h.scope
  rw [← hc₁] at hscope hu
  obtain ⟨c₃,hc₃,h₃⟩ := goes_findQuantsForPlan ids n (c := c₁.saw _ _) hscope
  obtain ⟨n₄,c₄,h₄⟩ := goes_releaseQuants hinj w.id p.id (planScope c₁.view w.id p)
    (show Unused ids n c₃.view from hc₃ ▸ hu)
  have hgo : Goes store (storing ids) (releasePlan warehouse plan) n (.start d) _ () n₄ _ :=
    h₁.bind (h₂.bind ((goes_require h.draft).bind (h₃.bind ((goes_require hscope).bind
      (h₄.bind (goes_update (D := wms) (t := .cycleCountPlans) (storing_rejected _)))))))
  rw [storable_iff,hgo,← hc₁]
  simp [storing_update,TableName.check]

/-- A submitted task whose count covers what is reserved of its quant. -/
structure Approvable (d : WmsDb) (warehouse : Text) (task : ℕ) (w : Warehouse)
    (t : CycleCountTask) (q : StockQuant) (skuId : ℕ) (n : ℤ) : Prop where
  warehouse : (d .warehouses).rows.find? (fun w => warehouse.names w.id w.code)=some w
  task : (d .cycleCountTasks).rows.find? (isCountTaskNamed w.id task)=some t
  submitted : t.status=.SUBMITTED
  stockQuant : t.stockQuantId=some q.id
  sku : t.skuId=some skuId
  counted : t.countedQuantity=some n
  quant : (d .stockQuants).get? q.id=some q
  check : TableName.check (t := .stockQuants) q=true
  reserved : q.reservedQuantity≤n

/-- The statements that only change the statuses of a count. -/
def CountStatus (w : Statement wms) : Prop :=
  (∃ id p, w=.update .cycleCountTasks id p) ∨ (∃ id p, w=.update .cycleCountPlans id p) ∨
    ∃ id p, w=.update .stockFreezes id p

theorem only_closeCount (t : CycleCountTask) : Only CountStatus (closeCount t) := by
  refine ((only_update (D := wms) _ _ _).mpr (.inl ⟨_,_,rfl⟩)).bind fun _ => ?_
  refine (only_updateMany (D := wms) fun _ => .inr (.inr ⟨_,_,rfl⟩)).bind fun _ => ?_
  refine (only_findMany (D := wms) _ _).bind fun _ => Only.ite (fun _ => ?_) (fun _ => only_done _)
  refine ((only_update (D := wms) _ _ _).mpr (.inr (.inl ⟨_,_,rfl⟩))).bind fun _ => ?_
  exact only_updateMany (D := wms) fun _ => .inr (.inr ⟨_,_,rfl⟩)

theorem outcome_closeCount (t : CycleCountTask) :
    outcome store (storing ids) (closeCount t) n c (fun _ _ _ => True) := by
  refine outcome_of_only (R := fun _ _ => True) (fun _ => trivial) (fun _ _ => trivial)
    (fun _ _ _ => trivial) ?_ storing_refused (only_closeCount t) (fun _ _ _ _ => trivial)
  rintro w d (⟨id,p,rfl⟩|⟨id,p,rfl⟩|⟨id,p,rfl⟩) <;> simp [storing_update,TableName.check]

theorem goes_adjustCountedQuant {warehouse : Text} {task : ℕ} {w : Warehouse}
    {t : CycleCountTask} {q : StockQuant} {skuId : ℕ} {counted : ℤ} (variance : ℤ)
    (hu : Unused ids n c.view) (h : Approvable c.view warehouse task w t q skuId counted) :
    ∃ c', Goes store (storing ids) (adjustCountedQuant w.id t variance) n c (0<variance) ()
      (n+1) c' := by
  have hmovement := (hu n le_rfl).2.2.2
  have hgo : Goes store (storing ids) (adjustCountedQuant w.id t variance) n c _ () (n+1) _ :=
    (goes_demand h.stockQuant).bind ((goes_demand h.sku).bind ((goes_demand h.counted).bind
      ((goes_lockRow (D := wms) (t := .stockQuants)).bind
        ((goes_find (D := wms) (t := .stockQuants)).bind ((goes_demand h.quant).bind
          ((goes_require h.reserved).bind
            ((goes_update (D := wms) (t := .stockQuants) (storing_rejected _)).bind
              (goes_fresh.bind (goes_insert (D := wms) (t := .stockMovements) rfl
                (storing_rejected _) (by simpa [countMovement,StockMovement.record,TableName.key] using hmovement))))))))))
  refine ⟨_,hgo.congr ?_⟩
  have hcheck := h.check
  have hreserved := h.reserved
  simp only [TableName.check,Bool.and_eq_true,decide_eq_true_eq] at hcheck
  simp [storing_update,h.quant,TableName.check,TableName.patch,StockQuantUpdate.patch,countMovement,
    StockMovement.record,hcheck.1.2,hreserved,hcheck.1.2.trans hreserved]

theorem approveTask_storable_iff {warehouse : Text} {task : ℕ} {w : Warehouse}
    {t : CycleCountTask} {q : StockQuant} {skuId : ℕ} {counted : ℤ} (hu : Unused ids n d)
    (h : Approvable d warehouse task w t q skuId counted) :
    Storable ids n d (approveTask warehouse task) ↔ 0≤approvedVariance t := by
  obtain ⟨c₁,hc₁,h₁⟩ := goes_resolveWarehouse ids n (c := .start d) h.warehouse
  obtain rfl : c₁.view=d := hc₁
  have h₂ : Goes store (storing ids) (resolveCountTask w.id task) n c₁ True t n _ :=
    goes_resolve (D := wms) (t := .cycleCountTasks) h.task
  rw [storable_iff]
  unfold approveTask
  simp only [bind_eq,outcome_bind]
  rw [h₁,true_and,h₂,true_and,goes_require h.submitted,true_and]
  by_cases hv : approvedVariance t=0
  · simp only [hv,ne_eq,not_true,if_false,outcome_closeCount,le_refl]
  · obtain ⟨c',hadjust⟩ := goes_adjustCountedQuant (c := c₁.saw (.rows .cycleCountTasks _) _)
      (approvedVariance t) hu h
    simp only [hv,ne_eq,not_false_eq_true,if_true]
    rw [outcome_bind,hadjust]
    simp only [outcome_closeCount,and_true]
    omega

/-- The rows of a count are stored exactly where its tasks have something to count and its
approval has nothing to write off. -/
theorem counts_storable_iff (hinj : ids.Injective) (hu : Unused ids n d) :
    (∀ warehouse plan w p, Releasable d warehouse plan w p →
      (Storable ids n d (releasePlan warehouse plan) ↔ ∀ q∈planScope d w.id p, 0<q.quantity)) ∧
    ∀ warehouse task w t q skuId counted, Approvable d warehouse task w t q skuId counted →
      (Storable ids n d (approveTask warehouse task) ↔ 0≤approvedVariance t) :=
  ⟨fun _ _ _ _ h => releasePlan_storable_iff hinj hu h,
   fun _ _ _ _ _ _ _ h => approveTask_storable_iff hu h⟩

end

def demoWarehouse : Warehouse := ⟨1,.word 1⟩

def demoPlan : CycleCountPlan := ⟨1,1,.word 1,.DRAFT,.ALL,none⟩

def demoQuant (quantity : ℤ) : StockQuant :=
  ⟨1,1,1,1,none,none,none,none,none,quantity,0,.AVAILABLE,1,0⟩

def demoTask (quantity counted : ℤ) : CycleCountTask :=
  ⟨1,1,2,none,1,some 1,some 1,some quantity,some counted,some (counted-quantity),.SUBMITTED⟩

/-- A warehouse with one quant, a draft plan over all of it, and a submitted count of it. -/
def countedWarehouse (quantity counted : ℤ) : WmsDb :=
  after [.insert .warehouses demoWarehouse,.insert .stockQuants (demoQuant quantity),
    .insert .cycleCountPlans demoPlan,.insert .cycleCountTasks (demoTask quantity counted)] emptyDb

theorem demo_releasable (quantity counted : ℤ) :
    Releasable (countedWarehouse quantity counted) (.word 1) (.word 1) demoWarehouse demoPlan :=
  ⟨rfl,rfl,rfl,List.cons_ne_nil (demoQuant quantity) []⟩

theorem demo_approvable (quantity counted : ℤ) (hq : 0≤quantity) (hc : 0≤counted) :
    Approvable (countedWarehouse quantity counted) (.word 1) 1 demoWarehouse
      (demoTask quantity counted) (demoQuant quantity) 1 counted :=
  ⟨rfl,rfl,rfl,rfl,rfl,rfl,rfl,by simp [TableName.check,demoQuant,hq],hc⟩

theorem demo_unused (quantity counted : ℤ) : Unused id 10 (countedWarehouse quantity counted) := by
  intro m hm
  refine ⟨rfl,Table.get?_eq_none.mpr ?_,rfl,rfl⟩
  intro t ht
  obtain rfl : t=demoTask quantity counted := List.mem_singleton.mp ht
  show (1 : ℕ)≠m
  omega

/-- A plan over an empty quant, and a count that finds less than was there. -/
theorem counts_not_storable :
    Releasable (countedWarehouse 0 0) (.word 1) (.word 1) demoWarehouse demoPlan ∧
    ¬Storable id 10 (countedWarehouse 0 0) (releasePlan (.word 1) (.word 1)) ∧
    Approvable (countedWarehouse 5 3) (.word 1) 1 demoWarehouse (demoTask 5 3) (demoQuant 5) 1 3 ∧
    ¬Storable id 10 (countedWarehouse 5 3) (approveTask (.word 1) 1) := by
  refine ⟨demo_releasable 0 0,fun h => h _ rfl,demo_approvable 5 3 (by decide) (by decide),?_⟩
  exact fun h => h _ rfl

theorem counted_warehouse_storable :
    Storable id 10 (countedWarehouse 5 7) (releasePlan (.word 1) (.word 1)) ∧
    Storable id 10 (countedWarehouse 5 7) (approveTask (.word 1) 1) := by
  have h := counts_storable_iff Function.injective_id (demo_unused 5 7)
  refine ⟨(h.1 _ _ _ _ (demo_releasable 5 7)).mpr ?_,
    (h.2 _ _ _ _ _ _ _ (demo_approvable 5 7 (by decide) (by decide))).mpr (by decide)⟩
  intro q hq
  obtain rfl : q=demoQuant 5 := List.mem_singleton.mp hq
  decide

end AardvarkWms
