import AardvarkWms.Allocation
import AardvarkWms.Histories
import AardvarkWms.Replenishment

/-! Replenishment of pick faces: rules, the demands that an evaluation proposes, and their
confirmations side by side, statement by statement: `src/replenishment/replenishment.service.ts`. -/
namespace AardvarkWms.ReplenishmentRuns

inductive ReplenishmentRuleStatus
  | ACTIVE | INACTIVE
  deriving DecidableEq

inductive ReplenishmentStrategy
  | MIN_MAX | DEMAND_BASED | EMERGENCY | PICK_FACE_TOPUP
  deriving DecidableEq

structure ReplenishmentRule where
  id : ℕ
  warehouseId : ℕ
  code : Text
  status : ReplenishmentRuleStatus
  strategy : ReplenishmentStrategy
  skuId : ℕ
  pickLocationId : ℕ
  sourceZone : Option Text
  minQuantity : ℕ
  maxQuantity : ℕ
  targetQuantity : ℕ
  priority : ℤ
  deriving DecidableEq

/-- `code` is the one that is given, or else the one that is made. -/
structure CreateReplenishmentRuleDto where
  code : Text
  strategy : Option ReplenishmentStrategy := none
  sourceZone : Option Text := none
  minQuantity : ℕ
  maxQuantity : ℕ
  targetQuantity : ℕ
  priority : Option ℤ := none

/-- A demand with the columns that only its proposal writes. -/
structure ProposedDemand extends ReplenishmentDemand where
  ruleId : ℕ
  availablePickQuantity : ℤ
  priority : ℤ
  deriving DecidableEq

def ProposedDemand.key (d : ProposedDemand) : ℕ := d.id

structure ReplenishmentQuantityInput where
  availablePickQuantity : ℤ
  minQuantity : ℤ
  maxQuantity : ℤ
  targetQuantity : ℤ

def calculateReplenishmentQuantity (input : ReplenishmentQuantityInput) : ℤ :=
  if input.minQuantity≤ input.availablePickQuantity then 0
  else max 0 (input.targetQuantity-input.availablePickQuantity)

def getAvailableQuantity (quantity reservedQuantity : ℤ) : ℤ := max 0 (quantity-reservedQuantity)

def quantAvailable (q : StockQuant) : ℤ := getAvailableQuantity q.quantity q.reservedQuantity

/-- The stock at a rule's pick location. -/
def ReplenishmentRule.isFace (rule : ReplenishmentRule) (q : StockQuant) : Bool :=
  q.warehouseId=rule.warehouseId && q.skuId=rule.skuId && q.locationId=rule.pickLocationId

/-- Where an evaluation is with the first of its rules. -/
inductive EvaluationStage
  | next
  | unopened
  | short (availablePickQuantity requiredQuantity : ℤ)

/-- An evaluation in progress: the rules to go, and what it has made and not committed. -/
structure Evaluation where
  todo : List ReplenishmentRule
  stage : EvaluationStage
  made : List (WarehouseTask × ProposedDemand)

inductive ConfirmationStage
  | found
  | taskLocked
  | sourceLocked (source : StockQuant)
  | aimed (source : StockQuant) (destination : Option ℕ)
  | ended

/-- A confirmation in progress, with the demand as it read it. -/
structure Confirmation where
  call : ℕ
  warehouseId : ℕ
  demand : ProposedDemand
  dto : ConfirmReplenishmentDto
  stage : ConfirmationStage

namespace Confirmation
variable (c : Confirmation)

def movedQuantity (source : StockQuant) : ℤ :=
  c.dto.quantity.getD (min c.demand.requiredQuantity (quantAvailable source))

def locksTask (taskId : ℕ) : Bool :=
  match c.stage with
  | .found | .ended => false
  | _ => c.demand.warehouseTaskId=some taskId

def locksQuant (quantId : ℕ) : Bool :=
  match c.stage with
  | .sourceLocked source | .aimed source _ => source.id=quantId
  | _ => false

end Confirmation

structure System where
  locations : Table WarehouseLocation.id
  rules : Table ReplenishmentRule.id
  quants : Table StockQuant.id
  tasks : Table WarehouseTask.id
  demands : Table ProposedDemand.key
  movements : List StockMovement
  evaluations : ℕ → Option Evaluation
  confirmations : Table Confirmation.call

def System.start (locations : Table WarehouseLocation.id) : System :=
  ⟨locations,.empty,.empty,.empty,.empty,[],fun _ => none,.empty⟩

/-- The statements of an evaluation. What the freeze checks answer is the event's. -/
inductive EvaluationEvent
  | findOpenDemand
  | readPickFace (blocked : Bool)
  | propose (blocked : Bool) (taskId demandId : ℕ)

inductive ConfirmationEvent
  | lockTask
  | lockSource (blocked : Bool)
  | findDestination
  | stopped

/-- What can happen next: a rule is made, stock changes elsewhere, or a call goes on. -/
inductive Event
  | createRule (id warehouseId skuId pickLocationId : ℕ) (dto : CreateReplenishmentRuleDto)
  | receive (quant : StockQuant)
  | adjust (quantId : ℕ) (quantity reservedQuantity : ℤ)
  | startEvaluation (call warehouseId : ℕ) (ruleReference : Option Text)
  | evaluate (call : ℕ) (statement : EvaluationEvent)
  | commitEvaluation (call : ℕ)
  | stopEvaluation (call : ℕ)
  | findDemand (call warehouseId taskReference : ℕ) (dto : ConfirmReplenishmentDto)
  | confirm (call : ℕ) (statement : ConfirmationEvent)
  | commitMove (call quantId createdAt movementId : ℕ)

section Evaluations

def byPriority (a b : ReplenishmentRule) : Prop :=
  a.priority < b.priority ∨ a.priority=b.priority ∧ a.code.le b.code=true

instance decidableByPriority : DecidableRel byPriority := fun a b =>
  inferInstanceAs (Decidable (a.priority < b.priority ∨ a.priority=b.priority ∧ a.code.le b.code=true))

variable (s : System)

def System.activeRules (warehouseId : ℕ) (ruleReference : Option Text) : List ReplenishmentRule :=
  (s.rules.rows.filter fun rule => rule.warehouseId=warehouseId && rule.status=.ACTIVE &&
    ruleReference.all fun reference => reference.names rule.id rule.code).insertionSort byPriority

def isOpenFor (rule : ReplenishmentRule) (d : ProposedDemand) : Bool :=
  d.ruleId=rule.id && (d.status=.OPEN || d.status=.TASK_CREATED)

def System.availablePickQuantity (rule : ReplenishmentRule) : ℤ :=
  ((s.quants.rows.filter rule.isFace).map quantAvailable).sum

/-- Not the pick location's, and in the zone that the rule names. -/
def System.isSourceFor (rule : ReplenishmentRule) (q : StockQuant) : Bool :=
  q.warehouseId=rule.warehouseId && q.skuId=rule.skuId && q.status=.AVAILABLE &&
    q.locationId≠rule.pickLocationId &&
    rule.sourceZone.all fun zone => ((s.locations.get? q.locationId).bind (·.zone))=some zone

def System.findSourceQuant (rule : ReplenishmentRule) (requiredQuantity : ℤ) : Option StockQuant :=
  let quants := (s.quants.rows.filter (s.isSourceFor rule)).insertionSort
    fun a b => compareStockQuantForAllocation .FEFO a b=true
  quants.find? (fun q => requiredQuantity≤quantAvailable q) <|>
    quants.find? (fun q => 0 < quantAvailable q)

def replenishTask (id : ℕ) (rule : ReplenishmentRule) (source : StockQuant) (requiredQuantity : ℤ) :
    WarehouseTask :=
  {WarehouseTask.record id rule.warehouseId .REPLENISH with
    skuId := some rule.skuId, fromLocationId := some source.locationId,
    toLocationId := some rule.pickLocationId,
    quantity := some (min requiredQuantity (quantAvailable source)), priority := rule.priority}

def replenishDemand (id taskId : ℕ) (rule : ReplenishmentRule) (source : StockQuant)
    (availablePickQuantity requiredQuantity : ℤ) : ProposedDemand where
  id := id
  warehouseId := rule.warehouseId
  skuId := rule.skuId
  pickLocationId := rule.pickLocationId
  sourceLocationId := some source.locationId
  stockQuantId := some source.id
  warehouseTaskId := some taskId
  status := .TASK_CREATED
  requiredQuantity := requiredQuantity
  ruleId := rule.id
  availablePickQuantity := availablePickQuantity
  priority := rule.priority

def Evaluation.skip (e : Evaluation) (rest : List ReplenishmentRule) : Evaluation :=
  {e with todo := rest, stage := .next}

def Evaluation.step (e : Evaluation) : EvaluationEvent → Option Evaluation
  | .findOpenDemand =>
    match e.stage, e.todo with
    | .next, rule::rest =>
      if s.demands.rows.any (isOpenFor rule) || e.made.any (fun x => isOpenFor rule x.2) then
        some (e.skip rest)
      else some {e with stage := .unopened}
    | _, _ => none
  | .readPickFace blocked =>
    match e.stage, e.todo with
    | .unopened, rule::rest =>
      let available := s.availablePickQuantity rule
      let required := calculateReplenishmentQuantity
        ⟨available,rule.minQuantity,rule.maxQuantity,rule.targetQuantity⟩
      if required≤0 || blocked then some (e.skip rest)
      else some {e with stage := .short available required}
    | _, _ => none
  | .propose blocked taskId demandId =>
    match e.stage, e.todo with
    | .short available required, rule::rest =>
      match s.findSourceQuant rule required with
      | none => some (e.skip rest)
      | some source =>
        if blocked then some (e.skip rest)
        else some {e.skip rest with
          made := e.made++[(replenishTask taskId rule source required,
            replenishDemand demandId taskId rule source available required)]}
    | _, _ => none

/-- What an evaluation has made becomes visible. -/
def System.publish (s : System) : List (WarehouseTask × ProposedDemand) → Option System
  | [] => some s
  | (task,demand)::made =>
    if s.tasks.get? task.id=none ∧ s.demands.get? demand.id=none then
      System.publish {s with tasks := s.tasks.insert task, demands := s.demands.insert demand} made
    else none

end Evaluations

section Confirmations
variable (s : System)

def System.findDemand (call warehouseId taskReference : ℕ) (dto : ConfirmReplenishmentDto) :
    Option Confirmation :=
  (s.demands.rows.find? fun d => d.warehouseId=warehouseId &&
    (d.id=taskReference || d.warehouseTaskId=some taskReference)).bind fun demand =>
      if demand.status=.COMPLETED then none
      else if demand.stockQuantId.isSome && demand.sourceLocationId.isSome &&
          demand.warehouseTaskId.isSome then
        some ⟨call,warehouseId,demand,dto,.found⟩
      else none

/-- Some other call holds the row. -/
def System.lockedFor (call : ℕ) (locks : Confirmation → Bool) : Bool :=
  s.confirmations.rows.any fun c => c.call≠call && locks c

def Confirmation.step (c : Confirmation) : ConfirmationEvent → Option Confirmation
  | .lockTask =>
    match c.stage, c.demand.warehouseTaskId with
    | .found, some taskId =>
      if s.lockedFor c.call (·.locksTask taskId) then none else some {c with stage := .taskLocked}
    | _, _ => none
  | .lockSource blocked =>
    match c.stage, c.demand.stockQuantId with
    | .taskLocked, some quantId =>
      if s.lockedFor c.call (·.locksQuant quantId) then none
      else (s.quants.get? quantId).bind fun source =>
        if !blocked && 0 < c.movedQuantity source && c.movedQuantity source≤quantAvailable source then
          some {c with stage := .sourceLocked source}
        else none
    | _, _ => none
  | .findDestination =>
    match c.stage with
    | .sourceLocked source => some {c with
        stage := .aimed source ((s.quants.rows.find?
          (destinationWhere c.warehouseId c.demand.toReplenishmentDemand)).map (·.id))}
    | _ => none
  | .stopped => some {c with stage := .ended}

def increase (quantity : ℤ) (q : StockQuant) : StockQuant :=
  {q with quantity := q.quantity+quantity, version := q.version+1}

theorem increase_id (quantity : ℤ) (q : StockQuant) : (increase quantity q).id=q.id := rfl

def destinationQuant (id createdAt : ℕ) (c : Confirmation) (quantity : ℤ) : StockQuant :=
  ⟨id,c.warehouseId,c.demand.pickLocationId,c.demand.skuId,none,none,none,none,none,quantity,0,
    .AVAILABLE,1,createdAt⟩

/-- The source is decremented, and the destination incremented or created. -/
def movedQuants (quants : Table StockQuant.id) (c : Confirmation) (source : StockQuant)
    (destination : Option ℕ) (quantId createdAt : ℕ) : Table StockQuant.id :=
  let taken := quants.modify source.id (increase (-c.movedQuantity source))
    (increase_id (-c.movedQuantity source))
  match destination with
  | some id => taken.modify id (increase (c.movedQuantity source)) (increase_id (c.movedQuantity source))
  | none => taken.insert (destinationQuant quantId createdAt c (c.movedQuantity source))

def finishTask (t : WarehouseTask) : WarehouseTask := {t with status := .DONE}

theorem finishTask_id (t : WarehouseTask) : (finishTask t).id=t.id := rfl

def complete (d : ProposedDemand) : ProposedDemand :=
  {d with toReplenishmentDemand := {d.toReplenishmentDemand with status := .COMPLETED}}

theorem complete_key (d : ProposedDemand) : (complete d).key=d.key := rfl

def writesTo (quants : Table StockQuant.id) (destination : Option ℕ) (quantId : ℕ) : Bool :=
  match destination with
  | some _ => true
  | none => (quants.get? quantId).isNone

/-- The writes of a confirmation and its commit. -/
def System.move (c : Confirmation) (source : StockQuant) (destination : Option ℕ) (taskId : ℕ)
    (quantId createdAt movementId : ℕ) : System :=
  {s with
    quants := movedQuants s.quants c source destination quantId createdAt
    tasks := s.tasks.modify taskId finishTask finishTask_id
    demands := s.demands.modify c.demand.id complete complete_key
    movements := s.movements++[replenishmentMovement movementId c.warehouseId
      c.demand.toReplenishmentDemand source (c.movedQuantity source)]
    confirmations := s.confirmations.put {c with stage := .ended}}

end Confirmations

namespace System
variable (s : System)

def setEvaluation (call : ℕ) (e : Option Evaluation) : System :=
  {s with evaluations := Function.update s.evaluations call e}

def newRule (id warehouseId skuId pickLocationId : ℕ) (dto : CreateReplenishmentRuleDto) :
    ReplenishmentRule where
  id := id
  warehouseId := warehouseId
  code := dto.code
  status := .ACTIVE
  strategy := dto.strategy.getD .MIN_MAX
  skuId := skuId
  pickLocationId := pickLocationId
  sourceZone := dto.sourceZone
  minQuantity := dto.minQuantity
  maxQuantity := dto.maxQuantity
  targetQuantity := dto.targetQuantity
  priority := dto.priority.getD 100

def recount (quantity reservedQuantity : ℤ) (q : StockQuant) : StockQuant :=
  {q with quantity, reservedQuantity}

theorem recount_id (quantity reservedQuantity : ℤ) (q : StockQuant) :
    (recount quantity reservedQuantity q).id=q.id := rfl

def step : Event → Option System
  | .createRule id warehouseId skuId pickLocationId dto =>
    if dto.maxQuantity < dto.minQuantity || dto.targetQuantity < dto.minQuantity then none
    else if s.rules.get? id=none ∧
        s.rules.rows.all fun rule => !(rule.warehouseId=warehouseId && rule.code=dto.code) then
      some {s with rules := s.rules.insert (newRule id warehouseId skuId pickLocationId dto)}
    else none
  | .receive quant =>
    if s.quants.get? quant.id=none then some {s with quants := s.quants.insert quant} else none
  | .adjust quantId quantity reservedQuantity =>
    if s.confirmations.rows.any (·.locksQuant quantId) then none
    else some {s with
      quants := s.quants.modify quantId (recount quantity reservedQuantity)
        (recount_id quantity reservedQuantity)}
  | .startEvaluation call warehouseId ruleReference =>
    if (s.evaluations call).isNone then
      some (s.setEvaluation call (some ⟨s.activeRules warehouseId ruleReference,.next,[]⟩))
    else none
  | .evaluate call statement =>
    (s.evaluations call).bind fun e => (e.step s statement).map fun e' => s.setEvaluation call (some e')
  | .commitEvaluation call =>
    (s.evaluations call).bind fun e =>
      if e.todo=[] then (s.publish e.made).map fun s' => s'.setEvaluation call none else none
  | .stopEvaluation call => some (s.setEvaluation call none)
  | .findDemand call warehouseId taskReference dto =>
    if s.confirmations.get? call=none then
      (s.findDemand call warehouseId taskReference dto).map fun c =>
        {s with confirmations := s.confirmations.put c}
    else none
  | .confirm call statement =>
    (s.confirmations.get? call).bind fun c => (c.step s statement).map fun c' =>
      {s with confirmations := s.confirmations.put c'}
  | .commitMove call quantId createdAt movementId =>
    (s.confirmations.get? call).bind fun c =>
      match c.stage, c.demand.warehouseTaskId with
      | .aimed source destination, some taskId =>
        if destination.any (fun id => s.lockedFor call (·.locksQuant id)) then none
        else if writesTo s.quants destination quantId then
          some (s.move c source destination taskId quantId createdAt movementId)
        else none
      | _, _ => none

/-- What cannot happen leaves the system as it is. -/
def act (s : System) (e : Event) : System := (s.step e).getD s

/-- What the pick face of a rule holds. -/
def faceOnHand (rule : ReplenishmentRule) : ℤ :=
  s.quants.total fun q => if rule.isFace q then q.quantity else 0

end System

section Growth
variable {s s' s'' : System}

/-- What no change of stock touches. -/
def place (q : StockQuant) : StockQuant :=
  {q with quantity := 0, reservedQuantity := 0, version := 0}

/-- A demand but for its status. -/
def proposal (d : ProposedDemand) : ProposedDemand :=
  {d with toReplenishmentDemand := {d.toReplenishmentDemand with status := .OPEN}}

/-- What every step keeps: the rules, the place of each quant, and each demand's proposal. -/
structure Later (s s' : System) : Prop where
  rules : Table.Grows id s.rules s'.rules
  quants : Table.Grows place s.quants s'.quants
  demands : Table.Grows proposal s.demands s'.demands

theorem Later.refl (s : System) : Later s s :=
  ⟨Table.Grows.refl s.rules,Table.Grows.refl s.quants,Table.Grows.refl s.demands⟩

theorem Later.trans (h : Later s s') (h' : Later s' s'') : Later s s'' :=
  ⟨h.rules.trans h'.rules,h.quants.trans h'.quants,h.demands.trans h'.demands⟩

theorem grows_movedQuants (quants : Table StockQuant.id) (c : Confirmation) (source : StockQuant)
    (destination : Option ℕ) (quantId createdAt : ℕ) :
    Table.Grows place quants (movedQuants quants c source destination quantId createdAt) := by
  have htaken : Table.Grows place quants (quants.modify source.id
      (increase (-c.movedQuantity source)) (increase_id (-c.movedQuantity source))) :=
    Table.grows_modify _ _ _ fun _ => rfl
  unfold movedQuants
  cases destination with
  | none => exact htaken.trans (Table.grows_insert _ _)
  | some id => exact htaken.trans (Table.grows_modify _ id _ fun _ => rfl)

theorem publish_later : ∀ {made : List (WarehouseTask × ProposedDemand)} {s s' : System},
    s.publish made=some s' → Later s s' ∧ s'.movements=s.movements := by
  intro made
  induction made with
  | nil =>
    intro s s' hs
    cases hs
    exact ⟨Later.refl s,rfl⟩
  | cons x made ih =>
    intro s s' hs
    obtain ⟨task,demand⟩ := x
    unfold System.publish at hs
    split at hs
    · have hrest := ih hs
      have hfirst : Later s {s with tasks := s.tasks.insert task, demands := s.demands.insert demand} :=
        ⟨Table.Grows.refl s.rules,Table.Grows.refl s.quants,Table.grows_insert s.demands demand⟩
      exact ⟨hfirst.trans hrest.1,hrest.2⟩
    · cases hs

theorem commitMove_cases {call quantId createdAt movementId : ℕ}
    (hs : s.step (.commitMove call quantId createdAt movementId)=some s') :
    ∃ c source destination taskId, s.confirmations.get? call=some c ∧
      c.stage=.aimed source destination ∧ c.demand.warehouseTaskId=some taskId ∧
      writesTo s.quants destination quantId=true ∧
      s'=s.move c source destination taskId quantId createdAt movementId := by
  simp only [System.step] at hs
  obtain ⟨c,hc,hs⟩ := Option.bind_eq_some_iff.mp hs
  split at hs
  · next source destination taskId hstage htask =>
    split at hs
    · cases hs
    · split at hs
      · next hwrites =>
        cases hs
        exact ⟨c,source,destination,taskId,hc,hstage,htask,hwrites,rfl⟩
      · cases hs
  · cases hs

/-- Only a confirmation's commit moves stock. -/
theorem later_step {e : Event} (hs : s.step e=some s') : Later s s' ∧ (s'.movements=s.movements ∨
    ∃ call quantId createdAt movementId, e=.commitMove call quantId createdAt movementId) := by
  have hsame := Later.refl s
  cases e with
  | createRule id warehouseId skuId pickLocationId dto =>
    simp only [System.step] at hs
    split at hs
    · cases hs
    · split at hs
      · cases hs
        exact ⟨⟨Table.grows_insert s.rules _,hsame.quants,hsame.demands⟩,.inl rfl⟩
      · cases hs
  | receive quant =>
    simp only [System.step] at hs
    split at hs
    · cases hs
      exact ⟨⟨hsame.rules,Table.grows_insert s.quants quant,hsame.demands⟩,.inl rfl⟩
    · cases hs
  | adjust quantId quantity reservedQuantity =>
    simp only [System.step] at hs
    split at hs
    · cases hs
    · cases hs
      have hquants : Table.Grows place s.quants (s.quants.modify quantId
          (System.recount quantity reservedQuantity) (System.recount_id quantity reservedQuantity)) :=
        Table.grows_modify _ _ _ fun _ => rfl
      exact ⟨⟨hsame.rules,hquants,hsame.demands⟩,.inl rfl⟩
  | startEvaluation call warehouseId ruleReference =>
    simp only [System.step] at hs
    split at hs
    · cases hs
      exact ⟨⟨hsame.rules,hsame.quants,hsame.demands⟩,.inl rfl⟩
    · cases hs
  | evaluate call statement =>
    simp only [System.step] at hs
    obtain ⟨e,_,hs⟩ := Option.bind_eq_some_iff.mp hs
    obtain ⟨e',_,rfl⟩ := Option.map_eq_some_iff.mp hs
    exact ⟨⟨hsame.rules,hsame.quants,hsame.demands⟩,.inl rfl⟩
  | commitEvaluation call =>
    simp only [System.step] at hs
    obtain ⟨e,_,hs⟩ := Option.bind_eq_some_iff.mp hs
    split at hs
    · obtain ⟨s₁,hpublish,rfl⟩ := Option.map_eq_some_iff.mp hs
      obtain ⟨hlater,hmovements⟩ := publish_later hpublish
      exact ⟨⟨hlater.rules,hlater.quants,hlater.demands⟩,.inl hmovements⟩
    · cases hs
  | stopEvaluation call =>
    cases hs
    exact ⟨⟨hsame.rules,hsame.quants,hsame.demands⟩,.inl rfl⟩
  | findDemand call warehouseId taskReference dto =>
    simp only [System.step] at hs
    split at hs
    · obtain ⟨c,_,rfl⟩ := Option.map_eq_some_iff.mp hs
      exact ⟨⟨hsame.rules,hsame.quants,hsame.demands⟩,.inl rfl⟩
    · cases hs
  | confirm call statement =>
    simp only [System.step] at hs
    obtain ⟨c,_,hs⟩ := Option.bind_eq_some_iff.mp hs
    obtain ⟨c',_,rfl⟩ := Option.map_eq_some_iff.mp hs
    exact ⟨⟨hsame.rules,hsame.quants,hsame.demands⟩,.inl rfl⟩
  | commitMove call quantId createdAt movementId =>
    obtain ⟨c,source,destination,taskId,_,_,_,_,rfl⟩ := commitMove_cases hs
    have hdemands : Table.Grows proposal s.demands
        (s.demands.modify c.demand.id complete complete_key) :=
      Table.grows_modify _ _ _ fun _ => rfl
    exact ⟨⟨hsame.rules,grows_movedQuants s.quants c source destination quantId createdAt,hdemands⟩,
      .inr ⟨call,quantId,createdAt,movementId,rfl⟩⟩

end Growth

section Invariant
variable {s s' : System}

/-- A demand is as its rule has proposed it, of a source that is not on the pick face. -/
structure Proposed (s : System) (d : ProposedDemand) (rule : ReplenishmentRule)
    (source : StockQuant) : Prop where
  ruled : s.rules.get? d.ruleId=some rule
  warehouse : d.warehouseId=rule.warehouseId
  sku : d.skuId=rule.skuId
  face : d.pickLocationId=rule.pickLocationId
  required : d.requiredQuantity=calculateReplenishmentQuantity
    ⟨d.availablePickQuantity,rule.minQuantity,rule.maxQuantity,rule.targetQuantity⟩
  needed : 0 < d.requiredQuantity
  sourced : ∃ id, d.stockQuantId=some id ∧ s.quants.get? id=some source
  apart : source.locationId≠rule.pickLocationId

def IsProposed (s : System) (d : ProposedDemand) : Prop := ∃ rule source, Proposed s d rule source

theorem IsProposed.later {d : ProposedDemand} (h : IsProposed s d) (hlater : Later s s') :
    IsProposed s' d := by
  obtain ⟨rule,source,hd⟩ := h
  obtain ⟨rule',hrule',hsame⟩ := hlater.rules d.ruleId rule hd.ruled
  obtain ⟨id,hid,hsource⟩ := hd.sourced
  obtain ⟨source',hsource',hplace⟩ := hlater.quants id source hsource
  have hrule : rule'=rule := hsame
  have hlocation : source'.locationId=source.locationId := congrArg (·.locationId) hplace
  refine ⟨rule,source',⟨hrule ▸ hrule',hd.warehouse,hd.sku,hd.face,hd.required,
    hd.needed,⟨id,hid,hsource'⟩,?_⟩⟩
  rw [hlocation]
  exact hd.apart

theorem IsProposed.of_proposal {d d' : ProposedDemand} (h : IsProposed s d)
    (hsame : proposal d'=proposal d) : IsProposed s d' := by
  obtain ⟨rule,source,hd⟩ := h
  have hrule : d'.ruleId=d.ruleId := congrArg (·.ruleId) hsame
  have hwarehouse : d'.warehouseId=d.warehouseId := congrArg (·.warehouseId) hsame
  have hsku : d'.skuId=d.skuId := congrArg (·.skuId) hsame
  have hface : d'.pickLocationId=d.pickLocationId := congrArg (·.pickLocationId) hsame
  have hrequired : d'.requiredQuantity=d.requiredQuantity := congrArg (·.requiredQuantity) hsame
  have havailable : d'.availablePickQuantity=d.availablePickQuantity :=
    congrArg (·.availablePickQuantity) hsame
  have hsource : d'.stockQuantId=d.stockQuantId := congrArg (·.stockQuantId) hsame
  refine ⟨rule,source,⟨?_,hwarehouse.trans hd.warehouse,hsku.trans hd.sku,hface.trans hd.face,?_,?_,
    ?_,hd.apart⟩⟩
  · rw [hrule]
    exact hd.ruled
  · rw [hrequired,havailable]
    exact hd.required
  · rw [hrequired]
    exact hd.needed
  · rw [hsource]
    exact hd.sourced

/-- What an evaluation has made. -/
structure Made (s : System) (x : WarehouseTask × ProposedDemand) : Prop where
  proposed : IsProposed s x.2
  task : x.2.warehouseTaskId=some x.1.id
  status : x.2.status=.TASK_CREATED

structure Evaluation.Sound (s : System) (e : Evaluation) : Prop where
  rules : ∀ rule∈e.todo, s.rules.get? rule.id=some rule
  short : ∀ available required, e.stage=.short available required → ∀ rule∈e.todo.head?,
    required=calculateReplenishmentQuantity
      ⟨available,rule.minQuantity,rule.maxQuantity,rule.targetQuantity⟩ ∧ 0 < required
  made : ∀ x∈e.made, Made s x

def Confirmation.source? (c : Confirmation) : Option StockQuant :=
  match c.stage with
  | .sourceLocked source | .aimed source _ => some source
  | _ => none

structure Confirmation.Sound (s : System) (c : Confirmation) : Prop where
  listed : ∃ d, s.demands.get? c.demand.id=some d ∧ proposal d=proposal c.demand
  warehouse : c.demand.warehouseId=c.warehouseId
  source : ∀ source, c.source?=some source → c.demand.stockQuantId=some source.id
  destination : ∀ source id, c.stage=.aimed source (some id) → ∃ q, s.quants.get? id=some q ∧
    q.warehouseId=c.warehouseId ∧ q.skuId=c.demand.skuId ∧ q.locationId=c.demand.pickLocationId

structure Sound (s : System) : Prop where
  demands : ∀ d∈s.demands.rows, IsProposed s d
  tasked : ∀ d∈s.demands.rows, ∃ id, d.warehouseTaskId=some id ∧ s.tasks.get? id≠none
  distinct : ∀ d∈s.demands.rows, ∀ d'∈s.demands.rows, d.warehouseTaskId=d'.warehouseTaskId → d=d'
  moved : ∀ d∈s.demands.rows, d.status=.COMPLETED ↔ ∃ m∈s.movements, m.taskId=d.warehouseTaskId
  movements : ∀ m∈s.movements, ∃ id, m.taskId=some id ∧ s.tasks.get? id≠none
  confirming : ∀ c∈s.confirmations.rows, c.Sound s
  evaluating : ∀ call e, s.evaluations call=some e → e.Sound s

theorem sound_start (locations : Table WarehouseLocation.id) : Sound (.start locations) := by
  have hnone : ∀ d, d∉(System.start locations).demands.rows := fun d => List.not_mem_nil
  exact ⟨fun d hd => absurd hd (hnone d),fun d hd => absurd hd (hnone d),
    fun d hd => absurd hd (hnone d),fun d hd => absurd hd (hnone d),
    fun m hm => absurd hm List.not_mem_nil,fun c hc => absurd hc List.not_mem_nil,
    fun call e he => by cases he⟩

theorem Made.later {x : WarehouseTask × ProposedDemand} (h : Made s x) (hlater : Later s s') :
    Made s' x :=
  ⟨h.proposed.later hlater,h.task,h.status⟩

theorem Evaluation.Sound.later {e : Evaluation} (h : e.Sound s) (hlater : Later s s') :
    e.Sound s' := by
  refine ⟨fun rule hrule => ?_,h.short,fun x hx => (h.made x hx).later hlater⟩
  obtain ⟨rule',hrule',hsame⟩ := hlater.rules rule.id rule (h.rules rule hrule)
  have hid : rule'=rule := hsame
  rw [hrule',hid]

theorem Confirmation.Sound.later {c : Confirmation} (h : c.Sound s) (hlater : Later s s') :
    c.Sound s' := by
  refine ⟨?_,h.warehouse,h.source,fun source id hstage => ?_⟩
  · obtain ⟨d,hd,hsame⟩ := h.listed
    obtain ⟨d',hd',hsame'⟩ := hlater.demands c.demand.id d hd
    exact ⟨d',hd',hsame'.trans hsame⟩
  · obtain ⟨q,hq,hwarehouse,hsku,hlocation⟩ := h.destination source id hstage
    obtain ⟨q',hq',hplace⟩ := hlater.quants id q hq
    have hwarehouse' : q'.warehouseId=q.warehouseId := congrArg (·.warehouseId) hplace
    have hsku' : q'.skuId=q.skuId := congrArg (·.skuId) hplace
    have hlocation' : q'.locationId=q.locationId := congrArg (·.locationId) hplace
    exact ⟨q',hq',hwarehouse'.trans hwarehouse,hsku'.trans hsku,hlocation'.trans hlocation⟩

end Invariant

section Callers
variable {s : System}

theorem mem_filter_insertionSort {p : ReplenishmentRule → Bool} {rules : List ReplenishmentRule}
    {rule : ReplenishmentRule} (h : rule∈(rules.filter p).insertionSort byPriority) : rule∈rules :=
  List.mem_of_mem_filter ((List.mem_insertionSort byPriority).mp h)

theorem findSourceQuant_spec {rule : ReplenishmentRule} {requiredQuantity : ℤ} {source : StockQuant}
    (h : s.findSourceQuant rule requiredQuantity=some source) :
    s.quants.get? source.id=some source ∧ source.locationId≠rule.pickLocationId := by
  have hmem : source∈(s.quants.rows.filter (s.isSourceFor rule)).insertionSort
      fun a b => compareStockQuantForAllocation .FEFO a b=true := by
    unfold System.findSourceQuant at h
    rcases (Option.orElse_eq_some ..).mp h with hfull|⟨_,hsome⟩
    · exact List.mem_of_find?_eq_some hfull
    · exact List.mem_of_find?_eq_some hsome
  obtain ⟨hrow,hsource⟩ := List.mem_filter.mp ((List.mem_insertionSort _).mp hmem)
  refine ⟨Table.get?_key hrow,?_⟩
  unfold System.isSourceFor at hsource
  simp only [Bool.and_eq_true,decide_eq_true_eq] at hsource
  exact hsource.1.2

theorem Evaluation.Sound.skip {e : Evaluation} {rule : ReplenishmentRule}
    {rest : List ReplenishmentRule} (h : e.Sound s) (htodo : e.todo=rule::rest) :
    (e.skip rest).Sound s := by
  refine ⟨fun r hr => h.rules r ?_,fun available required hstage => ?_,h.made⟩
  · rw [htodo]
    exact List.mem_cons_of_mem rule hr
  · cases hstage

theorem Evaluation.Sound.step {e e' : Evaluation} {statement : EvaluationEvent} (h : e.Sound s)
    (hs : e.step s statement=some e') : e'.Sound s := by
  cases statement with
  | findOpenDemand =>
    simp only [Evaluation.step] at hs
    split at hs
    · next rule rest hstage htodo =>
      split at hs
      · cases hs
        exact h.skip htodo
      · cases hs
        refine ⟨h.rules,fun available required hstage => ?_,h.made⟩
        cases hstage
    · cases hs
  | readPickFace blocked =>
    simp only [Evaluation.step] at hs
    split at hs
    · next rule rest hstage htodo =>
      split at hs
      · cases hs
        exact h.skip htodo
      · next hshort =>
        cases hs
        refine ⟨h.rules,fun available required hstage r hr => ?_,h.made⟩
        cases hstage
        rw [htodo,List.head?_cons] at hr
        cases hr
        simp only [Bool.or_eq_true,decide_eq_true_eq,not_or,not_le] at hshort
        exact ⟨rfl,hshort.1⟩
    · cases hs
  | propose blocked taskId demandId =>
    simp only [Evaluation.step] at hs
    split at hs
    · next available required rule rest hstage htodo =>
      split at hs
      · cases hs
        exact h.skip htodo
      · next source hsource =>
        split at hs
        · cases hs
          exact h.skip htodo
        · cases hs
          have hskip := h.skip htodo
          refine ⟨hskip.rules,hskip.short,fun x hx => ?_⟩
          rcases List.mem_append.mp hx with hold|hnew
          · exact h.made x hold
          · rw [List.mem_singleton.mp hnew]
            have hrule : rule∈e.todo := by
              rw [htodo]
              exact List.mem_cons_self
            have hrequired : required=calculateReplenishmentQuantity
                ⟨available,rule.minQuantity,rule.maxQuantity,rule.targetQuantity⟩ ∧
                  0 < required := by
              apply h.short available required hstage rule
              rw [htodo]
              rfl
            obtain ⟨hrow,hapart⟩ := findSourceQuant_spec hsource
            exact ⟨⟨rule,source,⟨h.rules rule hrule,rfl,rfl,rfl,hrequired.1,hrequired.2,
              ⟨source.id,rfl,hrow⟩,hapart⟩⟩,rfl,rfl⟩
    · cases hs

theorem findDemand_sound {call warehouseId taskReference : ℕ} {dto : ConfirmReplenishmentDto}
    {c : Confirmation} (hs : s.findDemand call warehouseId taskReference dto=some c) : c.Sound s := by
  obtain ⟨demand,hfind,hs⟩ := Option.bind_eq_some_iff.mp hs
  split at hs
  · cases hs
  · split at hs
    · cases hs
      have hrow : s.demands.get? demand.id=some demand :=
        Table.get?_key (List.mem_of_find?_eq_some hfind)
      have hmatch := List.find?_some hfind
      simp only [Bool.and_eq_true,decide_eq_true_eq] at hmatch
      refine ⟨⟨demand,hrow,rfl⟩,hmatch.1,fun source hsource => ?_,fun source id hstage => ?_⟩
      · cases hsource
      · cases hstage
    · cases hs

theorem Confirmation.Sound.idle {c : Confirmation} {stage : ConfirmationStage} (h : c.Sound s)
    (hnone : ({c with stage} : Confirmation).source?=none) :
    ({c with stage} : Confirmation).Sound s := by
  refine ⟨h.listed,h.warehouse,fun source hsource => ?_,fun source id hstage => ?_⟩
  · rw [hnone] at hsource
    cases hsource
  · have hstage' : stage=.aimed source (some id) := hstage
    simp [Confirmation.source?,hstage'] at hnone

theorem Confirmation.Sound.step {c c' : Confirmation} {statement : ConfirmationEvent}
    (h : c.Sound s) (hs : c.step s statement=some c') : c'.Sound s := by
  cases statement with
  | lockTask =>
    simp only [Confirmation.step] at hs
    split at hs
    · split at hs
      · cases hs
      · cases hs
        exact h.idle rfl
    · cases hs
  | lockSource blocked =>
    simp only [Confirmation.step] at hs
    split at hs
    · next quantId hstage hquant =>
      split at hs
      · cases hs
      · obtain ⟨source,hsource,hs⟩ := Option.bind_eq_some_iff.mp hs
        split at hs
        · cases hs
          refine ⟨h.listed,h.warehouse,fun q hq => ?_,fun q id hstage => ?_⟩
          · cases hq
            rw [hquant,Table.key_of_get? hsource]
          · cases hstage
        · cases hs
    · cases hs
  | findDestination =>
    simp only [Confirmation.step] at hs
    split at hs
    · next source hstage =>
      cases hs
      refine ⟨h.listed,h.warehouse,fun q hq => ?_,fun q id haimed => ?_⟩
      · cases hq
        apply h.source
        unfold Confirmation.source?
        rw [hstage]
      · cases hfind : s.quants.rows.find?
            (destinationWhere c.warehouseId c.demand.toReplenishmentDemand) with
        | none =>
          rw [hfind] at haimed
          cases haimed
        | some found =>
          rw [hfind] at haimed
          cases haimed
          have hmatch := List.find?_some hfind
          simp only [destinationWhere,Bool.and_eq_true,decide_eq_true_eq] at hmatch
          exact ⟨found,Table.get?_key (List.mem_of_find?_eq_some hfind),hmatch.1.1.1.1,
            hmatch.1.1.1.2,hmatch.1.1.2⟩
    · cases hs
  | stopped =>
    cases hs
    exact h.idle rfl

end Callers

section Steps
variable {s s' : System}

theorem Sound.keeps (h : Sound s) (hlater : Later s s') (hdemands : s'.demands=s.demands)
    (htasks : s'.tasks=s.tasks) (hmovements : s'.movements=s.movements)
    (hconfirming : ∀ c∈s'.confirmations.rows, c.Sound s')
    (hevaluating : ∀ call e, s'.evaluations call=some e → e.Sound s') : Sound s' := by
  refine ⟨fun d hd => ?_,?_,?_,?_,?_,hconfirming,hevaluating⟩
  · rw [hdemands] at hd
    exact (h.demands d hd).later hlater
  · rw [hdemands,htasks]
    exact h.tasked
  · rw [hdemands]
    exact h.distinct
  · rw [hdemands,hmovements]
    exact h.moved
  · rw [hmovements,htasks]
    exact h.movements

theorem Sound.confirming_later (h : Sound s) (hlater : Later s s') :
    ∀ c∈s.confirmations.rows, c.Sound s' :=
  fun c hc => (h.confirming c hc).later hlater

theorem Sound.evaluating_later (h : Sound s) (hlater : Later s s') :
    ∀ call e, s.evaluations call=some e → e.Sound s' :=
  fun call e he => (h.evaluating call e he).later hlater

theorem Sound.setEvaluation (h : Sound s) (call : ℕ) {next : Option Evaluation}
    (hnext : ∀ e, next=some e → e.Sound s) : Sound (s.setEvaluation call next) := by
  have hlater : Later s (s.setEvaluation call next) := ⟨(Later.refl s).rules,(Later.refl s).quants,
    (Later.refl s).demands⟩
  refine h.keeps hlater rfl rfl rfl (h.confirming_later hlater) fun c e he => ?_
  by_cases hc : c=call
  · subst hc
    simp only [System.setEvaluation,Function.update_self] at he
    exact (hnext e he).later hlater
  · simp only [System.setEvaluation,Function.update_of_ne hc] at he
    exact (h.evaluating c e he).later hlater

theorem Sound.put (h : Sound s) {c : Confirmation} (hc : c.Sound s) :
    Sound {s with confirmations := s.confirmations.put c} := by
  have hlater : Later s {s with confirmations := s.confirmations.put c} :=
    ⟨(Later.refl s).rules,(Later.refl s).quants,(Later.refl s).demands⟩
  refine h.keeps hlater rfl rfl rfl (fun c' hc' => ?_) (h.evaluating_later hlater)
  rcases Table.mem_put.mp hc' with rfl|⟨hold,_⟩
  · exact hc.later hlater
  · exact (h.confirming c' hold).later hlater

theorem Sound.publishOne (h : Sound s) {task : WarehouseTask} {demand : ProposedDemand}
    (htask : s.tasks.get? task.id=none) (hdemand : s.demands.get? demand.id=none)
    (hmade : Made s (task,demand)) :
    Sound {s with tasks := s.tasks.insert task, demands := s.demands.insert demand} := by
  have hlater : Later s {s with tasks := s.tasks.insert task, demands := s.demands.insert demand} :=
    ⟨Table.Grows.refl s.rules,Table.Grows.refl s.quants,Table.grows_insert s.demands demand⟩
  have hrows : (s.demands.insert demand).rows=s.demands.rows++[demand] := Table.rows_insert hdemand
  have hkept : ∀ id, s.tasks.get? id≠none → (s.tasks.insert task).get? id≠none := by
    intro id hid
    rw [Table.get?_insert]
    split
    · exact Option.some_ne_none _
    · exact hid
  have hnew : (s.tasks.insert task).get? task.id≠none := by
    rw [Table.get?_insert_new htask]
    exact Option.some_ne_none _
  have hfresh : ∀ d∈s.demands.rows, d.warehouseTaskId≠demand.warehouseTaskId := by
    intro d hd hsame
    obtain ⟨id,hid,hrow⟩ := h.tasked d hd
    rw [hmade.task,hid] at hsame
    cases hsame
    exact hrow htask
  have hunmoved : ¬∃ m∈s.movements, m.taskId=demand.warehouseTaskId := by
    intro ⟨m,hm,hsame⟩
    obtain ⟨id,hid,hrow⟩ := h.movements m hm
    rw [hid,hmade.task] at hsame
    cases hsame
    exact hrow htask
  refine ⟨fun d hd => ?_,fun d hd => ?_,fun d hd d' hd' hsame => ?_,fun d hd => ?_,fun m hm => ?_,
    h.confirming_later hlater,h.evaluating_later hlater⟩
  · rw [hrows] at hd
    rcases List.mem_append.mp hd with hold|hlast
    · exact (h.demands d hold).later hlater
    · rw [List.mem_singleton.mp hlast]
      exact hmade.proposed.later hlater
  · rw [hrows] at hd
    rcases List.mem_append.mp hd with hold|hlast
    · obtain ⟨id,hid,hrow⟩ := h.tasked d hold
      exact ⟨id,hid,hkept id hrow⟩
    · rw [List.mem_singleton.mp hlast]
      exact ⟨task.id,hmade.task,hnew⟩
  · rw [hrows] at hd hd'
    rcases List.mem_append.mp hd with hold|hlast
    · rcases List.mem_append.mp hd' with hold'|hlast'
      · exact h.distinct d hold d' hold' hsame
      · rw [List.mem_singleton.mp hlast'] at hsame
        exact absurd hsame (hfresh d hold)
    · rcases List.mem_append.mp hd' with hold'|hlast'
      · rw [List.mem_singleton.mp hlast] at hsame
        exact absurd hsame.symm (hfresh d' hold')
      · rw [List.mem_singleton.mp hlast,List.mem_singleton.mp hlast']
  · rw [hrows] at hd
    rcases List.mem_append.mp hd with hold|hlast
    · exact h.moved d hold
    · rw [List.mem_singleton.mp hlast]
      constructor
      · intro hcompleted
        have hcreated := hmade.status
        rw [hcompleted] at hcreated
        cases hcreated
      · intro hmoved
        exact absurd hmoved hunmoved
  · obtain ⟨id,hid,hrow⟩ := h.movements m hm
    exact ⟨id,hid,hkept id hrow⟩

theorem Sound.publish : ∀ {made : List (WarehouseTask × ProposedDemand)} {s s' : System}, Sound s →
    (∀ x∈made, Made s x) → s.publish made=some s' → Sound s' := by
  intro made
  induction made with
  | nil =>
    intro s s' h _ hs
    cases hs
    exact h
  | cons x made ih =>
    intro s s' h hmade hs
    obtain ⟨task,demand⟩ := x
    unfold System.publish at hs
    split at hs
    · next hnew =>
      have hlater : Later s
          {s with tasks := s.tasks.insert task, demands := s.demands.insert demand} :=
        ⟨Table.Grows.refl s.rules,Table.Grows.refl s.quants,Table.grows_insert s.demands demand⟩
      have hfirst := h.publishOne hnew.1 hnew.2 (hmade _ List.mem_cons_self)
      exact ih hfirst (fun x hx => (hmade x (List.mem_cons_of_mem _ hx)).later hlater) hs
    · cases hs

theorem mem_complete {demands : Table ProposedDemand.key} {id : ℕ} {d : ProposedDemand}
    (h : d∈(demands.modify id complete complete_key).rows) :
    ∃ d₀∈demands.rows, (d₀.id=id ∧ d=complete d₀) ∨ (d₀.id≠id ∧ d=d₀) := by
  rw [Table.rows_modify] at h
  obtain ⟨d₀,hd₀,rfl⟩ := List.mem_map.mp h
  refine ⟨d₀,hd₀,?_⟩
  by_cases hid : d₀.key=id
  · exact .inl ⟨hid,if_pos hid⟩
  · exact .inr ⟨hid,if_neg hid⟩

theorem Sound.move (h : Sound s) {c : Confirmation} (hc : c∈s.confirmations.rows)
    (source : StockQuant) (destination : Option ℕ) (taskId quantId createdAt movementId : ℕ) :
    Sound (s.move c source destination taskId quantId createdAt movementId) := by
  have hdemands : Table.Grows proposal s.demands
      (s.demands.modify c.demand.id complete complete_key) := Table.grows_modify _ _ _ fun _ => rfl
  have hlater : Later s (s.move c source destination taskId quantId createdAt movementId) :=
    ⟨Table.Grows.refl s.rules,grows_movedQuants s.quants c source destination quantId createdAt,
      hdemands⟩
  obtain ⟨moving,hmoving,hproposal⟩ := (h.confirming c hc).listed
  have hmovingTask : moving.warehouseTaskId=c.demand.warehouseTaskId :=
    congrArg (·.warehouseTaskId) hproposal
  obtain ⟨hmovingRow,hmovingId⟩ := Table.mem_of_get? hmoving
  have hkept : ∀ id, s.tasks.get? id≠none →
      (s.tasks.modify taskId finishTask finishTask_id).get? id≠none := by
    intro id hid
    rw [Table.get?_modify]
    split
    · intro hnone
      exact hid (Option.map_eq_none_iff.mp hnone)
    · exact hid
  have hsame : ∀ d∈(s.demands.modify c.demand.id complete complete_key).rows,
      ∃ d₀∈s.demands.rows, d.id=d₀.id ∧ proposal d=proposal d₀ := by
    intro d hd
    obtain ⟨d₀,hd₀,⟨_,rfl⟩|⟨_,rfl⟩⟩ := mem_complete hd
    · exact ⟨d₀,hd₀,rfl,rfl⟩
    · exact ⟨d,hd₀,rfl,rfl⟩
  refine ⟨fun d hd => ?_,fun d hd => ?_,fun d hd d' hd' htasks => ?_,fun d hd => ?_,fun m hm => ?_,?_,
    h.evaluating_later hlater⟩
  · obtain ⟨d₀,hd₀,_,hd⟩ := hsame d hd
    exact ((h.demands d₀ hd₀).of_proposal hd).later hlater
  · obtain ⟨d₀,hd₀,_,hd⟩ := hsame d hd
    have htask : d.warehouseTaskId=d₀.warehouseTaskId := congrArg (·.warehouseTaskId) hd
    obtain ⟨id,hid,hrow⟩ := h.tasked d₀ hd₀
    exact ⟨id,htask.trans hid,hkept id hrow⟩
  · obtain ⟨d₀,hd₀,hid,hdp⟩ := hsame d hd
    obtain ⟨d₁,hd₁,hid',hdp'⟩ := hsame d' hd'
    have htask : d.warehouseTaskId=d₀.warehouseTaskId := congrArg (·.warehouseTaskId) hdp
    have htask' : d'.warehouseTaskId=d₁.warehouseTaskId := congrArg (·.warehouseTaskId) hdp'
    have hone : d₀=d₁ := h.distinct d₀ hd₀ d₁ hd₁ (htask.symm.trans (htasks.trans htask'))
    have hkey : d.key=d'.key := by
      show d.id=d'.id
      rw [hid,hid',hone]
    exact Table.inj_of_nodup (s.demands.modify c.demand.id complete complete_key).nodup hd hd' hkey
  · obtain ⟨d₀,hd₀,⟨hid,rfl⟩|⟨hid,rfl⟩⟩ := mem_complete hd
    · have hone : d₀=moving := Table.inj_of_nodup s.demands.nodup hd₀ hmovingRow
        (hid.trans hmovingId.symm)
      refine ⟨fun _ => ⟨_,List.mem_append_right _ (List.mem_singleton_self _),?_⟩,fun _ => rfl⟩
      show c.demand.warehouseTaskId=d₀.warehouseTaskId
      rw [hone,hmovingTask]
    · rw [h.moved d hd₀]
      constructor
      · intro ⟨m,hm,hmtask⟩
        exact ⟨m,List.mem_append_left _ hm,hmtask⟩
      · intro ⟨m,hm,hmtask⟩
        rcases List.mem_append.mp hm with hold|hlast
        · exact ⟨m,hold,hmtask⟩
        · rw [List.mem_singleton.mp hlast] at hmtask
          have hdtask : c.demand.warehouseTaskId=d.warehouseTaskId := hmtask
          have hone : moving=d := h.distinct moving hmovingRow d hd₀ (hmovingTask.trans hdtask)
          rw [← hone] at hid
          exact absurd hmovingId hid
  · rcases List.mem_append.mp hm with hold|hlast
    · obtain ⟨id,hid,hrow⟩ := h.movements m hold
      exact ⟨id,hid,hkept id hrow⟩
    · rw [List.mem_singleton.mp hlast]
      obtain ⟨id,hid,hrow⟩ := h.tasked moving hmovingRow
      exact ⟨id,hmovingTask.symm.trans hid,hkept id hrow⟩
  · intro c' hc'
    rcases Table.mem_put.mp hc' with rfl|⟨hold,_⟩
    · exact ((h.confirming c hc).idle rfl).later hlater
    · exact (h.confirming c' hold).later hlater

theorem Sound.step (h : Sound s) {e : Event} (hs : s.step e=some s') : Sound s' := by
  have hlater := (later_step hs).1
  cases e with
  | createRule id warehouseId skuId pickLocationId dto =>
    simp only [System.step] at hs
    split at hs
    · cases hs
    · split at hs
      · cases hs
        exact h.keeps hlater rfl rfl rfl (h.confirming_later hlater) (h.evaluating_later hlater)
      · cases hs
  | receive quant =>
    simp only [System.step] at hs
    split at hs
    · cases hs
      exact h.keeps hlater rfl rfl rfl (h.confirming_later hlater) (h.evaluating_later hlater)
    · cases hs
  | adjust quantId quantity reservedQuantity =>
    simp only [System.step] at hs
    split at hs
    · cases hs
    · cases hs
      exact h.keeps hlater rfl rfl rfl (h.confirming_later hlater) (h.evaluating_later hlater)
  | startEvaluation call warehouseId ruleReference =>
    simp only [System.step] at hs
    split at hs
    · cases hs
      apply h.setEvaluation call
      intro e he
      cases he
      refine ⟨fun rule hrule => Table.get?_key (mem_filter_insertionSort hrule),
        fun available required hstage => ?_,fun x hx => absurd hx List.not_mem_nil⟩
      cases hstage
    · cases hs
  | evaluate call statement =>
    simp only [System.step] at hs
    obtain ⟨e,he,hs⟩ := Option.bind_eq_some_iff.mp hs
    obtain ⟨e',he',rfl⟩ := Option.map_eq_some_iff.mp hs
    apply h.setEvaluation call
    intro next hnext
    cases hnext
    exact (h.evaluating call e he).step he'
  | commitEvaluation call =>
    simp only [System.step] at hs
    obtain ⟨e,he,hs⟩ := Option.bind_eq_some_iff.mp hs
    split at hs
    · obtain ⟨s₁,hpublish,rfl⟩ := Option.map_eq_some_iff.mp hs
      have hpublished := h.publish (h.evaluating call e he).made hpublish
      exact hpublished.setEvaluation call fun e he => by cases he
    · cases hs
  | stopEvaluation call =>
    cases hs
    exact h.setEvaluation call fun e he => by cases he
  | findDemand call warehouseId taskReference dto =>
    simp only [System.step] at hs
    split at hs
    · obtain ⟨c,hc,rfl⟩ := Option.map_eq_some_iff.mp hs
      exact h.put (findDemand_sound hc)
    · cases hs
  | confirm call statement =>
    simp only [System.step] at hs
    obtain ⟨c,hc,hs⟩ := Option.bind_eq_some_iff.mp hs
    obtain ⟨c',hc',rfl⟩ := Option.map_eq_some_iff.mp hs
    exact h.put ((h.confirming c (Table.mem_of_get? hc).1).step hc')
  | commitMove call quantId createdAt movementId =>
    obtain ⟨c,source,destination,taskId,hc,_,_,_,rfl⟩ := commitMove_cases hs
    exact h.move (Table.mem_of_get? hc).1 source destination taskId quantId createdAt movementId

theorem sound_run (locations : Table WarehouseLocation.id) (es : List Event) :
    Sound (Histories.run System.act (.start locations) es) := by
  have hall : Histories.Throughout System.act (fun _ _ => True) (.start locations) es :=
    fun _ _ _ => trivial
  apply hall.inv (sound_start locations)
  intro s e hs _
  unfold System.act
  cases hstep : s.step e with
  | none => exact hs
  | some s' => exact hs.step hstep

end Steps

section Runs
variable {s s' : System}

/-- No task has moved stock twice. -/
def MovesOnce (s : System) : Prop :=
  ∀ taskId, (s.movements.filter fun m => m.taskId=some taskId).length≤1

/-- A confirmed replenishment leaves the pick face at most at the rule's maximum. -/
def WithinMaximum (s : System) (e : Event) : Prop :=
  ∀ call quantId createdAt movementId s', e=.commitMove call quantId createdAt movementId →
    s.step e=some s' → ∀ c, s.confirmations.get? call=some c →
      ∀ rule, s.rules.get? c.demand.ruleId=some rule → s'.faceOnHand rule≤rule.maxQuantity

/-- The demand that is confirmed has not been completed meanwhile. -/
def Uncompleted (s : System) (e : Event) : Prop :=
  ∀ call quantId createdAt movementId s', e=.commitMove call quantId createdAt movementId →
    s.step e=some s' → ∀ c, s.confirmations.get? call=some c →
      ∀ d, s.demands.get? c.demand.id=some d → d.status≠.COMPLETED

/-- The quantity of the request, or else what the demand requires and the source has, fits on the
pick face. -/
def HasRoom (s : System) (e : Event) : Prop :=
  ∀ call quantId createdAt movementId s', e=.commitMove call quantId createdAt movementId →
    s.step e=some s' → ∀ c, s.confirmations.get? call=some c →
      ∀ source, c.source?=some source → ∀ rule, s.rules.get? c.demand.ruleId=some rule →
        c.movedQuantity source≤rule.maxQuantity-s.faceOnHand rule

theorem Sound.proposed (h : Sound s) {c : Confirmation} (hc : c∈s.confirmations.rows)
    {rule : ReplenishmentRule} (hrule : s.rules.get? c.demand.ruleId=some rule)
    {source : StockQuant} (hsource : c.source?=some source) :
    ∃ row, s.quants.get? source.id=some row ∧ Proposed s c.demand rule row := by
  have hconfirming := h.confirming c hc
  obtain ⟨d,hd,hsame⟩ := hconfirming.listed
  obtain ⟨rule',row,hproposed⟩ := (h.demands d (Table.mem_of_get? hd).1).of_proposal hsame.symm
  have hone : rule'=rule := by
    have hget := hproposed.ruled
    rw [hrule] at hget
    exact (Option.some.inj hget).symm
  obtain ⟨id,hid,hrow⟩ := hproposed.sourced
  rw [hconfirming.source source hsource] at hid
  cases hid
  rw [hone] at hproposed
  exact ⟨row,hrow,hproposed⟩

theorem isFace_iff (rule : ReplenishmentRule) (q : StockQuant) : rule.isFace q=true ↔
    (q.warehouseId=rule.warehouseId ∧ q.skuId=rule.skuId) ∧ q.locationId=rule.pickLocationId := by
  simp [ReplenishmentRule.isFace]

theorem isFace_increase (rule : ReplenishmentRule) (quantity : ℤ) (q : StockQuant) :
    rule.isFace (increase quantity q)=rule.isFace q := rfl

theorem faceOnHand_move (h : Sound s) {c : Confirmation} (hc : c∈s.confirmations.rows)
    {source : StockQuant} {destination : Option ℕ} (hstage : c.stage=.aimed source destination)
    {quantId : ℕ} (hwrites : writesTo s.quants destination quantId=true) {rule : ReplenishmentRule}
    (hrule : s.rules.get? c.demand.ruleId=some rule) (taskId createdAt movementId : ℕ) :
    (s.move c source destination taskId quantId createdAt movementId).faceOnHand rule=
      s.faceOnHand rule+c.movedQuantity source := by
  have hsource : c.source?=some source := by
    unfold Confirmation.source?
    rw [hstage]
  obtain ⟨row,hrow,hproposed⟩ := h.proposed hc hrule hsource
  have hapart : rule.isFace row=false := by
    rw [Bool.eq_false_iff]
    intro hface
    exact hproposed.apart ((isFace_iff rule row).mp hface).2
  obtain ⟨f,hf⟩ : ∃ f : StockQuant → ℤ, f=fun q => if rule.isFace q then q.quantity else 0 := ⟨_,rfl⟩
  have htaken : (s.quants.modify source.id (increase (-c.movedQuantity source))
      (increase_id (-c.movedQuantity source))).total f=s.quants.total f := by
    rw [Table.total_modify f _ _ hrow,hf]
    simp only [isFace_increase,hapart]
    simp
  have hbefore : s.faceOnHand rule=s.quants.total f := by
    rw [hf]
    rfl
  have hafter : (s.move c source destination taskId quantId createdAt movementId).faceOnHand rule=
      (movedQuants s.quants c source destination quantId createdAt).total f := by
    rw [hf]
    rfl
  rw [hbefore,hafter,← htaken]
  unfold movedQuants
  cases destination with
  | none =>
    have hnone : s.quants.get? quantId=none := Option.isNone_iff_eq_none.mp hwrites
    have hface : rule.isFace (destinationQuant quantId createdAt c (c.movedQuantity source))=true := by
      rw [isFace_iff]
      exact ⟨⟨(h.confirming c hc).warehouse.symm.trans hproposed.warehouse,hproposed.sku⟩,
        hproposed.face⟩
    have hnew : (s.quants.modify source.id (increase (-c.movedQuantity source))
        (increase_id (-c.movedQuantity source))).get?
          (destinationQuant quantId createdAt c (c.movedQuantity source)).id=none := by
      show (s.quants.modify _ _ _).get? quantId=none
      rw [Table.get?_modify,hnone]
      simp
    rw [Table.total_insert f hnew,hf]
    simp only [hface,if_true]
    rfl
  | some id =>
    obtain ⟨q,hq,hwarehouse,hsku,hlocation⟩ := (h.confirming c hc).destination source id hstage
    have hface : rule.isFace q=true := by
      rw [isFace_iff]
      exact ⟨⟨hwarehouse.trans ((h.confirming c hc).warehouse.symm.trans hproposed.warehouse),
        hsku.trans hproposed.sku⟩,hlocation.trans hproposed.face⟩
    have hne : id≠source.id := by
      intro hid
      rw [hid,hrow] at hq
      cases hq
      rw [hface] at hapart
      cases hapart
    have hget : (s.quants.modify source.id (increase (-c.movedQuantity source))
        (increase_id (-c.movedQuantity source))).get? id=some q := by
      rw [Table.get?_modify_ne _ _ _ hne]
      exact hq
    have hold : f q=q.quantity := by
      rw [hf]
      exact if_pos hface
    have hnew : f (increase (c.movedQuantity source) q)=q.quantity+c.movedQuantity source := by
      rw [hf]
      exact if_pos hface
    simp only
    rw [Table.total_modify f _ _ hget,hold,hnew]
    omega

theorem tally_concat (movements : List StockMovement) (m : StockMovement) (taskId : ℕ) :
    ((movements++[m]).filter fun x => x.taskId=some taskId).length=
      (movements.filter fun x => x.taskId=some taskId).length+
        if m.taskId=some taskId then 1 else 0 := by
  rw [List.filter_append,List.length_append]
  by_cases h : m.taskId=some taskId
  · simp [h]
  · simp [h]

theorem movesOnce_commit_iff (h : Sound s) (honce : MovesOnce s)
    {call quantId createdAt movementId : ℕ}
    (hs : s.step (.commitMove call quantId createdAt movementId)=some s') {c : Confirmation}
    (hc : s.confirmations.get? call=some c) {d : ProposedDemand}
    (hd : s.demands.get? c.demand.id=some d) : MovesOnce s' ↔ d.status≠.COMPLETED := by
  obtain ⟨c',source,destination,taskId,hc',_,htask,_,rfl⟩ := commitMove_cases hs
  rw [hc] at hc'
  cases hc'
  obtain ⟨d',hd',hsame⟩ := (h.confirming c (Table.mem_of_get? hc).1).listed
  rw [hd] at hd'
  cases hd'
  have hdtask : d.warehouseTaskId=some taskId := by
    have hequal : d.warehouseTaskId=c.demand.warehouseTaskId := congrArg (·.warehouseTaskId) hsame
    exact hequal.trans htask
  have hrow := (Table.mem_of_get? hd).1
  have hlast : (replenishmentMovement movementId c.warehouseId c.demand.toReplenishmentDemand source
      (c.movedQuantity source)).taskId=some taskId := htask
  have htally : ∀ id, ((s.move c source destination taskId quantId createdAt movementId).movements.filter
      fun x => x.taskId=some id).length=(s.movements.filter fun x => x.taskId=some id).length+
        if some taskId=some id then 1 else 0 := by
    intro id
    simp only [System.move]
    rw [tally_concat,hlast]
  constructor
  · intro hafter hcompleted
    obtain ⟨m,hm,hmtask⟩ := (h.moved d hrow).mp hcompleted
    have htwo := hafter taskId
    have hone : 0 < (s.movements.filter fun x => x.taskId=some taskId).length := by
      apply List.length_pos_of_mem
      exact List.mem_filter.mpr ⟨hm,decide_eq_true (hmtask.trans hdtask)⟩
    rw [htally,if_pos rfl] at htwo
    omega
  · intro hopen id
    have hbefore := honce id
    rw [htally]
    by_cases hid : some taskId=some id
    · have hnone : s.movements.filter (fun x => x.taskId=some id)=[] := by
        apply List.filter_eq_nil_iff.mpr
        intro m hm hmtask
        have hmoved : m.taskId=some id := of_decide_eq_true hmtask
        exact hopen ((h.moved d hrow).mpr ⟨m,hm,hmoved.trans (hid.symm.trans hdtask.symm)⟩)
      rw [hnone,if_pos hid]
      exact le_refl 1
    · rw [if_neg hid]
      exact hbefore

theorem withinMaximum_iff (h : Sound s) (e : Event) : WithinMaximum s e ↔ HasRoom s e := by
  constructor
  · intro hwithin call quantId createdAt movementId s' he hs c hc source hsource rule hrule
    have hmax := hwithin call quantId createdAt movementId s' he hs c hc rule hrule
    subst he
    obtain ⟨c',source',destination,taskId,hc',hstage,_,hwrites,rfl⟩ := commitMove_cases hs
    rw [hc] at hc'
    cases hc'
    have hone : source'=source := by
      unfold Confirmation.source? at hsource
      rw [hstage] at hsource
      exact Option.some.inj hsource
    rw [hone] at hstage hmax
    rw [faceOnHand_move h (Table.mem_of_get? hc).1 hstage hwrites hrule] at hmax
    omega
  · intro hroom call quantId createdAt movementId s' he hs c hc rule hrule
    have hfits := hroom call quantId createdAt movementId s' he hs c hc
    subst he
    obtain ⟨c',source,destination,taskId,hc',hstage,_,hwrites,rfl⟩ := commitMove_cases hs
    rw [hc] at hc'
    cases hc'
    have hsource : c.source?=some source := by
      unfold Confirmation.source?
      rw [hstage]
    have hmax := hfits source hsource rule hrule
    rw [faceOnHand_move h (Table.mem_of_get? hc).1 hstage hwrites hrule]
    omega

theorem act_eq {e : Event} (hs : s.step e=some s') : s.act e=s' := by
  unfold System.act
  rw [hs]
  rfl

structure Orderly (s : System) : Prop extends Sound s where
  once : MovesOnce s

theorem Orderly.act (h : Orderly s) {e : Event} (hopen : Uncompleted s e) : Orderly (s.act e) := by
  unfold System.act
  cases hs : s.step e with
  | none => exact h
  | some s' =>
    refine ⟨h.step hs,?_⟩
    rcases (later_step hs).2 with hsame|⟨call,quantId,createdAt,movementId,rfl⟩
    · intro taskId
      rw [Option.getD_some,hsame]
      exact h.once taskId
    · obtain ⟨c,_,_,_,hc,_⟩ := commitMove_cases hs
      obtain ⟨d,hd,_⟩ := (h.confirming c (Table.mem_of_get? hc).1).listed
      apply (movesOnce_commit_iff h.toSound h.once hs hc hd).mpr
      exact hopen call quantId createdAt movementId s' rfl hs c hc d hd

/-- In every run: no task moves stock twice, and no confirmed replenishment leaves its pick face
above the rule's maximum, just where each confirmation that commits is of a demand not yet completed
and moves what the pick face has room for. -/
theorem replenishment_iff (locations : Table WarehouseLocation.id) (es : List Event) :
    ((∀ bs, bs<+:es → MovesOnce (Histories.run System.act (.start locations) bs)) ∧
      Histories.Throughout System.act WithinMaximum (.start locations) es) ↔
    Histories.Throughout System.act (fun s e => Uncompleted s e ∧ HasRoom s e) (.start locations)
      es := by
  constructor
  · intro ⟨honce,hwithin⟩ bs a hbs
    have hsound := sound_run locations bs
    refine ⟨?_,(withinMaximum_iff hsound a).mp (hwithin bs a hbs)⟩
    intro call quantId createdAt movementId s' he hs c hc d hd
    have hbefore := honce bs ((List.prefix_append bs [a]).trans hbs)
    have hafter := honce (bs++[a]) hbs
    have hact : System.act (Histories.run System.act (.start locations) bs) a=s' := act_eq hs
    rw [Histories.run_concat,hact] at hafter
    subst he
    exact (movesOnce_commit_iff hsound hbefore hs hc hd).mp hafter
  · intro hok
    refine ⟨fun bs hbs => ?_,fun bs a hbs => ?_⟩
    · have hstart : Orderly (System.start locations) :=
        ⟨sound_start locations,fun taskId => Nat.zero_le 1⟩
      have hrun : Orderly (Histories.run System.act (.start locations) bs) :=
        (hok.before hbs).inv hstart fun s e hs hstep => hs.act hstep.1
      exact hrun.once
    · exact (withinMaximum_iff (sound_run locations bs) a).mpr (hok bs a hbs).2

end Runs

theorem nodup_demo : (([⟨1,1,.word 1,none,none,none,.STORAGE,true⟩,
    ⟨2,1,.word 2,none,none,none,.PICKING,true⟩] : List WarehouseLocation).map
      WarehouseLocation.id).Nodup := by decide

/-- A reserve location and a pick face. -/
def demoLocations : Table WarehouseLocation.id := ⟨_,nodup_demo⟩

def demoQuant (id locationId : ℕ) (quantity : ℤ) : StockQuant :=
  ⟨id,1,locationId,7,none,none,none,none,none,quantity,0,.AVAILABLE,1,id⟩

/-- The face is below its minimum: a demand of 35 is proposed, with task 20. -/
def proposed : List Event :=
  [.createRule 5 1 7 2 {code := .word 9, minQuantity := 10, maxQuantity := 50, targetQuantity := 40},
    .receive (demoQuant 10 1 100),.receive (demoQuant 11 2 5),.startEvaluation 0 1 none,
    .evaluate 0 .findOpenDemand,.evaluate 0 (.readPickFace false),
    .evaluate 0 (.propose false 20 30),.commitEvaluation 0]

theorem unasked (n : ℤ) (h : n∈(none : Option ℤ)) : 1≤n := by cases h

def find (call : ℕ) : Event := .findDemand call 1 20 ⟨none,unasked⟩

def goOn (call : ℕ) : List Event :=
  [.confirm call .lockTask,.confirm call (.lockSource false),.confirm call .findDestination,
    .commitMove call 0 0 call]

def once : List Event := proposed++(find 0::goOn 0)

/-- Both confirmations have read the demand before either locks its task. -/
def twice : List Event := proposed++(find 0::find 1::(goOn 0++goOn 1))

/-- What the commit of a confirmation needs, where it has come so far. -/
def checks (s : System) : Event → Bool
  | .commitMove call _ _ _ => (s.confirmations.get? call).all fun c =>
    ((s.demands.get? c.demand.id).all fun d => d.status≠.COMPLETED) &&
      c.source?.all fun source => (s.rules.get? c.demand.ruleId).all fun rule =>
        c.movedQuantity source≤rule.maxQuantity-s.faceOnHand rule
  | _ => true

theorem ok_of_checks {s : System} {e : Event} (h : checks s e=true) :
    Uncompleted s e ∧ HasRoom s e := by
  constructor
  · intro call quantId createdAt movementId s' he hs c hc d hd
    subst he
    simp only [checks,hc,hd,Option.all_some,Bool.and_eq_true,decide_eq_true_eq] at h
    exact h.1
  · intro call quantId createdAt movementId s' he hs c hc source hsource rule hrule
    subst he
    simp only [checks,hc,hsource,hrule,Option.all_some,Bool.and_eq_true,decide_eq_true_eq] at h
    exact h.2

theorem replenishment_demo :
    (∀ bs, bs<+:once → MovesOnce (Histories.run System.act (.start demoLocations) bs)) ∧
      Histories.Throughout System.act WithinMaximum (.start demoLocations) once := by
  have hchecks : Histories.Throughout System.act (fun s e => checks s e=true)
      (.start demoLocations) once := by decide +kernel
  apply (replenishment_iff demoLocations once).mpr
  exact hchecks.imp fun _ _ _ hok => ok_of_checks hok

/-- The task moves 35 twice, and the face of at most 50 holds 75. -/
theorem confirmed_twice :
    ((Histories.run System.act (.start demoLocations) twice).movements.map
      fun m => (m.taskId,m.quantity))=[(some 20,35),(some 20,35)] ∧
    ((Histories.run System.act (.start demoLocations) twice).rules.get? 5).map (fun rule =>
      ((rule.maxQuantity : ℤ),(Histories.run System.act (.start demoLocations) twice).faceOnHand rule))=
        some (50,75) ∧
    ¬MovesOnce (Histories.run System.act (.start demoLocations) twice) := by
  refine ⟨by decide +kernel,by decide +kernel,fun h => ?_⟩
  exact absurd (h 20) (by decide +kernel)

end AardvarkWms.ReplenishmentRuns
