import AardvarkWms.WavePlanning

/-! Where goods are to lie by how often they are picked: `src/slotting/slotting.helpers.ts`. -/
namespace AardvarkWms.Slotting

open ArraySorting Messaging
open WavePlanning (Number)

section Builder

/-- What the language does: its upper case, sorting and arithmetic. -/
structure Runtime where
  toUpperCase : Str → Str
  sorting : SortMethod
  rounded : ℚ → ℚ

structure SlottingVelocityCandidate where
  skuId : Option Str
  skuCode : Str
  velocityScore : Number
  abcClass : Option Str
  deriving DecidableEq

structure SlottingLocationCandidate where
  id : Str
  code : Str
  type : Str
  zone : Option Str
  pickSequence : Option Number
  isActive : Option Bool
  deriving DecidableEq

structure SlottingStockCandidate where
  skuCode : Str
  locationId : Str
  locationCode : Str
  locationType : Str
  zone : Option Str
  pickSequence : Option Number
  quantity : Number
  reservedQuantity : Option Number
  deriving DecidableEq

structure SlottingRuleCandidate where
  code : Option Str
  zone : Option Str
  minVelocityScore : Option Number
  maxVelocityScore : Option Number
  targetLocationType : Option Str
  maxPickSequence : Option Number
  minPickFaceQuantity : Option Number
  deriving DecidableEq

structure BuildSlottingRecommendationsInput where
  velocities : List SlottingVelocityCandidate
  stock : List SlottingStockCandidate
  locations : List SlottingLocationCandidate
  rules : Option (List SlottingRuleCandidate)
  maxRecommendations : Option Number
  minVelocityScore : Option Number
  lowVelocityScore : Option Number

inductive SlottingRecommendationReason
  | HIGH_VELOCITY_TO_PICK_FACE
  | LOW_VELOCITY_TO_RESERVE
  | PICK_FACE_BELOW_MIN
  deriving DecidableEq

/-- What a recommendation keeps of how it came about. -/
inductive DraftMetadata
  | highVelocity (abcClass targetLocationCode sourceLocationCode : Str) (ruleCode : Option Str)
  | belowMin (pickFaceAvailable targetMinPickFaceQuantity : Number) (ruleCode : Option Str)
  | lowVelocity (abcClass targetLocationCode sourceLocationCode : Str)
  deriving DecidableEq

structure SlottingRecommendationDraft where
  skuId : Option Str
  skuCode : Str
  fromLocationId : Option Str
  toLocationId : Option Str
  reason : SlottingRecommendationReason
  priority : Number
  velocityScore : Number
  expectedTravelSavings : Option Number
  message : Str
  metadata : DraftMetadata
  deriving DecidableEq

/-- `n >= z` -/
def atLeast (n : Number) (z : ℤ) : Bool :=
  match n with
  | .nan => false
  | .infinite negative => !negative
  | .finite q => (z : ℚ)≤q

/-- `n <= z` -/
def atMost (n : Number) (z : ℤ) : Bool :=
  match n with
  | .nan => false
  | .infinite negative => negative
  | .finite q => q≤(z : ℚ)

/-- `Math.max(c, n)` -/
def maxWith (c : ℚ) : Number → Number
  | .nan => .nan
  | .infinite negative => if negative then .finite c else .infinite false
  | .finite q => .finite (max c q)

/-- `Math.min(n, c)` -/
def minWith (c : ℚ) : Number → Number
  | .nan => .nan
  | .infinite negative => if negative then .infinite true else .finite c
  | .finite q => .finite (min q c)

def finite? : Number → Option ℚ
  | .finite q => some q
  | _ => none

def clampNonNegative (value : Option Number) : ℤ :=
  match value.bind finite? with
  | some q => max 0 ⌊q⌋
  | none => 0

def classifyVelocity (score : Number) : Str :=
  let safeScore := clampNonNegative (some score)
  if 75 ≤ safeScore then "A".toList
  else if 45 ≤ safeScore then "B".toList
  else if 15 ≤ safeScore then "C".toList
  else "D".toList

def clampSlottingLimit (value : Option Number) : ℕ :=
  match value.bind finite? with
  | some q => if q.den=1 && 0 < q.num then (min q.num 500).toNat else 100
  | none => 100

variable (r : Runtime)

def isPickFace (type : Str) : Bool :=
  r.toUpperCase type∈["PICK".toList,"PICKING".toList,"PICK_FACE".toList,"BIN".toList]

/-- The rows of each article, in their order. -/
def groupStockBySku (stock : List SlottingStockCandidate) : Str → List SlottingStockCandidate :=
  stock.foldl
    (fun result quant => Function.update result quant.skuCode (result quant.skuCode ++ [quant]))
    fun _ => []

def maxPickSequence (rules : Option (List SlottingRuleCandidate)) : ℚ :=
  ((rules.getD []).filterMap fun rule => rule.maxPickSequence.bind finite?).foldl min 5000

def findTargetPickFaces (locations : List SlottingLocationCandidate)
    (rules : Option (List SlottingRuleCandidate)) : List SlottingLocationCandidate :=
  r.sorting.sort
    (fun a b => compare (clampNonNegative a.pickSequence) (clampNonNegative b.pickSequence))
    (locations.filter fun location => location.isActive.getD true && isPickFace r location.type &&
      (clampNonNegative location.pickSequence : ℚ) ≤ maxPickSequence rules)

def findReserveLocations (locations : List SlottingLocationCandidate) :
    List SlottingLocationCandidate :=
  r.sorting.sort
    (fun a b => compare (clampNonNegative b.pickSequence) (clampNonNegative a.pickSequence))
    (locations.filter fun location => location.isActive.getD true && !isPickFace r location.type)

def availableQuantity (stock : SlottingStockCandidate) : Number :=
  (Number.sub r.rounded stock.quantity (stock.reservedQuantity.getD (.finite 0))).atLeastZero

def compareStock (a b : SlottingStockCandidate) : Ordering :=
  let availableDiff := Number.sub r.rounded (availableQuantity r b) (availableQuantity r a)
  if availableDiff≠.finite 0 then availableDiff.sign (.finite 0)
  else compare (clampNonNegative a.pickSequence) (clampNonNegative b.pickSequence)

def bestStockCandidate (stock : List SlottingStockCandidate) : Option SlottingStockCandidate :=
  (r.sorting.sort (compareStock r) stock).head?

/-- A location as a rule looks at it. -/
structure Place where
  id : Str
  type : Str
  zone : Option Str
  pickSequence : Option Number
  deriving DecidableEq

def SlottingLocationCandidate.place (location : SlottingLocationCandidate) : Place :=
  ⟨location.id,location.type,location.zone,location.pickSequence⟩

def SlottingStockCandidate.place (stock : SlottingStockCandidate) : Place :=
  ⟨stock.locationId,stock.locationType,stock.zone,stock.pickSequence⟩

def zonesAgree (wanted actual : Option Str) : Bool :=
  match wanted.filter (·≠[]), actual.filter (·≠[]) with
  | some wanted, some actual => r.toUpperCase actual=r.toUpperCase wanted
  | _, _ => true

def typeAgrees (wanted : Option Str) (type : Str) : Bool :=
  match wanted.filter (·≠[]) with
  | some wanted => r.toUpperCase type=r.toUpperCase wanted
  | none => true

def isGoodPickSequence (value : Option Number) (rule : Option SlottingRuleCandidate) : Bool :=
  atLeast ((rule.bind (·.maxPickSequence)).getD (.finite 5000)) (clampNonNegative value)

/-- What a rule, or the lack of one, asks of a pick face. -/
def allows (rule : Option SlottingRuleCandidate) (place : Place) : Bool :=
  zonesAgree r (rule.bind (·.zone)) place.zone &&
    typeAgrees r (rule.bind (·.targetLocationType)) place.type &&
    isGoodPickSequence place.pickSequence rule

/-- Whether the article has a row there. -/
def isUsed (skuStock : List SlottingStockCandidate) (id : Str) : Bool :=
  skuStock.any fun stock => stock.locationId=id

def pickBestTargetPickFace (locations : List SlottingLocationCandidate)
    (rule : Option SlottingRuleCandidate) (skuStock : List SlottingStockCandidate) :
    Option SlottingLocationCandidate :=
  let candidates := locations.filter fun location =>
    !isUsed skuStock location.id && allows r rule location.place
  candidates.head?.or (locations.find? fun location => !isUsed skuStock location.id)

def pickBestReserveLocation (locations : List SlottingLocationCandidate)
    (skuStock : List SlottingStockCandidate) : Option SlottingLocationCandidate :=
  (locations.find? fun location => !isUsed skuStock location.id).or locations.head?

def findMatchingRule (rules : List SlottingRuleCandidate) (velocity : SlottingVelocityCandidate)
    (currentStock : Option SlottingStockCandidate) : Option SlottingRuleCandidate :=
  rules.find? fun rule =>
    zonesAgree r rule.zone (currentStock.bind (·.zone)) &&
    ((rule.minVelocityScore.bind finite?).all fun q =>
      velocity.velocityScore.sign (.finite q)≠.lt) &&
    (rule.maxVelocityScore.bind finite?).all fun q => velocity.velocityScore.sign (.finite q)≠.gt

def priorityForVelocity (velocityScore : Number) (offset : ℚ) : Number :=
  maxWith 1 (Number.add r.rounded (.finite offset)
    (Number.sub r.rounded (.finite 100) (minWith 100 (maxWith 0 velocityScore))))

def estimateTravelSavings (fromSequence toSequence : Option Number) : Option Number :=
  match fromSequence.bind finite?, toSequence.bind finite? with
  | some p, some q => some (Number.sub r.rounded (.finite p) (.finite q)).atLeastZero
  | _, _ => none

def draftKey (draft : SlottingRecommendationDraft) : Str :=
  let reason := match draft.reason with
    | .HIGH_VELOCITY_TO_PICK_FACE => "HIGH_VELOCITY_TO_PICK_FACE".toList
    | .LOW_VELOCITY_TO_RESERVE => "LOW_VELOCITY_TO_RESERVE".toList
    | .PICK_FACE_BELOW_MIN => "PICK_FACE_BELOW_MIN".toList
  ['|'].intercalate
    [draft.skuCode,reason,draft.fromLocationId.getD [],draft.toLocationId.getD []]

def dedupeDrafts (seen : List Str) :
    List SlottingRecommendationDraft → List SlottingRecommendationDraft
  | [] => []
  | draft::drafts =>
    if draftKey draft∈seen then dedupeDrafts seen drafts
    else draft::dedupeDrafts (draftKey draft::seen) drafts

def compareDrafts (a b : SlottingRecommendationDraft) : Ordering :=
  if a.priority.same b.priority then b.velocityScore.sign a.velocityScore
  else a.priority.sign b.priority

variable (input : BuildSlottingRecommendationsInput) (velocity : SlottingVelocityCandidate)

def minVelocityScore : ℤ := clampNonNegative (some (input.minVelocityScore.getD (.finite 60)))

def lowVelocityScore : ℤ := clampNonNegative (some (input.lowVelocityScore.getD (.finite 20)))

def skuStock : List SlottingStockCandidate := groupStockBySku input.stock velocity.skuCode

def currentPickFaceStock : List SlottingStockCandidate :=
  (skuStock input velocity).filter fun quant => isPickFace r quant.locationType

def totalPickFaceAvailable : Number :=
  (currentPickFaceStock r input velocity).foldl
    (fun sum quant => sum.add r.rounded (availableQuantity r quant)) (.finite 0)

def bestCurrentPickFace : Option SlottingStockCandidate :=
  bestStockCandidate r (currentPickFaceStock r input velocity)

def bestCurrentReserve : Option SlottingStockCandidate :=
  bestStockCandidate r ((skuStock input velocity).filter fun quant =>
    !isPickFace r quant.locationType)

def matchingRule : Option SlottingRuleCandidate :=
  findMatchingRule r (input.rules.getD []) velocity
    ((bestCurrentPickFace r input velocity).or (bestCurrentReserve r input velocity))

def targetPickFace : Option SlottingLocationCandidate :=
  pickBestTargetPickFace r (findTargetPickFaces r input.locations input.rules)
    (matchingRule r input velocity) (skuStock input velocity)

def targetReserve : Option SlottingLocationCandidate :=
  pickBestReserveLocation (findReserveLocations r input.locations) (skuStock input velocity)

def targetMinPickFaceQuantity : Number :=
  ((matchingRule r input velocity).bind (·.minPickFaceQuantity)).getD (.finite 1)

def alreadyInGoodPickFace (target : SlottingLocationCandidate) : Bool :=
  (currentPickFaceStock r input velocity).any fun quant =>
    quant.locationId=target.id && isGoodPickSequence quant.pickSequence (matchingRule r input velocity)

def highVelocityDraft (target : SlottingLocationCandidate) (source : SlottingStockCandidate) :
    SlottingRecommendationDraft where
  skuId := velocity.skuId
  skuCode := velocity.skuCode
  fromLocationId := some source.locationId
  toLocationId := some target.id
  reason := .HIGH_VELOCITY_TO_PICK_FACE
  priority := priorityForVelocity r velocity.velocityScore 10
  velocityScore := velocity.velocityScore
  expectedTravelSavings := estimateTravelSavings r source.pickSequence target.pickSequence
  message := "Move high-velocity SKU ".toList ++ velocity.skuCode ++
    " closer to the pick path.".toList
  metadata := .highVelocity (velocity.abcClass.getD (classifyVelocity velocity.velocityScore))
    target.code source.locationCode ((matchingRule r input velocity).bind (·.code))

def belowMinDraft (target : SlottingLocationCandidate) (source : SlottingStockCandidate) :
    SlottingRecommendationDraft where
  skuId := velocity.skuId
  skuCode := velocity.skuCode
  fromLocationId := some source.locationId
  toLocationId := some (((bestCurrentPickFace r input velocity).map (·.locationId)).getD target.id)
  reason := .PICK_FACE_BELOW_MIN
  priority := priorityForVelocity r velocity.velocityScore 20
  velocityScore := velocity.velocityScore
  expectedTravelSavings := estimateTravelSavings r source.pickSequence target.pickSequence
  message := "Top up pick face for SKU ".toList ++ velocity.skuCode ++ ".".toList
  metadata := .belowMin (totalPickFaceAvailable r input velocity)
    (targetMinPickFaceQuantity r input velocity) ((matchingRule r input velocity).bind (·.code))

def lowVelocityDraft (target : SlottingLocationCandidate) (source : SlottingStockCandidate) :
    SlottingRecommendationDraft where
  skuId := velocity.skuId
  skuCode := velocity.skuCode
  fromLocationId := some source.locationId
  toLocationId := some target.id
  reason := .LOW_VELOCITY_TO_RESERVE
  priority := Number.sub r.rounded (.finite 200) (minWith 100 velocity.velocityScore)
  velocityScore := velocity.velocityScore
  expectedTravelSavings := none
  message := "Move low-velocity SKU ".toList ++ velocity.skuCode ++
    " out of premium pick-face space.".toList
  metadata := .lowVelocity (velocity.abcClass.getD (classifyVelocity velocity.velocityScore))
    target.code source.locationCode

/-- What one turn of the loop adds. -/
def draftsOf : List SlottingRecommendationDraft :=
  (match targetPickFace r input velocity, bestCurrentReserve r input velocity with
    | some target, some source =>
      if atLeast velocity.velocityScore (minVelocityScore input) then
        (if alreadyInGoodPickFace r input velocity target then []
          else [highVelocityDraft r input velocity target source]) ++
        if (totalPickFaceAvailable r input velocity).sign
            (targetMinPickFaceQuantity r input velocity)=.lt then
          [belowMinDraft r input velocity target source]
        else []
      else []
    | _, _ => []) ++
  match targetReserve r input velocity, bestCurrentPickFace r input velocity with
  | some target, some source =>
    if atMost velocity.velocityScore (lowVelocityScore input) then
      [lowVelocityDraft r velocity target source]
    else []
  | _, _ => []

def buildSlottingRecommendations : List SlottingRecommendationDraft :=
  (r.sorting.sort compareDrafts (dedupeDrafts [] (input.velocities.flatMap (draftsOf r input)))).take
    (clampSlottingLimit input.maxRecommendations)

end Builder

section Applicability
variable (r : Runtime) (input : BuildSlottingRecommendationsInput)
variable (velocity : SlottingVelocityCandidate) (draft : SlottingRecommendationDraft)

/-- The places of the locations and of the stock. -/
def places : List Place :=
  input.locations.map (·.place) ++ input.stock.map (·.place)

/-- Both lists describe a location alike; they are read from one table. -/
def OneDescription : Prop := ∀ p∈places input, ∀ q∈places input, p.id=q.id → p=q

/-- The article lies there. -/
def Holds (skuCode id : Str) : Prop :=
  ∃ quant∈input.stock, quant.skuCode=skuCode ∧ quant.locationId=id ∧
    quant.quantity.sign (.finite 0)=.gt

/-- The article already lies in a pick face that its rule allows. -/
def StockedWell : Prop :=
  ∃ quant∈input.stock, quant.skuCode=velocity.skuCode ∧ quant.quantity.sign (.finite 0)=.gt ∧
    isPickFace r quant.locationType=true ∧
    allows r (matchingRule r input velocity) quant.place=true

/-- The turn of one velocity makes the draft, and it is among those returned. -/
def Recommended : Prop :=
  velocity∈input.velocities ∧ draft∈draftsOf r input velocity ∧
    draft∈buildSlottingRecommendations r input

/-- What is recommended can be done and does what its rule is for. A move to the reserve is of no
rule. -/
structure Applicable : Prop where
  source : ∃ id, draft.fromLocationId=some id ∧ Holds input velocity.skuCode id
  moves : draft.toLocationId≠draft.fromLocationId
  target : draft.reason≠.LOW_VELOCITY_TO_RESERVE → ∃ place∈places input,
    draft.toLocationId=some place.id ∧ allows r (matchingRule r input velocity) place=true
  needed : draft.reason=.HIGH_VELOCITY_TO_PICK_FACE → ¬StockedWell r input velocity

/-- A pick face without the article is allowed. -/
def FreePickFace : Prop :=
  ∃ location∈findTargetPickFaces r input.locations input.rules,
    (∀ quant∈input.stock, quant.skuCode=velocity.skuCode → quant.locationId≠location.id) ∧
    allows r (matchingRule r input velocity) location.place=true

/-- The row that goods are to be taken from is of a location that has some. -/
def Supplied (source : Option SlottingStockCandidate) : Prop :=
  ∀ quant∈source, Holds input velocity.skuCode quant.locationId

/-- What has to be so before for a recommendation of a reason to be applicable. -/
def Clear : SlottingRecommendationReason → Prop
  | .HIGH_VELOCITY_TO_PICK_FACE => Supplied input velocity (bestCurrentReserve r input velocity) ∧
    FreePickFace r input velocity ∧ ¬StockedWell r input velocity
  | .PICK_FACE_BELOW_MIN => Supplied input velocity (bestCurrentReserve r input velocity) ∧
    (∀ quant∈bestCurrentPickFace r input velocity,
      allows r (matchingRule r input velocity) quant.place=true) ∧
    (bestCurrentPickFace r input velocity=none → FreePickFace r input velocity)
  | .LOW_VELOCITY_TO_RESERVE => Supplied input velocity (bestCurrentPickFace r input velocity)

variable {r input velocity draft}

theorem groupStockBySku_eq (stock : List SlottingStockCandidate) (skuCode : Str) :
    groupStockBySku stock skuCode=stock.filter fun quant => quant.skuCode=skuCode := by
  have hfold : ∀ (stock : List SlottingStockCandidate) (result : Str → List SlottingStockCandidate),
      stock.foldl (fun result quant =>
        Function.update result quant.skuCode (result quant.skuCode ++ [quant])) result skuCode=
      result skuCode ++ stock.filter fun quant => quant.skuCode=skuCode := by
    intro stock
    induction stock with
    | nil => simp
    | cons quant stock ih =>
      intro result
      rw [List.foldl_cons,ih]
      by_cases hsku : quant.skuCode=skuCode
      · simp [hsku]
      · rw [Function.update_of_ne (Ne.symm hsku)]
        simp [hsku]
  have hall := hfold stock fun _ => []
  rw [List.nil_append] at hall
  exact hall

theorem mem_skuStock {quant : SlottingStockCandidate} : quant∈skuStock input velocity ↔
    quant∈input.stock ∧ quant.skuCode=velocity.skuCode := by
  rw [skuStock,groupStockBySku_eq,List.mem_filter,decide_eq_true_eq]

theorem isUsed_iff {id : Str} : isUsed (skuStock input velocity) id=true ↔
    ∃ quant∈input.stock, quant.skuCode=velocity.skuCode ∧ quant.locationId=id := by
  rw [isUsed,List.any_eq_true]
  simp [mem_skuStock,and_assoc]

theorem bestStockCandidate_mem {stock : List SlottingStockCandidate}
    {quant : SlottingStockCandidate} (h : bestStockCandidate r stock=some quant) : quant∈stock :=
  (r.sorting.perm (compareStock r) stock).mem_iff.mp (List.mem_of_head? h)

theorem bestCurrentPickFace_mem {quant : SlottingStockCandidate}
    (h : bestCurrentPickFace r input velocity=some quant) :
    quant∈input.stock ∧ quant.skuCode=velocity.skuCode ∧ isPickFace r quant.locationType=true := by
  have hmem := List.mem_filter.mp (bestStockCandidate_mem h)
  have hsku := mem_skuStock.mp hmem.1
  exact ⟨hsku.1,hsku.2,hmem.2⟩

theorem bestCurrentReserve_mem {quant : SlottingStockCandidate}
    (h : bestCurrentReserve r input velocity=some quant) :
    quant∈input.stock ∧ quant.skuCode=velocity.skuCode ∧ isPickFace r quant.locationType=false := by
  have hmem := List.mem_filter.mp (bestStockCandidate_mem h)
  have hsku := mem_skuStock.mp hmem.1
  have hface := hmem.2
  rw [Bool.not_eq_true'] at hface
  exact ⟨hsku.1,hsku.2,hface⟩

theorem mem_findReserveLocations {location : SlottingLocationCandidate}
    (h : location∈findReserveLocations r input.locations) :
    location∈input.locations ∧ isPickFace r location.type=false := by
  have hmem := List.mem_filter.mp ((r.sorting.perm _ _).mem_iff.mp h)
  have hboth := hmem.2
  rw [Bool.and_eq_true,Bool.not_eq_true'] at hboth
  exact ⟨hmem.1,hboth.2⟩

theorem mem_findTargetPickFaces {location : SlottingLocationCandidate}
    (h : location∈findTargetPickFaces r input.locations input.rules) : location∈input.locations :=
  (List.mem_filter.mp ((r.sorting.perm _ _).mem_iff.mp h)).1

theorem targetReserve_mem {target : SlottingLocationCandidate}
    (h : targetReserve r input velocity=some target) :
    target∈input.locations ∧ isPickFace r target.type=false := by
  apply mem_findReserveLocations
  rw [targetReserve,pickBestReserveLocation,Option.or_eq_some_iff] at h
  cases h with
  | inl hfree => exact List.mem_of_find?_eq_some hfree
  | inr hfirst => exact List.mem_of_head? hfirst.2

theorem targetPickFace_free {target : SlottingLocationCandidate}
    (h : targetPickFace r input velocity=some target) :
    target∈findTargetPickFaces r input.locations input.rules ∧
      ∀ quant∈input.stock, quant.skuCode=velocity.skuCode → quant.locationId≠target.id := by
  have hfree : target∈findTargetPickFaces r input.locations input.rules ∧
      isUsed (skuStock input velocity) target.id=false := by
    rw [targetPickFace,pickBestTargetPickFace,Option.or_eq_some_iff] at h
    cases h with
    | inl hcandidate =>
      have hmem := List.mem_filter.mp (List.mem_of_head? hcandidate)
      have hboth := hmem.2
      rw [Bool.and_eq_true,Bool.not_eq_true'] at hboth
      exact ⟨hmem.1,hboth.1⟩
    | inr hfallback =>
      have hfound := List.find?_some hfallback.2
      rw [Bool.not_eq_true'] at hfound
      exact ⟨List.mem_of_find?_eq_some hfallback.2,hfound⟩
  refine ⟨hfree.1,fun quant hquant hsku hid => ?_⟩
  have hused := isUsed_iff.mpr ⟨quant,hquant,hsku,hid⟩
  rw [hfree.2] at hused
  cases hused

theorem targetPickFace_allowed {target : SlottingLocationCandidate}
    (h : targetPickFace r input velocity=some target) :
    allows r (matchingRule r input velocity) target.place=true ↔ FreePickFace r input velocity := by
  constructor
  · intro hallows
    have hfree := targetPickFace_free h
    exact ⟨target,hfree.1,hfree.2,hallows⟩
  · intro hface
    obtain ⟨location,hlocation,hfree,hallows⟩ := hface
    have hunused : isUsed (skuStock input velocity) location.id=false := by
      rw [Bool.eq_false_iff]
      intro hused
      obtain ⟨quant,hquant,hsku,hid⟩ := isUsed_iff.mp hused
      exact hfree quant hquant hsku hid
    rw [targetPickFace,pickBestTargetPickFace,Option.or_eq_some_iff] at h
    cases h with
    | inl hcandidate =>
      have hboth := (List.mem_filter.mp (List.mem_of_head? hcandidate)).2
      rw [Bool.and_eq_true] at hboth
      exact hboth.2
    | inr hfallback =>
      -- the candidates are not empty
      have hnone := List.filter_eq_nil_iff.mp (List.head?_eq_none_iff.mp hfallback.1)
      exact absurd (by simp [hunused,hallows]) (hnone location hlocation)

theorem mem_draftsOf : draft∈draftsOf r input velocity ↔
    (∃ target∈targetPickFace r input velocity, ∃ source∈bestCurrentReserve r input velocity,
      atLeast velocity.velocityScore (minVelocityScore input)=true ∧
      (alreadyInGoodPickFace r input velocity target=false ∧
          draft=highVelocityDraft r input velocity target source ∨
        (totalPickFaceAvailable r input velocity).sign
            (targetMinPickFaceQuantity r input velocity)=.lt ∧
          draft=belowMinDraft r input velocity target source)) ∨
    ∃ target∈targetReserve r input velocity, ∃ source∈bestCurrentPickFace r input velocity,
      atMost velocity.velocityScore (lowVelocityScore input)=true ∧
      draft=lowVelocityDraft r velocity target source := by
  unfold draftsOf
  rw [List.mem_append]
  refine or_congr ?_ ?_
  · cases targetPickFace r input velocity with
    | none => simp
    | some target =>
      cases bestCurrentReserve r input velocity with
      | none => simp
      | some source =>
        cases hmin : atLeast velocity.velocityScore (minVelocityScore input) <;>
          cases hgood : alreadyInGoodPickFace r input velocity target <;> simp [hgood]
  · cases targetReserve r input velocity with
    | none => simp
    | some target =>
      cases bestCurrentPickFace r input velocity with
      | none => simp
      | some source => simp

theorem mem_dedupeDrafts {seen : List Str} {drafts : List SlottingRecommendationDraft}
    (h : draft∈dedupeDrafts seen drafts) : draft∈drafts := by
  induction drafts generalizing seen with
  | nil => cases h
  | cons first drafts ih =>
    unfold dedupeDrafts at h
    split at h
    · exact List.mem_cons_of_mem _ (ih h)
    · cases List.mem_cons.mp h with
      | inl hfirst => exact List.mem_cons.mpr (.inl hfirst)
      | inr hrest => exact List.mem_cons_of_mem _ (ih hrest)

theorem recommended_of_mem (h : draft∈buildSlottingRecommendations r input) :
    ∃ velocity, Recommended r input velocity draft := by
  have hsorted := (r.sorting.perm _ _).mem_iff.mp (List.mem_of_mem_take h)
  obtain ⟨velocity,hvelocity,hdraft⟩ := List.mem_flatMap.mp (mem_dedupeDrafts hsorted)
  exact ⟨velocity,hvelocity,hdraft,h⟩

theorem location_mem_places {location : SlottingLocationCandidate} (h : location∈input.locations) :
    location.place∈places input :=
  List.mem_append.mpr (.inl (List.mem_map_of_mem h))

theorem stock_mem_places {quant : SlottingStockCandidate} (h : quant∈input.stock) :
    quant.place∈places input :=
  List.mem_append.mpr (.inr (List.mem_map_of_mem h))

theorem OneDescription.ne (h : OneDescription input) {p q : Place} (hp : p∈places input)
    (hq : q∈places input) (hface : isPickFace r p.type=true)
    (hreserve : isPickFace r q.type=false) : p.id≠q.id := by
  intro hid
  have hsame := h p hp q hq hid
  rw [hsame,hreserve] at hface
  cases hface

theorem OneDescription.allows_iff (h : OneDescription input) {p : Place} (hp : p∈places input)
    (rule : Option SlottingRuleCandidate) :
    (∃ place∈places input, some p.id=some place.id ∧ allows r rule place=true) ↔
      allows r rule p=true := by
  constructor
  · intro hplace
    obtain ⟨place,hmem,hid,hallows⟩ := hplace
    have hsame := h p hp place hmem (Option.some.inj hid)
    rw [hsame]
    exact hallows
  · intro hallows
    exact ⟨p,hp,rfl,hallows⟩

theorem highVelocityDraft_applicable (h : OneDescription input)
    {target : SlottingLocationCandidate} {source : SlottingStockCandidate}
    (htarget : targetPickFace r input velocity=some target)
    (hsource : bestCurrentReserve r input velocity=some source) :
    Applicable r input velocity (highVelocityDraft r input velocity target source) ↔
      Clear r input velocity .HIGH_VELOCITY_TO_PICK_FACE := by
  have hfree := targetPickFace_free htarget
  have hallowed := targetPickFace_allowed htarget
  have hplace := h.allows_iff (r := r) (location_mem_places (mem_findTargetPickFaces hfree.1))
    (matchingRule r input velocity)
  have hreserve := bestCurrentReserve_mem hsource
  unfold Clear Supplied
  rw [hsource]
  constructor
  · intro happ
    obtain ⟨id,hid,hholds⟩ := happ.source
    cases hid
    have hrule := hplace.mp (happ.target (by simp [highVelocityDraft]))
    refine ⟨fun quant hquant => ?_,hallowed.mp hrule,happ.needed rfl⟩
    cases hquant
    exact hholds
  · intro hclear
    exact {
      source := ⟨source.locationId,rfl,hclear.1 source rfl⟩
      moves := fun hsame =>
        hfree.2 source hreserve.1 hreserve.2.1 (Option.some.inj hsame).symm
      target := fun _ => hplace.mpr (hallowed.mpr hclear.2.1)
      needed := fun _ => hclear.2.2 }

theorem belowMinDraft_applicable (h : OneDescription input)
    {target : SlottingLocationCandidate} {source : SlottingStockCandidate}
    (htarget : targetPickFace r input velocity=some target)
    (hsource : bestCurrentReserve r input velocity=some source) :
    Applicable r input velocity (belowMinDraft r input velocity target source) ↔
      Clear r input velocity .PICK_FACE_BELOW_MIN := by
  have hfree := targetPickFace_free htarget
  have hallowed := targetPickFace_allowed htarget
  have hreserve := bestCurrentReserve_mem hsource
  -- the place that is topped up, and when its rule allows it
  obtain ⟨place,hmem,hto,hmoves,hclear⟩ : ∃ place∈places input,
      (belowMinDraft r input velocity target source).toLocationId=some place.id ∧
      place.id≠source.locationId ∧ (allows r (matchingRule r input velocity) place=true ↔
        (∀ quant∈bestCurrentPickFace r input velocity,
          allows r (matchingRule r input velocity) quant.place=true) ∧
        (bestCurrentPickFace r input velocity=none → FreePickFace r input velocity)) := by
    unfold belowMinDraft
    cases hface : bestCurrentPickFace r input velocity with
    | none =>
      refine ⟨target.place,location_mem_places (mem_findTargetPickFaces hfree.1),rfl,
        Ne.symm (hfree.2 source hreserve.1 hreserve.2.1),?_⟩
      rw [hallowed]
      simp
    | some face =>
      have hcurrent := bestCurrentPickFace_mem hface
      refine ⟨face.place,stock_mem_places hcurrent.1,rfl,?_,by simp⟩
      exact h.ne (stock_mem_places hcurrent.1) (stock_mem_places hreserve.1) hcurrent.2.2
        hreserve.2.2
  have hplace := h.allows_iff (r := r) hmem (matchingRule r input velocity)
  rw [← hto] at hplace
  unfold Clear Supplied
  rw [hsource,← hclear]
  constructor
  · intro happ
    obtain ⟨id,hid,hholds⟩ := happ.source
    cases hid
    refine ⟨fun quant hquant => ?_,hplace.mp (happ.target (by simp [belowMinDraft]))⟩
    cases hquant
    exact hholds
  · intro hboth
    exact {
      source := ⟨source.locationId,rfl,hboth.1 source rfl⟩
      moves := fun hsame => hmoves (Option.some.inj (hto.symm.trans hsame))
      target := fun _ => hplace.mpr hboth.2
      needed := fun hreason => by cases hreason }

theorem lowVelocityDraft_applicable (h : OneDescription input)
    {target : SlottingLocationCandidate} {source : SlottingStockCandidate}
    (htarget : targetReserve r input velocity=some target)
    (hsource : bestCurrentPickFace r input velocity=some source) :
    Applicable r input velocity (lowVelocityDraft r velocity target source) ↔
      Clear r input velocity .LOW_VELOCITY_TO_RESERVE := by
  have hreserve := targetReserve_mem htarget
  have hface := bestCurrentPickFace_mem hsource
  unfold Clear Supplied
  rw [hsource]
  constructor
  · intro happ quant hquant
    obtain ⟨id,hid,hholds⟩ := happ.source
    cases hid
    cases hquant
    exact hholds
  · intro hclear
    exact {
      source := ⟨source.locationId,rfl,hclear source rfl⟩
      moves := fun hsame => h.ne (stock_mem_places hface.1) (location_mem_places hreserve.1)
        hface.2.2 hreserve.2 (Option.some.inj hsame).symm
      target := fun hreason => absurd rfl hreason
      needed := fun hreason => by cases hreason }

theorem Recommended.applicable_iff (h : OneDescription input)
    (hdraft : Recommended r input velocity draft) :
    Applicable r input velocity draft ↔ Clear r input velocity draft.reason := by
  cases mem_draftsOf.mp hdraft.2.1 with
  | inl hpick =>
    obtain ⟨target,htarget,source,hsource,-,hmade⟩ := hpick
    cases hmade with
    | inl hhigh =>
      rw [hhigh.2]
      exact highVelocityDraft_applicable h htarget hsource
    | inr hbelow =>
      rw [hbelow.2]
      exact belowMinDraft_applicable h htarget hsource
  | inr hlow =>
    obtain ⟨target,htarget,source,hsource,-,hmade⟩ := hlow
    rw [hmade]
    exact lowVelocityDraft_applicable h htarget hsource

/-- Upper case of letters without accents, and exact arithmetic. -/
def demoRuntime : Runtime where
  toUpperCase s := s.map Char.toUpper
  sorting := insertion
  rounded q := q

def demoVelocity : SlottingVelocityCandidate where
  skuId := none
  skuCode := "S".toList
  velocityScore := .finite 80
  abcClass := none

def demoLocation (id type : String) (pickSequence : ℚ) : SlottingLocationCandidate where
  id := id.toList
  code := id.toList
  type := type.toList
  zone := none
  pickSequence := some (.finite pickSequence)
  isActive := some true

def demoStock (id type : String) (pickSequence quantity : ℚ) : SlottingStockCandidate where
  skuCode := "S".toList
  locationId := id.toList
  locationCode := id.toList
  locationType := type.toList
  zone := none
  pickSequence := some (.finite pickSequence)
  quantity := .finite quantity
  reservedQuantity := none

def demoRule : SlottingRuleCandidate where
  code := some "R".toList
  zone := none
  minVelocityScore := none
  maxVelocityScore := none
  targetLocationType := some "PICK".toList
  maxPickSequence := some (.finite 50)
  minPickFaceQuantity := none

/-- One pick face of two is stocked. -/
def demoInput : BuildSlottingRecommendationsInput where
  velocities := [demoVelocity]
  stock := [demoStock "near" "PICK" 1 5,demoStock "back" "RESERVE" 900 40]
  locations := [demoLocation "near" "PICK" 1,demoLocation "next" "PICK" 2,
    demoLocation "back" "RESERVE" 900]
  rules := some [demoRule]
  maxRecommendations := none
  minVelocityScore := none
  lowVelocityScore := none

theorem demoInput_oneDescription : OneDescription demoInput := by
  unfold OneDescription
  decide

end Applicability

end AardvarkWms.Slotting
