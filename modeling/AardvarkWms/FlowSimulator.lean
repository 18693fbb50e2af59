import AardvarkWms.Histories
import AardvarkWms.InvariantChecks
import AardvarkWms.PackingPlan

/-! The flow simulator of the quality module, its calls in any order:
`src/quality/wms-flow-simulator.helpers.ts` and `src/database/concurrency.helpers.ts`. -/
namespace AardvarkWms.FlowSimulator

open InvariantChecks (WmsInvariantIssue validateStockInvariants validatePackingInvariants)
open Messaging (trim)

section First
variable {α : Type} {p : α → Bool} {f : α → α} {a b : α} {l : List α}

/-- The first entry that `p` finds, changed in its place. -/
def mutateFirst (p : α → Bool) (f : α → α) : List α → List α
  | [] => []
  | a::l => if p a then f a::l else a::mutateFirst p f l

theorem mem_mutateFirst (h : b∈mutateFirst p f l) :
    b∈l ∨ ∃ a, l.find? p=some a ∧ b=f a := by
  induction l with
  | nil => simp [mutateFirst] at h
  | cons c l ih =>
    by_cases hc : p c=true
    · rw [mutateFirst,if_pos hc,List.mem_cons] at h
      cases h with
      | inl h => exact .inr ⟨c,by simp [hc],h⟩
      | inr h => exact .inl (List.mem_cons_of_mem c h)
    · rw [mutateFirst,if_neg hc,List.mem_cons] at h
      cases h with
      | inl h => exact .inl (by simp [h])
      | inr h =>
        cases ih h with
        | inl h => exact .inl (List.mem_cons_of_mem c h)
        | inr h =>
          right
          simpa [hc] using h

theorem sum_mutateFirst (w : α → ℤ) (h : l.find? p=some a) :
    ((mutateFirst p f l).map w).sum=(l.map w).sum-w a+w (f a) := by
  induction l with
  | nil => simp at h
  | cons c l ih =>
    by_cases hc : p c=true
    · have hca : c=a := by simpa [hc] using h
      rw [mutateFirst,if_pos hc,hca,List.map_cons,List.map_cons,List.sum_cons,List.sum_cons]
      omega
    · have hl : l.find? p=some a := by simpa [hc] using h
      rw [mutateFirst,if_neg hc,List.map_cons,List.map_cons,List.sum_cons,List.sum_cons,ih hl]
      omega

theorem mutateFirst_singleton (h : p a=true) : mutateFirst p f [a]=[f a] := by
  rw [mutateFirst,if_pos h]

end First

/-- A number, `none` one that is not an integer. -/
abbrev Number := Option ℤ

/-- `Number.isInteger` and above zero. -/
def positiveInteger (n : Number) : Option ℤ := n.filter (0 < ·)

@[simp] theorem positiveInteger_eq_some {n : Number} {q : ℤ} :
    positiveInteger n=some q ↔ n=some q ∧ 0 < q := by
  simp [positiveInteger,Option.filter_eq_some_iff]

structure StockReservationSnapshot where
  id : String
  quantity : ℤ
  reservedQuantity : ℤ
  version : Option ℤ

structure AtomicReservationAttempt where
  quantity : Number
  expectedVersion : Option ℤ

inductive ReservationReason
  | OK | NON_POSITIVE_QUANTITY | STALE_VERSION | INSUFFICIENT_AVAILABLE_QUANTITY
  deriving DecidableEq

def ReservationReason.name : ReservationReason → String
  | .OK => "OK"
  | .NON_POSITIVE_QUANTITY => "NON_POSITIVE_QUANTITY"
  | .STALE_VERSION => "STALE_VERSION"
  | .INSUFFICIENT_AVAILABLE_QUANTITY => "INSUFFICIENT_AVAILABLE_QUANTITY"

structure AtomicReservationResult where
  success : Bool
  reason : ReservationReason
  availableBefore : ℤ
  availableAfter : ℤ
  stockQuant : StockReservationSnapshot

def getAvailableStockQuantity (stockQuant : StockReservationSnapshot) : ℤ :=
  max 0 (stockQuant.quantity-stockQuant.reservedQuantity)

def failed (reason : ReservationReason) (stockQuant : StockReservationSnapshot)
    (availableBefore : ℤ) : AtomicReservationResult :=
  ⟨false,reason,availableBefore,availableBefore,stockQuant⟩

/-- Both are numbers, and not the same. -/
def staleVersion (stockQuant : StockReservationSnapshot) (attempt : AtomicReservationAttempt) : Prop :=
  attempt.expectedVersion≠none ∧ stockQuant.version≠none ∧
    attempt.expectedVersion≠stockQuant.version

instance (stockQuant : StockReservationSnapshot) (attempt : AtomicReservationAttempt) :
    Decidable (staleVersion stockQuant attempt) := inferInstanceAs (Decidable (_ ∧ _))

def applyAtomicReservationSnapshot (stockQuant : StockReservationSnapshot)
    (attempt : AtomicReservationAttempt) : AtomicReservationResult :=
  let availableBefore := getAvailableStockQuantity stockQuant
  match positiveInteger attempt.quantity with
  | none => failed .NON_POSITIVE_QUANTITY stockQuant availableBefore
  | some quantity =>
    if staleVersion stockQuant attempt then failed .STALE_VERSION stockQuant availableBefore
    else if availableBefore < quantity then
      failed .INSUFFICIENT_AVAILABLE_QUANTITY stockQuant availableBefore
    else
      let updated := {stockQuant with
        reservedQuantity := stockQuant.reservedQuantity+quantity
        version := stockQuant.version.map (·+1)}
      ⟨true,.OK,availableBefore,getAvailableStockQuantity updated,updated⟩

theorem applyAtomicReservationSnapshot_success {stockQuant : StockReservationSnapshot}
    {attempt : AtomicReservationAttempt}
    (h : (applyAtomicReservationSnapshot stockQuant attempt).success=true) :
    ∃ q, attempt.quantity=some q ∧ 0 < q ∧ q≤getAvailableStockQuantity stockQuant ∧
      (applyAtomicReservationSnapshot stockQuant attempt).stockQuant={stockQuant with
        reservedQuantity := stockQuant.reservedQuantity+q
        version := stockQuant.version.map (·+1)} := by
  revert h
  unfold applyAtomicReservationSnapshot
  cases hquantity : positiveInteger attempt.quantity with
  | none => simp [failed]
  | some q =>
    obtain ⟨hgiven,hpositive⟩ := positiveInteger_eq_some.mp hquantity
    by_cases hstale : staleVersion stockQuant attempt
    · simp [hstale,failed]
    · by_cases hshort : getAvailableStockQuantity stockQuant < q
      · simp [hstale,hshort,failed]
      · intro _
        refine ⟨q,hgiven,hpositive,not_lt.mp hshort,?_⟩
        simp [hstale,hshort]

section Flow

structure WmsFlowStockQuant extends StockReservationSnapshot where
  sku : String
  location : String

structure WmsFlowReservation where
  id : String
  stockQuantId : String
  quantity : ℤ
  status : ReservationStatus

structure WmsFlowOrderLine where
  id : String
  lineNumber : String
  sku : String
  orderedQuantity : ℤ
  pickedQuantity : ℤ

structure WmsFlowPackageContent where
  outboundOrderLineId : Option String
  sku : String
  quantity : ℤ

inductive FlowShipmentStatus
  | PACKING | STAGED | LOADING | SHIPPED | EXCEPTION
  deriving DecidableEq

structure WmsFlowShipment where
  id : String
  status : FlowShipmentStatus
  carrier : String
  packageCount : ℕ
  labelledPackageCount : ℕ
  stagedOrLoadedPackageCount : ℕ
  hasShipmentLevelLabel : Bool

structure WmsFlowState where
  stockQuants : List WmsFlowStockQuant
  reservations : List WmsFlowReservation
  outboundOrderLines : List WmsFlowOrderLine
  packageContents : List WmsFlowPackageContent
  shipment : WmsFlowShipment
  events : List String

structure FlowInput where
  sku : Option String := none
  location : Option String := none
  onHandQuantity : Number
  orderedQuantity : Number
  carrier : Option String := none

variable (lang : Language)

def normalizeCode (value : String) : String :=
  String.ofList (lang.toUpperCase (trim value.toList))

def createFlowState (input : FlowInput) : Except String WmsFlowState :=
  match input.onHandQuantity.filter (0≤·),positiveInteger input.orderedQuantity with
  | none,_ => .error "onHandQuantity must be a non-negative integer."
  | some _,none => .error "orderedQuantity must be a positive integer."
  | some onHandQuantity,some orderedQuantity =>
    let sku := normalizeCode lang (input.sku.getD "SKU-1")
    let location := normalizeCode lang (input.location.getD "A-01-01")
    .ok {
      stockQuants := [⟨⟨"quant-1",onHandQuantity,0,some 0⟩,sku,location⟩]
      reservations := []
      outboundOrderLines := [⟨"line-1","1",sku,orderedQuantity,0⟩]
      packageContents := []
      shipment := ⟨"shipment-1",.PACKING,normalizeCode lang (input.carrier.getD "CARRIER_A"),0,0,0,false⟩
      events := ["FLOW_CREATED"]}

/-- The quant of a reservation or another, with its next version. -/
def WmsFlowStockQuant.change (quant : WmsFlowStockQuant) (quantity reservedQuantity : ℤ) :
    WmsFlowStockQuant :=
  {quant with
    quantity := quant.quantity+quantity
    reservedQuantity := quant.reservedQuantity+reservedQuantity
    version := quant.version.map (·+1)}

/-- A reservation of which `quantity` is taken, under `finished` once nothing is left. -/
def WmsFlowReservation.take (reservation : WmsFlowReservation) (quantity : ℤ)
    (finished : ReservationStatus) : WmsFlowReservation :=
  {reservation with
    quantity := reservation.quantity-quantity
    status := if reservation.quantity-quantity=0 then finished else reservation.status}

def reserveFlowStock (state : WmsFlowState) (quantity : Number) (reservationId : Option String) :
    Except String WmsFlowState :=
  match state.stockQuants with
  | [] => .error "No stock quant exists in flow state."
  | quant::quants =>
    let result := applyAtomicReservationSnapshot quant.toStockReservationSnapshot
      ⟨quantity,quant.version⟩
    let reason := result.reason.name
    if !result.success then .error s!"Reservation failed: {reason}"
    else
      let count := state.reservations.length+1
      -- a quantity that has been reserved is an integer
      .ok {state with
        stockQuants := {quant with toStockReservationSnapshot := result.stockQuant}::quants
        reservations := state.reservations++
          [⟨reservationId.getD s!"reservation-{count}",quant.id,quantity.getD 0,.ACTIVE⟩]
        events := state.events++["STOCK_RESERVED"]}

/-- The first reservation with the id, where it is active. -/
def activeReservation (state : WmsFlowState) (reservationId : String) : Option WmsFlowReservation :=
  (state.reservations.find? (·.id=reservationId)).filter (·.status=.ACTIVE)

def pickFlowReservation (state : WmsFlowState) (reservationId : String) (quantity : Number) :
    Except String WmsFlowState :=
  match activeReservation state reservationId with
  | none => .error s!"Active reservation {reservationId} was not found."
  | some reservation =>
    match (positiveInteger quantity).filter (·≤reservation.quantity) with
    | none => .error "Pick quantity must be positive and no greater than reservation quantity."
    | some quantity =>
      match state.stockQuants.find? (·.id=reservation.stockQuantId) with
      | none => .error "Pick context is incomplete."
      | some quant =>
        match state.outboundOrderLines.find? (·.sku=quant.sku) with
        | none => .error "Pick context is incomplete."
        | some line =>
          if quant.quantity < quantity ∨ quant.reservedQuantity < quantity then
            .error "Pick quantity exceeds reserved stock."
          else if line.orderedQuantity < line.pickedQuantity+quantity then
            .error "Pick quantity exceeds ordered quantity."
          else .ok {state with
            stockQuants := mutateFirst (·.id=reservation.stockQuantId)
              (·.change (-quantity) (-quantity)) state.stockQuants
            reservations := mutateFirst (·.id=reservationId) (·.take quantity .PICKED)
              state.reservations
            outboundOrderLines := mutateFirst (·.sku=quant.sku)
              (fun line => {line with pickedQuantity := line.pickedQuantity+quantity})
              state.outboundOrderLines
            events := state.events++["STOCK_PICKED"]}

def releaseShortPickRemainder (state : WmsFlowState) (reservationId : String)
    (shortQuantity : Number) : Except String WmsFlowState :=
  match activeReservation state reservationId with
  | none => .error s!"Active reservation {reservationId} was not found for short-pick release."
  | some reservation =>
    match (positiveInteger shortQuantity).filter (·≤reservation.quantity) with
    | none => .error "Short quantity must be positive and no greater than reservation quantity."
    | some shortQuantity =>
      match (state.stockQuants.find? (·.id=reservation.stockQuantId)).filter
        (shortQuantity≤·.reservedQuantity) with
      | none => .error "Short-pick release exceeds reserved quantity."
      | some _ => .ok {state with
          stockQuants := mutateFirst (·.id=reservation.stockQuantId)
            (·.change 0 (-shortQuantity)) state.stockQuants
          reservations := mutateFirst (·.id=reservationId) (·.take shortQuantity .RELEASED)
            state.reservations
          events := state.events++["SHORT_PICK_REPORTED"]}

/-- The loop over the reservations, with the quants as they are by then. -/
def cancelReservations : List WmsFlowReservation → List WmsFlowStockQuant →
    Except String (List WmsFlowReservation × List WmsFlowStockQuant)
  | [], quants => .ok ([],quants)
  | reservation::rest, quants =>
    if reservation.status≠.ACTIVE then
      (cancelReservations rest quants).map fun done => (reservation::done.1,done.2)
    else
      match (quants.find? (·.id=reservation.stockQuantId)).filter
        (reservation.quantity≤·.reservedQuantity) with
      | none =>
        let id := reservation.id
        .error s!"Cannot cancel reservation {id}; reserved stock is inconsistent."
      | some _ =>
        (cancelReservations rest (mutateFirst (·.id=reservation.stockQuantId)
          (·.change 0 (-reservation.quantity)) quants)).map fun done =>
            ({reservation with status := .CANCELLED}::done.1,done.2)

def cancelFlowReservations (state : WmsFlowState) : Except String WmsFlowState :=
  (cancelReservations state.reservations state.stockQuants).map fun done =>
    {state with
      stockQuants := done.2
      reservations := done.1
      events := state.events++["ORDER_CANCELLED_RESERVATIONS_RELEASED"]}

def replenishFlowPickFace (state : WmsFlowState) (quantity : Number) : Except String WmsFlowState :=
  match state.stockQuants,positiveInteger quantity with
  | [],_ => .error "No stock quant exists in flow state."
  | _::_,none => .error "Replenishment quantity must be a positive integer."
  | quant::quants,some quantity => .ok {state with
      stockQuants := quant.change quantity 0::quants
      events := state.events++["REPLENISHMENT_COMPLETED"]}

def packingLine (line : WmsFlowOrderLine) : PackingPlan.PackingOrderLineInput :=
  ⟨line.id.toList,line.lineNumber.toList,line.sku.toList,line.orderedQuantity,line.pickedQuantity⟩

def packedContent (content : WmsFlowPackageContent) : PackingPlan.PackageContentRecord :=
  ⟨content.outboundOrderLineId.map (·.toList),content.quantity⟩

def packFlowOrderLine (state : WmsFlowState) (quantity : Number) : Except String WmsFlowState :=
  match state.outboundOrderLines with
  | [] => .error "No outbound line exists in flow state."
  | line::_ =>
    -- to the validator a number that is not an integer is what 0 is
    let result := PackingPlan.validatePackageContentsAgainstPickedQuantities lang
      (state.outboundOrderLines.map packingLine) (state.packageContents.map packedContent)
      [⟨line.lineNumber.toList,line.sku.toList,quantity.getD 0,none⟩]
    if !result.ok then .error (" ".intercalate (result.issues.map (·.message)))
    else .ok {state with
      packageContents := state.packageContents++result.resolvedContents.map fun content =>
        ⟨some (String.ofList content.outboundOrderLineId),String.ofList content.sku,content.quantity⟩
      shipment := {state.shipment with
        packageCount := state.shipment.packageCount+1
        labelledPackageCount := state.shipment.labelledPackageCount+1}
      events := state.events++["ORDER_PACKED"]}

def isShipmentReadyToShip (packageCount stagedOrLoadedPackageCount : ℕ) (carrierRequiresLabel : Bool)
    (labelledPackageCount : ℕ) (hasShipmentLevelLabel : Bool) : Bool :=
  if packageCount=0 || stagedOrLoadedPackageCount=0 then false
  else !carrierRequiresLabel || hasShipmentLevelLabel || packageCount≤labelledPackageCount

def stageAndShipFlow (state : WmsFlowState) : Except String WmsFlowState :=
  let staged := {state with
    shipment := {state.shipment with
      status := .STAGED
      stagedOrLoadedPackageCount := state.shipment.packageCount}
    events := state.events++["SHIPMENT_STAGED"]}
  if !isShipmentReadyToShip staged.shipment.packageCount staged.shipment.stagedOrLoadedPackageCount
    (staged.shipment.carrier≠"INTERNAL") staged.shipment.labelledPackageCount
    staged.shipment.hasShipmentLevelLabel then .error "Shipment is not ready to ship."
  else .ok {staged with
    shipment := {staged.shipment with status := .SHIPPED}
    events := staged.events++["SHIPMENT_SHIPPED"]}

def checkedQuant (quant : WmsFlowStockQuant) : InvariantChecks.StockQuant :=
  ⟨quant.id,quant.quantity,quant.reservedQuantity⟩

def checkedReservation (reservation : WmsFlowReservation) : InvariantChecks.Reservation :=
  ⟨reservation.id,reservation.stockQuantId,reservation.quantity,reservation.status⟩

def checkedLine (line : WmsFlowOrderLine) : InvariantChecks.OutboundLine :=
  ⟨line.id,line.lineNumber,line.orderedQuantity,line.pickedQuantity⟩

/-- The checker passes over a content without a line as over one with an empty id, and reads no id
of the content's own. -/
def checkedContent (content : WmsFlowPackageContent) : InvariantChecks.PackageContent :=
  ⟨"",content.outboundOrderLineId.getD "",content.quantity⟩

def validateFlowState (state : WmsFlowState) : List WmsInvariantIssue :=
  validateStockInvariants (state.stockQuants.map checkedQuant)
    (state.reservations.map checkedReservation)++
  validatePackingInvariants (state.outboundOrderLines.map checkedLine)
    (state.packageContents.map checkedContent)

/-- A call of one of the seven, with what it is given beside the state. -/
inductive FlowCall
  | reserveFlowStock (quantity : Number) (reservationId : Option String)
  | pickFlowReservation (reservationId : String) (quantity : Number)
  | releaseShortPickRemainder (reservationId : String) (shortQuantity : Number)
  | cancelFlowReservations
  | replenishFlowPickFace (quantity : Number)
  | packFlowOrderLine (quantity : Number)
  | stageAndShipFlow

def perform (state : WmsFlowState) : FlowCall → Except String WmsFlowState
  | .reserveFlowStock quantity reservationId => reserveFlowStock state quantity reservationId
  | .pickFlowReservation reservationId quantity => pickFlowReservation state reservationId quantity
  | .releaseShortPickRemainder reservationId shortQuantity =>
    releaseShortPickRemainder state reservationId shortQuantity
  | .cancelFlowReservations => cancelFlowReservations state
  | .replenishFlowPickFace quantity => replenishFlowPickFace state quantity
  | .packFlowOrderLine quantity => packFlowOrderLine lang state quantity
  | .stageAndShipFlow => stageAndShipFlow state

/-- A call that throws leaves the state that it was given. -/
def act (state : WmsFlowState) (call : FlowCall) : WmsFlowState :=
  match perform lang state call with
  | .ok next => next
  | .error _ => state

end Flow

section Steps
variable {lang : Language} {state next : WmsFlowState} {quant : WmsFlowStockQuant}
  {line : WmsFlowOrderLine} {supply : ℤ}

/-- What a reservation takes from its quant. -/
def held (reservation : WmsFlowReservation) : ℤ :=
  if reservation.status=.ACTIVE then reservation.quantity else 0

/-- The state has one quant and one line; what is reserved of the one is held by the active
reservations, what is packed of the other is picked, and of the `supply` what is not picked is
still there. -/
structure WmsFlowState.Balanced (state : WmsFlowState) (quant : WmsFlowStockQuant)
    (line : WmsFlowOrderLine) (supply : ℤ) : Prop where
  stockQuants : state.stockQuants=[quant]
  outboundOrderLines : state.outboundOrderLines=[line]
  quantId : quant.id="quant-1"
  lineId : line.id="line-1"
  lineNumber : line.lineNumber="1"
  onQuant : ∀ r∈state.reservations, r.stockQuantId="quant-1"
  positive : ∀ r∈state.reservations, r.status=.ACTIVE → 0 < r.quantity
  reserved : quant.reservedQuantity=(state.reservations.map held).sum
  onHand : quant.reservedQuantity≤quant.quantity
  picked : 0≤line.pickedQuantity ∧ line.pickedQuantity≤line.orderedQuantity
  onLine : ∀ c∈state.packageContents, c.outboundOrderLineId=some "line-1"
  packed : (state.packageContents.map (·.quantity)).sum≤line.pickedQuantity
  supply : quant.quantity+line.pickedQuantity=supply

theorem held_nonneg {r : WmsFlowReservation} (h : r.status=.ACTIVE → 0 < r.quantity) : 0≤held r := by
  unfold held
  split
  · next hactive => exact (h hactive).le
  · exact le_rfl

theorem sum_held_nonneg {rs : List WmsFlowReservation}
    (h : ∀ r∈rs, r.status=.ACTIVE → 0 < r.quantity) : 0≤(rs.map held).sum := by
  induction rs with
  | nil => exact le_rfl
  | cons r rs ih =>
    have hhead := held_nonneg (h r List.mem_cons_self)
    have htail := ih fun r hr => h r (List.mem_cons_of_mem _ hr)
    rw [List.map_cons,List.sum_cons]
    omega

theorem WmsFlowState.Balanced.reserved_nonneg (h : state.Balanced quant line supply) :
    0≤quant.reservedQuantity := by
  rw [h.reserved]
  exact sum_held_nonneg h.positive

theorem createFlowState_balanced {input : FlowInput} (h : createFlowState lang input=.ok state) :
    ∃ quant line, state.Balanced quant line (input.onHandQuantity.getD 0) ∧
      line.orderedQuantity=input.orderedQuantity.getD 0 := by
  unfold createFlowState at h
  cases honHand : input.onHandQuantity.filter (0≤·) with
  | none => simp [honHand] at h
  | some onHandQuantity =>
    cases hordered : positiveInteger input.orderedQuantity with
    | none => simp [honHand,hordered] at h
    | some orderedQuantity =>
      rw [Option.filter_eq_some_iff] at honHand
      obtain ⟨hgiven,hnonneg⟩ := honHand
      obtain ⟨hasked,hpositive⟩ := positiveInteger_eq_some.mp hordered
      have hnonneg : 0≤onHandQuantity := of_decide_eq_true hnonneg
      simp only [hgiven,hordered,Option.filter_some,hnonneg,decide_true,if_true,
        Except.ok.injEq] at h
      subst h
      refine ⟨_,_,⟨rfl,rfl,rfl,rfl,rfl,?_,?_,rfl,hnonneg,⟨le_rfl,hpositive.le⟩,?_,le_rfl,?_⟩,?_⟩
      · simp
      · simp
      · simp
      · simp [hgiven]
      · simp [hasked]

theorem reserveFlowStock_balanced {quantity : Number} {reservationId : Option String}
    (h : state.Balanced quant line supply)
    (hok : reserveFlowStock state quantity reservationId=.ok next) :
    ∃ quant', next.Balanced quant' line supply := by
  unfold reserveFlowStock at hok
  rw [h.stockQuants] at hok
  dsimp only at hok
  by_cases hsuccess : (applyAtomicReservationSnapshot quant.toStockReservationSnapshot
      ⟨quantity,quant.version⟩).success=true
  · obtain ⟨q,hq,hpositive,havailable,hquant⟩ := applyAtomicReservationSnapshot_success hsuccess
    have hq : quantity=some q := hq
    have hfits : q≤quant.quantity-quant.reservedQuantity := by
      unfold getAvailableStockQuantity at havailable
      omega
    simp only [hsuccess,Bool.not_true,Bool.false_eq_true,if_false,Except.ok.injEq] at hok
    subst hok
    rw [hquant]
    refine ⟨_,⟨rfl,h.outboundOrderLines,h.quantId,h.lineId,h.lineNumber,?_,?_,?_,?_,h.picked,h.onLine,
      h.packed,h.supply⟩⟩
    · intro r hr
      cases List.mem_append.mp hr with
      | inl hr => exact h.onQuant r hr
      | inr hr => simpa [List.mem_singleton.mp hr] using h.quantId
    · intro r hr hactive
      cases List.mem_append.mp hr with
      | inl hr => exact h.positive r hr hactive
      | inr hr => simpa [List.mem_singleton.mp hr,hq] using hpositive
    · have hreserved := h.reserved
      simp [held,hq]
      omega
    · show quant.reservedQuantity+q≤quant.quantity
      omega
  · simp [hsuccess] at hok

theorem activeReservation_eq_some {id : String} {r : WmsFlowReservation} :
    activeReservation state id=some r ↔
      state.reservations.find? (·.id=id)=some r ∧ r.status=.ACTIVE := by
  simp [activeReservation,Option.filter_eq_some_iff]

theorem held_take {r : WmsFlowReservation} {q : ℤ} {finished : ReservationStatus}
    (hactive : r.status=.ACTIVE) : held (r.take q finished)=held r-q := by
  unfold held WmsFlowReservation.take
  by_cases hleft : r.quantity-q=0
  · by_cases hfinished : finished=.ACTIVE
    · simp [hactive,hfinished]
    · simp [hleft,hactive,hfinished]
  · simp [hleft,hactive]

theorem take_reservation {id : String} {r : WmsFlowReservation} {q : ℤ}
    {finished : ReservationStatus} (h : state.Balanced quant line supply)
    (hr : activeReservation state id=some r) (hle : q≤r.quantity) (hfinished : finished≠.ACTIVE) :
    (∀ r∈mutateFirst (·.id=id) (·.take q finished) state.reservations, r.stockQuantId="quant-1") ∧
      (∀ r∈mutateFirst (·.id=id) (·.take q finished) state.reservations,
        r.status=.ACTIVE → 0 < r.quantity) ∧
      quant.reservedQuantity-q=
        ((mutateFirst (·.id=id) (·.take q finished) state.reservations).map held).sum := by
  obtain ⟨hfind,hactive⟩ := activeReservation_eq_some.mp hr
  have hmem := List.mem_of_find?_eq_some hfind
  refine ⟨?_,?_,?_⟩
  · intro x hx
    cases mem_mutateFirst hx with
    | inl hx => exact h.onQuant x hx
    | inr hx =>
      obtain ⟨a,ha,rfl⟩ := hx
      exact h.onQuant a (List.mem_of_find?_eq_some ha)
  · intro x hx hstatus
    cases mem_mutateFirst hx with
    | inl hx => exact h.positive x hx hstatus
    | inr hx =>
      obtain ⟨a,ha,rfl⟩ := hx
      obtain rfl : r=a := Option.some.inj (hfind.symm.trans ha)
      unfold WmsFlowReservation.take at hstatus ⊢
      by_cases hleft : r.quantity-q=0
      · exact absurd (by simpa [hleft] using hstatus) hfinished
      · show 0 < r.quantity-q
        omega
  · rw [sum_mutateFirst held hfind,held_take hactive,← h.reserved]
    omega

theorem find_quant {id : String} {r : WmsFlowReservation} (h : state.Balanced quant line supply)
    (hr : activeReservation state id=some r) : quant.id=r.stockQuantId := by
  have hmem := List.mem_of_find?_eq_some (activeReservation_eq_some.mp hr).1
  rw [h.quantId,h.onQuant r hmem]

theorem taken_eq_some {quantity : Number} {limit q : ℤ} :
    (positiveInteger quantity).filter (·≤limit)=some q ↔ (quantity=some q ∧ 0 < q) ∧ q≤limit := by
  simp [Option.filter_eq_some_iff]

theorem pickFlowReservation_balanced {id : String} {quantity : Number}
    (h : state.Balanced quant line supply) (hok : pickFlowReservation state id quantity=.ok next) :
    ∃ quant' line', next.Balanced quant' line' supply ∧ line'.orderedQuantity=line.orderedQuantity := by
  unfold pickFlowReservation at hok
  cases hr : activeReservation state id with
  | none => simp [hr] at hok
  | some r =>
    cases hq : (positiveInteger quantity).filter (·≤r.quantity) with
    | none => simp [hr,hq] at hok
    | some q =>
      obtain ⟨⟨_,hpositive⟩,hle⟩ := taken_eq_some.mp hq
      have hid := find_quant h hr
      have hquant : state.stockQuants.find? (·.id=r.stockQuantId)=some quant := by
        simp [h.stockQuants,hid]
      cases hline : state.outboundOrderLines.find? (·.sku=quant.sku) with
      | none => simp [hr,hq,hquant,hline] at hok
      | some found =>
        have hsku : found.sku=quant.sku := of_decide_eq_true (List.find?_some hline :)
        have hmem := List.mem_of_find?_eq_some hline
        rw [h.outboundOrderLines,List.mem_singleton] at hmem
        subst hmem
        simp only [hr,hq,hquant,hline] at hok
        by_cases hstock : quant.quantity < q ∨ quant.reservedQuantity < q
        · simp [hstock] at hok
        · by_cases hordered : found.orderedQuantity < found.pickedQuantity+q
          · simp [hstock,hordered] at hok
          · rw [if_neg hstock,if_neg hordered,Except.ok.injEq] at hok
            subst hok
            obtain ⟨honQuant,hactive,hsum⟩ := take_reservation h hr hle
              (by decide : ReservationStatus.PICKED≠.ACTIVE)
            have honHand := h.onHand
            have hpicked := h.picked
            have hpacked := h.packed
            have hsupply := h.supply
            refine ⟨quant.change (-q) (-q),{found with pickedQuantity := found.pickedQuantity+q},
              ⟨?_,?_,h.quantId,h.lineId,h.lineNumber,honQuant,hactive,?_,?_,⟨?_,?_⟩,h.onLine,?_,?_⟩,rfl⟩
            · show mutateFirst _ _ state.stockQuants=_
              rw [h.stockQuants]
              exact mutateFirst_singleton (decide_eq_true hid)
            · show mutateFirst _ _ state.outboundOrderLines=_
              rw [h.outboundOrderLines]
              exact mutateFirst_singleton (decide_eq_true hsku)
            · rw [← hsum]
              simp [WmsFlowStockQuant.change]
              omega
            · show quant.reservedQuantity+ -q≤quant.quantity+ -q
              omega
            · show 0≤found.pickedQuantity+q
              omega
            · exact not_lt.mp hordered
            · show (state.packageContents.map (·.quantity)).sum≤found.pickedQuantity+q
              omega
            · show quant.quantity+ -q+(found.pickedQuantity+q)=supply
              omega

theorem releaseShortPickRemainder_balanced {id : String} {quantity : Number}
    (h : state.Balanced quant line supply)
    (hok : releaseShortPickRemainder state id quantity=.ok next) :
    ∃ quant', next.Balanced quant' line supply := by
  unfold releaseShortPickRemainder at hok
  cases hr : activeReservation state id with
  | none => simp [hr] at hok
  | some r =>
    cases hq : (positiveInteger quantity).filter (·≤r.quantity) with
    | none => simp [hr,hq] at hok
    | some q =>
      obtain ⟨⟨_,hpositive⟩,hle⟩ := taken_eq_some.mp hq
      have hid := find_quant h hr
      cases hquant : (state.stockQuants.find? (·.id=r.stockQuantId)).filter
          (q≤·.reservedQuantity) with
      | none => simp [hr,hq,hquant] at hok
      | some _ =>
        simp only [hr,hq,hquant,Except.ok.injEq] at hok
        subst hok
        obtain ⟨honQuant,hactive,hsum⟩ := take_reservation h hr hle
          (by decide : ReservationStatus.RELEASED≠.ACTIVE)
        have honHand := h.onHand
        have hsupply := h.supply
        refine ⟨quant.change 0 (-q),⟨?_,h.outboundOrderLines,h.quantId,h.lineId,h.lineNumber,honQuant,
          hactive,?_,?_,h.picked,h.onLine,h.packed,?_⟩⟩
        · show mutateFirst _ _ state.stockQuants=_
          rw [h.stockQuants]
          exact mutateFirst_singleton (decide_eq_true hid)
        · rw [← hsum]
          simp [WmsFlowStockQuant.change]
          omega
        · show quant.reservedQuantity+ -q≤quant.quantity+0
          omega
        · show quant.quantity+0+line.pickedQuantity=supply
          omega

/-- What the loop leaves: nothing is held any more, and the quant has given up what was. -/
theorem cancelReservations_eq_ok {rs rs' : List WmsFlowReservation} {quant : WmsFlowStockQuant}
    {quants : List WmsFlowStockQuant} (hon : ∀ r∈rs, r.stockQuantId=quant.id)
    (h : cancelReservations rs [quant]=.ok (rs',quants)) :
    (∀ r∈rs', r.stockQuantId=quant.id ∧ r.status≠.ACTIVE) ∧
      ∃ quant', quants=[quant'] ∧ quant'.id=quant.id ∧ quant'.quantity=quant.quantity ∧
        quant'.reservedQuantity=quant.reservedQuantity-(rs.map held).sum := by
  induction rs generalizing quant rs' quants with
  | nil =>
    simp only [cancelReservations,Except.ok.injEq,Prod.mk.injEq] at h
    obtain ⟨rfl,rfl⟩ := h
    exact ⟨by simp,quant,rfl,rfl,rfl,by simp⟩
  | cons r rs ih =>
    have hr := hon r List.mem_cons_self
    have hrest : ∀ r∈rs, r.stockQuantId=quant.id := fun r hr => hon r (List.mem_cons_of_mem _ hr)
    rw [cancelReservations] at h
    by_cases hactive : r.status=.ACTIVE
    · rw [if_neg (not_not_intro hactive)] at h
      cases hquant : ([quant].find? (·.id=r.stockQuantId)).filter
          (r.quantity≤·.reservedQuantity) with
      | none =>
        rw [hquant] at h
        exact absurd h (by simp)
      | some _ =>
        have hquants : mutateFirst (·.id=r.stockQuantId) (·.change 0 (-r.quantity)) [quant]=
            [quant.change 0 (-r.quantity)] := mutateFirst_singleton (decide_eq_true hr.symm)
        rw [hquant,hquants] at h
        cases hdone : cancelReservations rs [quant.change 0 (-r.quantity)] with
        | error e => simp [hdone,Except.map] at h
        | ok done =>
          simp only [hdone,Except.map,Except.ok.injEq,Prod.mk.injEq] at h
          obtain ⟨rfl,rfl⟩ := h
          obtain ⟨hclosed,quant',hquants,hid,hquantity,hreserved⟩ :=
            @ih _ (quant.change 0 (-r.quantity)) _ hrest hdone
          refine ⟨?_,quant',hquants,hid,?_,?_⟩
          · intro x hx
            cases List.mem_cons.mp hx with
            | inl hx =>
              subst hx
              exact ⟨hr,by simp⟩
            | inr hx => exact hclosed x hx
          · rw [hquantity]
            show quant.quantity+0=quant.quantity
            omega
          · rw [hreserved,List.map_cons,List.sum_cons,held,if_pos hactive]
            show quant.reservedQuantity+ -r.quantity-_=_
            omega
    · rw [if_pos hactive] at h
      cases hdone : cancelReservations rs [quant] with
      | error e => simp [hdone,Except.map] at h
      | ok done =>
        simp only [hdone,Except.map,Except.ok.injEq,Prod.mk.injEq] at h
        obtain ⟨rfl,rfl⟩ := h
        obtain ⟨hclosed,quant',hquants,hid,hquantity,hreserved⟩ := ih hrest hdone
        refine ⟨?_,quant',hquants,hid,hquantity,?_⟩
        · intro x hx
          cases List.mem_cons.mp hx with
          | inl hx =>
            subst hx
            exact ⟨hr,hactive⟩
          | inr hx => exact hclosed x hx
        · rw [hreserved,List.map_cons,List.sum_cons,held,if_neg hactive]
          omega

theorem sum_held_closed {rs : List WmsFlowReservation} (h : ∀ r∈rs, r.status≠.ACTIVE) :
    (rs.map held).sum=0 := by
  induction rs with
  | nil => rfl
  | cons r rs ih =>
    rw [List.map_cons,List.sum_cons,ih fun r hr => h r (List.mem_cons_of_mem _ hr),held,
      if_neg (h r List.mem_cons_self)]
    rfl

theorem cancelFlowReservations_balanced (h : state.Balanced quant line supply)
    (hok : cancelFlowReservations state=.ok next) : ∃ quant', next.Balanced quant' line supply := by
  unfold cancelFlowReservations at hok
  rw [h.stockQuants] at hok
  cases hdone : cancelReservations state.reservations [quant] with
  | error e => simp [hdone,Except.map] at hok
  | ok done =>
    simp only [hdone,Except.map,Except.ok.injEq] at hok
    subst hok
    have hon : ∀ r∈state.reservations, r.stockQuantId=quant.id := by
      intro r hr
      rw [h.quantId,h.onQuant r hr]
    obtain ⟨hclosed,quant',hquants,hid,hquantity,hreserved⟩ := cancelReservations_eq_ok hon hdone
    have hnothing := sum_held_closed fun r hr => (hclosed r hr).2
    have hzero : quant'.reservedQuantity=0 := by
      rw [hreserved,h.reserved]
      omega
    have hnonneg := h.reserved_nonneg
    have honHand := h.onHand
    refine ⟨quant',⟨hquants,h.outboundOrderLines,hid.trans h.quantId,h.lineId,h.lineNumber,?_,?_,?_,?_,
      h.picked,h.onLine,h.packed,?_⟩⟩
    · intro r hr
      rw [(hclosed r hr).1,h.quantId]
    · intro r hr hactive
      exact absurd hactive (hclosed r hr).2
    · rw [hzero,hnothing]
    · omega
    · rw [hquantity]
      exact h.supply

theorem replenishFlowPickFace_balanced {quantity : Number} (h : state.Balanced quant line supply)
    (hok : replenishFlowPickFace state quantity=.ok next) :
    ∃ quant', next.Balanced quant' line (supply+(positiveInteger quantity).getD 0) := by
  unfold replenishFlowPickFace at hok
  rw [h.stockQuants] at hok
  cases hq : positiveInteger quantity with
  | none => simp [hq] at hok
  | some q =>
    have hpositive := (positiveInteger_eq_some.mp hq).2
    simp only [hq,Except.ok.injEq] at hok
    subst hok
    have honHand := h.onHand
    have hsupply := h.supply
    refine ⟨quant.change q 0,⟨rfl,h.outboundOrderLines,h.quantId,h.lineId,h.lineNumber,h.onQuant,
      h.positive,?_,?_,h.picked,h.onLine,h.packed,?_⟩⟩
    · have hreserved := h.reserved
      simp [WmsFlowStockQuant.change]
      omega
    · show quant.reservedQuantity+0≤quant.quantity+q
      omega
    · show quant.quantity+q+line.pickedQuantity=supply+q
      omega

section Pack
open PackingPlan

theorem resolvePackingLine_one {l : PackingOrderLineInput} {content : PackageContentInputDto}
    (hid : l.id="line-1".toList) (hnumber : l.lineNumber=some "1".toList)
    (hreference : content.outboundOrderLineReference=some "1".toList) :
    resolvePackingLine lang [l] content=.line l := by
  have htrim : trim "1".toList="1".toList := by decide
  have hpresent : isPresent "1".toList=true := by decide
  have hother : "line-1".toList≠"1".toList := by decide
  have hfiled : hasNumber lang (normalizeCodeLike lang "1".toList) l=true := by
    unfold hasNumber
    rw [hnumber,Option.any_some,hpresent]
    simp
  have hgiven : (content.outboundOrderLineReference.map trim).filter (·≠[])=some "1".toList := by
    rw [hreference,Option.map_some,htrim]
    rfl
  have hnone : lastWith (·.id="1".toList) [l]=none := by
    rw [lastWith,List.reverse_singleton,List.find?_singleton,hid,if_neg (by simp)]
  have hsome : lastWith (hasNumber lang (normalizeCodeLike lang "1".toList)) [l]=some l := by
    rw [lastWith,List.reverse_singleton,List.find?_singleton,if_pos hfiled]
  unfold resolvePackingLine
  rw [hgiven]
  dsimp only
  rw [hnone,hsome]
  rfl

/-- What the validator passes for the one line: a positive quantity within what is picked and not
packed. -/
theorem validate_one {l : PackingOrderLineInput} {existing : List PackageContentRecord} {q : ℤ}
    {result : PackingValidationResult} (hid : l.id="line-1".toList)
    (hnumber : l.lineNumber=some "1".toList)
    (hresult : validatePackageContentsAgainstPickedQuantities lang [l] existing
      [⟨some "1".toList,l.sku,q,none⟩]=result) (hok : result.ok=true) :
    sumPackageContentsByLine existing l.id+q≤l.pickedQuantity ∧
      ∃ c : ResolvedPackageContentInput, result.resolvedContents=[c] ∧ c.outboundOrderLineId=l.id ∧
        c.quantity=q := by
  subst hresult
  unfold validatePackageContentsAgainstPickedQuantities at hok ⊢
  have hline : resolvePackingLine lang [l] ⟨some "1".toList,l.sku,q,none⟩=.line l :=
    resolvePackingLine_one hid hnumber rfl
  simp only [List.foldl_cons,List.foldl_nil,validateContent,hline] at hok ⊢
  by_cases hq : q≤0
  · simp [hq,Validation.issue] at hok
  · have hfind : lastWith (·.id=l.id) [l]=some l := by simp [lastWith]
    simp only [ne_eq,not_true_eq_false,if_false,hq] at hok ⊢
    have hover : (addQuantity l.id q []).filterMap
        (overPacked [l] (sumPackedQuantitiesByLine existing))=[] := by
      rw [List.isEmpty_iff,List.append_eq_nil_iff] at hok
      exact hok.2
    rw [if_pos hok]
    refine ⟨?_,_,rfl,rfl,rfl⟩
    by_contra hexceeds
    have hshort : l.pickedQuantity-sumPackedQuantitiesByLine existing l.id < 0+q := by
      unfold sumPackedQuantitiesByLine
      omega
    simp [addQuantity,Tallies.upsert,overPacked,hfind] at hover
    omega

end Pack

theorem packFlowOrderLine_balanced {quantity : Number} (h : state.Balanced quant line supply)
    (hok : packFlowOrderLine lang state quantity=.ok next) : next.Balanced quant line supply := by
  unfold packFlowOrderLine at hok
  rw [h.outboundOrderLines] at hok
  dsimp only at hok
  cases hresult : PackingPlan.validatePackageContentsAgainstPickedQuantities lang
      ([line].map packingLine) (state.packageContents.map packedContent)
      [⟨line.lineNumber.toList,line.sku.toList,quantity.getD 0,none⟩] with
  | mk ok issues resolvedContents =>
    rw [hresult] at hok
    cases ok with
    | false => simp at hok
    | true =>
      simp only [Bool.not_true,Bool.false_eq_true,if_false,Except.ok.injEq] at hok
      subst hok
      rw [h.lineNumber] at hresult
      obtain ⟨hfits,c,hc,hid,hq⟩ := validate_one (l := packingLine line)
        (by simp [packingLine,h.lineId]) (by simp [packingLine,h.lineNumber]) hresult rfl
      have hc : resolvedContents=[c] := hc
      have hall : (state.packageContents.map packedContent).filter (fun c =>
          c.outboundOrderLineId=some (packingLine line).id && !(packingLine line).id.isEmpty)=
            state.packageContents.map packedContent := by
        rw [List.filter_eq_self]
        intro c hc
        obtain ⟨content,hcontent,rfl⟩ := List.mem_map.mp hc
        simp [packedContent,packingLine,h.onLine content hcontent,h.lineId]
      have hsum : PackingPlan.sumPackageContentsByLine (state.packageContents.map packedContent)
          (packingLine line).id=(state.packageContents.map (·.quantity)).sum := by
        rw [PackingPlan.sumPackageContentsByLine,hall,List.map_map]
        rfl
      have hpicked : (packingLine line).pickedQuantity=line.pickedQuantity := rfl
      rw [hsum,hpicked,← hq] at hfits
      subst hc
      refine ⟨h.stockQuants,rfl,h.quantId,h.lineId,h.lineNumber,h.onQuant,h.positive,h.reserved,
        h.onHand,h.picked,?_,?_,h.supply⟩
      · intro content hcontent
        cases List.mem_append.mp hcontent with
        | inl hcontent => exact h.onLine content hcontent
        | inr hcontent =>
          rw [List.map_singleton,List.mem_singleton] at hcontent
          subst hcontent
          simp [hid,packingLine,h.lineId]
      · rw [List.map_append,List.sum_append,List.map_singleton,List.map_singleton,List.sum_singleton]
        exact hfits

theorem stageAndShipFlow_balanced (h : state.Balanced quant line supply)
    (hok : stageAndShipFlow state=.ok next) : next.Balanced quant line supply := by
  unfold stageAndShipFlow at hok
  dsimp only at hok
  split at hok
  · exact absurd hok (by simp)
  · rw [Except.ok.injEq] at hok
    subst hok
    exact ⟨h.stockQuants,h.outboundOrderLines,h.quantId,h.lineId,h.lineNumber,h.onQuant,h.positive,
      h.reserved,h.onHand,h.picked,h.onLine,h.packed,h.supply⟩

end Steps

section Main
variable {lang : Language} {state start : WmsFlowState} {quant : WmsFlowStockQuant}
  {line : WmsFlowOrderLine} {supply : ℤ}

/-- What a call brings to the pick face. -/
def replenished : FlowCall → ℤ
  | .replenishFlowPickFace quantity => (positiveInteger quantity).getD 0
  | _ => 0

theorem replenished_error {call : FlowCall} {e : String} (h : state.Balanced quant line supply)
    (herror : perform lang state call=.error e) : replenished call=0 := by
  cases call with
  | replenishFlowPickFace quantity =>
    show (positiveInteger quantity).getD 0=0
    have herror : replenishFlowPickFace state quantity=.error e := herror
    unfold replenishFlowPickFace at herror
    rw [h.stockQuants] at herror
    cases hq : positiveInteger quantity with
    | none => rfl
    | some q => simp [hq] at herror
  | _ => rfl

theorem perform_balanced {next : WmsFlowState} {call : FlowCall}
    (h : state.Balanced quant line supply) (hok : perform lang state call=.ok next) :
    ∃ quant' line', next.Balanced quant' line' (supply+replenished call) ∧
      line'.orderedQuantity=line.orderedQuantity := by
  have hsame : ∀ {q l}, next.Balanced q l supply → next.Balanced q l (supply+0) := by
    intro q l h
    rwa [add_zero]
  cases call with
  | reserveFlowStock quantity reservationId =>
    obtain ⟨quant',h'⟩ := reserveFlowStock_balanced h hok
    exact ⟨quant',line,hsame h',rfl⟩
  | pickFlowReservation reservationId quantity =>
    obtain ⟨quant',line',h',hordered⟩ := pickFlowReservation_balanced h hok
    exact ⟨quant',line',hsame h',hordered⟩
  | releaseShortPickRemainder reservationId shortQuantity =>
    obtain ⟨quant',h'⟩ := releaseShortPickRemainder_balanced h hok
    exact ⟨quant',line,hsame h',rfl⟩
  | cancelFlowReservations =>
    obtain ⟨quant',h'⟩ := cancelFlowReservations_balanced h hok
    exact ⟨quant',line,hsame h',rfl⟩
  | replenishFlowPickFace quantity =>
    obtain ⟨quant',h'⟩ := replenishFlowPickFace_balanced h hok
    exact ⟨quant',line,h',rfl⟩
  | packFlowOrderLine quantity =>
    exact ⟨quant,line,hsame (packFlowOrderLine_balanced h hok),rfl⟩
  | stageAndShipFlow =>
    exact ⟨quant,line,hsame (stageAndShipFlow_balanced h hok),rfl⟩

theorem act_balanced (h : state.Balanced quant line supply) (call : FlowCall) :
    ∃ quant' line', (act lang state call).Balanced quant' line' (supply+replenished call) ∧
      line'.orderedQuantity=line.orderedQuantity := by
  unfold act
  cases hok : perform lang state call with
  | ok next => exact perform_balanced h hok
  | error e =>
    refine ⟨quant,line,?_,rfl⟩
    rw [replenished_error h hok,add_zero]
    exact h

theorem run_balanced (h : state.Balanced quant line supply) (calls : List FlowCall) :
    ∃ quant' line', (Histories.run (act lang) state calls).Balanced quant' line'
      (supply+(calls.map replenished).sum) ∧ line'.orderedQuantity=line.orderedQuantity := by
  induction calls using List.reverseRecOn with
  | nil => exact ⟨quant,line,by simpa using h,rfl⟩
  | append_singleton calls call ih =>
    obtain ⟨quant',line',hbefore,hordered⟩ := ih
    obtain ⟨quant'',line'',hafter,hordered'⟩ := act_balanced hbefore call
    refine ⟨quant'',line'',?_,hordered'.trans hordered⟩
    rw [Histories.run_concat]
    have hsum : ((calls++[call]).map replenished).sum=(calls.map replenished).sum+replenished call := by
      simp
    rw [hsum,← add_assoc]
    exact hafter

theorem activeTotal_checked {rs : List WmsFlowReservation}
    (hon : ∀ r∈rs, r.stockQuantId="quant-1") :
    InvariantChecks.activeTotal (rs.map checkedReservation) "quant-1"=(rs.map held).sum := by
  unfold InvariantChecks.activeTotal
  induction rs with
  | nil => rfl
  | cons r rs ih =>
    have hr := hon r List.mem_cons_self
    have hrest := ih fun r hr => hon r (List.mem_cons_of_mem _ hr)
    rw [List.map_cons,List.map_cons,List.sum_cons,← hrest]
    by_cases hactive : r.status=.ACTIVE
    · have htaken : (decide ((checkedReservation r).status=.ACTIVE) &&
          decide ((checkedReservation r).stockQuantId="quant-1"))=true := by
        simp [checkedReservation,hactive,hr]
      rw [List.filter_cons,if_pos htaken,List.map_cons,List.sum_cons,held,if_pos hactive]
      rfl
    · have hleft : ¬(decide ((checkedReservation r).status=.ACTIVE) &&
          decide ((checkedReservation r).stockQuantId="quant-1"))=true := by
        simp [checkedReservation,hactive]
      rw [List.filter_cons,if_neg hleft,held,if_neg hactive,zero_add]

theorem packedTotal_checked {contents : List WmsFlowPackageContent}
    (hon : ∀ c∈contents, c.outboundOrderLineId=some "line-1") :
    InvariantChecks.packedTotal (contents.map checkedContent) "line-1"=
      (contents.map (·.quantity)).sum := by
  have hall : (contents.map checkedContent).filter (fun c =>
      c.outboundOrderLineId≠"" && c.outboundOrderLineId="line-1")=contents.map checkedContent := by
    rw [List.filter_eq_self]
    intro c hc
    obtain ⟨content,hcontent,rfl⟩ := List.mem_map.mp hc
    simp [checkedContent,hon content hcontent]
  rw [InvariantChecks.packedTotal,hall,List.map_map]
  rfl

theorem WmsFlowState.Balanced.valid (h : state.Balanced quant line supply) :
    validateFlowState state=[] := by
  unfold validateFlowState
  rw [List.append_eq_nil_iff,InvariantChecks.validateStockInvariants_eq_nil,
    InvariantChecks.validatePackingInvariants_eq_nil,h.stockQuants,h.outboundOrderLines]
  refine ⟨⟨?_,?_⟩,?_⟩
  · intro q hq
    rw [List.map_singleton,List.mem_singleton] at hq
    subst hq
    refine ⟨h.reserved_nonneg,h.onHand,?_⟩
    have hid : (checkedQuant quant).id="quant-1" := h.quantId
    rw [hid,activeTotal_checked h.onQuant]
    exact h.reserved
  · intro r hr hactive
    obtain ⟨reservation,hmem,rfl⟩ := List.mem_map.mp hr
    exact h.positive reservation hmem hactive
  · intro l hl
    rw [List.map_singleton,List.mem_singleton] at hl
    subst hl
    refine ⟨h.picked.1,h.picked.2,?_⟩
    have hid : (checkedLine line).id="line-1" := h.lineId
    rw [hid,packedTotal_checked h.onLine]
    exact h.packed

/-- Reservations, picks and packs against what is on hand, ordered and picked; what has been picked
and what is on hand are all that there ever was. -/
structure WmsFlowState.Within (state : WmsFlowState) (orderedQuantity supply : ℤ) : Prop where
  reserved : (state.reservations.map held).sum≤(state.stockQuants.map (·.quantity)).sum
  picked : (state.outboundOrderLines.map (·.pickedQuantity)).sum≤orderedQuantity
  packed : (state.packageContents.map (·.quantity)).sum≤
    (state.outboundOrderLines.map (·.pickedQuantity)).sum
  conserved : (state.stockQuants.map (·.quantity)).sum+
    (state.outboundOrderLines.map (·.pickedQuantity)).sum=supply

theorem WmsFlowState.Balanced.within (h : state.Balanced quant line supply) :
    state.Within line.orderedQuantity supply := by
  have hquants : (state.stockQuants.map (·.quantity)).sum=quant.quantity := by
    simp [h.stockQuants]
  have hlines : (state.outboundOrderLines.map (·.pickedQuantity)).sum=line.pickedQuantity := by
    simp [h.outboundOrderLines]
  refine ⟨?_,?_,?_,?_⟩
  · rw [hquants,← h.reserved]
    exact h.onHand
  · rw [hlines]
    exact h.picked.2
  · rw [hlines]
    exact h.packed
  · rw [hquants,hlines]
    exact h.supply

/-- Three pieces for an order of five, -/
def demoInput : FlowInput where
  onHandQuantity := some 3
  orderedQuantity := some 5

/-- reserved under one id twice. -/
def demoCalls : List FlowCall :=
  [.reserveFlowStock (some 2) (some "r"),.reserveFlowStock (some 1) (some "r"),
   .pickFlowReservation "r" (some 1),.pickFlowReservation "r" (some 1),
   .pickFlowReservation "r" (some 1),.packFlowOrderLine (some 2),.cancelFlowReservations]

end Main

end AardvarkWms.FlowSimulator
