import AardvarkWms.Schema
import AardvarkWms.Tallies

/-! The four checkers of the stock and packing invariants:
`src/inventory/inventory-invariants.helpers.ts`, `src/inventory/wms-invariants.helpers.ts`,
`src/quality/wms-invariants.helpers.ts` and
`src/warehouse-integrity/warehouse-integrity.helpers.ts`. -/
namespace AardvarkWms.InvariantChecks

open Tallies (tally summed)

structure StockQuant where
  id : String
  quantity : ℤ
  reservedQuantity : ℤ
  deriving DecidableEq

structure Reservation where
  id : String
  stockQuantId : String
  quantity : ℤ
  status : ReservationStatus
  deriving DecidableEq

structure OutboundLine where
  id : String
  lineNumber : Option String := none
  orderedQuantity : ℤ
  pickedQuantity : ℤ
  deriving DecidableEq

structure PackageContent where
  id : String
  outboundOrderLineId : String
  quantity : ℤ
  deriving DecidableEq

/-- What the checkers are given; a quantity that is there is never replaced by the `?? 0`. -/
structure Snapshot where
  stockQuants : List StockQuant
  reservations : List Reservation
  outboundOrderLines : List OutboundLine
  packageContents : List PackageContent

structure InventoryInvariantViolation where
  code : String
  entityType : String
  entityId : String
  message : String
  deriving DecidableEq

inductive Severity
  | WARNING | ERROR
  deriving DecidableEq

structure WmsInvariantIssue where
  code : String
  severity : Severity := .ERROR
  message : String
  resourceType : Option String := none
  resourceId : String
  expected : Option ℤ := none
  actual : Option ℤ := none
  deriving DecidableEq

/-- An `if` that pushes. -/
def pushIf {α : Type} (c : Prop) [Decidable c] (issue : α) : List α := if c then [issue] else []

@[simp] theorem pushIf_eq_nil {α : Type} {c : Prop} [Decidable c] {issue : α} :
    pushIf c issue=[] ↔ ¬c := by
  unfold pushIf
  split <;> simp [*]

def statusName : ReservationStatus → String
  | .ACTIVE => "ACTIVE"
  | .PICKED => "PICKED"
  | .RELEASED => "RELEASED"
  | .CANCELLED => "CANCELLED"

def ACTIVE_RESERVATION_STATUSES : List String := ["ACTIVE","ALLOCATED","RESERVED"]

@[simp] theorem statusName_mem {status : ReservationStatus} :
    statusName status∈ACTIVE_RESERVATION_STATUSES ↔ status=.ACTIVE := by
  cases status <;> decide

/-- The last of the rows with an id, as a map from the ids has it. -/
def quantById (quants : List StockQuant) (id : String) : Option StockQuant :=
  quants.reverse.find? (·.id=id)

def lineById (lines : List OutboundLine) (id : String) : Option OutboundLine :=
  lines.reverse.find? (·.id=id)

section Inventory
variable (s : Snapshot)

def reservedByQuant : List (String × ℤ) :=
  tally (·.stockQuantId) (summed (·.quantity))
    (s.reservations.filter fun r => statusName r.status∈ACTIVE_RESERVATION_STATUSES) []

/-- The contents with a line, summed up by line. -/
def packedByLine (contents : List PackageContent) : List (String × ℤ) :=
  tally (·.outboundOrderLineId) (summed (·.quantity)) (contents.filter (·.outboundOrderLineId≠"")) []

def quantViolations (quant : StockQuant) : List InventoryInvariantViolation :=
  pushIf (quant.quantity < 0) ⟨"NEGATIVE_STOCK_QUANTITY","stock_quant",quant.id,
    s!"Stock quant {quant.id} has negative quantity {quant.quantity}."⟩++
  pushIf (quant.reservedQuantity < 0) ⟨"NEGATIVE_RESERVED_QUANTITY","stock_quant",quant.id,
    s!"Stock quant {quant.id} has negative reserved quantity {quant.reservedQuantity}."⟩++
  pushIf (quant.quantity < quant.reservedQuantity) ⟨"RESERVED_EXCEEDS_STOCK","stock_quant",quant.id,
    s!"Stock quant {quant.id} reserves {quant.reservedQuantity}, but only has {quant.quantity}."⟩

def reservationViolations (r : Reservation) : List InventoryInvariantViolation :=
  pushIf (r.quantity < 0) ⟨"NEGATIVE_RESERVATION_QUANTITY","reservation",r.id,
    s!"Reservation {r.id} has negative quantity {r.quantity}."⟩

def totalViolations (entry : String × ℤ) : List InventoryInvariantViolation :=
  match quantById s.stockQuants entry.1 with
  | none => [⟨"RESERVATION_REFERENCES_MISSING_QUANT","stock_quant",entry.1,
      s!"Active reservations reference missing stock quant {entry.1}."⟩]
  | some quant =>
    pushIf (quant.quantity < entry.2) ⟨"ACTIVE_RESERVATIONS_EXCEED_STOCK","stock_quant",entry.1,
      s!"Active reservations total {entry.2}, but stock quantity is {quant.quantity}."⟩

def mismatchViolations (quant : StockQuant) : List InventoryInvariantViolation :=
  let active := (Tallies.get? (reservedByQuant s) quant.id).getD 0
  pushIf (quant.reservedQuantity≠active) ⟨"RESERVED_QUANTITY_MISMATCH","stock_quant",quant.id,
    s!"Stock quant {quant.id} reserved {quant.reservedQuantity}, but active reservations total {active}."⟩

def contentViolations (content : PackageContent) : List InventoryInvariantViolation :=
  pushIf (content.quantity≤0) ⟨"INVALID_PACKAGE_CONTENT_QUANTITY","package_content",content.id,
    s!"Package content {content.id} has invalid quantity {content.quantity}."⟩

def lineViolations (line : OutboundLine) : List InventoryInvariantViolation :=
  let packed := (Tallies.get? (packedByLine s.packageContents) line.id).getD 0
  pushIf (line.pickedQuantity < 0) ⟨"NEGATIVE_PICKED_QUANTITY","outbound_order_line",line.id,
    s!"Outbound line {line.id} has negative picked quantity {line.pickedQuantity}."⟩++
  pushIf (line.orderedQuantity < line.pickedQuantity) ⟨"PICKED_EXCEEDS_ORDERED","outbound_order_line",
    line.id,s!"Outbound line {line.id} picked {line.pickedQuantity}, ordered {line.orderedQuantity}."⟩++
  pushIf (line.pickedQuantity < packed) ⟨"PACKED_EXCEEDS_PICKED","outbound_order_line",line.id,
    s!"Outbound line {line.id} packed {packed}, picked {line.pickedQuantity}."⟩

def findInventoryInvariantViolations : List InventoryInvariantViolation :=
  s.stockQuants.flatMap quantViolations++s.reservations.flatMap reservationViolations++
  (reservedByQuant s).flatMap (totalViolations s)++s.stockQuants.flatMap (mismatchViolations s)++
  s.packageContents.flatMap contentViolations++s.outboundOrderLines.flatMap (lineViolations s)

end Inventory

/-- The active reservations that name a quant, summed up by quant. -/
def activeReservationQuantityByQuant (reservations : List Reservation) : List (String × ℤ) :=
  tally (·.stockQuantId) (summed (·.quantity))
    (reservations.filter fun r => r.status=.ACTIVE && r.stockQuantId≠"") []

def activeReservationIssues (r : Reservation) : List WmsInvariantIssue :=
  if r.status≠.ACTIVE then []
  else
    pushIf (r.quantity≤0)
      {code := "ACTIVE_RESERVATION_NON_POSITIVE_QUANTITY"
       message := "Active reservation quantity must be greater than zero."
       resourceType := some "reservation"
       resourceId := r.id
       expected := some 1
       actual := some r.quantity}++
    pushIf (r.stockQuantId="")
      {code := "ACTIVE_RESERVATION_MISSING_QUANT"
       message := "Active reservation must reference a stock quant."
       resourceType := some "reservation"
       resourceId := r.id}

/-- The checks of a quant, under the names and texts of `wms-invariants.helpers.ts`. -/
def stockQuantIssues (reservations : List Reservation) (quant : StockQuant) :
    List WmsInvariantIssue :=
  let active := (Tallies.get? (activeReservationQuantityByQuant reservations) quant.id).getD 0
  pushIf (quant.quantity < 0)
    {code := "NEGATIVE_QUANT_QUANTITY"
     message := "Stock quant quantity cannot be negative."
     resourceType := some "stock_quant"
     resourceId := quant.id
     expected := some 0
     actual := some quant.quantity}++
  pushIf (quant.reservedQuantity < 0)
    {code := "NEGATIVE_RESERVED_QUANTITY"
     message := "Reserved quantity cannot be negative."
     resourceType := some "stock_quant"
     resourceId := quant.id
     expected := some 0
     actual := some quant.reservedQuantity}++
  pushIf (quant.quantity < quant.reservedQuantity)
    {code := "RESERVED_EXCEEDS_ON_HAND"
     message := "Reserved quantity cannot exceed on-hand quantity."
     resourceType := some "stock_quant"
     resourceId := quant.id
     expected := some quant.quantity
     actual := some quant.reservedQuantity}++
  pushIf (active≠quant.reservedQuantity)
    {code := "RESERVED_QUANTITY_MISMATCH"
     message := "Stock quant reservedQuantity must match the sum of ACTIVE reservations."
     resourceType := some "stock_quant"
     resourceId := quant.id
     expected := some active
     actual := some quant.reservedQuantity}

def validateStockQuantityInvariants (quants : List StockQuant) (reservations : List Reservation) :
    List WmsInvariantIssue :=
  reservations.flatMap activeReservationIssues++quants.flatMap (stockQuantIssues reservations)

def outboundLineIssues (contents : List PackageContent) (line : OutboundLine) :
    List WmsInvariantIssue :=
  let packed := (Tallies.get? (packedByLine contents) line.id).getD 0
  pushIf (line.orderedQuantity < 0)
    {code := "NEGATIVE_ORDERED_QUANTITY"
     message := "Ordered quantity cannot be negative."
     resourceType := some "outbound_order_line"
     resourceId := line.id
     expected := some 0
     actual := some line.orderedQuantity}++
  pushIf (line.pickedQuantity < 0)
    {code := "NEGATIVE_PICKED_QUANTITY"
     message := "Picked quantity cannot be negative."
     resourceType := some "outbound_order_line"
     resourceId := line.id
     expected := some 0
     actual := some line.pickedQuantity}++
  pushIf (line.orderedQuantity < line.pickedQuantity)
    {code := "PICKED_EXCEEDS_ORDERED"
     message := "Picked quantity cannot exceed ordered quantity."
     resourceType := some "outbound_order_line"
     resourceId := line.id
     expected := some line.orderedQuantity
     actual := some line.pickedQuantity}++
  pushIf (line.pickedQuantity < packed)
    {code := "PACKED_EXCEEDS_PICKED"
     message := "Packed quantity cannot exceed picked quantity."
     resourceType := some "outbound_order_line"
     resourceId := line.id
     expected := some line.pickedQuantity
     actual := some packed}

def validateOutboundQuantityInvariants (lines : List OutboundLine) (contents : List PackageContent) :
    List WmsInvariantIssue :=
  lines.flatMap (outboundLineIssues contents)

def validateWmsInvariants (s : Snapshot) : List WmsInvariantIssue :=
  validateStockQuantityInvariants s.stockQuants s.reservations++
    validateOutboundQuantityInvariants s.outboundOrderLines s.packageContents

section Integrity
variable (s : Snapshot)

def errorIssue (code resourceType resourceId message : String) (expected actual : Option ℤ) :
    WmsInvariantIssue :=
  ⟨code,.ERROR,message,some resourceType,resourceId,expected,actual⟩

def integrityQuantIssues (quant : StockQuant) : List WmsInvariantIssue :=
  pushIf (quant.quantity < 0) (errorIssue "NEGATIVE_STOCK_QUANTITY" "stock_quant" quant.id
    "Stock quant quantity cannot be negative." (some 0) (some quant.quantity))++
  pushIf (quant.reservedQuantity < 0) (errorIssue "NEGATIVE_RESERVED_QUANTITY" "stock_quant" quant.id
    "Reserved quantity cannot be negative." (some 0) (some quant.reservedQuantity))++
  pushIf (quant.quantity < quant.reservedQuantity) (errorIssue "RESERVED_EXCEEDS_ON_HAND" "stock_quant"
    quant.id "Reserved quantity cannot exceed on-hand quantity." (some quant.quantity)
    (some quant.reservedQuantity))

def integrityReservationIssues (r : Reservation) : List WmsInvariantIssue :=
  if statusName r.status∉ACTIVE_RESERVATION_STATUSES then []
  else
    pushIf (r.quantity≤0) (errorIssue "ACTIVE_RESERVATION_NON_POSITIVE" "reservation" r.id
      "Active reservation quantity must be positive." (some 1) (some r.quantity))++
    if r.stockQuantId="" then [errorIssue "ACTIVE_RESERVATION_MISSING_QUANT" "reservation" r.id
      "Active reservation must reference a stock quant." none none]
    else pushIf (quantById s.stockQuants r.stockQuantId=none)
      (errorIssue "ACTIVE_RESERVATION_REFERENCES_MISSING_QUANT" "reservation" r.id
        s!"Active reservation references missing stock quant {r.stockQuantId}." none none)

/-- The active reservations of a quant that is there, summed up by quant. -/
def integrityReserved : List (String × ℤ) :=
  tally (·.stockQuantId) (summed (·.quantity)) (s.reservations.filter fun r =>
    statusName r.status∈ACTIVE_RESERVATION_STATUSES && r.stockQuantId≠"" &&
      quantById s.stockQuants r.stockQuantId≠none) []

def integrityMismatchIssues (quant : StockQuant) : List WmsInvariantIssue :=
  let active := (Tallies.get? (integrityReserved s) quant.id).getD 0
  pushIf (active≠quant.reservedQuantity) (errorIssue "RESERVED_QUANTITY_MISMATCH" "stock_quant" quant.id
    "Stock quant reservedQuantity must match the sum of active reservations." (some active)
    (some quant.reservedQuantity))

def validateStock : List WmsInvariantIssue :=
  s.stockQuants.flatMap integrityQuantIssues++s.reservations.flatMap (integrityReservationIssues s)++
    s.stockQuants.flatMap (integrityMismatchIssues s)

def integrityContentIssues (content : PackageContent) : List WmsInvariantIssue :=
  pushIf (content.quantity≤0) (errorIssue "PACKAGE_CONTENT_NON_POSITIVE" "package_content" content.id
    "Package content quantity must be positive." (some 1) (some content.quantity))++
  if content.outboundOrderLineId="" then
    [{code := "PACKAGE_CONTENT_MISSING_LINE"
      severity := .WARNING
      message := "Package content is not linked to an outbound order line."
      resourceType := some "package_content"
      resourceId := content.id}]
  else pushIf (lineById s.outboundOrderLines content.outboundOrderLineId=none)
    (errorIssue "PACKAGE_CONTENT_REFERENCES_MISSING_LINE" "package_content" content.id
      s!"Package content references missing outbound order line {content.outboundOrderLineId}." none
      none)

def integrityPacked : List (String × ℤ) :=
  tally (·.outboundOrderLineId) (summed (·.quantity)) (s.packageContents.filter fun c =>
    c.outboundOrderLineId≠"" && lineById s.outboundOrderLines c.outboundOrderLineId≠none) []

def integrityLineIssues (line : OutboundLine) : List WmsInvariantIssue :=
  let packed := (Tallies.get? (integrityPacked s) line.id).getD 0
  pushIf (line.orderedQuantity < 0) (errorIssue "NEGATIVE_ORDERED_QUANTITY" "outbound_order_line" line.id
    "Ordered quantity cannot be negative." (some 0) (some line.orderedQuantity))++
  pushIf (line.pickedQuantity < 0) (errorIssue "NEGATIVE_PICKED_QUANTITY" "outbound_order_line" line.id
    "Picked quantity cannot be negative." (some 0) (some line.pickedQuantity))++
  pushIf (line.orderedQuantity < line.pickedQuantity) (errorIssue "PICKED_EXCEEDS_ORDERED"
    "outbound_order_line" line.id "Picked quantity cannot exceed ordered quantity."
    (some line.orderedQuantity) (some line.pickedQuantity))++
  pushIf (line.pickedQuantity < packed) (errorIssue "PACKED_EXCEEDS_PICKED" "outbound_order_line" line.id
    "Packed quantity cannot exceed picked quantity." (some line.pickedQuantity) (some packed))

def validateOutboundPacking : List WmsInvariantIssue :=
  s.packageContents.flatMap (integrityContentIssues s)++
    s.outboundOrderLines.flatMap (integrityLineIssues s)

end Integrity

def qualityReservationIssues (r : Reservation) : List WmsInvariantIssue :=
  pushIf (r.status=.ACTIVE ∧ r.quantity≤0)
    {code := "ACTIVE_RESERVATION_NON_POSITIVE_QUANTITY"
     message := "Active reservation quantity must be greater than zero."
     resourceId := r.id
     actual := some r.quantity}

def activeReservedByQuant (reservations : List Reservation) : List (String × ℤ) :=
  tally (·.stockQuantId) (summed (·.quantity)) (reservations.filter (·.status=.ACTIVE)) []

def qualityQuantIssues (reservations : List Reservation) (quant : StockQuant) :
    List WmsInvariantIssue :=
  let active := (Tallies.get? (activeReservedByQuant reservations) quant.id).getD 0
  pushIf (quant.quantity < 0)
    {code := "NEGATIVE_STOCK_QUANTITY"
     message := "Stock quantity cannot be negative."
     resourceId := quant.id
     actual := some quant.quantity}++
  pushIf (quant.reservedQuantity < 0)
    {code := "NEGATIVE_RESERVED_QUANTITY"
     message := "Reserved quantity cannot be negative."
     resourceId := quant.id
     actual := some quant.reservedQuantity}++
  pushIf (quant.quantity < quant.reservedQuantity)
    {code := "RESERVED_EXCEEDS_ON_HAND"
     message := "Reserved quantity cannot exceed on-hand stock."
     resourceId := quant.id
     expected := some quant.quantity
     actual := some quant.reservedQuantity}++
  pushIf (active≠quant.reservedQuantity)
    {code := "RESERVED_QUANTITY_MISMATCH"
     message := "Stock quant reserved quantity must match active reservations."
     resourceId := quant.id
     expected := some active
     actual := some quant.reservedQuantity}

def validateStockInvariants (quants : List StockQuant) (reservations : List Reservation) :
    List WmsInvariantIssue :=
  reservations.flatMap qualityReservationIssues++quants.flatMap (qualityQuantIssues reservations)

def qualityLineIssues (contents : List PackageContent) (line : OutboundLine) :
    List WmsInvariantIssue :=
  let label := line.lineNumber.getD line.id
  let packed := (Tallies.get? (packedByLine contents) line.id).getD 0
  pushIf (line.pickedQuantity < 0 ∨ line.orderedQuantity < 0)
    {code := "NEGATIVE_OUTBOUND_LINE_QUANTITY"
     message := s!"Outbound line {label} has a negative quantity."
     resourceId := line.id}++
  pushIf (line.orderedQuantity < line.pickedQuantity)
    {code := "PICKED_EXCEEDS_ORDERED"
     message := s!"Outbound line {label} picked quantity exceeds ordered quantity."
     resourceId := line.id
     expected := some line.orderedQuantity
     actual := some line.pickedQuantity}++
  pushIf (line.pickedQuantity < packed)
    {code := "PACKED_EXCEEDS_PICKED"
     message := s!"Outbound line {label} packed quantity exceeds picked quantity."
     resourceId := line.id
     expected := some line.pickedQuantity
     actual := some packed}

def validatePackingInvariants (lines : List OutboundLine) (contents : List PackageContent) :
    List WmsInvariantIssue :=
  lines.flatMap (qualityLineIssues contents)

section Sound
variable (s : Snapshot)

/-- What the active reservations take from a quant. -/
def activeTotal (reservations : List Reservation) (id : String) : ℤ :=
  ((reservations.filter fun r => r.status=.ACTIVE && r.stockQuantId=id).map (·.quantity)).sum

/-- What is packed of a line. -/
def packedTotal (contents : List PackageContent) (id : String) : ℤ :=
  ((contents.filter fun c => c.outboundOrderLineId≠"" && c.outboundOrderLineId=id).map
    (·.quantity)).sum

def StockQuant.Sound (reservations : List Reservation) (quant : StockQuant) : Prop :=
  0≤quant.reservedQuantity ∧ quant.reservedQuantity≤quant.quantity ∧
    quant.reservedQuantity=activeTotal reservations quant.id

def OutboundLine.Sound (contents : List PackageContent) (line : OutboundLine) : Prop :=
  0≤line.pickedQuantity ∧ line.pickedQuantity≤line.orderedQuantity ∧
    packedTotal contents line.id≤line.pickedQuantity

/-- The invariants that all four check: of the quants and of the lines. -/
def Snapshot.Sound : Prop :=
  (∀ quant∈s.stockQuants, quant.Sound s.reservations) ∧
    ∀ line∈s.outboundOrderLines, line.Sound s.packageContents

/-- Each reservation has a quant of the snapshot, and each content a line. -/
def Snapshot.Linked : Prop :=
  (∀ r∈s.reservations, ∃ quant∈s.stockQuants, quant.id=r.stockQuantId) ∧
    ∀ c∈s.packageContents, ∃ line∈s.outboundOrderLines, line.id=c.outboundOrderLineId

end Sound

section Totals
variable {s : Snapshot}

theorem filter_and_eq {α : Type} (p q : α → Bool) (xs : List α) :
    (xs.filter p).filter q=xs.filter fun x => p x && q x := by
  rw [List.filter_filter]
  exact List.filter_congr fun x _ => Bool.and_comm _ _

theorem packedByLine_eq (contents : List PackageContent) (id : String) :
    (Tallies.get? (packedByLine contents) id).getD 0=packedTotal contents id := by
  unfold packedByLine packedTotal
  rw [Tallies.getD_get?_tally_summed,filter_and_eq]

theorem activeReservedByQuant_eq (reservations : List Reservation) (id : String) :
    (Tallies.get? (activeReservedByQuant reservations) id).getD 0=activeTotal reservations id := by
  unfold activeReservedByQuant activeTotal
  rw [Tallies.getD_get?_tally_summed,filter_and_eq]

theorem reservedByQuant_eq (id : String) :
    (Tallies.get? (reservedByQuant s) id).getD 0=activeTotal s.reservations id := by
  unfold reservedByQuant activeTotal
  rw [Tallies.getD_get?_tally_summed,filter_and_eq]
  simp only [statusName_mem]

theorem quantById_ne_none {quants : List StockQuant} {id : String} (h : ∃ quant∈quants, quant.id=id) :
    quantById quants id≠none := by
  obtain ⟨quant,hquant,hid⟩ := h
  intro hnone
  exact List.find?_eq_none.mp hnone quant (List.mem_reverse.mpr hquant) (decide_eq_true hid)

theorem lineById_ne_none {lines : List OutboundLine} {id : String} (h : ∃ line∈lines, line.id=id) :
    lineById lines id≠none := by
  obtain ⟨line,hline,hid⟩ := h
  intro hnone
  exact List.find?_eq_none.mp hnone line (List.mem_reverse.mpr hline) (decide_eq_true hid)

/-- Where every active reservation names its quant, leaving out the others changes no total. -/
theorem activeReservationQuantityByQuant_eq {reservations : List Reservation}
    (h : ∀ r∈reservations, r.status=.ACTIVE → r.stockQuantId≠"") (id : String) :
    (Tallies.get? (activeReservationQuantityByQuant reservations) id).getD 0=
      activeTotal reservations id := by
  have hfilter : reservations.filter (fun r => r.status=.ACTIVE && r.stockQuantId≠"")=
      reservations.filter (·.status=.ACTIVE) := by
    refine List.filter_congr fun r hr => ?_
    by_cases hactive : r.status=.ACTIVE
    · simp [hactive,h r hr hactive]
    · simp [hactive]
  unfold activeReservationQuantityByQuant activeTotal
  rw [hfilter,Tallies.getD_get?_tally_summed,filter_and_eq]

theorem integrityReserved_eq (hlinked : s.Linked)
    (h : ∀ r∈s.reservations, r.status=.ACTIVE → r.stockQuantId≠"") (id : String) :
    (Tallies.get? (integrityReserved s) id).getD 0=activeTotal s.reservations id := by
  have hfilter : s.reservations.filter (fun r => statusName r.status∈ACTIVE_RESERVATION_STATUSES &&
      r.stockQuantId≠"" && quantById s.stockQuants r.stockQuantId≠none)=
        s.reservations.filter (·.status=.ACTIVE) := by
    refine List.filter_congr fun r hr => ?_
    have hquant := quantById_ne_none (hlinked.1 r hr)
    by_cases hactive : r.status=.ACTIVE
    · simp [statusName_mem,hactive,h r hr hactive,hquant]
    · simp [statusName_mem,hactive]
  unfold integrityReserved activeTotal
  rw [hfilter,Tallies.getD_get?_tally_summed,filter_and_eq]

theorem integrityPacked_eq (hlinked : s.Linked) (id : String) :
    (Tallies.get? (integrityPacked s) id).getD 0=packedTotal s.packageContents id := by
  have hfilter : s.packageContents.filter (fun c => c.outboundOrderLineId≠"" &&
      lineById s.outboundOrderLines c.outboundOrderLineId≠none)=
        s.packageContents.filter (·.outboundOrderLineId≠"") := by
    refine List.filter_congr fun c hc => ?_
    have hline := lineById_ne_none (hlinked.2 c hc)
    simp [hline]
  unfold integrityPacked packedTotal
  rw [hfilter,Tallies.getD_get?_tally_summed,filter_and_eq]

end Totals

section Clean
variable {s : Snapshot}

/-- Every active reservation is of at least one piece. -/
def ActivePositive (reservations : List Reservation) : Prop :=
  ∀ r∈reservations, r.status=.ACTIVE → 0 < r.quantity

/-- Every active reservation names a quant. -/
def ActiveNamed (reservations : List Reservation) : Prop :=
  ∀ r∈reservations, r.status=.ACTIVE → r.stockQuantId≠""

theorem forall_and {α : Type} {xs : List α} {p q : α → Prop} :
    (∀ x∈xs, p x ∧ q x) ↔ (∀ x∈xs, p x) ∧ ∀ x∈xs, q x :=
  ⟨fun h => ⟨fun x hx => (h x hx).1,fun x hx => (h x hx).2⟩,fun h x hx => ⟨h.1 x hx,h.2 x hx⟩⟩

theorem lines_clean {β : Type} {issues : OutboundLine → List β}
    (h : ∀ line, issues line=[] ↔ line.Sound s.packageContents) :
    s.outboundOrderLines.flatMap issues=[] ↔
      ∀ line∈s.outboundOrderLines, line.Sound s.packageContents := by
  rw [List.flatMap_eq_nil_iff]
  exact forall₂_congr fun line _ => h line

theorem quants_clean {quant : StockQuant} {reservations : List Reservation} {total : ℤ}
    (htotal : total=activeTotal reservations quant.id) :
    (¬quant.quantity < 0 ∧ ¬quant.reservedQuantity < 0 ∧ ¬quant.quantity < quant.reservedQuantity ∧
      ¬total≠quant.reservedQuantity) ↔ quant.Sound reservations := by
  unfold StockQuant.Sound
  omega

theorem findInventoryInvariantViolations_eq_nil (hlinked : s.Linked) :
    findInventoryInvariantViolations s=[] ↔ s.Sound ∧ (∀ r∈s.reservations, 0≤r.quantity) ∧
      ∀ c∈s.packageContents, 0 < c.quantity := by
  have hlines : s.outboundOrderLines.flatMap (lineViolations s)=[] ↔
      ∀ line∈s.outboundOrderLines, line.Sound s.packageContents := by
    refine lines_clean fun line => ?_
    simp only [lineViolations,List.append_eq_nil_iff,pushIf_eq_nil,packedByLine_eq]
    unfold OutboundLine.Sound
    omega
  have hquants : (s.stockQuants.flatMap quantViolations=[] ∧
      s.stockQuants.flatMap (mismatchViolations s)=[]) ↔
        ∀ quant∈s.stockQuants, quant.Sound s.reservations := by
    rw [List.flatMap_eq_nil_iff,List.flatMap_eq_nil_iff,← forall_and]
    refine forall₂_congr fun quant _ => ?_
    simp only [quantViolations,mismatchViolations,List.append_eq_nil_iff,pushIf_eq_nil,
      reservedByQuant_eq]
    unfold StockQuant.Sound
    omega
  have hreservations : s.reservations.flatMap reservationViolations=[] ↔
      ∀ r∈s.reservations, 0≤r.quantity := by
    rw [List.flatMap_eq_nil_iff]
    refine forall₂_congr fun r _ => ?_
    simp only [reservationViolations,pushIf_eq_nil]
    omega
  have hcontents : s.packageContents.flatMap contentViolations=[] ↔
      ∀ c∈s.packageContents, 0 < c.quantity := by
    rw [List.flatMap_eq_nil_iff]
    refine forall₂_congr fun c _ => ?_
    simp only [contentViolations,pushIf_eq_nil]
    omega
  -- a total that fits its quant's reserved quantity is at most what is there
  have htotals : (∀ quant∈s.stockQuants, quant.Sound s.reservations) →
      (reservedByQuant s).flatMap (totalViolations s)=[] := by
    intro hsound
    rw [List.flatMap_eq_nil_iff]
    intro entry hentry
    obtain ⟨⟨r,hr,hkey⟩,htotal⟩ := (Tallies.mem_tally_summed _ _ _ entry).mp hentry
    have hnamed := quantById_ne_none (hlinked.1 r (List.mem_of_mem_filter hr))
    rw [hkey] at hnamed
    unfold totalViolations
    cases hquant : quantById s.stockQuants entry.1 with
    | none => exact absurd hquant hnamed
    | some quant =>
      have hmem := List.mem_reverse.mp (List.mem_of_find?_eq_some hquant)
      have hid : quant.id=entry.1 := of_decide_eq_true (List.find?_some hquant :)
      obtain ⟨_,hle,heq⟩ := hsound quant hmem
      have hactive : entry.2=activeTotal s.reservations quant.id := by
        rw [htotal,filter_and_eq,hid]
        unfold activeTotal
        simp only [statusName_mem]
      rw [pushIf_eq_nil]
      omega
  unfold findInventoryInvariantViolations Snapshot.Sound
  simp only [List.append_eq_nil_iff,hlines,hreservations,hcontents]
  constructor
  · rintro ⟨⟨⟨⟨⟨hown,hr⟩,_⟩,hmismatch⟩,hc⟩,hl⟩
    exact ⟨⟨hquants.mp ⟨hown,hmismatch⟩,hl⟩,hr,hc⟩
  · rintro ⟨⟨hq,hl⟩,hr,hc⟩
    obtain ⟨hown,hmismatch⟩ := hquants.mpr hq
    exact ⟨⟨⟨⟨⟨hown,hr⟩,htotals hq⟩,hmismatch⟩,hc⟩,hl⟩

theorem activeReservationIssues_eq_nil {r : Reservation} : activeReservationIssues r=[] ↔
    (r.status=.ACTIVE → 0 < r.quantity ∧ r.stockQuantId≠"") := by
  unfold activeReservationIssues
  by_cases hactive : r.status=.ACTIVE
  · simp [hactive]
  · simp [hactive]

theorem validateWmsInvariants_eq_nil :
    validateWmsInvariants s=[] ↔ s.Sound ∧ ActivePositive s.reservations ∧ ActiveNamed s.reservations := by
  have hlines : validateOutboundQuantityInvariants s.outboundOrderLines s.packageContents=[] ↔
      ∀ line∈s.outboundOrderLines, line.Sound s.packageContents := by
    refine lines_clean fun line => ?_
    simp only [outboundLineIssues,List.append_eq_nil_iff,pushIf_eq_nil,packedByLine_eq]
    unfold OutboundLine.Sound
    omega
  have hreservations : s.reservations.flatMap activeReservationIssues=[] ↔
      ActivePositive s.reservations ∧ ActiveNamed s.reservations := by
    rw [List.flatMap_eq_nil_iff]
    simp only [activeReservationIssues_eq_nil]
    exact ⟨fun h => ⟨fun r hr ha => (h r hr ha).1,fun r hr ha => (h r hr ha).2⟩,
      fun h r hr ha => ⟨h.1 r hr ha,h.2 r hr ha⟩⟩
  have hquants : ActiveNamed s.reservations →
      (s.stockQuants.flatMap (stockQuantIssues s.reservations)=[] ↔
        ∀ quant∈s.stockQuants, quant.Sound s.reservations) := by
    intro hnamed
    rw [List.flatMap_eq_nil_iff]
    refine forall₂_congr fun quant _ => ?_
    simp only [stockQuantIssues,List.append_eq_nil_iff,pushIf_eq_nil,and_assoc,
      activeReservationQuantityByQuant_eq hnamed]
    exact quants_clean rfl
  unfold validateWmsInvariants validateStockQuantityInvariants Snapshot.Sound
  rw [List.append_eq_nil_iff,List.append_eq_nil_iff,hlines,hreservations]
  constructor
  · rintro ⟨⟨⟨hpositive,hnamed⟩,hq⟩,hl⟩
    exact ⟨⟨(hquants hnamed).mp hq,hl⟩,hpositive,hnamed⟩
  · rintro ⟨⟨hq,hl⟩,hpositive,hnamed⟩
    exact ⟨⟨⟨hpositive,hnamed⟩,(hquants hnamed).mpr hq⟩,hl⟩

theorem validateStockInvariants_eq_nil {quants : List StockQuant} {reservations : List Reservation} :
    validateStockInvariants quants reservations=[] ↔
      (∀ quant∈quants, quant.Sound reservations) ∧ ActivePositive reservations := by
  have hreservations : reservations.flatMap qualityReservationIssues=[] ↔
      ActivePositive reservations := by
    rw [List.flatMap_eq_nil_iff]
    refine forall₂_congr fun r _ => ?_
    simp only [qualityReservationIssues,pushIf_eq_nil,not_and,not_le]
  have hquants : quants.flatMap (qualityQuantIssues reservations)=[] ↔
      ∀ quant∈quants, quant.Sound reservations := by
    rw [List.flatMap_eq_nil_iff]
    refine forall₂_congr fun quant _ => ?_
    simp only [qualityQuantIssues,List.append_eq_nil_iff,pushIf_eq_nil,and_assoc,
      activeReservedByQuant_eq]
    exact quants_clean rfl
  unfold validateStockInvariants
  rw [List.append_eq_nil_iff,hreservations,hquants]
  exact and_comm

theorem validatePackingInvariants_eq_nil {lines : List OutboundLine} {contents : List PackageContent} :
    validatePackingInvariants lines contents=[] ↔ ∀ line∈lines, line.Sound contents := by
  unfold validatePackingInvariants
  rw [List.flatMap_eq_nil_iff]
  refine forall₂_congr fun line _ => ?_
  simp only [qualityLineIssues,List.append_eq_nil_iff,pushIf_eq_nil,packedByLine_eq]
  unfold OutboundLine.Sound
  omega

/-- The quality module's two checkers, one after the other. -/
def qualityIssues (s : Snapshot) : List WmsInvariantIssue :=
  validateStockInvariants s.stockQuants s.reservations++
    validatePackingInvariants s.outboundOrderLines s.packageContents

theorem qualityIssues_eq_nil : qualityIssues s=[] ↔ s.Sound ∧ ActivePositive s.reservations := by
  unfold qualityIssues Snapshot.Sound
  rw [List.append_eq_nil_iff,validateStockInvariants_eq_nil,validatePackingInvariants_eq_nil]
  tauto

/-- The stock and packing part of `evaluateWarehouseIntegritySnapshot`. -/
def integrityIssues (s : Snapshot) : List WmsInvariantIssue := validateStock s++validateOutboundPacking s

theorem integrityReservationIssues_eq_nil (hlinked : s.Linked) {r : Reservation}
    (hr : r∈s.reservations) : integrityReservationIssues s r=[] ↔
      (r.status=.ACTIVE → 0 < r.quantity ∧ r.stockQuantId≠"") := by
  have hquant := quantById_ne_none (hlinked.1 r hr)
  unfold integrityReservationIssues
  by_cases hactive : r.status=.ACTIVE
  · by_cases hempty : r.stockQuantId=""
    · simp [statusName_mem,hactive,hempty]
    · simp [statusName_mem,hactive,hempty,hquant]
  · simp [statusName_mem,hactive]

theorem integrityContentIssues_eq_nil (hlinked : s.Linked) {c : PackageContent}
    (hc : c∈s.packageContents) : integrityContentIssues s c=[] ↔
      0 < c.quantity ∧ c.outboundOrderLineId≠"" := by
  have hline := lineById_ne_none (hlinked.2 c hc)
  unfold integrityContentIssues
  by_cases hempty : c.outboundOrderLineId=""
  · simp [hempty]
  · simp [hempty,hline]

theorem integrityIssues_eq_nil (hlinked : s.Linked) :
    integrityIssues s=[] ↔ s.Sound ∧ ActivePositive s.reservations ∧ ActiveNamed s.reservations ∧
      ∀ c∈s.packageContents, 0 < c.quantity ∧ c.outboundOrderLineId≠"" := by
  have hlines : s.outboundOrderLines.flatMap (integrityLineIssues s)=[] ↔
      ∀ line∈s.outboundOrderLines, line.Sound s.packageContents := by
    refine lines_clean fun line => ?_
    simp only [integrityLineIssues,List.append_eq_nil_iff,pushIf_eq_nil,integrityPacked_eq hlinked]
    unfold OutboundLine.Sound
    omega
  have hreservations : s.reservations.flatMap (integrityReservationIssues s)=[] ↔
      ActivePositive s.reservations ∧ ActiveNamed s.reservations := by
    rw [List.flatMap_eq_nil_iff]
    constructor
    · intro h
      have hboth := fun r hr => (integrityReservationIssues_eq_nil hlinked hr).mp (h r hr)
      exact ⟨fun r hr ha => (hboth r hr ha).1,fun r hr ha => (hboth r hr ha).2⟩
    · intro h r hr
      exact (integrityReservationIssues_eq_nil hlinked hr).mpr fun ha => ⟨h.1 r hr ha,h.2 r hr ha⟩
  have hcontents : s.packageContents.flatMap (integrityContentIssues s)=[] ↔
      ∀ c∈s.packageContents, 0 < c.quantity ∧ c.outboundOrderLineId≠"" := by
    rw [List.flatMap_eq_nil_iff]
    exact forall₂_congr fun c hc => integrityContentIssues_eq_nil hlinked hc
  have hquants : ActiveNamed s.reservations → ((s.stockQuants.flatMap integrityQuantIssues=[] ∧
      s.stockQuants.flatMap (integrityMismatchIssues s)=[]) ↔
        ∀ quant∈s.stockQuants, quant.Sound s.reservations) := by
    intro hnamed
    rw [List.flatMap_eq_nil_iff,List.flatMap_eq_nil_iff,← forall_and]
    refine forall₂_congr fun quant _ => ?_
    simp only [integrityQuantIssues,integrityMismatchIssues,List.append_eq_nil_iff,pushIf_eq_nil,
      and_assoc,integrityReserved_eq hlinked hnamed]
    exact quants_clean rfl
  unfold integrityIssues validateStock validateOutboundPacking Snapshot.Sound
  simp only [List.append_eq_nil_iff,hlines,hreservations,hcontents]
  constructor
  · rintro ⟨⟨⟨hown,hpositive,hnamed⟩,hmismatch⟩,hc,hl⟩
    exact ⟨⟨(hquants hnamed).mp ⟨hown,hmismatch⟩,hl⟩,hpositive,hnamed,hc⟩
  · rintro ⟨⟨hq,hl⟩,hpositive,hnamed,hc⟩
    obtain ⟨hown,hmismatch⟩ := (hquants hnamed).mpr hq
    exact ⟨⟨⟨hown,hpositive,hnamed⟩,hmismatch⟩,hc,hl⟩

end Clean

section Main
variable {s : Snapshot}

/-- The four find a violation, or none of them does. -/
def Snapshot.Agreed (s : Snapshot) : Prop :=
  (findInventoryInvariantViolations s=[] ∧ validateWmsInvariants s=[] ∧ qualityIssues s=[] ∧
    integrityIssues s=[]) ∨
  (findInventoryInvariantViolations s≠[] ∧ validateWmsInvariants s≠[] ∧ qualityIssues s≠[] ∧
    integrityIssues s≠[])

/-- What every one of the four takes for a violation. -/
def Snapshot.Broken (s : Snapshot) : Prop :=
  ¬s.Sound ∨ ∃ r∈s.reservations, r.status=.ACTIVE ∧ r.quantity < 0

/-- Nothing that one of the four takes for a violation and another does not. -/
def Snapshot.Plain (s : Snapshot) : Prop :=
  (∀ r∈s.reservations, 0≤r.quantity ∧ (r.status=.ACTIVE → 0 < r.quantity ∧ r.stockQuantId≠"")) ∧
    ∀ c∈s.packageContents, 0 < c.quantity ∧ c.outboundOrderLineId≠""

/-- An active reservation of nothing, for three of them, and something for the first as well. -/
def Snapshot.BrokenForEach (s : Snapshot) : Prop :=
  (∃ r∈s.reservations, r.status=.ACTIVE ∧ r.quantity=0) ∧
    ((∃ r∈s.reservations, r.quantity < 0) ∨ ∃ c∈s.packageContents, c.quantity≤0)

/-- Four verdicts agree: `sound` is asked for by all, `negative` is refuted by the first only and
`zero` by the other three, `named` and `filled` are asked for by some. -/
theorem verdicts_agree {sound active negative zero named content filled : Prop}
    (hactive : active → negative) (hfilled : filled → ¬content) :
    ((sound ∧ ¬negative ∧ ¬content) ∧ (sound ∧ (¬active ∧ ¬zero) ∧ named) ∧
        (sound ∧ ¬active ∧ ¬zero) ∧ (sound ∧ (¬active ∧ ¬zero) ∧ named ∧ filled) ∨
      ¬(sound ∧ ¬negative ∧ ¬content) ∧ ¬(sound ∧ (¬active ∧ ¬zero) ∧ named) ∧
        ¬(sound ∧ ¬active ∧ ¬zero) ∧ ¬(sound ∧ (¬active ∧ ¬zero) ∧ named ∧ filled)) ↔
      (¬sound ∨ active) ∨ (¬negative ∧ (¬active ∧ ¬zero) ∧ named ∧ filled) ∨
        zero ∧ (negative ∨ content) := by
  by_cases hs : sound
  · by_cases ha : active
    · simp [ha,hactive ha]
    · by_cases hz : zero
      · by_cases hn : negative <;> simp [hs,ha,hz,hn]
      · by_cases hn : negative
        · simp [hs,ha,hz,hn]
        · by_cases hc : content
          · have hempty : ¬filled := fun h => hfilled h hc
            simp [hs,ha,hz,hn,hc,hempty]
          · simp only [hs,ha,hz,hn,hc,not_false_eq_true,and_self,true_and,not_true_eq_false,false_and,
              or_false,false_or]
            exact ⟨fun h => h.2,fun h => ⟨h.1,h⟩⟩
  · simp [hs]

theorem checkers_agree_iff (hlinked : s.Linked) :
    s.Agreed ↔ s.Broken ∨ s.Plain ∨ s.BrokenForEach := by
  unfold Snapshot.Agreed
  rw [ne_eq,ne_eq,ne_eq,ne_eq,findInventoryInvariantViolations_eq_nil hlinked,
    validateWmsInvariants_eq_nil,qualityIssues_eq_nil,integrityIssues_eq_nil hlinked]
  have hplain : s.Plain ↔ (∀ r∈s.reservations, 0≤r.quantity) ∧ ActivePositive s.reservations ∧
      ActiveNamed s.reservations ∧ ∀ c∈s.packageContents, 0 < c.quantity ∧ c.outboundOrderLineId≠"" := by
    constructor
    · intro ⟨hr,hc⟩
      exact ⟨fun r h => (hr r h).1,fun r h ha => ((hr r h).2 ha).1,fun r h ha => ((hr r h).2 ha).2,hc⟩
    · intro ⟨hnonneg,hpositive,hnamed,hc⟩
      exact ⟨fun r h => ⟨hnonneg r h,fun ha => ⟨hpositive r h ha,hnamed r h ha⟩⟩,hc⟩
  have hpositive : ActivePositive s.reservations ↔
      (¬∃ r∈s.reservations, r.status=.ACTIVE ∧ r.quantity < 0) ∧
        ¬∃ r∈s.reservations, r.status=.ACTIVE ∧ r.quantity=0 := by
    constructor
    · intro h
      exact ⟨fun ⟨r,hr,ha,hq⟩ => by have := h r hr ha; omega,fun ⟨r,hr,ha,hq⟩ => by
        have := h r hr ha
        omega⟩
    · intro ⟨hnegative,hzero⟩ r hr ha
      by_contra hq
      have hcases : r.quantity < 0 ∨ r.quantity=0 := by omega
      cases hcases with
      | inl h => exact hnegative ⟨r,hr,ha,h⟩
      | inr h => exact hzero ⟨r,hr,ha,h⟩
  have hnonneg : (∀ r∈s.reservations, 0≤r.quantity) ↔ ¬∃ r∈s.reservations, r.quantity < 0 := by
    push Not
    rfl
  have hcontents : (∀ c∈s.packageContents, 0 < c.quantity) ↔ ¬∃ c∈s.packageContents, c.quantity≤0 := by
    push Not
    rfl
  have hactive : (∃ r∈s.reservations, r.status=.ACTIVE ∧ r.quantity < 0) →
      ∃ r∈s.reservations, r.quantity < 0 := fun ⟨r,hr,_,hq⟩ => ⟨r,hr,hq⟩
  have hlines : (∀ c∈s.packageContents, 0 < c.quantity ∧ c.outboundOrderLineId≠"") →
      ∀ c∈s.packageContents, 0 < c.quantity := fun h c hc => (h c hc).1
  unfold Snapshot.Broken Snapshot.BrokenForEach
  rw [hplain,hpositive,hnonneg]
  rw [hcontents] at hlines ⊢
  exact (verdicts_agree hactive hlines).trans (by rw [and_assoc])

/-- Five pieces on hand and none reserved, with one reservation and one content. -/
def demoSnapshot (reservation content : ℤ) : Snapshot where
  stockQuants := [⟨"quant-1",5,reservation⟩]
  reservations := [⟨"reservation-1","quant-1",reservation,.ACTIVE⟩]
  outboundOrderLines := [⟨"line-1",none,3,3⟩]
  packageContents := [⟨"content-1","line-1",content⟩]

theorem checkers_agree_demo : (demoSnapshot 2 1).Agreed ↔
    (demoSnapshot 2 1).Broken ∨ (demoSnapshot 2 1).Plain ∨ (demoSnapshot 2 1).BrokenForEach :=
  checkers_agree_iff ⟨by decide,by decide⟩

/-- An active reservation of nothing is a violation for three of the four. -/
theorem zero_reservation_divides : ¬∀ s : Snapshot, s.Linked → s.Agreed := by
  intro h
  cases h (demoSnapshot 0 1) ⟨by decide,by decide⟩ with
  | inl hnone => exact absurd hnone.2.1 (by decide +kernel)
  | inr hsome => exact hsome.1 (by decide +kernel)

end Main

end AardvarkWms.InvariantChecks
