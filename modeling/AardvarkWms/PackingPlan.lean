import AardvarkWms.Tallies
import AardvarkWms.Texts

/-! The packing plan of an order's shipment and its validator, with the references as they are
written: `src/shipping/shipping.service.ts` and `src/shipping/shipping.helpers.ts`. -/
namespace AardvarkWms.PackingPlan

open Messaging (Str trim)

structure PackageContentRecord where
  outboundOrderLineId : Option Str
  quantity : ℤ

/-- A requested content, as the service and as the validator take it. -/
structure PackageContentInputDto where
  outboundOrderLineReference : Option Str
  sku : Str
  quantity : ℤ
  metadata : Option Json := none

section Service

structure OutboundOrderLineRecord where
  id : Str
  lineNumber : Str
  sku : Str
  orderedQuantity : ℤ
  pickedQuantity : ℤ

structure PlannedPackageContent where
  outboundOrderLineId : Str
  sku : Str
  quantity : ℤ
  metadata : Option Json

variable (lang : Language)

def normalizeCode (value : Str) : Str := lang.toUpperCase (trim value)

def normalizeNullableString (value : Option Str) : Option Str := (value.map trim).filter (·≠[])

/-- A content without a line is left out. -/
def sumPackageContentsByLine (contents : List PackageContentRecord) (lineId : Str) : ℤ :=
  ((contents.filter fun c => c.outboundOrderLineId=some lineId && !lineId.isEmpty).map
    (·.quantity)).sum

/-- What has been planned for a line. -/
def newlyPacked (planned : List PlannedPackageContent) (lineId : Str) : ℤ :=
  ((planned.filter (·.outboundOrderLineId=lineId)).map (·.quantity)).sum

def resolvePackageContentLine (orderLines : List OutboundOrderLineRecord)
    (content : PackageContentInputDto) : Except String OutboundOrderLineRecord :=
  match normalizeNullableString content.outboundOrderLineReference with
  | some reference =>
    let name := String.ofList reference
    match orderLines.find? fun line => line.id=reference || line.lineNumber=reference with
    | some line => .ok line
    | none => .error s!"Outbound order line {name} was not found"
  | none =>
    let sku := String.ofList (normalizeCode lang content.sku)
    match orderLines.filter fun line =>
      normalizeCode lang line.sku=normalizeCode lang content.sku with
    | [line] => .ok line
    | [] => .error s!"No outbound line was found for SKU {sku}"
    | _ => .error
        s!"Multiple outbound lines use SKU {sku}; outboundOrderLineReference is required"

/-- One content, where `planned` are those before it. -/
def planContent (orderLines : List OutboundOrderLineRecord) (alreadyPackedByLine : Str → ℤ)
    (planned : List PlannedPackageContent) (content : PackageContentInputDto) :
    Except String PlannedPackageContent := do
  let line ← resolvePackageContentLine lang orderLines content
  let normalizedSku := normalizeCode lang content.sku
  let number := String.ofList line.lineNumber
  let sku := String.ofList normalizedSku
  let requested := content.quantity
  let remainingPickedQuantity :=
    line.pickedQuantity-alreadyPackedByLine line.id-newlyPacked planned line.id
  let remaining := max remainingPickedQuantity 0
  if normalizeCode lang line.sku≠normalizedSku then
    .error (s!"Package content SKU {sku} does not match outbound line {number}")
  else if line.pickedQuantity≤0 then
    .error (s!"Outbound line {number} has no picked quantity to pack")
  else if remainingPickedQuantity < requested then .error (
    s!"Package content for line {number} exceeds picked quantity. Requested {requested}, remaining picked quantity {remaining}.")
  else .ok ⟨line.id,normalizedSku,content.quantity,content.metadata⟩

def planContents (orderLines : List OutboundOrderLineRecord) (alreadyPackedByLine : Str → ℤ) :
    List PackageContentInputDto → List PlannedPackageContent →
      Except String (List PlannedPackageContent)
  | [], planned => .ok planned
  | content::contents, planned => do
    let next ← planContent lang orderLines alreadyPackedByLine planned content
    planContents orderLines alreadyPackedByLine contents (planned++[next])

/-- The plan for a shipment of an order. -/
def buildPackageContentPlan (orderLines : List OutboundOrderLineRecord)
    (existingContents : List PackageContentRecord) (rawContents : List PackageContentInputDto) :
    Except String (List PlannedPackageContent) :=
  if rawContents.isEmpty then
    .error "Package contents are required for outbound-order shipments"
  else if orderLines.isEmpty then .error "Outbound order has no packable lines"
  else planContents lang orderLines (sumPackageContentsByLine existingContents) rawContents []

end Service

section Validator

structure PackingOrderLineInput where
  id : Str
  lineNumber : Option Str
  sku : Str
  orderedQuantity : ℤ
  pickedQuantity : ℤ

inductive PackingIssueCode
  | NO_CONTENTS | UNKNOWN_LINE | AMBIGUOUS_SKU | SKU_MISMATCH | INVALID_LINE_QUANTITY
  | OVER_PACKED | LINE_PICKED_EXCEEDS_ORDERED
  deriving DecidableEq

structure PackingValidationIssue where
  code : PackingIssueCode
  message : String
  outboundOrderLineId : Option Str := none
  sku : Option Str := none

structure ResolvedPackageContentInput where
  outboundOrderLineId : Str
  sku : Str
  quantity : ℤ
  metadata : Option Json
  remainingPickedQuantity : ℤ
  alreadyPackedQuantity : ℤ

structure PackingValidationResult where
  ok : Bool
  issues : List PackingValidationIssue
  resolvedContents : List ResolvedPackageContentInput

/-- What a content is resolved to. -/
inductive PackingLine
  | line (l : PackingOrderLineInput)
  | ambiguousSku
  | unknown

variable (lang : Language)

def normalizeCodeLike (value : Str) : Str := lang.toUpperCase (trim value)

def isPresent (value : Str) : Bool := trim value≠[]

/-- A map from a key to the last line that has it. -/
def lastWith (has : PackingOrderLineInput → Bool) (lines : List PackingOrderLineInput) :
    Option PackingOrderLineInput := lines.reverse.find? has

/-- The line is filed under this number. -/
def hasNumber (key : Str) (line : PackingOrderLineInput) : Bool :=
  line.lineNumber.any fun number => isPresent number && normalizeCodeLike lang number=key

def resolvePackingLine (lines : List PackingOrderLineInput) (content : PackageContentInputDto) :
    PackingLine :=
  match (content.outboundOrderLineReference.map trim).filter (·≠[]) with
  | some reference =>
    match lastWith (·.id=reference) lines <|>
        lastWith (hasNumber lang (normalizeCodeLike lang reference)) lines with
    | some line => .line line
    | none => .unknown
  | none =>
    match lines.filter fun line =>
      normalizeCodeLike lang line.sku=normalizeCodeLike lang content.sku with
    | [] => .unknown
    | [line] => .line line
    | _ => .ambiguousSku

def sumPackedQuantitiesByLine (contents : List PackageContentRecord) (lineId : Str) : ℤ :=
  sumPackageContentsByLine contents lineId

/-- A map from lines to quantities, in the order in which the lines came. -/
def addQuantity (lineId : Str) (quantity : ℤ) (m : List (Str × ℤ)) : List (Str × ℤ) :=
  Tallies.upsert lineId (fun requested => requested.getD 0+quantity) m

/-- What the validator's loop has found. -/
structure Validation where
  issues : List PackingValidationIssue
  resolvedContents : List ResolvedPackageContentInput
  requestedByLineId : List (Str × ℤ)

def Validation.issue (v : Validation) (i : PackingValidationIssue) : Validation :=
  {v with issues := v.issues++[i]}

def validateContent (lines : List PackingOrderLineInput) (alreadyPackedByLineId : Str → ℤ)
    (v : Validation) (content : PackageContentInputDto) : Validation :=
  let sku := String.ofList content.sku
  match resolvePackingLine lang lines content with
  | .unknown => v.issue ⟨.UNKNOWN_LINE,
      s!"Package content SKU {sku} does not match an outbound order line.",none,content.sku⟩
  | .ambiguousSku => v.issue ⟨.AMBIGUOUS_SKU,
      s!"Package content SKU {sku} matches multiple order lines; provide outboundOrderLineReference.",
      none,content.sku⟩
  | .line line =>
    let lineSku := String.ofList line.sku
    if normalizeCodeLike lang content.sku≠normalizeCodeLike lang line.sku then
      v.issue ⟨.SKU_MISMATCH,
        s!"Package content SKU {sku} does not match line SKU {lineSku}.",line.id,content.sku⟩
    else if content.quantity≤0 then
      v.issue ⟨.INVALID_LINE_QUANTITY,
        s!"Package content quantity must be positive for SKU {sku}.",line.id,content.sku⟩
    else
      let alreadyPackedQuantity := alreadyPackedByLineId line.id
      {v with
        requestedByLineId := addQuantity line.id content.quantity v.requestedByLineId
        resolvedContents := v.resolvedContents++
          [⟨line.id,normalizeCodeLike lang content.sku,content.quantity,content.metadata,
            max 0 (line.pickedQuantity-alreadyPackedQuantity),alreadyPackedQuantity⟩]}

/-- How a line is called in a message. -/
def lineLabel (line : PackingOrderLineInput) : String :=
  String.ofList (line.lineNumber.getD line.id)

def pickedExceedsOrdered (line : PackingOrderLineInput) : Option PackingValidationIssue :=
  let label := lineLabel line
  if line.orderedQuantity < line.pickedQuantity then
    some ⟨.LINE_PICKED_EXCEEDS_ORDERED,
      s!"Line {label} has picked quantity above ordered quantity.",line.id,line.sku⟩
  else none

def overPacked (lines : List PackingOrderLineInput) (alreadyPackedByLineId : Str → ℤ)
    (entry : Str × ℤ) : Option PackingValidationIssue :=
  match lastWith (·.id=entry.1) lines with
  | none => none
  | some line =>
    let label := lineLabel line
    let requestedQuantity := entry.2
    let remainingPickedQuantity := line.pickedQuantity-alreadyPackedByLineId entry.1
    let remaining := max remainingPickedQuantity 0
    if remainingPickedQuantity < requestedQuantity then
      some ⟨.OVER_PACKED,
        s!"Line {label} cannot pack {requestedQuantity}; remaining picked quantity is {remaining}.",
        line.id,line.sku⟩
    else none

def noContents (requestedContents : List PackageContentInputDto) : List PackingValidationIssue :=
  if requestedContents.isEmpty then [⟨.NO_CONTENTS,
    "Outbound shipment packages must include at least one package content row.",none,none⟩]
  else []

def validatePackageContentsAgainstPickedQuantities (lines : List PackingOrderLineInput)
    (existingContents : List PackageContentRecord)
    (requestedContents : List PackageContentInputDto) : PackingValidationResult :=
  let alreadyPackedByLineId := sumPackedQuantitiesByLine existingContents
  let v := requestedContents.foldl (validateContent lang lines alreadyPackedByLineId)
    ⟨noContents requestedContents++lines.filterMap pickedExceedsOrdered,[],[]⟩
  let issues := v.issues++v.requestedByLineId.filterMap (overPacked lines alreadyPackedByLineId)
  ⟨issues.isEmpty,issues,if issues.isEmpty then v.resolvedContents else []⟩

end Validator

end AardvarkWms.PackingPlan
