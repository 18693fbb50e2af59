import AardvarkWms.Texts

/-! What a scanned text is read as: `src/labels/scan-code.helpers.ts`. -/
namespace AardvarkWms.Scans

open Messaging (Str trim)

inductive ScanObjectType
  | LOC | SKU | HU | PARCEL | TASK
  deriving DecidableEq

def ScanObjectType.value : ScanObjectType → String
  | LOC => "LOC"
  | SKU => "SKU"
  | HU => "HU"
  | PARCEL => "PARCEL"
  | TASK => "TASK"

def scanObjectType? (value : Str) : Option ScanObjectType :=
  [.LOC,.SKU,.HU,.PARCEL,.TASK].find? fun t => t.value.toList=value

/-- The values of a GS1 code, each under its application identifier. -/
abbrev ApplicationIdentifiers : Type := List (Str × Str)

def ApplicationIdentifiers.set (ais : ApplicationIdentifiers) (ai content : Str) : ApplicationIdentifiers :=
  (ai,content)::ais.filter fun e => e.1≠ai

def ApplicationIdentifiers.value (ais : ApplicationIdentifiers) (ai : String) : Option Str :=
  (ais.find? fun e => e.1=ai.toList).map (·.2)

structure Gs1ScanCode where
  normalized : Str
  symbologyIdentifier : Option Str
  applicationIdentifiers : ApplicationIdentifiers
  deriving DecidableEq

namespace Gs1ScanCode
variable (c : Gs1ScanCode)

def sscc : Option Str := c.applicationIdentifiers.value "00"
def gtin : Option Str := c.applicationIdentifiers.value "01"

end Gs1ScanCode

structure AardvarkScanCode where
  objectType : ScanObjectType
  warehouseCode : Str
  reference : Str
  deriving DecidableEq

inductive ParsedScanCode
  | AARD1 (code : AardvarkScanCode)
  | GS1 (code : Gs1ScanCode)
  | RAW (value : Str)
  deriving DecidableEq

/-! ### The input of a scanner -/

def groupSeparator : Char := Char.ofNat 29

/-- Each occurrence of the pattern, in either case, becomes a group separator. The number is how many
characters of the last occurrence are still to be passed over. -/
def replaceEach (pattern : Str) : ℕ → Str → Str
  | _,[] => []
  | n+1,_::s => replaceEach pattern n s
  | 0,c::s =>
    if ((c::s).take pattern.length).map Char.toLower=pattern then
      groupSeparator::replaceEach pattern (pattern.length-1) s
    else c::replaceEach pattern 0 s

@[simp] theorem replaceEach_nil (pattern : Str) (n : ℕ) : replaceEach pattern n []=[] := by
  cases n <;> rw [replaceEach]

def dropBreaks : Str → Str
  | [] => []
  | c::s =>
    if c= '\n' || c= '\t' || (c= '\r' && s.head?=some '\n') then dropBreaks s else c::dropBreaks s

def normalizeScannerInput (input : Str) : Str :=
  trim (dropBreaks (replaceEach "<gs>".toList 0 (replaceEach "\\x1d".toList 0
    (replaceEach "\\u001d".toList 0 input))))

/-! ### The system's own codes -/

section Aardvark
variable (lang : Language)

def normalizeSegment (value : Str) : Str := lang.toUpperCase (trim value)

def parseAardvarkCode (input : Str) : Option AardvarkScanCode :=
  match (normalizeScannerInput input).splitOn ':' with
  | system::objectType::warehouse::part::parts =>
    if lang.toUpperCase system="AARD1".toList then
      let warehouseCode := normalizeSegment lang warehouse
      let reference := normalizeSegment lang (":".toList.intercalate (part::parts))
      if warehouseCode=[] || reference=[] then none
      else (scanObjectType? (lang.toUpperCase objectType)).map fun t => ⟨t,warehouseCode,reference⟩
    else none
  | _ => none

def matchesAardvarkWarehouse (code : AardvarkScanCode) (warehouseCode : Str) : Bool :=
  code.warehouseCode=normalizeSegment lang warehouseCode

end Aardvark

/-! ### GS1 element strings -/

structure SupportedAi where
  ai : Str
  fixedLength : Option ℕ
  maxLength : ℕ

def supportedAis : List SupportedAi :=
  [⟨"00".toList,some 18,18⟩,⟨"01".toList,some 14,14⟩,⟨"17".toList,some 6,6⟩,⟨"10".toList,none,20⟩,
   ⟨"21".toList,none,20⟩,⟨"37".toList,none,8⟩]

def isSupportedAi (ai : Str) : Bool := supportedAis.any fun d => d.ai=ai

def extractSymbologyIdentifier (value : Str) : Option Str :=
  match value with
  | b::c::d::_ => if b= ']' && c.isAlphanum && d.isAlphanum then some [b,c,d] else none
  | _ => none

def isLineTerminator (c : Char) : Bool := c.toNat∈[10,13,8232,8233]

/-- What follows a group separator goes, but for one that a line ends after. -/
def beforeSeparator : Str → Str
  | [] => []
  | c::s => if c=groupSeparator && s.all (!isLineTerminator ·) then [] else c::beforeSeparator s

def trimGroupSeparator (value : Str) : Str := trim (beforeSeparator value)

/-- An identifier in parentheses and what follows it up to the next parenthesis, behind an opening one. -/
def parenthesized (s : Str) : Option (Str × Str) :=
  let ai := s.takeWhile Char.isDigit
  let rest := s.drop ai.length
  if 2≤ai.length && ai.length≤4 && rest.head?=some ')' then
    some (ai,trim (rest.tail.takeWhile fun c => c≠ '(' && c≠ ')'))
  else none

/-- No match begins within another, for only its first character is an opening parenthesis. -/
def parseParenthesizedGs1 (ais : ApplicationIdentifiers) : Str → ApplicationIdentifiers
  | [] => ais
  | c::s =>
    match if c= '(' then parenthesized s else none with
    | some (ai,content) =>
      if content≠[] && isSupportedAi ai then
        parseParenthesizedGs1 (ais.set ai (trimGroupSeparator content)) s
      else parseParenthesizedGs1 ais s
    | none => parseParenthesizedGs1 ais s

structure CompactElement where
  ai : Str
  content : List ℕ
  consumed : ℕ

/-- One identifier and its content, in code units as the lengths are. -/
def compactElement (units : List ℕ) : Option CompactElement := do
  let d ← supportedAis.find? fun d => (codeUnits d.ai).isPrefixOf units
  let rest := units.drop d.ai.length
  match d.fixedLength with
  | some n => if (rest.take n).length=n then some ⟨d.ai,rest.take n,d.ai.length+n⟩ else none
  | none =>
    match rest.findIdx? (· = groupSeparator.toNat) with
    | some i => if rest.take i=[] then none else some ⟨d.ai,rest.take i,d.ai.length+i+1⟩
    | none =>
      if rest.take d.maxLength=[] then none
      else some ⟨d.ai,rest.take d.maxLength,d.ai.length+(rest.take d.maxLength).length⟩

/-- The number is how many code units of the last element are still to be passed over. -/
def parseCompactGs1 (ais : ApplicationIdentifiers) : ℕ → List ℕ → ApplicationIdentifiers
  | _,[] => ais
  | n+1,_::units => parseCompactGs1 ais n units
  | 0,u::units =>
    match compactElement (u::units) with
    | some e => parseCompactGs1 (ais.set e.ai (ofCodeUnits e.content)) (e.consumed-1) units
    | none => []

def parseGs1Code (input : Str) : Option Gs1ScanCode :=
  let normalized := normalizeScannerInput input
  let symbologyIdentifier := extractSymbologyIdentifier normalized
  let value := if symbologyIdentifier.isSome then normalized.drop 3 else normalized
  if value=[] then none
  else
    let ais := if value.contains '(' then parseParenthesizedGs1 [] value
      else parseCompactGs1 [] 0 (codeUnits value)
    if ais=[] then none else some ⟨value,symbologyIdentifier,ais⟩

/-- The labels service gives its GS1 reader, which is this one. -/
def parseScanCode (lang : Language) (input : Str) : ParsedScanCode :=
  let value := normalizeScannerInput input
  match parseAardvarkCode lang value with
  | some code => .AARD1 code
  | none =>
    match parseGs1Code value with
    | some code => .GS1 code
    | none => .RAW value

end AardvarkWms.Scans
