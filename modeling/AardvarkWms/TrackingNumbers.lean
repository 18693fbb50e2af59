import AardvarkWms.DocumentNumbers
import AardvarkWms.Texts

/-! Package codes, and the tracking numbers made from them: `src/shipping/shipping.helpers.ts`. -/
namespace AardvarkWms.TrackingNumbers

open Messaging (Str trim)
open Billing (decimal padStart isAlnum)

section Model
variable (lang : Language)

structure ShipmentRecord where
  shipmentNumber : Str
  carrier : Option Str

structure ShipmentPackage where
  packageCode : Str
  trackingNumber : Option Str

/-- What `addPackage` makes a package's code from: the shipment, the packages that it has, and the
code that is asked for. -/
structure AddedPackage where
  shipment : ShipmentRecord
  existing : ℕ
  packageCode : Option Str

def normalizeCode (value : Str) : Str := lang.toUpperCase (trim value)

def makePackageCode (shipmentNumber : Str) (sequence : ℕ) : Str :=
  shipmentNumber++"-PKG-".toList++padStart 3 (decimal sequence)

/-- A letter or a digit of ASCII, and no letter in lower case. -/
def isUpperAlnum (c : Char) : Bool := ('A'≤c && c≤ 'Z') || ('0'≤c && c≤ '9')

/-- The first six letters and digits of the carrier. -/
def carrierPrefix (carrier : Option Str) : Str :=
  let letters := (carrier.map fun c =>
    ((lang.toUpperCase (trim c)).filter isUpperAlnum).take 6).getD []
  if letters=[] then "WMS".toList else letters

/-- The last twelve letters and digits of a code. -/
def codeTail (packageCode : Str) : Str :=
  let letters := packageCode.filter isAlnum
  lang.toUpperCase (letters.drop (letters.length-12))

def makeTrackingNumber (carrier : Option Str) (packageCode : Str) : Str :=
  carrierPrefix lang carrier++ '-'::codeTail lang packageCode

namespace AddedPackage
variable (p : AddedPackage)

def code : Str :=
  normalizeCode lang (p.packageCode.getD (makePackageCode p.shipment.shipmentNumber (p.existing+1)))

/-- The row that `addPackage` creates. -/
def row : ShipmentPackage :=
  ⟨p.code lang,some (makeTrackingNumber lang p.shipment.carrier (p.code lang))⟩

end AddedPackage

/-- The number of the label that `generateLabel` creates. -/
def labelTrackingNumber (requested : Option Str) (pack : Option ShipmentPackage)
    (shipment : ShipmentRecord) : Str :=
  (requested.or (pack.bind (·.trackingNumber))).getD
    (makeTrackingNumber lang shipment.carrier shipment.shipmentNumber)

end Model

section Property
variable (lang : Language)

/-- Two packages with codes of their own have tracking numbers of their own, on their labels too. -/
def Distinct (p q : AddedPackage) : Prop :=
  p.code lang≠q.code lang → (p.row lang).trackingNumber≠(q.row lang).trackingNumber ∧
    labelTrackingNumber lang none (some (p.row lang)) p.shipment≠
      labelTrackingNumber lang none (some (q.row lang)) q.shipment

/-- The carriers differ in their first six letters and digits, or the codes in their last twelve. -/
def ToldApart (p q : AddedPackage) : Prop :=
  carrierPrefix lang p.shipment.carrier≠carrierPrefix lang q.shipment.carrier ∨
    codeTail lang (p.code lang)≠codeTail lang (q.code lang)

end Property

section Numbers
variable {lang : Language}

theorem dash_notMem_carrierPrefix (carrier : Option Str) : '-'∉carrierPrefix lang carrier := by
  have hletters : ∀ s : Str, '-'∉(s.filter isUpperAlnum).take 6 := by
    intro s h
    have hmem := (List.mem_filter.mp (List.mem_of_mem_take h)).2
    exact absurd hmem (by decide)
  unfold carrierPrefix
  cases carrier with
  | none =>
    simp only [Option.map_none,Option.getD_none,if_true]
    decide
  | some c =>
    simp only [Option.map_some,Option.getD_some]
    split
    · decide
    · exact hletters _

theorem makeTrackingNumber_inj {carrier carrier' : Option Str} {code code' : Str} :
    makeTrackingNumber lang carrier code=makeTrackingNumber lang carrier' code' ↔
      carrierPrefix lang carrier=carrierPrefix lang carrier' ∧ codeTail lang code=codeTail lang code' := by
  constructor
  · exact Separators.split_first (dash_notMem_carrierPrefix carrier) (dash_notMem_carrierPrefix carrier')
  · intro ⟨hcarrier,htail⟩
    unfold makeTrackingNumber
    rw [hcarrier,htail]

end Numbers

/-- The tracking numbers of two packages of one warehouse. -/
theorem tracking_numbers_distinct_iff (lang : Language) (p q : AddedPackage) :
    Distinct lang p q ↔ p.code lang=q.code lang ∨ ToldApart lang p q := by
  have hrow : (p.row lang).trackingNumber=(q.row lang).trackingNumber ↔ ¬ToldApart lang p q := by
    unfold ToldApart
    push Not
    exact Option.some_inj.trans makeTrackingNumber_inj
  have hlabel : labelTrackingNumber lang none (some (p.row lang)) p.shipment=
      labelTrackingNumber lang none (some (q.row lang)) q.shipment ↔ ¬ToldApart lang p q := by
    unfold ToldApart
    push Not
    exact makeTrackingNumber_inj
  unfold Distinct
  rw [ne_eq,ne_eq,ne_eq,hrow,hlabel,not_not,and_self,imp_iff_not_or,not_not]

def demoPackage (packageCode : String) : AddedPackage :=
  ⟨⟨"SHP-1".toList,some "DPD".toList⟩,0,some packageCode.toList⟩

/-- The dash of a code is not in the tracking number. -/
theorem dash_dropped : ¬∀ (lang : Language) (p q : AddedPackage), Distinct lang p q := by
  intro h
  have hdistinct := h .ascii (demoPackage "BOX-1") (demoPackage "BOX1") (by decide)
  exact hdistinct.1 (by decide)

end AardvarkWms.TrackingNumbers
