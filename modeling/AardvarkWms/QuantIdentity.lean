import AardvarkWms.StockBalances
import AardvarkWms.Texts

/-! The key that finding or creating a quant is locked by:
`src/inventory/stock-quant-identity.helpers.ts`. -/
namespace AardvarkWms.Billing

open Messaging (Str)

section Calendar

theorem dayOfYear {e b : ℤ} (h : 0≤e) (hlt : e < 146097)
    (hb : b=(e-e/1460+e/36524-e/146096)/365) :
    (0≤b ∧ b≤399) ∧ 0≤e-(365*b+b/4-b/100) ∧ e-(365*b+b/4-b/100)≤366 := by
  have hyear : 0≤b ∧ b≤399 := by omega
  have hcenturies : 25*(e/36524)≤e/1460 := by omega
  have hera : e/146096≤1 ∧ 4*(e/146096)≤e/36524 := by omega
  have hleap : b/4≤e/1460 := by omega
  have hlate : b/100≤e/36524 := by
    by_cases hnext : 25*(e/36524+1)≤e/1460 <;> omega
  have hfour : e/1460-1≤b/4 := by omega
  refine ⟨hyear,?_,?_⟩
  · omega
  · omega

theorem civil_parts (d : ℤ) : ∃ era b n : ℤ, (0≤b ∧ b≤399) ∧ (0≤n ∧ n≤366) ∧
    d=era*146097+(365*b+b/4-b/100+n)-719468 ∧
    civil d=
      (let month := if (5*n+2)/153 < 10 then (5*n+2)/153+3 else (5*n+2)/153-9
      (b+era*400+(if month≤2 then 1 else 0),month,n-(153*((5*n+2)/153)+2)/5+1)) := by
  have hera : 0≤d+719468-(d+719468)/146097*146097 ∧
      d+719468-(d+719468)/146097*146097 < 146097 := by omega
  have hparts := dayOfYear hera.1 hera.2 rfl
  exact ⟨_,_,_,hparts.1,hparts.2,by omega,rfl⟩

theorem civil_month (d : ℤ) : 1≤(civil d).2.1 ∧ (civil d).2.1≤12 := by
  obtain ⟨era,b,n,-,hn,-,hcivil⟩ := civil_parts d
  rw [hcivil]
  dsimp only
  split <;> omega

theorem civil_day (d : ℤ) : 1≤(civil d).2.2 ∧ (civil d).2.2≤31 := by
  obtain ⟨era,b,n,-,hn,-,hcivil⟩ := civil_parts d
  rw [hcivil]
  dsimp only
  omega

theorem civil_inj {d d' : ℤ} (h : civil d=civil d') : d=d' := by
  obtain ⟨era,b,n,hb,hn,hd,hcivil⟩ := civil_parts d
  obtain ⟨era',b',n',hb',hn',hd',hcivil'⟩ := civil_parts d'
  rw [hcivil,hcivil',Prod.mk.injEq,Prod.mk.injEq] at h
  obtain ⟨hyear,hmonth,hday⟩ := h
  rw [hmonth] at hyear
  have hmonths : (5*n+2)/153=(5*n'+2)/153 := by
    split at hmonth <;> split at hmonth <;> omega
  have hdays : n=n' := by omega
  have hyears : b+era*400=b'+era'*400 := by omega
  have heras : era=era' := by omega
  have hsame : b=b' := by omega
  rw [hd,hd',heras,hsame,hdays]

/-- The times that a date can be of. -/
def IsTime (t : ℤ) : Prop := -8640000000000000≤t ∧ t≤8640000000000000

variable {t : ℤ}

theorem IsTime.year (h : IsTime t) :
    -1000000 < (civil (utcDay t)).1 ∧ (civil (utcDay t)).1 < 1000000 := by
  have hday : -100000000≤utcDay t ∧ utcDay t≤100000000 := by
    have hlow := h.1
    have hhigh := h.2
    unfold utcDay MS_PER_DAY
    omega
  obtain ⟨era,b,n,hb,hn,hd,hcivil⟩ := civil_parts (utcDay t)
  have hera : -700≤era ∧ era≤700 := by omega
  rw [hcivil]
  dsimp only
  split <;> omega

end Calendar

section IsoDates

/-- A year of four digits. -/
def IsPlainYear (year : ℤ) : Prop := 0≤year ∧ year < 10000

/-- A year of six digits, which has a sign. -/
def farYear (year : ℤ) : Str := (if year < 0 then '-' else '+')::padStart 6 (decimal year.natAbs)

/-- Two days of a month of a year that is not of four digits. -/
def SameFarMonth (t t' : ℤ) : Prop :=
  ¬IsPlainYear (civil (utcDay t)).1 ∧ (civil (utcDay t)).1=(civil (utcDay t')).1 ∧
    (civil (utcDay t)).2.1=(civil (utcDay t')).2.1

variable {t t' : ℤ}

theorem isoDate_plain (h : IsPlainYear (civil (utcDay t)).1) : isoDate t=
    padStart 4 (decimal (civil (utcDay t)).1.toNat)++
      '-'::(padStart 2 (decimal (civil (utcDay t)).2.1.toNat)++
      '-'::padStart 2 (decimal (civil (utcDay t)).2.2.toNat)) := by
  have hmonth := civil_month (utcDay t)
  have hday := civil_day (utcDay t)
  have hplain : 0≤(civil (utcDay t)).1 ∧ (civil (utcDay t)).1 < 10000 := h
  have hyears := @length_padStart 4 (civil (utcDay t)).1.toNat (by omega) (by omega)
  have hmonths := @length_padStart 2 (civil (utcDay t)).2.1.toNat (by omega) (by omega)
  have hdays := @length_padStart 2 (civil (utcDay t)).2.2.toNat (by omega) (by omega)
  simp only [isoDate,if_pos hplain]
  rw [List.append_assoc,List.cons_append]
  apply List.take_of_length_le
  simp [hyears,hmonths,hdays]

theorem length_farYear (h : IsTime t) : (farYear (civil (utcDay t)).1).length=7 := by
  have hyear := h.year
  rw [farYear,List.length_cons,length_padStart (by omega) (by omega)]

/-- The slice cuts the day off. -/
theorem isoDate_far (ht : IsTime t) (h : ¬IsPlainYear (civil (utcDay t)).1) : isoDate t=
    farYear (civil (utcDay t)).1++ '-'::padStart 2 (decimal (civil (utcDay t)).2.1.toNat) := by
  have hmonth := civil_month (utcDay t)
  have hyears := length_farYear ht
  have hmonths := @length_padStart 2 (civil (utcDay t)).2.1.toNat (by omega) (by omega)
  have hplain : ¬(0≤(civil (utcDay t)).1 ∧ (civil (utcDay t)).1 < 10000) := h
  simp only [isoDate,if_neg hplain]
  rw [← farYear,List.take_append_of_le_length (by simp [hyears,hmonths])]
  apply List.take_of_length_le
  simp [hyears,hmonths]

theorem farYear_inj {y y' : ℤ} (h : farYear y=farYear y') : y=y' := by
  unfold farYear at h
  obtain ⟨hsign,hdigits⟩ := List.cons.inj h
  have habs := padStart_inj hdigits
  by_cases hy : y < 0 <;> by_cases hy' : y' < 0
  · omega
  · rw [if_pos hy,if_neg hy'] at hsign
    cases hsign
  · rw [if_neg hy,if_pos hy'] at hsign
    cases hsign
  · omega

/-- Years with a sign and without are told apart by it. -/
theorem padStart_ne_farYear {n : ℕ} (h : n < 10000) (y : ℤ) (s s' : Str) :
    padStart 4 (decimal n)++s≠farYear y++s' := by
  intro hsame
  have hdigits : ∀ d < 10, Nat.digitChar d≠ '-' ∧ Nat.digitChar d≠ '+' := by decide
  have hlength := @length_padStart 4 n (by omega) (by omega)
  cases htext : padStart 4 (decimal n) with
  | nil =>
    rw [htext] at hlength
    cases hlength
  | cons c rest =>
    obtain ⟨d,hd,hc⟩ := @padStart_chars 4 n c (by rw [htext]; exact List.mem_cons_self)
    rw [htext,farYear,List.cons_append,List.cons_append] at hsame
    have hsign := (List.cons.inj hsame).1
    rw [hc] at hsign
    split at hsign
    · exact (hdigits d hd).1 hsign
    · exact (hdigits d hd).2 hsign

theorem isoDate_of_utcDay (h : utcDay t=utcDay t') : isoDate t=isoDate t' := by
  unfold isoDate
  rw [h]

theorem isoDate_plain_inj (h : IsPlainYear (civil (utcDay t)).1)
    (h' : IsPlainYear (civil (utcDay t')).1) (hsame : isoDate t=isoDate t') :
    utcDay t=utcDay t' := by
  rw [isoDate_plain h,isoDate_plain h'] at hsame
  have hyear := Separators.split_first (dash_notMem_padStart _ _) (dash_notMem_padStart _ _) hsame
  have hmonth := Separators.split_first (dash_notMem_padStart _ _) (dash_notMem_padStart _ _)
    hyear.2
  have hyears := padStart_inj hyear.1
  have hmonths := padStart_inj hmonth.1
  have hdays := padStart_inj hmonth.2
  have hlow := h.1
  have hlow' := h'.1
  have hmonth0 := civil_month (utcDay t)
  have hmonth0' := civil_month (utcDay t')
  have hday0 := civil_day (utcDay t)
  have hday0' := civil_day (utcDay t')
  apply civil_inj
  refine Prod.ext ?_ (Prod.ext ?_ ?_)
  · omega
  · omega
  · omega

theorem isoDate_far_inj (ht : IsTime t) (ht' : IsTime t')
    (h : ¬IsPlainYear (civil (utcDay t)).1) (h' : ¬IsPlainYear (civil (utcDay t')).1)
    (hsame : isoDate t=isoDate t') : SameFarMonth t t' := by
  rw [isoDate_far ht h,isoDate_far ht' h'] at hsame
  obtain ⟨hyear,hrest⟩ := List.append_inj hsame
    ((length_farYear ht).trans (length_farYear ht').symm)
  have hmonths := padStart_inj (List.cons.inj hrest).2
  have hmonth := civil_month (utcDay t)
  have hmonth' := civil_month (utcDay t')
  exact ⟨h,farYear_inj hyear,by omega⟩

theorem isoDate_eq_iff (ht : IsTime t) (ht' : IsTime t') :
    isoDate t=isoDate t' ↔ utcDay t=utcDay t' ∨ SameFarMonth t t' := by
  constructor
  · intro hsame
    by_cases h : IsPlainYear (civil (utcDay t)).1
    · by_cases h' : IsPlainYear (civil (utcDay t')).1
      · exact Or.inl (isoDate_plain_inj h h' hsame)
      · rw [isoDate_plain h,isoDate_far ht' h'] at hsame
        have hyear := h.2
        exact absurd hsame (padStart_ne_farYear (by omega) _ _ _)
    · by_cases h' : IsPlainYear (civil (utcDay t')).1
      · rw [isoDate_far ht h,isoDate_plain h'] at hsame
        have hyear := h'.2
        exact absurd hsame.symm (padStart_ne_farYear (by omega) _ _ _)
      · exact Or.inr (isoDate_far_inj ht ht' h h' hsame)
  · intro hday
    cases hday with
    | inl hsame => exact isoDate_of_utcDay hsame
    | inr hfar =>
      obtain ⟨h,hyear,hmonth⟩ := hfar
      rw [isoDate_far ht h,isoDate_far ht' (hyear ▸ h),hyear,hmonth]

end IsoDates

end AardvarkWms.Billing

namespace AardvarkWms.QuantIdentity

open Billing (utcDay isoDate IsTime SameFarMonth)
open Messaging (Str trim isWhiteSpace)
open OrderUpdates (isHex)

/-- What a quant is found or created by. A date may be no time; an input without a handling unit
has none to look for. -/
structure StockQuantIdentityInput where
  warehouseId : Str
  locationId : Str
  skuId : Str
  status : StockQuantStatus
  ownerClientId : Option Str
  lotId : Option Str
  batch : Option Str
  expiry : Option (Option ℤ)
  handlingUnitId : Option (Option Str)

/-- Identifiers have no letters but those of the alphabet. -/
def toLowerCase (s : Str) : Str := s.map Char.toLower

def normalizeIdentityPart (value : Str) : Str := toLowerCase (trim value)

def normalizeNullableUuid (value : Option Str) (sentinel : Str) : Str :=
  match value with
  | none => sentinel
  | some value =>
    let normalized := toLowerCase (trim value)
    if normalized=[] then sentinel else normalized

def normalizeNullableBatch (value : Option Str) : Str :=
  match value with
  | none => "<null-batch>".toList
  | some value => if trim value=[] then "<null-batch>".toList else trim value

def normalizeNullableDate (value : Option (Option ℤ)) : Str :=
  match value with
  | some (some t) => isoDate t
  | _ => "<null-expiry>".toList

def buildStockQuantIdentityKey (input : StockQuantIdentityInput) : Str :=
  Separators.join '|' [
    normalizeIdentityPart input.warehouseId,
    normalizeNullableUuid input.ownerClientId "<null-owner-client>".toList,
    normalizeIdentityPart input.locationId,
    normalizeIdentityPart input.skuId,
    normalizeIdentityPart (StockBalances.statusText input.status),
    normalizeNullableUuid input.lotId "<null-lot>".toList,
    normalizeNullableBatch input.batch,
    normalizeNullableDate input.expiry,
    normalizeNullableUuid input.handlingUnitId.join "<null-handling-unit>".toList]

/-- What every lookup asks of a quant. -/
structure QuantColumns where
  warehouseId : Str
  locationId : Str
  skuId : Str
  status : StockQuantStatus
  ownerClientId : Option Str
  lotId : Option Str
  batch : Option Str
  expiryDate : Option ℤ

structure StockQuant extends QuantColumns where
  handlingUnitId : Option Str

def isUuidText (s : Str) : Bool :=
  s.length=36 && s.zipIdx.all fun x => if x.2∈[8,13,18,23] then x.1= '-' else isHex x.1

/-- The database reads an id whatever the case of its letters, and refuses any other text. -/
def readId (s : Str) : Option Str := if isUuidText s then some (toLowerCase s) else none

def readNullable : Option Str → Option (Option Str)
  | none => some none
  | some s => (readId s).map some

/-- The column has the day only. -/
def readDate : Option (Option ℤ) → Option (Option ℤ)
  | none => some none
  | some time => time.map fun t => some (utcDay t)

/-- The `where` of the lookups but for the handling unit, as the database reads it. -/
def quantIdentityWhere (input : StockQuantIdentityInput) : Option QuantColumns := do
  let warehouseId ← readId input.warehouseId
  let locationId ← readId input.locationId
  let skuId ← readId input.skuId
  let ownerClientId ← readNullable input.ownerClientId
  let lotId ← readNullable input.lotId
  let expiryDate ← readDate input.expiry
  some ⟨warehouseId,locationId,skuId,input.status,ownerClientId,lotId,input.batch,expiryDate⟩

/-- The putaway looks for the handling unit too, the others have none in their `where`. -/
def Finds (input : StockQuantIdentityInput) (quant : StockQuant) : Prop :=
  quantIdentityWhere input=some quant.toQuantColumns ∧
    ∀ unit∈input.handlingUnitId, readNullable unit=some quant.handlingUnitId

def created (input : StockQuantIdentityInput) : Option StockQuant := do
  let columns ← quantIdentityWhere input
  let handlingUnitId ← readNullable input.handlingUnitId.join
  some ⟨columns,handlingUnitId⟩

/-- The quant may be the one found or created. -/
def Takes (input : StockQuantIdentityInput) (quant : StockQuant) : Prop :=
  Finds input quant ∨ created input=some quant

/-- The identifiers of an input. -/
def identifiers (input : StockQuantIdentityInput) : List (Option Str) :=
  [some input.warehouseId,input.ownerClientId,some input.locationId,some input.skuId,input.lotId,
    input.handlingUnitId.join]

/-- Null, blank or the id of a row, with blanks around or without. -/
def IsReference (value : Option Str) : Prop := ∀ s∈value, trim s=[] ∨ isUuidText (trim s)=true

/-- What the callers have: ids of rows, and dates. -/
structure Passed (input : StockQuantIdentityInput) : Prop where
  warehouseId : isUuidText (trim input.warehouseId)=true
  locationId : isUuidText (trim input.locationId)=true
  skuId : isUuidText (trim input.skuId)=true
  references : ∀ value∈identifiers input, IsReference value
  expiry : ∀ t∈input.expiry.join, IsTime t

def IsBlank (batch : Option Str) : Prop := ∀ s∈batch, trim s=[]

/-- Two inputs differ at most in the spelling of no batch, the time of day of the expiry and the
case of identifiers. -/
structure SameButSpelling (a b : StockQuantIdentityInput) : Prop where
  identifiers : (identifiers a).map (·.map toLowerCase)=(identifiers b).map (·.map toLowerCase)
  status : a.status=b.status
  batch : a.batch=b.batch ∨ IsBlank a.batch ∧ IsBlank b.batch
  expiry : a.expiry.map (·.map utcDay)=b.expiry.map (·.map utcDay)

/-- For two inputs the keys are as fine as the lookups. -/
structure AsFine (a b : StockQuantIdentityInput) : Prop where
  locked : (∃ quant, Takes a quant ∧ Takes b quant) →
    buildStockQuantIdentityKey a=buildStockQuantIdentityKey b
  apart : buildStockQuantIdentityKey a=buildStockQuantIdentityKey b → SameButSpelling a b

/-- One input asks for a handling unit and the other takes any. -/
def UnitMissed (a b : StockQuantIdentityInput) : Prop :=
  (∃ columns, quantIdentityWhere a=some columns ∧ quantIdentityWhere b=some columns) ∧
    a.handlingUnitId=none ∧ ∃ s, b.handlingUnitId=some (some s) ∧ isUuidText s=true

/-- The id that a value has, however it is spelt. -/
def named (value : Option Str) : Option Str :=
  (value.map fun s => toLowerCase (trim s)).filter (·≠[])

/-- The batch without blanks around, if there is any. -/
def batchName (batch : Option Str) : Option Str := (batch.map trim).filter (·≠[])

/-- One input has no batch and the other has the text that stands for none. -/
def NamedNull (batch batch' : Option Str) : Prop :=
  batchName batch=none ∧ batchName batch'=some "<null-batch>".toList

/-- Two inputs are of one quant, were it not for how they are spelt. -/
structure Alike (a b : StockQuantIdentityInput) : Prop where
  identifiers : (identifiers a).map named=(identifiers b).map named
  status : a.status=b.status
  batch : batchName a.batch=batchName b.batch ∨ NamedNull a.batch b.batch ∨ NamedNull b.batch a.batch
  expiry : a.expiry.join=none ∧ b.expiry.join=none ∨
    ∃ t t', a.expiry.join=some t ∧ b.expiry.join=some t' ∧ (utcDay t=utcDay t' ∨ SameFarMonth t t')

/-- An id is blank or has blanks around, and is otherwise spelt in the other input. -/
def PaddedIdentifiers (a b : StockQuantIdentityInput) : Prop :=
  (identifiers a).map (·.map toLowerCase)≠(identifiers b).map (·.map toLowerCase)

/-- One batch is the text that stands for none, or they differ in the blanks around. -/
def BatchesMerged (batch batch' : Option Str) : Prop :=
  NamedNull batch batch' ∨ NamedNull batch' batch ∨
    ¬IsBlank batch ∧ batchName batch=batchName batch' ∧ batch≠batch'

/-- One date is no time, or they are of a month of a year that is not of four digits. -/
def ExpiriesMerged (expiry expiry' : Option (Option ℤ)) : Prop :=
  expiry=none ∧ expiry'=some none ∨ expiry=some none ∧ expiry'=none ∨
    ∃ t t', expiry=some (some t) ∧ expiry'=some (some t') ∧ utcDay t≠utcDay t' ∧ SameFarMonth t t'

/-- Two inputs are alike that are not the same. -/
def Merged (a b : StockQuantIdentityInput) : Prop :=
  Alike a b ∧
    (PaddedIdentifiers a b ∨ BatchesMerged a.batch b.batch ∨ ExpiriesMerged a.expiry b.expiry)

section Parts
variable {c : Char} {s : Str} {value value' : Option Str}

theorem isHex_facts (h : isHex c=true) :
    isWhiteSpace c=false ∧ c.toLower≠ '|' ∧ c.toLower≠ '<' := by
  have hascii : c.toNat < 128 := by
    have hlower : c.isDigit=true ∨ c.toLower∈['a','b','c','d','e','f'] := by
      simpa [isHex] using h
    cases hlower with
    | inl hdigit =>
      simp only [Char.isDigit,Bool.and_eq_true,decide_eq_true_eq] at hdigit
      have hnine : c.toNat≤57 := hdigit.2
      omega
    | inr hletter =>
      have hsmall : ['a','b','c','d','e','f'].all (fun d => d.toNat < 128)=true := by decide
      have hlow := of_decide_eq_true (List.all_eq_true.mp hsmall _ hletter)
      unfold Char.toLower at hlow
      split at hlow
      · rename_i hupper
        have hz : c.toNat≤90 := hupper.2
        omega
      · exact hlow
  have hall : ∀ n < 128, (!isHex (Char.ofNat n) || (!isWhiteSpace (Char.ofNat n) &&
      (Char.ofNat n).toLower≠ '|' && (Char.ofNat n).toLower≠ '<'))=true := by
    decide
  have hc := @of_ascii c (fun c => !isHex c || (!isWhiteSpace c && c.toLower≠ '|' && c.toLower≠ '<'))
    hall hascii
  rw [h] at hc
  simpa [and_assoc] using hc

theorem uuid_facts (h : isUuidText s=true) (hc : c∈s) :
    isWhiteSpace c=false ∧ c.toLower≠ '|' ∧ c.toLower≠ '<' := by
  obtain ⟨i,hi,hget⟩ := List.getElem_of_mem hc
  have hchar := List.all_eq_true.mp (Bool.and_eq_true_iff.mp h).2 (s[i],i)
    (List.mem_zipIdx_iff_getElem?.mpr (by simp [hi]))
  rw [hget] at hchar
  by_cases hdash : i∈[8,13,18,23]
  · rw [if_pos hdash,decide_eq_true_eq] at hchar
    have hsign : c= '-' := hchar
    rw [hsign]
    decide
  · rw [if_neg hdash] at hchar
    exact isHex_facts hchar

theorem uuid_trim (h : isUuidText s=true) : trim s=s :=
  trim_solid fun _ hc => (uuid_facts h hc).1

theorem uuid_ne_nil (h : isUuidText s=true) : s≠[] := by
  intro hnil
  rw [hnil] at h
  cases h

theorem named_uuid (h : isUuidText (trim s)=true) : named (some s)=some (toLowerCase (trim s)) := by
  have hne : toLowerCase (trim s)≠[] := mt List.map_eq_nil_iff.mp (uuid_ne_nil h)
  simp [named,Option.filter,hne]

theorem IsReference.named_notMem (h : IsReference value) :
    ∀ s∈named value, '|'∉s ∧ '<'∉s := by
  intro s hs
  cases value with
  | none => cases hs
  | some t =>
    cases h t rfl with
    | inl hblank =>
      rw [named,Option.map_some,hblank] at hs
      cases hs
    | inr hid =>
      rw [named_uuid hid] at hs
      cases hs
      constructor
      · intro hbar
        obtain ⟨c,hc,hlower⟩ := List.mem_map.mp hbar
        exact (uuid_facts hid hc).2.1 hlower
      · intro hbracket
        obtain ⟨c,hc,hlower⟩ := List.mem_map.mp hbracket
        exact (uuid_facts hid hc).2.2 hlower

theorem normalizeNullableUuid_eq (value : Option Str) (sentinel : Str) :
    normalizeNullableUuid value sentinel=(named value).getD sentinel := by
  cases value with
  | none => rfl
  | some s =>
    unfold normalizeNullableUuid named
    by_cases hblank : toLowerCase (trim s)=[] <;> simp [hblank,Option.filter]

theorem IsReference.bar_notMem (h : IsReference value) {sentinel : Str} (hbar : '|'∉sentinel) :
    '|'∉(named value).getD sentinel := by
  cases hname : named value with
  | none => exact hbar
  | some s => exact (h.named_notMem s hname).1

theorem IsReference.part_inj (h : IsReference value) (h' : IsReference value') {sentinel : Str}
    (hbracket : '<'∈sentinel) (hsame : (named value).getD sentinel=(named value').getD sentinel) :
    named value=named value' := by
  cases hname : named value with
  | none =>
    cases hname' : named value' with
    | none => rfl
    | some s' =>
      rw [hname,hname'] at hsame
      exact absurd ((show sentinel=s' from hsame) ▸ hbracket) (h'.named_notMem s' hname').2
  | some s =>
    cases hname' : named value' with
    | none =>
      rw [hname,hname'] at hsame
      exact absurd ((show s=sentinel from hsame).symm ▸ hbracket) (h.named_notMem s hname).2
    | some s' =>
      rw [hname,hname'] at hsame
      exact congrArg some hsame

theorem normalizeNullableBatch_eq (batch : Option Str) :
    normalizeNullableBatch batch=(batchName batch).getD "<null-batch>".toList := by
  cases batch with
  | none => rfl
  | some s =>
    unfold normalizeNullableBatch batchName
    by_cases hblank : trim s=[] <;> simp [hblank,Option.filter]

theorem normalizeNullableBatch_eq_iff {batch batch' : Option Str} :
    normalizeNullableBatch batch=normalizeNullableBatch batch' ↔
      batchName batch=batchName batch' ∨ NamedNull batch batch' ∨ NamedNull batch' batch := by
  rw [normalizeNullableBatch_eq,normalizeNullableBatch_eq]
  unfold NamedNull
  cases batchName batch <;> cases batchName batch' <;> simp [eq_comm]

theorem batchName_none {batch : Option Str} : batchName batch=none ↔ IsBlank batch := by
  cases batch with
  | none => simp [batchName,IsBlank]
  | some s => simp [batchName,IsBlank,Option.filter]

theorem normalizeNullableDate_eq (expiry : Option (Option ℤ)) :
    normalizeNullableDate expiry=(expiry.join.map isoDate).getD "<null-expiry>".toList := by
  rcases expiry with _ | _ | t <;> rfl

theorem bracket_notMem_isoDate (t : ℤ) : '<'∉isoDate t :=
  Billing.notMem_isoDate (by decide) (by decide) (by decide)

theorem isoDate_ne_null (t : ℤ) : isoDate t≠"<null-expiry>".toList := fun h =>
  bracket_notMem_isoDate t (h ▸ by decide)

theorem normalizeNullableDate_eq_iff {expiry expiry' : Option (Option ℤ)}
    (h : ∀ t∈expiry.join, IsTime t) (h' : ∀ t∈expiry'.join, IsTime t) :
    normalizeNullableDate expiry=normalizeNullableDate expiry' ↔
      (expiry.join=none ∧ expiry'.join=none ∨ ∃ t t', expiry.join=some t ∧ expiry'.join=some t' ∧
        (utcDay t=utcDay t' ∨ SameFarMonth t t')) := by
  rw [normalizeNullableDate_eq,normalizeNullableDate_eq]
  cases htime : expiry.join with
  | none =>
    cases htime' : expiry'.join with
    | none => simp
    | some t' => simpa using (isoDate_ne_null t').symm
  | some t =>
    cases htime' : expiry'.join with
    | none => simpa using isoDate_ne_null t
    | some t' => simpa using Billing.isoDate_eq_iff (h t htime) (h' t' htime')

theorem bar_notMem_date (expiry : Option (Option ℤ)) : '|'∉normalizeNullableDate expiry := by
  rw [normalizeNullableDate_eq]
  cases expiry.join with
  | none => decide
  | some t => exact StockBalances.bar_notMem_isoDate t

theorem bar_notMem_status (status : StockQuantStatus) :
    '|'∉normalizeIdentityPart (StockBalances.statusText status) := by
  cases status <;> decide

theorem status_inj {status status' : StockQuantStatus}
    (h : normalizeIdentityPart (StockBalances.statusText status)=
      normalizeIdentityPart (StockBalances.statusText status')) : status=status' := by
  cases status <;> cases status' <;> first | rfl | exact absurd h (by decide)

end Parts

section Equality
variable {a b : StockQuantIdentityInput}

theorem Passed.owner (h : Passed a) : IsReference a.ownerClientId :=
  h.references _ (by simp [identifiers])

theorem Passed.lot (h : Passed a) : IsReference a.lotId :=
  h.references _ (by simp [identifiers])

theorem Passed.unit (h : Passed a) : IsReference a.handlingUnitId.join :=
  h.references _ (by simp [identifiers])

theorem bar_notMem_identityPart (h : isUuidText (trim s)=true) : '|'∉normalizeIdentityPart s := by
  intro hbar
  obtain ⟨c,hc,hlower⟩ := List.mem_map.mp hbar
  exact (uuid_facts h hc).2.1 hlower

theorem identityPart_eq_iff {s' : Str} (h : isUuidText (trim s)=true)
    (h' : isUuidText (trim s')=true) :
    normalizeIdentityPart s=normalizeIdentityPart s' ↔ named (some s)=named (some s') := by
  rw [named_uuid h,named_uuid h',Option.some.injEq]
  rfl

theorem nullable_bar {value : Option Str} (h : IsReference value) {sentinel : Str}
    (hbar : '|'∉sentinel) : '|'∉normalizeNullableUuid value sentinel := by
  rw [normalizeNullableUuid_eq]
  exact h.bar_notMem hbar

theorem nullable_eq_iff {value value' : Option Str} (h : IsReference value)
    (h' : IsReference value') {sentinel : Str} (hbracket : '<'∈sentinel) :
    normalizeNullableUuid value sentinel=normalizeNullableUuid value' sentinel ↔
      named value=named value' := by
  rw [normalizeNullableUuid_eq,normalizeNullableUuid_eq]
  constructor
  · exact h.part_inj h' hbracket
  · intro hsame
    rw [hsame]

theorem key_parts (ha : Passed a) (hb : Passed b)
    (h : buildStockQuantIdentityKey a=buildStockQuantIdentityKey b) :
    normalizeIdentityPart a.warehouseId=normalizeIdentityPart b.warehouseId ∧
    normalizeNullableUuid a.ownerClientId "<null-owner-client>".toList=
      normalizeNullableUuid b.ownerClientId "<null-owner-client>".toList ∧
    normalizeIdentityPart a.locationId=normalizeIdentityPart b.locationId ∧
    normalizeIdentityPart a.skuId=normalizeIdentityPart b.skuId ∧
    normalizeIdentityPart (StockBalances.statusText a.status)=
      normalizeIdentityPart (StockBalances.statusText b.status) ∧
    normalizeNullableUuid a.lotId "<null-lot>".toList=
      normalizeNullableUuid b.lotId "<null-lot>".toList ∧
    normalizeNullableBatch a.batch=normalizeNullableBatch b.batch ∧
    normalizeNullableDate a.expiry=normalizeNullableDate b.expiry ∧
    normalizeNullableUuid a.handlingUnitId.join "<null-handling-unit>".toList=
      normalizeNullableUuid b.handlingUnitId.join "<null-handling-unit>".toList := by
  unfold buildStockQuantIdentityKey at h
  simp only [Separators.join_cons,Separators.join_singleton] at h
  have hwarehouse := Separators.split_first (bar_notMem_identityPart ha.warehouseId)
    (bar_notMem_identityPart hb.warehouseId) h
  have howner := Separators.split_first (nullable_bar ha.owner (by decide))
    (nullable_bar hb.owner (by decide)) hwarehouse.2
  have hlocation := Separators.split_first (bar_notMem_identityPart ha.locationId)
    (bar_notMem_identityPart hb.locationId) howner.2
  have hsku := Separators.split_first (bar_notMem_identityPart ha.skuId)
    (bar_notMem_identityPart hb.skuId) hlocation.2
  have hstatus := Separators.split_first (bar_notMem_status _) (bar_notMem_status _) hsku.2
  have hlot := Separators.split_first (nullable_bar ha.lot (by decide))
    (nullable_bar hb.lot (by decide)) hstatus.2
  -- what is left is the batch, the date and the handling unit
  have hrest := hlot.2
  rw [← List.cons_append,← List.append_assoc,← List.cons_append,← List.append_assoc] at hrest
  have hunit := Separators.split_last (nullable_bar ha.unit (by decide))
    (nullable_bar hb.unit (by decide)) hrest
  have hbatch := Separators.split_last (bar_notMem_date _) (bar_notMem_date _) hunit.1
  exact ⟨hwarehouse.1,howner.1,hlocation.1,hsku.1,hstatus.1,hlot.1,hbatch.1,hbatch.2,hunit.2⟩

theorem identifiers_eq_iff {γ : Type} (f : Option Str → γ) :
    (identifiers a).map f=(identifiers b).map f ↔ f (some a.warehouseId)=f (some b.warehouseId) ∧
      f a.ownerClientId=f b.ownerClientId ∧ f (some a.locationId)=f (some b.locationId) ∧
      f (some a.skuId)=f (some b.skuId) ∧ f a.lotId=f b.lotId ∧
      f a.handlingUnitId.join=f b.handlingUnitId.join := by
  simp [identifiers]

theorem key_eq_iff (ha : Passed a) (hb : Passed b) :
    buildStockQuantIdentityKey a=buildStockQuantIdentityKey b ↔ Alike a b := by
  have hwarehouse := identityPart_eq_iff ha.warehouseId hb.warehouseId
  have hlocation := identityPart_eq_iff ha.locationId hb.locationId
  have hsku := identityPart_eq_iff ha.skuId hb.skuId
  have howner := @nullable_eq_iff _ _ ha.owner hb.owner "<null-owner-client>".toList (by decide)
  have hlot := @nullable_eq_iff _ _ ha.lot hb.lot "<null-lot>".toList (by decide)
  have hunit := @nullable_eq_iff _ _ ha.unit hb.unit "<null-handling-unit>".toList (by decide)
  have hbatch := @normalizeNullableBatch_eq_iff a.batch b.batch
  have hexpiry := normalizeNullableDate_eq_iff ha.expiry hb.expiry
  constructor
  · intro hkey
    obtain ⟨hw,ho,hl,hs,hstatus,hlo,hba,hex,hu⟩ := key_parts ha hb hkey
    exact {
      identifiers := (identifiers_eq_iff named).mpr ⟨hwarehouse.mp hw,howner.mp ho,
        hlocation.mp hl,hsku.mp hs,hlot.mp hlo,hunit.mp hu⟩
      status := status_inj hstatus
      batch := hbatch.mp hba
      expiry := hexpiry.mp hex }
  · intro halike
    obtain ⟨hw,ho,hl,hs,hlo,hu⟩ := (identifiers_eq_iff named).mp halike.identifiers
    unfold buildStockQuantIdentityKey
    rw [hwarehouse.mpr hw,howner.mpr ho,hlocation.mpr hl,hsku.mpr hs,halike.status,hlot.mpr hlo,
      hbatch.mpr halike.batch,hexpiry.mpr halike.expiry,hunit.mpr hu]

end Equality

section Condition
variable {a b : StockQuantIdentityInput} {columns : QuantColumns} {quant : StockQuant}

theorem quantIdentityWhere_eq_some : quantIdentityWhere a=some columns ↔
    readId a.warehouseId=some columns.warehouseId ∧ readId a.locationId=some columns.locationId ∧
    readId a.skuId=some columns.skuId ∧ a.status=columns.status ∧
    readNullable a.ownerClientId=some columns.ownerClientId ∧
    readNullable a.lotId=some columns.lotId ∧ a.batch=columns.batch ∧
    readDate a.expiry=some columns.expiryDate := by
  obtain ⟨w,l,s,status,o,lot,batch,e⟩ := columns
  simp only [quantIdentityWhere,Option.bind_eq_bind,Option.bind_eq_some_iff,Option.some.injEq,
    QuantColumns.mk.injEq]
  constructor
  · rintro ⟨_,hw,_,hl,_,hs,_,ho,_,hlot,_,he,rfl,rfl,rfl,rfl,rfl,rfl,rfl,rfl⟩
    exact ⟨hw,hl,hs,rfl,ho,hlot,rfl,he⟩
  · rintro ⟨hw,hl,hs,rfl,ho,hlot,rfl,he⟩
    exact ⟨_,hw,_,hl,_,hs,_,ho,_,hlot,_,he,rfl,rfl,rfl,rfl,rfl,rfl,rfl,rfl⟩

theorem readNullable_named {value read : Option Str} (h : readNullable value=some read) :
    named value=read := by
  cases value with
  | none => exact Option.some.inj h
  | some s =>
    have hread : (readId s).map some=some read := h
    unfold readId at hread
    by_cases hid : isUuidText s=true
    · rw [if_pos hid,Option.map_some,Option.some.injEq] at hread
      have htrim := uuid_trim hid
      rw [named_uuid (htrim.symm ▸ hid),htrim]
      exact hread
    · rw [if_neg hid] at hread
      cases hread

theorem readId_named {s read : Str} (h : readId s=some read) : named (some s)=some read :=
  readNullable_named (by rw [readNullable,h]; rfl)

theorem finds_of_created (h : created a=some quant) : Finds a quant := by
  unfold created at h
  simp only [Option.bind_eq_bind,Option.bind_eq_some_iff,Option.some.injEq] at h
  obtain ⟨columns,hwhere,unit,hunit,hquant⟩ := h
  rw [← hquant]
  refine ⟨hwhere,fun value hvalue => ?_⟩
  rw [Option.mem_def.mp hvalue] at hunit
  exact hunit

theorem takes_iff : Takes a quant ↔ Finds a quant := by
  constructor
  · intro h
    cases h with
    | inl hfinds => exact hfinds
    | inr hcreated => exact finds_of_created hcreated
  · exact Or.inl

theorem readDate_join {expiry expiry' : Option (Option ℤ)} {day : Option ℤ}
    (h : readDate expiry=some day) (h' : readDate expiry'=some day) :
    expiry.join=none ∧ expiry'.join=none ∨ ∃ t t', expiry.join=some t ∧ expiry'.join=some t' ∧
      (utcDay t=utcDay t' ∨ SameFarMonth t t') := by
  rcases expiry with _ | _ | t <;> rcases expiry' with _ | _ | t' <;>
    simp [readDate] at h h' ⊢
  · rw [← h] at h'
    cases h'
  · rw [← h] at h'
    cases h'
  · rw [← h] at h'
    exact Or.inl (Option.some.inj h').symm

theorem alike_of_where (ha : quantIdentityWhere a=some columns)
    (hb : quantIdentityWhere b=some columns)
    (hunit : named a.handlingUnitId.join=named b.handlingUnitId.join) : Alike a b := by
  obtain ⟨haw,hal,has,hast,hao,halo,hab,hae⟩ := quantIdentityWhere_eq_some.mp ha
  obtain ⟨hbw,hbl,hbs,hbst,hbo,hblo,hbb,hbe⟩ := quantIdentityWhere_eq_some.mp hb
  exact {
    identifiers := (identifiers_eq_iff named).mpr
      ⟨(readId_named haw).trans (readId_named hbw).symm,
        (readNullable_named hao).trans (readNullable_named hbo).symm,
        (readId_named hal).trans (readId_named hbl).symm,
        (readId_named has).trans (readId_named hbs).symm,
        (readNullable_named halo).trans (readNullable_named hblo).symm,hunit⟩
    status := hast.trans hbst.symm
    batch := Or.inl (by rw [hab,hbb])
    expiry := readDate_join hae hbe }

theorem UnitMissed.takes (h : UnitMissed a b) : ∃ quant, Takes a quant ∧ Takes b quant := by
  obtain ⟨⟨columns,ha,hb⟩,hnone,s,hunit,hid⟩ := h
  refine ⟨⟨columns,some (toLowerCase s)⟩,Or.inl ⟨ha,fun unit hmem => ?_⟩,
    Or.inl ⟨hb,fun unit hmem => ?_⟩⟩
  · rw [hnone] at hmem
    cases hmem
  · rw [hunit] at hmem
    cases hmem
    rw [readNullable,readId,if_pos hid]
    rfl

theorem UnitMissed.named_ne (h : UnitMissed a b) :
    named a.handlingUnitId.join≠named b.handlingUnitId.join := by
  intro hnamed
  obtain ⟨-,hnone,s,hunit,hid⟩ := h
  have htrim := uuid_trim hid
  rw [hnone,hunit,Option.join_some,named_uuid (htrim.symm ▸ hid)] at hnamed
  cases hnamed

theorem Alike.unit (h : Alike a b) : named a.handlingUnitId.join=named b.handlingUnitId.join :=
  ((identifiers_eq_iff named).mp h.identifiers).2.2.2.2.2

theorem unit_named (ha : Finds a quant) (hb : Finds b quant) :
    named a.handlingUnitId.join=named b.handlingUnitId.join ∨ UnitMissed a b ∨ UnitMissed b a := by
  -- one input takes any handling unit, the other asks for one
  have hmissed : ∀ {a b}, Finds a quant → Finds b quant → a.handlingUnitId=none →
      ∀ unit, b.handlingUnitId=some unit → named unit=none ∨ UnitMissed a b := by
    intro a b ha hb hnone unit hunit
    cases unit with
    | none => exact Or.inl rfl
    | some s =>
      have hread := hb.2 _ hunit
      by_cases hid : isUuidText s=true
      · exact Or.inr ⟨⟨_,ha.1,hb.1⟩,hnone,s,hunit,hid⟩
      · rw [readNullable,readId,if_neg hid] at hread
        cases hread
  cases hua : a.handlingUnitId with
  | none =>
    cases hub : b.handlingUnitId with
    | none => exact Or.inl rfl
    | some unit =>
      cases hmissed ha hb hua unit hub with
      | inl hnamed => exact Or.inl hnamed.symm
      | inr hmiss => exact Or.inr (Or.inl hmiss)
  | some unit =>
    cases hub : b.handlingUnitId with
    | none =>
      cases hmissed hb ha hub unit hua with
      | inl hnamed => exact Or.inl hnamed
      | inr hmiss => exact Or.inr (Or.inr hmiss)
    | some unit' =>
      have hread := readNullable_named (ha.2 unit hua)
      have hread' := readNullable_named (hb.2 unit' hub)
      exact Or.inl (hread.trans hread'.symm)

theorem locked_iff (ha : Passed a) (hb : Passed b) :
    ((∃ quant, Takes a quant ∧ Takes b quant) →
      buildStockQuantIdentityKey a=buildStockQuantIdentityKey b) ↔
    ¬UnitMissed a b ∧ ¬UnitMissed b a := by
  rw [key_eq_iff ha hb]
  constructor
  · intro hlocked
    constructor
    · intro hmiss
      exact hmiss.named_ne (hlocked hmiss.takes).unit
    · intro hmiss
      obtain ⟨quant,hb,ha⟩ := hmiss.takes
      exact hmiss.named_ne (hlocked ⟨quant,ha,hb⟩).unit.symm
  · intro hmissed hquant
    obtain ⟨quant,hta,htb⟩ := hquant
    have hfa := takes_iff.mp hta
    have hfb := takes_iff.mp htb
    rcases unit_named hfa hfb with hnamed | hmiss | hmiss
    · exact alike_of_where hfa.1 hfb.1 hnamed
    · exact absurd hmiss hmissed.1
    · exact absurd hmiss hmissed.2

theorem batch_same_iff (h : batchName a.batch=batchName b.batch ∨ NamedNull a.batch b.batch ∨
    NamedNull b.batch a.batch) :
    (a.batch=b.batch ∨ IsBlank a.batch ∧ IsBlank b.batch) ↔ ¬BatchesMerged a.batch b.batch := by
  have hnull : ∀ {batch batch'}, NamedNull batch batch' → batch≠batch' ∧ ¬IsBlank batch' := by
    intro batch batch' hnull
    constructor
    · intro hsame
      have hnone := hnull.1
      rw [hsame,hnull.2] at hnone
      cases hnone
    · intro hblank
      have hsome := hnull.2
      rw [batchName_none.mpr hblank] at hsome
      cases hsome
  unfold BatchesMerged
  constructor
  · intro hsame hmerged
    rcases hmerged with hleft | hright | ⟨hfull,-,hne⟩
    · cases hsame with
      | inl heq => exact (hnull hleft).1 heq
      | inr hblank => exact (hnull hleft).2 hblank.2
    · cases hsame with
      | inl heq => exact (hnull hright).1 heq.symm
      | inr hblank => exact (hnull hright).2 hblank.1
    · cases hsame with
      | inl heq => exact hne heq
      | inr hblank => exact hfull hblank.1
  · intro hmerged
    rcases h with hname | hleft | hright
    · by_cases hblank : IsBlank a.batch
      · exact Or.inr ⟨hblank,batchName_none.mp (hname ▸ batchName_none.mpr hblank)⟩
      · by_cases hsame : a.batch=b.batch
        · exact Or.inl hsame
        · exact absurd (Or.inr (Or.inr ⟨hblank,hname,hsame⟩)) hmerged
    · exact absurd (Or.inl hleft) hmerged
    · exact absurd (Or.inr (Or.inl hright)) hmerged

theorem expiry_same_iff {expiry expiry' : Option (Option ℤ)}
    (h : expiry.join=none ∧ expiry'.join=none ∨ ∃ t t', expiry.join=some t ∧ expiry'.join=some t' ∧
      (utcDay t=utcDay t' ∨ SameFarMonth t t')) :
    expiry.map (·.map utcDay)=expiry'.map (·.map utcDay) ↔ ¬ExpiriesMerged expiry expiry' := by
  unfold ExpiriesMerged
  rcases expiry with _ | _ | t <;> rcases expiry' with _ | _ | t' <;> simp at h ⊢
  constructor
  · intro hday hne
    exact absurd hday hne
  · intro hfar
    by_contra hne
    exact hfar hne (h.resolve_left hne)

theorem Alike.same_iff (h : Alike a b) : SameButSpelling a b ↔
    ¬(PaddedIdentifiers a b ∨ BatchesMerged a.batch b.batch ∨
      ExpiriesMerged a.expiry b.expiry) := by
  have hbatch := batch_same_iff h.batch
  have hexpiry := expiry_same_iff h.expiry
  rw [not_or,not_or,← hbatch,← hexpiry]
  unfold PaddedIdentifiers
  rw [not_not]
  constructor
  · intro hsame
    exact ⟨hsame.identifiers,hsame.batch,hsame.expiry⟩
  · intro hparts
    exact {
      identifiers := hparts.1
      status := h.status
      batch := hparts.2.1
      expiry := hparts.2.2 }

/-- Two inputs whose keys are to be as fine as their lookups are not such that one asks for a
handling unit and the other takes any, and are not merged. -/
theorem asFine_iff (ha : Passed a) (hb : Passed b) :
    AsFine a b ↔ (¬UnitMissed a b ∧ ¬UnitMissed b a) ∧ ¬Merged a b := by
  have hlocked := locked_iff ha hb
  have hkey := key_eq_iff ha hb
  constructor
  · intro hfine
    refine ⟨hlocked.mp hfine.locked,fun hmerged => ?_⟩
    have hsame := hfine.apart (hkey.mpr hmerged.1)
    exact hmerged.1.same_iff.mp hsame hmerged.2
  · intro hcondition
    exact {
      locked := hlocked.mpr hcondition.1
      apart := by
        intro hsame
        have halike := hkey.mp hsame
        exact halike.same_iff.mpr fun hkinds => hcondition.2 ⟨halike,hkinds⟩ }

def demoId (c : Char) : Str := "00000000-0000-4000-8000-00000000000".toList++[c]

/-- What a receipt looks for, or a putaway with a handling unit. -/
def demoInput (handlingUnitId : Option (Option Str)) : StockQuantIdentityInput where
  warehouseId := demoId '1'
  locationId := demoId '2'
  skuId := demoId '3'
  status := .AVAILABLE
  ownerClientId := none
  lotId := none
  batch := none
  expiry := none
  handlingUnitId := handlingUnitId

theorem demoInput_passed : Passed (demoInput none) ∧ Passed (demoInput (some (some (demoId '4')))) := by
  have hid : ∀ c : Char, isUuidText (demoId c)=true → isUuidText (trim (demoId c))=true := by
    intro c hc
    rw [uuid_trim hc]
    exact hc
  have hone := hid '1' (by decide)
  have htwo := hid '2' (by decide)
  have hthree := hid '3' (by decide)
  have hreference : ∀ value∈[none,some (demoId '1'),some (demoId '2'),some (demoId '3'),
      some (demoId '4')], IsReference value := by
    intro value hvalue s hs
    simp only [List.mem_cons,List.not_mem_nil,or_false] at hvalue
    rcases hvalue with rfl | rfl | rfl | rfl | rfl
    · cases hs
    · cases hs
      exact Or.inr hone
    · cases hs
      exact Or.inr htwo
    · cases hs
      exact Or.inr hthree
    · cases hs
      exact Or.inr (hid '4' (by decide))
  have hthere : ∀ unit : Option (Option Str), unit.join=none ∨ unit.join=some (demoId '4') →
      ∀ value∈identifiers (demoInput unit), IsReference value := by
    intro unit hunit value hvalue
    apply hreference
    simp only [identifiers,demoInput,List.mem_cons,List.not_mem_nil,or_false] at hvalue ⊢
    rcases hvalue with rfl | rfl | rfl | rfl | rfl | rfl
    · exact Or.inr (Or.inl rfl)
    · exact Or.inl rfl
    · exact Or.inr (Or.inr (Or.inl rfl))
    · exact Or.inr (Or.inr (Or.inr (Or.inl rfl)))
    · exact Or.inl rfl
    · cases hunit with
      | inl hnone => exact Or.inl hnone
      | inr hsome => exact Or.inr (Or.inr (Or.inr (Or.inr hsome)))
  constructor
  · exact ⟨hone,htwo,hthree,hthere none (Or.inl rfl),fun t ht => by cases ht⟩
  · exact ⟨hone,htwo,hthree,hthere _ (Or.inr rfl),fun t ht => by cases ht⟩

theorem asFine_iff_demo : AsFine (demoInput none) (demoInput (some (some (demoId '4')))) ↔
    (¬UnitMissed (demoInput none) (demoInput (some (some (demoId '4')))) ∧
      ¬UnitMissed (demoInput (some (some (demoId '4')))) (demoInput none)) ∧
    ¬Merged (demoInput none) (demoInput (some (some (demoId '4')))) :=
  asFine_iff demoInput_passed.1 demoInput_passed.2

/-- A receipt finds the quant of a handling unit that a putaway holds under another key. -/
theorem asFine_handlingUnit : Passed (demoInput none) ∧
    Passed (demoInput (some (some (demoId '4')))) ∧
    ¬AsFine (demoInput none) (demoInput (some (some (demoId '4')))) := by
  refine ⟨demoInput_passed.1,demoInput_passed.2,fun hfine => ?_⟩
  have hmissed : UnitMissed (demoInput none) (demoInput (some (some (demoId '4')))) :=
    ⟨⟨_,rfl,rfl⟩,rfl,demoId '4',rfl,by decide⟩
  have halike := (key_eq_iff demoInput_passed.1 demoInput_passed.2).mp (hfine.locked hmissed.takes)
  exact hmissed.named_ne halike.unit

end Condition

end AardvarkWms.QuantIdentity
