import AardvarkWms.MasterCodes
import AardvarkWms.ScannerInput
import AardvarkWms.Separators

/-! The system's own codes, as they are written and read again. -/
namespace AardvarkWms.Scans

open Messaging (Str trim isWhiteSpace)
open ProductMaster (UpperCasing upper_ascii)

section Formats
variable (lang : UpperCasing)

def formatAardvarkCode (objectType : ScanObjectType) (warehouseCode reference : Str) : Str :=
  "AARD1:".toList++objectType.value.toList++ ':'::normalizeSegment lang.toLanguage warehouseCode++
    ':'::normalizeSegment lang.toLanguage reference

/-- What is written for an object is read as this object's code. -/
def RoundTrips (objectType : ScanObjectType) (warehouseCode reference : Str) : Prop :=
  ∃ code, parseScanCode lang.toLanguage (formatAardvarkCode lang objectType warehouseCode reference)=
      .AARD1 code ∧ code.objectType=objectType ∧
    matchesAardvarkWarehouse lang.toLanguage code warehouseCode=true ∧
    code.reference=normalizeSegment lang.toLanguage reference

/-- Neither segment is empty or has anything in it that the scanner's input is normalised from, and
there is no colon before the reference. -/
def Scannable (warehouseCode reference : Str) : Prop :=
  normalizeSegment lang.toLanguage warehouseCode≠[] ∧
    ':'∉normalizeSegment lang.toLanguage warehouseCode ∧
    Untouched (normalizeSegment lang.toLanguage warehouseCode) ∧
    normalizeSegment lang.toLanguage reference≠[] ∧
    Untouched (normalizeSegment lang.toLanguage reference)

end Formats

section Segments
variable {lang : UpperCasing} {s t : Str} {c : Char}

/-- The text is in upper case. -/
def IsUpper (lang : UpperCasing) (s : Str) : Prop := ∀ c∈s, lang.upper c=[c]

theorem IsUpper.toUpperCase (h : IsUpper lang s) : lang.toUpperCase s=s := by
  rw [lang.toUpperCase_eq]
  induction s with
  | nil => rfl
  | cons a s ih =>
    rw [List.flatMap_cons,h a List.mem_cons_self,ih fun c hc => h c (List.mem_cons_of_mem a hc)]
    rfl

theorem IsUpper.subset (h : IsUpper lang s) (hsub : ∀ c∈t, c∈s) : IsUpper lang t :=
  fun c hc => h c (hsub c hc)

theorem isUpper_ascii (h : s.all (fun c => c.toNat < 128 && c.toUpper=c)=true) : IsUpper lang s := by
  intro c hc
  have hboth := Bool.and_eq_true_iff.mp (List.all_eq_true.mp h c hc)
  rw [upper_ascii (of_decide_eq_true hboth.1),of_decide_eq_true hboth.2]

theorem isUpper_normalizeSegment (s : Str) : IsUpper lang (normalizeSegment lang.toLanguage s) := by
  intro c hc
  unfold normalizeSegment at hc
  rw [lang.toUpperCase_eq] at hc
  obtain ⟨a,_,ha⟩ := List.mem_flatMap.mp hc
  cases hspace : isWhiteSpace a with
  | true =>
    have hupper := lang.upper_space a hspace
    rw [hupper,List.mem_singleton] at ha
    rw [ha,hupper]
  | false => exact ((lang.upper_solid a hspace).2 c ha).2

/-- No white space stands at either end. -/
def Trimmed (s : Str) : Prop :=
  (∀ c∈s.head?, isWhiteSpace c=false) ∧ ∀ c∈s.getLast?, isWhiteSpace c=false

theorem trimmed_trim (s : Str) : Trimmed (trim s) := by
  have hfirst : ∀ s : Str, ∀ c∈(s.dropWhile isWhiteSpace).head?, isWhiteSpace c=false := by
    intro s c hc
    have hnot := List.head?_dropWhile_not isWhiteSpace s
    rw [Option.mem_def.mp hc] at hnot
    exact hnot
  constructor
  · intro c hc
    obtain ⟨rest,hrest⟩ := List.rdropWhile_prefix isWhiteSpace (s.dropWhile isWhiteSpace)
    have hhead : (s.dropWhile isWhiteSpace).head?=some c := by
      rw [← hrest]
      have hc' : ((s.dropWhile isWhiteSpace).rdropWhile isWhiteSpace).head?=some c := hc
      rw [List.head?_append,hc']
      rfl
    exact hfirst s c hhead
  · intro c hc
    rw [trim,List.getLast?_reverse] at hc
    exact hfirst _ c hc

theorem trimmed_normalizeSegment (s : Str) : Trimmed (normalizeSegment lang.toLanguage s) := by
  have htrim := trimmed_trim s
  unfold normalizeSegment
  rw [lang.toUpperCase_eq]
  constructor
  · intro c hc
    cases hs : trim s with
    | nil =>
      rw [hs] at hc
      cases hc
    | cons a rest =>
      have ha := htrim.1 a (by rw [hs]; rfl)
      have hsolid := lang.upper_solid a ha
      rw [hs,List.flatMap_cons] at hc
      cases hupper : lang.upper a with
      | nil => exact absurd hupper hsolid.1
      | cons d ds =>
        rw [hupper] at hc
        cases hc
        exact (hsolid.2 c (hupper ▸ List.mem_cons_self)).1
  · intro c hc
    cases hs : (trim s).reverse with
    | nil =>
      rw [List.reverse_eq_nil_iff.mp hs] at hc
      cases hc
    | cons a rest =>
      have hlast : trim s=rest.reverse++[a] := by
        rw [← List.reverse_reverse (trim s),hs,List.reverse_cons]
      have ha := htrim.2 a (by rw [hlast]; simp)
      have hsolid := lang.upper_solid a ha
      rw [hlast,List.flatMap_append,List.flatMap_singleton,
        List.getLast?_append_of_ne_nil _ hsolid.1] at hc
      exact (hsolid.2 c (List.mem_of_getLast? hc)).1

theorem normalizeSegment_idem (s : Str) :
    normalizeSegment lang.toLanguage (normalizeSegment lang.toLanguage s)=
      normalizeSegment lang.toLanguage s := by
  have hupper := (@isUpper_normalizeSegment lang s).toUpperCase
  have htrimmed := @trimmed_normalizeSegment lang s
  have htrim := trim_eq htrimmed.1 htrimmed.2
  nth_rewrite 1 [normalizeSegment]
  rw [htrim,hupper]

theorem formatAardvarkCode_eq (t : ScanObjectType) (w r : Str) : formatAardvarkCode lang t w r=
    "AARD1".toList++ ':'::(t.value.toList++ ':'::(normalizeSegment lang.toLanguage w++
      ':'::normalizeSegment lang.toLanguage r)) := by
  unfold formatAardvarkCode
  simp

theorem formatAardvarkCode_upper (t : ScanObjectType) (w r : Str) :
    IsUpper lang (formatAardvarkCode lang t w r) := by
  have hcolon : IsUpper lang [':'] := isUpper_ascii (by decide)
  have hsystem : IsUpper lang "AARD1".toList := isUpper_ascii (by decide)
  have htype : IsUpper lang t.value.toList := by
    cases t <;> exact isUpper_ascii (by decide)
  have hjoin : ∀ {s s' : Str}, IsUpper lang s → IsUpper lang s' → IsUpper lang (s++ ':'::s') := by
    intro s s' hs hs' c hc
    cases List.mem_append.mp hc with
    | inl h => exact hs c h
    | inr h =>
      cases List.mem_cons.mp h with
      | inl h => exact h ▸ hcolon ':' List.mem_cons_self
      | inr h => exact hs' c h
  rw [formatAardvarkCode_eq]
  exact hjoin hsystem (hjoin htype (hjoin (isUpper_normalizeSegment w) (isUpper_normalizeSegment r)))

theorem formatAardvarkCode_untouched {t : ScanObjectType} {w r : Str}
    (hw : Untouched (normalizeSegment lang.toLanguage w))
    (hr : Untouched (normalizeSegment lang.toLanguage r)) :
    Untouched (formatAardvarkCode lang t w r) := by
  have hsystem : Untouched "AARD1".toList := by decide
  have htype : Untouched t.value.toList := by
    cases t <;> decide
  rw [formatAardvarkCode_eq]
  exact untouched_join.mpr ⟨hsystem,untouched_join.mpr ⟨htype,untouched_join.mpr ⟨hw,hr⟩⟩⟩

end Segments

section RoundTrip
variable {lang : UpperCasing} {t : ScanObjectType} {w r : Str}

theorem splitOn_colon {s s' : Str} (h : ':'∉s) : (s++ ':'::s').splitOn ':'=s::s'.splitOn ':' := by
  rw [List.splitOn_append_cons_self,List.splitOn_eq_singleton h]
  rfl

theorem value_plain (t : ScanObjectType) : ':'∉t.value.toList := by
  cases t <;> decide

theorem scanObjectType_value (t : ScanObjectType) : scanObjectType? t.value.toList=some t := by
  cases t <;> decide

theorem value_of_scanObjectType {s : Str} (h : scanObjectType? s=some t) : t.value.toList=s := by
  have hfound := List.find?_some h
  exact of_decide_eq_true hfound

theorem roundTrips_of_scannable (h : Scannable lang w r) : RoundTrips lang t w r := by
  obtain ⟨hw,hcolon,hwplain,hr,hrplain⟩ := h
  have hplain : Untouched (formatAardvarkCode lang t w r) :=
    formatAardvarkCode_untouched hwplain hrplain
  have htrimmed : Trimmed (formatAardvarkCode lang t w r) := by
    rw [formatAardvarkCode_eq]
    constructor
    · intro c hc
      cases hc
      decide
    · intro c hc
      have hlast : ∀ (a : Char) {s s' : Str}, s'≠[] → (s++a::s').getLast?=s'.getLast? := by
        intro a s s' hs'
        rw [List.getLast?_append_of_ne_nil _ (List.cons_ne_nil _ _),List.getLast?_cons_of_ne_nil hs']
      rw [hlast _ (by simp),hlast _ (by simp),hlast _ hr] at hc
      exact (trimmed_normalizeSegment r).2 c hc
  have hsame : normalizeScannerInput (formatAardvarkCode lang t w r)=formatAardvarkCode lang t w r := by
    rw [normalizeScannerInput_untouched hplain,trim_eq htrimmed.1 htrimmed.2]
  have hsystem : lang.toUpperCase "AARD1".toList="AARD1".toList :=
    IsUpper.toUpperCase (isUpper_ascii (by decide))
  have htype : lang.toUpperCase t.value.toList=t.value.toList := by
    cases t <;> exact IsUpper.toUpperCase (isUpper_ascii (by decide))
  obtain ⟨part,parts,hparts⟩ := List.exists_cons_of_ne_nil
    (List.splitOn_ne_nil ':' (normalizeSegment lang.toLanguage r))
  have hjoin : ":".toList.intercalate (part::parts)=normalizeSegment lang.toLanguage r := by
    rw [← hparts]
    exact List.intercalate_splitOn ':'
  have hparse : parseAardvarkCode lang.toLanguage (formatAardvarkCode lang t w r)=
      some ⟨t,normalizeSegment lang.toLanguage w,normalizeSegment lang.toLanguage r⟩ := by
    unfold parseAardvarkCode
    rw [hsame,formatAardvarkCode_eq,splitOn_colon (by decide),splitOn_colon (value_plain t),
      splitOn_colon hcolon,hparts]
    simp only [hsystem,htype,if_true,hjoin,normalizeSegment_idem,hw,hr,decide_false,Bool.or_self,
      Bool.false_eq_true,if_false,scanObjectType_value,Option.map_some]
  refine ⟨⟨t,normalizeSegment lang.toLanguage w,normalizeSegment lang.toLanguage r⟩,?_,rfl,?_,rfl⟩
  · unfold parseScanCode
    rw [hsame]
    simp only [hparse]
  · unfold matchesAardvarkWarehouse
    exact decide_eq_true rfl

theorem scannable_of_roundTrips (h : RoundTrips lang t w r) : Scannable lang w r := by
  obtain ⟨code,hscan,htype,hwarehouse,href⟩ := h
  let text := formatAardvarkCode lang t w r
  let read := normalizeScannerInput (normalizeScannerInput text)
  have hcode : parseAardvarkCode lang.toLanguage (normalizeScannerInput text)=some code := by
    unfold parseScanCode at hscan
    simp only at hscan
    split at hscan
    · rename_i found hfound
      rw [hfound,ParsedScanCode.AARD1.inj hscan]
    · split at hscan <;> cases hscan
  have hupper : IsUpper lang read := by
    intro c hc
    have hseparator : IsUpper lang [groupSeparator] := isUpper_ascii (by decide)
    cases mem_normalizeScannerInput hc with
    | inr h => exact h ▸ hseparator _ List.mem_cons_self
    | inl h =>
      cases mem_normalizeScannerInput h with
      | inr h => exact h ▸ hseparator _ List.mem_cons_self
      | inl h => exact formatAardvarkCode_upper t w r c h
  unfold parseAardvarkCode at hcode
  split at hcode
  · rename_i system objectType warehouse part parts hsplit
    split at hcode
    · rename_i hsystem
      let reference := ":".toList.intercalate (part::parts)
      have hread : read=system++ ':'::(objectType++ ':'::(warehouse++ ':'::reference)) := by
        have hjoin : [':'].intercalate (read.splitOn ':')=read := List.intercalate_splitOn ':'
        rw [← hjoin,show read.splitOn ':'=system::objectType::warehouse::part::parts from hsplit]
        exact (Separators.join_cons _).trans (congrArg _ (congrArg _ ((Separators.join_cons _).trans
          (congrArg _ (congrArg _ (Separators.join_cons _))))))
      have hpart : ∀ {s : Str}, (∀ c∈s, c∈read) → lang.toUpperCase s=s := fun hsub =>
        (hupper.subset hsub).toUpperCase
      have hsub : (∀ c∈system, c∈read) ∧ (∀ c∈objectType, c∈read) ∧ (∀ c∈warehouse, c∈read) ∧
          ∀ c∈reference, c∈read := by
        rw [hread]
        simp only [List.mem_append,List.mem_cons]
        exact ⟨fun c hc => Or.inl hc,fun c hc => Or.inr (Or.inr (Or.inl hc)),
          fun c hc => Or.inr (Or.inr (Or.inr (Or.inr (Or.inl hc)))),
          fun c hc => Or.inr (Or.inr (Or.inr (Or.inr (Or.inr (Or.inr hc)))))⟩
      have htrim : ∀ {s : Str}, (∀ c∈s, c∈read) → normalizeSegment lang.toLanguage s=trim s :=
        fun hs => hpart fun c hc => hs c ((trim_within _).subset hc)
      have hsegment : ∀ {s : Str}, (∀ c∈s, c∈read) →
          (normalizeSegment lang.toLanguage s).length ≤ s.length := by
        intro s hs
        rw [htrim hs]
        exact (trim_within s).length_le
      simp only at hcode
      split at hcode
      · cases hcode
      · rename_i hempty
        rw [Option.map_eq_some_iff] at hcode
        obtain ⟨found,hfound,hcode⟩ := hcode
        subst hcode
        simp only at htype href
        subst htype
        have hw : normalizeSegment lang.toLanguage warehouse=normalizeSegment lang.toLanguage w :=
          of_decide_eq_true hwarehouse
        have hsystem' : system="AARD1".toList := (hpart hsub.1).symm.trans hsystem
        have htype' : objectType=found.value.toList := by
          have hvalue := value_of_scanObjectType hfound
          exact (hpart hsub.2.1).symm.trans hvalue.symm
        have hlength : text.length≤read.length := by
          have hwlength := hsegment hsub.2.2.1
          have hrlength := hsegment hsub.2.2.2
          rw [hw] at hwlength
          rw [show normalizeSegment lang.toLanguage reference=_ from href] at hrlength
          rw [hread,hsystem',htype',show text=_ from formatAardvarkCode_eq found w r]
          simp only [List.length_append,List.length_cons]
          omega
        have hnormal := untouched_of_length
          (le_trans hlength (normalizeScannerInput_length (normalizeScannerInput text)))
        have hplain : Untouched text := hnormal.1
        rw [show text=_ from formatAardvarkCode_eq found w r] at hplain
        have hrest := (untouched_join.mp (untouched_join.mp hplain).2).2
        have hboth := untouched_join.mp hrest
        simp only [Bool.or_eq_true,decide_eq_true_eq,not_or] at hempty
        refine ⟨hw ▸ hempty.1,?_,hboth.1,href ▸ hempty.2,hboth.2⟩
        rw [← hw,htrim hsub.2.2.1]
        intro hcolon
        have hmem : warehouse∈read.splitOn ':' := by
          rw [show read.splitOn ':'=system::objectType::warehouse::part::parts from hsplit]
          simp
        exact Separators.notMem_of_mem_splitOn read warehouse hmem ((trim_within _).subset hcolon)
    · cases hcode
  · cases hcode

/-- A code is read as it was meant if and only if neither of its segments is empty or has anything in
it that the scanner's input is normalised from, and the warehouse has no colon. -/
theorem aardvark_round_trips_iff (lang : UpperCasing) (objectType : ScanObjectType)
    (warehouseCode reference : Str) : RoundTrips lang objectType warehouseCode reference ↔
      Scannable lang warehouseCode reference :=
  ⟨scannable_of_roundTrips,roundTrips_of_scannable⟩

end RoundTrip

/-- A location may be called so, and its code is read as another one's. -/
theorem separator_name_lost :
    ¬RoundTrips UpperCasing.ascii .LOC "MAIN".toList "A<GS>1".toList := by
  rintro ⟨code,hscan,_,_,href⟩
  have hread : parseScanCode UpperCasing.ascii.toLanguage (formatAardvarkCode UpperCasing.ascii .LOC
      "MAIN".toList "A<GS>1".toList)=.AARD1 ⟨.LOC,"MAIN".toList,['A',groupSeparator,'1']⟩ := by
    decide +kernel
  rw [hread] at hscan
  rw [← ParsedScanCode.AARD1.inj hscan] at href
  revert href
  decide

end AardvarkWms.Scans
