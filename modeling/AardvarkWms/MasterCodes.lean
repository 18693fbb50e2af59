import AardvarkWms.Billing
import AardvarkWms.Texts

/-! The codes of the product master in their normal form. -/
namespace AardvarkWms.ProductMaster

open Messaging (Str trim isWhiteSpace)
open Billing (replaceRuns)

/-- Upper case letter by letter: white space has no case, and what has been put in upper case
stays as it is. -/
structure UpperCasing extends Language where
  upper : Char → Str
  toUpperCase_eq : ∀ s, toUpperCase s=s.flatMap upper
  upper_space : ∀ c, isWhiteSpace c=true → upper c=[c]
  upper_solid : ∀ c, isWhiteSpace c=false →
    upper c≠[] ∧ ∀ d∈upper c, isWhiteSpace d=false ∧ upper d=[d]

inductive ProductError
  | conflict (message : String)
  | notFound (message : String)
  | outOfRange
  deriving DecidableEq

section Codes
variable (lang : UpperCasing)

def isSolid (c : Char) : Bool := !isWhiteSpace c

def masterCode (value : Str) : Str :=
  replaceRuns isSolid '-' false (lang.toUpperCase (trim value))

def normalizeMasterCode (value : Str) : Except ProductError Str :=
  if masterCode lang value=[] then .error (.conflict "Code cannot be empty.")
  else .ok (masterCode lang value)

def normalizeBarcode (value : Str) : Except ProductError Str :=
  if trim value=[] then .error (.conflict "Barcode cannot be empty.") else .ok (trim value)

/-- A text that is given and not empty. -/
def given (value : Option Str) : Option Str := value.filter (·≠[])

/-- The normal form of a text that is given. -/
def ifGiven (normalize : Str → Except ProductError Str) (value : Option Str) :
    Except ProductError (Option Str) :=
  match given value with
  | none => .ok none
  | some v => (normalize v).map some

end Codes

section Normal
variable {lang : UpperCasing} {s t : Str} {c : Char}

theorem replaceRuns_keeps (h : ∀ c∈s, isSolid c=true) : replaceRuns isSolid '-' false s=s := by
  induction s with
  | nil => rfl
  | cons a s ih =>
    have ha : isSolid a=true := h a (by simp)
    have hrest := ih fun c hc => h c (by simp [hc])
    simp [replaceRuns,ha,hrest]

theorem upper_ascii (h : c.toNat < 128) : lang.upper c=[c.toUpper] := by
  have hascii : isAscii [c]=true := by simpa [isAscii] using h
  have hc := lang.toUpperCase_ascii [c] hascii
  rw [lang.toUpperCase_eq] at hc
  simpa using hc

theorem upper_dash : lang.upper '-'=['-'] := upper_ascii (by decide)

theorem masterCode_chars (s : Str) :
    ∀ c∈masterCode lang s, isSolid c=true ∧ lang.upper c=[c] := by
  intro c hc
  rcases Billing.replaceRuns_mem _ _ hc with rfl|⟨hmem,hsolid⟩
  · exact ⟨rfl,upper_dash⟩
  · refine ⟨hsolid,?_⟩
    rw [lang.toUpperCase_eq] at hmem
    obtain ⟨a,_,ha⟩ := List.mem_flatMap.mp hmem
    cases hspace : isWhiteSpace a with
    | true =>
      rw [lang.upper_space a hspace,List.mem_singleton] at ha
      subst ha
      exact lang.upper_space c hspace
    | false => exact ((lang.upper_solid a hspace).2 c ha).2

theorem masterCode_idem (s : Str) : masterCode lang (masterCode lang s)=masterCode lang s := by
  have hchars : ∀ c∈masterCode lang s, isSolid c=true ∧ lang.upper c=[c] := masterCode_chars s
  have hupper : ∀ l : Str, (∀ c∈l, lang.upper c=[c]) → l.flatMap lang.upper=l := by
    intro l hl
    induction l with
    | nil => rfl
    | cons a l ih => simp [hl a (by simp),ih fun c hc => hl c (by simp [hc])]
  have hsolid : ∀ c∈masterCode lang s, isSolid c=true := fun c hc => (hchars c hc).1
  have hspace : ∀ c∈masterCode lang s, isWhiteSpace c=false := fun c hc => by
    simpa [isSolid] using hsolid c hc
  have hflat := hupper (masterCode lang s) fun c hc => (hchars c hc).2
  calc masterCode lang (masterCode lang s)
      =replaceRuns isSolid '-' false ((trim (masterCode lang s)).flatMap lang.upper) := by
        rw [← lang.toUpperCase_eq]
        rfl
    _=replaceRuns isSolid '-' false (masterCode lang s) := by rw [trim_solid hspace,hflat]
    _=masterCode lang s := replaceRuns_keeps hsolid

theorem notEmpty_eq_ok {v t : Str} {e : ProductError} :
    (if v=[] then .error e else .ok v : Except ProductError Str)=.ok t ↔ v=t ∧ t≠[] := by
  by_cases h : v=[]
  · rw [if_pos h]
    constructor
    · intro h'
      cases h'
    · rintro ⟨rfl,hne⟩
      exact absurd h hne
  · rw [if_neg h,Except.ok.injEq]
    constructor
    · rintro rfl
      exact ⟨rfl,h⟩
    · exact fun h' => h'.1

theorem normalizeMasterCode_eq_ok :
    normalizeMasterCode lang s=.ok t ↔ masterCode lang s=t ∧ t≠[] := notEmpty_eq_ok

theorem normalizeBarcode_eq_ok : normalizeBarcode s=.ok t ↔ trim s=t ∧ t≠[] := notEmpty_eq_ok

theorem ifGiven_eq_ok {normalize : Str → Except ProductError Str} {value r : Option Str} :
    ifGiven normalize value=.ok r ↔
      given value=none ∧ r=none ∨ ∃ v w, given value=some v ∧ normalize v=.ok w ∧ r=some w := by
  unfold ifGiven
  cases hg : given value with
  | none =>
    simp only [reduceCtorEq,false_and,exists_const,or_false,true_and,Except.ok.injEq]
    exact eq_comm
  | some v =>
    have hmap : (normalize v).map some=.ok r ↔ ∃ w, normalize v=.ok w ∧ r=some w := by
      cases hn : normalize v with
      | error e => simp [Except.map]
      | ok w => simp [Except.map,eq_comm]
    simp only [hmap,reduceCtorEq,false_and,false_or,Option.some.injEq]
    constructor
    · rintro ⟨w,hw,hr⟩
      exact ⟨v,w,rfl,hw,hr⟩
    · rintro ⟨v',w,rfl,hw,hr⟩
      exact ⟨w,hw,hr⟩

end Normal

section Ascii
variable {c : Char}

theorem toUpper_of_not_ascii (h : ¬c.toNat < 128) : c.toUpper=c := by
  have hz : ¬( 'a'.val≤c.val ∧ c.val≤ 'z'.val) := by
    intro hle
    have hnat : c.toNat≤122 := UInt32.le_iff_toNat_le.mp hle.2
    omega
  exact dif_neg hz

theorem toUpper_space (h : isWhiteSpace c=true) : c.toUpper=c := by
  by_cases hascii : c.toNat < 128
  · have htest := of_ascii (c := c) (p := fun c => !isWhiteSpace c || c.toUpper=c) (by decide) hascii
    simpa [h] using htest
  · exact toUpper_of_not_ascii hascii

theorem toUpper_solid (h : isWhiteSpace c=false) :
    isWhiteSpace c.toUpper=false ∧ c.toUpper.toUpper=c.toUpper := by
  by_cases hascii : c.toNat < 128
  · have htest := of_ascii (c := c) (p := fun c => isWhiteSpace c ||
      (!isWhiteSpace c.toUpper && decide (c.toUpper.toUpper=c.toUpper))) (by decide) hascii
    simpa [h] using htest
  · rw [toUpper_of_not_ascii hascii,toUpper_of_not_ascii hascii]
    exact ⟨h,rfl⟩

theorem map_toUpper (s : Str) : s.map Char.toUpper=s.flatMap fun c => [c.toUpper] := by
  induction s with
  | nil => rfl
  | cons a s ih => simp [ih]

theorem upper_ascii_solid (c : Char) (h : isWhiteSpace c=false) :
    [c.toUpper]≠[] ∧ ∀ d∈[c.toUpper], isWhiteSpace d=false ∧ [d.toUpper]=[d] := by
  refine ⟨List.cons_ne_nil _ _,?_⟩
  intro d hd
  rw [List.mem_singleton] at hd
  subst hd
  have hsolid := toUpper_solid h
  exact ⟨hsolid.1,by rw [hsolid.2]⟩

/-- Upper case within ASCII. -/
def UpperCasing.ascii : UpperCasing where
  toLanguage := Language.ascii
  upper := fun c => [c.toUpper]
  toUpperCase_eq := map_toUpper
  upper_space := fun _ h => congrArg (fun c => [c]) (toUpper_space h)
  upper_solid := upper_ascii_solid

end Ascii
end AardvarkWms.ProductMaster
