import AardvarkWms.JsonText

/-! The conditions of a rule, as the operations runtime and the configuration rules read them:
`matchesContext` of `operations-runtime.service.ts` and `evaluateConditions` of
`configuration-rules.service.ts`. -/
namespace AardvarkWms.RuleConditions

open Numerals (Text JsNumber unit units)
open JsonText (JsValue Fields)

/-- What an expression reads: a value, or what every object inherits under that name. -/
inductive Found
  | own (v : JsValue)
  | inherited (text : Text)

/-- What the language makes of texts and of what is inherited. -/
structure Script where
  textNumber : Text → Option JsNumber
  inherited : Text → Option Text
  arrayMember : List JsValue → Text → Found
  inheritedMember : Text → Text → Found
  inheritedJson : Text → Text

section Conversions

def numberText : JsNumber → Text
  | .infinite negative => units (if negative then "-Infinity" else "Infinity")
  | x => x.toJson

def field (fields : Fields) (key : String) : Option JsValue :=
  (fields.find? (·.1=units key)).map (·.2)

mutual
/-- `String(value)`; an object with a `toString` of its own, which is no function, throws. A body
has no dates. -/
def toText : JsValue → Option Text
  | .undefined => some (units "undefined")
  | .null => some (units "null")
  | .bool b => some (units (if b then "true" else "false"))
  | .number x => some (numberText x)
  | .text s => some s
  | .date iso => some iso
  | .array items => (itemTexts items).map (Separators.join (unit ','))
  | .object fields => if (field fields "toString").isSome then none else some (units "[object Object]")

def itemTexts : List JsValue → Option (List Text)
  | [] => some []
  | a::items =>
    match a with
    | .undefined => (itemTexts items).map ([]::·)
    | .null => (itemTexts items).map ([]::·)
    | a => do
      let s ← toText a
      let rest ← itemTexts items
      pure (s::rest)
end

def one : JsNumber := .finite false ⟨[1],by decide,by decide,by decide⟩ 1

variable (script : Script)

/-- `Number(value)`, where `some none` is not a number. -/
def toNumber : JsValue → Option (Option JsNumber)
  | .undefined => some none
  | .null => some (some .zero)
  | .bool b => some (some (if b then one else .zero))
  | .number x => some (some x)
  | .text s => some (script.textNumber s)
  | .date iso => some (script.textNumber iso)
  | .array items => (toText (.array items)).map script.textNumber
  | .object fields => if (field fields "toString").isSome then none else some none

def Found.text : Found → Option Text
  | .own v => toText v
  | .inherited text => some text

def Found.number : Found → Option (Option JsNumber)
  | .own v => toNumber script v
  | .inherited _ => some none

/-- `JSON.stringify` in a template. -/
def Found.json : Found → Text
  | .own .undefined => units "undefined"
  | .own v => v.stringify
  | .inherited text => script.inheritedJson text

end Conversions

/-- The power of ten of a number's last digit. -/
def exponent : JsNumber → ℤ
  | .finite _ significand point => point-significand.digits.length
  | _ => 0

/-- A finite number in units of `10^e`, for an `e` of at most its exponent. -/
def scaled (x : JsNumber) (e : ℤ) : ℤ :=
  match x with
  | .finite negative significand _ =>
    (if negative then -1 else 1)*(significand.digits.foldl (fun n d => 10*n+d.val) 0 : ℕ)*
      10^(exponent x-e).toNat
  | _ => 0

def atMost : JsNumber → JsNumber → Bool
  | .infinite true, _ => true
  | _, .infinite false => true
  | .infinite false, _ => false
  | _, .infinite true => false
  | x, y => scaled x (min (exponent x) (exponent y)) ≤ scaled y (min (exponent x) (exponent y))

/-- `left <= right`; nothing is at most what is not a number. -/
def isAtMost (left right : Option JsNumber) : Bool :=
  match left, right with
  | some x, some y => atMost x y
  | _, _ => false

def isFinite : Option JsNumber → Bool
  | none => false
  | some (.infinite _) => false
  | some _ => true

section Engines
variable (script : Script)

/-- `value[key]` -/
def member (value : Found) (key : Text) : Found :=
  match value with
  | .own (.object fields) =>
    match fields.find? (·.1=key) with
    | some f => .own f.2
    | none => ((script.inherited key).map Found.inherited).getD (.own .undefined)
  | .own (.array items) => script.arrayMember items key
  | .own _ => .own .undefined
  | .inherited text => script.inheritedMember text key

def readPath (context : Fields) (path : Text) : Found :=
  (path.splitOn (unit '.')).foldl (member script) (.own (.object context))

/-- `expected.map(String).includes(String(actual))` -/
def isListed (items : List JsValue) (actual : Found) : Option Bool := do
  let texts ← items.mapM toText
  let t ← actual.text
  pure (texts.contains t)

/-- `String(actual) === String(expected)` -/
def isSameText (expected : JsValue) (actual : Found) : Option Bool := do
  let t ← actual.text
  let e ← toText expected
  pure (t=e)

/-- One condition in `matchesContext`. -/
def matchesOne (expected : JsValue) (actual : Found) : Option Bool :=
  match expected with
  | .array items => isListed items actual
  | .object fields =>
    match field fields "min", field fields "max" with
    | some min, _ => do
      let min ← toNumber script min
      let value ← actual.number script
      pure (isAtMost min value)
    | none, some max => do
      let max ← toNumber script max
      let value ← actual.number script
      pure (isAtMost value max)
    | none, none => isSameText expected actual
  | _ => isSameText expected actual

/-- `every`, as far as it has to go; an error ends it. -/
def every {α : Type} (test : α → Option Bool) : List α → Option Bool
  | [] => some true
  | a::as =>
    match test a with
    | some true => every test as
    | r => r

def matchesContext (conditions context : Fields) : Option Bool :=
  every (fun c => matchesOne script c.2 (member script (.own (.object context)) c.1)) conditions

/-- A bound that is given, as a number. -/
def boundOf (v : Option JsValue) : Option (Option (Option JsNumber)) :=
  match v with
  | none => some none
  | some .undefined => some none
  | some v => (toNumber script v).map some

def evaluateRange (expected : Fields) (actual : Found) : Option Bool := do
  let value ← actual.number script
  if isFinite value=false then pure false
  else
    let min ← boundOf script (field expected "min")
    let max ← boundOf script (field expected "max")
    pure (min.all (isAtMost · value) && max.all (isAtMost value ·))

/-- One condition in `evaluateConditions`. -/
def evaluateOne (expected : JsValue) (actual : Found) : Option Bool :=
  match expected with
  | .array items => isListed items actual
  | .object fields => evaluateRange script fields actual
  | _ => isSameText expected actual

def reason (path : Text) (expected : JsValue) (actual : Found) (ok : Bool) : Text :=
  path++units ": "++if ok then units "match"
    else units "expected "++expected.stringify++units ", got "++actual.json script

def evaluateAll (context : Fields) : Fields → List Text → Option (Bool × List Text)
  | [], reasons => some (true,reasons)
  | (path,expected)::rest, reasons => do
    let actual := readPath script context path
    let ok ← evaluateOne script expected actual
    let reasons := reasons++[reason script path expected actual ok]
    if ok then evaluateAll context rest reasons else pure (false,reasons)

def toRecord : Option JsValue → Fields
  | some (.object fields) => fields
  | _ => []

def evaluateConditions (conditions context : Fields) : Option (Bool × List Text) :=
  match toRecord (field conditions "match") with
  | [] => some (true,[units "No explicit match conditions; default rule applies."])
  | required => evaluateAll script context required []

end Engines

section Property
variable (script : Script) (context : Fields)

/-- A condition of a flat map: a scalar, a list, or an object with at least one of the bounds. -/
def IsFlat : JsValue → Prop
  | .undefined => False
  | .date _ => False
  | .object fields => (field fields "min"≠none ∨ field fields "max"≠none) ∧
      ∀ f∈fields, ∀ key, f≠(key,.undefined)
  | _ => True

/-- A bound, if it is given, is a number that the value is related to. -/
def BoundHolds (bound : Option JsValue) (related : JsNumber → Bool) : Prop :=
  ∀ v∈bound, ∃ y, toNumber script v=some (some y) ∧ related y=true

/-- What a condition says: the text is in the list, or the number is within both given bounds, or
the texts are equal. -/
def Holds (expected : JsValue) (actual : Found) : Prop :=
  match expected with
  | .array items => ∃ texts t, items.mapM toText=some texts ∧ actual.text=some t ∧ t∈texts
  | .object fields => ∃ x, actual.number script=some (some x) ∧
      BoundHolds script (field fields "min") (atMost · x) ∧
      BoundHolds script (field fields "max") (atMost x ·)
  | e => ∃ t, actual.text=some t ∧ toText e=some t

/-- The value that a condition is about. -/
def valueOf (c : Text × JsValue) : Found := member script (.own (.object context)) c.1

/-- The two tests of one condition: `matchesContext` stops at the first bound that is given. -/
def firstTest (c : Text × JsValue) : Option Bool := matchesOne script c.2 (valueOf script context c)

def rangeTest (c : Text × JsValue) : Option Bool := evaluateOne script c.2 (valueOf script context c)

/-- Both engines give one verdict, and say that the rule matches exactly if every condition holds. -/
structure SameVerdict (conditions : Fields) : Prop where
  engines : matchesContext script conditions context=
    (evaluateConditions script [(units "match",.object conditions)] context).map (·.1)
  meaning : matchesContext script conditions context=some true ↔
    ∀ c∈conditions, Holds script c.2 (valueOf script context c)

/-- Going through the conditions up to the first that is not within its range, if there is one: the
first bound is not kept there either, or a later condition is refused in the same way. -/
def RefusedAlike (conditions : Fields) : Prop :=
  (∀ c∈conditions, rangeTest script context c=some true) ∨
  ∃ pre c post, conditions=pre++c::post ∧ (∀ p∈pre, rangeTest script context p=some true) ∧
    rangeTest script context c≠some true ∧
    (firstTest script context c=rangeTest script context c ∨
      firstTest script context c=some true ∧ ∃ mid d rest, post=mid++d::rest ∧
        (∀ p∈mid, firstTest script context p=some true) ∧
        firstTest script context d=rangeTest script context c)

end Property

section Every
variable {α : Type} {test test' : α → Option Bool} {xs : List α}

theorem every_cons_true {a : α} (h : test a=some true) : every test (a::xs)=every test xs := by
  rw [every.eq_2,h]

theorem every_cons_refused {a : α} (h : test a≠some true) : every test (a::xs)=test a := by
  rw [every.eq_2]
  split
  · rename_i htrue
    exact absurd htrue h
  · rfl

theorem every_true : every test xs=some true ↔ ∀ a∈xs, test a=some true := by
  induction xs with
  | nil => simp [every]
  | cons a as ih =>
    rw [List.forall_mem_cons]
    by_cases htrue : test a=some true
    · rw [every_cons_true htrue,ih]
      exact ⟨fun h => ⟨htrue,h⟩,fun h => h.2⟩
    · rw [every_cons_refused htrue]
      exact ⟨fun h => absurd h htrue,fun h => h.1⟩

theorem every_pass {pre post : List α} (hpre : ∀ p∈pre, test p=some true) :
    every test (pre++post)=every test post := by
  induction pre with
  | nil => rfl
  | cons p pre ih =>
    rw [List.cons_append,every_cons_true (hpre p List.mem_cons_self)]
    exact ih fun q hq => hpre q (List.mem_cons_of_mem p hq)

theorem every_append {pre post : List α} {a : α} (hpre : ∀ p∈pre, test p=some true)
    (ha : test a≠some true) : every test (pre++a::post)=test a := by
  rw [every_pass hpre,every_cons_refused ha]

theorem every_refused {r : Option Bool} (hr : r≠some true) (h : every test xs=r) :
    ∃ pre a post, xs=pre++a::post ∧ (∀ p∈pre, test p=some true) ∧ test a=r := by
  induction xs with
  | nil => exact absurd h.symm hr
  | cons a as ih =>
    by_cases htrue : test a=some true
    · rw [every_cons_true htrue] at h
      obtain ⟨pre,b,post,rfl,hpre,hb⟩ := ih h
      refine ⟨a::pre,b,post,rfl,fun p hp => ?_,hb⟩
      cases List.mem_cons.mp hp with
      | inl hfirst => rwa [hfirst]
      | inr hrest => exact hpre p hrest
    · rw [every_cons_refused htrue] at h
      exact ⟨[],a,as,rfl,fun _ hp => absurd hp List.not_mem_nil,h⟩

/-- Two tests, of which the second lets through no more than the first: they end alike exactly if
all passes the second, or the first element that does not is answered alike, at once or later. -/
theorem every_eq_iff (h : ∀ a∈xs, test' a=some true → test a=some true) :
    every test xs=every test' xs ↔ (∀ a∈xs, test' a=some true) ∨
      ∃ pre c post, xs=pre++c::post ∧ (∀ p∈pre, test' p=some true) ∧ test' c≠some true ∧
        (test c=test' c ∨ test c=some true ∧ ∃ mid d rest, post=mid++d::rest ∧
          (∀ p∈mid, test p=some true) ∧ test d=test' c) := by
  constructor
  · intro heq
    by_cases hall : ∀ a∈xs, test' a=some true
    · exact .inl hall
    · have hrefused : every test' xs≠some true := mt every_true.mp hall
      obtain ⟨pre,c,post,rfl,hpre,hc⟩ := every_refused hrefused rfl
      rw [← hc] at hrefused heq
      have hfirst : ∀ p∈pre, test p=some true := fun p hp => h p (List.mem_append_left _ hp) (hpre p hp)
      refine .inr ⟨pre,c,post,rfl,hpre,hrefused,?_⟩
      rw [every_pass hfirst] at heq
      by_cases htrue : test c=some true
      · rw [every_cons_true htrue] at heq
        exact .inr ⟨htrue,every_refused hrefused heq⟩
      · rw [every_cons_refused htrue] at heq
        exact .inl heq
  · intro hcases
    cases hcases with
    | inl hall => rw [every_true.mpr hall,every_true.mpr fun a ha => h a ha (hall a ha)]
    | inr hsplit =>
      obtain ⟨pre,c,post,rfl,hpre,hrefused,hrest⟩ := hsplit
      have hfirst : ∀ p∈pre, test p=some true := fun p hp => h p (List.mem_append_left _ hp) (hpre p hp)
      rw [every_append hpre hrefused,every_pass hfirst]
      cases hrest with
      | inl hsame => rw [← hsame,every_cons_refused (hsame ▸ hrefused)]
      | inr hlater =>
        obtain ⟨htrue,mid,d,rest,rfl,hmid,hd⟩ := hlater
        rw [every_cons_true htrue,every_append hmid (hd ▸ hrefused),hd]

end Every

section Tests
variable {script : Script} {expected : JsValue} {actual : Found}

theorem isListed_true {items : List JsValue} : isListed items actual=some true ↔
    Holds script (.array items) actual := by
  unfold isListed Holds
  simp only [Option.bind_eq_bind,Option.pure_def,Option.bind_eq_some_iff,Option.some.injEq,
    List.contains_iff_mem]
  constructor
  · rintro ⟨texts,htexts,t,ht,hmem⟩
    exact ⟨texts,t,htexts,ht,hmem⟩
  · rintro ⟨texts,t,htexts,ht,hmem⟩
    exact ⟨texts,htexts,t,ht,hmem⟩

theorem isSameText_true : isSameText expected actual=some true ↔
    ∃ t, actual.text=some t ∧ toText expected=some t := by
  unfold isSameText
  simp only [Option.bind_eq_bind,Option.pure_def,Option.bind_eq_some_iff,Option.some.injEq,
    decide_eq_true_iff]
  constructor
  · rintro ⟨t,ht,e,he,rfl⟩
    exact ⟨t,ht,he⟩
  · rintro ⟨t,ht,he⟩
    exact ⟨t,ht,t,he,rfl⟩

theorem isAtMost_left {bound : Option JsNumber} {x : JsNumber} :
    isAtMost bound (some x)=true ↔ ∃ y, bound=some y ∧ atMost y x=true := by
  cases bound with
  | none => simp [isAtMost]
  | some y => simp [isAtMost]

theorem isAtMost_right {bound : Option JsNumber} {x : JsNumber} :
    isAtMost (some x) bound=true ↔ ∃ y, bound=some y ∧ atMost x y=true := by
  cases bound with
  | none => simp [isAtMost]
  | some y => simp [isAtMost]

theorem boundHolds_of_read {v : Option JsValue} {bound : Option (Option JsNumber)}
    {related : JsNumber → Bool} (hundefined : v≠some .undefined)
    (hbound : boundOf script v=some bound)
    (h : ∀ b∈bound, ∃ y, b=some y ∧ related y=true) : BoundHolds script v related := by
  intro w hw
  rw [Option.mem_def] at hw
  subst hw
  have hread : (toNumber script w).map some=some bound := by
    rw [← hbound]
    cases w with
    | undefined => exact absurd rfl hundefined
    | _ => rfl
  obtain ⟨b,hb,hsome⟩ := Option.map_eq_some_iff.mp hread
  obtain ⟨y,rfl,hy⟩ := h b (by rw [← hsome]; rfl)
  exact ⟨y,hb,hy⟩

theorem field_defined {fields : Fields} {key : String} (h : ∀ f∈fields, ∀ k, f≠(k,.undefined)) :
    field fields key≠some .undefined := by
  intro hfield
  obtain ⟨f,hf,hvalue⟩ := Option.map_eq_some_iff.mp hfield
  exact h f (List.mem_of_find?_eq_some hf) f.1 (Prod.ext rfl hvalue)

theorem holds_of_range {fields : Fields} (hflat : IsFlat (.object fields))
    (h : evaluateRange script fields actual=some true) : Holds script (.object fields) actual := by
  unfold evaluateRange at h
  obtain ⟨value,hvalue,h⟩ := Option.bind_eq_some_iff.mp h
  split at h
  · cases h
  · rename_i hfinite
    obtain ⟨min,hmin,h⟩ := Option.bind_eq_some_iff.mp h
    obtain ⟨max,hmax,h⟩ := Option.bind_eq_some_iff.mp h
    obtain ⟨hminimum,hmaximum⟩ := (Bool.and_eq_true _ _).mp (Option.some.inj h)
    cases value with
    | none => exact absurd rfl hfinite
    | some x =>
      refine ⟨x,hvalue,?_,?_⟩
      · refine boundHolds_of_read (field_defined hflat.2) hmin fun b hb => ?_
        exact isAtMost_left.mp ((Option.all_eq_true _ _).mp hminimum b hb)
      · refine boundHolds_of_read (field_defined hflat.2) hmax fun b hb => ?_
        exact isAtMost_right.mp ((Option.all_eq_true _ _).mp hmaximum b hb)

theorem first_of_holds {fields : Fields} (hflat : IsFlat (.object fields))
    (h : Holds script (.object fields) actual) :
    matchesOne script (.object fields) actual=some true := by
  obtain ⟨x,hx,hmin,hmax⟩ := h
  unfold matchesOne
  cases hminimum : field fields "min" with
  | some min =>
    obtain ⟨y,hy,hle⟩ := hmin min hminimum
    simp [hminimum,hy,hx,isAtMost,hle]
  | none =>
    cases hmaximum : field fields "max" with
    | some max =>
      obtain ⟨y,hy,hle⟩ := hmax max hmaximum
      simp [hminimum,hmaximum,hy,hx,isAtMost,hle]
    | none =>
      cases hflat.1 with
      | inl hne => exact absurd hminimum hne
      | inr hne => exact absurd hmaximum hne

theorem holds_of_evaluateOne (hflat : IsFlat expected)
    (h : evaluateOne script expected actual=some true) : Holds script expected actual := by
  cases expected with
  | array items => exact isListed_true.mp h
  | object fields => exact holds_of_range hflat h
  | undefined => exact hflat.elim
  | date iso => exact hflat.elim
  | null | bool b | number x | text s => exact isSameText_true.mp h

theorem matchesOne_of_holds (hflat : IsFlat expected) (h : Holds script expected actual) :
    matchesOne script expected actual=some true := by
  cases expected with
  | array items => exact isListed_true.mpr h
  | object fields => exact first_of_holds hflat h
  | undefined => exact hflat.elim
  | date iso => exact hflat.elim
  | null | bool b | number x | text s => exact isSameText_true.mpr h

end Tests

section Main
variable {script : Script} {context conditions : Fields}

theorem readPath_eq {path : Text} (h : unit '.'∉path) :
    readPath script context path=member script (.own (.object context)) path := by
  have hsplit : path.splitOn (unit '.')=[path] := by
    refine List.splitOnP_eq_singleton fun u hu => ?_
    rw [beq_eq_false_iff_ne]
    exact fun he => h (he ▸ hu)
  unfold readPath
  rw [hsplit]
  rfl

theorem evaluateAll_verdict (hkeys : ∀ c∈conditions, unit '.'∉c.1) (reasons : List Text) :
    (evaluateAll script context conditions reasons).map (·.1)=
      every (rangeTest script context) conditions := by
  induction conditions generalizing reasons with
  | nil => rfl
  | cons c rest ih =>
    obtain ⟨path,expected⟩ := c
    have hpath : readPath script context path=member script (.own (.object context)) path :=
      readPath_eq (hkeys _ List.mem_cons_self)
    have hrest := ih fun c hc => hkeys c (List.mem_cons_of_mem _ hc)
    have htest : rangeTest script context (path,expected)=
        evaluateOne script expected (readPath script context path) := by
      rw [hpath]
      rfl
    cases hone : evaluateOne script expected (readPath script context path) with
    | none =>
      rw [hone] at htest
      rw [every_cons_refused (by rw [htest]; exact (Option.some_ne_none true).symm),htest]
      simp [evaluateAll,hone]
    | some ok =>
      rw [hone] at htest
      cases ok with
      | false =>
        rw [every_cons_refused (by rw [htest]; decide),htest]
        simp [evaluateAll,hone]
      | true =>
        rw [every_cons_true htest]
        simpa [evaluateAll,hone] using hrest _

theorem evaluateConditions_verdict (hkeys : ∀ c∈conditions, unit '.'∉c.1) :
    (evaluateConditions script [(units "match",.object conditions)] context).map (·.1)=
      every (rangeTest script context) conditions := by
  have hrecord : toRecord (field [(units "match",.object conditions)] "match")=conditions := rfl
  unfold evaluateConditions
  rw [hrecord]
  cases conditions with
  | nil => rfl
  | cons c rest => exact evaluateAll_verdict hkeys []

/-- A script for texts that are not numbers, and objects that inherit nothing. -/
def bareScript : Script where
  textNumber := fun _ => none
  inherited := fun _ => none
  arrayMember := fun _ _ => .own .undefined
  inheritedMember := fun _ _ => .own .undefined
  inheritedJson := fun _ => units "undefined"

/-- A number of one digit. -/
def digit (d : Fin 10) (h : d≠0) : JsNumber :=
  .finite false ⟨[d],List.cons_ne_nil _ _,fun hd => h (Option.some.inj hd),
    fun hd => h (Option.some.inj hd)⟩ 1

/-- A priority from 1 to 5. -/
def priorityRange : Fields :=
  [(units "priority",.object [(units "min",.number (digit 1 (by decide))),
    (units "max",.number (digit 5 (by decide)))])]

def priorityContext (d : Fin 10) (h : d≠0) : Fields := [(units "priority",.number (digit d h))]

theorem priorityRange_flat : ∀ c∈priorityRange, IsFlat c.2 := by
  intro c hc
  cases List.mem_singleton.mp hc
  refine ⟨.inl (by simp [field]),fun f hf key => ?_⟩
  rcases List.mem_cons.mp hf with rfl|hf
  · simp
  · cases List.mem_singleton.mp hf
    simp

theorem priorityRange_keys : ∀ c∈priorityRange, unit '.'∉c.1 := by
  intro c hc
  cases List.mem_singleton.mp hc
  decide

end Main

end AardvarkWms.RuleConditions
