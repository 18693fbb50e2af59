import Mathlib.Data.Rat.Defs

/-! JSON values as a column stores them, and the form in which two of them are compared. -/

/-- An object is the list of its fields; of two fields with one key the first is read. -/
inductive Json
  | null
  | bool (b : Bool)
  | number (q : ℚ)
  | string (s : String)
  | array (items : List Json)
  | object (fields : List (String × Json))

namespace Json

abbrev Fields : Type := List (String × Json)

mutual
def decEq : (a b : Json) → Decidable (a=b)
  | .null, b => match b with
    | .null => .isTrue rfl
    | .bool _ | .number _ | .string _ | .array _ | .object _ => .isFalse nofun
  | .bool x, b => match b with
    | .bool y => decidable_of_iff (x=y) (by simp)
    | .null | .number _ | .string _ | .array _ | .object _ => .isFalse nofun
  | .number x, b => match b with
    | .number y => decidable_of_iff (x=y) (by simp)
    | .null | .bool _ | .string _ | .array _ | .object _ => .isFalse nofun
  | .string x, b => match b with
    | .string y => decidable_of_iff (x=y) (by simp)
    | .null | .bool _ | .number _ | .array _ | .object _ => .isFalse nofun
  | .array x, b => match b with
    | .array y => match decEqItems x y with
      | .isTrue h => .isTrue (h ▸ rfl)
      | .isFalse h => .isFalse fun he => h (by cases he; rfl)
    | .null | .bool _ | .number _ | .string _ | .object _ => .isFalse nofun
  | .object x, b => match b with
    | .object y => match decEqFields x y with
      | .isTrue h => .isTrue (h ▸ rfl)
      | .isFalse h => .isFalse fun he => h (by cases he; rfl)
    | .null | .bool _ | .number _ | .string _ | .array _ => .isFalse nofun

def decEqItems : (x y : List Json) → Decidable (x=y)
  | [], [] => .isTrue rfl
  | [], _::_ | _::_, [] => .isFalse nofun
  | a::as, b::bs => match decEq a b, decEqItems as bs with
    | .isTrue h, .isTrue h' => .isTrue (h ▸ h' ▸ rfl)
    | .isFalse h, _ => .isFalse fun he => h (by cases he; rfl)
    | _, .isFalse h => .isFalse fun he => h (by cases he; rfl)

def decEqFields : (x y : Fields) → Decidable (x=y)
  | [], [] => .isTrue rfl
  | [], _::_ | _::_, [] => .isFalse nofun
  | (k,a)::as, (l,b)::bs =>
    if hk : k=l then match decEq a b, decEqFields as bs with
      | .isTrue h, .isTrue h' => .isTrue (hk ▸ h ▸ h' ▸ rfl)
      | .isFalse h, _ => .isFalse fun he => h (by cases he; rfl)
      | _, .isFalse h => .isFalse fun he => h (by cases he; rfl)
    else .isFalse fun he => hk (by cases he; rfl)
end

instance : DecidableEq Json := decEq

/-- The fields of an object; `none` for any other value. -/
def fields? : Json → Option Fields
  | .object fs => some fs
  | _ => none

namespace Fields

def get? (fs : Fields) (key : String) : Option Json := (fs.find? fun f => f.1=key).map (·.2)

/-- A field is overwritten where it stands, or else added at the end. -/
def set (key : String) (v : Json) : Fields → Fields
  | [] => [(key,v)]
  | f::fs => if f.1=key then (key,v)::fs else f::set key v fs

/-- `{...fs, ...extra}` -/
def spread (fs extra : Fields) : Fields := extra.foldl (fun fs f => set f.1 f.2 fs) fs

variable (fs : Fields) {key key' : String} (v : Json)

@[simp] theorem get?_cons (f : String × Json) :
    get? (f::fs) key=if f.1=key then some f.2 else get? fs key := by
  by_cases h : f.1=key <;> simp [get?,h]

@[simp] theorem get?_set_self : get? (set key v fs) key=some v := by
  induction fs with
  | nil => simp [set]
  | cons f fs ih =>
    by_cases h : f.1=key
    · simp [set,h]
    · simp [set,h,ih]

theorem get?_set_ne (h : key'≠key) : get? (set key v fs) key'=get? fs key' := by
  induction fs with
  | nil => simp [set,get?,Ne.symm h]
  | cons f fs ih =>
    by_cases hf : f.1=key
    · simp [set,hf,Ne.symm h]
    · simp [set,hf,ih]

end Fields

/-- `a ?? b`, where `none` is undefined. -/
def coalesce (a : Option Json) (b : Json) : Json :=
  match a with
  | none | some .null => b
  | some v => v

theorem coalesce_some {v : Json} (h : v≠.null) (b : Json) : coalesce (some v) b=v := by
  cases v with
  | null => exact absurd rfl h
  | _ => rfl

theorem coalesce_ne_null (a : Option Json) {b : Json} (h : b≠.null) : coalesce a b≠.null := by
  unfold coalesce
  split
  · exact h
  · exact h
  · rename_i hv
    exact fun he => hv (he ▸ rfl)

/-- Insert a field before the first one whose key is not smaller. -/
def insertField (f : String × Json) : Fields → Fields
  | [] => [f]
  | g::gs => if f.1<g.1 then f::g::gs else g::insertField f gs

mutual
/-- The value with the keys of every object in order: two values print alike with sorted keys
if and only if these are equal. -/
def stable : Json → Json
  | .null => .null
  | .bool b => .bool b
  | .number q => .number q
  | .string s => .string s
  | .array items => .array (stableItems items)
  | .object fs => .object (stableFields fs)

def stableItems : List Json → List Json
  | [] => []
  | a::as => stable a::stableItems as

def stableFields : Fields → Fields
  | [] => []
  | (k,a)::fs => insertField (k,stable a) (stableFields fs)
end

/-- The two values print alike. -/
def sameJsonValue (a b : Json) : Prop := stable a=stable b

instance (a b : Json) : Decidable (sameJsonValue a b) := inferInstanceAs (Decidable (stable a=stable b))

theorem sameJsonValue.refl (a : Json) : sameJsonValue a a := rfl

theorem sameJsonValue.symm {a b : Json} (h : sameJsonValue a b) : sameJsonValue b a := Eq.symm h

theorem sameJsonValue.trans {a b c : Json} (h : sameJsonValue a b) (h' : sameJsonValue b c) : sameJsonValue a c := Eq.trans h h'

example : sameJsonValue (.object [("b",.null),("a",.array [.string "x"])])
    (.object [("a",.array [.string "x"]),("b",.null)]) := by decide

end Json
