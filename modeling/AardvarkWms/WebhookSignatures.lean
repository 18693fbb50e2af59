import AardvarkWms.RequestFingerprint
import Mathlib.Algebra.Order.Group.Abs
import Mathlib.Algebra.Order.Ring.Rat
import Mathlib.Tactic.Linarith
import Mathlib.Tactic.NormNum

/-! The signatures of webhooks, and what a signature that is accepted was made for. -/
namespace AardvarkWms.WebhookSignatures

open Separators
open Numerals (JsNumber units unit)
open JsonText (JsValue Fields hexDigit)
open PropertyOrder (Collation arrange)
open RequestFingerprint (IsBody Alike Untied AllFinite canonical canonicalText printed)

/-- A number, where none is NaN. -/
abbrev Number : Type := Option JsNumber

/-- `Number.isInteger` -/
def isInteger : Number → Bool
  | some .zero => true
  | some (.finite _ significand point) => significand.digits.length≤point
  | _ => false

/-- The value of a number that is an integer. -/
def value : Number → ℤ
  | some (.finite negative significand point) =>
    (if negative then -1 else 1)*
      (Nat.ofDigits 10 (significand.digits.reverse.map Fin.val)*
        10^(point-significand.digits.length).toNat : ℕ)
  | _ => 0

/-- A number in a template text. -/
def numberText : Number → Numerals.Text
  | none => units "NaN"
  | some (.infinite negative) => units (if negative then "-Infinity" else "Infinity")
  | some x => x.toJson

def isSpace (u : UInt16) : Bool :=
  u.toNat∈[9,10,11,12,13,32,160,5760,8232,8233,8239,8287,12288,65279] ||
    (8192≤u.toNat && u.toNat≤8202)

def trim (s : Numerals.Text) : Numerals.Text :=
  ((s.dropWhile isSpace).reverse.dropWhile isSpace).reverse

/-- What an HMAC with SHA-256 has: 32 bytes. -/
abbrev Digest : Type := {bytes : List UInt8 // bytes.length=32}

def toHex (bytes : List UInt8) : Numerals.Text :=
  bytes.flatMap fun b => [hexDigit (b.toNat/16),hexDigit (b.toNat%16)]

/-- A hexadecimal digit in either case. -/
def hexValue (u : UInt16) : Option ℕ :=
  let n := u.toNat
  if 48≤n ∧ n≤57 then some (n-48)
  else if 97≤n ∧ n≤102 then some (n-87)
  else if 65≤n ∧ n≤70 then some (n-55)
  else none

/-- `Buffer.from(text, 'hex')`, which ends where the digits end. -/
def fromHex : Numerals.Text → List UInt8
  | u::v::rest =>
    match hexValue u, hexValue v with
    | some a, some b => UInt8.ofNat (16*a+b)::fromHex rest
    | _, _ => []
  | _ => []

def toLowerCase (s : Numerals.Text) : Numerals.Text :=
  s.map fun u => if 65≤u.toNat ∧ u.toNat≤90 then u+32 else u

section Code

inductive HeaderValue
  | one (s : Numerals.Text)
  | many (list : List Numerals.Text)

/-- The headers of a request by their names. -/
abbrev WebhookHeaders : Type := Numerals.Text → Option HeaderValue

structure CreateWebhookSignatureInput where
  payload : JsValue
  secret : Numerals.Text
  timestampSeconds : Number

structure VerifyWebhookSignatureInput extends CreateWebhookSignatureInput where
  headers : WebhookHeaders
  nowSeconds : Option ℚ
  toleranceSeconds : Option ℚ

inductive Reason
  | OK | MISSING_SIGNATURE | MISSING_TIMESTAMP | STALE_TIMESTAMP | INVALID_SIGNATURE
  deriving DecidableEq

structure WebhookSignatureVerificationResult where
  ok : Bool
  reason : Reason

/-- What the code calls: the locale's comparison, the HMAC, `Number(text)` and the clock in
milliseconds. -/
structure Runtime where
  collation : Collation
  hmac : Numerals.Text → Numerals.Text → Digest
  number : Numerals.Text → Number
  dateNow : ℤ

variable (env : Runtime)

def WEBHOOK_SIGNATURE_HEADER : Numerals.Text := units "x-webhook-signature"

def WEBHOOK_TIMESTAMP_HEADER : Numerals.Text := units "x-webhook-timestamp"

def WEBHOOK_SIGNATURE_VERSION : Numerals.Text := units "v1"

def toUpperCase (s : Numerals.Text) : Numerals.Text :=
  s.map fun u => if 97≤u.toNat ∧ u.toNat≤122 then u-32 else u

def getHeaderValue (headers : WebhookHeaders) (name : Numerals.Text) : Option Numerals.Text :=
  let value := (headers name).or (headers (toUpperCase name))
  let normalized := match value with
    | some (.many list) => list.head?
    | some (.one s) => some s
    | none => none
  match normalized with
  | some s => if (trim s).length > 0 then some (trim s) else none
  | none => none

mutual
/-- Fields that are undefined stay. -/
def sortJsonValue : JsValue → JsValue
  | .date iso => .text iso
  | .array items => .array (sortJsonItems items)
  | .object fields => .object (arrange env.collation (sortJsonFields fields))
  | v => v

def sortJsonItems : List JsValue → List JsValue
  | [] => []
  | a::items => sortJsonValue a::sortJsonItems items

def sortJsonFields : Fields → Fields
  | [] => []
  | (key,a)::fields => (key,sortJsonValue a)::sortJsonFields fields
end

def stableJsonStringify (value : JsValue) : Numerals.Text := (sortJsonValue env value).stringify

/-- The text that is signed. -/
def signedText (input : CreateWebhookSignatureInput) : Numerals.Text :=
  numberText input.timestampSeconds++unit '.'::stableJsonStringify env input.payload

def createWebhookSignatureDigest (input : CreateWebhookSignatureInput) : Numerals.Text :=
  toHex (env.hmac input.secret (signedText env input)).val

def createWebhookSignature (input : CreateWebhookSignatureInput) : Numerals.Text :=
  WEBHOOK_SIGNATURE_VERSION++unit '='::createWebhookSignatureDigest env input

def normalizeSignature (value : Numerals.Text) : Option Numerals.Text :=
  let trimmed := trim value
  let digest :=
    if unit '='∈trimmed then (trimmed.reverse.takeWhile (·≠unit '=')).reverse else trimmed
  if digest.length=64 ∧ digest.all (fun u => (hexValue u).isSome) then some (toLowerCase digest)
  else none

def safeEqualHex (received expected : Numerals.Text) : Bool := fromHex received=fromHex expected

/-- The number of the timestamp's header, or what was given for a request without one. -/
def timestampSeconds (input : VerifyWebhookSignatureInput) : Number :=
  match getHeaderValue input.headers WEBHOOK_TIMESTAMP_HEADER with
  | some timestampFromHeader => env.number timestampFromHeader
  | none => input.timestampSeconds

/-- What the receiver takes the digest of itself. -/
def expectedInput (input : VerifyWebhookSignatureInput) : CreateWebhookSignatureInput :=
  { payload := input.payload, secret := input.secret,
    timestampSeconds := timestampSeconds env input }

def nowSeconds (input : VerifyWebhookSignatureInput) : ℚ :=
  input.nowSeconds.getD (env.dateNow/1000 : ℤ)

def toleranceSeconds (input : VerifyWebhookSignatureInput) : ℚ := input.toleranceSeconds.getD 300

def verifyWebhookSignature (input : VerifyWebhookSignatureInput) :
    WebhookSignatureVerificationResult :=
  match getHeaderValue input.headers WEBHOOK_SIGNATURE_HEADER with
  | none => ⟨false,.MISSING_SIGNATURE⟩
  | some rawSignature =>
    let timestamp := timestampSeconds env input
    if !isInteger timestamp || value timestamp≤0 then ⟨false,.MISSING_TIMESTAMP⟩
    else if toleranceSeconds input < |nowSeconds env input-value timestamp| then
      ⟨false,.STALE_TIMESTAMP⟩
    else
      let expectedDigest := createWebhookSignatureDigest env (expectedInput env input)
      match normalizeSignature rawSignature with
      | none => ⟨false,.INVALID_SIGNATURE⟩
      | some receivedDigest =>
        if !safeEqualHex receivedDigest expectedDigest then ⟨false,.INVALID_SIGNATURE⟩
        else ⟨true,.OK⟩

end Code

section Received

theorem hexDigit_facts : ∀ n < 16, hexValue (hexDigit n)=some n ∧ hexDigit n≠unit '=' ∧
    isSpace (hexDigit n)=false ∧ toLowerCase [hexDigit n]=[hexDigit n] := by decide

theorem toHex_digits {bytes : List UInt8} {u : UInt16} (h : u∈toHex bytes) :
    ∃ n < 16, u=hexDigit n := by
  obtain ⟨b,-,hu⟩ := List.mem_flatMap.mp h
  have hb := b.toNat_lt
  simp only [List.mem_cons,List.not_mem_nil,or_false] at hu
  cases hu with
  | inl hhigh => exact ⟨b.toNat/16,by omega,hhigh⟩
  | inr hlow => exact ⟨b.toNat%16,by omega,hlow⟩

theorem toHex_length (bytes : List UInt8) : (toHex bytes).length=2*bytes.length := by
  induction bytes with
  | nil => rfl
  | cons b bytes ih =>
    have hcons : toHex (b::bytes)=hexDigit (b.toNat/16)::hexDigit (b.toNat%16)::toHex bytes := rfl
    rw [hcons,List.length_cons,List.length_cons,List.length_cons,ih]
    omega

theorem fromHex_toHex (bytes : List UInt8) : fromHex (toHex bytes)=bytes := by
  induction bytes with
  | nil => rfl
  | cons b bytes ih =>
    have hb := b.toNat_lt
    have hcons : toHex (b::bytes)=hexDigit (b.toNat/16)::hexDigit (b.toNat%16)::toHex bytes := rfl
    have hhigh := (hexDigit_facts (b.toNat/16) (by omega)).1
    have hlow := (hexDigit_facts (b.toNat%16) (by omega)).1
    have hbyte : UInt8.ofNat (16*(b.toNat/16)+b.toNat%16)=b := by
      rw [Nat.div_add_mod,UInt8.ofNat_toNat]
    rw [hcons,fromHex,hhigh,hlow]
    simp only [hbyte,ih]

theorem toLowerCase_toHex (bytes : List UInt8) : toLowerCase (toHex bytes)=toHex bytes := by
  have hdigit : ∀ u∈toHex bytes, (if 65≤u.toNat ∧ u.toNat≤90 then u+32 else u)=u := by
    intro u hu
    obtain ⟨n,hn,rfl⟩ := toHex_digits hu
    exact (List.cons.inj (hexDigit_facts n hn).2.2.2).1
  rw [toLowerCase,List.map_congr_left hdigit,List.map_id']

theorem dropWhile_solid {s : Numerals.Text} (h : ∀ u∈s, isSpace u=false) :
    s.dropWhile isSpace=s := by
  cases s with
  | nil => rfl
  | cons u s => simp [h u List.mem_cons_self]

theorem trim_solid {s : Numerals.Text} (h : ∀ u∈s, isSpace u=false) : trim s=s := by
  have hreverse : ∀ u∈s.reverse, isSpace u=false := fun u hu => h u (List.mem_reverse.mp hu)
  rw [trim,dropWhile_solid h,dropWhile_solid hreverse,List.reverse_reverse]

variable (env : Runtime)

theorem created_solid (input : CreateWebhookSignatureInput) :
    ∀ u∈createWebhookSignature env input, isSpace u=false := by
  have hall : WEBHOOK_SIGNATURE_VERSION.all (fun u => !isSpace u)=true := by decide
  have hversion : ∀ u∈WEBHOOK_SIGNATURE_VERSION, isSpace u=false := by
    intro u hu
    simpa using List.all_eq_true.mp hall u hu
  have hequals : isSpace (unit '=')=false := by decide
  refine List.forall_mem_append.mpr ⟨hversion,List.forall_mem_cons.mpr ⟨hequals,?_⟩⟩
  intro u hu
  obtain ⟨n,hn,rfl⟩ := toHex_digits hu
  exact (hexDigit_facts n hn).2.2.1

theorem normalizeSignature_created (input : CreateWebhookSignatureInput) :
    normalizeSignature (createWebhookSignature env input)=
      some (createWebhookSignatureDigest env input) := by
  have hlength : (createWebhookSignatureDigest env input).length=64 := by
    rw [createWebhookSignatureDigest,toHex_length,(env.hmac _ _).property]
  have hmem : unit '='∈createWebhookSignature env input := by simp [createWebhookSignature]
  have hnone : ∀ u∈(createWebhookSignatureDigest env input).reverse, u≠unit '=' := by
    intro u hu
    obtain ⟨n,hn,rfl⟩ := toHex_digits (List.mem_reverse.mp hu)
    exact (hexDigit_facts n hn).2.1
  have hlast : ((createWebhookSignature env input).reverse.takeWhile (·≠unit '=')).reverse=
      createWebhookSignatureDigest env input := by
    have hparts : (createWebhookSignature env input).reverse=
        (createWebhookSignatureDigest env input).reverse++unit '='::
          WEBHOOK_SIGNATURE_VERSION.reverse := by
      simp [createWebhookSignature]
    have hfirst := takeWhile_before (t := WEBHOOK_SIGNATURE_VERSION.reverse)
      (fun h => hnone _ h rfl)
    rw [hparts,hfirst,List.reverse_reverse]
  have hdigits : (createWebhookSignatureDigest env input).all (fun u => (hexValue u).isSome)=true := by
    refine List.all_eq_true.mpr fun u hu => ?_
    obtain ⟨n,hn,rfl⟩ := toHex_digits hu
    rw [(hexDigit_facts n hn).1]
    rfl
  rw [normalizeSignature,trim_solid (created_solid env input),if_pos hmem,hlast,
    if_pos ⟨hlength,hdigits⟩,createWebhookSignatureDigest,toLowerCase_toHex]

variable {env} {input : VerifyWebhookSignatureInput} {signed : CreateWebhookSignatureInput}

theorem safeEqualHex_digests (a b : CreateWebhookSignatureInput) :
    safeEqualHex (createWebhookSignatureDigest env a) (createWebhookSignatureDigest env b)=true ↔
      env.hmac a.secret (signedText env a)=env.hmac b.secret (signedText env b) := by
  rw [createWebhookSignatureDigest,createWebhookSignatureDigest,safeEqualHex,fromHex_toHex,
    fromHex_toHex,decide_eq_true_iff,Subtype.ext_iff]

/-- What a signature that was made is accepted with: a time in reach, and a text with the HMAC of
the one that was signed. -/
theorem created_accepted_iff (h : getHeaderValue input.headers WEBHOOK_SIGNATURE_HEADER=
      some (createWebhookSignature env signed)) :
    (verifyWebhookSignature env input).ok=true ↔
      isInteger (timestampSeconds env input)=true ∧ 0 < value (timestampSeconds env input) ∧
        |nowSeconds env input-value (timestampSeconds env input)|≤toleranceSeconds input ∧
        env.hmac signed.secret (signedText env signed)=
          env.hmac input.secret (signedText env (expectedInput env input)) := by
  have hequal := @safeEqualHex_digests env signed (expectedInput env input)
  have hsecret : (expectedInput env input).secret=input.secret := rfl
  rw [hsecret] at hequal
  rw [← hequal,verifyWebhookSignature,h]
  simp only [normalizeSignature_created]
  by_cases htime : (!isInteger (timestampSeconds env input) ||
      value (timestampSeconds env input)≤0)=true
  · rw [if_pos htime]
    simp only [Bool.or_eq_true,Bool.not_eq_true',decide_eq_true_eq] at htime
    constructor
    · intro hok
      cases hok
    · intro hall
      cases htime with
      | inl hinteger => exact absurd hall.1 (by simp [hinteger])
      | inr hpositive => exact absurd hall.2.1 (by omega)
  · rw [if_neg htime]
    simp only [Bool.or_eq_true,Bool.not_eq_true',decide_eq_true_eq,not_or,Bool.not_eq_false,
      not_le] at htime
    by_cases hstale : toleranceSeconds input <
        |nowSeconds env input-value (timestampSeconds env input)|
    · rw [if_pos hstale]
      constructor
      · intro hok
        cases hok
      · intro hall
        exact absurd hall.2.2.1 (not_le.mpr hstale)
    · rw [if_neg hstale]
      have hreach := not_lt.mp hstale
      cases safeEqualHex (createWebhookSignatureDigest env signed)
          (createWebhookSignatureDigest env (expectedInput env input)) with
      | true => simp [htime,hreach]
      | false => simp

end Received

section Texts
variable (env : Runtime)

theorem sortJsonItems_eq (items : List JsValue) :
    sortJsonItems env items=items.map (sortJsonValue env) := by
  induction items with
  | nil => rfl
  | cons a items ih => rw [sortJsonItems,ih,List.map_cons]

theorem sortJsonFields_eq (fields : Fields) :
    sortJsonFields env fields=fields.map fun f => (f.1,sortJsonValue env f.2) := by
  induction fields with
  | nil => rfl
  | cons f fields ih => rw [sortJsonFields,ih,List.map_cons]

/-- Of a body the sorted value is the one that a request's fingerprint is taken of. -/
theorem sortJsonValue_eq_canonical {a : JsValue} (h : IsBody a) :
    sortJsonValue env a=canonical env.collation a := by
  induction h with
  | null => rfl
  | bool b => rfl
  | number x => rfl
  | text s => rfl
  | array h ih =>
    rw [sortJsonValue,canonical,sortJsonItems_eq,RequestFingerprint.canonicalItems_eq]
    exact congrArg JsValue.array (List.map_congr_left ih)
  | @object fields hkeys h ih =>
    have hfields : (fields.map fun f => (f.1,sortJsonValue env f.2))=
        fields.map fun f => (f.1,canonical env.collation f.2) :=
      List.map_congr_left fun f hf => by rw [ih f hf]
    rw [sortJsonValue,canonical,sortJsonFields_eq,hfields,
      ← RequestFingerprint.canonicalFields_eq env.collation h]

theorem stableJsonStringify_body {a : JsValue} (h : IsBody a) :
    stableJsonStringify env a=canonicalText env.collation a := by
  rw [stableJsonStringify,sortJsonValue_eq_canonical env h,canonicalText]

theorem point_notMem_decimal (n : ℕ) : unit '.'∉Numerals.decimal n := by
  have hdigit : ∀ d < 10, UInt16.ofNat (48+d)≠unit '.' := by decide
  intro h
  obtain ⟨d,hd,hunit⟩ := List.mem_map.mp h
  exact hdigit d (Nat.digits_lt_base (by omega) (List.mem_reverse.mp hd)) hunit

theorem point_notMem_exponentText (e : ℤ) : unit '.'∉Numerals.exponentText e := by
  intro h
  cases List.mem_cons.mp h with
  | inl hsign =>
    revert hsign
    split <;> decide
  | inr hdigit => exact point_notMem_decimal _ hdigit

open Numerals in
theorem toJson_exponent {x : JsNumber} {s t : Numerals.Text} (hs : unit 'e'∉s)
    (h : x.toJson=s++unit 'e'::t) : unit '.'∉t := by
  have hmagnitude : ∀ (ds : Numerals.Text) n s, Digits ds → unit 'e'∉s →
      magnitude ds n=s++unit 'e'::t → unit '.'∉t := by
    intro ds n s hds hs heq
    unfold magnitude at heq
    by_cases hrange : -5≤n ∧ n≤21
    · rw [if_pos hrange] at heq
      have hnone : unit 'e'∉plain ds n := exponent_notMem_plain hds
      rw [heq] at hnone
      simp at hnone
    · rw [if_neg hrange] at heq
      have hsplit := split_first (exponent_notMem_mantissa hds) hs heq
      rw [← hsplit.2]
      exact point_notMem_exponentText _
  cases x with
  | zero =>
    have hmem : unit 'e'∈JsNumber.zero.toJson := by rw [h]; simp
    exact absurd hmem (by decide)
  | infinite negative =>
    have hmem : unit 'e'∈units "null" := by
      rw [JsNumber.toJson] at h
      rw [h]
      simp
    exact absurd hmem (by decide)
  | finite negative significand point =>
    cases negative with
    | false => exact hmagnitude _ point s significand.text_digits hs h
    | true =>
      cases s with
      | nil =>
        have hfirst := (List.cons.inj h).1
        exact absurd hfirst (by decide)
      | cons u s =>
        have hrest := (List.cons.inj h).2
        exact hmagnitude _ point s significand.text_digits (fun hmem => hs (by simp [hmem])) hrest

/-- A number above zero. -/
def IsAbove : JsNumber → Prop
  | .finite false _ _ => True
  | _ => False

theorem isAbove_of_value {x : JsNumber} (h : 0 < value (some x)) : IsAbove x := by
  cases x with
  | zero => exact absurd h (by decide)
  | infinite negative => exact absurd h (lt_irrefl 0)
  | finite negative significand point =>
    cases negative with
    | false => trivial
    | true =>
      simp only [value,if_true] at h
      omega

theorem finite_of_isInteger {x : JsNumber} (h : isInteger (some x)=true) : x.IsFinite := by
  cases x with
  | infinite _ => cases h
  | _ => trivial

theorem point_notMem_exponent {ds : Numerals.Text} (h : unit '.'∉ds) (e : ℤ) :
    unit '.'∉ds++unit 'e'::Numerals.exponentText e := by
  intro hmem
  cases List.mem_append.mp hmem with
  | inl hdigit => exact h hdigit
  | inr htail =>
    cases List.mem_cons.mp htail with
    | inl he => exact absurd he (by decide)
    | inr he => exact point_notMem_exponentText _ he

theorem point_notMem_single {u : UInt16} (h : u≠unit '.') : unit '.'∉[u] := by
  simpa using fun he => h he.symm

/-- A text of a whole number with a point, which is after the first digit and before others and
an exponent. -/
structure Pointed (t : Numerals.Text) (u : UInt16) (ds : Numerals.Text) (e : ℤ) : Prop where
  text : t=u::unit '.'::(ds++unit 'e'::Numerals.exponentText e)
  first : u≠unit '.'
  point : unit '.'∉ds
  exponent : unit 'e'∉ds
  nonempty : ds≠[]
  units : ∀ v∈ds, Numerals.isNumberUnit v=true

theorem whole_text {x : JsNumber} (hinteger : isInteger (some x)=true) (habove : IsAbove x) :
    unit '.'∉x.toJson ∨ ∃ u ds e, Pointed x.toJson u ds e := by
  cases x with
  | zero => cases habove
  | infinite negative => cases hinteger
  | finite negative significand point =>
    have hdigits := significand.text_digits
    have hunits := JsNumber.toJson_units (x := .finite false significand point) trivial
    have hlength : significand.text.length≤point := by
      simpa [isInteger,Numerals.Significand.text] using hinteger
    have hnonempty : 0 < significand.text.length := List.length_pos_iff.mpr hdigits.nonempty
    cases negative with
    | true => cases habove
    | false =>
      have htext : (JsNumber.finite false significand point).toJson=
          Numerals.magnitude significand.text point := rfl
      rw [htext] at hunits ⊢
      unfold Numerals.magnitude at hunits ⊢
      by_cases hrange : -5≤point ∧ point≤21
      · rw [if_pos hrange,Numerals.plain,if_pos hlength]
        refine Or.inl fun hmem => ?_
        cases List.mem_append.mp hmem with
        | inl hdigit => exact hdigits.point hdigit
        | inr hzero => exact Numerals.point_notMem_zeros _ hzero
      · rw [if_neg hrange] at hunits ⊢
        have hpoint := hdigits.point
        have hexponent := hdigits.exponent
        generalize significand.text=text at *
        cases text with
        | nil => exact absurd rfl hdigits.nonempty
        | cons d rest =>
          cases rest with
          | nil => exact Or.inl (point_notMem_exponent hpoint _)
          | cons d' rest =>
            simp only [List.mem_cons,not_or] at hpoint hexponent
            have hpointed : Pointed (Numerals.mantissa (d::d'::rest)++unit 'e'::
                Numerals.exponentText (point-1)) d (d'::rest) (point-1) :=
              { text := rfl
                first := fun he => hpoint.1 he.symm
                point := by simpa using hpoint.2
                exponent := by simpa using hexponent.2
                nonempty := List.cons_ne_nil _ _
                units := fun v hv => hunits v
                  (List.mem_cons_of_mem _ (List.mem_cons_of_mem _ (List.mem_append_left _ hv))) }
            exact Or.inr ⟨d,d'::rest,point-1,hpointed⟩

/-- With a point in one of the numbers the other's value would have to begin with what comes after
it. -/
theorem pointed_apart {t t' w : Numerals.Text} {u : UInt16} {ds : Numerals.Text} {e : ℤ} {v : JsValue}
    (ht : unit '.'∉t) (hpointed : Pointed t' u ds e) (hv : v.IsPlain) :
    t++unit '.'::v.stringify≠t'++unit '.'::w := by
  intro heq
  rw [hpointed.text] at heq
  have hsplit := split_first ht (point_notMem_single hpointed.first) heq
  have hexponent := hpointed.exponent
  have hunits := hpointed.units
  cases ds with
  | nil => exact hpointed.nonempty rfl
  | cons d ds =>
    obtain ⟨first,rest,hfirst,hkind⟩ := JsonText.JsValue.stringify_kind hv
    have hd : first=d := by
      have hsame := hsplit.2
      rw [hfirst] at hsame
      exact (List.cons.inj hsame).1
    rw [hd,JsonText.JsValue.kindOf_number (hunits d List.mem_cons_self)] at hkind
    cases v with
    | number z =>
      have hafter := toJson_exponent (x := z) hexponent
        (hsplit.2.trans (List.append_assoc (d::ds) _ _))
      exact hafter (List.mem_append_right _ List.mem_cons_self)
    | bool b => cases b <;> cases hkind
    | _ => cases hkind

theorem whole_text_inj {x y : JsNumber} (hx : isInteger (some x)=true) (hx' : IsAbove x)
    (hy : isInteger (some y)=true) (hy' : IsAbove y) {v w : JsValue} (hv : v.IsPlain)
    (hw : w.IsPlain) (h : x.toJson++unit '.'::v.stringify=y.toJson++unit '.'::w.stringify) :
    x=y ∧ v.stringify=w.stringify := by
  have hinj := @JsNumber.toJson_inj x y (finite_of_isInteger hx) (finite_of_isInteger hy)
  cases whole_text hx hx' with
  | inl hnone =>
    cases whole_text hy hy' with
    | inl hnone' =>
      have hsplit := split_first hnone hnone' h
      exact ⟨hinj hsplit.1,hsplit.2⟩
    | inr hsome =>
      obtain ⟨u,ds,e,hpointed⟩ := hsome
      exact absurd h (pointed_apart hnone hpointed hv)
  | inr hsome =>
    obtain ⟨u,ds,e,hpointed⟩ := hsome
    cases whole_text hy hy' with
    | inl hnone' => exact absurd h.symm (pointed_apart hnone' hpointed hw)
    | inr hsome' =>
      obtain ⟨u',ds',e',hpointed'⟩ := hsome'
      have hboth := h
      rw [hpointed.text,hpointed'.text] at hboth
      have hsplit := split_first (point_notMem_single hpointed.first)
        (point_notMem_single hpointed'.first) hboth
      have hsplit' := split_first (point_notMem_exponent hpointed.point e)
        (point_notMem_exponent hpointed'.point e') hsplit.2
      have hsame : x.toJson=y.toJson := by
        rw [hpointed.text,hpointed'.text,hsplit'.1,(List.cons.inj hsplit.1).1]
      exact ⟨hinj hsame,hsplit'.2⟩

theorem above_text_ne {x y : JsNumber} (hx : isInteger (some x)=true) (hx' : ¬IsAbove x)
    (hy : isInteger (some y)=true) (hy' : IsAbove y) {v : JsValue} (hv : v.IsPlain)
    {w : Numerals.Text} :
    x.toJson++unit '.'::v.stringify≠y.toJson++unit '.'::w := by
  intro h
  cases x with
  | infinite negative => cases hx
  | zero =>
    have hzero : unit '.'∉JsNumber.zero.toJson := by decide
    cases whole_text hy hy' with
    | inl hnone =>
      have hsplit := split_first hzero hnone h
      have hsame := JsNumber.toJson_inj (x := .zero) trivial (finite_of_isInteger hy) hsplit.1
      exact hx' (hsame ▸ hy')
    | inr hsome =>
      obtain ⟨u,ds,e,hpointed⟩ := hsome
      exact pointed_apart hzero hpointed hv h
  | finite negative significand point =>
    cases negative with
    | false => exact hx' trivial
    | true =>
      cases y with
      | zero => cases hy'
      | infinite _ => cases hy'
      | finite negative' significand' point' =>
        cases negative' with
        | true => cases hy'
        | false =>
          have hhead := Numerals.magnitude_head (n := point') significand'.text_digits
          have hne : Numerals.magnitude significand'.text point'≠[] :=
            JsNumber.toJson_ne_nil (x := .finite false significand' point') trivial
          have htext : (JsNumber.finite false significand' point').toJson=
              Numerals.magnitude significand'.text point' := rfl
          rw [htext] at h
          cases hm : Numerals.magnitude significand'.text point' with
          | nil => exact hne hm
          | cons u rest =>
            rw [hm] at h hhead
            have hfirst := (List.cons.inj h).1
            exact hhead (congrArg some hfirst.symm)

end Texts

section Signed
variable (env : Runtime) (signed : CreateWebhookSignatureInput) (input : VerifyWebhookSignatureInput)

/-- A request with the signature and a body, of which the receiver has the secret. -/
structure Carries : Prop where
  header : getHeaderValue input.headers WEBHOOK_SIGNATURE_HEADER=
    some (createWebhookSignature env signed)
  secret : input.secret=signed.secret
  body : IsBody input.payload

/-- The request is the one that was signed, up to the order of its keys, and it is in time. -/
structure SignedFor : Prop where
  payload : Alike signed.payload input.payload
  timestamp : timestampSeconds env input=signed.timestampSeconds
  inTime : |nowSeconds env input-value signed.timestampSeconds|≤toleranceSeconds input

/-- No other text has the HMAC of the one that is signed. -/
def Unforged : Prop := ∀ text, env.hmac signed.secret text=env.hmac signed.secret
  (signedText env signed) → text=signedText env signed

variable {env signed input}

theorem stringify_printed {a : JsValue} (h : IsBody a) :
    (printed env.collation a).stringify=stableJsonStringify env a := by
  rw [stableJsonStringify_body env h,printed,RequestFingerprint.stringify_nullify,canonicalText]

theorem signedText_inj {x y : JsNumber} {a b : JsValue} (hx : isInteger (some x)=true)
    (hy : isInteger (some y)=true) (hy' : 0 < value (some y)) (ha : IsBody a) (hb : IsBody b)
    {s t : Numerals.Text} (h : signedText env ⟨a,s,some x⟩=signedText env ⟨b,t,some y⟩) :
    x=y ∧ printed env.collation a=printed env.collation b := by
  have htext : ∀ z : JsNumber, isInteger (some z)=true → numberText (some z)=z.toJson := by
    intro z hz
    cases z with
    | infinite _ => cases hz
    | _ => rfl
  rw [signedText,signedText,htext x hx,htext y hy,← stringify_printed ha,
    ← stringify_printed hb] at h
  have hplain := RequestFingerprint.printed_plain env.collation ha
  have hplain' := RequestFingerprint.printed_plain env.collation hb
  have habove := isAbove_of_value hy'
  by_cases hx' : IsAbove x
  · have hparts := whole_text_inj hx hx' hy habove hplain hplain' h
    have hstrings := hparts.2
    rw [stringify_printed ha,stringify_printed hb,stableJsonStringify_body env ha,
      stableJsonStringify_body env hb] at hstrings
    exact ⟨hparts.1,(RequestFingerprint.canonicalText_eq_iff env.collation ha hb).mp hstrings⟩
  · exact absurd h (above_text_ne hx hx' hy habove hplain)

/-- The receiver signs the same text for a body alike at that time, if no two keys are tied. -/
theorem signedText_alike (hbody : IsBody signed.payload) (hcarries : Carries env signed input)
    (huntied : Untied env.collation signed.payload) (hsigned : SignedFor env signed input) :
    signedText env (expectedInput env input)=signedText env signed := by
  have hprinted := RequestFingerprint.printed_eq_of_alike hbody hcarries.body huntied
    hsigned.payload
  have htext : stableJsonStringify env signed.payload=stableJsonStringify env input.payload := by
    rw [← stringify_printed hbody,hprinted,stringify_printed hcarries.body]
  rw [signedText,signedText,htext]
  exact congrArg (fun n => numberText n++unit '.'::stableJsonStringify env input.payload)
    hsigned.timestamp

theorem parts_of_signedText (hbody : IsBody signed.payload)
    (hinteger : isInteger signed.timestampSeconds=true) (hcarries : Carries env signed input)
    (hinteger' : isInteger (timestampSeconds env input)=true)
    (hpositive : 0 < value (timestampSeconds env input))
    (h : signedText env (expectedInput env input)=signedText env signed) :
    timestampSeconds env input=signed.timestampSeconds ∧
      printed env.collation signed.payload=printed env.collation input.payload := by
  have hexpected : expectedInput env input=
      ⟨input.payload,input.secret,timestampSeconds env input⟩ := rfl
  rw [hexpected] at h
  rcases signed with ⟨payload,secret,signedAt⟩
  cases hreceived : timestampSeconds env input with
  | none =>
    rw [hreceived] at hinteger'
    cases hinteger'
  | some y =>
    cases signedAt with
    | none => cases hinteger
    | some x =>
      rw [hreceived] at h hinteger' hpositive
      have hparts := signedText_inj hinteger hinteger' hpositive hbody hcarries.body h.symm
      exact ⟨congrArg some hparts.1.symm,hparts.2⟩

variable (env signed) in
/-- Accepted exactly on what was signed, in time. -/
def VerifiesExactly : Prop := ∀ input : VerifyWebhookSignatureInput, Carries env signed input →
  ((verifyWebhookSignature env input).ok=true ↔ SignedFor env signed input)

/-- A signature that was made for a whole number of seconds is accepted at that time on every body
alike, if the number is above zero and no two keys of the body are tied. It is refused for every
other number, at every time out of reach and on every other body of those with finite numbers. -/
theorem signature_verifies (env : Runtime) (signed : CreateWebhookSignatureInput)
    (input : VerifyWebhookSignatureInput) (hbody : IsBody signed.payload)
    (hinteger : isInteger signed.timestampSeconds=true) (hunforged : Unforged env signed)
    (hcarries : Carries env signed input) :
    (0 < value signed.timestampSeconds → Untied env.collation signed.payload →
      SignedFor env signed input → (verifyWebhookSignature env input).ok=true) ∧
    ((verifyWebhookSignature env input).ok=true →
      timestampSeconds env input=signed.timestampSeconds ∧ 0 < value signed.timestampSeconds ∧
      |nowSeconds env input-value signed.timestampSeconds|≤toleranceSeconds input ∧
      (AllFinite signed.payload → AllFinite input.payload →
        Alike signed.payload input.payload)) := by
  rw [created_accepted_iff hcarries.header,hcarries.secret]
  constructor
  · intro hpositive huntied hsigned
    have htext := signedText_alike hbody hcarries huntied hsigned
    have hreach := hsigned.inTime
    rw [htext,hsigned.timestamp]
    exact ⟨hinteger,hpositive,hreach,rfl⟩
  · intro haccepted
    have htext := hunforged _ haccepted.2.2.2.symm
    have hparts := parts_of_signedText hbody hinteger hcarries haccepted.1 haccepted.2.1 htext
    have hpositive := haccepted.2.1
    have hreach := haccepted.2.2.1
    rw [hparts.1] at hpositive hreach
    have halike : AllFinite signed.payload → AllFinite input.payload →
        Alike signed.payload input.payload := fun hfinite hfinite' =>
      RequestFingerprint.alike_of_printed_eq hbody hcarries.body hfinite hfinite' hparts.2
    exact ⟨hparts.1,hpositive,hreach,halike⟩

end Signed

section Deliveries

/-- A delivery with both headers. -/
def delivery (env : Runtime) (signed : CreateWebhookSignatureInput) (payload : JsValue)
    (timestamp : Numerals.Text) (now : ℚ) : VerifyWebhookSignatureInput where
  payload := payload
  secret := signed.secret
  timestampSeconds := none
  headers name := if name=WEBHOOK_SIGNATURE_HEADER then some (.one (createWebhookSignature env signed))
    else if name=WEBHOOK_TIMESTAMP_HEADER then some (.one timestamp) else none
  nowSeconds := some now
  toleranceSeconds := none

variable {env : Runtime} {signed : CreateWebhookSignatureInput} {payload : JsValue}
  {timestamp : Numerals.Text} {now : ℚ}

theorem carries_delivery (hbody : IsBody payload) :
    Carries env signed (delivery env signed payload timestamp now) := by
  have hlength : (createWebhookSignature env signed).length > 0 := by
    simp [createWebhookSignature]
  refine ⟨?_,rfl,hbody⟩
  simp only [getHeaderValue,delivery,if_true,Option.some_or,trim_solid (created_solid env signed),
    hlength]

theorem timestampSeconds_delivery (h : trim timestamp=timestamp) (hne : timestamp.length > 0) :
    timestampSeconds env (delivery env signed payload timestamp now)=env.number timestamp := by
  have hother : WEBHOOK_TIMESTAMP_HEADER≠WEBHOOK_SIGNATURE_HEADER := by decide
  simp only [timestampSeconds,getHeaderValue,delivery,if_neg hother,if_true,Option.some_or,h,hne]

end Deliveries

section Demo
open RequestFingerprint (someLocale accents accentsReversed flagsFields)

def secret : Numerals.Text := units "whsec_1"

/-- The HMACs of some texts with this secret. -/
def knownHmacs : List (Numerals.Text × Digest) :=
  [(units "0.true",
    ⟨[116,105,33,96,232,133,11,118,253,97,2,48,239,229,118,50,161,103,176,
      217,232,77,254,17,115,210,171,3,148,230,97,50],rfl⟩),
  (units "1700000000."++canonicalText someLocale accents.val,
    ⟨[51,81,149,140,94,200,98,93,122,42,153,142,102,158,126,39,91,75,140,
      101,42,108,206,116,198,123,152,198,105,221,193,226],rfl⟩),
  (units "1700000000."++canonicalText someLocale accentsReversed.val,
    ⟨[158,4,117,162,247,31,118,6,55,56,189,76,59,212,237,87,81,97,103,
      157,131,132,217,39,98,96,49,113,127,136,133,19],rfl⟩),
  (units "1700000000.null",
    ⟨[184,120,51,11,40,167,84,104,235,217,201,0,233,84,11,245,237,237,93,
      66,40,241,63,118,107,168,111,176,42,104,192,92],rfl⟩),
  (units "1700000000."++canonicalText someLocale (.object flagsFields),
    ⟨[221,116,165,216,151,246,179,251,209,163,188,68,76,188,64,58,126,3,
      158,175,130,219,53,157,210,192,255,71,237,79,161,206],rfl⟩)]

def noDigest : Digest := ⟨List.replicate 32 0,rfl⟩

theorem one_lt_ten : 1 < 10 := by decide

theorem seven_lt_ten : 7 < 10 := by decide

def seventeen : List (Fin 10) := [⟨1,one_lt_ten⟩,⟨7,seven_lt_ten⟩]

theorem seventeen_nonempty : seventeen≠[] := List.cons_ne_nil _ _

theorem seventeen_first : seventeen.head?≠some 0 := by decide

theorem seventeen_last : seventeen.getLast?≠some 0 := by decide

/-- 1700000000, which is 0.17 moved by ten places. -/
def recently : JsNumber :=
  .finite false ⟨seventeen,seventeen_nonempty,seventeen_first,seventeen_last⟩ 10

def someRuntime : Runtime where
  collation := someLocale
  hmac key text :=
    match knownHmacs.find? (·.1=text) with
    | some known => if key=secret then known.2 else noDigest
    | none => noDigest
  number text :=
    if text=units "1700000000" then some recently
    else if text=units "0" then some .zero
    else none
  dateNow := 1700000000000

/-- The first bytes tell them apart. -/
def firstByte (d : Digest) : Option UInt8 := d.val.head?

theorem firstBytes_nodup : ((knownHmacs.map (·.2)).map firstByte).Nodup := by decide

theorem firstByte_ne_noDigest : firstByte noDigest∉(knownHmacs.map (·.2)).map firstByte := by decide

theorem unforged_of_known {signed : CreateWebhookSignatureInput} (hsecret : signed.secret=secret)
    (hknown : (signedText someRuntime signed,
      someRuntime.hmac secret (signedText someRuntime signed))∈knownHmacs) :
    Unforged someRuntime signed := by
  intro text h
  rw [hsecret] at h
  cases hfind : knownHmacs.find? (·.1=text) with
  | none =>
    have hnone : someRuntime.hmac secret text=noDigest := by simp only [someRuntime,hfind]
    have hmem : firstByte (someRuntime.hmac secret (signedText someRuntime signed))∈
        (knownHmacs.map (·.2)).map firstByte := List.mem_map_of_mem (List.mem_map_of_mem hknown)
    rw [← h,hnone] at hmem
    exact absurd hmem firstByte_ne_noDigest
  | some known =>
    have hsome : someRuntime.hmac secret text=known.2 := by simp only [someRuntime,hfind,if_true]
    have htext : known.1=text := by simpa using List.find?_some hfind
    have hnodup := firstBytes_nodup
    rw [List.map_map] at hnodup
    have hsame := List.inj_on_of_nodup_map hnodup (List.mem_of_find?_eq_some hfind) hknown
      (congrArg firstByte (hsome.symm.trans h))
    rw [← htext,hsame]

theorem isInteger_recently : isInteger (some recently)=true := by decide

theorem value_recently : value (some recently)=1700000000 := by decide

/-- What is signed at that time with the secret. -/
def signedRecently (payload : JsValue) : CreateWebhookSignatureInput :=
  ⟨payload,secret,some recently⟩

theorem signedText_recently {a : JsValue} (h : IsBody a) :
    signedText someRuntime (signedRecently a)=units "1700000000."++canonicalText someLocale a := by
  have hnumber : numberText (some recently)++[unit '.']=units "1700000000." := by decide
  have hpayload : stableJsonStringify someRuntime (signedRecently a).payload=
      canonicalText someLocale a := stableJsonStringify_body someRuntime h
  rw [signedText,hpayload,← hnumber,List.append_assoc]
  rfl

theorem isBody_flags_reversed : IsBody (.object flagsFields.reverse) := by
  have hbody := RequestFingerprint.isBody_flags
  cases hbody with | object hkeys h =>
  refine IsBody.object ?_ fun f hf => h f (List.mem_reverse.mp hf)
  rw [List.map_reverse,List.nodup_reverse]
  exact hkeys

def flagsSigned : CreateWebhookSignatureInput := signedRecently (.object flagsFields)

/-- Some seconds later, with the fields in the other order. -/
def flagsDelivery (now : ℚ) : VerifyWebhookSignatureInput :=
  delivery someRuntime flagsSigned (.object flagsFields.reverse) (units "1700000000") now

theorem timestampSeconds_recently (signed : CreateWebhookSignatureInput) (payload : JsValue)
    (now : ℚ) : timestampSeconds someRuntime
      (delivery someRuntime signed payload (units "1700000000") now)=some recently := by
  rw [timestampSeconds_delivery (by decide) (by decide)]
  rfl

theorem unforged_flags : Unforged someRuntime flagsSigned := by
  have htext : signedText someRuntime flagsSigned=_ :=
    signedText_recently RequestFingerprint.isBody_flags
  refine unforged_of_known rfl ?_
  rw [htext]
  decide

theorem inTime_recently {signed : CreateWebhookSignatureInput} {payload : JsValue}
    {timestamp : Numerals.Text} {now : ℚ} : |nowSeconds someRuntime
      (delivery someRuntime signed payload timestamp now)-value (some recently)|≤
        toleranceSeconds (delivery someRuntime signed payload timestamp now) ↔
      1699999700≤now ∧ now≤1700000300 := by
  have hnow : nowSeconds someRuntime (delivery someRuntime signed payload timestamp now)=now := rfl
  have htolerance : toleranceSeconds (delivery someRuntime signed payload timestamp now)=300 := rfl
  have hcast : ((1700000000 : ℤ) : ℚ)=1700000000 := rfl
  rw [hnow,htolerance,value_recently,hcast,abs_le]
  constructor
  · intro h
    constructor <;> linarith [h.1,h.2]
  · intro h
    constructor <;> linarith [h.1,h.2]

/-- The fields in the other order are accepted a minute later, and not after more than five. -/
theorem signature_verifies_demo :
    (verifyWebhookSignature someRuntime (flagsDelivery 1700000060)).ok=true ∧
      (verifyWebhookSignature someRuntime (flagsDelivery 1700000301)).ok≠true := by
  have hbody := RequestFingerprint.isBody_flags
  have hverifies := fun now => signature_verifies someRuntime flagsSigned (flagsDelivery now) hbody
    isInteger_recently unforged_flags (carries_delivery isBody_flags_reversed)
  have halike : Alike (.object flagsFields) (.object flagsFields.reverse) := by
    cases hbody with | object hkeys h =>
    exact RequestFingerprint.alike_reverse hkeys h
  constructor
  · have hpositive : 0 < value flagsSigned.timestampSeconds := by decide
    refine (hverifies 1700000060).1 hpositive RequestFingerprint.untied_flags ⟨halike,?_,?_⟩
    · exact timestampSeconds_recently _ _ _
    · exact inTime_recently.mpr (by norm_num)
  · intro hok
    have hreach := ((hverifies 1700000301).2 hok).2.2.1
    have hlate := (inTime_recently.mp hreach).2
    norm_num at hlate

/-- Signed with the time 0. -/
def signedAtZero : CreateWebhookSignatureInput := ⟨.bool true,secret,some .zero⟩

theorem zero_refused : ¬VerifiesExactly someRuntime signedAtZero := by
  intro h
  have hcarries : Carries someRuntime signedAtZero
      (delivery someRuntime signedAtZero (.bool true) (units "0") 0) :=
    carries_delivery (IsBody.bool true)
  have htimestamp : timestampSeconds someRuntime
      (delivery someRuntime signedAtZero (.bool true) (units "0") 0)=some .zero := by
    rw [timestampSeconds_delivery (by decide) (by decide)]
    rfl
  have hreach : |nowSeconds someRuntime (delivery someRuntime signedAtZero (.bool true) (units "0") 0)-
      value signedAtZero.timestampSeconds|≤toleranceSeconds
        (delivery someRuntime signedAtZero (.bool true) (units "0") 0) := by
    simp [nowSeconds,toleranceSeconds,delivery,value,signedAtZero]
  have hok := (h _ hcarries).mpr ⟨Alike.bool true,htimestamp,hreach⟩
  have hpositive := ((created_accepted_iff hcarries.header).mp hok).2.1
  rw [htimestamp] at hpositive
  exact absurd hpositive (by decide)

theorem accents_refused : ¬VerifiesExactly someRuntime (signedRecently accents.val) := by
  intro h
  have hcarries : Carries someRuntime (signedRecently accents.val) (delivery someRuntime
      (signedRecently accents.val) accentsReversed.val (units "1700000000") 1700000000) :=
    carries_delivery accentsReversed.property
  have htimestamp := timestampSeconds_recently (signedRecently accents.val) accentsReversed.val
    1700000000
  have hok := (h _ hcarries).mpr ⟨RequestFingerprint.accents_alike,htimestamp,
    inTime_recently.mpr (by norm_num)⟩
  have hhmac := ((created_accepted_iff hcarries.header).mp hok).2.2.2
  have hexpected : expectedInput someRuntime (delivery someRuntime (signedRecently accents.val)
      accentsReversed.val (units "1700000000") 1700000000)=signedRecently accentsReversed.val := by
    rw [expectedInput,htimestamp]
    rfl
  rw [hexpected,signedText_recently accents.property,
    signedText_recently accentsReversed.property] at hhmac
  exact absurd hhmac (by decide)

theorem infinite_accepted : ¬VerifiesExactly someRuntime (signedRecently .null) := by
  intro h
  have hbody : IsBody (.number (.infinite false)) := IsBody.number _
  have hcarries : Carries someRuntime (signedRecently .null) (delivery someRuntime
      (signedRecently .null) (.number (.infinite false)) (units "1700000000") 1700000000) :=
    carries_delivery hbody
  have htimestamp := timestampSeconds_recently (signedRecently .null) (.number (.infinite false))
    1700000000
  have hexpected : expectedInput someRuntime (delivery someRuntime (signedRecently .null)
      (.number (.infinite false)) (units "1700000000") 1700000000)=
        signedRecently (.number (.infinite false)) := by
    rw [expectedInput,htimestamp]
    rfl
  have hok := (created_accepted_iff hcarries.header).mpr (by
    rw [hexpected,htimestamp]
    exact ⟨isInteger_recently,by decide,inTime_recently.mpr (by norm_num),by
      rw [signedText_recently hbody,signedText_recently IsBody.null]
      rfl⟩)
  have halike := ((h _ hcarries).mp hok).payload
  cases halike

/-- What is signed is refused at the time 0 and with tied keys in the other order, and accepted
with an infinite number for null. -/
theorem not_exactly_what_was_signed :
    (Unforged someRuntime signedAtZero ∧ ¬VerifiesExactly someRuntime signedAtZero) ∧
    (Unforged someRuntime (signedRecently accents.val) ∧
      ¬VerifiesExactly someRuntime (signedRecently accents.val)) ∧
    (Unforged someRuntime (signedRecently .null) ∧
      ¬VerifiesExactly someRuntime (signedRecently .null)) := by
  have hzero : Unforged someRuntime signedAtZero := unforged_of_known rfl (by decide)
  have haccents : Unforged someRuntime (signedRecently accents.val) := by
    refine unforged_of_known rfl ?_
    rw [signedText_recently accents.property]
    decide
  have hnull : Unforged someRuntime (signedRecently .null) := by
    refine unforged_of_known rfl ?_
    rw [signedText_recently IsBody.null]
    decide
  exact ⟨⟨hzero,zero_refused⟩,⟨haccents,accents_refused⟩,hnull,infinite_accepted⟩

end Demo

end AardvarkWms.WebhookSignatures
