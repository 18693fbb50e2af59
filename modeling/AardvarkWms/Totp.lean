import AardvarkWms.Base32
import AardvarkWms.DocumentNumbers

/-! The codes of one-time passwords, and which of them are accepted:
`src/auth/mfa-totp.helpers.ts`. -/
namespace AardvarkWms.Totp

open Messaging (Str)
open ProductMaster (UpperCasing)
open Base32 (base32Decode)
open Billing (decimal padStart)

/-- An HMAC with SHA-1 has 20 bytes. -/
structure Env where
  lang : UpperCasing
  hmac : List UInt8 → List UInt8 → {digest : List UInt8 // digest.length=20}

structure TotpVerifyOptions where
  periodSeconds : ℕ := 30
  digits : ℕ := 6
  window : ℕ := 1
  timestamp : ℤ
  periodSeconds_pos : 0 < periodSeconds := by decide

variable (env : Env)

def writeBigUInt64BE (value : ℤ) : Except String (List UInt8) :=
  if 0≤value ∧ value < 2^64 then
    .ok ((List.range 8).map fun i => UInt8.ofNat (value.toNat/256^(7-i)))
  else .error "ERR_OUT_OF_RANGE"

/-- A byte of the digest, as the language's operators on 32 bits read it. -/
def byteAt (hmac : List UInt8) (i : ℕ) : BitVec 32 := (hmac.getD i 0).toBitVec.setWidth 32

def truncate (hmac : List UInt8) : BitVec 32 :=
  let offset := (byteAt hmac (hmac.length-1) &&& 0x0f#32).toNat
  ((byteAt hmac offset &&& 0x7f#32) <<< 24) ||| ((byteAt hmac (offset+1) &&& 0xff#32) <<< 16) |||
    ((byteAt hmac (offset+2) &&& 0xff#32) <<< 8) ||| (byteAt hmac (offset+3) &&& 0xff#32)

/-- `String` of a whole number. -/
def string (n : ℤ) : Str := if n < 0 then '-'::decimal n.natAbs else decimal n.natAbs

/-- The operators on 32 bits have signed results, and a remainder has its dividend's sign. -/
def generateTotpCode (secret : Str) (counter : ℤ) (digits : ℕ) : Except String Str := do
  let key ← base32Decode env.lang secret
  let counterBuffer ← writeBigUInt64BE counter
  let binary := truncate (env.hmac key counterBuffer).val
  pure (padStart digits (string (binary.toInt.tmod (10^digits))))

/-- What is asked of a code before anything is computed: `/^\d{6}$/`. -/
def sixDigits (code : Str) : Bool := code.length=6 && code.all Char.isDigit

def TotpVerifyOptions.counter (options : TotpVerifyOptions) : ℤ :=
  options.timestamp/(1000*options.periodSeconds)

/-- The loop over the offsets that are left. -/
def verifyFrom (secret code : Str) (digits : ℕ) (counter : ℤ) : ℕ → ℤ → Except String Bool
  | 0, _ => .ok false
  | n+1, offset => do
    let expected ← generateTotpCode env secret (counter+offset) digits
    if expected=code then pure true else verifyFrom secret code digits counter n (offset+1)

def verifyTotpCode (secret code : Str) (options : TotpVerifyOptions) : Except String Bool :=
  if sixDigits code then
    verifyFrom env secret code options.digits options.counter (2*options.window+1) (-options.window)
  else .ok false

variable {env} {secret code : Str} {key : List UInt8}

theorem truncate_nonneg (hmac : List UInt8) : (truncate hmac).toInt=(truncate hmac).toNat := by
  apply BitVec.toInt_eq_toNat_of_msb
  simp [truncate,byteAt,BitVec.msb_eq_getLsbD_last]

/-- Each step has a code of six digits. -/
theorem exists_code (hkey : base32Decode env.lang secret=.ok key) {counter : ℤ}
    (hfirst : 0≤counter) (hlast : counter < 2^64) :
    ∃ code, generateTotpCode env secret counter 6=.ok code ∧ sixDigits code=true := by
  obtain ⟨buffer,hbuffer⟩ : ∃ buffer, writeBigUInt64BE counter=.ok buffer :=
    ⟨_,if_pos ⟨hfirst,hlast⟩⟩
  have hrest : ∀ n : ℕ, string (Int.tmod n (10^6))=decimal (n%10^6) := by
    intro n
    rw [Int.tmod_eq_emod_of_nonneg (Int.natCast_nonneg n),string,if_neg (by omega)]
    congr 1
  have hten : ∀ d < 10, (Nat.digitChar d).isDigit=true := by decide
  refine ⟨padStart 6 (decimal ((truncate (env.hmac key buffer).val).toNat%10^6)),?_,?_⟩
  · simp only [generateTotpCode,hkey,hbuffer,truncate_nonneg]
    exact congrArg (fun s => Except.ok (padStart 6 s)) (hrest _)
  · unfold sixDigits
    rw [Billing.length_padStart (by omega) (Nat.mod_lt _ (by omega)),Bool.and_eq_true]
    refine ⟨rfl,List.all_eq_true.mpr ?_⟩
    intro c hc
    obtain ⟨d,hd,rfl⟩ := Billing.padStart_chars hc
    exact hten d hd

/-- The loop accepts a code of one of its steps, where all of them have codes. -/
theorem verifyFrom_iff {digits : ℕ} {counter : ℤ} (n : ℕ) : ∀ offset : ℤ,
    (∀ k < n, ∃ expected, generateTotpCode env secret (counter+(offset+k)) digits=.ok expected) →
    ∃ accepted, verifyFrom env secret code digits counter n offset=.ok accepted ∧
      (accepted=true ↔ ∃ k < n, generateTotpCode env secret (counter+(offset+k)) digits=.ok code) := by
  induction n with
  | zero => exact fun _ _ => ⟨false,rfl,by simp⟩
  | succ n ih =>
    intro offset h
    obtain ⟨expected,hexpected⟩ := h 0 (Nat.succ_pos n)
    rw [Nat.cast_zero,add_zero] at hexpected
    have hshift : ∀ k : ℕ, offset+((k+1 : ℕ) : ℤ)=offset+1+k := by
      intro k
      push_cast
      ring
    obtain ⟨accepted,hrest,hiff⟩ := ih (offset+1) fun k hk => by
      rw [← hshift]
      exact h (k+1) (by omega)
    simp only [verifyFrom,hexpected]
    by_cases heq : expected=code
    · refine ⟨true,by simp [heq,pure,Except.pure,bind,Except.bind],?_⟩
      simp only [true_iff]
      exact ⟨0,Nat.succ_pos n,by simpa [heq] using hexpected⟩
    · refine ⟨accepted,by simpa [heq,bind,Except.bind] using hrest,?_⟩
      rw [hiff]
      constructor
      · rintro ⟨k,hk,hcode⟩
        exact ⟨k+1,by omega,hshift k ▸ hcode⟩
      · rintro ⟨k,hk,hcode⟩
        cases k with
        | zero =>
          rw [Nat.cast_zero,add_zero,hexpected] at hcode
          exact absurd (Except.ok.inj hcode) heq
        | succ k => exact ⟨k,by omega,hshift k ▸ hcode⟩

/-- A code is accepted just where it is the code of a step within the window, and each step has a
code of six digits. -/
theorem totp_window (hkey : base32Decode env.lang secret=.ok key) {options : TotpVerifyOptions}
    (hdigits : options.digits=6) (hfirst : options.window≤options.counter)
    (hlast : options.counter+options.window < 2^64) (code : Str) :
    (∃ accepted, verifyTotpCode env secret code options=.ok accepted ∧
      (accepted=true ↔ ∃ step : ℤ, |step-options.counter|≤options.window ∧
        generateTotpCode env secret step 6=.ok code)) ∧
    ∀ step : ℤ, 0 ≤ step → step < 2^64 →
      ∃ code, generateTotpCode env secret step 6=.ok code ∧ sixDigits code=true := by
  refine ⟨?_,fun step => exists_code hkey⟩
  unfold verifyTotpCode
  by_cases hsix : sixDigits code=true
  · rw [if_pos hsix,hdigits]
    obtain ⟨accepted,hloop,hiff⟩ := @verifyFrom_iff env secret code 6 options.counter
      (2*options.window+1) (-options.window) fun k hk =>
        (exists_code hkey (by omega) (by omega)).imp fun _ h => h.1
    refine ⟨accepted,hloop,hiff.trans ?_⟩
    constructor
    · rintro ⟨k,hk,hgenerate⟩
      refine ⟨_,?_,hgenerate⟩
      rw [abs_le]
      omega
    · rintro ⟨step,hstep,hgenerate⟩
      rw [abs_le] at hstep
      refine ⟨(step-options.counter+options.window).toNat,by omega,?_⟩
      rw [Int.toNat_of_nonneg (by omega)]
      convert hgenerate using 2
      ring
  · rw [if_neg hsix]
    refine ⟨false,rfl,?_⟩
    simp only [Bool.false_eq_true,false_iff]
    rintro ⟨step,hstep,hgenerate⟩
    rw [abs_le] at hstep
    obtain ⟨code',hcode,hdigits'⟩ :=
      exists_code hkey (show 0 ≤ step by omega) (show step < 2^64 by omega)
    rw [hgenerate] at hcode
    cases hcode
    exact hsix hdigits'

/-- The digests of the key 12345 for its first three steps. -/
def someEnv : Env where
  lang := .ascii
  hmac := fun _ counter =>
    match counter.getLast? with
    | some 0 => ⟨[224,25,64,107,119,18,7,141,206,231,241,215,120,228,4,184,253,132,36,166],rfl⟩
    | some 1 => ⟨[81,232,180,138,216,141,130,87,108,6,28,202,22,143,7,157,191,252,152,113],rfl⟩
    | _ => ⟨[126,29,44,220,245,64,0,126,124,83,13,125,226,0,59,105,93,58,228,86],rfl⟩

/-- In the second half minute the code of the first is still accepted. -/
theorem totp_window_demo :
    verifyTotpCode someEnv "GEZDGNBV".toList "734055".toList {timestamp := 59000}=.ok true := by
  have hkey : base32Decode .ascii "GEZDGNBV".toList=.ok [49,50,51,52,53] := by decide
  obtain ⟨accepted,haccepted,hiff⟩ := (@totp_window someEnv _ _ hkey {timestamp := 59000}
    rfl (by decide) (by decide) "734055".toList).1
  rw [haccepted,hiff.mpr ⟨0,by decide,by decide⟩]

end AardvarkWms.Totp
