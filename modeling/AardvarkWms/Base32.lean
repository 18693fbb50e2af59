import AardvarkWms.BitGroups
import AardvarkWms.MasterCodes
import Mathlib.Data.List.DropRight

/-! The secrets of one-time passwords as text: `src/auth/mfa-totp.helpers.ts`. -/
namespace AardvarkWms.Base32

open Messaging (Str isWhiteSpace)
open ProductMaster (UpperCasing upper_ascii)
open BitGroups (low)

def BASE32_ALPHABET : Str := "ABCDEFGHIJKLMNOPQRSTUVWXYZ234567".toList

/-- The letter of the five lowest bits. -/
def letter (value : BitVec 32) : Char := BASE32_ALPHABET.getD (value &&& 31#32).toNat 'A'

/-- What the inner loop writes, and how many bits it leaves. -/
def emit (value : BitVec 32) : ℕ → Str × ℕ
  | n+5 => (letter (value >>> n)::(emit value n).1,(emit value n).2)
  | n => ([],n)

/-- The accumulator is as wide as the language's shifts make it. -/
def encodeFrom (bits : ℕ) (value : BitVec 32) : List UInt8 → Str
  | [] => if 0 < bits then [letter (value <<< (5-bits))] else []
  | byte::bytes =>
    let value := value <<< 8 ||| byte.toBitVec.setWidth 32
    let written := emit value (bits+8)
    written.1++encodeFrom written.2 value bytes

def base32Encode (buffer : List UInt8) : Str := encodeFrom 0 0#32 buffer

def decodeFrom (bits : ℕ) (buffer : BitVec 32) : Str → Except String (List UInt8)
  | [] => .ok []
  | c::s =>
    match BASE32_ALPHABET.findIdx? (·=c) with
    | none => .error "Invalid base32 secret"
    | some index =>
      let buffer := buffer <<< 5 ||| BitVec.ofNat 32 index
      if 8≤bits+5 then
        (decodeFrom (bits+5-8) buffer s).map
          (UInt8.ofBitVec ((buffer >>> (bits+5-8) &&& 255#32).setWidth 8)::·)
      else decodeFrom (bits+5) buffer s

/-- The padding goes where the text ends with it, then all white space. -/
def clean (lang : UpperCasing) (value : Str) : Str :=
  lang.toUpperCase ((value.rdropWhile (·= '=')).filter (!isWhiteSpace ·))

def base32Decode (lang : UpperCasing) (value : Str) : Except String (List UInt8) :=
  decodeFrom 0 0#32 (clean lang value)

/-- A text that is the encoded one but for the case of its letters, white space, and padding. -/
def Respells (lang : UpperCasing) (encoded value : Str) : Prop :=
  ∃ letters padding, value.filter (!isWhiteSpace ·)=letters++padding ∧ '='∉letters ∧
    (∀ c∈padding, c= '=') ∧ lang.toUpperCase letters=encoded

/-- Nothing comes after the padding. -/
def PaddedLast (value : Str) : Prop := '='∉value.rdropWhile (·= '=')

instance decidablePaddedLast (value : Str) : Decidable (PaddedLast value) :=
  inferInstanceAs (Decidable ('='∉value.rdropWhile (·= '=')))

section Digits
variable {d : BitVec 5} {value : BitVec 32}

/-- The letter of a digit. -/
def digitLetter (d : BitVec 5) : Char := letter (d.setWidth 32)

theorem letter_eq (value : BitVec 32) : letter value=digitLetter (value.setWidth 5) := by
  have hsame : value &&& 31#32=(value.setWidth 5).setWidth 32 &&& 31#32 := by
    refine BitVec.eq_of_getLsbD_eq fun i hi => ?_
    rw [BitVec.getLsbD_and,BitVec.getLsbD_and,BitVec.getLsbD_setWidth,BitVec.getLsbD_setWidth]
    by_cases hlow : i < 5
    · simp [hi,hlow]
    · have hhigh : (31#32).getLsbD i=false := by
        have hall : ∀ i < 32, 5 ≤ i → (31#32).getLsbD i=false := by decide
        exact hall i hi (by omega)
      rw [hhigh,Bool.and_false,Bool.and_false]
  unfold digitLetter letter
  rw [hsame]

theorem findIdx_letter (d : BitVec 5) :
    BASE32_ALPHABET.findIdx? (·=digitLetter d)=some d.toNat := by
  have hall : ∀ d : BitVec 5, BASE32_ALPHABET.findIdx? (·=digitLetter d)=some d.toNat := by decide
  exact hall d

end Digits

section Loops
variable {bytes : List UInt8} {digits : List (BitVec 5)}

/-- The bits of some digits. -/
def digitBits (digits : List (BitVec 5)) : List Bool := digits.flatMap fun d => low d 5

def byteBits (bytes : List UInt8) : List Bool := bytes.flatMap fun b => low b.toBitVec 8

theorem digitBits_cons (d : BitVec 5) (digits : List (BitVec 5)) :
    digitBits (d::digits)=low d 5++digitBits digits := List.flatMap_cons

theorem byteBits_cons (b : UInt8) (bytes : List UInt8) :
    byteBits (b::bytes)=low b.toBitVec 8++byteBits bytes := List.flatMap_cons

theorem emit_spec (value : BitVec 32) (n : ℕ) : (emit value n).2 < 5 ∧
    ∃ digits : List (BitVec 5), (emit value n).1=digits.map digitLetter ∧
      digitBits digits++low value (emit value n).2=low value n := by
  induction n using emit.induct with
  | case1 n ih =>
    obtain ⟨hfew,digits,hwritten,hbits⟩ := ih
    refine ⟨hfew,(value >>> n).setWidth 5::digits,?_,?_⟩
    · rw [emit,letter_eq,hwritten,List.map_cons]
    · have hsum := BitGroups.low_add value 5 n
      rw [Nat.add_comm] at hsum
      rw [emit,digitBits_cons,BitGroups.low_setWidth,List.append_assoc,hbits]
      exact hsum.symm
  | case2 n hsmall =>
    have hn : n < 5 := by
      by_contra hlong
      exact hsmall (n-5) (by omega)
    have hstop : emit value n=([],n) := by
      rw [emit]
      exact hsmall
    rw [hstop]
    exact ⟨hn,[],rfl,rfl⟩

/-- What is written has the bits that were left and those of the bytes, and less than a digit of
zeros behind them. -/
theorem encodeFrom_spec (bytes : List UInt8) : ∀ (bits : ℕ) (value : BitVec 32), bits < 5 →
    ∃ (digits : List (BitVec 5)) (p : ℕ), encodeFrom bits value bytes=digits.map digitLetter ∧
      p < 5 ∧ digitBits digits=low value bits++(byteBits bytes++List.replicate p false) := by
  induction bytes with
  | nil =>
    intro bits value hbits
    by_cases hnone : 0 < bits
    · refine ⟨[(value <<< (5-bits)).setWidth 5],5-bits,?_,by omega,?_⟩
      · rw [encodeFrom,if_pos hnone,letter_eq]
        rfl
      · have hfive : bits+(5-bits)=5 := by omega
        have hshift := @BitGroups.low_shift_zero 32 (5-bits) bits value (by omega)
        rw [hfive] at hshift
        rw [digitBits_cons,BitGroups.low_setWidth,hshift]
        exact List.append_nil _
    · have hzero : bits=0 := by omega
      subst hzero
      exact ⟨[],0,rfl,by decide,rfl⟩
  | cons byte bytes ih =>
    intro bits value hbits
    have hemit := emit_spec (value <<< 8 ||| byte.toBitVec.setWidth 32) (bits+8)
    obtain ⟨hfew,digits,hwritten,hfirst⟩ := hemit
    obtain ⟨later,p,hlater,hp,hrest⟩ := ih _ (value <<< 8 ||| byte.toBitVec.setWidth 32) hfew
    refine ⟨digits++later,p,?_,hp,?_⟩
    · rw [encodeFrom,List.map_append,← hwritten,← hlater]
    · have hshift := @BitGroups.low_shift 32 8 bits value byte.toBitVec (by omega)
      calc digitBits (digits++later)=digitBits digits++digitBits later := List.flatMap_append
        _=(digitBits digits++low (value <<< 8 ||| byte.toBitVec.setWidth 32)
            (emit (value <<< 8 ||| byte.toBitVec.setWidth 32) (bits+8)).2)++
            (byteBits bytes++List.replicate p false) := by rw [hrest,List.append_assoc]
        _=low value bits++(byteBits (byte::bytes)++List.replicate p false) := by
          rw [hfirst,hshift,byteBits_cons,List.append_assoc,List.append_assoc]

/-- What is read has the bits of the digits but for the last, which are less than a byte. -/
theorem decodeFrom_spec (digits : List (BitVec 5)) : ∀ (bits : ℕ) (buffer : BitVec 32), bits < 8 →
    ∃ bytes rest, decodeFrom bits buffer (digits.map digitLetter)=.ok bytes ∧
      rest.length < 8 ∧ byteBits bytes++rest=low buffer bits++digitBits digits := by
  induction digits with
  | nil =>
    intro bits buffer hbits
    refine ⟨[],low buffer bits,rfl,?_,?_⟩
    · rw [BitGroups.low_length]
      exact hbits
    · exact (List.append_nil _).symm
  | cons d digits ih =>
    intro bits buffer hbits
    have hshift := @BitGroups.low_shift 32 5 bits buffer d (by omega)
    rw [List.map_cons,decodeFrom,findIdx_letter]
    simp only [BitVec.ofNat_toNat]
    generalize buffer <<< 5 ||| d.setWidth 32=shifted at hshift ⊢
    by_cases hfull : 8≤bits+5
    · obtain ⟨bytes,rest,hread,hrest,hbytes⟩ := ih (bits+5-8) shifted (by omega)
      rw [if_pos hfull,hread]
      refine ⟨_,rest,rfl,hrest,?_⟩
      have hsplit : low shifted (bits+5)=low (shifted >>> (bits+5-8)) 8++low shifted (bits+5-8) := by
        have height : bits+5=8+(bits+5-8) := by omega
        conv_lhs => rw [height]
        exact BitGroups.low_add _ _ _
      have hbyte : low ((shifted >>> (bits+5-8) &&& 255#32).setWidth 8) 8=
          low (shifted >>> (bits+5-8)) 8 := by
        rw [BitGroups.low_setWidth]
        refine BitGroups.low_congr fun i hi => ?_
        have hmask : ∀ i < 8, (255#32).getLsbD i=true := by decide
        rw [BitVec.getLsbD_and,hmask i hi,Bool.and_true]
      rw [byteBits_cons,List.append_assoc,hbytes,digitBits_cons,← List.append_assoc _ (low d 5),← hshift,
        hsplit,List.append_assoc]
      exact congrArg (·++_) hbyte
    · obtain ⟨bytes,rest,hread,hrest,hbytes⟩ := ih (bits+5) shifted (by omega)
      rw [if_neg hfull]
      refine ⟨bytes,rest,hread,hrest,?_⟩
      rw [hbytes,hshift,digitBits_cons,List.append_assoc]

theorem decodeFrom_encode (bytes : List UInt8) :
    decodeFrom 0 0#32 (base32Encode bytes)=.ok bytes := by
  obtain ⟨digits,p,hwritten,hp,hbits⟩ := encodeFrom_spec bytes 0 0#32 (by decide)
  obtain ⟨read,rest,hread,hrest,hreadBits⟩ := decodeFrom_spec digits 0 0#32 (by decide)
  rw [hbits] at hreadBits
  have hpad : (List.replicate p false).length < 8 := by
    rw [List.length_replicate]
    omega
  have hsame := BitGroups.groups_inj (fun b : UInt8 => BitGroups.low_length b.toBitVec 8)
    (fun a b hab => UInt8.eq_of_toBitVec_eq (BitGroups.low_inj hab)) hrest hpad hreadBits
  unfold base32Encode
  rw [hwritten,hread,hsame.1]

end Loops

section Spellings
variable {lang : UpperCasing} {bytes : List UInt8} {value s : Str}

theorem digitLetter_plain (d : BitVec 5) : digitLetter d≠ '=' ∧ isWhiteSpace (digitLetter d)=false ∧
    (digitLetter d).toNat < 128 ∧ (digitLetter d).toUpper=digitLetter d := by
  have hall : ∀ d : BitVec 5, digitLetter d≠ '=' ∧ isWhiteSpace (digitLetter d)=false ∧
      (digitLetter d).toNat < 128 ∧ (digitLetter d).toUpper=digitLetter d := by decide
  exact hall d

theorem base32Encode_letters (bytes : List UInt8) :
    ∃ digits : List (BitVec 5), base32Encode bytes=digits.map digitLetter := by
  obtain ⟨digits,_,hwritten,_⟩ := encodeFrom_spec bytes 0 0#32 (by decide)
  exact ⟨digits,hwritten⟩

theorem respells_self (lang : UpperCasing) (bytes : List UInt8) :
    Respells lang (base32Encode bytes) (base32Encode bytes) ∧ '='∉base32Encode bytes := by
  obtain ⟨digits,hdigits⟩ := base32Encode_letters bytes
  have hplain : '='∉base32Encode bytes := by
    rw [hdigits]
    intro hmem
    obtain ⟨d,_,hd⟩ := List.mem_map.mp hmem
    exact (digitLetter_plain d).1 hd
  have hsolid : (base32Encode bytes).filter (!isWhiteSpace ·)=base32Encode bytes := by
    rw [List.filter_eq_self,hdigits]
    intro c hc
    obtain ⟨d,_,hd⟩ := List.mem_map.mp hc
    rw [← hd,(digitLetter_plain d).2.1]
    rfl
  have hupper : lang.toUpperCase (base32Encode bytes)=base32Encode bytes := by
    have hascii : isAscii (base32Encode bytes)=true := by
      rw [hdigits]
      refine List.all_eq_true.mpr fun c hc => ?_
      obtain ⟨d,_,hd⟩ := List.mem_map.mp hc
      rw [← hd]
      exact decide_eq_true (digitLetter_plain d).2.2.1
    rw [lang.toUpperCase_ascii _ hascii,hdigits,List.map_map]
    exact List.map_congr_left fun d _ => (digitLetter_plain d).2.2.2
  exact ⟨⟨_,[],by rw [hsolid,List.append_nil],hplain,fun _ hc => absurd hc List.not_mem_nil,hupper⟩,hplain⟩

theorem decodeFrom_refused {c : Char} (hc : c∉BASE32_ALPHABET) (hmem : c∈s) : ∀ bits buffer bytes,
    decodeFrom bits buffer s≠.ok bytes := by
  induction s with
  | nil => cases hmem
  | cons a s ih =>
    intro bits buffer bytes hread
    rw [decodeFrom] at hread
    split at hread
    · cases hread
    · rename_i index hindex
      have hrest : c∈s := by
        cases List.mem_cons.mp hmem with
        | inr hlater => exact hlater
        | inl hfirst =>
          have hnone : BASE32_ALPHABET.findIdx? (·=a)=none := by
            rw [List.findIdx?_eq_none_iff]
            intro b hb
            rw [decide_eq_false_iff_not]
            intro hsame
            exact hc (hfirst ▸ hsame ▸ hb)
          rw [hnone] at hindex
          cases hindex
      simp only at hread
      split at hread
      · cases hlater : decodeFrom (bits+5-8) (buffer <<< 5 ||| BitVec.ofNat 32 index) s with
        | error message =>
          rw [hlater] at hread
          cases hread
        | ok read => exact ih hrest _ _ _ hlater
      · exact ih hrest _ _ _ hread

/-- Where something comes after the padding, it is not dropped, and the text is refused. -/
theorem paddedLast_of_decode (h : base32Decode lang value=.ok bytes) : PaddedLast value := by
  intro hmem
  have hequals : '='∈clean lang value := by
    unfold clean
    rw [lang.toUpperCase_eq]
    refine List.mem_flatMap.mpr ⟨'=',List.mem_filter.mpr ⟨hmem,by decide⟩,?_⟩
    rw [upper_ascii (by decide)]
    decide
  exact decodeFrom_refused (by decide) hequals _ _ _ h

theorem clean_respells {encoded : Str} (h : Respells lang encoded value) (hlast : PaddedLast value) :
    clean lang value=encoded := by
  obtain ⟨letters,padding,hsolid,hletters,hpadding,hupper⟩ := h
  have hsplit : value=value.rdropWhile (·= '=')++value.rtakeWhile (·= '=') :=
    (List.rdropWhile_append_rtakeWhile).symm
  have htaken : ∀ c∈(value.rtakeWhile (·= '=')).filter (!isWhiteSpace ·), c= '=' := fun c hc => by
    simpa using List.mem_rtakeWhile_imp (List.mem_of_mem_filter hc)
  have hkept : '='∉(value.rdropWhile (·= '=')).filter (!isWhiteSpace ·) := fun hc =>
    hlast (List.mem_of_mem_filter hc)
  have hboth : letters++padding=(value.rdropWhile (·= '=')).filter (!isWhiteSpace ·)++
      (value.rtakeWhile (·= '=')).filter (!isWhiteSpace ·) := by
    rw [← hsolid,← List.filter_append,← hsplit]
  have hfront : ∀ {s t : Str}, '='∉s → (∀ c∈t, c= '=') → (s++t).filter (·≠ '=')=s := by
    intro s t hs ht
    rw [List.filter_append]
    have hall : s.filter (·≠ '=')=s := List.filter_eq_self.mpr fun c hc =>
      decide_eq_true fun hsame => hs (hsame ▸ hc)
    have hnone : t.filter (·≠ '=')=[] := List.filter_eq_nil_iff.mpr fun c hc => by
      rw [ht c hc]
      decide
    rw [hall,hnone,List.append_nil]
  have hsame := congrArg (List.filter (·≠ '=')) hboth
  rw [hfront hletters hpadding,hfront hkept htaken] at hsame
  unfold clean
  rw [← hsame,hupper]

/-- The bytes come back from their text, and from each spelling of it with nothing behind its padding. -/
theorem base32_round_trip (lang : UpperCasing) (bytes : List UInt8) (value : Str)
    (h : Respells lang (base32Encode bytes) value) :
    base32Decode lang (base32Encode bytes)=.ok bytes ∧
      (base32Decode lang value=.ok bytes ↔ PaddedLast value) := by
  have hread : ∀ {value}, Respells lang (base32Encode bytes) value → PaddedLast value →
      base32Decode lang value=.ok bytes := by
    intro value hvalue hlast
    unfold base32Decode
    rw [clean_respells hvalue hlast,decodeFrom_encode]
  have hself := respells_self lang bytes
  refine ⟨hread hself.1 fun hmem => hself.2 ?_,paddedLast_of_decode,hread h⟩
  exact (List.rdropWhile_prefix _ _).subset hmem

/-- The four bytes 0xDE 0xAD 0xBE 0xEF, in lower case, with a blank and padding. -/
theorem base32_round_trip_demo :
    base32Decode .ascii "32w3 53y=".toList=.ok [222,173,190,239] := by
  have h : Respells .ascii (base32Encode [222,173,190,239]) "32w3 53y=".toList :=
    ⟨"32w353y".toList,"=".toList,by decide,by decide,by simp,by decide⟩
  exact (base32_round_trip .ascii [222,173,190,239] "32w3 53y=".toList h).2.mpr (by decide)

/-- The same with a line feed behind the padding. -/
theorem base32_padding_and_line :
    Respells .ascii (base32Encode [222,173,190,239]) "32W353Y=\n".toList ∧
      base32Decode .ascii "32W353Y=\n".toList=.error "Invalid base32 secret" := by
  refine ⟨⟨"32W353Y".toList,"=".toList,by decide,by decide,by simp,by decide⟩,by decide⟩

end Spellings

end AardvarkWms.Base32
