import AardvarkWms.Separators

/-! Queries of a URL as `URLSearchParams` reads and writes them. -/
namespace FormUrlencoded

abbrev Text : Type := List Char

/-- A name and its value. -/
abbrev Param : Type := Text × Text

/-- The bytes of a text. -/
def utf8Encode (s : Text) : List ℕ := s.flatMap fun c => (String.utf8EncodeChar c).map UInt8.toNat

/-- A character of which some bytes are read: what they say, how many are missing, and within which
bounds the next is. -/
structure Pending where
  codePoint : ℕ
  needed : ℕ
  lower : ℕ
  upper : ℕ

def replacement : Char := Char.ofNat 65533

/-- What a byte at the beginning of a character says. -/
def leadByte (b : ℕ) : Char ⊕ Pending :=
  if b < 128 then .inl (Char.ofNat b)
  else if 194≤b && b≤223 then .inr ⟨b-192,1,128,191⟩
  else if 224≤b && b≤239 then
    .inr ⟨b-224,2,if b=224 then 160 else 128,if b=237 then 159 else 191⟩
  else if 240≤b && b≤244 then
    .inr ⟨b-240,3,if b=240 then 144 else 128,if b=244 then 143 else 191⟩
  else .inl replacement

/-- What is no character is read as the replacement character. -/
def utf8Decode (pending : Option Pending) : List ℕ → Text
  | [] => if pending.isSome then [replacement] else []
  | b::bytes =>
    match pending with
    | some p =>
      if p.lower≤b && b≤p.upper then
        if p.needed=1 then Char.ofNat (p.codePoint*64+(b-128))::utf8Decode none bytes
        else utf8Decode (some ⟨p.codePoint*64+(b-128),p.needed-1,128,191⟩) bytes
      else replacement::
        match leadByte b with
        | .inl c => c::utf8Decode none bytes
        | .inr next => utf8Decode (some next) bytes
    | none =>
      match leadByte b with
      | .inl c => c::utf8Decode none bytes
      | .inr next => utf8Decode (some next) bytes

def hexValue (b : ℕ) : Option ℕ :=
  if 48≤b && b≤57 then some (b-48)
  else if 65≤b && b≤70 then some (b-55)
  else if 97≤b && b≤102 then some (b-87)
  else none

/-- A percent sign before two hexadecimal digits and these are one byte. -/
def percentDecode : List ℕ → List ℕ
  | 37::h::l::bytes =>
    match hexValue h, hexValue l with
    | some x, some y => (16*x+y)::percentDecode bytes
    | _, _ => 37::percentDecode (h::l::bytes)
  | b::bytes => b::percentDecode bytes
  | [] => []

/-- A name or a value as it is read. -/
def decode (s : Text) : Text :=
  utf8Decode none (percentDecode ((utf8Encode s).map fun b => if b=43 then 32 else b))

def hexDigit (n : ℕ) : Char := if n < 10 then Char.ofNat (48+n) else Char.ofNat (55+n)

/-- A byte as it is written. -/
def encodeByte (b : ℕ) : Text :=
  if b=32 then ['+']
  else if (48≤b && b≤57) || (65≤b && b≤90) || (97≤b && b≤122) || b∈[42,45,46,95] then [Char.ofNat b]
  else ['%',hexDigit (b/16),hexDigit (b%16)]

def encode (s : Text) : Text := (utf8Encode s).flatMap encodeByte

/-- What stands before the first equals sign. -/
def rawName (part : Text) : Text := part.takeWhile (·≠ '=')

/-- A part of a query; an empty one is not read. -/
def parseParam (part : Text) : Option Param :=
  if part=[] then none
  else some (decode (rawName part),decode ((part.dropWhile (·≠ '=')).drop 1))

/-- `new URLSearchParams(query)` -/
def parse (query : Text) : List Param := (query.splitOn '&').filterMap parseParam

def segment (p : Param) : Text := encode p.1++ '='::encode p.2

/-- `URLSearchParams.prototype.toString` -/
def serialize (params : List Param) : Text := ['&'].intercalate (params.map segment)

/-- The first parameter of the name gets the value, and the others of the name go. -/
def replaceFirst (name value : Text) : List Param → List Param
  | [] => []
  | p::params =>
    if p.1=name then (name,value)::params.filter (·.1≠name) else p::replaceFirst name value params

/-- `URLSearchParams.prototype.set` -/
def set (name value : Text) (params : List Param) : List Param :=
  if params.any (·.1=name) then replaceFirst name value params else params++[(name,value)]

section Setting
variable {name value value' : Text} {p : Param} {params : List Param}

theorem set_cons_of_ne (h : p.1≠name) : set name value (p::params)=p::set name value params := by
  have hany : (p::params).any (·.1=name)=params.any (·.1=name) := by simp [h]
  unfold set
  rw [hany]
  split
  · rw [replaceFirst,if_neg h]
  · rfl

theorem set_cons_self : set name value ((name,value')::params)=
    (name,value)::params.filter (·.1≠name) := by
  have hany : ((name,value')::params).any (·.1=name)=true := by simp
  unfold set
  rw [if_pos hany,replaceFirst,if_pos rfl]

theorem mem_names_set {other : Text} (h : other∈(set name value params).map (·.1)) :
    other=name ∨ other∈params.map (·.1) := by
  have hreplace : ∀ params : List Param, other∈(replaceFirst name value params).map (·.1) →
      other=name ∨ other∈params.map (·.1) := by
    intro params
    induction params with
    | nil => exact fun hmem => Or.inr hmem
    | cons p params ih =>
      intro hmem
      rw [replaceFirst] at hmem
      rw [List.map_cons,List.mem_cons]
      split at hmem
      · cases List.mem_cons.mp hmem with
        | inl hfirst => exact Or.inl hfirst
        | inr hrest =>
          exact Or.inr (Or.inr (List.map_subset Prod.fst (List.filter_subset_self params) hrest))
      · cases List.mem_cons.mp hmem with
        | inl hfirst => exact Or.inr (Or.inl hfirst)
        | inr hrest =>
          cases ih hrest with
          | inl hname => exact Or.inl hname
          | inr hparams => exact Or.inr (Or.inr hparams)
  unfold set at h
  split at h
  · exact hreplace params h
  · rw [List.map_append,List.mem_append] at h
    cases h with
    | inl hparams => exact Or.inr hparams
    | inr hlast => exact Or.inl (List.mem_singleton.mp hlast)

end Setting

theorem encodeByte_plain {b : ℕ} (h : b < 256) : '='∉encodeByte b := by
  have hall : (List.range 256).all (fun b => !(encodeByte b).contains '=')=true := by decide +kernel
  have hb := List.all_eq_true.mp hall b (List.mem_range.mpr h)
  simpa using hb

theorem encode_plain (s : Text) : '='∉encode s := by
  intro hmem
  obtain ⟨b,hb,hequals⟩ := List.mem_flatMap.mp hmem
  obtain ⟨c,_,hc⟩ := List.mem_flatMap.mp hb
  obtain ⟨u,_,rfl⟩ := List.mem_map.mp hc
  exact encodeByte_plain u.toNat_lt hequals

theorem count_serialize (params : List Param) : (serialize params).count '='=params.length := by
  have hsegment : ∀ p : Param, (segment p).count '='=1 := by
    intro p
    unfold segment
    rw [List.count_append,List.count_cons_self,List.count_eq_zero.mpr (encode_plain p.1),
      List.count_eq_zero.mpr (encode_plain p.2)]
  have hstep : ∀ p ps, serialize (p::ps)=
      if ps=[] then segment p else segment p++ '&'::serialize ps := by
    intro p ps
    cases ps with
    | nil => simp [serialize,List.intercalate]
    | cons q ps => exact Separators.join_cons (ps.map segment)
  induction params with
  | nil => rfl
  | cons p ps ih =>
    rw [hstep]
    split
    · rename_i hnil
      rw [hnil,hsegment]
      rfl
    · rw [List.count_append,List.count_cons_of_ne (by decide),hsegment,ih,List.length_cons,
        Nat.add_comm]

end FormUrlencoded
