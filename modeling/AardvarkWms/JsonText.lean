import AardvarkWms.Numerals

/-! Values and the texts that `JSON.stringify` makes of them, and which values have one text. -/
namespace JsonText
open Numerals

def isLead (u : UInt16) : Bool := 0xD800≤u && u≤0xDBFF

def isTrail (u : UInt16) : Bool := 0xDC00≤u && u≤0xDFFF

def hexDigit (n : ℕ) : UInt16 := if n < 10 then UInt16.ofNat (48+n) else UInt16.ofNat (87+n)

def hex4 (u : UInt16) : Text :=
  [hexDigit (u.toNat/4096),hexDigit (u.toNat/256%16),hexDigit (u.toNat/16%16),hexDigit (u.toNat%16)]

/-- The units that have an escape of two characters. -/
def shorts : List (UInt16 × UInt16) :=
  [(unit '"',unit '"'),(unit '\\',unit '\\'),(8,unit 'b'),(9,unit 't'),(10,unit 'n'),(12,unit 'f'),
    (13,unit 'r')]

def escape (u : UInt16) : Text :=
  unit '\\'::match shorts.lookup u with
    | some letter => [letter]
    | none => unit 'u'::hex4 u

def needsEscape (u : UInt16) : Bool :=
  u=unit '"' || u=unit '\\' || u < 0x20 || isLead u || isTrail u

/-- One unit that is not half of a pair. -/
def quoteUnit (u : UInt16) : Text := if needsEscape u then escape u else [u]

/-- A surrogate pair stands as it is; a surrogate by itself is escaped. -/
def quoteUnits : Text → Text
  | [] => []
  | [u] => quoteUnit u
  | u::v::rest =>
    if isLead u && isTrail v then u::v::quoteUnits rest else quoteUnit u++quoteUnits (v::rest)

def quote (s : Text) : Text := unit '"'::(quoteUnits s++[unit '"'])

theorem shorts_facts : ∀ p∈shorts, p.2≠unit 'u' ∧ ∀ q∈shorts, p.2=q.2 → p.1=q.1 := by
  have hall : shorts.all (fun p => p.2≠unit 'u' && shorts.all fun q => p.2≠q.2 || p.1=q.1)=true := by
    decide
  intro p hp
  have hfacts := List.all_eq_true.mp hall p hp
  rw [Bool.and_eq_true] at hfacts
  refine ⟨of_decide_eq_true hfacts.1,fun q hq hsame => ?_⟩
  have heither := List.all_eq_true.mp hfacts.2 q hq
  simpa [hsame] using heither

theorem hexDigit_inj : ∀ n < 16, ∀ m < 16, hexDigit n=hexDigit m → n=m := by decide

theorem hex4_inj {u v : UInt16} (h : hex4 u=hex4 v) : u=v := by
  have hu := u.toNat_lt
  have hv := v.toNat_lt
  simp only [hex4,List.cons.injEq,and_true] at h
  have h3 := hexDigit_inj _ (by omega) _ (by omega) h.1
  have h2 := hexDigit_inj _ (by omega) _ (by omega) h.2.1
  have h1 := hexDigit_inj _ (by omega) _ (by omega) h.2.2.1
  have h0 := hexDigit_inj _ (by omega) _ (by omega) h.2.2.2
  exact UInt16.toNat_inj.mp (by omega)

theorem mem_of_lookup {u letter : UInt16} {table : List (UInt16 × UInt16)}
    (h : table.lookup u=some letter) : (u,letter)∈table := by
  induction table with
  | nil => cases h
  | cons p table ih =>
    rw [List.lookup_cons] at h
    by_cases hp : (u==p.1)=true
    · rw [hp] at h
      cases h
      rw [eq_of_beq hp]
      exact List.mem_cons_self
    · rw [Bool.not_eq_true] at hp
      rw [hp] at h
      exact List.mem_cons_of_mem p (ih h)

theorem escape_inj {u v : UInt16} {x y : Text} (h : escape u++x=escape v++y) : u=v ∧ x=y := by
  unfold escape at h
  have hrest := (List.cons.inj h).2
  cases hu : shorts.lookup u with
  | none =>
    cases hv : shorts.lookup v with
    | none =>
      rw [hu,hv] at hrest
      have hparts := List.append_inj (List.cons.inj hrest).2 rfl
      exact ⟨hex4_inj hparts.1,hparts.2⟩
    | some letter =>
      rw [hu,hv] at hrest
      have hletter := (List.cons.inj hrest).1
      exact absurd hletter.symm (shorts_facts _ (mem_of_lookup hv)).1
  | some letter =>
    cases hv : shorts.lookup v with
    | none =>
      rw [hu,hv] at hrest
      have hletter := (List.cons.inj hrest).1
      exact absurd hletter (shorts_facts _ (mem_of_lookup hu)).1
    | some letter' =>
      rw [hu,hv] at hrest
      have hparts := List.cons.inj hrest
      exact ⟨(shorts_facts _ (mem_of_lookup hu)).2 _ (mem_of_lookup hv) hparts.1,hparts.2⟩

/-- A text with each unit as it is or escaped; quotes and backslashes are escaped. -/
inductive Spelled : Text → Text → Prop
  | nil : Spelled [] []
  | raw {u : UInt16} {s t : Text} (hquote : u≠unit '"') (hslash : u≠unit '\\') (h : Spelled s t) :
      Spelled (u::s) (u::t)
  | escaped {u : UInt16} {s t : Text} (h : Spelled s t) : Spelled (u::s) (escape u++t)

theorem Spelled.unit {u : UInt16} {s t : Text} (h : Spelled s t) :
    Spelled (u::s) (quoteUnit u++t) := by
  unfold quoteUnit
  by_cases hescape : needsEscape u=true
  · rw [if_pos hescape]
    exact Spelled.escaped h
  · rw [if_neg hescape]
    simp only [needsEscape,Bool.or_eq_true,decide_eq_true_eq,not_or] at hescape
    exact Spelled.raw hescape.1.1.1.1 hescape.1.1.1.2 h

theorem isLead_ne {u : UInt16} (h : isLead u=true) : u≠unit '"' ∧ u≠unit '\\' := by
  constructor
  · rintro rfl
    revert h
    decide
  · rintro rfl
    revert h
    decide

theorem isTrail_ne {u : UInt16} (h : isTrail u=true) : u≠unit '"' ∧ u≠unit '\\' := by
  constructor
  · rintro rfl
    revert h
    decide
  · rintro rfl
    revert h
    decide

theorem spelled_quoteUnits (s : Text) : Spelled s (quoteUnits s) := by
  induction s using quoteUnits.induct with
  | case1 => exact Spelled.nil
  | case2 u => simpa [quoteUnits] using Spelled.nil.unit
  | case3 u v rest hpair ih =>
    have hboth := Bool.and_eq_true_iff.mp hpair
    rw [quoteUnits,if_pos hpair]
    exact Spelled.raw (isLead_ne hboth.1).1 (isLead_ne hboth.1).2
      (Spelled.raw (isTrail_ne hboth.2).1 (isTrail_ne hboth.2).2 ih)
  | case4 u v rest hpair ih =>
    rw [quoteUnits,if_neg hpair]
    exact ih.unit

theorem Spelled.inj {s t s' t' r r' : Text} (h : Spelled s t) (h' : Spelled s' t')
    (heq : t++Numerals.unit '"'::r=t'++Numerals.unit '"'::r') : s=s' ∧ r=r' := by
  have hmarks : Numerals.unit '"'≠Numerals.unit '\\' := by decide
  induction h generalizing s' t' with
  | nil =>
    cases h' with
    | nil => exact ⟨rfl,(List.cons.inj heq).2⟩
    | raw hquote hslash h' => exact absurd (List.cons.inj heq).1.symm hquote
    | escaped h' => exact absurd (List.cons.inj heq).1 hmarks
  | raw hquote hslash h ih =>
    cases h' with
    | nil => exact absurd (List.cons.inj heq).1 hquote
    | raw hquote' hslash' h' =>
      have hparts := List.cons.inj heq
      have hrest := ih h' hparts.2
      exact ⟨by rw [hparts.1,hrest.1],hrest.2⟩
    | escaped h' => exact absurd (List.cons.inj heq).1 hslash
  | escaped h ih =>
    cases h' with
    | nil => exact absurd (List.cons.inj heq).1.symm hmarks
    | raw hquote' hslash' h' => exact absurd (List.cons.inj heq).1.symm hslash'
    | escaped h' =>
      rw [List.append_assoc,List.append_assoc] at heq
      have hparts := escape_inj heq
      have hrest := ih h' hparts.2
      exact ⟨by rw [hparts.1,hrest.1],hrest.2⟩

theorem quote_inj {s s' r r' : Text} (h : quote s++r=quote s'++r') : s=s' ∧ r=r' := by
  have hrest : quoteUnits s++unit '"'::r=quoteUnits s'++unit '"'::r' := by simpa [quote] using h
  exact (spelled_quoteUnits s).inj (spelled_quoteUnits s') hrest

/-- A value; a date is known by its ISO text. -/
inductive JsValue
  | undefined
  | null
  | bool (b : Bool)
  | number (x : JsNumber)
  | text (s : Text)
  | date (iso : Text)
  | array (items : List JsValue)
  | object (fields : List (Text × JsValue))

abbrev Fields : Type := List (Text × JsValue)

namespace JsValue

mutual
/-- `JSON.stringify`, where an array has what is undefined as null. -/
def stringify : JsValue → Text
  | .undefined => units "null"
  | .null => units "null"
  | .bool b => units (if b then "true" else "false")
  | .number x => x.toJson
  | .text s => quote s
  | .date iso => quote iso
  | .array [] => units "[]"
  | .array (a::items) => unit '['::(stringify a++stringifyItems items)
  | .object [] => units "\x7b\x7d"
  | .object ((key,a)::fields) =>
    unit '\x7b'::(quote key++unit ':'::(stringify a++stringifyFields fields))

def stringifyItems : List JsValue → Text
  | [] => [unit ']']
  | a::items => unit ','::(stringify a++stringifyItems items)

def stringifyFields : Fields → Text
  | [] => [unit '\x7d']
  | (key,a)::fields => unit ','::(quote key++unit ':'::(stringify a++stringifyFields fields))
end

mutual
/-- A value that is written as itself: nothing in it is undefined, a date or not finite. -/
def IsPlain : JsValue → Prop
  | .undefined => False
  | .null => True
  | .bool _ => True
  | .number x => x.IsFinite
  | .text _ => True
  | .date _ => False
  | .array items => PlainItems items
  | .object fields => PlainFields fields

def PlainItems : List JsValue → Prop
  | [] => True
  | a::items => IsPlain a ∧ PlainItems items

def PlainFields : Fields → Prop
  | [] => True
  | (_,a)::fields => IsPlain a ∧ PlainFields fields
end

/-- What may come after a value. -/
def Ended (r : Text) : Prop := ∀ u∈r.head?, u=unit ',' ∨ u=unit ']' ∨ u=unit '\x7d'

/-- What a value's first unit tells of it. -/
def kindOf (u : UInt16) : ℕ :=
  if u=unit 'n' then 0
  else if u=unit 't' then 1
  else if u=unit 'f' then 2
  else if u=unit '"' then 3
  else if u=unit '[' then 4
  else if u=unit '\x7b' then 5
  else if isNumberUnit u then 6
  else 7

def kind : JsValue → ℕ
  | .undefined => 0
  | .null => 0
  | .bool true => 1
  | .bool false => 2
  | .text _ => 3
  | .date _ => 3
  | .array _ => 4
  | .object _ => 5
  | .number _ => 6

theorem kindOf_digit : ∀ d < 10, kindOf (UInt16.ofNat (48+d))=6 := by decide

theorem kind_le (v : JsValue) : v.kind < 7 := by
  cases v with
  | bool b => cases b <;> decide
  | _ => simp [kind]

theorem kindOf_number {u : UInt16} (h : isNumberUnit u=true) : kindOf u=6 := by
  cases Bool.or_eq_true_iff.mp h with
  | inl hdigit =>
    obtain ⟨d,hd,rfl⟩ := List.mem_map.mp (of_decide_eq_true hdigit)
    exact kindOf_digit d (List.mem_range.mp hd)
  | inr hsign =>
    have hmem := of_decide_eq_true hsign
    simp only [List.mem_cons,List.not_mem_nil,or_false] at hmem
    rcases hmem with rfl|rfl|rfl|rfl <;> decide

theorem stringify_kind {v : JsValue} (h : v.IsPlain) :
    ∃ u rest, v.stringify=u::rest ∧ kindOf u=v.kind := by
  have hquote : kindOf (unit '"')=3 := by decide
  have harray : kindOf (unit '[')=4 := by decide
  have hobject : kindOf (unit '\x7b')=5 := by decide
  cases v with
  | undefined => cases h
  | date _ => cases h
  | null => exact ⟨_,_,rfl,by decide⟩
  | bool b => cases b <;> exact ⟨_,_,rfl,by decide⟩
  | text s => exact ⟨_,_,rfl,hquote⟩
  | array items => cases items <;> exact ⟨_,_,rfl,harray⟩
  | object fields => cases fields <;> exact ⟨_,_,rfl,hobject⟩
  | number x =>
    cases hx : x.toJson with
    | nil => exact absurd hx (JsNumber.toJson_ne_nil h)
    | cons u rest =>
      have hunit := JsNumber.toJson_units h u (by rw [hx]; exact List.mem_cons_self)
      exact ⟨u,rest,hx,kindOf_number hunit⟩

theorem stringify_not_closed {v : JsValue} (h : v.IsPlain) {u : UInt16} (hu : kindOf u=7)
    {t r r' : Text} : v.stringify++t++r≠u::r' := by
  obtain ⟨u',rest,heq,hkind⟩ := stringify_kind h
  have hlt := kind_le v
  intro hsame
  rw [heq] at hsame
  rw [(List.cons.inj hsame).1,hu] at hkind
  omega

theorem kind_eq {v w : JsValue} (hv : v.IsPlain) (hw : w.IsPlain) {r r' : Text}
    (h : v.stringify++r=w.stringify++r') : v.kind=w.kind := by
  obtain ⟨u,rest,heq,hkind⟩ := stringify_kind hv
  obtain ⟨u',rest',heq',hkind'⟩ := stringify_kind hw
  rw [heq,heq'] at h
  rw [← hkind,← hkind',(List.cons.inj h).1]

theorem ended_items (items : List JsValue) (r : Text) : Ended (stringifyItems items++r) := by
  cases items with
  | nil => exact fun u hu => Or.inr (Or.inl (Option.some.inj hu).symm)
  | cons a items => exact fun u hu => Or.inl (Option.some.inj hu).symm

theorem ended_fields (fields : Fields) (r : Text) : Ended (stringifyFields fields++r) := by
  cases fields with
  | nil => exact fun u hu => Or.inr (Or.inr (Option.some.inj hu).symm)
  | cons f fields => exact fun u hu => Or.inl (Option.some.inj hu).symm

theorem notNumber_of_ended {r : Text} (h : Ended r) : ∀ u∈r.head?, isNumberUnit u=false := by
  intro u hu
  rcases h u hu with rfl|rfl|rfl <;> decide

theorem run_inj {p : UInt16 → Bool} {s s' r r' : Text} (hs : ∀ u∈s, p u=true)
    (hs' : ∀ u∈s', p u=true) (hr : ∀ u∈r.head?, p u=false) (hr' : ∀ u∈r'.head?, p u=false)
    (h : s++r=s'++r') : s=s' ∧ r=r' := by
  have hstop : ∀ t : Text, (∀ u∈t.head?, p u=false) → t.takeWhile p=[] := by
    intro t ht
    cases t with
    | nil => rfl
    | cons u t => simp [ht u rfl]
  have htake : s=s' := by
    have hboth := congrArg (List.takeWhile p) h
    rwa [List.takeWhile_append_of_pos hs,List.takeWhile_append_of_pos hs',hstop r hr,hstop r' hr',
      List.append_nil,List.append_nil] at hboth
  subst htake
  exact ⟨rfl,(List.append_right_inj s).mp h⟩

theorem number_inj {x y : JsNumber} {r r' : Text} (hx : x.IsFinite) (hy : y.IsFinite) (hr : Ended r)
    (hr' : Ended r') (h : x.toJson++r=y.toJson++r') : x=y ∧ r=r' := by
  have hparts := run_inj (JsNumber.toJson_units hx) (JsNumber.toJson_units hy)
    (notNumber_of_ended hr) (notNumber_of_ended hr') h
  exact ⟨JsNumber.toJson_inj hx hy hparts.1,hparts.2⟩

theorem array_inj {items items' : List JsValue} {r r' : Text} (hv : PlainItems items)
    (hw : PlainItems items') (hitems : ∀ r r', stringifyItems items++r=stringifyItems items'++r' →
      items=items' ∧ r=r')
    (h : (JsValue.array items).stringify++r=(JsValue.array items').stringify++r') :
    items=items' ∧ r=r' := by
  cases items with
  | nil =>
    cases items' with
    | nil => exact ⟨rfl,List.append_cancel_left h⟩
    | cons b items' => exact absurd (List.cons.inj h).2.symm (stringify_not_closed hw.1 (by decide))
  | cons a items =>
    cases items' with
    | nil => exact absurd (List.cons.inj h).2 (stringify_not_closed hv.1 (by decide))
    | cons b items' => exact hitems r r' (congrArg (List.cons (unit ',')) (List.cons.inj h).2)

theorem object_inj {fields fields' : Fields} {r r' : Text}
    (hfields : ∀ r r', stringifyFields fields++r=stringifyFields fields'++r' →
      fields=fields' ∧ r=r')
    (h : (JsValue.object fields).stringify++r=(JsValue.object fields').stringify++r') :
    fields=fields' ∧ r=r' := by
  have hmarks : unit '\x7d'≠unit '"' := by decide
  cases fields with
  | nil =>
    cases fields' with
    | nil => exact ⟨rfl,List.append_cancel_left h⟩
    | cons g fields' => exact absurd (List.cons.inj (List.cons.inj h).2).1 hmarks
  | cons f fields =>
    cases fields' with
    | nil => exact absurd (List.cons.inj (List.cons.inj h).2).1.symm hmarks
    | cons g fields' => exact hfields r r' (congrArg (List.cons (unit ',')) (List.cons.inj h).2)

mutual
theorem stringify_inj : ∀ (v w : JsValue) (r r' : Text), v.IsPlain → w.IsPlain → Ended r →
    Ended r' → v.stringify++r=w.stringify++r' → v=w ∧ r=r' := by
  intro v w r r' hv hw hr hr' h
  have hkind := kind_eq hv hw h
  cases v with
  | undefined => cases hv
  | date _ => cases hv
  | null =>
    cases w with
    | null => exact ⟨rfl,List.append_cancel_left h⟩
    | undefined => cases hw
    | bool b => cases b <;> cases hkind
    | _ => cases hkind
  | bool b =>
    cases w with
    | bool b' =>
      have hb : b=b' := by cases b <;> cases b' <;> first | rfl | cases hkind
      subst hb
      exact ⟨rfl,List.append_cancel_left h⟩
    | _ => cases b <;> cases hkind
  | number x =>
    cases w with
    | number y =>
      have hparts := number_inj hv hw hr hr' h
      exact ⟨congrArg JsValue.number hparts.1,hparts.2⟩
    | bool b => cases b <;> cases hkind
    | _ => cases hkind
  | text s =>
    cases w with
    | text s' =>
      have hparts := quote_inj h
      exact ⟨congrArg JsValue.text hparts.1,hparts.2⟩
    | date _ => cases hw
    | bool b => cases b <;> cases hkind
    | _ => cases hkind
  | array items =>
    cases w with
    | array items' =>
      have hitems := array_inj hv hw (fun r r' => stringifyItems_inj items items' r r' hv hw) h
      exact ⟨congrArg JsValue.array hitems.1,hitems.2⟩
    | bool b => cases b <;> cases hkind
    | _ => cases hkind
  | object fields =>
    cases w with
    | object fields' =>
      have hfields := object_inj (fun r r' => stringifyFields_inj fields fields' r r' hv hw) h
      exact ⟨congrArg JsValue.object hfields.1,hfields.2⟩
    | bool b => cases b <;> cases hkind
    | _ => cases hkind

theorem stringifyItems_inj : ∀ (items items' : List JsValue) (r r' : Text), PlainItems items →
    PlainItems items' → stringifyItems items++r=stringifyItems items'++r' →
    items=items' ∧ r=r' := by
  intro items items' r r' hv hw h
  have hmarks : unit ']'≠unit ',' := by decide
  cases items with
  | nil =>
    cases items' with
    | nil => exact ⟨rfl,(List.cons.inj h).2⟩
    | cons b items' => exact absurd (List.cons.inj h).1 hmarks
  | cons a items =>
    cases items' with
    | nil => exact absurd (List.cons.inj h).1.symm hmarks
    | cons b items' =>
      have hrest : a.stringify++(stringifyItems items++r)=b.stringify++(stringifyItems items'++r') := by
        rw [← List.append_assoc,← List.append_assoc]
        exact (List.cons.inj h).2
      have hfirst := stringify_inj a b _ _ hv.1 hw.1 (ended_items items r) (ended_items items' r') hrest
      have htail := stringifyItems_inj items items' r r' hv.2 hw.2 hfirst.2
      rw [hfirst.1,htail.1]
      exact ⟨rfl,htail.2⟩

theorem stringifyFields_inj : ∀ (fields fields' : Fields) (r r' : Text), PlainFields fields →
    PlainFields fields' → stringifyFields fields++r=stringifyFields fields'++r' →
    fields=fields' ∧ r=r' := by
  intro fields fields' r r' hv hw h
  have hmarks : unit '\x7d'≠unit ',' := by decide
  cases fields with
  | nil =>
    cases fields' with
    | nil => exact ⟨rfl,(List.cons.inj h).2⟩
    | cons g fields' => exact absurd (List.cons.inj h).1 hmarks
  | cons f fields =>
    rcases f with ⟨key,a⟩
    cases fields' with
    | nil => exact absurd (List.cons.inj h).1.symm hmarks
    | cons g fields' =>
      rcases g with ⟨key',b⟩
      have hrest : quote key++unit ':'::(a.stringify++(stringifyFields fields++r))=
          quote key'++unit ':'::(b.stringify++(stringifyFields fields'++r')) := by
        have htail := (List.cons.inj h).2
        simpa only [List.append_eq,List.append_assoc,List.cons_append] using htail
      have hkey := quote_inj hrest
      have hfirst := stringify_inj a b _ _ hv.1 hw.1 (ended_fields fields r)
        (ended_fields fields' r') (List.cons.inj hkey.2).2
      have htail := stringifyFields_inj fields fields' r r' hv.2 hw.2 hfirst.2
      rw [hkey.1,hfirst.1,htail.1]
      exact ⟨rfl,htail.2⟩
end

end JsValue

end JsonText
