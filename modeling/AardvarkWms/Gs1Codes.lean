import AardvarkWms.ScannerInput

/-! GS1 element strings, as they are written and read again. -/
namespace AardvarkWms.Scans

open Messaging (Str trim isWhiteSpace)

/-- The table's column of the values that are numbers. -/
def SupportedAi.numeric (d : SupportedAi) : Bool :=
  d.ai∈["00".toList,"01".toList,"17".toList,"37".toList]

def ApplicationIdentifiers.at (ais : ApplicationIdentifiers) (ai : Str) : Option Str :=
  (ais.find? fun e => e.1=ai).map (·.2)

/-- The warnings about one value. -/
def aiWarnings (d : SupportedAi) (value : Str) : List Str :=
  (match d.fixedLength with
    | some n => if (codeUnits value).length≠n then
        ["GS1 identifier ".toList++d.ai++" must be ".toList++n.repr.toList++" characters.".toList]
      else []
    | none => [])++
  (if d.maxLength < (codeUnits value).length then
    ["GS1 identifier ".toList++d.ai++" exceeds maximum length ".toList++d.maxLength.repr.toList++
      ".".toList]
  else [])++
  if d.numeric && !(value≠[] && value.all Char.isDigit) then
    ["GS1 identifier ".toList++d.ai++" must be numeric.".toList]
  else []

def validateGs1AiValues (aiValues : ApplicationIdentifiers) : List Str :=
  supportedAis.flatMap fun d => ((aiValues.at d.ai).map (aiWarnings d)).getD []

/-- The characters that a GS1 value is made of. -/
def isGs1Char (c : Char) : Bool := c.isAlphanum || c∈"!\"%&'()*+,-./:;<=>?_".toList

/-- An identifier that is supported with a value of its length. -/
def IsElement (e : Str × Str) : Prop :=
  ∃ d∈supportedAis, d.ai=e.1 ∧ e.2.all isGs1Char=true ∧ 1≤e.2.length ∧ e.2.length≤d.maxLength ∧
    ∀ n∈d.fixedLength, e.2.length=n

instance decidableIsElement (e : Str × Str) : Decidable (IsElement e) :=
  inferInstanceAs (Decidable (∃ d∈supportedAis, d.ai=e.1 ∧ e.2.all isGs1Char=true ∧ 1≤e.2.length ∧
    e.2.length≤d.maxLength ∧ ∀ n∈d.fixedLength, e.2.length=n))

def isVariable (ai : Str) : Bool := supportedAis.any fun d => d.ai=ai && d.fixedLength.isNone

/-- What tells a variable value apart from the next element. The last one may have it too. -/
def separatorAfter (closed last : Bool) (ai : Str) : Str :=
  if isVariable ai && (closed || !last) then [groupSeparator] else []

/-- An element string. -/
def encodeGs1 (closed : Bool) : List (Str × Str) → Str
  | [] => []
  | e::elements => e.1++(e.2++(separatorAfter closed elements.isEmpty e.1++encodeGs1 closed elements))

/-- Elements with distinct identifiers. -/
def IsElementSet (elements : List (Str × Str)) : Prop :=
  (elements.map (·.1)).Nodup ∧ ∀ e∈elements, IsElement e

instance decidableIsElementSet (elements : List (Str × Str)) : Decidable (IsElementSet elements) :=
  inferInstanceAs (Decidable ((elements.map (·.1)).Nodup ∧ ∀ e∈elements, IsElement e))

/-- What is written is read as the same elements, with no warnings. -/
def Gs1RoundTrips (closed : Bool) (elements : List (Str × Str)) : Prop :=
  ∃ code, parseGs1Code (encodeGs1 closed elements)=some code ∧
    code.applicationIdentifiers.Perm elements ∧
    validateGs1AiValues code.applicationIdentifiers=[]

def isNumericAi (ai : Str) : Bool := supportedAis.any fun d => d.ai=ai && d.numeric

/-- There are elements, none of their values has an opening parenthesis or a group separator's name in
it, and those that are numbers have digits only. -/
def Gs1Readable (elements : List (Str × Str)) : Prop :=
  elements≠[] ∧ ∀ e∈elements, '('∉e.2 ∧ occurs "<gs>".toList e.2=false ∧
    (isNumericAi e.1=true → e.2.all Char.isDigit=true)

instance decidableGs1Readable (elements : List (Str × Str)) : Decidable (Gs1Readable elements) :=
  inferInstanceAs (Decidable (elements≠[] ∧ ∀ e∈elements, '('∉e.2 ∧
    occurs "<gs>".toList e.2=false ∧ (isNumericAi e.1=true → e.2.all Char.isDigit=true)))

section Characters
variable {c : Char} {s t pattern : Str}

theorem gs1Char_facts (h : isGs1Char c=true) : c.toNat < 128 ∧ isWhiteSpace c=false ∧
    c≠groupSeparator ∧ c.toLower≠ '\\' ∧ c≠ '\n' ∧ c≠ '\t' := by
  have hall : ∀ n < 128, (!isGs1Char (Char.ofNat n) || (!isWhiteSpace (Char.ofNat n) &&
      Char.ofNat n≠groupSeparator && (Char.ofNat n).toLower≠ '\\' && Char.ofNat n≠ '\n' &&
      Char.ofNat n≠ '\t'))=true := by decide +kernel
  have hascii : c.toNat < 128 := by
    have hsigns : ("!\"%&'()*+,-./:;<=>?_".toList.all fun c => c.toNat < 128)=true := by decide
    cases Bool.or_eq_true_iff.mp h with
    | inl hword =>
      have hval : c.toNat=c.val.toNat := rfl
      have hbounds : 'Z'.val.toNat=90 ∧ 'z'.val.toNat=122 ∧ '9'.val.toNat=57 := by decide
      unfold Char.isAlphanum Char.isAlpha Char.isUpper Char.isLower Char.isDigit at hword
      simp only [Bool.or_eq_true,Bool.and_eq_true,decide_eq_true_eq,ge_iff_le,
        UInt32.le_iff_toNat_le] at hword
      omega
    | inr hsign => exact of_decide_eq_true (List.all_eq_true.mp hsigns c (of_decide_eq_true hsign))
  have hc := @of_ascii c (fun c => !isGs1Char c || (!isWhiteSpace c && c≠groupSeparator &&
    c.toLower≠ '\\' && c≠ '\n' && c≠ '\t')) hall hascii
  rw [h] at hc
  simp only [Bool.not_true,Bool.false_or,Bool.and_eq_true,Bool.not_eq_true',decide_eq_true_eq] at hc
  exact ⟨hascii,hc.1.1.1.1,hc.1.1.1.2,hc.1.1.2,hc.1.2,hc.2⟩

theorem written_ascii (h : ∀ c∈s, isGs1Char c=true ∨ c=groupSeparator) : ∀ c∈s, c.toNat < 128 := by
  intro c hc
  cases h c hc with
  | inl hchar => exact (gs1Char_facts hchar).1
  | inr hseparator =>
    rw [hseparator]
    decide

theorem mem_of_occurs (h : occurs pattern s=true) (hc : c∈pattern) : ∃ a∈s, a.toLower=c := by
  induction s with
  | nil => cases h
  | cons b s ih =>
    cases Bool.or_eq_true_iff.mp h with
    | inl hmatch =>
      rw [← of_decide_eq_true hmatch] at hc
      obtain ⟨a,ha,hlower⟩ := List.mem_map.mp hc
      exact ⟨a,List.mem_of_mem_take ha,hlower⟩
    | inr hrest =>
      obtain ⟨a,ha,hlower⟩ := ih hrest
      exact ⟨a,List.mem_cons_of_mem b ha,hlower⟩

theorem occurs_within (hsub : t <:+: s) (h : occurs pattern s=false) : occurs pattern t=false := by
  have hfront : ∀ {a t : Str}, occurs pattern (a++t)=false → occurs pattern t=false := by
    intro a t hnone
    induction a with
    | nil => exact hnone
    | cons b a ih => exact ih (Bool.or_eq_false_iff.mp hnone).2
  have hback : ∀ {t b : Str}, occurs pattern (t++b)=false → occurs pattern t=false := by
    intro t b hnone
    induction t with
    | nil => rfl
    | cons a t ih =>
      have hboth := Bool.or_eq_false_iff.mp hnone
      rw [occurs,ih hboth.2,Bool.or_false,decide_eq_false_iff_not]
      intro hmatch
      have hlength := congrArg List.length hmatch
      rw [List.length_map,List.length_take] at hlength
      have hsame : (a::(t++b)).take pattern.length=(a::t).take pattern.length := by
        have hlong : pattern.length≤(a::t).length := by omega
        exact List.take_append_of_le_length hlong
      exact of_decide_eq_false hboth.1 ((congrArg (List.map Char.toLower) hsame).trans hmatch)
  obtain ⟨a,b,hs⟩ := hsub
  rw [← hs] at h
  exact hfront (hback h)

/-- A text is read apart from what comes after it, when this begins with a sign of its own. -/
theorem occurs_before (hpattern : 0 < pattern.length) (h : ∀ c∈t.head?, c.toLower∉pattern) :
    occurs pattern (s++t)=(occurs pattern s || occurs pattern t) := by
  cases t with
  | nil =>
    have hnil : occurs pattern []=false := rfl
    rw [List.append_nil,hnil,Bool.or_false]
  | cons c t =>
    have hc := h c rfl
    have hfirst : occurs pattern (c::t)=occurs pattern t := @occurs_append _ [] _ _ hpattern hc
    rw [occurs_append hpattern hc,hfirst]

theorem occurs_behind (hpattern : 0 < pattern.length) (h : ∀ c∈s, c.toLower∉pattern) :
    occurs pattern (s++t)=occurs pattern t := by
  induction s with
  | nil => rfl
  | cons c s ih =>
    have hc := @occurs_append pattern [] (s++t) c hpattern (h c List.mem_cons_self)
    exact hc.trans (ih fun a ha => h a (List.mem_cons_of_mem c ha))

end Characters

section Encoding
variable {closed : Bool} {elements : List (Str × Str)} {e : Str × Str} {d : SupportedAi} {c : Char}

theorem ai_digits (h : d∈supportedAis) : d.ai.length=2 ∧ d.ai.all Char.isDigit=true := by
  have hall : supportedAis.all (fun d => d.ai.length=2 && d.ai.all Char.isDigit)=true := by decide
  have hd := Bool.and_eq_true_iff.mp (List.all_eq_true.mp hall d h)
  exact ⟨of_decide_eq_true hd.1,hd.2⟩

theorem ai_unique {d' : SupportedAi} (h : d∈supportedAis) (h' : d'∈supportedAis) (hai : d.ai=d'.ai) :
    d=d' := by
  have hdistinct : (supportedAis.map (·.ai)).Nodup := by decide
  exact List.inj_on_of_nodup_map hdistinct h h' hai

theorem digit_gs1 (h : c.isDigit=true) : isGs1Char c=true := by
  unfold isGs1Char
  rw [Char.isAlphanum,h,Bool.or_true,Bool.true_or]

theorem IsElement.digits (h : IsElement e) : ∀ c∈e.1, c.isDigit=true := by
  obtain ⟨d,hd,hai,_⟩ := h
  intro c hc
  rw [← hai] at hc
  exact List.all_eq_true.mp (ai_digits hd).2 c hc

theorem IsElement.chars (h : IsElement e) : ∀ c∈e.1++e.2, isGs1Char c=true := by
  have hdigits := h.digits
  obtain ⟨d,hd,hai,hchars,_⟩ := h
  intro c hc
  cases List.mem_append.mp hc with
  | inl hdigit => exact digit_gs1 (hdigits c hdigit)
  | inr hvalue => exact List.all_eq_true.mp hchars c hvalue

theorem mem_separatorAfter {last : Bool} {ai : Str} (h : c∈separatorAfter closed last ai) :
    c=groupSeparator := by
  unfold separatorAfter at h
  split at h
  · exact List.mem_singleton.mp h
  · cases h

theorem encodeGs1_chars (h : ∀ e∈elements, IsElement e) :
    ∀ c∈encodeGs1 closed elements, isGs1Char c=true ∨ c=groupSeparator := by
  induction elements with
  | nil =>
    intro c hc
    cases hc
  | cons e elements ih =>
    intro c hc
    rw [encodeGs1,← List.append_assoc] at hc
    cases List.mem_append.mp hc with
    | inl hfirst => exact Or.inl ((h e List.mem_cons_self).chars c hfirst)
    | inr hrest =>
      cases List.mem_append.mp hrest with
      | inl hseparator => exact Or.inr (mem_separatorAfter hseparator)
      | inr hlater => exact ih (fun e he => h e (List.mem_cons_of_mem _ he)) c hlater

theorem encodeGs1_head (h : ∀ e∈elements, IsElement e) (hc : c∈(encodeGs1 closed elements).head?) :
    c.isDigit=true := by
  cases elements with
  | nil => cases hc
  | cons e elements =>
    obtain ⟨d,hd,hai,_⟩ := h e List.mem_cons_self
    have hdigits := ai_digits hd
    rw [encodeGs1,← hai] at hc
    cases hd : d.ai with
    | nil =>
      rw [hd] at hdigits
      exact absurd hdigits.1 (by decide)
    | cons a rest =>
      rw [hd] at hc hdigits
      cases hc
      exact List.all_eq_true.mp hdigits.2 _ List.mem_cons_self

theorem mem_encodeGs1 (he : e∈elements) : ∀ c∈e.2, c∈encodeGs1 closed elements := by
  induction elements with
  | nil => cases he
  | cons e' elements ih =>
    intro c hc
    rw [encodeGs1]
    cases List.mem_cons.mp he with
    | inl hsame => exact List.mem_append_right _ (List.mem_append_left _ (hsame ▸ hc))
    | inr hlater =>
      exact List.mem_append_right _ (List.mem_append_right _ (List.mem_append_right _ (ih hlater c hc)))

theorem paren_encodeGs1 (h : ∀ e∈elements, IsElement e) (hc : '('∈encodeGs1 closed elements) :
    ∃ e∈elements, '('∈e.2 := by
  induction elements with
  | nil => cases hc
  | cons e elements ih =>
    have he := h e List.mem_cons_self
    rw [encodeGs1] at hc
    cases List.mem_append.mp hc with
    | inl hdigit => exact absurd (he.digits _ hdigit) (by decide)
    | inr hvalue =>
      cases List.mem_append.mp hvalue with
      | inl hin => exact ⟨e,List.mem_cons_self,hin⟩
      | inr hrest =>
        cases List.mem_append.mp hrest with
        | inl hseparator => exact absurd (mem_separatorAfter hseparator) (by decide)
        | inr hlater =>
          obtain ⟨e',he',hin⟩ := ih (fun e he => h e (List.mem_cons_of_mem _ he)) hlater
          exact ⟨e',List.mem_cons_of_mem e he',hin⟩

theorem digit_apart (h : c.isDigit=true) : c.toLower∉"<gs>".toList := by
  have hall : ∀ n < 128, (!(Char.ofNat n).isDigit || ((Char.ofNat n).toLower∉"<gs>".toList))=true := by
    decide +kernel
  have hno := @of_ascii c (fun c => !c.isDigit || (c.toLower∉"<gs>".toList)) hall
    (gs1Char_facts (digit_gs1 h)).1
  rw [h,Bool.not_true,Bool.false_or] at hno
  exact of_decide_eq_true hno

theorem occurs_encodeGs1 (h : ∀ e∈elements, IsElement e) :
    occurs "<gs>".toList (encodeGs1 closed elements)=
      elements.any fun e => occurs "<gs>".toList e.2 := by
  have hseparator : ∀ {last : Bool} {ai : Str}, ∀ c∈separatorAfter closed last ai,
      c.toLower∉"<gs>".toList := by
    intro last ai c hc
    rw [mem_separatorAfter hc]
    decide
  induction elements with
  | nil => rfl
  | cons e elements ih =>
    have he := h e List.mem_cons_self
    have hlater : ∀ e∈elements, IsElement e := fun e he => h e (List.mem_cons_of_mem _ he)
    have hnext : ∀ c∈(separatorAfter closed elements.isEmpty e.1++encodeGs1 closed elements).head?,
        c.toLower∉"<gs>".toList := by
      intro c hc
      rw [List.head?_append,Option.mem_def,Option.or_eq_some_iff] at hc
      cases hc with
      | inl hfirst => exact hseparator c (List.mem_of_head? hfirst)
      | inr hrest => exact digit_apart (encodeGs1_head hlater hrest.2)
    rw [encodeGs1,occurs_behind (by decide) fun c hc => digit_apart (he.digits c hc),
      occurs_before (by decide) hnext,occurs_behind (by decide) hseparator,ih hlater,List.any_cons]

end Encoding

section Reading
variable {closed : Bool} {elements : List (Str × Str)} {e : Str × Str} {c : Char} {s : Str}

/-- Only a separator's name is put in another's place. -/
def scannedGs1 (closed : Bool) (elements : List (Str × Str)) : Str :=
  replaceEach "<gs>".toList 0 (encodeGs1 closed elements)

theorem scannedGs1_chars (h : ∀ e∈elements, IsElement e) :
    ∀ c∈scannedGs1 closed elements, isGs1Char c=true ∨ c=groupSeparator := by
  intro c hc
  cases mem_replaceEach hc with
  | inl hwritten => exact encodeGs1_chars h c hwritten
  | inr hseparator => exact Or.inr hseparator

theorem normalizeScannerInput_encodeGs1 (h : ∀ e∈elements, IsElement e) :
    normalizeScannerInput (encodeGs1 closed elements)=scannedGs1 closed elements := by
  have hslash : ∀ pattern : Str, '\\'∈pattern → occurs pattern (encodeGs1 closed elements)=false := by
    intro pattern hpattern
    cases hfound : occurs pattern (encodeGs1 closed elements) with
    | false => rfl
    | true =>
      obtain ⟨a,ha,hlower⟩ := mem_of_occurs hfound hpattern
      cases encodeGs1_chars h a ha with
      | inl hchar => exact absurd hlower (gs1Char_facts hchar).2.2.2.1
      | inr hseparator =>
        rw [hseparator] at hlower
        exact absurd hlower (by decide)
  have hchars := @scannedGs1_chars closed elements h
  have hno : ∀ b : Char, (∀ c, isGs1Char c=true → c≠b) → groupSeparator≠b →
      b∉scannedGs1 closed elements := by
    intro b hvalue hseparator hb
    cases hchars b hb with
    | inl hchar => exact hvalue b hchar rfl
    | inr hb => exact hseparator hb.symm
  have hline := hno '\n' (fun c hc => (gs1Char_facts hc).2.2.2.2.1) (by decide)
  have htab := hno '\t' (fun c hc => (gs1Char_facts hc).2.2.2.2.2) (by decide)
  have hspace : ∀ c∈scannedGs1 closed elements, isWhiteSpace c=false := by
    intro c hc
    cases hchars c hc with
    | inl hchar => exact (gs1Char_facts hchar).2.1
    | inr hseparator =>
      rw [hseparator]
      decide
  unfold normalizeScannerInput
  rw [replaceEach_none (hslash _ (by decide)),replaceEach_none (hslash _ (by decide))]
  exact (congrArg trim (dropBreaks_none hline htab)).trans (trim_solid hspace)

theorem extractSymbologyIdentifier_none (h : ']'∉s) : extractSymbologyIdentifier s=none := by
  unfold extractSymbologyIdentifier
  split
  · rename_i b c d rest
    have hb : b≠ ']' := fun hb => h (hb ▸ List.mem_cons_self)
    rw [decide_eq_false hb]
    rfl
  · rfl

/-- What is read of a text that has no symbology identifier. -/
def readGs1 (value : Str) : ApplicationIdentifiers :=
  if value.contains '(' then parseParenthesizedGs1 [] value
  else parseCompactGs1 [] 0 (codeUnits value)

theorem parseGs1Code_encodeGs1 (h : ∀ e∈elements, IsElement e) :
    parseGs1Code (encodeGs1 closed elements)=
      if readGs1 (scannedGs1 closed elements)=[] then none
      else some ⟨scannedGs1 closed elements,none,readGs1 (scannedGs1 closed elements)⟩ := by
  have hbracket : ']'∉scannedGs1 closed elements := by
    intro hmem
    cases scannedGs1_chars h _ hmem with
    | inl hchar => exact absurd hchar (by decide)
    | inr hseparator => exact absurd hseparator (by decide)
  unfold parseGs1Code
  simp only [normalizeScannerInput_encodeGs1 h,extractSymbologyIdentifier_none hbracket]
  by_cases hempty : scannedGs1 closed elements=[]
  · rw [hempty]
    rfl
  · exact if_neg hempty

theorem beforeSeparator_sublist (s : Str) : (beforeSeparator s).Sublist s := by
  induction s with
  | nil => exact List.Sublist.refl _
  | cons c s ih =>
    rw [beforeSeparator]
    split
    · exact List.nil_sublist _
    · exact ih.cons_cons c

theorem parseParenthesizedGs1_plain {ais : ApplicationIdentifiers}
    (h : e∈parseParenthesizedGs1 ais s) : e∈ais ∨ '('∉e.2 := by
  induction s generalizing ais with
  | nil => exact Or.inl h
  | cons c s ih =>
    rw [parseParenthesizedGs1] at h
    split at h
    · rename_i ai content hcontent
      split at h
      · cases ih h with
        | inr hplain => exact Or.inr hplain
        | inl hset =>
          cases List.mem_cons.mp hset with
          | inr hold => exact Or.inl (List.mem_of_mem_filter hold)
          | inl hnew =>
            right
            intro hmem
            rw [hnew] at hmem
            have hin : '('∈content := (beforeSeparator_sublist _).subset ((trim_within _).subset hmem)
            split at hcontent
            · unfold parenthesized at hcontent
              simp only at hcontent
              split at hcontent
              · cases hcontent
                have htaken := List.mem_takeWhile_imp ((trim_within _).subset hin)
                simp at htaken
              · cases hcontent
            · cases hcontent
      · exact ih h
    · exact ih h

theorem compactElement_content {units : List ℕ} {element : CompactElement}
    (h : compactElement units=some element) : ∃ i k, element.content=(units.drop i).take k := by
  unfold compactElement at h
  simp only [Option.bind_eq_bind,Option.bind_eq_some_iff] at h
  obtain ⟨d,_,h⟩ := h
  split at h
  · split at h
    · cases h
      exact ⟨_,_,rfl⟩
    · cases h
  · split at h
    · split at h
      · cases h
      · cases h
        exact ⟨_,_,rfl⟩
    · split at h
      · cases h
      · cases h
        exact ⟨_,_,rfl⟩

theorem parseCompactGs1_occurs {pattern : Str} {ais : ApplicationIdentifiers} {n : ℕ}
    (hascii : ∀ c∈s, c.toNat < 128) (hnone : occurs pattern s=false)
    (h : e∈parseCompactGs1 ais n (s.map Char.toNat)) : e∈ais ∨ occurs pattern e.2=false := by
  induction s generalizing ais n with
  | nil =>
    cases n <;> exact Or.inl h
  | cons c s ih =>
    have hrest : ∀ {ais n}, e∈parseCompactGs1 ais n (s.map Char.toNat) →
        e∈ais ∨ occurs pattern e.2=false :=
      fun h => ih (fun c hc => hascii c (List.mem_cons_of_mem _ hc)) (Bool.or_eq_false_iff.mp hnone).2 h
    cases n with
    | succ n => exact hrest h
    | zero =>
      rw [List.map_cons,parseCompactGs1] at h
      split at h
      · rename_i element helement
        cases hrest h with
        | inr hother => exact Or.inr hother
        | inl hset =>
          cases List.mem_cons.mp hset with
          | inr hold => exact Or.inl (List.mem_of_mem_filter hold)
          | inl hnew =>
            right
            obtain ⟨i,k,hcontent⟩ := compactElement_content helement
            have hmap : element.content=(((c::s).drop i).take k).map Char.toNat := by
              rw [hcontent,List.map_take,List.map_drop]
              rfl
            have hpart : ((c::s).drop i).take k <:+: c::s :=
              (List.take_prefix k _).isInfix.trans (List.drop_suffix i _).isInfix
            have hvalue : e.2=((c::s).drop i).take k := by
              rw [hnew]
              exact (congrArg ofCodeUnits hmap).trans
                (ofCodeUnits_ascii fun c hc => hascii c (hpart.subset hc))
            rw [hvalue]
            exact occurs_within hpart hnone
      · cases h

end Reading

section Elements
variable {closed : Bool} {elements : List (Str × Str)} {e : Str × Str} {c : Char} {s : Str}
  {d : SupportedAi}

/-- No identifier begins another one. -/
theorem find_ai (h : d∈supportedAis) (units : List ℕ) :
    supportedAis.find? (fun d' => (codeUnits d'.ai).isPrefixOf (d.ai.map Char.toNat++units))=some d := by
  simp only [supportedAis,List.mem_cons,List.not_mem_nil,or_false] at h
  rcases h with h|h|h|h|h|h <;> subst h <;> rfl

theorem isVariable_eq (h : d∈supportedAis) : isVariable d.ai=d.fixedLength.isNone := by
  simp only [supportedAis,List.mem_cons,List.not_mem_nil,or_false] at h
  rcases h with h|h|h|h|h|h <;> subst h <;> rfl

theorem findIdx_plain (h : groupSeparator∉s) :
    (s.map Char.toNat).findIdx? (· = groupSeparator.toNat)=none := by
  rw [List.findIdx?_eq_none_iff]
  intro u hu
  obtain ⟨c,hc,hcu⟩ := List.mem_map.mp hu
  rw [decide_eq_false_iff_not,← hcu]
  intro hsame
  exact h (Char.toNat_inj.mp hsame ▸ hc)

section Values
variable {n : ℕ} {rest value : Str} (h : d∈supportedAis)
include h

theorem compactElement_fixed (hfixed : d.fixedLength=some n) (hlength : value.length=n) :
    compactElement ((d.ai++(value++rest)).map Char.toNat)=
      some ⟨d.ai,value.map Char.toNat,d.ai.length+n⟩ := by
  have htake : ((value++rest).map Char.toNat).take n=value.map Char.toNat := by
    rw [List.map_append]
    exact List.take_left' (by rw [List.length_map,hlength])
  have hdrop : (d.ai.map Char.toNat++(value++rest).map Char.toNat).drop d.ai.length=
      (value++rest).map Char.toNat := List.drop_left' (List.length_map _)
  unfold compactElement
  rw [List.map_append,find_ai h]
  simp only [Option.bind_eq_bind,Option.bind_some,hfixed,hdrop,htake,List.length_map,hlength,if_true]

theorem compactElement_closed (hvariable : d.fixedLength=none) (hvalue : value≠[])
    (hplain : groupSeparator∉value) :
    compactElement ((d.ai++(value++groupSeparator::rest)).map Char.toNat)=
      some ⟨d.ai,value.map Char.toNat,d.ai.length+value.length+1⟩ := by
  have hindex : ((value++groupSeparator::rest).map Char.toNat).findIdx?
      (· = groupSeparator.toNat)=some value.length := by
    rw [List.map_append,List.map_cons,List.findIdx?_append,findIdx_plain hplain]
    simp [List.findIdx?_cons]
  have htake : ((value++groupSeparator::rest).map Char.toNat).take value.length=
      value.map Char.toNat := by
    rw [List.map_append]
    exact List.take_left' (List.length_map _)
  have hdrop : (d.ai.map Char.toNat++(value++groupSeparator::rest).map Char.toNat).drop d.ai.length=
      (value++groupSeparator::rest).map Char.toNat := List.drop_left' (List.length_map _)
  unfold compactElement
  rw [List.map_append,find_ai h]
  simp only [Option.bind_eq_bind,Option.bind_some,hvariable,hdrop,hindex,htake,List.map_eq_nil_iff,
    hvalue,if_false]

theorem compactElement_last (hvariable : d.fixedLength=none) (hvalue : value≠[])
    (hplain : groupSeparator∉value) (hlength : value.length≤d.maxLength) :
    compactElement ((d.ai++value).map Char.toNat)=
      some ⟨d.ai,value.map Char.toNat,d.ai.length+value.length⟩ := by
  have hindex := findIdx_plain hplain
  have htake : (value.map Char.toNat).take d.maxLength=value.map Char.toNat :=
    List.take_of_length_le (by rw [List.length_map]; exact hlength)
  have hdrop : (d.ai.map Char.toNat++value.map Char.toNat).drop d.ai.length=value.map Char.toNat :=
    List.drop_left' (List.length_map _)
  unfold compactElement
  rw [List.map_append,find_ai h]
  simp only [Option.bind_eq_bind,Option.bind_some,hvariable,hdrop,hindex,htake,List.map_eq_nil_iff,
    hvalue,if_false,List.length_map]

end Values

theorem compactElement_encode (h : IsElement e) :
    ∃ k, compactElement ((encodeGs1 closed (e::elements)).map Char.toNat)=
        some ⟨e.1,e.2.map Char.toNat,k+1⟩ ∧
      ((encodeGs1 closed (e::elements)).map Char.toNat).drop (k+1)=
        (encodeGs1 closed elements).map Char.toNat := by
  obtain ⟨ai,value⟩ := e
  obtain ⟨d,hd,hai,hchars,hlong,hmax,hfixed⟩ := h
  simp only at hai hchars hlong hmax hfixed
  subst hai
  have htwo := (ai_digits hd).1
  have hvalue : value≠[] := List.ne_nil_of_length_pos hlong
  have hplain : groupSeparator∉value := fun hmem =>
    (gs1Char_facts (List.all_eq_true.mp hchars _ hmem)).2.2.1 rfl
  have hskip : ∀ s rest : Str, ((d.ai++(value++(s++rest))).map Char.toNat).drop
      (d.ai.length+value.length+s.length)=rest.map Char.toNat := by
    intro s rest
    rw [← List.append_assoc,← List.append_assoc,List.map_append]
    exact List.drop_left' (by simp [Nat.add_assoc])
  rw [encodeGs1]
  cases hkind : d.fixedLength with
  | some n =>
    have hn := hfixed n hkind
    have hnone : separatorAfter closed elements.isEmpty d.ai=[] := by
      rw [separatorAfter,isVariable_eq hd,hkind]
      rfl
    rw [hnone]
    refine ⟨d.ai.length+value.length-1,?_,?_⟩
    · rw [compactElement_fixed hd hkind hn,← hn,Nat.sub_add_cancel (by omega)]
    · rw [Nat.sub_add_cancel (by omega)]
      exact hskip [] _
  | none =>
    by_cases hend : (closed || !elements.isEmpty)=true
    · have hone : separatorAfter closed elements.isEmpty d.ai=[groupSeparator] := by
        rw [separatorAfter,isVariable_eq hd,hkind,hend]
        rfl
      rw [hone]
      exact ⟨d.ai.length+value.length,compactElement_closed hd hkind hvalue hplain,hskip [groupSeparator] _⟩
    · have hnone : separatorAfter closed elements.isEmpty d.ai=[] := by
        rw [separatorAfter,Bool.not_eq_true _ |>.mp hend,Bool.and_false]
        rfl
      have hlast : elements=[] := by
        cases elements with
        | nil => rfl
        | cons e elements => exact absurd (by simp) hend
      rw [hnone,hlast]
      refine ⟨d.ai.length+value.length-1,?_,?_⟩
      · have hread := compactElement_last hd hkind hvalue hplain hmax
        rw [Nat.sub_add_cancel (by omega)]
        simpa [encodeGs1] using hread
      · rw [Nat.sub_add_cancel (by omega)]
        exact hskip [] _

theorem parseCompactGs1_skip (ais : ApplicationIdentifiers) (units : List ℕ) : ∀ n,
    parseCompactGs1 ais n units=parseCompactGs1 ais 0 (units.drop n) := by
  induction units with
  | nil =>
    intro n
    cases n <;> rfl
  | cons u units ih =>
    intro n
    cases n with
    | zero => rfl
    | succ n => exact ih n

theorem set_new {ais : ApplicationIdentifiers} {ai content : Str} (h : ai∉ais.map (·.1)) :
    ais.set ai content=(ai,content)::ais := by
  have hkept : ais.filter (fun e => e.1≠ai)=ais := by
    rw [List.filter_eq_self]
    intro e he
    exact decide_eq_true fun hsame => h (List.mem_map.mpr ⟨e,he,hsame⟩)
  unfold ApplicationIdentifiers.set
  rw [hkept]

theorem parseCompactGs1_encode {ais : ApplicationIdentifiers} (h : ∀ e∈elements, IsElement e)
    (hkeys : ((elements.reverse++ais).map (·.1)).Nodup) :
    parseCompactGs1 ais 0 ((encodeGs1 closed elements).map Char.toNat)=elements.reverse++ais := by
  induction elements generalizing ais with
  | nil => rfl
  | cons e elements ih =>
    have he := h e List.mem_cons_self
    obtain ⟨k,hread,hskip⟩ := @compactElement_encode closed elements e he
    have hcontent : ofCodeUnits (e.2.map Char.toNat)=e.2 :=
      ofCodeUnits_ascii fun c hc => (gs1Char_facts (he.chars c (List.mem_append_right _ hc))).1
    have hsame : (e::elements).reverse++ais=elements.reverse++(e::ais) := by
      rw [List.reverse_cons,List.append_assoc]
      rfl
    rw [hsame] at hkeys ⊢
    have hnew : e.1∉ais.map (·.1) := by
      rw [List.map_append] at hkeys
      exact (List.nodup_cons.mp (List.nodup_append.mp hkeys).2.1).1
    cases hunits : (encodeGs1 closed (e::elements)).map Char.toNat with
    | nil =>
      rw [hunits] at hread
      cases hread
    | cons u units =>
      rw [hunits] at hread hskip
      rw [parseCompactGs1,hread]
      simp only [hcontent,set_new hnew,Nat.add_sub_cancel]
      rw [parseCompactGs1_skip,show units.drop k=_ from hskip]
      exact ih (fun e he => h e (List.mem_cons_of_mem _ he)) hkeys

end Elements

section Warnings
variable {elements ais : ApplicationIdentifiers} {d : SupportedAi} {value : Str}

theorem isNumericAi_eq (h : d∈supportedAis) : isNumericAi d.ai=d.numeric := by
  simp only [supportedAis,List.mem_cons,List.not_mem_nil,or_false] at h
  rcases h with h|h|h|h|h|h <;> subst h <;> rfl

theorem at_eq_some (h : (ais.map (·.1)).Nodup) {ai : Str} :
    ais.at ai=some value ↔ (ai,value)∈ais := by
  unfold ApplicationIdentifiers.at
  rw [Option.map_eq_some_iff]
  constructor
  · intro hfound
    obtain ⟨e,he,hvalue⟩ := hfound
    have hai : e.1=ai := by simpa using List.find?_some he
    rw [← hai,← hvalue]
    exact List.mem_of_find?_eq_some he
  · intro hmem
    cases hfound : ais.find? (fun e => e.1=ai) with
    | none => exact absurd (decide_eq_true rfl) (List.find?_eq_none.mp hfound _ hmem)
    | some e =>
      have hai : e.1=ai := by simpa using List.find?_some hfound
      have hsame := List.inj_on_of_nodup_map h (List.mem_of_find?_eq_some hfound) hmem hai
      exact ⟨e,rfl,congrArg Prod.snd hsame⟩

theorem aiWarnings_eq_nil (h : IsElement (d.ai,value)) (hd : d∈supportedAis) :
    aiWarnings d value=[] ↔ (isNumericAi d.ai=true → value.all Char.isDigit=true) := by
  obtain ⟨d',hd',hai,hchars,hlong,hmax,hfixed⟩ := h
  simp only at hchars hlong hmax hfixed
  rw [ai_unique hd' hd hai] at hmax hfixed
  have hunits : (codeUnits value).length=value.length := by
    rw [codeUnits_ascii fun c hc => (gs1Char_facts (List.all_eq_true.mp hchars c hc)).1,
      List.length_map]
  have hvalue : value≠[] := List.ne_nil_of_length_pos hlong
  have hlength : (match d.fixedLength with
      | some n => if (codeUnits value).length≠n then
          ["GS1 identifier ".toList++d.ai++" must be ".toList++n.repr.toList++" characters.".toList]
        else []
      | none => [])=[] := by
    split
    · rename_i n hn
      exact if_neg (not_not.mpr (hunits.trans (hfixed n hn)))
    · rfl
  unfold aiWarnings
  rw [hlength,hunits,if_neg (by omega),isNumericAi_eq hd]
  cases d.numeric <;> cases value.all Char.isDigit <;> simp [hvalue]

theorem validateGs1AiValues_eq_nil (h : IsElementSet elements) (hperm : ais.Perm elements) :
    validateGs1AiValues ais=[] ↔
      ∀ e∈elements, isNumericAi e.1=true → e.2.all Char.isDigit=true := by
  have hkeys : (ais.map (·.1)).Nodup := (hperm.map _).nodup_iff.mpr h.1
  unfold validateGs1AiValues
  rw [List.flatMap_eq_nil_iff]
  constructor
  · intro hnone e he
    have helement := h.2 e he
    obtain ⟨d,hd,hai,_⟩ := h.2 e he
    have hfound : ais.at d.ai=some e.2 := (at_eq_some hkeys).mpr (hai ▸ hperm.mem_iff.mpr he)
    have hd' := hnone d hd
    rw [hfound] at hd'
    have hall := (aiWarnings_eq_nil (hai ▸ helement) hd).mp hd'
    rw [← hai]
    exact hall
  · intro hall d hd
    cases hfound : ais.at d.ai with
    | none => rfl
    | some value =>
      have hmem := hperm.mem_iff.mp ((at_eq_some hkeys).mp hfound)
      exact (aiWarnings_eq_nil (h.2 _ hmem) hd).mpr (hall _ hmem)

end Warnings

section RoundTrip
variable {closed : Bool} {elements : List (Str × Str)}

theorem roundTrips_of_readable (h : IsElementSet elements) (hread : Gs1Readable elements) :
    Gs1RoundTrips closed elements := by
  have hnone : occurs "<gs>".toList (encodeGs1 closed elements)=false := by
    rw [occurs_encodeGs1 h.2,List.any_eq_false]
    intro e he
    rw [(hread.2 e he).2.1]
    exact Bool.false_ne_true
  have hscanned : scannedGs1 closed elements=encodeGs1 closed elements := replaceEach_none hnone
  have hplain : '('∉encodeGs1 closed elements := by
    intro hmem
    obtain ⟨e,he,hin⟩ := paren_encodeGs1 h.2 hmem
    exact (hread.2 e he).1 hin
  have hunits := codeUnits_ascii (written_ascii (@encodeGs1_chars closed _ h.2))
  have hais : readGs1 (encodeGs1 closed elements)=elements.reverse := by
    unfold readGs1
    rw [if_neg (by simpa using hplain),hunits]
    have hkeys : ((elements.reverse++[]).map Prod.fst).Nodup := by
      rw [List.append_nil,List.map_reverse,List.nodup_reverse]
      exact h.1
    rw [parseCompactGs1_encode h.2 hkeys,List.append_nil]
  have hsome : elements.reverse≠[] := fun hempty => hread.1 (List.reverse_eq_nil_iff.mp hempty)
  have hperm : elements.reverse.Perm elements := List.reverse_perm elements
  have hparse := @parseGs1Code_encodeGs1 closed elements h.2
  rw [hscanned,hais,if_neg hsome] at hparse
  exact ⟨_,hparse,hperm,(validateGs1AiValues_eq_nil h hperm).mpr fun e he => (hread.2 e he).2.2⟩

theorem readable_of_roundTrips (h : IsElementSet elements) (hround : Gs1RoundTrips closed elements) :
    Gs1Readable elements := by
  obtain ⟨code,hparse,hperm,hwarnings⟩ := hround
  rw [parseGs1Code_encodeGs1 h.2] at hparse
  split at hparse
  · cases hparse
  · rename_i hsome
    cases hparse
    simp only at hperm hwarnings
    -- one parenthesis and no value read has one
    have hplain : ∀ e∈elements, '('∉e.2 := by
      intro e he hin
      have hscanned : '('∈scannedGs1 closed elements :=
        mem_replaceEach_of_mem (by decide) (by decide) (mem_encodeGs1 he _ hin)
      have hread := hperm.mem_iff.mpr he
      unfold readGs1 at hread
      rw [if_pos (by simpa using hscanned)] at hread
      cases parseParenthesizedGs1_plain hread with
      | inl hnil => cases hnil
      | inr hno => exact hno hin
    have hcompact : '('∉scannedGs1 closed elements := by
      intro hmem
      cases mem_replaceEach hmem with
      | inl hwritten =>
        obtain ⟨e,he,hin⟩ := paren_encodeGs1 h.2 hwritten
        exact hplain e he hin
      | inr hseparator => exact absurd hseparator (by decide)
    have hascii := written_ascii (@scannedGs1_chars closed _ h.2)
    refine ⟨?_,fun e he => ⟨hplain e he,?_,(validateGs1AiValues_eq_nil h hperm).mp hwarnings e he⟩⟩
    · intro hempty
      rw [hempty] at hsome
      exact hsome rfl
    · have hread := hperm.mem_iff.mpr he
      unfold readGs1 at hread
      rw [if_neg (by simpa using hcompact),codeUnits_ascii hascii] at hread
      cases parseCompactGs1_occurs hascii (occurs_replaceEach (by decide) (by decide)) hread with
      | inl hnil => cases hnil
      | inr hno => exact hno

/-- An element string is read as what was written exactly where no value is taken for a parenthesis or
for a separator. -/
theorem gs1RoundTrips_iff (closed : Bool) (elements : List (Str × Str)) (h : IsElementSet elements) :
    Gs1RoundTrips closed elements ↔ Gs1Readable elements :=
  ⟨readable_of_roundTrips h,roundTrips_of_readable h⟩

/-- An article's number, its lot and a quantity, in another order than the table's. -/
def demoElements : List (Str × Str) :=
  [("10".toList,"AB-12/x".toList),("01".toList,"09501101530003".toList),("37".toList,"24".toList)]

theorem gs1RoundTrips_iff_demo : Gs1RoundTrips true demoElements :=
  (gs1RoundTrips_iff true demoElements (by decide)).mpr (by decide)

/-- A lot with a parenthesis in it: the whole text is read as one in parentheses. -/
def parenthesisElements : List (Str × Str) := [("10".toList,"A(1)".toList)]

theorem gs1RoundTrips_parenthesis :
    IsElementSet parenthesisElements ∧ ¬Gs1RoundTrips true parenthesisElements := by
  have hset : IsElementSet parenthesisElements := by decide
  have hread : parseGs1Code (encodeGs1 true parenthesisElements)=none := by decide +kernel
  refine ⟨hset,?_⟩
  intro hround
  obtain ⟨code,hparse,_⟩ := hround
  rw [hread] at hparse
  cases hparse

end RoundTrip

end AardvarkWms.Scans
