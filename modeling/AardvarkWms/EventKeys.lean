import AardvarkWms.AutomationCommands
import AardvarkWms.Texts
import Mathlib.Data.List.Chain

/-! The key of a domain event: what it is computed from, and what it tells apart. -/
namespace AardvarkWms.EnterpriseOps

open Messaging (Str trim isWhiteSpace)
open Billing (isAlnum replaceRuns strip)

section Codes

/-- A letter or digit of a code, or the dash between two of its parts. -/
def isCodeChar (c : Char) : Bool := isAlnum c || c= '-'

/-- No two dashes stand side by side. -/
def SingleDashes : Str → Prop := List.IsChain fun a b => a= '-' → b≠ '-'

/-- A code in its normal form. -/
structure IsCode (s : Str) : Prop where
  chars : ∀ c∈s, isCodeChar c=true ∧ c.toUpper=c
  dashes : SingleDashes s
  first : ∀ c, s.head?=some c → c≠ '-'
  last : ∀ c, s.getLast?=some c → c≠ '-'

variable {s : Str} {c : Char}

theorem replaceRuns_chars (s : Str) (inRun : Bool) : ∀ c∈replaceRuns isAlnum '-' inRun s,
    isCodeChar c=true := by
  intro c hc
  cases Billing.replaceRuns_mem s inRun hc with
  | inl hdash => rw [hdash]; rfl
  | inr hkept => simp [isCodeChar,hkept.2]

theorem dash_not_alnum (h : isAlnum c=true) : c≠ '-' := by
  rintro rfl
  cases h

theorem replaceRuns_dashes (s : Str) : ∀ inRun, SingleDashes (replaceRuns isAlnum '-' inRun s) ∧
    (inRun=true → ∀ c, (replaceRuns isAlnum '-' inRun s).head?=some c → c≠ '-') := by
  induction s with
  | nil =>
    intro inRun
    refine ⟨List.isChain_nil,?_⟩
    intro _ c hc
    cases hc
  | cons a s ih =>
    intro inRun
    unfold replaceRuns
    split
    · rename_i ha
      have hne := dash_not_alnum ha
      constructor
      · refine List.isChain_cons.mpr ⟨?_,(ih false).1⟩
        intro b _ hdash
        exact (hne hdash).elim
      · intro _ c hc
        obtain rfl : a=c := by simpa using hc
        exact hne
    · split
      · exact ⟨(ih true).1,fun _ => (ih true).2 rfl⟩
      · rename_i hrun
        constructor
        · refine List.isChain_cons.mpr ⟨?_,(ih true).1⟩
          intro b hb _
          exact (ih true).2 rfl b hb
        · intro hin
          exact (hrun hin).elim

theorem replaceRuns_code (s : Str) (hchars : ∀ c∈s, isCodeChar c=true) (hdashes : SingleDashes s) :
    replaceRuns isAlnum '-' false s=s ∧
      ((∀ c, s.head?=some c → c≠ '-') → replaceRuns isAlnum '-' true s=s) := by
  induction s with
  | nil => exact ⟨rfl,fun _ => rfl⟩
  | cons a s ih =>
    obtain ⟨hhead,htail⟩ := List.isChain_cons.mp hdashes
    obtain ⟨hfalse,htrue⟩ := ih (fun c hc => hchars c (by simp [hc])) htail
    cases ha : isAlnum a with
    | true => simp [replaceRuns,ha,hfalse]
    | false =>
      obtain rfl : a= '-' := by
        have hchar := hchars a (by simp)
        simpa [isCodeChar,ha] using hchar
      constructor
      · have hrest := htrue fun c hc => hhead c hc rfl
        simp [replaceRuns,ha,hrest]
      · intro hfirst
        exact (hfirst '-' rfl rfl).elim

theorem isCodeChar_ascii (h : isCodeChar c=true) : c.toNat < 128 := by
  have hle : ∀ a b : Char, a≤b → a.toNat≤b.toNat := fun a b hab => UInt32.le_iff_toNat_le.mp hab
  simp only [isCodeChar,isAlnum,Bool.or_eq_true,Bool.and_eq_true,decide_eq_true_eq] at h
  rcases h with ((h|h)|h)|h
  · exact lt_of_le_of_lt (hle _ _ h.2) (by decide)
  · exact lt_of_le_of_lt (hle _ _ h.2) (by decide)
  · exact lt_of_le_of_lt (hle _ _ h.2) (by decide)
  · subst h
    decide

theorem isCodeChar_space (h : isCodeChar c=true) : isWhiteSpace c=false := by
  have hascii := of_ascii (c := c) (p := fun c => !isCodeChar c || !isWhiteSpace c) (by decide)
    (isCodeChar_ascii h)
  simpa [h] using hascii

theorem isCodeChar_colon (h : isCodeChar c=true) : c≠ ':' := by
  rintro rfl
  cases h

theorem isCodeChar_toUpper (h : isCodeChar c=true) :
    isCodeChar c.toUpper=true ∧ c.toUpper.toUpper=c.toUpper ∧ (c.toUpper= '-' → c= '-') := by
  have hascii := of_ascii (c := c) (p := fun c => !isCodeChar c || (isCodeChar c.toUpper &&
    decide (c.toUpper.toUpper=c.toUpper) && (!decide (c.toUpper= '-') || decide (c= '-'))))
    (by decide) (isCodeChar_ascii h)
  simp only [h,Bool.not_true,Bool.false_or,Bool.and_eq_true,decide_eq_true_eq,Bool.or_eq_true,
    Bool.not_eq_true',decide_eq_false_iff_not] at hascii
  refine ⟨hascii.1.1,hascii.1.2,?_⟩
  intro hdash
  exact hascii.2.resolve_left fun hn => hn hdash

theorem strip_code (hfirst : ∀ c, s.head?=some c → c≠ '-') (hlast : ∀ c, s.getLast?=some c → c≠ '-') :
    strip '-' s=s := by
  have hdrop : ∀ l : Str, (∀ c, l.head?=some c → c≠ '-') → l.dropWhile (·= '-')=l := by
    intro l hl
    cases l with
    | nil => rfl
    | cons a l => simp [hl a rfl]
  unfold strip
  rw [hdrop s hfirst,hdrop s.reverse fun c hc => hlast c (by simpa using hc),List.reverse_reverse]

theorem strip_ends (s : Str) : (∀ c, (strip '-' s).head?=some c → c≠ '-') ∧
    (∀ c, (strip '-' s).getLast?=some c → c≠ '-') ∧ strip '-' s<:+:s := by
  have hne : ∀ (l : Str) c, (l.dropWhile (·= '-')).head?=some c → c≠ '-' := by
    intro l c hc
    have hnot := List.head?_dropWhile_not (fun x : Char => decide (x= '-')) l
    rw [hc] at hnot
    simpa using hnot
  have hstrip : strip '-' s=(s.dropWhile (·= '-')).rdropWhile (·= '-') := rfl
  have hfront : strip '-' s<+:s.dropWhile (·= '-') := hstrip ▸ List.rdropWhile_prefix _ _
  refine ⟨?_,?_,?_⟩
  · intro c hc
    refine hne s c ?_
    obtain ⟨t,ht⟩ := hfront
    rw [← ht,List.head?_append,hc]
    rfl
  · intro c hc
    refine hne (s.dropWhile (·= '-')).reverse c ?_
    unfold strip at hc
    simpa using hc
  · exact hfront.isInfix.trans (List.dropWhile_suffix _).isInfix

theorem normalizeEnterpriseCode_isCode (s : Str) : IsCode (normalizeEnterpriseCode s) := by
  set r := strip '-' (replaceRuns isAlnum '-' false (trim s)) with hr
  obtain ⟨hfirst,hlast,hwithin⟩ := strip_ends (replaceRuns isAlnum '-' false (trim s))
  have hchars : ∀ c∈r, isCodeChar c=true :=
    fun c hc => replaceRuns_chars _ _ c (hwithin.subset hc)
  have hdashes : SingleDashes r := by
    obtain ⟨before,after,hwhole⟩ := hwithin
    have hruns := (replaceRuns_dashes (trim s) false).1
    rw [← hwhole] at hruns
    exact (List.IsChain.left_of_append hruns).right_of_append
  have hcode : normalizeEnterpriseCode s=r.map Char.toUpper := rfl
  rw [hcode]
  refine ⟨?_,?_,?_,?_⟩
  · intro c hc
    obtain ⟨d,hd,rfl⟩ := List.mem_map.mp hc
    obtain ⟨hcode,hupper,_⟩ := isCodeChar_toUpper (hchars d hd)
    exact ⟨hcode,hupper⟩
  · refine List.isChain_map _ |>.mpr (hdashes.imp_of_mem_imp ?_)
    intro a b ha hb hab hdash hdash'
    have ha' := (isCodeChar_toUpper (hchars a ha)).2.2 hdash
    have hb' := (isCodeChar_toUpper (hchars b hb)).2.2 hdash'
    exact hab ha' hb'
  · intro c hc hdash
    rw [List.head?_map] at hc
    obtain ⟨d,hd,rfl⟩ := Option.map_eq_some_iff.mp hc
    have hmem : d∈r := List.mem_of_mem_head? hd
    exact hfirst d hd ((isCodeChar_toUpper (hchars d hmem)).2.2 hdash)
  · intro c hc hdash
    rw [List.getLast?_map] at hc
    obtain ⟨d,hd,rfl⟩ := Option.map_eq_some_iff.mp hc
    have hmem : d∈r := List.mem_of_getLast? hd
    exact hlast d hd ((isCodeChar_toUpper (hchars d hmem)).2.2 hdash)

theorem normalizeEnterpriseCode_of_isCode (h : IsCode s) : normalizeEnterpriseCode s=s := by
  have hchars : ∀ c∈s, isCodeChar c=true := fun c hc => (h.chars c hc).1
  have hupper : s.map Char.toUpper=s := by
    have hmap : s.map Char.toUpper=s.map id := List.map_congr_left fun c hc => (h.chars c hc).2
    rw [hmap,List.map_id]
  unfold normalizeEnterpriseCode
  rw [trim_solid fun c hc => isCodeChar_space (hchars c hc),
    (replaceRuns_code s hchars h.dashes).1,strip_code h.first h.last,hupper]

theorem normalizeEnterpriseCode_idem (s : Str) :
    normalizeEnterpriseCode (normalizeEnterpriseCode s)=normalizeEnterpriseCode s :=
  normalizeEnterpriseCode_of_isCode (normalizeEnterpriseCode_isCode s)

end Codes

section Join
variable {c : Char} {a b x y : Str}

theorem cut_first (ha : c∉a) (hb : c∉b) (h : a++c::x=b++c::y) : a=b ∧ x=y := by
  induction a generalizing b with
  | nil =>
    cases b with
    | nil => exact ⟨rfl,by simpa using h⟩
    | cons d b =>
      obtain ⟨rfl,_⟩ := List.cons.inj h
      exact (hb (by simp)).elim
  | cons d a ih =>
    cases b with
    | nil =>
      obtain ⟨rfl,_⟩ := List.cons.inj h
      exact (ha (by simp)).elim
    | cons e b =>
      obtain ⟨rfl,hrest⟩ := List.cons.inj h
      obtain ⟨rfl,hxy⟩ := ih (fun hc => ha (by simp [hc])) (fun hc => hb (by simp [hc])) hrest
      exact ⟨rfl,hxy⟩

theorem cut_last (hx : c∉x) (hy : c∉y) (h : a++c::x=b++c::y) : a=b ∧ x=y := by
  have hrev : x.reverse++c::a.reverse=y.reverse++c::b.reverse := by
    simpa using congrArg List.reverse h
  obtain ⟨h₁,h₂⟩ := cut_first (by simpa using hx) (by simpa using hy) hrev
  exact ⟨List.reverse_injective h₂,List.reverse_injective h₁⟩

theorem ofDigits_decimal (n : ℕ) :
    Nat.ofDigits 10 ((Billing.decimal n).reverse.map fun d => d.toNat-48)=n := by
  have hdigit : ∀ d∈Nat.digits 10 n, (Nat.digitChar d).toNat-48=d := by
    intro d hd
    have hten : ∀ e < 10, (Nat.digitChar e).toNat-48=e := by decide
    exact hten d (Nat.digits_lt_base (by decide) hd)
  unfold Billing.decimal
  split
  · rename_i h0
    subst h0
    rfl
  · rw [List.reverse_reverse,List.map_map]
    have hmap : (Nat.digits 10 n).map ((fun d => d.toNat-48) ∘ Nat.digitChar)=
        (Nat.digits 10 n).map id := List.map_congr_left hdigit
    rw [hmap,List.map_id]
    exact Nat.ofDigits_digits 10 n

theorem decimal_inj {m n : ℕ} (h : Billing.decimal m=Billing.decimal n) : m=n := by
  rw [← ofDigits_decimal m,h,ofDigits_decimal n]

theorem colon_not_decimal (n : ℕ) : ':'∉Billing.decimal n := by
  unfold Billing.decimal
  split
  · decide
  · intro h
    obtain ⟨d,hd,hc⟩ := List.mem_map.mp (List.mem_reverse.mp h)
    have hten : ∀ e < 10, Nat.digitChar e≠ ':' := by decide
    exact hten d (Nat.digits_lt_base (by decide) hd) hc

end Join

section Keys

/-- The digests of texts, in hexadecimal, and the text of a JSON value. -/
structure EventEnv where
  sha256 : Str → Str
  stringify : Json → Str
  sha256_hex : ∀ t, ∀ c∈sha256 t, isAlnum c=true

structure DomainEventKeyInput where
  eventType : Str
  resourceType : Str
  resourceId : Str
  schemaVersion : ℕ
  payload : Json

variable (env : EventEnv)

def stableJsonStringify (value : Json) : Str := env.stringify value.stable

def hashJson (value : Json) : Str := (env.sha256 (stableJsonStringify env value)).take 16

/-- The parts of a key, joined. -/
def eventText (input : DomainEventKeyInput) : Str :=
  normalizeEnterpriseCode input.eventType++ ':'::(normalizeEnterpriseCode input.resourceType++
    ':'::(trim input.resourceId++ ':'::(Billing.decimal input.schemaVersion++
      ':'::hashJson env input.payload)))

def buildDomainEventKey (input : DomainEventKeyInput) : Str := env.sha256 (eventText env input)

/-- Two inputs that the key is meant not to tell apart. -/
structure SameKey (a b : DomainEventKeyInput) : Prop where
  eventType : normalizeEnterpriseCode a.eventType=normalizeEnterpriseCode b.eventType
  resourceType : normalizeEnterpriseCode a.resourceType=normalizeEnterpriseCode b.resourceType
  resourceId : trim a.resourceId=trim b.resourceId
  schemaVersion : a.schemaVersion=b.schemaVersion
  payload : Json.sameJsonValue a.payload b.payload

/-- The digests do not collide on these two inputs. -/
structure NoCollision (a b : DomainEventKeyInput) : Prop where
  payload : hashJson env a.payload=hashJson env b.payload → Json.sameJsonValue a.payload b.payload
  text : env.sha256 (eventText env a)=env.sha256 (eventText env b) → eventText env a=eventText env b

variable {env} {a b : DomainEventKeyInput}

theorem colon_not_code (s : Str) : ':'∉normalizeEnterpriseCode s := by
  intro h
  have hcode := (normalizeEnterpriseCode_isCode s).chars _ h
  exact isCodeChar_colon hcode.1 rfl

theorem colon_not_hash (value : Json) : ':'∉hashJson env value := by
  intro h
  have halnum := env.sha256_hex _ _ (List.mem_of_mem_take h)
  cases halnum

theorem eventText_inj (h : eventText env a=eventText env b) :
    normalizeEnterpriseCode a.eventType=normalizeEnterpriseCode b.eventType ∧
      normalizeEnterpriseCode a.resourceType=normalizeEnterpriseCode b.resourceType ∧
      trim a.resourceId=trim b.resourceId ∧ a.schemaVersion=b.schemaVersion ∧
      hashJson env a.payload=hashJson env b.payload := by
  obtain ⟨htype,h⟩ := cut_first (colon_not_code _) (colon_not_code _) h
  obtain ⟨hresource,h⟩ := cut_first (colon_not_code _) (colon_not_code _) h
  -- the identifier may hold colons: the rest is cut from the end
  have hback : (trim a.resourceId++ ':'::Billing.decimal a.schemaVersion)++
      ':'::hashJson env a.payload=
      (trim b.resourceId++ ':'::Billing.decimal b.schemaVersion)++ ':'::hashJson env b.payload := by
    simpa using h
  obtain ⟨h,hhash⟩ := cut_last (colon_not_hash _) (colon_not_hash _) hback
  obtain ⟨hid,hversion⟩ := cut_last (colon_not_decimal _) (colon_not_decimal _) h
  exact ⟨htype,hresource,hid,decimal_inj hversion,hhash⟩

theorem SameKey.key (h : SameKey a b) : buildDomainEventKey env a=buildDomainEventKey env b := by
  have hpayload : hashJson env a.payload=hashJson env b.payload := by
    unfold hashJson stableJsonStringify
    rw [h.payload]
  unfold buildDomainEventKey eventText
  rw [h.eventType,h.resourceType,h.resourceId,h.schemaVersion,hpayload]

theorem buildDomainEventKey_eq (hcol : NoCollision env a b) :
    buildDomainEventKey env a=buildDomainEventKey env b ↔ SameKey a b := by
  constructor
  · intro h
    obtain ⟨htype,hresource,hid,hversion,hhash⟩ := eventText_inj (hcol.text h)
    exact ⟨htype,hresource,hid,hversion,hcol.payload hhash⟩
  · exact SameKey.key

end Keys
end AardvarkWms.EnterpriseOps
