import AardvarkWms.FormUrlencoded
import AardvarkWms.JsonText
import Mathlib.Data.List.TakeWhile

/-! What a request's log record shows: `src/common/log-redaction.helpers.ts`. -/
namespace AardvarkWms.LogRedaction

open Numerals (Text units)
open JsonText (JsValue Fields)
open FormUrlencoded (Param parse parseParam rawName serialize set decode)

/-- The words of `SENSITIVE_KEY_PATTERN`. -/
def sensitiveWords : List String :=
  ["authorization","cookie","password","secret","token","apikey","api-key","api_key","refresh","mfa",
    "otp","credential"]

/-- A code without regard to case; the pattern's letters are those of ASCII. -/
def foldCase (code : ℕ) : ℕ := if 65≤code && code≤90 then code+32 else code

/-- `SENSITIVE_KEY_PATTERN.test`, of the codes of a key. -/
def matchesPattern (codes : List ℕ) : Bool :=
  sensitiveWords.any fun word =>
    (codes.map foldCase).tails.any fun rest => (word.toList.map Char.toNat).isPrefixOf rest

def isSensitive (key : Text) : Bool := matchesPattern (key.map UInt16.toNat)

def isSensitiveName (name : FormUrlencoded.Text) : Bool := matchesPattern (name.map Char.toNat)

def cutOff : JsValue := .text (units "[redacted:depth]")

mutual
/-- Nothing deeper than eight is looked at. -/
def redactLogValue (depth : ℕ) : JsValue → JsValue
  | .array items => if 8 < depth then cutOff else .array (redactItems (depth+1) items)
  | .object fields => if 8 < depth then cutOff else .object (redactFields (depth+1) fields)
  | .date _ => if 8 < depth then cutOff else .object []
  | value => if 8 < depth then cutOff else value

def redactItems (depth : ℕ) : List JsValue → List JsValue
  | [] => []
  | item::items => redactLogValue depth item::redactItems depth items

/-- An assignment to `__proto__` makes no field. -/
def redactFields (depth : ℕ) : Fields → Fields
  | [] => []
  | (key,nested)::fields =>
    if key=units "__proto__" then redactFields depth fields
    else (key,if isSensitive key then .text (units "[redacted]") else redactLogValue depth nested)::
      redactFields depth fields
end

mutual
/-- Two values that differ only in what is stored under sensitive keys. -/
inductive Same : JsValue → JsValue → Prop
  | refl (value : JsValue) : Same value value
  | array {items items' : List JsValue} (h : SameItems items items') :
      Same (.array items) (.array items')
  | object {fields fields' : Fields} (h : SameFields fields fields') :
      Same (.object fields) (.object fields')

inductive SameItems : List JsValue → List JsValue → Prop
  | nil : SameItems [] []
  | cons {item item' : JsValue} {items items' : List JsValue} (h : Same item item')
      (hrest : SameItems items items') : SameItems (item::items) (item'::items')

inductive SameFields : Fields → Fields → Prop
  | nil : SameFields [] []
  | hidden {key : Text} {nested nested' : JsValue} {fields fields' : Fields}
      (hkey : isSensitive key=true) (hrest : SameFields fields fields') :
      SameFields ((key,nested)::fields) ((key,nested')::fields')
  | shown {key : Text} {nested nested' : JsValue} {fields fields' : Fields} (h : Same nested nested')
      (hrest : SameFields fields fields') : SameFields ((key,nested)::fields) ((key,nested')::fields')
end

mutual
theorem Same.redact {value value' : JsValue} (h : Same value value') (depth : ℕ) :
    redactLogValue depth value=redactLogValue depth value' := by
  cases h with
  | refl => rfl
  | array hitems =>
    have hrest := hitems.redact (depth+1)
    unfold redactLogValue
    rw [hrest]
  | object hfields =>
    have hrest := hfields.redact (depth+1)
    unfold redactLogValue
    rw [hrest]

theorem SameItems.redact {items items' : List JsValue} (h : SameItems items items') (depth : ℕ) :
    redactItems depth items=redactItems depth items' := by
  cases h with
  | nil => rfl
  | cons hitem hitems =>
    have hfirst := hitem.redact depth
    have hrest := hitems.redact depth
    unfold redactItems
    rw [hfirst,hrest]

theorem SameFields.redact {fields fields' : Fields} (h : SameFields fields fields') (depth : ℕ) :
    redactFields depth fields=redactFields depth fields' := by
  cases h with
  | nil => rfl
  | hidden hkey hfields =>
    have hrest := hfields.redact depth
    unfold redactFields
    rw [hkey,hrest]
    rfl
  | shown hnested hfields =>
    have hfirst := hnested.redact depth
    have hrest := hfields.redact depth
    unfold redactFields
    rw [hfirst,hrest]
end

abbrev Url : Type := List Char

def redacted : Url := "[redacted]".toList

def redactKey (params : List Param) (key : FormUrlencoded.Text) : List Param :=
  if isSensitiveName key then set key redacted params else params

/-- Each key that the parameters have is looked at. -/
def redactParams (params : List Param) : List Param := (params.map (·.1)).foldl redactKey params

/-- A split in at most two leaves out what follows a second question mark. -/
def redactUrlQuery (value : Url) : Url :=
  let parts := (value.splitOn '?').take 2
  let path := parts.getD 0 ['/']
  let query := parts.getD 1 []
  if query=[] then path
  else
    let serialized := serialize (redactParams (parse query))
    if serialized=[] then path else path++ '?'::serialized

/-- Two parts of a query that differ at most in the value of a sensitive key. -/
def PartAlike (part part' : Url) : Prop :=
  part=part' ∨ rawName part=rawName part' ∧ isSensitiveName (decode (rawName part))=true

/-- What stands before the next question mark. -/
def upToMark (query : Url) : Url := query.takeWhile (·≠ '?')

/-- The parameters that are read of a query. -/
def readParams (query : Url) : List Param := parse (upToMark query)

/-- The parameters that the others have no counterpart of have sensitive keys of theirs. -/
def Repeats (params others : List Param) : Prop :=
  ∀ p∈params.drop others.length, isSensitiveName p.1=true ∧ p.1∈others.map (·.1)

instance decidableRepeats (params others : List Param) : Decidable (Repeats params others) :=
  inferInstanceAs (Decidable (∀ p∈params.drop others.length,
    isSensitiveName p.1=true ∧ p.1∈others.map (·.1)))

section Redacting
variable {p : Param} {params params' extra : List Param}

@[simp] theorem redactParams_nil : redactParams []=[] := rfl

theorem foldl_redactKey : ∀ (keys : List FormUrlencoded.Text) (params : List Param),
    (isSensitiveName p.1=true → p.2=redacted ∧ p.1∉params.map (·.1)) →
    keys.foldl redactKey (p::params)=
      p::(keys.filter fun key => !(isSensitiveName key && key=p.1)).foldl redactKey params := by
  intro keys
  induction keys with
  | nil => exact fun _ _ => rfl
  | cons key keys ih =>
    intro params hfirst
    rw [List.foldl_cons]
    by_cases hkey : isSensitiveName key=true
    · by_cases heq : key=p.1
      · have hsensitive : isSensitiveName p.1=true := heq ▸ hkey
        have hp := hfirst hsensitive
        have hset : redactKey (p::params) key=p::params := by
          have hpair : p=(key,redacted) := Prod.ext heq.symm hp.1
          have hkept : params.filter (·.1≠key)=params := by
            refine List.filter_eq_self.mpr fun q hq => ?_
            have hne : q.1≠key := fun he => hp.2 (heq ▸ he ▸ List.mem_map_of_mem hq)
            simpa using hne
          rw [redactKey,if_pos hkey]
          nth_rewrite 1 [hpair]
          rw [FormUrlencoded.set_cons_self,hkept,← hpair]
        rw [hset,ih params hfirst,List.filter_cons_of_neg (by simp [heq,hsensitive])]
      · have hset : redactKey (p::params) key=p::redactKey params key := by
          unfold redactKey
          rw [if_pos hkey,if_pos hkey,FormUrlencoded.set_cons_of_ne (Ne.symm heq)]
        have hnext : isSensitiveName p.1=true →
            p.2=redacted ∧ p.1∉(redactKey params key).map (·.1) := by
          intro hp
          refine ⟨(hfirst hp).1,fun hmem => ?_⟩
          rw [redactKey,if_pos hkey] at hmem
          cases FormUrlencoded.mem_names_set hmem with
          | inl he => exact heq he.symm
          | inr hparams => exact (hfirst hp).2 hparams
        rw [hset,ih _ hnext,List.filter_cons_of_pos (by simp [heq]),List.foldl_cons]
    · have hskip : ∀ params, redactKey params key=params := fun params => if_neg hkey
      rw [hskip,ih params hfirst,List.filter_cons_of_pos (by simp [hkey]),List.foldl_cons,hskip]

theorem redactParams_cons (p : Param) (params : List Param) : redactParams (p::params)=
    if isSensitiveName p.1 then (p.1,redacted)::redactParams (params.filter (·.1≠p.1))
    else p::redactParams params := by
  unfold redactParams
  rw [List.map_cons,List.foldl_cons]
  by_cases hp : isSensitiveName p.1=true
  · have hset : redactKey (p::params) p.1=(p.1,redacted)::params.filter (·.1≠p.1) := by
      rw [redactKey,if_pos hp]
      exact FormUrlencoded.set_cons_self
    have hfirst : p.1∉(params.filter (·.1≠p.1)).map (·.1) := by
      intro hmem
      obtain ⟨q,hq,he⟩ := List.mem_map.mp hmem
      exact of_decide_eq_true (List.mem_filter.mp hq).2 he
    have hkeys : (params.map (·.1)).filter (fun key => !(isSensitiveName key && key=p.1))=
        (params.filter (·.1≠p.1)).map (·.1) := by
      rw [List.filter_map]
      refine congrArg (List.map Prod.fst) (List.filter_congr fun q _ => ?_)
      by_cases he : q.1=p.1
      · simp [he,hp]
      · simp [he]
    rw [hset,@foldl_redactKey (p.1,redacted) _ _ fun _ => ⟨rfl,hfirst⟩,if_pos hp,hkeys]
  · have hskip : redactKey (p::params) p.1=p::params := if_neg hp
    have hkeys : (params.map (·.1)).filter (fun key => !(isSensitiveName key && key=p.1))=
        params.map (·.1) := by
      refine List.filter_eq_self.mpr fun key _ => ?_
      by_cases he : key=p.1
      · simp [he,hp]
      · simp [he]
    rw [hskip,foldl_redactKey _ _ fun h => absurd h hp,if_neg hp,hkeys]

/-- A parameter with its value left out where the key is sensitive. -/
def mask (p : Param) : Param := if isSensitiveName p.1 then (p.1,redacted) else p

theorem mask_name (p : Param) : (mask p).1=p.1 := by
  unfold mask
  split
  · rfl
  · rfl

theorem redactParams_mask : ∀ (n : ℕ) (params : List Param), params.length≤n →
    redactParams (params.map mask)=redactParams params := by
  intro n
  induction n with
  | zero =>
    intro params hn
    rw [List.length_eq_zero_iff.mp (Nat.le_zero.mp hn)]
    rfl
  | succ n ih =>
    intro params hn
    cases params with
    | nil => rfl
    | cons p params =>
      rw [List.length_cons] at hn
      rw [List.map_cons,redactParams_cons,redactParams_cons,mask_name]
      by_cases hp : isSensitiveName p.1=true
      · have hshort : (params.filter (·.1≠p.1)).length≤n := by
          have hle := List.length_filter_le (fun q : Param => decide (q.1≠p.1)) params
          omega
        have hfilter : (params.map mask).filter (·.1≠p.1)=(params.filter (·.1≠p.1)).map mask := by
          rw [List.filter_map]
          refine congrArg (List.map mask) (List.filter_congr fun q _ => ?_)
          rw [Function.comp_apply,mask_name]
        rw [if_pos hp,if_pos hp,hfilter,ih _ hshort]
      · have hsame : mask p=p := if_neg hp
        rw [if_neg hp,if_neg hp,ih params (by omega),hsame]

theorem redactParams_congr (h : params.map mask=params'.map mask) :
    redactParams params=redactParams params' := by
  rw [← redactParams_mask _ params le_rfl,h,redactParams_mask _ params' le_rfl]

theorem redactParams_append : ∀ (n : ℕ) (params extra : List Param), params.length≤n →
    redactParams (params++extra)=redactParams params++
      redactParams (extra.filter fun q => !(isSensitiveName q.1 && q.1∈params.map (·.1))) := by
  intro n
  induction n with
  | zero =>
    intro params extra hn
    rw [List.length_eq_zero_iff.mp (Nat.le_zero.mp hn)]
    simp
  | succ n ih =>
    intro params extra hn
    cases params with
    | nil => simp
    | cons p params =>
      rw [List.length_cons] at hn
      rw [List.cons_append,redactParams_cons,redactParams_cons]
      by_cases hp : isSensitiveName p.1=true
      · have hshort : (params.filter (·.1≠p.1)).length≤n := by
          have hle := List.length_filter_le (fun q : Param => decide (q.1≠p.1)) params
          omega
        have hnew : (extra.filter (·.1≠p.1)).filter
            (fun q => !(isSensitiveName q.1 && q.1∈(params.filter (·.1≠p.1)).map (·.1)))=
            extra.filter fun q => !(isSensitiveName q.1 && q.1∈(p::params).map (·.1)) := by
          rw [List.filter_filter]
          refine List.filter_congr fun q _ => ?_
          by_cases he : q.1=p.1
          · simp [he,hp]
          · have hmem : q.1∈(params.filter (·.1≠p.1)).map (·.1) ↔ q.1∈(p::params).map (·.1) := by
              simp only [List.mem_map,List.mem_filter,List.mem_cons,decide_eq_true_eq]
              constructor
              · rintro ⟨r,hr,hname⟩
                exact ⟨r,Or.inr hr.1,hname⟩
              · rintro ⟨r,hr,hname⟩
                cases hr with
                | inl hfirst => exact absurd (hname.symm.trans (congrArg Prod.fst hfirst)) he
                | inr hrest => exact ⟨r,⟨hrest,fun h => he (hname.symm.trans h)⟩,hname⟩
            simp only [hmem,he,ne_eq,not_false_iff,decide_true,Bool.and_true]
        rw [if_pos hp,if_pos hp,List.filter_append,ih _ _ hshort,hnew,List.cons_append]
      · have hnew : (extra.filter fun q => !(isSensitiveName q.1 && q.1∈params.map (·.1)))=
            extra.filter fun q => !(isSensitiveName q.1 && q.1∈(p::params).map (·.1)) := by
          refine List.filter_congr fun q _ => ?_
          by_cases he : q.1=p.1
          · simp [he,hp]
          · have hmem : q.1∈params.map (·.1) ↔ q.1∈(p::params).map (·.1) := by
              rw [List.map_cons,List.mem_cons,or_iff_right he]
            simp only [hmem]
        rw [if_neg hp,if_neg hp,ih params extra (by omega),hnew,List.cons_append]

theorem redactParams_eq_nil : redactParams params=[] ↔ params=[] := by
  cases params with
  | nil => simp
  | cons p params =>
    rw [redactParams_cons]
    split
    · simp
    · simp

theorem redactParams_extra (h : params.map mask=params'.map mask) :
    serialize (redactParams (params++extra))=serialize (redactParams params') ↔
      ∀ q∈extra, isSensitiveName q.1=true ∧ q.1∈params'.map (·.1) := by
  have hnames : params.map (·.1)=params'.map (·.1) := by
    have hmap : ∀ l : List Param, l.map (·.1)=(l.map mask).map (·.1) := by
      intro l
      rw [List.map_map]
      exact List.map_congr_left fun q _ => (mask_name q).symm
    rw [hmap,h,← hmap]
  have hfilter : (extra.filter fun q => !(isSensitiveName q.1 && q.1∈params.map (·.1)))=[] ↔
      ∀ q∈extra, isSensitiveName q.1=true ∧ q.1∈params'.map (·.1) := by
    rw [List.filter_eq_nil_iff,hnames]
    refine forall₂_congr fun q _ => ?_
    rw [Bool.not_eq_true',Bool.not_eq_false,Bool.and_eq_true,decide_eq_true_eq]
  rw [redactParams_append _ params extra le_rfl,redactParams_congr h,← hfilter]
  constructor
  · intro hsame
    have hcount := congrArg (List.count '=') hsame
    rw [FormUrlencoded.count_serialize,FormUrlencoded.count_serialize,List.length_append] at hcount
    exact redactParams_eq_nil.mp (List.length_eq_zero_iff.mp (by omega))
  · intro hnone
    rw [hnone,redactParams_nil,List.append_nil]

end Redacting

section Parts
variable {part part' query : Url} {parts parts' : List Url}

theorem upToMark_of_notMem (h : '?'∉part) : upToMark part=part := by
  refine List.takeWhile_eq_self_iff.mpr fun c hc => ?_
  have hne : c≠ '?' := fun he => h (he ▸ hc)
  simpa using hne

theorem rawName_upToMark (part : Url) : rawName (upToMark part)=upToMark (rawName part) := by
  unfold rawName upToMark
  rw [List.takeWhile_takeWhile,List.takeWhile_takeWhile]
  refine congrArg (fun f => List.takeWhile f part) (funext fun c => ?_)
  exact decide_eq_decide.mpr and_comm

theorem upToMark_rawName (h : '?'∈rawName part) : upToMark (rawName part)=upToMark part := by
  induction part with
  | nil => rfl
  | cons c part ih =>
    unfold rawName at h
    by_cases hc : c= '='
    · rw [List.takeWhile_cons_of_neg (by simp [hc])] at h
      cases h
    · have hname : rawName (c::part)=c::rawName part := List.takeWhile_cons_of_pos (by simp [hc])
      rw [hname]
      by_cases hmark : c= '?'
      · unfold upToMark
        rw [List.takeWhile_cons_of_neg (by simp [hmark]),List.takeWhile_cons_of_neg (by simp [hmark])]
      · rw [List.takeWhile_cons_of_pos (by simp [hc])] at h
        have hrest : '?'∈rawName part := by
          cases List.mem_cons.mp h with
          | inl hfirst => exact absurd hfirst.symm hmark
          | inr hrest => exact hrest
        have hih := ih hrest
        unfold upToMark at hih ⊢
        rw [List.takeWhile_cons_of_pos (by simp [hmark]),List.takeWhile_cons_of_pos (by simp [hmark]),
          hih]

theorem PartAlike.upToMark (h : PartAlike part part') :
    PartAlike (upToMark part) (upToMark part') := by
  cases h with
  | inl he => exact Or.inl (congrArg LogRedaction.upToMark he)
  | inr hname =>
    by_cases hmark : '?'∈rawName part
    · have hmark' : '?'∈rawName part' := hname.1 ▸ hmark
      have hsame : LogRedaction.upToMark part=LogRedaction.upToMark part' := by
        rw [← upToMark_rawName hmark,← upToMark_rawName hmark',hname.1]
      exact Or.inl hsame
    · have hmark' : '?'∉rawName part' := hname.1 ▸ hmark
      refine Or.inr ⟨?_,?_⟩
      · rw [rawName_upToMark,rawName_upToMark,hname.1]
      · rw [rawName_upToMark,upToMark_of_notMem hmark]
        exact hname.2

/-- The parts before the next question mark. -/
def cutParts : List Url → List Url
  | [] => []
  | part::parts => if '?'∈part then [LogRedaction.upToMark part] else part::cutParts parts

theorem splitOn_upToMark (query : Url) :
    (LogRedaction.upToMark query).splitOn '&'=cutParts (query.splitOn '&') := by
  induction query with
  | nil => rfl
  | cons c query ih =>
    obtain ⟨first,rest,hparts⟩ := List.exists_cons_of_ne_nil (List.splitOn_ne_nil '&' query)
    rw [hparts] at ih
    rw [Separators.splitOn_cons]
    by_cases hmark : c= '?'
    · have hcut : ∀ s, LogRedaction.upToMark (c::s)=[] := fun s =>
        List.takeWhile_cons_of_neg (by simp [hmark])
      have hand : c≠ '&' := by
        rw [hmark]
        decide
      have hmem : '?'∈c::first := hmark ▸ List.mem_cons_self
      rw [hcut,if_neg hand,hparts,List.modifyHead_cons,cutParts,if_pos hmem,hcut]
      rfl
    · have hkept : ∀ s, LogRedaction.upToMark (c::s)=c::LogRedaction.upToMark s := fun s =>
        List.takeWhile_cons_of_pos (by simp [hmark])
      rw [hkept,Separators.splitOn_cons,ih]
      by_cases hand : c= '&'
      · rw [if_pos hand,if_pos hand,hparts,cutParts.eq_2 [],if_neg List.not_mem_nil]
      · have hmem : '?'∈c::first ↔ '?'∈first := by
          rw [List.mem_cons,or_iff_right (Ne.symm hmark)]
        rw [if_neg hand,if_neg hand,hparts,List.modifyHead_cons,cutParts,cutParts]
        simp only [hmem]
        split
        · rw [hkept]
          rfl
        · rfl

theorem cutParts_alike (h : List.Forall₂ PartAlike parts parts') :
    ∃ common common' extra extra', cutParts parts=common++extra ∧ cutParts parts'=common'++extra' ∧
      List.Forall₂ PartAlike common common' ∧ (extra=[] ∨ extra'=[]) := by
  induction h with
  | nil => exact ⟨[],[],[],[],rfl,rfl,List.Forall₂.nil,Or.inl rfl⟩
  | @cons part part' parts parts' hpart hparts ih =>
    have hcut := hpart.upToMark
    by_cases hmark : '?'∈part
    · have hleft : cutParts (part::parts)=[LogRedaction.upToMark part] := if_pos hmark
      by_cases hmark' : '?'∈part'
      · have hright : cutParts (part'::parts')=[LogRedaction.upToMark part'] := if_pos hmark'
        exact ⟨_,_,[],[],hleft,hright,List.Forall₂.cons hcut List.Forall₂.nil,Or.inl rfl⟩
      · have hright : cutParts (part'::parts')=[part']++cutParts parts' := if_neg hmark'
        rw [upToMark_of_notMem hmark'] at hcut
        exact ⟨_,_,[],_,hleft,hright,List.Forall₂.cons hcut List.Forall₂.nil,Or.inl rfl⟩
    · have hleft : cutParts (part::parts)=part::cutParts parts := if_neg hmark
      rw [upToMark_of_notMem hmark] at hcut
      by_cases hmark' : '?'∈part'
      · have hright : cutParts (part'::parts')=[LogRedaction.upToMark part'] := if_pos hmark'
        exact ⟨[part],_,_,[],hleft,hright,List.Forall₂.cons hcut List.Forall₂.nil,Or.inr rfl⟩
      · have hright : cutParts (part'::parts')=part'::cutParts parts' := if_neg hmark'
        obtain ⟨common,common',extra,extra',hl,hr,hcommon,hextra⟩ := ih
        rw [hl] at hleft
        rw [hr] at hright
        exact ⟨_,_,_,_,hleft,hright,List.Forall₂.cons hpart hcommon,hextra⟩

end Parts

section Urls
variable {path query query' : Url}

theorem PartAlike.param {part part' : Url} (h : PartAlike part part') :
    (parseParam part).map mask=(parseParam part').map mask := by
  cases h with
  | inl he => rw [he]
  | inr hname =>
    have hsome : ∀ s : Url, isSensitiveName (decode (rawName s))=true →
        (parseParam s).map mask=some (decode (rawName s),redacted) := by
      intro s hs
      have hempty : isSensitiveName (decode (rawName []))=false := by decide
      have hne : s≠[] := by
        intro he
        rw [he,hempty] at hs
        cases hs
      rw [parseParam,if_neg hne,Option.map_some]
      exact congrArg some (if_pos hs)
    rw [hsome part hname.2,hsome part' (hname.1 ▸ hname.2),hname.1]

theorem readParams_alike (h : List.Forall₂ PartAlike (query.splitOn '&') (query'.splitOn '&')) :
    ∃ params params' extra extra', readParams query=params++extra ∧
      readParams query'=params'++extra' ∧ params.map mask=params'.map mask ∧
      (extra=[] ∨ extra'=[]) := by
  obtain ⟨common,common',extra,extra',hl,hr,hcommon,hextra⟩ := cutParts_alike h
  have hread : ∀ query : Url, readParams query=(cutParts (query.splitOn '&')).filterMap parseParam :=
    fun query => congrArg (List.filterMap parseParam) (splitOn_upToMark query)
  have hmask : (common.filterMap parseParam).map mask=(common'.filterMap parseParam).map mask := by
    rw [List.map_filterMap,List.map_filterMap]
    clear hl hr
    induction hcommon with
    | nil => rfl
    | cons hpart _ ih => rw [List.filterMap_cons,List.filterMap_cons,hpart.param,ih]
  refine ⟨_,_,extra.filterMap parseParam,extra'.filterMap parseParam,?_,?_,hmask,?_⟩
  · rw [hread,hl,List.filterMap_append]
  · rw [hread,hr,List.filterMap_append]
  · cases hextra with
    | inl he => exact Or.inl (congrArg (List.filterMap parseParam) he)
    | inr he => exact Or.inr (congrArg (List.filterMap parseParam) he)

theorem splitOn_mark (query : Url) : ∃ rest, query.splitOn '?'=upToMark query::rest := by
  induction query with
  | nil => exact ⟨[],rfl⟩
  | cons c query ih =>
    obtain ⟨rest,hrest⟩ := ih
    rw [Separators.splitOn_cons]
    by_cases hc : c= '?'
    · have hcut : upToMark (c::query)=[] := List.takeWhile_cons_of_neg (by simp [hc])
      rw [if_pos hc,hcut]
      exact ⟨_,rfl⟩
    · have hkept : upToMark (c::query)=c::upToMark query :=
        List.takeWhile_cons_of_pos (by simp [hc])
      rw [if_neg hc,hrest,hkept]
      exact ⟨rest,rfl⟩

def withQuery (path serialized : Url) : Url :=
  if serialized=[] then path else path++ '?'::serialized

theorem withQuery_inj {s s' : Url} : withQuery path s=withQuery path s' ↔ s=s' := by
  constructor
  · intro h
    have hlength : ∀ s : Url, s≠[] → withQuery path s=path++ '?'::s := fun s hs => if_neg hs
    have hnone : withQuery path []=path := rfl
    by_cases hs : s=[]
    · by_cases hs' : s'=[]
      · rw [hs,hs']
      · rw [hs,hnone,hlength s' hs'] at h
        have hshort := congrArg List.length h
        rw [List.length_append,List.length_cons] at hshort
        omega
    · by_cases hs' : s'=[]
      · rw [hs',hnone,hlength s hs] at h
        have hshort := congrArg List.length h
        rw [List.length_append,List.length_cons] at hshort
        omega
      · rw [hlength s hs,hlength s' hs'] at h
        exact (List.cons.inj ((List.append_right_inj path).mp h)).2
  · exact fun h => h ▸ rfl

theorem redactUrlQuery_read (hpath : '?'∉path) (query : Url) : redactUrlQuery (path++ '?'::query)=
    withQuery path (serialize (redactParams (readParams query))) := by
  obtain ⟨rest,hrest⟩ := splitOn_mark query
  have hparts : (path++ '?'::query).splitOn '?'=path::upToMark query::rest := by
    rw [List.splitOn_append_cons_self,List.splitOn_eq_singleton hpath,hrest]
    rfl
  unfold redactUrlQuery
  rw [hparts]
  by_cases hquery : upToMark query=[]
  · have hnone : readParams query=[] := by
      rw [readParams,hquery]
      rfl
    rw [hnone]
    exact if_pos hquery
  · exact if_neg hquery

theorem redactUrlQuery_iff (hpath : '?'∉path)
    (h : List.Forall₂ PartAlike (query.splitOn '&') (query'.splitOn '&')) :
    redactUrlQuery (path++ '?'::query)=redactUrlQuery (path++ '?'::query') ↔
      Repeats (readParams query) (readParams query') ∧
        Repeats (readParams query') (readParams query) := by
  obtain ⟨params,params',extra,extra',hl,hr,hmask,hextra⟩ := readParams_alike h
  have hlength : params.length=params'.length := by
    have hmapped := congrArg List.length hmask
    rw [List.length_map,List.length_map] at hmapped
    exact hmapped
  have hshort : ∀ (a b extra : List Param), a.length=b.length → Repeats b (a++extra) := by
    intro a b extra hab p hp
    rw [List.drop_eq_nil_of_le (by rw [List.length_append]; omega)] at hp
    cases hp
  have hlong : ∀ (a b extra : List Param), a.length=b.length →
      (Repeats (a++extra) b ↔ ∀ q∈extra, isSensitiveName q.1=true ∧ q.1∈b.map (·.1)) := by
    intro a b extra hab
    unfold Repeats
    rw [← hab,List.drop_left]
  rw [redactUrlQuery_read hpath,redactUrlQuery_read hpath,withQuery_inj,hl,hr]
  cases hextra with
  | inl hnone =>
    rw [hnone,List.append_nil,eq_comm,redactParams_extra hmask.symm,
      hlong params' params extra' hlength.symm]
    exact (and_iff_right (hshort params' params extra' hlength.symm)).symm
  | inr hnone =>
    rw [hnone,List.append_nil,redactParams_extra hmask,hlong params params' extra hlength]
    exact (and_iff_left (hshort params params' extra hlength)).symm

/-- What a log shows of two values does not tell apart what their sensitive keys store, and what it
shows of two queries does not unless a question mark in a value leaves parameters out. -/
theorem redaction_noninterfering (value value' : JsValue) (depth : ℕ) (path query query' : Url) :
    (Same value value' → redactLogValue depth value=redactLogValue depth value') ∧
    ('?'∉path → List.Forall₂ PartAlike (query.splitOn '&') (query'.splitOn '&') →
      (redactUrlQuery (path++ '?'::query)=redactUrlQuery (path++ '?'::query') ↔
        Repeats (readParams query) (readParams query') ∧
          Repeats (readParams query') (readParams query))) :=
  ⟨fun h => h.redact depth,fun hpath h => redactUrlQuery_iff hpath h⟩

/-- Two log-ins with other passwords, and two addresses with other tokens. -/
theorem redaction_noninterfering_demo :
    redactLogValue 0 (.array [.object [(units "user",.bool true),(units "Password",.text (units "a"))]])=
      redactLogValue 0 (.array [.object [(units "user",.bool true),(units "Password",.null)]]) ∧
    redactUrlQuery "/p?to%6Ben=a&x=1".toList=redactUrlQuery "/p?to%6Ben=b%20c&x=1".toList := by
  constructor
  · have hkey : isSensitive (units "Password")=true := by decide
    exact (redaction_noninterfering _ _ 0 [] [] []).1 (.array (.cons
      (.object (.shown (.refl _) (.hidden hkey .nil))) .nil))
  · have hsensitive : isSensitiveName (decode (rawName "to%6Ben=a".toList))=true := by decide +kernel
    have hpart : PartAlike "to%6Ben=a".toList "to%6Ben=b%20c".toList :=
      Or.inr ⟨by decide,hsensitive⟩
    have hrepeats : Repeats (readParams "to%6Ben=a&x=1".toList) (readParams "to%6Ben=b%20c&x=1".toList) ∧
        Repeats (readParams "to%6Ben=b%20c&x=1".toList) (readParams "to%6Ben=a&x=1".toList) := by
      decide +kernel
    exact ((redaction_noninterfering .null .null 0 "/p".toList "to%6Ben=a&x=1".toList
      "to%6Ben=b%20c&x=1".toList).2 (by decide) (.cons hpart (.cons (.inl rfl) .nil))).mpr hrepeats

/-- A token with a question mark hides the parameter after it. -/
theorem mark_seen : List.Forall₂ PartAlike ("token=a?b&x=1".toList.splitOn '&')
      ("token=c&x=1".toList.splitOn '&') ∧
    redactUrlQuery "/p?token=a?b&x=1".toList="/p?token=%5Bredacted%5D".toList ∧
    redactUrlQuery "/p?token=c&x=1".toList="/p?token=%5Bredacted%5D&x=1".toList := by
  have hpart : PartAlike "token=a?b".toList "token=c".toList := Or.inr ⟨by decide,by decide +kernel⟩
  exact ⟨.cons hpart (.cons (.inl rfl) .nil),by decide +kernel,by decide +kernel⟩

end Urls

end AardvarkWms.LogRedaction
