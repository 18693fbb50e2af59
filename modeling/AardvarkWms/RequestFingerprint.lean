import AardvarkWms.JsonText
import AardvarkWms.PropertyOrder

/-! The text of a request that its fingerprint is taken of, and which requests it tells apart. -/
namespace AardvarkWms.RequestFingerprint

open Numerals (Text JsNumber units)
open JsonText (JsValue Fields)
open PropertyOrder (Collation arrange)

variable (c : Collation)

mutual
def canonical : JsValue → JsValue
  | .undefined => .undefined
  | .null => .null
  | .bool b => .bool b
  | .number x => .number x
  | .text s => .text s
  | .date iso => .text iso
  | .array items => .array (canonicalItems items)
  | .object fields => .object (arrange c (canonicalFields fields))

def canonicalItems : List JsValue → List JsValue
  | [] => []
  | a::items => canonical a::canonicalItems items

/-- Fields that are undefined go; the keys are the same before and after. -/
def canonicalFields : Fields → Fields
  | [] => []
  | (_,.undefined)::fields => canonicalFields fields
  | (key,a)::fields => (key,canonical a)::canonicalFields fields
end

def canonicalText (value : JsValue) : Text := (canonical c value).stringify

def stockRequestFingerprint (sha256 : Text → Text) (value : JsValue) : Text :=
  sha256 (canonicalText c value)

/-- What a request's body is: no field twice, nothing undefined and no dates. -/
inductive IsBody : JsValue → Prop
  | null : IsBody .null
  | bool (b : Bool) : IsBody (.bool b)
  | number (x : JsNumber) : IsBody (.number x)
  | text (s : Text) : IsBody (.text s)
  | array {items : List JsValue} (h : ∀ a∈items, IsBody a) : IsBody (.array items)
  | object {fields : Fields} (hkeys : (fields.map (·.1)).Nodup) (h : ∀ f∈fields, IsBody f.2) :
      IsBody (.object fields)

/-- Equal up to the order of the keys of every object in them. -/
inductive Alike : JsValue → JsValue → Prop
  | null : Alike .null .null
  | bool (b : Bool) : Alike (.bool b) (.bool b)
  | number (x : JsNumber) : Alike (.number x) (.number x)
  | text (s : Text) : Alike (.text s) (.text s)
  | array {items items' : List JsValue} (hlength : items.length=items'.length)
      (h : ∀ (i : ℕ) (a b : JsValue), items[i]?=some a → items'[i]?=some b → Alike a b) :
      Alike (.array items) (.array items')
  | object {fields fields' : Fields} (hkeys : (fields.map (·.1)).Perm (fields'.map (·.1)))
      (h : ∀ (key : Text) (a b : JsValue), (key,a)∈fields → (key,b)∈fields' → Alike a b) :
      Alike (.object fields) (.object fields')

/-- No object has two keys, other than indices, that the locale holds to be equal. -/
inductive Untied : JsValue → Prop
  | null : Untied .null
  | bool (b : Bool) : Untied (.bool b)
  | number (x : JsNumber) : Untied (.number x)
  | text (s : Text) : Untied (.text s)
  | array {items : List JsValue} (h : ∀ a∈items, Untied a) : Untied (.array items)
  | object {fields : Fields} (hkeys : PropertyOrder.Untied c fields) (h : ∀ f∈fields, Untied f.2) :
      Untied (.object fields)

/-- Every number is finite. -/
inductive AllFinite : JsValue → Prop
  | null : AllFinite .null
  | bool (b : Bool) : AllFinite (.bool b)
  | number {x : JsNumber} (h : x.IsFinite) : AllFinite (.number x)
  | text (s : Text) : AllFinite (.text s)
  | array {items : List JsValue} (h : ∀ a∈items, AllFinite a) : AllFinite (.array items)
  | object {fields : Fields} (h : ∀ f∈fields, AllFinite f.2) : AllFinite (.object fields)

/-- Nothing is written as null: there is neither null nor a number that is not finite. -/
inductive NothingNull : JsValue → Prop
  | bool (b : Bool) : NothingNull (.bool b)
  | number {x : JsNumber} (h : x.IsFinite) : NothingNull (.number x)
  | text (s : Text) : NothingNull (.text s)
  | array {items : List JsValue} (h : ∀ a∈items, NothingNull a) : NothingNull (.array items)
  | object {fields : Fields} (h : ∀ f∈fields, NothingNull f.2) : NothingNull (.object fields)

mutual
/-- What is not finite is written as null. -/
def nullify : JsValue → JsValue
  | .number (.infinite _) => .null
  | .array items => .array (nullifyItems items)
  | .object fields => .object (nullifyFields fields)
  | v => v

def nullifyItems : List JsValue → List JsValue
  | [] => []
  | a::items => nullify a::nullifyItems items

def nullifyFields : Fields → Fields
  | [] => []
  | (key,a)::fields => (key,nullify a)::nullifyFields fields
end

/-- The value that the canonical text is the text of. -/
def printed (value : JsValue) : JsValue := nullify (canonical c value)

theorem nullifyItems_eq (items : List JsValue) : nullifyItems items=items.map nullify := by
  induction items with
  | nil => rfl
  | cons a items ih => rw [nullifyItems,ih,List.map_cons]

theorem nullifyFields_eq (fields : Fields) :
    nullifyFields fields=fields.map fun f => (f.1,nullify f.2) := by
  induction fields with
  | nil => rfl
  | cons f fields ih => rw [nullifyFields,ih,List.map_cons]

theorem canonicalItems_eq (items : List JsValue) : canonicalItems c items=items.map (canonical c) := by
  induction items with
  | nil => rfl
  | cons a items ih => rw [canonicalItems,ih,List.map_cons]

theorem canonicalFields_eq {fields : Fields} (h : ∀ f∈fields, IsBody f.2) :
    canonicalFields c fields=fields.map fun f => (f.1,canonical c f.2) := by
  induction fields with
  | nil => rfl
  | cons f fields ih =>
    have hrest := ih fun g hg => h g (List.mem_cons_of_mem f hg)
    have hfirst := h f List.mem_cons_self
    rcases f with ⟨key,a⟩
    cases a with
    | undefined => cases hfirst
    | _ => simp only [canonicalFields,hrest,List.map_cons]

mutual
theorem stringify_nullify : ∀ v : JsValue, (nullify v).stringify=v.stringify
  | .undefined => rfl
  | .null => rfl
  | .bool _ => rfl
  | .number .zero => rfl
  | .number (.finite _ _ _) => rfl
  | .number (.infinite _) => rfl
  | .text _ => rfl
  | .date _ => rfl
  | .array [] => rfl
  | .array (a::items) => by
    have hfirst := stringify_nullify a
    have hrest := stringifyItems_nullify items
    simp only [nullify,nullifyItems,JsValue.stringify,hfirst,hrest]
  | .object [] => rfl
  | .object ((key,a)::fields) => by
    have hfirst := stringify_nullify a
    have hrest := stringifyFields_nullify fields
    simp only [nullify,nullifyFields,JsValue.stringify,hfirst,hrest]

theorem stringifyItems_nullify : ∀ items : List JsValue,
    JsValue.stringifyItems (nullifyItems items)=JsValue.stringifyItems items
  | [] => rfl
  | a::items => by
    have hfirst := stringify_nullify a
    have hrest := stringifyItems_nullify items
    simp only [nullifyItems,JsValue.stringifyItems,hfirst,hrest]

theorem stringifyFields_nullify : ∀ fields : Fields,
    JsValue.stringifyFields (nullifyFields fields)=JsValue.stringifyFields fields
  | [] => rfl
  | (key,a)::fields => by
    have hfirst := stringify_nullify a
    have hrest := stringifyFields_nullify fields
    simp only [nullifyFields,JsValue.stringifyFields,hfirst,hrest]
end

theorem printed_array (items : List JsValue) :
    printed c (.array items)=.array (items.map (printed c)) := by
  simp only [printed,canonical,nullify,nullifyItems_eq,canonicalItems_eq,List.map_map]
  rfl

theorem printed_object {fields : Fields} (h : ∀ f∈fields, IsBody f.2) :
    printed c (.object fields)=.object (arrange c (fields.map fun f => (f.1,printed c f.2))) := by
  have hmap : (fields.map fun f => (f.1,canonical c f.2)).map (fun f => (f.1,nullify f.2))=
      fields.map fun f => (f.1,printed c f.2) := by
    rw [List.map_map]
    rfl
  rw [printed,canonical,nullify,nullifyFields_eq,canonicalFields_eq c h,
    ← PropertyOrder.arrange_map nullify,hmap]

theorem plainItems_iff (items : List JsValue) :
    JsValue.PlainItems items ↔ ∀ a∈items, a.IsPlain := by
  induction items with
  | nil => simp [JsValue.PlainItems]
  | cons a items ih => simp [JsValue.PlainItems,ih]

theorem plainFields_iff (fields : Fields) :
    JsValue.PlainFields fields ↔ ∀ f∈fields, f.2.IsPlain := by
  induction fields with
  | nil => simp [JsValue.PlainFields]
  | cons f fields ih => simp [JsValue.PlainFields,ih]

theorem printed_plain {a : JsValue} (h : IsBody a) : (printed c a).IsPlain := by
  induction h with
  | null => trivial
  | bool b => trivial
  | number x => cases x <;> trivial
  | text s => trivial
  | array h ih =>
    rw [printed_array,JsValue.IsPlain,plainItems_iff]
    simpa using ih
  | object hkeys h ih =>
    rw [printed_object c h,JsValue.IsPlain,plainFields_iff]
    intro f hf
    have hmem := (PropertyOrder.arrange_perm _).mem_iff.mp hf
    obtain ⟨g,hg,rfl⟩ := List.mem_map.mp hmem
    exact ih g hg

theorem canonicalText_eq_iff {a b : JsValue} (ha : IsBody a) (hb : IsBody b) :
    canonicalText c a=canonicalText c b ↔ printed c a=printed c b := by
  have hend : JsValue.Ended [] := fun u hu => by cases hu
  unfold canonicalText
  rw [← stringify_nullify (canonical c a),← stringify_nullify (canonical c b)]
  constructor
  · intro h
    have hboth : (printed c a).stringify++[]=(printed c b).stringify++[] :=
      congrArg (·++[]) h
    exact (JsValue.stringify_inj _ _ [] [] (printed_plain c ha) (printed_plain c hb) hend hend
      hboth).1
  · exact fun h => congrArg JsValue.stringify h

section Reordering
variable {c} {a b : JsValue}

theorem values_unique {fields : Fields} (hkeys : (fields.map (·.1)).Nodup) {key : Text}
    {a b : JsValue} (ha : (key,a)∈fields) (hb : (key,b)∈fields) : a=b :=
  congrArg Prod.snd (List.inj_on_of_nodup_map hkeys ha hb rfl)

theorem Alike.refl (h : IsBody a) : Alike a a := by
  induction h with
  | null => exact Alike.null
  | bool b => exact Alike.bool b
  | number x => exact Alike.number x
  | text s => exact Alike.text s
  | array h ih =>
    refine Alike.array rfl fun i a b ha hb => ?_
    rw [ha] at hb
    cases hb
    exact ih a (List.mem_of_getElem? ha)
  | object hkeys h ih =>
    refine Alike.object (List.Perm.refl _) fun key a b ha hb => ?_
    cases values_unique hkeys ha hb
    exact ih (key,a) ha

theorem alike_reverse {fields : Fields} (hkeys : (fields.map (·.1)).Nodup)
    (h : ∀ f∈fields, IsBody f.2) : Alike (.object fields) (.object fields.reverse) := by
  refine Alike.object ((List.reverse_perm fields).map _).symm fun key v w hv hw => ?_
  cases values_unique hkeys hv (List.mem_reverse.mp hw)
  exact Alike.refl (h _ hv)

/-- The fields with what is written for their values. -/
def printedFields (c : Collation) (fields : Fields) : Fields :=
  fields.map fun f => (f.1,printed c f.2)

theorem keys_printedFields (fields : Fields) :
    (printedFields c fields).map (·.1)=fields.map (·.1) := by
  unfold printedFields
  rw [List.map_map]
  rfl

theorem mem_printedFields {fields : Fields} {key : Text} {v : JsValue} :
    (key,v)∈printedFields c fields ↔ ∃ a, (key,a)∈fields ∧ printed c a=v := by
  unfold printedFields
  simp [Prod.ext_iff]

theorem printedFields_perm {fields fields' : Fields} (ha : ∀ f∈fields, IsBody f.2)
    (hb : ∀ f∈fields', IsBody f.2) (h : printed c (.object fields)=printed c (.object fields')) :
    (printedFields c fields).Perm (printedFields c fields') := by
  rw [printed_object c ha,printed_object c hb] at h
  have hback : (arrange c (printedFields c fields')).Perm (printedFields c fields') :=
    PropertyOrder.arrange_perm _
  have hlists := JsValue.object.inj h
  exact (PropertyOrder.arrange_perm _).symm.trans (hlists ▸ hback)

theorem printed_eq_of_alike (ha : IsBody a) (hb : IsBody b) (huntied : Untied c a)
    (h : Alike a b) : printed c a=printed c b := by
  induction h with
  | null => rfl
  | bool b => rfl
  | number x => rfl
  | text s => rfl
  | @array items items' hlength h ih =>
    cases ha with | array ha =>
    cases hb with | array hb =>
    cases huntied with | array huntied =>
    rw [printed_array,printed_array]
    refine congrArg JsValue.array (List.ext_getElem (by simpa using hlength) fun i hi hi' => ?_)
    have hi : i < items.length := by simpa using hi
    have hi' : i < items'.length := by simpa using hi'
    simp only [List.getElem_map]
    exact ih i _ _ (List.getElem?_eq_getElem hi) (List.getElem?_eq_getElem hi')
      (ha _ (List.getElem_mem hi)) (hb _ (List.getElem_mem hi')) (huntied _ (List.getElem_mem hi))
  | @object fields fields' hkeys h ih =>
    cases ha with | object hnodup ha =>
    cases hb with | object hnodup' hb =>
    cases huntied with | object htied huntied =>
    have hprinted : ∀ key v w, (key,v)∈fields → (key,w)∈fields' → printed c v=printed c w :=
      fun key v w hv hw => ih key v w hv hw (ha _ hv) (hb _ hw) (huntied _ hv)
    have hn : ((printedFields c fields).map (·.1)).Nodup := by rwa [keys_printedFields]
    have hn' : ((printedFields c fields').map (·.1)).Nodup := by rwa [keys_printedFields]
    have hperm : (printedFields c fields).Perm (printedFields c fields') := by
      refine (List.perm_ext_iff_of_nodup (List.Nodup.of_map _ hn) (List.Nodup.of_map _ hn')).mpr ?_
      rintro ⟨key,v⟩
      rw [mem_printedFields,mem_printedFields]
      constructor
      · rintro ⟨x,hx,rfl⟩
        obtain ⟨⟨key',y⟩,hy,rfl⟩ := List.mem_map.mp
          (hkeys.mem_iff.mp (List.mem_map.mpr ⟨_,hx,rfl⟩))
        exact ⟨y,hy,(hprinted _ x y hx hy).symm⟩
      · rintro ⟨y,hy,rfl⟩
        obtain ⟨⟨key',x⟩,hx,rfl⟩ := List.mem_map.mp
          (hkeys.mem_iff.mpr (List.mem_map.mpr ⟨_,hy,rfl⟩))
        exact ⟨x,hx,hprinted _ x y hx hy⟩
    have htied' : PropertyOrder.Untied c (printedFields c fields) := by
      rintro ⟨k,v⟩ hf ⟨k',w⟩ hg hindex hindex' htied''
      obtain ⟨x,hx,-⟩ := mem_printedFields.mp hf
      obtain ⟨y,hy,-⟩ := mem_printedFields.mp hg
      exact htied (k,x) hx (k',y) hy hindex hindex' htied''
    rw [printed_object c ha,printed_object c hb]
    exact congrArg JsValue.object (PropertyOrder.arrange_eq_of_perm hperm hn htied')

theorem printed_number {x : JsNumber} (h : x.IsFinite) : printed c (.number x)=.number x := by
  cases x with
  | infinite _ => cases h
  | _ => rfl

theorem printed_kind (ha : IsBody a) (hfinite : AllFinite a) : (printed c a).kind=a.kind := by
  cases ha with
  | number x =>
    cases hfinite with | number hx =>
    rw [printed_number hx]
  | array ha => rw [printed_array]; rfl
  | object hn ha => rw [printed_object c ha]; rfl
  | bool b => cases b <;> rfl
  | _ => rfl

theorem alike_of_printed_eq (ha : IsBody a) (hb : IsBody b) (hfinite : AllFinite a)
    (hfinite' : AllFinite b) (h : printed c a=printed c b) : Alike a b := by
  have hkind : a.kind=b.kind := by
    rw [← printed_kind (c := c) ha hfinite,h,printed_kind hb hfinite']
  induction ha generalizing b with
  | null =>
    cases hb with
    | null => exact Alike.null
    | bool b => cases b <;> cases hkind
    | _ => cases hkind
  | bool b =>
    cases hb with
    | bool b' => cases h; exact Alike.bool b
    | _ => cases b <;> cases hkind
  | text s =>
    cases hb with
    | text s' => cases h; exact Alike.text s
    | bool b => cases b <;> cases hkind
    | _ => cases hkind
  | number x =>
    cases hb with
    | number y =>
      cases hfinite with | number hx =>
      cases hfinite' with | number hy =>
      rw [printed_number hx,printed_number hy] at h
      cases h
      exact Alike.number x
    | bool b => cases b <;> cases hkind
    | _ => cases hkind
  | @array items ha ih =>
    cases hb with
    | @array items' hb =>
      cases hfinite with | array hfinite =>
      cases hfinite' with | array hfinite' =>
      rw [printed_array,printed_array] at h
      have hmap := JsValue.array.inj h
      have hlength : items.length=items'.length := by simpa using congrArg List.length hmap
      refine Alike.array hlength fun i v w hv hw => ?_
      have hv' := List.mem_of_getElem? hv
      have hw' := List.mem_of_getElem? hw
      have hget := congrArg (·[i]?) hmap
      simp only [List.getElem?_map,hv,hw,Option.map_some,Option.some.injEq] at hget
      refine ih v hv' (hb w hw') (hfinite v hv') (hfinite' w hw') hget ?_
      rw [← printed_kind (c := c) (ha v hv') (hfinite v hv'),hget,
        printed_kind (hb w hw') (hfinite' w hw')]
    | bool b => cases b <;> cases hkind
    | _ => cases hkind
  | @object fields hn ha ih =>
    cases hb with
    | @object fields' hn' hb =>
      cases hfinite with | object hfinite =>
      cases hfinite' with | object hfinite' =>
      have hperm := printedFields_perm ha hb h
      have hkeys := hperm.map (·.1)
      rw [keys_printedFields,keys_printedFields] at hkeys
      refine Alike.object hkeys fun key v w hv hw => ?_
      obtain ⟨w',hw',heq⟩ := mem_printedFields.mp
        (hperm.mem_iff.mp (mem_printedFields.mpr ⟨v,hv,rfl⟩))
      cases values_unique hn' hw hw'
      refine ih (key,v) hv (hb _ hw) (hfinite _ hv) (hfinite' _ hw) heq.symm ?_
      rw [← printed_kind (c := c) (ha _ hv) (hfinite _ hv),← heq,
        printed_kind (hb _ hw) (hfinite' _ hw)]
    | bool b => cases b <;> cases hkind
    | _ => cases hkind

end Reordering

section Mistakes
variable {c} {a v w : JsValue}

theorem alike_array_set {before after : List JsValue} (hbefore : ∀ x∈before, IsBody x)
    (hafter : ∀ x∈after, IsBody x) :
    Alike (.array (before++v::after)) (.array (before++w::after)) ↔ Alike v w := by
  constructor
  · intro h
    cases h with | array hlength h =>
    exact h before.length v w (by simp) (by simp)
  · intro h
    refine Alike.array (by simp) fun i x y hx hy => ?_
    rcases Nat.lt_trichotomy i before.length with hi|hi|hi
    · rw [List.getElem?_append_left hi] at hx hy
      rw [hx] at hy
      cases hy
      exact Alike.refl (hbefore x (List.mem_of_getElem? hx))
    · subst hi
      simp only [List.getElem?_append_right (Nat.le_refl _),Nat.sub_self,List.getElem?_cons_zero,
        Option.some.injEq] at hx hy
      rwa [← hx,← hy]
    · obtain ⟨k,rfl⟩ : ∃ k, i=before.length+(k+1) := ⟨i-before.length-1,by omega⟩
      simp only [List.getElem?_append_right (Nat.le_add_right _ _),Nat.add_sub_cancel_left,
        List.getElem?_cons_succ] at hx hy
      rw [hx] at hy
      cases hy
      exact Alike.refl (hafter x (List.mem_of_getElem? hx))

theorem alike_object_set {before after : Fields} {key : Text}
    (hn : ((before++(key,v)::after).map (·.1)).Nodup) (hbefore : ∀ f∈before, IsBody f.2)
    (hafter : ∀ f∈after, IsBody f.2) :
    Alike (.object (before++(key,v)::after)) (.object (before++(key,w)::after)) ↔ Alike v w := by
  have hkeys : (before++(key,v)::after).map (·.1)=(before++(key,w)::after).map (·.1) := by simp
  constructor
  · intro h
    cases h with | object hkeys h =>
    exact h key v w (by simp) (by simp)
  · intro h
    refine Alike.object (hkeys ▸ List.Perm.refl _) fun k x y hx hy => ?_
    by_cases hk : k=key
    · subst hk
      have hv := values_unique hn hx (by simp : (k,v)∈before++(k,v)::after)
      have hw := values_unique (hkeys ▸ hn) hy (by simp : (k,w)∈before++(k,w)::after)
      rwa [hv,hw]
    · have hother : ∀ z u, (k,z)∈before++(key,u)::after ↔ (k,z)∈before ∨ (k,z)∈after := by
        intro z u
        simp [hk]
      have hx' := (hother x v).mp hx
      have hy' := (hother y w).mp hy
      have hboth : (k,y)∈before++(key,v)::after := (hother y v).mpr hy'
      cases values_unique hn hx hboth
      cases hx' with
      | inl hmem => exact Alike.refl (hbefore _ hmem)
      | inr hmem => exact Alike.refl (hafter _ hmem)

theorem printed_array_set {before after : List JsValue} :
    printed c (.array (before++v::after))=printed c (.array (before++w::after)) ↔
      printed c v=printed c w := by
  rw [printed_array,printed_array]
  simp

theorem printed_object_set {before after : Fields} {key : Text}
    (hn : ((before++(key,v)::after).map (·.1)).Nodup)
    (hv : ∀ f∈before++(key,v)::after, IsBody f.2) (hw : ∀ f∈before++(key,w)::after, IsBody f.2) :
    printed c (.object (before++(key,v)::after))=printed c (.object (before++(key,w)::after)) ↔
      printed c v=printed c w := by
  constructor
  · intro h
    have hperm := printedFields_perm hv hw h
    have hin : (key,printed c w)∈printedFields c (before++(key,v)::after) :=
      hperm.mem_iff.mpr (mem_printedFields.mpr ⟨w,by simp,rfl⟩)
    obtain ⟨x,hx,heq⟩ := mem_printedFields.mp hin
    have hone := values_unique hn hx (by simp : (key,v)∈before++(key,v)::after)
    rw [← heq,hone]
  · intro h
    rw [printed_object c hv,printed_object c hw]
    simp [h]

theorem forall_set {γ : Type} {p : γ → Prop} {before after : List γ} {v w : γ} (hw : p w)
    (h : ∀ x∈before++v::after, p x) :
    (∀ x∈before, p x) ∧ (∀ x∈after, p x) ∧ ∀ x∈before++w::after, p x := by
  have hrest := List.forall_mem_append.mp h
  have hafter := (List.forall_mem_cons.mp hrest.2).2
  exact ⟨hrest.1,hafter,List.forall_mem_append.mpr ⟨hrest.1,List.forall_mem_cons.mpr ⟨hw,hafter⟩⟩⟩

/-- Somewhere in a body two keys are tied: with the fields there in the opposite order it is the
same request, and its text another. -/
theorem exists_reordered (ha : IsBody a) (htied : ¬Untied c a) :
    ∃ b, IsBody b ∧ Alike a b ∧ printed c a≠printed c b := by
  induction ha with
  | null => exact absurd Untied.null htied
  | bool b => exact absurd (Untied.bool b) htied
  | number x => exact absurd (Untied.number x) htied
  | text s => exact absurd (Untied.text s) htied
  | @array items ha ih =>
    have hitem : ∃ v∈items, ¬Untied c v := by
      by_contra hnone
      push Not at hnone
      exact htied (Untied.array hnone)
    obtain ⟨v,hv,hvtied⟩ := hitem
    obtain ⟨w,hw,halike,hprinted⟩ := ih v hv hvtied
    obtain ⟨before,after,rfl⟩ := List.append_of_mem hv
    obtain ⟨hbefore,hafter,hall⟩ := forall_set (p := IsBody) hw ha
    exact ⟨.array (before++w::after),IsBody.array hall,
      (alike_array_set hbefore hafter).mpr halike,mt printed_array_set.mp hprinted⟩
  | @object fields hn ha ih =>
    by_cases hown : PropertyOrder.Untied c fields
    · have hfield : ∃ f∈fields, ¬Untied c f.2 := by
        by_contra hnone
        push Not at hnone
        exact htied (Untied.object hown hnone)
      obtain ⟨⟨key,v⟩,hv,hvtied⟩ := hfield
      obtain ⟨w,hw,halike,hprinted⟩ := ih _ hv hvtied
      obtain ⟨before,after,rfl⟩ := List.append_of_mem hv
      obtain ⟨hbefore,hafter,hall⟩ := forall_set (p := fun f => IsBody f.2) (w := (key,w)) hw ha
      refine ⟨.object (before++(key,w)::after),IsBody.object ?_ hall,
        (alike_object_set hn hbefore hafter).mpr halike,
        mt (printed_object_set hn ha hall).mp hprinted⟩
      simpa using hn
    · have hreverse : ∀ f∈fields.reverse, IsBody f.2 := fun f hf => ha f (List.mem_reverse.mp hf)
      refine ⟨.object fields.reverse,IsBody.object ?_ hreverse,alike_reverse hn ha,?_⟩
      · rw [List.map_reverse,List.nodup_reverse]
        exact hn
      · rw [printed_object c ha,printed_object c hreverse]
        intro h
        have hkeys : ((printedFields c fields).map (·.1)).Nodup := by rwa [keys_printedFields]
        have htied' : ¬PropertyOrder.Untied c (printedFields c fields) := by
          intro huntied
          refine hown fun f hf g hg => ?_
          exact huntied (f.1,printed c f.2) (mem_printedFields.mpr ⟨f.2,hf,rfl⟩)
            (g.1,printed c g.2) (mem_printedFields.mpr ⟨g.2,hg,rfl⟩)
        have hlists := JsValue.object.inj h
        rw [List.map_reverse] at hlists
        exact PropertyOrder.arrange_reverse_ne hkeys htied' hlists

/-- Somewhere in a body is null, or a number that is written so: another body has the other of the
two there, and the same text. -/
theorem exists_mistaken (ha : IsBody a) (hnull : ¬NothingNull a) :
    ∃ b, IsBody b ∧ ¬Alike a b ∧ printed c a=printed c b := by
  induction ha with
  | null => exact ⟨.number (.infinite false),IsBody.number _,fun h => (by cases h),rfl⟩
  | bool b => exact absurd (NothingNull.bool b) hnull
  | number x =>
    cases x with
    | infinite negative => exact ⟨.null,IsBody.null,fun h => (by cases h),rfl⟩
    | zero =>
      have hfinite : JsNumber.zero.IsFinite := trivial
      exact absurd (NothingNull.number hfinite) hnull
    | finite negative significand point =>
      have hfinite : (JsNumber.finite negative significand point).IsFinite := trivial
      exact absurd (NothingNull.number hfinite) hnull
  | text s => exact absurd (NothingNull.text s) hnull
  | @array items ha ih =>
    have hitem : ∃ v∈items, ¬NothingNull v := by
      by_contra hnone
      push Not at hnone
      exact hnull (NothingNull.array hnone)
    obtain ⟨v,hv,hvnull⟩ := hitem
    obtain ⟨w,hw,halike,hprinted⟩ := ih v hv hvnull
    obtain ⟨before,after,rfl⟩ := List.append_of_mem hv
    obtain ⟨hbefore,hafter,hall⟩ := forall_set (p := IsBody) hw ha
    exact ⟨.array (before++w::after),IsBody.array hall,
      mt (alike_array_set hbefore hafter).mp halike,printed_array_set.mpr hprinted⟩
  | @object fields hn ha ih =>
    have hfield : ∃ f∈fields, ¬NothingNull f.2 := by
      by_contra hnone
      push Not at hnone
      exact hnull (NothingNull.object hnone)
    obtain ⟨⟨key,v⟩,hv,hvnull⟩ := hfield
    obtain ⟨w,hw,halike,hprinted⟩ := ih _ hv hvnull
    obtain ⟨before,after,rfl⟩ := List.append_of_mem hv
    obtain ⟨hbefore,hafter,hall⟩ := forall_set (p := fun f => IsBody f.2) (w := (key,w)) hw ha
    refine ⟨.object (before++(key,w)::after),IsBody.object ?_ hall,
      mt (alike_object_set hn hbefore hafter).mp halike,
      (printed_object_set hn ha hall).mpr hprinted⟩
    simpa using hn

end Mistakes

section Identity
variable {c}

theorem NothingNull.allFinite {a : JsValue} (h : NothingNull a) : AllFinite a := by
  induction h with
  | bool b => exact AllFinite.bool b
  | number h => exact AllFinite.number h
  | text s => exact AllFinite.text s
  | array h ih => exact AllFinite.array ih
  | object h ih => exact AllFinite.object ih

theorem nothingNull_printed {a : JsValue} (ha : IsBody a) :
    NothingNull (printed c a) ↔ NothingNull a := by
  induction ha with
  | null => exact Iff.rfl
  | bool b => exact Iff.rfl
  | text s => exact Iff.rfl
  | number x =>
    cases x with
    | infinite negative =>
      constructor
      · intro h
        cases h
      · intro h
        cases h with | number h => cases h
    | _ => exact Iff.rfl
  | @array items ha ih =>
    rw [printed_array]
    constructor
    · intro h
      cases h with | array h =>
      exact NothingNull.array fun v hv => (ih v hv).mp (h _ (List.mem_map_of_mem hv))
    · intro h
      cases h with | array h =>
      refine NothingNull.array fun v hv => ?_
      obtain ⟨w,hw,rfl⟩ := List.mem_map.mp hv
      exact (ih w hw).mpr (h w hw)
  | @object fields hn ha ih =>
    have hmem : ∀ f, f∈arrange c (printedFields c fields) ↔ f∈printedFields c fields := fun f =>
      (PropertyOrder.arrange_perm _).mem_iff
    rw [printed_object c ha]
    constructor
    · intro h
      cases h with | object h =>
      refine NothingNull.object fun f hf => (ih f hf).mp ?_
      exact h (f.1,printed c f.2) ((hmem _).mpr (mem_printedFields.mpr ⟨f.2,hf,rfl⟩))
    · intro h
      cases h with | object h =>
      refine NothingNull.object fun f hf => ?_
      obtain ⟨v,hv,heq⟩ := mem_printedFields.mp ((hmem f).mp hf)
      rw [← heq]
      exact (ih _ hv).mpr (h _ hv)

/-- A request's body. -/
abbrev JsonBody : Type := {a : JsValue // IsBody a}

/-- Bodies with finite numbers and without tied keys are told apart by their canonical texts. One
body is told from every other exactly if no two keys in it are tied and it has neither null nor a
number that is written as null. -/
theorem canonicalText_identifies (c : Collation) :
    (∀ a b : JsonBody, AllFinite a.val → AllFinite b.val → Untied c a.val →
      (canonicalText c a.val=canonicalText c b.val ↔ Alike a.val b.val)) ∧
    ∀ a : JsonBody, (∀ b : JsonBody, canonicalText c a.val=canonicalText c b.val ↔
      Alike a.val b.val) ↔ Untied c a.val ∧ NothingNull a.val := by
  have hbodies : ∀ a b : JsonBody, AllFinite a.val → AllFinite b.val → Untied c a.val →
      (canonicalText c a.val=canonicalText c b.val ↔ Alike a.val b.val) := by
    intro a b hfinite hfinite' huntied
    rw [canonicalText_eq_iff c a.property b.property]
    exact ⟨alike_of_printed_eq a.property b.property hfinite hfinite',
      printed_eq_of_alike a.property b.property huntied⟩
  refine ⟨hbodies,fun a => ⟨fun h => ⟨?_,?_⟩,fun h b => ?_⟩⟩
  · by_contra htied
    obtain ⟨b,hb,halike,hprinted⟩ := exists_reordered a.property htied
    exact hprinted ((canonicalText_eq_iff c a.property hb).mp ((h ⟨b,hb⟩).mpr halike))
  · by_contra hnull
    obtain ⟨b,hb,halike,hprinted⟩ := exists_mistaken (c := c) a.property hnull
    exact halike ((h ⟨b,hb⟩).mp ((canonicalText_eq_iff c a.property hb).mpr hprinted))
  · constructor
    · intro htext
      have hprinted := (canonicalText_eq_iff c a.property b.property).mp htext
      have hnull : NothingNull b.val := by
        rw [← nothingNull_printed (c := c) b.property,← hprinted,nothingNull_printed a.property]
        exact h.2
      exact (hbodies a b h.2.allFinite hnull.allFinite h.1).mp htext
    · intro halike
      exact (canonicalText_eq_iff c a.property b.property).mpr
        (printed_eq_of_alike a.property b.property h.1 halike)

/-- The units of a text, with an accented letter as the letter and its accent. -/
def decomposed (s : Text) : List ℕ := s.flatMap fun u => if u=0xE9 then [101,769] else [u.toNat]

def lexicographic : List ℕ → List ℕ → Bool
  | [], _ => true
  | _::_, [] => false
  | a::as, b::bs => a < b || (a=b && lexicographic as bs)

theorem lexicographic_total : ∀ as bs, lexicographic as bs=true ∨ lexicographic bs as=true
  | [], _ => Or.inl rfl
  | _::_, [] => Or.inr rfl
  | a::as, b::bs => by
    have hrest := lexicographic_total as bs
    simp only [lexicographic,Bool.or_eq_true,Bool.and_eq_true,decide_eq_true_eq]
    rcases Nat.lt_trichotomy a b with h|h|h
    · exact Or.inl (Or.inl h)
    · exact hrest.imp (fun hle => Or.inr ⟨h,hle⟩) (fun hle => Or.inr ⟨h.symm,hle⟩)
    · exact Or.inr (Or.inl h)

theorem lexicographic_trans : ∀ as bs cs, lexicographic as bs=true → lexicographic bs cs=true →
    lexicographic as cs=true
  | [], _, _ => fun _ _ => rfl
  | _::_, [], _ => fun h _ => by cases h
  | _::_, _::_, [] => fun _ h => by cases h
  | a::as, b::bs, d::ds => by
    have hrest := lexicographic_trans as bs ds
    simp only [lexicographic,Bool.or_eq_true,Bool.and_eq_true,decide_eq_true_eq]
    rintro (h|h) (h'|h')
    · exact Or.inl (Nat.lt_trans h h')
    · exact Or.inl (h'.1 ▸ h)
    · exact Or.inl (h.1 ▸ h')
    · exact Or.inr ⟨h.1.trans h'.1,hrest h.2 h'.2⟩

/-- A locale to which a letter with an accent is one text, however it is written. -/
def someLocale : Collation where
  le s t := lexicographic (decomposed s) (decomposed t)
  total _ _ := lexicographic_total _ _
  trans _ _ _ := lexicographic_trans _ _ _

def acute : Text := [0xE9]

def combined : Text := [101,769]

def accentsFields : Fields := [(acute,.bool true),(combined,.bool false)]

theorem isBody_accents {fields : Fields} (h : fields.Perm accentsFields) : IsBody (.object fields) := by
  refine IsBody.object ((h.map _).nodup_iff.mpr (by decide)) fun f hf => ?_
  have hmem := h.mem_iff.mp hf
  simp only [accentsFields,List.mem_cons,List.not_mem_nil,or_false] at hmem
  rcases hmem with rfl|rfl <;> exact IsBody.bool _

/-- An object with one key in two spellings. -/
def accents : JsonBody := ⟨.object accentsFields,isBody_accents (List.Perm.refl _)⟩

def accentsReversed : JsonBody :=
  ⟨.object accentsFields.reverse,isBody_accents (List.reverse_perm _)⟩

theorem accents_alike : Alike accents.val accentsReversed.val := by
  have hbody := accents.property
  cases hbody with | object hn h =>
  exact alike_reverse hn h

/-- The two orders of its fields are one request with two texts. -/
theorem accents_not_reordered : ¬∀ a b : JsonBody, canonicalText someLocale a.val=
    canonicalText someLocale b.val ↔ Alike a.val b.val := by
  intro h
  have htexts := (h accents accentsReversed).mpr accents_alike
  revert htexts
  decide

def flagsFields : Fields := [(units "b",.bool true),(units "a",.text acute)]

theorem mem_flags {f : Text × JsValue} (h : f∈flagsFields) :
    f=(units "b",.bool true) ∨ f=(units "a",.text acute) := by
  simpa [flagsFields] using h

theorem isBody_flags : IsBody (.object flagsFields) := by
  refine IsBody.object (by decide) fun f hf => ?_
  rcases mem_flags hf with rfl|rfl
  · exact IsBody.bool true
  · exact IsBody.text acute

theorem untied_flags : Untied someLocale (.object flagsFields) := by
  refine Untied.object (fun f hf g hg _ _ htied => ?_) fun f hf => ?_
  · have hle := htied.1
    have hle' := htied.2
    rcases mem_flags hf with rfl|rfl <;> rcases mem_flags hg with rfl|rfl
    · rfl
    · revert hle
      decide
    · revert hle'
      decide
    · rfl
  · rcases mem_flags hf with rfl|rfl
    · exact Untied.bool true
    · exact Untied.text acute

theorem nothingNull_flags : NothingNull (.object flagsFields) := by
  refine NothingNull.object fun f hf => ?_
  rcases mem_flags hf with rfl|rfl
  · exact NothingNull.bool true
  · exact NothingNull.text acute

theorem canonicalText_identifies_demo : ∀ b : JsonBody, canonicalText someLocale
    (.object flagsFields)=canonicalText someLocale b.val ↔ Alike (.object flagsFields) b.val :=
  ((canonicalText_identifies someLocale).2 ⟨_,isBody_flags⟩).mpr ⟨untied_flags,nothingNull_flags⟩

end Identity

end AardvarkWms.RequestFingerprint
