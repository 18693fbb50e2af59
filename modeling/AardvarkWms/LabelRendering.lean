import AardvarkWms.RuleConditions
import Mathlib.Data.Rat.Floor

/-! Labels in ZPL: `src/labels/zpl-renderer.helpers.ts`, and how a printer reads them. -/
namespace AardvarkWms.LabelRendering

open Numerals (Text unit units)
open JsonText (Fields)
open RuleConditions (Script Found)

section Streams

def isSign (u : UInt16) : Bool := u=unit '^' || u=unit '~'

/-- The text before the first command, and each command's sign with what stands up to the next. -/
structure Stream where
  before : Text
  commands : List (UInt16 × Text)

/-- How a printer takes a text apart. -/
def Stream.read : Text → Stream
  | [] => ⟨[],[]⟩
  | u::t =>
    if isSign u then ⟨[],(u,(read t).before)::(read t).commands⟩
    else ⟨u::(read t).before,(read t).commands⟩

/-- A command without the data of a field. -/
def hideData (c : UInt16 × Text) : UInt16 × Text :=
  if c.1=unit '^' ∧ c.2.take 2=units "FD" then (c.1,units "FD") else c

/-- The commands with their parameters. -/
def Stream.skeleton (s : Stream) : Stream := ⟨s.before,s.commands.map hideData⟩

def names (commands : List (UInt16 × Text)) : List (UInt16 × Text) :=
  commands.map fun c => (c.1,c.2.take 2)

/-- How often a command is given. -/
def Stream.count (s : Stream) (name : String) : ℕ :=
  (names s.commands).count (unit '^',units name)

/-- No command begins in the text. -/
def Quiet (t : Text) : Prop := t.all (fun u => !isSign u)=true

instance decidableQuiet (t : Text) : Decidable (Quiet t) :=
  inferInstanceAs (Decidable (t.all (fun u => !isSign u)=true))

/-- The same commands with the same parameters. -/
def Alike (t t' : Text) : Prop := (Stream.read t).skeleton=(Stream.read t').skeleton

variable {t t' d d' : Text}

theorem quiet_iff : Quiet t ↔ ∀ u∈t, isSign u=false := by
  unfold Quiet
  simp [List.all_eq_true]

theorem Quiet.append (h : Quiet t) (h' : Quiet t') : Quiet (t++t') := by
  rw [quiet_iff] at h h' ⊢
  exact List.forall_mem_append.mpr ⟨h,h'⟩

theorem read_quiet (h : Quiet d) :
    Stream.read (d++t)=⟨d++(Stream.read t).before,(Stream.read t).commands⟩ := by
  induction d with
  | nil => rfl
  | cons u d ih =>
    have hall := quiet_iff.mp h
    have hu : isSign u=false := hall u List.mem_cons_self
    have hrest := ih (quiet_iff.mpr fun v hv => hall v (List.mem_cons_of_mem u hv))
    rw [List.cons_append,Stream.read,hu,hrest]
    rfl

theorem read_sign {u : UInt16} (h : isSign u=true) :
    Stream.read (u::t)=⟨[],(u,(Stream.read t).before)::(Stream.read t).commands⟩ := by
  rw [Stream.read,if_pos h]

/-- The name of a command, where no sign stands in it. -/
theorem names_command {u a b : UInt16} (hu : isSign u=true) (ha : isSign a=false)
    (hb : isSign b=false) : names (Stream.read (u::a::b::t)).commands=
      (u,[a,b])::names (Stream.read t).commands := by
  have hname : Quiet [a,b] := by
    refine quiet_iff.mpr fun v hv => ?_
    simp only [List.mem_cons,List.not_mem_nil,or_false] at hv
    cases hv with
    | inl hva => rw [hva,ha]
    | inr hvb => rw [hvb,hb]
  have hread := @read_quiet t [a,b] hname
  rw [read_sign hu]
  simp only [List.cons_append,List.nil_append] at hread
  rw [hread]
  rfl

theorem names_quiet (h : Quiet d) :
    names (Stream.read (d++t)).commands=names (Stream.read t).commands := by
  rw [read_quiet h]

theorem Alike.refl (t : Text) : Alike t t := rfl

theorem Alike.cons (h : Alike t t') (u : UInt16) : Alike (u::t) (u::t') := by
  have hbefore := congrArg Stream.before h
  have hcommands := congrArg Stream.commands h
  simp only [Stream.skeleton] at hbefore hcommands
  unfold Alike Stream.skeleton
  by_cases hu : isSign u=true
  · rw [read_sign hu,read_sign hu,List.map_cons,List.map_cons,hbefore,hcommands]
  · rw [Stream.read,Stream.read,if_neg hu,if_neg hu]
    simp only [hbefore,hcommands]

theorem Alike.append (h : Alike t t') (s : Text) : Alike (s++t) (s++t') := by
  induction s with
  | nil => exact h
  | cons u s ih => exact ih.cons u

theorem Alike.data (h : Alike t t') (hd : Quiet d) (hd' : Quiet d') :
    Alike (units "^FD"++(d++unit '^'::t)) (units "^FD"++(d'++unit '^'::t')) := by
  have hsign : isSign (unit '^')=true := by decide
  have hname : Quiet (units "FD") := by decide
  have hread : ∀ d t : Text, Quiet d → Stream.read (units "^FD"++(d++unit '^'::t))=
      ⟨[],(unit '^',units "FD"++d)::(unit '^',(Stream.read t).before)::(Stream.read t).commands⟩ := by
    intro d t hd
    have hunits : units "^FD"++(d++unit '^'::t)=unit '^'::(units "FD"++(d++unit '^'::t)) := rfl
    rw [hunits,read_sign hsign,read_quiet hname,read_quiet hd,read_sign hsign,List.append_nil]
  have hhidden : ∀ d : Text, hideData (unit '^',units "FD"++d)=(unit '^',units "FD") := fun d => rfl
  have hnext := h.cons (unit '^')
  have hcommands := congrArg Stream.commands hnext
  simp only [Stream.skeleton,read_sign hsign] at hcommands
  unfold Alike Stream.skeleton
  rw [hread d t hd,hread d' t' hd']
  simp only [List.map_cons,hhidden]
  rw [← List.map_cons,← List.map_cons,hcommands]

end Streams

section Layouts

inductive LabelFieldType
  | text | qr | code128 | gs1128 | datamatrix | box | line
  deriving DecidableEq

inductive Rotation
  | N | R | I | B

def Rotation.text : Rotation → Text
  | N => units "N"
  | R => units "R"
  | I => units "I"
  | B => units "B"

inductive Orientation
  | N | I

structure LabelLayoutField where
  type : LabelFieldType
  x : ℚ
  y : ℚ
  width : Option ℚ
  height : Option ℚ
  value : Option Text
  binding : Option Text
  fontSize : Option ℚ
  rotation : Option Rotation
  moduleSize : Option ℚ
  lineWidth : Option ℚ

structure LabelLayout where
  widthMm : ℚ
  heightMm : ℚ
  dpi : ℚ
  orientation : Option Orientation
  fields : List LabelLayoutField

structure ZplRenderResult where
  zpl : Text
  warnings : List Text
  deriving DecidableEq

/-- The nearest whole number; of two it is the larger. -/
def round (q : ℚ) : ℤ := ⌊q+1/2⌋

def mmPerInch : ℚ := 127/5

def mmToDots (value dpi : ℚ) : ℕ := (max 0 (round (value/mmPerInch*dpi))).toNat

def clamp (value min max : ℤ) : ℤ := Min.min (Max.max value min) max

/-- A number as the template writes it. -/
def numberText (n : ℕ) : Text := if n=0 then units "0" else Numerals.decimal n

/-- `/\r?\n|\t/g` becomes blanks. -/
def blankBreaks : Text → Text
  | [] => []
  | u::t =>
    if u=unit '\n' || u=unit '\t' then unit ' '::blankBreaks t
    else if u=unit '\r' && t.head?=some (unit '\n') then blankBreaks t
    else u::blankBreaks t

def isControl (u : UInt16) : Bool :=
  u.toNat≤8 || u.toNat=11 || u.toNat=12 || (14≤u.toNat && u.toNat≤28) || u.toNat=30 || u.toNat=31

def replaceUnit (p : UInt16 → Bool) (value : Text) : Text :=
  value.map fun u => if p u then unit ' ' else u

def escapeZplFieldData (value : Text) : Text :=
  blankBreaks (replaceUnit (·=unit '~') (replaceUnit (·=unit '^') (replaceUnit isControl value)))

def zplText (value : Text) : Text := escapeZplFieldData value

variable (script : Script)

/-- `current[segment]`, of what is an object. -/
def member (current : Found) (segment : Text) : Found :=
  match current with
  | .own (.object fields) =>
    match fields.find? (·.1=segment) with
    | some f => .own f.2
    | none => ((script.inherited segment).map Found.inherited).getD (.own .undefined)
  | .own _ => .own .undefined
  | .inherited text => script.inheritedMember text segment

def getPath (payload : Fields) (path : Text) : Found :=
  (path.splitOn (unit '.')).foldl (member script) (.own (.object payload))

/-- The bound value, where there is one, or else the field's own. An object that has no text
throws. -/
def resolveFieldValue (field : LabelLayoutField) (payload : Fields) : Option Text :=
  match field.binding.filter (·≠[]) with
  | none => some (field.value.getD [])
  | some binding =>
    match getPath script payload binding with
    | .own .undefined => some (field.value.getD [])
    | .own .null => some (field.value.getD [])
    | resolved => resolved.text

def barcodeSize (field : LabelLayoutField) : Text :=
  numberText (clamp (round (field.moduleSize.getD 6)) 1 10).toNat

def origin (field : LabelLayoutField) (layout : LabelLayout) : Text :=
  units "^FO"++numberText (mmToDots field.x layout.dpi)++units ","++
    numberText (mmToDots field.y layout.dpi)

/-- A field's data between its commands. -/
def fieldData (data : Text) : Text := units "^FD"++zplText data++units "^FS"

/-- What a field is rendered to, with its value. -/
def fieldText (field : LabelLayoutField) (layout : LabelLayout) (value : Text) : Text :=
  let rotation := (field.rotation.getD .N).text
  let dots := fun (size : Option ℚ) (fallback : ℚ) => mmToDots (size.getD fallback) layout.dpi
  match field.type with
  | .text =>
    let fontSize := numberText (dots field.fontSize 5)
    origin field layout++(units "^A0"++(rotation++units ","++fontSize++units ","++fontSize)++
      fieldData value)
  | .qr =>
    origin field layout++(units "^BQN,2,"++barcodeSize field++
      (units "^FDLA,"++zplText value++units "^FS"))
  | .code128 =>
    origin field layout++(units "^BC"++(rotation++units ","++numberText (dots field.height 18)++
      units ",Y,N,N")++fieldData value)
  | .gs1128 =>
    origin field layout++(units "^BC"++(rotation++units ","++numberText (dots field.height 18)++
      units ",Y,N,N")++fieldData (units ">;"++value))
  | .datamatrix =>
    origin field layout++(units "^BX"++(rotation++units ","++barcodeSize field++units ",200")++
      fieldData value)
  | .box =>
    origin field layout++(units "^GB"++(numberText (dots field.width 20)++units ","++
      numberText (dots field.height 10)++units ","++
      numberText (max 1 (dots field.lineWidth (7/20))))++units "^FS")
  | .line =>
    let lineWidth := numberText (max 1 (dots field.lineWidth (7/20)))
    origin field layout++(units "^GB"++(numberText (dots field.width 20)++units ","++lineWidth++
      units ","++lineWidth)++units "^FS")

def renderField (field : LabelLayoutField) (layout : LabelLayout) (payload : Fields) :
    Option Text :=
  (resolveFieldValue script field payload).map (fieldText field layout)

end Layouts

section Documents

def isBarcodeField : LabelFieldType → Bool
  | .qr | .code128 | .gs1128 | .datamatrix => true
  | _ => false

def fieldLabel (index : ℕ) : Text := units "Field "++numberText (index+1)

/-- What is wrong with a field of a layout, in the order of the checks. -/
def fieldWarnings (layout : LabelLayout) (field : LabelLayoutField) (index : ℕ) : List Text :=
  let width := field.width.getD 0
  let height := field.height.getD 0
  let warn := fun (wrong : Bool) (message : String) =>
    if wrong then [fieldLabel index++units message] else []
  warn (field.x < 0 || field.y < 0) " starts outside the label."++
  warn (width < 0 || height < 0) " has negative size."++
  warn (layout.widthMm < field.x+width || layout.heightMm < field.y+height)
    " exceeds the label boundary."++
  warn ((field.type=.qr || field.type=.datamatrix) && (width < 12 || height < 12))
    " 2D code is too small for reliable scanning."++
  warn ((field.type=.code128 || field.type=.gs1128) && (width < 25 || height < 8))
    " linear barcode is too small for reliable scanning."++
  warn (isBarcodeField field.type && field.moduleSize.any fun n => n < 1 || 10 < n)
    " barcode module size must be between 1 and 10."

/-- The numbers of a layout are finite. -/
def validateLabelLayout (layout : LabelLayout) : List Text :=
  (if layout.widthMm ≤ 0 then [units "Label width must be greater than zero."] else [])++
  (if layout.heightMm ≤ 0 then [units "Label height must be greater than zero."] else [])++
  (if layout.dpi < 150 then [units "DPI must be at least 150."] else [])++
  layout.fields.zipIdx.flatMap fun f => fieldWarnings layout f.1 f.2

variable (script : Script)

/-- Whether a text is too long for its field. -/
def overflowWarning (payload : Fields) (field : LabelLayoutField) (index : ℕ) :
    Option (List Text) :=
  match field.type, field.width.filter (·≠0), field.fontSize.filter (·≠0) with
  | .text, some width, some fontSize => do
    let value ← resolveFieldValue script field payload
    let maxCharacters := max 1 ⌊width/max 1 (fontSize*(9/20))⌋
    pure (if maxCharacters < value.length then
      [fieldLabel index++units " text may overflow the label."] else [])
  | _, _, _ => some []

def validateLabelFieldPayload (layout : LabelLayout) (payload : Fields) : Option (List Text) :=
  (layout.fields.zipIdx.mapM fun f => overflowWarning script payload f.1 f.2).map List.flatten

/-- The commands before those of the fields. -/
def header (layout : LabelLayout) : List Text :=
  [units "^XA",units "^CI28",units "^PW"++numberText (mmToDots layout.widthMm layout.dpi),
    units "^LL"++numberText (mmToDots layout.heightMm layout.dpi),
    match layout.orientation with
    | some .I => units "^POI"
    | _ => units "^PON"]

def renderZpl (layout : LabelLayout) (payload : Fields) : Option ZplRenderResult := do
  let payloadWarnings ← validateLabelFieldPayload script layout payload
  let fields ← layout.fields.mapM fun field => renderField script field layout payload
  let lines := header layout++fields++[units "^XZ"]
  pure
    { zpl := Separators.join (unit '\n') (lines.filter (·≠[]))
      warnings := validateLabelLayout layout++payloadWarnings }

end Documents

theorem quiet_blankBreaks : ∀ {t : Text}, Quiet t → Quiet (blankBreaks t) := by
  intro t h
  have hblank : isSign (unit ' ')=false := by decide
  induction t with
  | nil => exact h
  | cons u t ih =>
    rw [quiet_iff] at h
    have hrest := ih (quiet_iff.mpr fun v hv => h v (List.mem_cons_of_mem u hv))
    rw [quiet_iff] at hrest ⊢
    unfold blankBreaks
    split_ifs
    · exact List.forall_mem_cons.mpr ⟨hblank,hrest⟩
    · exact hrest
    · exact List.forall_mem_cons.mpr ⟨h u List.mem_cons_self,hrest⟩

theorem mem_replaceUnit {p : UInt16 → Bool} {t : Text} {u : UInt16} (h : u∈replaceUnit p t) :
    u=unit ' ' ∨ u∈t ∧ p u=false := by
  obtain ⟨v,hv,rfl⟩ := List.mem_map.mp h
  cases hp : p v with
  | true => exact Or.inl (if_pos rfl)
  | false => exact Or.inr ⟨hv,hp⟩

theorem quiet_zplText (value : Text) : Quiet (zplText value) := by
  have hblank : isSign (unit ' ')=false := by decide
  refine quiet_blankBreaks (quiet_iff.mpr fun u hu => ?_)
  cases mem_replaceUnit hu with
  | inl hu => rw [hu,hblank]
  | inr hu =>
    cases mem_replaceUnit hu.1 with
    | inl hu => rw [hu,hblank]
    | inr hu' => simp [isSign,of_decide_eq_false hu'.2,of_decide_eq_false hu.2]

theorem quiet_numberText (n : ℕ) : Quiet (numberText n) := by
  have hten : ∀ d < 10, isSign (UInt16.ofNat (48+d))=false := by decide
  unfold numberText
  split
  · decide
  · refine quiet_iff.mpr fun u hu => ?_
    obtain ⟨d,hd,rfl⟩ := List.mem_map.mp hu
    exact hten d (Nat.digits_lt_base (by omega) (List.mem_reverse.mp hd))

theorem quiet_rotation (r : Rotation) : Quiet r.text := by
  cases r <;> decide

section Fields
variable {t t' : Text} {field : LabelLayoutField} {layout : LabelLayout}

def command (name : String) : UInt16 × Text := (unit '^',units name)

theorem names_step (name : String) {s r d : Text} (hs : s=unit '^'::(units name++r))
    (hname : (units name).length=2) (hquiet : Quiet (units name++r)) (hd : Quiet d) :
    names (Stream.read (s++d++t)).commands=command name::names (Stream.read t).commands := by
  obtain ⟨a,b,hab⟩ := List.length_eq_two.mp hname
  rw [hab] at hquiet hs
  have hall := quiet_iff.mp hquiet
  have ha : isSign a=false := hall a (by simp)
  have hb : isSign b=false := hall b (by simp)
  have hr : Quiet r := quiet_iff.mpr fun u hu => hall u (by simp [hu])
  have hsign : isSign (unit '^')=true := by decide
  have hcons : s++d++t=unit '^'::a::b::((r++d)++t) := by
    rw [hs]
    simp
  rw [hcons,names_command hsign ha hb,names_quiet (hr.append hd),command,hab]

/-- The commands of a field. -/
def fieldCommands : LabelFieldType → List (UInt16 × Text)
  | .text => [command "FO",command "A0",command "FD",command "FS"]
  | .qr => [command "FO",command "BQ",command "FD",command "FS"]
  | .code128 => [command "FO",command "BC",command "FD",command "FS"]
  | .gs1128 => [command "FO",command "BC",command "FD",command "FS"]
  | .datamatrix => [command "FO",command "BX",command "FD",command "FS"]
  | .box => [command "FO",command "GB",command "FS"]
  | .line => [command "FO",command "GB",command "FS"]

theorem names_origin : names (Stream.read (origin field layout++t)).commands=
    command "FO"::names (Stream.read t).commands := by
  have hquiet : Quiet (numberText (mmToDots field.x layout.dpi)++units ","++
      numberText (mmToDots field.y layout.dpi)) :=
    ((quiet_numberText _).append (by decide)).append (quiet_numberText _)
  have hstep := @names_step t "FO" (units "^FO") [] _ rfl rfl (by decide) hquiet
  unfold origin
  simpa only [List.append_assoc] using hstep

theorem names_separator : names (Stream.read (units "^FS"++t)).commands=
    command "FS"::names (Stream.read t).commands :=
  @names_step t "FS" (units "^FS") [] [] rfl rfl (by decide) (by decide)

theorem names_fieldData {data : Text} : names (Stream.read (fieldData data++t)).commands=
    command "FD"::command "FS"::names (Stream.read t).commands := by
  have hstep := @names_step (units "^FS"++t) "FD" (units "^FD") [] _ rfl rfl (by decide)
    (quiet_zplText data)
  rw [names_separator] at hstep
  unfold fieldData
  simpa only [List.append_assoc] using hstep

theorem qr_data (value : Text) : units "^FDLA,"++zplText value++units "^FS"=
    fieldData (units "LA,"++value) := rfl

theorem names_dataField (name : String) {s r d data : Text} (hs : s=unit '^'::(units name++r))
    (hname : (units name).length=2) (hquiet : Quiet (units name++r)) (hd : Quiet d) :
    names (Stream.read (origin field layout++(s++d++fieldData data)++t)).commands=
      [command "FO",command name,command "FD",command "FS"]++names (Stream.read t).commands := by
  have hstep := @names_step (fieldData data++t) name s r d hs hname hquiet hd
  rw [List.append_assoc,names_origin,List.append_assoc,hstep,names_fieldData]
  rfl

theorem names_shapeField {d : Text} (hd : Quiet d) :
    names (Stream.read (origin field layout++(units "^GB"++d++units "^FS")++t)).commands=
      [command "FO",command "GB",command "FS"]++names (Stream.read t).commands := by
  have hstep := @names_step (units "^FS"++t) "GB" (units "^GB") [] d rfl rfl (by decide) hd
  rw [List.append_assoc,names_origin,List.append_assoc,hstep,names_separator]
  rfl

theorem names_field (value : Text) :
    names (Stream.read (fieldText field layout value++t)).commands=
      fieldCommands field.type++names (Stream.read t).commands := by
  have hcomma : Quiet (units ",") := by decide
  have hrotation := quiet_rotation (field.rotation.getD .N)
  have hsize : Quiet (barcodeSize field) := quiet_numberText _
  have htext : ∀ n, Quiet ((field.rotation.getD .N).text++units ","++numberText n++units ","++
      numberText n) := fun n =>
    (((hrotation.append hcomma).append (quiet_numberText n)).append hcomma).append
      (quiet_numberText n)
  have hbarcode : ∀ n, Quiet ((field.rotation.getD .N).text++units ","++numberText n++
      units ",Y,N,N") := fun n =>
    ((hrotation.append hcomma).append (quiet_numberText n)).append (by decide)
  have hshape : ∀ w h l, Quiet (numberText w++units ","++numberText h++units ","++
      numberText l) := fun w h l =>
    ((((quiet_numberText w).append hcomma).append (quiet_numberText h)).append hcomma).append
      (quiet_numberText l)
  unfold fieldText
  cases field.type with
  | text => exact @names_dataField t field layout "A0" _ [] _ _ rfl rfl (by decide) (htext _)
  | qr =>
    rw [qr_data]
    exact @names_dataField t field layout "BQ" _ (units "N,2,") _ _ rfl rfl (by decide) hsize
  | code128 => exact @names_dataField t field layout "BC" _ [] _ _ rfl rfl (by decide) (hbarcode _)
  | gs1128 => exact @names_dataField t field layout "BC" _ [] _ _ rfl rfl (by decide) (hbarcode _)
  | datamatrix =>
    have hparameters := ((hrotation.append hcomma).append hsize).append
      (by decide : Quiet (units ",200"))
    exact @names_dataField t field layout "BX" _ [] _ _ rfl rfl (by decide) hparameters
  | box => exact names_shapeField (hshape _ _ _)
  | line => exact names_shapeField (hshape _ _ _)

theorem alike_fieldData (h : Alike t t') (data data' : Text) :
    Alike (fieldData data++t) (fieldData data'++t') := by
  have hsplit : ∀ data t, fieldData data++t=
      units "^FD"++(zplText data++unit '^'::(units "FS"++t)) := by
    intro data t
    unfold fieldData
    rw [List.append_assoc,List.append_assoc]
    rfl
  rw [hsplit,hsplit]
  exact (h.append (units "FS")).data (quiet_zplText data) (quiet_zplText data')

theorem alike_dataField (h : Alike t t') (x y data data' : Text) :
    Alike (x++(y++fieldData data)++t) (x++(y++fieldData data')++t') := by
  have hdata := ((alike_fieldData h data data').append y).append x
  rw [List.append_assoc,List.append_assoc,List.append_assoc,List.append_assoc]
  exact hdata

theorem alike_field (h : Alike t t') (value value' : Text) :
    Alike (fieldText field layout value++t) (fieldText field layout value'++t') := by
  unfold fieldText
  cases field.type with
  | qr =>
    rw [qr_data,qr_data]
    exact alike_dataField h _ _ _ _
  | box => exact h.append _
  | line => exact h.append _
  | _ => exact alike_dataField h _ _ _ _

theorem fieldText_ne_nil (value : Text) : fieldText field layout value≠[] := by
  have horigin : origin field layout≠[] := by
    unfold origin
    simp [units]
  unfold fieldText
  cases field.type <;> simp [horigin]

end Fields

section Documents
variable {script : Script} {layout : LabelLayout} {payload : Fields}
  {fields : List LabelLayoutField} {lines lines' : List Text}

/-- Each line is a field's, with some value. -/
def Rendered (layout : LabelLayout) (fields : List LabelLayoutField) (lines : List Text) : Prop :=
  List.Forall₂ (fun field line => ∃ value, line=fieldText field layout value) fields lines

theorem rendered_fields : ∀ {fields : List LabelLayoutField} {lines : List Text},
    (fields.mapM fun field => renderField script field layout payload)=some lines →
      Rendered layout fields lines := by
  intro fields
  induction fields with
  | nil =>
    intro lines h
    cases h
    exact List.Forall₂.nil
  | cons field fields ih =>
    intro lines h
    rw [List.mapM_cons] at h
    obtain ⟨line,hline,hrest⟩ := Option.bind_eq_some_iff.mp h
    obtain ⟨rest,hmap,hlines⟩ := Option.bind_eq_some_iff.mp hrest
    cases hlines
    obtain ⟨value,-,rfl⟩ := Option.map_eq_some_iff.mp hline
    exact List.Forall₂.cons ⟨value,rfl⟩ (ih hmap)

theorem join_body (s : Text) (rest : List Text) : Separators.join (unit '\n')
    (s::rest++[units "^XZ"])=s++unit '\n'::Separators.join (unit '\n')
      (rest++[units "^XZ"]) := by
  cases rest with
  | nil => exact Separators.join_cons []
  | cons r rest => exact Separators.join_cons (rest++[units "^XZ"])

theorem alike_body (h : Rendered layout fields lines) :
    ∀ {lines' : List Text}, Rendered layout fields lines' →
      Alike (Separators.join (unit '\n') (lines++[units "^XZ"]))
        (Separators.join (unit '\n') (lines'++[units "^XZ"])) := by
  induction h with
  | nil =>
    intro lines' h'
    cases h'
    exact Alike.refl _
  | cons hline hlines ih =>
    intro lines' h'
    cases h' with
    | cons hline' hlines' =>
      obtain ⟨value,rfl⟩ := hline
      obtain ⟨value',rfl⟩ := hline'
      have hrest := (ih hlines').cons (unit '\n')
      rw [join_body,join_body]
      exact alike_field hrest value value'

theorem names_body (h : Rendered layout fields lines) :
    names (Stream.read (Separators.join (unit '\n') (lines++[units "^XZ"]))).commands=
      (fields.flatMap fun field => fieldCommands field.type)++[command "XZ"] := by
  have hbreak : Quiet [unit '\n'] := by decide
  induction h with
  | nil => rfl
  | cons hline hlines ih =>
    obtain ⟨value,rfl⟩ := hline
    rw [join_body,names_field,← List.singleton_append,names_quiet hbreak,ih,List.flatMap_cons,
      List.append_assoc]

theorem rendered_ne_nil (h : Rendered layout fields lines) : ∀ line∈lines, line≠[] := by
  induction h with
  | nil => simp
  | cons hline hlines ih =>
    obtain ⟨value,rfl⟩ := hline
    exact List.forall_mem_cons.mpr ⟨fieldText_ne_nil value,ih⟩

theorem header_ne_nil : ∀ line∈header layout, line≠[] := by
  have hquiet : ∀ (s t : Text), s≠[] → s++t≠[] := fun s t hs h =>
    hs (List.append_eq_nil_iff.mp h).1
  unfold header
  simp only [List.forall_mem_cons]
  refine ⟨by decide,by decide,hquiet _ _ (by decide),hquiet _ _ (by decide),?_,by simp⟩
  split <;> decide

theorem document_eq (h : Rendered layout fields lines) :
    Separators.join (unit '\n') ((header layout++lines++[units "^XZ"]).filter (·≠[]))=
      (header layout).flatMap (·++[unit '\n'])++
        Separators.join (unit '\n') (lines++[units "^XZ"]) := by
  have hall : ∀ line∈header layout++lines++[units "^XZ"], line≠[] := by
    refine List.forall_mem_append.mpr ⟨List.forall_mem_append.mpr
      ⟨header_ne_nil,rendered_ne_nil h⟩,?_⟩
    rw [List.forall_mem_singleton]
    decide
  have hfilter : (header layout++lines++[units "^XZ"]).filter (·≠[])=
      header layout++(lines++[units "^XZ"]) := by
    rw [List.append_assoc] at hall ⊢
    exact List.filter_eq_self.mpr fun line hline => decide_eq_true (hall line hline)
  obtain ⟨first,rest,hfirst⟩ : ∃ first rest, lines++[units "^XZ"]=first::rest := by
    cases lines <;> exact ⟨_,_,rfl⟩
  have hbody := Separators.join_split (unit '\n') [] first rest
  rw [hfilter,hfirst,Separators.join_split]
  rw [List.nil_append,List.flatMap_nil,List.nil_append] at hbody
  rw [hbody]

/-- The commands of a document. -/
def documentCommands (fields : List LabelLayoutField) : List (UInt16 × Text) :=
  [command "XA",command "CI",command "PW",command "LL",command "PO"]++
    ((fields.flatMap fun field => fieldCommands field.type)++[command "XZ"])

theorem names_header (t : Text) :
    names (Stream.read ((header layout).flatMap (·++[unit '\n'])++t)).commands=
      [command "XA",command "CI",command "PW",command "LL",command "PO"]++
        names (Stream.read t).commands := by
  have hbreak : Quiet [unit '\n'] := by decide
  have hnumber : ∀ n, Quiet (numberText n++[unit '\n']) := fun n =>
    (quiet_numberText n).append hbreak
  have horientation : ∀ s, (s=units "^POI" ∨ s=units "^PON") → ∀ t,
      names (Stream.read (s++[unit '\n']++t)).commands=
        command "PO"::names (Stream.read t).commands := by
    intro s hs t
    cases hs with
    | inl hs =>
      rw [hs]
      exact @names_step t "PO" _ (units "I") _ rfl rfl (by decide) hbreak
    | inr hs =>
      rw [hs]
      exact @names_step t "PO" _ (units "N") _ rfl rfl (by decide) hbreak
  have hstart := fun t => @names_step t "XA" (units "^XA") [] _ rfl rfl (by decide) hbreak
  have hencoding := fun t => @names_step t "CI" (units "^CI28") (units "28") _ rfl rfl
    (by decide) hbreak
  have hwidth := fun n t => @names_step t "PW" (units "^PW") [] _ rfl rfl (by decide) (hnumber n)
  have hlength := fun n t => @names_step t "LL" (units "^LL") [] _ rfl rfl (by decide) (hnumber n)
  unfold header
  simp only [List.flatMap_cons,List.flatMap_nil,List.append_assoc,List.nil_append]
    at hstart hencoding hwidth hlength horientation ⊢
  rw [hstart,hencoding,hwidth,hlength]
  cases layout.orientation with
  | none => rw [horientation _ (Or.inr rfl)]; rfl
  | some o =>
    cases o with
    | N => rw [horientation _ (Or.inr rfl)]; rfl
    | I => rw [horientation _ (Or.inl rfl)]; rfl

theorem fieldCommands_within (type : LabelFieldType) : ∀ c∈fieldCommands type,
    c.1=unit '^' ∧ c≠command "XA" ∧ c≠command "XZ" := by
  cases type <;> decide

theorem renderZpl_lines {result : ZplRenderResult} (h : renderZpl script layout payload=some result) :
    ∃ lines, Rendered layout layout.fields lines ∧
      result.zpl=(header layout).flatMap (·++[unit '\n'])++
        Separators.join (unit '\n') (lines++[units "^XZ"]) := by
  obtain ⟨warnings,-,hrest⟩ := Option.bind_eq_some_iff.mp h
  obtain ⟨lines,hlines,hresult⟩ := Option.bind_eq_some_iff.mp hrest
  cases hresult
  have hrendered := rendered_fields hlines
  exact ⟨lines,hrendered,document_eq hrendered⟩

theorem renderZpl_names {result : ZplRenderResult}
    (h : renderZpl script layout payload=some result) :
    names (Stream.read result.zpl).commands=documentCommands layout.fields := by
  obtain ⟨lines,hrendered,hzpl⟩ := renderZpl_lines h
  rw [hzpl,names_header,names_body hrendered]
  rfl

theorem documentCommands_sign : ∀ c∈documentCommands fields, c.1=unit '^' := by
  intro c hc
  cases List.mem_append.mp hc with
  | inl hheader =>
    simp only [List.mem_cons,List.not_mem_nil,or_false] at hheader
    rcases hheader with rfl|rfl|rfl|rfl|rfl <;> rfl
  | inr hbody =>
    cases List.mem_append.mp hbody with
    | inl hfield =>
      obtain ⟨field,_,hfield⟩ := List.mem_flatMap.mp hfield
      exact (fieldCommands_within _ c hfield).1
    | inr hend =>
      rw [List.mem_singleton.mp hend]
      rfl

theorem count_document {c : UInt16 × Text} (hc : ∀ type, c∉fieldCommands type) :
    (documentCommands layout.fields).count c=
      ([command "XA",command "CI",command "PW",command "LL",command "PO"].count c)+
        [command "XZ"].count c := by
  have hfields : (layout.fields.flatMap fun field => fieldCommands field.type).count c=0 := by
    refine List.count_eq_zero.mpr fun hmem => ?_
    obtain ⟨field,_,hfield⟩ := List.mem_flatMap.mp hmem
    exact hc _ hfield
  unfold documentCommands
  rw [List.count_append,List.count_append,hfields,Nat.zero_add]

/-- Nothing stands before the first command, the format is started and ended once, and every sign is
a caret. -/
structure Stream.Format (s : Stream) : Prop where
  before : s.before=[]
  started : s.count "XA"=1
  ended : s.count "XZ"=1
  signs : ∀ c∈s.commands, c.1=unit '^'

theorem renderZpl_format {result : ZplRenderResult}
    (h : renderZpl script layout payload=some result) : (Stream.read result.zpl).Format := by
  have hnames := renderZpl_names h
  have hwithin := fieldCommands_within
  constructor
  · obtain ⟨lines,-,hzpl⟩ := renderZpl_lines h
    rw [hzpl]
    rfl
  · unfold Stream.count
    rw [hnames]
    exact count_document fun type hmem => (hwithin type _ hmem).2.1 rfl
  · unfold Stream.count
    rw [hnames]
    exact count_document fun type hmem => (hwithin type _ hmem).2.2 rfl
  · intro c hc
    have hname : (c.1,c.2.take 2)∈documentCommands layout.fields :=
      hnames ▸ List.mem_map_of_mem (f := fun c => (c.1,c.2.take 2)) hc
    have hsign := documentCommands_sign _ hname
    exact hsign

end Documents

/-- Whatever two payloads bring into a layout, the documents have the same commands with the same
parameters but for the data of fields, and each is one format. -/
theorem rendering_injection_free (script : Script) (layout : LabelLayout) (p q : Fields)
    (zp zq : ZplRenderResult) (hp : renderZpl script layout p=some zp)
    (hq : renderZpl script layout q=some zq) :
    (Stream.read zp.zpl).skeleton=(Stream.read zq.zpl).skeleton ∧
      (Stream.read zp.zpl).Format ∧ (Stream.read zq.zpl).Format := by
  obtain ⟨lines,hlines,hzp⟩ := renderZpl_lines hp
  obtain ⟨lines',hlines',hzq⟩ := renderZpl_lines hq
  refine ⟨?_,renderZpl_format hp,renderZpl_format hq⟩
  have halike := (alike_body hlines hlines').append ((header layout).flatMap (·++[unit '\n']))
  rw [hzp,hzq]
  exact halike

def demoScript : Script where
  textNumber := fun _ => none
  inherited := fun _ => none
  arrayMember := fun _ _ => .own .undefined
  inheritedMember := fun _ _ => .own .undefined
  inheritedJson := fun _ => []

/-- A text and a code, both bound to the payload. -/
def demoLayout : LabelLayout where
  widthMm := 100
  heightMm := 150
  dpi := 203
  orientation := some .N
  fields :=
    [⟨.text,6,7,some 88,some 10,none,some (units "title"),some 7,none,none,none⟩,
      ⟨.qr,6,23,some 34,some 34,none,some (units "parcel.code"),none,none,some 6,none⟩]

def demoPayload (title code : String) : Fields :=
  [(units "title",.text (units title)),
    (units "parcel",.object [(units "code",.text (units code))])]

def demoResult (payload : Fields) : ZplRenderResult :=
  (renderZpl demoScript demoLayout payload).getD ⟨[],[]⟩

theorem rendering_injection_demo :
    (Stream.read (demoResult (demoPayload "Inbound" "P-1")).zpl).skeleton=
        (Stream.read (demoResult (demoPayload "^XZ^XA~JA" "_5E^FS")).zpl).skeleton ∧
      (Stream.read (demoResult (demoPayload "Inbound" "P-1")).zpl).Format ∧
      (Stream.read (demoResult (demoPayload "^XZ^XA~JA" "_5E^FS")).zpl).Format :=
  rendering_injection_free demoScript demoLayout (demoPayload "Inbound" "P-1")
    (demoPayload "^XZ^XA~JA" "_5E^FS") _ _ (by decide +kernel) (by decide +kernel)

end AardvarkWms.LabelRendering
