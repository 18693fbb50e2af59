import AardvarkWms.InvoiceCsv
import AardvarkWms.PageContent
import AardvarkWms.Texts

/-! The exports of invoices and credit notes as documents to print:
`src/clients/billing-pdf.helpers.ts`. -/
namespace AardvarkWms.BillingPdf

open Messaging (Str isWhiteSpace)
open Billing (decimal isoDate padStart)
open InvoiceCsv (integerText)

/-- What the language does with texts and dates. -/
structure Runtime where
  nfkd : Str → Str
  nfkd_ascii : ∀ s, isAscii s=true → nfkd s=s
  newDate : Str → Option ℤ

/-- A date, which is `none` where it is invalid, or a text. -/
inductive DateInput
  | date (time : Option ℤ)
  | text (value : Str)

inductive DocumentType
  | INVOICE | CREDIT_NOTE
  deriving DecidableEq

def DocumentType.value : DocumentType → String
  | INVOICE => "INVOICE"
  | CREDIT_NOTE => "CREDIT_NOTE"

structure BillingPdfLineInput where
  lineNumber : ℤ
  eventType : Str
  description : Str
  quantity : ℤ
  netAmountMinor : ℤ
  taxAmountMinor : ℤ
  grossAmountMinor : ℤ
  currency : Str

structure BillingInvoicePdfInput where
  documentType : DocumentType
  documentNumber : Str
  sourceDocumentNumber : Option Str
  clientCode : Str
  warehouseCode : Str
  currency : Str
  subtotalMinor : ℤ
  taxTotalMinor : ℤ
  totalAmountMinor : ℤ
  periodStart : Option DateInput
  periodEnd : Option DateInput
  status : Str
  lines : List BillingPdfLineInput

section Rows
variable (env : Runtime)

/-- Code unit by code unit. -/
def toPdfSafeText (value : Str) : Str :=
  (codeUnits (env.nfkd value)).map fun u => if 32≤u && u≤126 then Char.ofNat u else '?'

/-- Nothing is missing and no text is empty. -/
def DateInput.truthy : Option DateInput → Bool
  | none => false
  | some (.date _) => true
  | some (.text value) => value≠[]

def toIsoDate : DateInput → Str
  | .date (some t) => isoDate t
  | .date none => "Invalid Date".toList
  | .text value =>
    match env.newDate value with
    | some t => isoDate t
    | none => value

def formatMinor (value : ℤ) (currency : Str) : Str :=
  (if value < 0 then ['-'] else [])++decimal (value.natAbs/100)++ '.'::
    padStart 2 (decimal (value.natAbs%100))++ ' '::currency

/-- The last place of a character at or before the given one. -/
def lastIndexOf (c : Char) (s : Str) (position : ℕ) : Option ℕ :=
  let part := s.take (position+1)
  (part.reverse.findIdx? (·=c)).map fun i => part.length-1-i

def width : ℕ := 92

def cutOf (cursor : Str) : ℕ :=
  match lastIndexOf ' ' cursor width with
  | some cut => if 0 < cut then cut else width
  | none => width

theorem cutOf_pos (cursor : Str) : 0 < cutOf cursor := by
  unfold cutOf
  split
  · split
    · assumption
    · decide
  · decide

def wrapRows (cursor : Str) : List Str :=
  if h : width < cursor.length then
    have : ((cursor.drop (cutOf cursor)).dropWhile isWhiteSpace).length < cursor.length := by
      have hcut := cutOf_pos cursor
      have hdropped := (List.dropWhile_sublist isWhiteSpace (l := cursor.drop (cutOf cursor))).length_le
      rw [List.length_drop] at hdropped
      omega
    cursor.take (cutOf cursor)::wrapRows ((cursor.drop (cutOf cursor)).dropWhile isWhiteSpace)
  else if cursor=[] then [] else [cursor]
termination_by cursor.length

def wrapPdfLine (value : Str) : List Str :=
  let text := toPdfSafeText env value
  if text.length≤width then [text] else wrapRows text

/-- The first one only. -/
def replaceFirst (c d : Char) : Str → Str
  | [] => []
  | a::s => if a=c then d::s else a::replaceFirst c d s

/-- What stands above the lines. -/
def headTexts (input : BillingInvoicePdfInput) : List Str :=
  [replaceFirst '_' ' ' input.documentType.value.toList++ ' '::input.documentNumber,
    "Status: ".toList++input.status,
    "Client: ".toList++input.clientCode,
    "Warehouse: ".toList++input.warehouseCode,
    "Currency: ".toList++input.currency]++
  (match input.sourceDocumentNumber with
    | some number => if number=[] then [] else ["Source invoice: ".toList++number]
    | none => [])++
  (match input.periodStart, input.periodEnd with
    | some first, some last =>
      if DateInput.truthy (some first) && DateInput.truthy (some last) then
        ["Period: ".toList++toIsoDate env first++" - ".toList++toIsoDate env last]
      else []
    | _, _ => [])++
  ["Subtotal: ".toList++formatMinor input.subtotalMinor input.currency,
    "Tax: ".toList++formatMinor input.taxTotalMinor input.currency,
    "Total: ".toList++formatMinor input.totalAmountMinor input.currency,
    [],
    "Lines:".toList]

/-- The two texts of a line. -/
def lineTexts (line : BillingPdfLineInput) : List Str :=
  [integerText line.lineNumber++". ".toList++line.eventType++" qty=".toList++
      integerText line.quantity++" net=".toList++formatMinor line.netAmountMinor line.currency++
      " tax=".toList++formatMinor line.taxAmountMinor line.currency++
      " gross=".toList++formatMinor line.grossAmountMinor line.currency,
    "   ".toList++line.description]

def omissionText (count : ℕ) : Str :=
  "... ".toList++decimal count++" more lines omitted in compact PDF export".toList

def maxLines : ℕ := 32

def buildBillingPdfLines (input : BillingInvoicePdfInput) : List Str :=
  (headTexts env input++(input.lines.take maxLines).flatMap lineTexts++
    (if maxLines < input.lines.length then [omissionText (input.lines.length-maxLines)] else [])).flatMap
    (wrapPdfLine env)

end Rows

section Documents
variable (env : Runtime)

def replaceAll (c : Char) (text : Str) (s : Str) : Str :=
  s.flatMap fun a => if a=c then text else [a]

def pdfEscape (value : Str) : Str :=
  replaceAll ')' "\\)".toList (replaceAll '(' "\\(".toList (replaceAll '\\' "\\\\".toList value))

/-- The lines of the page's content; 70 rows fit, the first of which is the title. -/
def contentLines (lines : List Str) : List Str :=
  ["BT".toList,"/F1 16 Tf".toList,"50 800 Td".toList,
    '('::pdfEscape ((lines.head?).getD "WMS document".toList)++") Tj".toList,
    "/F1 9 Tf".toList,"0 -22 Td".toList]++
  (((lines.take 70).drop 1).flatMap fun line =>
    ['('::pdfEscape (toPdfSafeText env line)++") Tj".toList,"0 -12 Td".toList])++
  ["ET".toList]

def buildPageContent (lines : List Str) : Str := ['\n'].intercalate (contentLines env lines)

/-- `Buffer.from(s, 'latin1')` -/
def latin1 (s : Str) : List UInt8 := (codeUnits s).map UInt8.ofNat

def byteLength (s : Str) : ℕ := (latin1 s).length

def streamObject (content : Str) : Str :=
  "<< /Length ".toList++decimal (byteLength content)++" >>\nstream\n".toList++content++
    "\nendstream".toList

def pdfObjects (content : Str) : List Str :=
  ["<< /Type /Catalog /Pages 2 0 R >>".toList,
    "<< /Type /Pages /Kids [3 0 R] /Count 1 >>".toList,
    "<< /Type /Page /Parent 2 0 R /MediaBox [0 0 595 842] /Resources << /Font << /F1 4 0 R >> >> /Contents 5 0 R >>".toList,
    "<< /Type /Font /Subtype /Type1 /BaseFont /Helvetica >>".toList,
    streamObject content]

/-- An object with its number. -/
def objectText (number : ℕ) (object : Str) : Str :=
  decimal number++" 0 obj\n".toList++object++"\nendobj\n".toList

/-- One pass of the loop over the objects: the chunks so far, together, and the offsets. -/
def addObject (written : Str × List ℕ) (entry : Str × ℕ) : Str × List ℕ :=
  (written.1++objectText (entry.2+1) entry.1,written.2++[byteLength written.1])

def writeObjects (objects : List Str) : Str × List ℕ :=
  objects.zipIdx.foldl addObject ("%PDF-1.4\n".toList,[0])

def tableHead (objects : List Str) : Str := "xref\n0 ".toList++decimal (objects.length+1)++"\n".toList

def tableEntry (offset : ℕ) : Str := padStart 10 (decimal offset)++" 00000 n \n".toList

def trailer (objects : List Str) : Str :=
  "trailer\n<< /Size ".toList++decimal (objects.length+1)++" /Root 1 0 R >>\n".toList

def tableAddress (xrefOffset : ℕ) : Str :=
  "startxref\n".toList++decimal xrefOffset++"\n%%EOF\n".toList

def pdfText (objects : List Str) : Str :=
  let written := writeObjects objects
  written.1++(tableHead objects++("0000000000 65535 f \n".toList++
    (written.2.tail.flatMap tableEntry++(trailer objects++tableAddress (byteLength written.1)))))

def buildPdfBuffer (lines : List Str) : List UInt8 :=
  latin1 (pdfText (pdfObjects (buildPageContent env lines)))

/-- The bytes that are handed out in base 64. -/
def buildBillingPdf (input : BillingInvoicePdfInput) : List UInt8 :=
  buildPdfBuffer env (buildBillingPdfLines env input)

end Documents

section Accounts
variable (env : Runtime)

/-- The text stands at this position. -/
def At (doc : List UInt8) (position : ℕ) (s : Str) : Prop := latin1 s <+: doc.drop position

/-- The end of the file says where its table is. The table's lines are of 20 bytes each, the first one
for no object, and each says where the object with its number is. -/
def Addressed (doc : List UInt8) (objects : List Str) : Prop :=
  ∃ start, latin1 (tableAddress start) <:+ doc ∧ At doc start (tableHead objects) ∧
    ∀ n object, objects[n]?=some object → ∃ position, byteLength (tableEntry position)=20 ∧
      At doc (start+byteLength (tableHead objects)+20*(n+1)) (tableEntry position) ∧
      At doc position (objectText (n+1) object)

/-- What of a text is not white space. -/
def solid (s : Str) : Str := s.filter (!isWhiteSpace ·)

/-- The rows of some texts are shown after those before them, and they leave nothing of the texts out
but white space. -/
def Printed (shown before texts : List Str) : Prop :=
  before++texts.flatMap (wrapPdfLine env) <+: shown ∧
    ∀ text∈texts, solid (wrapPdfLine env text).flatten=solid (toPdfSafeText env text)

/-- The rows up to a line. -/
def rowsBefore (input : BillingInvoicePdfInput) (lines : List BillingPdfLineInput) : List Str :=
  (headTexts env input++lines.flatMap lineTexts).flatMap (wrapPdfLine env)

/-- Each line is printed, or it is one of those that a printed message counts. -/
def Accounted (shown : List Str) (input : BillingInvoicePdfInput) : Prop :=
  ∀ before line after, input.lines=before++line::after →
    Printed env shown (rowsBefore env input before) (lineTexts line) ∨
    (maxLines ≤ before.length ∧ Printed env shown (rowsBefore env input (input.lines.take maxLines))
      [omissionText (input.lines.drop maxLines).length])

/-- The document has the page's content, with its length, where its table says, and the content
accounts for each line; on the page, where that is asked, or below its lower edge, too. -/
def AccountsFor (onPage : Bool) (input : BillingInvoicePdfInput) : Prop :=
  let content := buildPageContent env (buildBillingPdfLines env input)
  (∃ objects, Addressed (buildBillingPdf env input) objects ∧
    objects[4]?=some (streamObject content)) ∧
  Accounted env (PageContent.shownTexts onPage content) input

/-- The rows that fit. -/
def rowLimit (onPage : Bool) : ℕ := if onPage then 66 else 70

/-- There are no lines, or no more than a document takes, and all the texts together need no more rows
than fit. -/
def Fits (onPage : Bool) (input : BillingInvoicePdfInput) : Prop :=
  input.lines=[] ∨ (input.lines.length≤ maxLines ∧
    ((headTexts env input++input.lines.flatMap lineTexts).map fun text =>
      (wrapPdfLine env text).length).sum≤rowLimit onPage)

end Accounts

section Addresses
variable {s t : Str} {objects : List Str} {object : Str} {n : ℕ}

theorem latin1_append (s t : Str) : latin1 (s++t)=latin1 s++latin1 t := by
  unfold latin1 codeUnits
  rw [List.flatMap_append,List.map_append]

theorem byteLength_append (s t : Str) : byteLength (s++t)=byteLength s+byteLength t := by
  unfold byteLength
  rw [latin1_append,List.length_append]

theorem at_append (s t rest : Str) : At (latin1 (s++(t++rest))) (byteLength s) t := by
  have hdrop : (latin1 s++latin1 (t++rest)).drop (byteLength s)=latin1 (t++rest) := List.drop_left' rfl
  unfold At
  rw [latin1_append s,hdrop,latin1_append]
  exact List.prefix_append _ _

theorem foldl_addObject (entries : List (Str × ℕ)) : ∀ written, ∃ more offsets,
    entries.foldl addObject written=(written.1++more,written.2++offsets) ∧
      offsets.length=entries.length := by
  induction entries with
  | nil =>
    intro written
    exact ⟨[],[],by simp,rfl⟩
  | cons entry entries ih =>
    intro written
    obtain ⟨more,offsets,hlater,hlength⟩ := ih (addObject written entry)
    refine ⟨objectText (entry.2+1) entry.1++more,byteLength written.1::offsets,?_,by simp [hlength]⟩
    rw [List.foldl_cons,hlater,addObject,List.append_assoc,List.append_assoc]
    rfl

theorem writeObjects_at (h : objects[n]?=some object) : ∃ before more front back,
    writeObjects objects=(before++(objectText (n+1) object++more),front++byteLength before::back) ∧
      front.length=n+1 := by
  have hn : n < objects.length := (List.getElem?_eq_some_iff.mp h).1
  have hget : objects[n]=object := (List.getElem?_eq_some_iff.mp h).2
  have hsplit : objects=objects.take n++object::objects.drop (n+1) := by
    rw [← hget,List.cons_getElem_drop_succ,List.take_append_drop]
  have hindex : objects.zipIdx=(objects.take n).zipIdx++(object,n)::(objects.drop (n+1)).zipIdx (n+1) := by
    conv_lhs => rw [hsplit]
    rw [List.zipIdx_append,List.zipIdx_cons,List.length_take,min_eq_left hn.le,Nat.zero_add]
  obtain ⟨start,front,hfront,hlength⟩ :=
    foldl_addObject (objects.take n).zipIdx ("%PDF-1.4\n".toList,[0])
  obtain ⟨more,back,hback,_⟩ := foldl_addObject ((objects.drop (n+1)).zipIdx (n+1))
    (addObject ("%PDF-1.4\n".toList++start,[0]++front) (object,n))
  refine ⟨"%PDF-1.4\n".toList++start,more,[0]++front,back,?_,?_⟩
  · unfold writeObjects
    rw [hindex,List.foldl_append,List.foldl_cons,hfront,hback,addObject]
    simp only [List.append_assoc,List.cons_append,List.nil_append]
  · rw [List.length_append,hlength,List.length_zipIdx,List.length_take,min_eq_left hn.le]
    exact Nat.add_comm 1 n

theorem entries_length {offsets : List ℕ} (h : ∀ offset∈offsets, byteLength (tableEntry offset)=20) :
    byteLength (offsets.flatMap tableEntry)=20*offsets.length := by
  induction offsets with
  | nil => rfl
  | cons offset offsets ih =>
    rw [List.flatMap_cons,byteLength_append,h offset List.mem_cons_self,
      ih fun o ho => h o (List.mem_cons_of_mem _ ho),List.length_cons]
    omega

theorem addressed_pdfText
    (h : ∀ offset∈(writeObjects objects).2.tail, byteLength (tableEntry offset)=20) :
    Addressed (latin1 (pdfText objects)) objects := by
  refine ⟨byteLength (writeObjects objects).1,?_,?_,?_⟩
  · have hend : ∀ s t u v w : Str, latin1 w <:+ latin1 (s++(t++(u++(v++w)))) := by
      intro s t u v w
      simp only [latin1_append]
      exact (((List.suffix_append _ _).trans (List.suffix_append _ _)).trans
        (List.suffix_append _ _)).trans (List.suffix_append _ _)
    unfold pdfText
    simp only [← List.append_assoc (List.flatMap _ _)]
    exact hend _ _ _ _ _
  · exact at_append _ _ _
  · intro n object hobject
    obtain ⟨before,more,front,back,hwritten,hlength⟩ := writeObjects_at hobject
    have htail : (writeObjects objects).2.tail=front.tail++byteLength before::back := by
      rw [hwritten]
      cases front with
      | nil => exact absurd hlength (Nat.succ_ne_zero n).symm
      | cons o front => rfl
    have hentry : byteLength (tableEntry (byteLength before))=20 :=
      h _ (htail ▸ List.mem_append_right _ List.mem_cons_self)
    have hfront : byteLength (front.tail.flatMap tableEntry)=20*n := by
      have hearlier := entries_length fun o ho => h o (htail ▸ List.mem_append_left _ ho)
      rw [hearlier,List.length_tail,hlength,Nat.add_sub_cancel]
    refine ⟨byteLength before,hentry,?_,?_⟩
    · have hplace := at_append ((writeObjects objects).1++(tableHead objects++
        ("0000000000 65535 f \n".toList++front.tail.flatMap tableEntry)))
        (tableEntry (byteLength before)) (back.flatMap tableEntry++(trailer objects++
          tableAddress (byteLength (writeObjects objects).1)))
      have hfree : byteLength "0000000000 65535 f \n".toList=20 := by decide +kernel
      have hposition : byteLength ((writeObjects objects).1++(tableHead objects++
          ("0000000000 65535 f \n".toList++front.tail.flatMap tableEntry)))=
          byteLength (writeObjects objects).1+byteLength (tableHead objects)+20*(n+1) := by
        rw [byteLength_append,byteLength_append,byteLength_append,hfree,hfront]
        omega
      rw [hposition] at hplace
      have htext : pdfText objects=(writeObjects objects).1++(tableHead objects++
          ("0000000000 65535 f \n".toList++front.tail.flatMap tableEntry))++
          (tableEntry (byteLength before)++(back.flatMap tableEntry++(trailer objects++
            tableAddress (byteLength (writeObjects objects).1)))) := by
        unfold pdfText
        simp only [htail,List.flatMap_append,List.flatMap_cons,List.append_assoc]
      rw [htext]
      exact hplace
    · have hplace := at_append before (objectText (n+1) object) (more++(tableHead objects++
        ("0000000000 65535 f \n".toList++((writeObjects objects).2.tail.flatMap tableEntry++
          (trailer objects++tableAddress (byteLength (writeObjects objects).1))))))
      have htext : pdfText objects=before++(objectText (n+1) object++(more++(tableHead objects++
          ("0000000000 65535 f \n".toList++((writeObjects objects).2.tail.flatMap tableEntry++
            (trailer objects++tableAddress (byteLength (writeObjects objects).1))))))) := by
        unfold pdfText
        simp only [hwritten,List.append_assoc]
      rw [htext]
      exact hplace

theorem byteLength_le (s : Str) : byteLength s≤2*s.length := by
  unfold byteLength latin1
  rw [List.length_map]
  induction s with
  | nil => exact le_rfl
  | cons c s ih =>
    have hunits : (codeUnits (c::s)).length≤2+(codeUnits s).length := by
      unfold codeUnits
      rw [List.flatMap_cons,List.length_append]
      apply Nat.add_le_add_right
      split <;> simp
    rw [List.length_cons]
    omega

theorem byteLength_tableEntry {offset : ℕ} (h : offset < 10^10) :
    byteLength (tableEntry offset)=20 := by
  have hascii : ∀ c∈tableEntry offset, c.toNat < 128 := by
    intro c hc
    cases List.mem_append.mp hc with
    | inl hdigits =>
      obtain ⟨d,hd,hdigit⟩ := Billing.padStart_chars hdigits
      have hten : ∀ d < 10, (Nat.digitChar d).toNat < 128 := by decide
      rw [hdigit]
      exact hten d hd
    | inr hrest =>
      have hall : " 00000 n \n".toList.all (fun c => c.toNat < 128)=true := by decide
      exact of_decide_eq_true (List.all_eq_true.mp hall c hrest)
  unfold byteLength latin1
  rw [List.length_map,codeUnits_ascii hascii,List.length_map,tableEntry,List.length_append,
    Billing.length_padStart (by decide) h]
  rfl

theorem offsets_le {entries : List (Str × ℕ)} {written : Str} {offsets : List ℕ}
    (h : ∀ offset∈offsets, offset≤byteLength written) :
    ∀ offset∈(entries.foldl addObject (written,offsets)).2,
      offset≤byteLength (entries.foldl addObject (written,offsets)).1 := by
  induction entries generalizing written offsets with
  | nil => exact h
  | cons entry entries ih =>
    apply ih
    intro offset hoffset
    rw [byteLength_append]
    apply Nat.le_add_right_of_le
    cases List.mem_append.mp hoffset with
    | inl hbefore => exact h offset hbefore
    | inr hlast => exact (List.mem_singleton.mp hlast).le

theorem length_addObjects {entries : List (Str × ℕ)} {n : ℕ}
    (h : ∀ entry∈entries, (objectText (entry.2+1) entry.1).length≤n) (written : Str × List ℕ) :
    (entries.foldl addObject written).1.length≤written.1.length+entries.length*n := by
  induction entries generalizing written with
  | nil => simp
  | cons entry entries ih =>
    have hfirst := h entry List.mem_cons_self
    have hrest := ih (fun e he => h e (List.mem_cons_of_mem _ he)) (addObject written entry)
    have hadded : (addObject written entry).1.length=
        written.1.length+(objectText (entry.2+1) entry.1).length := List.length_append
    have hmul : (entries.length+1)*n=entries.length*n+n := Nat.succ_mul _ _
    rw [List.foldl_cons,List.length_cons,hmul]
    omega

theorem addressed_billing (content : Str) :
    Addressed (latin1 (pdfText (pdfObjects content))) (pdfObjects content) := by
  apply addressed_pdfText
  intro offset hoffset
  have hsplit : writeObjects (pdfObjects content)=
      addObject (((pdfObjects []).take 4).zipIdx.foldl addObject ("%PDF-1.4\n".toList,[0]))
        (streamObject content,4) := rfl
  have hmem := List.mem_of_mem_tail hoffset
  rw [hsplit] at hmem
  have hle : offset≤byteLength
      (((pdfObjects []).take 4).zipIdx.foldl addObject ("%PDF-1.4\n".toList,[0])).1 := by
    cases List.mem_append.mp hmem with
    | inl hfront => exact offsets_le (by simp) offset hfront
    | inr hlast => exact (List.mem_singleton.mp hlast).le
  have hbytes := byteLength_le
    (((pdfObjects []).take 4).zipIdx.foldl addObject ("%PDF-1.4\n".toList,[0])).1
  have hshort : ∀ entry∈((pdfObjects []).take 4).zipIdx,
      (objectText (entry.2+1) entry.1).length≤200 := by
    intro entry hentry
    simp only [pdfObjects,List.take,List.zipIdx,List.mem_cons,List.not_mem_nil,or_false] at hentry
    rcases hentry with rfl|rfl|rfl|rfl <;>
    · simp only [objectText]
      repeat rewrite [String.toList_ofList]
      decide
  have hlength := length_addObjects hshort ("%PDF-1.4\n".toList,[0])
  have hhead : "%PDF-1.4\n".toList.length≤9 := by
    rw [String.toList_ofList]
    decide
  have hfour : ((pdfObjects []).take 4).zipIdx.length=4 := rfl
  rw [hfour] at hlength
  have hroom := hbytes.trans (Nat.mul_le_mul_left 2 (hlength.trans (Nat.add_le_add_right hhead _)))
  exact byteLength_tableEntry ((hle.trans hroom).trans_lt (by decide))

end Addresses

section Wrapping
variable {env : Runtime} {s t : Str} {c : Char}

theorem solid_append (s t : Str) : solid (s++t)=solid s++solid t := List.filter_append s t

theorem solid_dropWhile (s : Str) : solid (s.dropWhile isWhiteSpace)=solid s := by
  induction s with
  | nil => rfl
  | cons c s ih =>
    cases hc : isWhiteSpace c with
    | true =>
      rw [List.dropWhile_cons_of_pos hc,ih]
      exact (List.filter_cons_of_neg (by simp [hc])).symm
    | false => rw [List.dropWhile_cons_of_neg (by simp [hc])]

theorem wrapRows_solid (cursor : Str) : solid (wrapRows cursor).flatten=solid cursor := by
  induction cursor using wrapRows.induct with
  | case1 cursor hlong _ ih =>
    rw [wrapRows,dif_pos hlong,List.flatten_cons,solid_append,ih,solid_dropWhile,← solid_append,
      List.take_append_drop]
  | case2 hshort =>
    rw [wrapRows,dif_neg hshort,if_pos rfl]
    rfl
  | case3 cursor hshort hsome =>
    rw [wrapRows,dif_neg hshort,if_neg hsome,List.flatten_singleton]

theorem mem_wrapRows {row : Str} (hrow : row∈wrapRows s) (hc : c∈row) : c∈s := by
  induction s using wrapRows.induct with
  | case1 cursor hlong _ ih =>
    rw [wrapRows,dif_pos hlong] at hrow
    cases List.mem_cons.mp hrow with
    | inl hfirst => exact List.mem_of_mem_take (hfirst ▸ hc)
    | inr hlater => exact List.mem_of_mem_drop ((List.dropWhile_sublist _).subset (ih hlater))
  | case2 hshort =>
    rw [wrapRows,dif_neg hshort,if_pos rfl] at hrow
    cases hrow
  | case3 cursor hshort hsome =>
    rw [wrapRows,dif_neg hshort,if_neg hsome] at hrow
    exact List.mem_singleton.mp hrow ▸ hc

/-- The characters of a document's texts. -/
def IsSafe (s : Str) : Prop := ∀ c∈s, 32≤c.toNat ∧ c.toNat≤126

theorem toPdfSafeText_safe (value : Str) : IsSafe (toPdfSafeText env value) := by
  intro c hc
  obtain ⟨u,_,hu⟩ := List.mem_map.mp hc
  split at hu
  · rename_i hrange
    simp only [Bool.and_eq_true,decide_eq_true_eq] at hrange
    have hsame : ∀ u < 127, (Char.ofNat u).toNat=u := by decide
    rw [← hu,hsame u (by omega)]
    exact hrange
  · rw [← hu]
    decide

theorem toPdfSafeText_of_safe (h : IsSafe s) : toPdfSafeText env s=s := by
  have hascii : ∀ c∈s, c.toNat < 128 := fun c hc => by
    have hsafe := h c hc
    omega
  have hnfkd : env.nfkd s=s := env.nfkd_ascii s (List.all_eq_true.mpr fun c hc => by
    simpa using hascii c hc)
  unfold toPdfSafeText
  rw [hnfkd,codeUnits_ascii hascii,List.map_map]
  conv_rhs => rw [← List.map_id s]
  refine List.map_congr_left fun c hc => ?_
  have hsafe := h c hc
  simp [hsafe,Char.ofNat_toNat]

theorem wrapPdfLine_pos (value : Str) : 1≤(wrapPdfLine env value).length := by
  unfold wrapPdfLine
  simp only
  split
  · exact le_refl 1
  · rename_i hlong
    rw [wrapRows,dif_pos (not_le.mp hlong),List.length_cons]
    omega

theorem wrapPdfLine_safe {value row : Str} (h : row∈wrapPdfLine env value) : IsSafe row := by
  unfold wrapPdfLine at h
  simp only at h
  split at h
  · exact List.mem_singleton.mp h ▸ toPdfSafeText_safe value
  · exact fun c hc => toPdfSafeText_safe value c (mem_wrapRows h hc)

theorem wrapPdfLine_solid (value : Str) :
    solid (wrapPdfLine env value).flatten=solid (toPdfSafeText env value) := by
  unfold wrapPdfLine
  simp only
  split
  · rw [List.flatten_singleton]
  · exact wrapRows_solid _

theorem rows_length (texts : List Str) :
    texts.length≤(texts.flatMap (wrapPdfLine env)).length := by
  induction texts with
  | nil => exact Nat.zero_le _
  | cons text texts ih =>
    have hfirst := @wrapPdfLine_pos env text
    rw [List.flatMap_cons,List.length_append,List.length_cons]
    omega

end Wrapping

section Contents
variable {env : Runtime} {rows : List Str}

theorem pdfEscape_eq (s : Str) : pdfEscape s=PageContent.literal s := by
  have happend : ∀ c text s t, replaceAll c text (s++t)=replaceAll c text s++replaceAll c text t :=
    fun _ _ _ _ => List.flatMap_append
  induction s with
  | nil => rfl
  | cons c s ih =>
    have hliteral : PageContent.literal ([c]++s)=PageContent.literal [c]++PageContent.literal s :=
      List.flatMap_append
    have hone : pdfEscape [c]=PageContent.literal [c] := by
      by_cases hslash : c= '\\'
      · subst hslash
        decide
      · by_cases hopen : c= '('
        · subst hopen
          decide
        · by_cases hclose : c= ')'
          · subst hclose
            decide
          · simp [pdfEscape,replaceAll,PageContent.literal,PageContent.isDelimiter,hslash,hopen,hclose]
    have hboth : pdfEscape ([c]++s)=pdfEscape [c]++pdfEscape s := by
      unfold pdfEscape
      rw [happend,happend,happend]
    calc pdfEscape (c::s)=pdfEscape [c]++pdfEscape s := hboth
      _=PageContent.literal [c]++PageContent.literal s := by rw [hone,ih]
      _=PageContent.literal (c::s) := hliteral.symm

theorem showLine_eq (s : Str) :
    '('::pdfEscape s++") Tj".toList=PageContent.showLine s := by
  rw [pdfEscape_eq]
  rfl

theorem showLine_line {s : Str} (h : IsSafe s) : '\n'∉PageContent.showLine s := by
  intro hmem
  rw [PageContent.showLine,List.mem_append,List.mem_cons] at hmem
  cases hmem with
  | inr hend => exact absurd hend (by decide)
  | inl hstart =>
    have hin := PageContent.mem_literal (hstart.resolve_left (by decide))
    have hline := h '\n' (hin.resolve_right (by decide))
    exact absurd hline.1 (by decide)

theorem shownTexts_content (hsafe : ∀ row∈rows, IsSafe row) (hsome : rows≠[]) (onPage : Bool) :
    PageContent.shownTexts onPage (buildPageContent env rows)=rows.take (rowLimit onPage) := by
  obtain ⟨title,rest,hrows⟩ := List.exists_cons_of_ne_nil hsome
  have hlines : contentLines env rows="BT".toList::"/F1 16 Tf".toList::"50 800 Td".toList::
      PageContent.showLine title::"/F1 9 Tf".toList::"0 -22 Td".toList::
      (((rest.take 69).flatMap fun row => [PageContent.showLine row,"0 -12 Td".toList])++
        ["ET".toList]) := by
    have hsame : ((rest.take 69).flatMap fun row =>
        ['('::pdfEscape (toPdfSafeText env row)++") Tj".toList,"0 -12 Td".toList])=
        (rest.take 69).flatMap fun row => [PageContent.showLine row,"0 -12 Td".toList] := by
      refine List.flatMap_congr fun row hrow => ?_
      rw [showLine_eq,toPdfSafeText_of_safe (hsafe row (hrows ▸ List.mem_cons_of_mem _
        (List.mem_of_mem_take hrow)))]
    rw [contentLines,hrows,List.take_succ_cons,List.drop_succ_cons,List.drop_zero,hsame,List.head?_cons,
      Option.getD_some,showLine_eq]
    rfl
  have hplaced : PageContent.placed 0 (contentLines env rows)=
      (800,title)::PageContent.column (-12) 778 (rest.take 69) := by
    have hstep : PageContent.readOperator "0 -12 Td".toList=.moves 0 (-12) := by decide +kernel
    have hstart : PageContent.readOperator "50 800 Td".toList=.moves 50 800 := by decide +kernel
    have hdown : PageContent.readOperator "0 -22 Td".toList=.moves 0 (-22) := by decide +kernel
    have hother : PageContent.readOperator "BT".toList=.other ∧
        PageContent.readOperator "/F1 16 Tf".toList=.other ∧
        PageContent.readOperator "/F1 9 Tf".toList=.other := by decide +kernel
    rw [hlines,PageContent.placed_other hother.1,PageContent.placed_other hother.2.1,
      PageContent.placed_moves hstart,PageContent.placed_shows,PageContent.placed_other hother.2.2,
      PageContent.placed_moves hdown,PageContent.placed_column hstep]
    rfl
  have hnoline : ∀ line∈contentLines env rows, '\n'∉line := by
    have hfixed : ∀ line∈["BT".toList,"/F1 16 Tf".toList,"50 800 Td".toList,"/F1 9 Tf".toList,
        "0 -22 Td".toList,"0 -12 Td".toList,"ET".toList], '\n'∉line := by decide
    intro line hline
    rw [hlines] at hline
    simp only [List.mem_cons,List.mem_append,List.not_mem_nil,or_false,List.mem_flatMap] at hline
    rcases hline with h|h|h|h|h|h|⟨row,hrow,h|h⟩|h
    · exact hfixed line (by simp [h])
    · exact hfixed line (by simp [h])
    · exact hfixed line (by simp [h])
    · exact h ▸ showLine_line (hsafe title (hrows ▸ List.mem_cons_self))
    · exact hfixed line (by simp [h])
    · exact hfixed line (by simp [h])
    · exact h ▸ showLine_line (hsafe row (hrows ▸ List.mem_cons_of_mem _ (List.mem_of_mem_take hrow)))
    · exact hfixed line (by simp [h])
    · exact hfixed line (by simp [h])
  have hsplit : (buildPageContent env rows).splitOn '\n'=contentLines env rows := by
    refine List.splitOn_intercalate '\n' hnoline ?_
    rw [hlines]
    exact List.cons_ne_nil _ _
  unfold PageContent.shownTexts
  rw [hsplit,hplaced,hrows]
  cases onPage with
  | false =>
    have hall : ((800,title)::PageContent.column (-12) 778 (rest.take 69)).filter
        (fun e => !false || 0≤e.1)=(800,title)::PageContent.column (-12) 778 (rest.take 69) :=
      List.filter_eq_self.mpr fun _ _ => rfl
    rw [hall,List.map_cons,PageContent.column_texts]
    rfl
  | true =>
    have hcolumn := @PageContent.column_onPage 12 (rest.take 69) 778 65 (by decide)
      (Or.inr (by decide))
    rw [List.take_take] at hcolumn
    have hfilter : ((800,title)::PageContent.column (-12) 778 (rest.take 69)).filter
        (fun e => !true || 0≤e.1)=(800,title)::(PageContent.column (-12) 778 (rest.take 69)).filter
          fun e => 0≤e.1 := rfl
    rw [hfilter,List.map_cons]
    exact congrArg (title::·) hcolumn

end Contents

section Lines
variable {env : Runtime} {input : BillingInvoicePdfInput} {lines : List BillingPdfLineInput}
  {line : BillingPdfLineInput} {onPage : Bool}

theorem rowsBefore_append (lines lines' : List BillingPdfLineInput) :
    rowsBefore env input (lines++lines')=
      rowsBefore env input lines++(lines'.flatMap lineTexts).flatMap (wrapPdfLine env) := by
  have hboth : (lines++lines').flatMap lineTexts=lines.flatMap lineTexts++lines'.flatMap lineTexts :=
    List.flatMap_append
  unfold rowsBefore
  rw [hboth,← List.append_assoc,List.flatMap_append]

theorem rowsBefore_length (lines : List BillingPdfLineInput) :
    10+2*lines.length≤(rowsBefore env input lines).length := by
  have hrows := @rows_length env (headTexts env input++lines.flatMap lineTexts)
  have hhead : 10≤(headTexts env input).length := by
    unfold headTexts
    simp only [List.length_append,List.length_cons,List.length_nil]
    omega
  have htwo : (lines.flatMap lineTexts).length=2*lines.length := by
    induction lines with
    | nil => rfl
    | cons line lines ih =>
      rw [List.flatMap_cons,List.length_append,ih (@rows_length env _),List.length_cons]
      change 2+2*lines.length=2*(lines.length+1)
      omega
  rw [List.length_append,htwo] at hrows
  unfold rowsBefore
  omega

theorem rows_eq (h : input.lines.length≤ maxLines) :
    buildBillingPdfLines env input=rowsBefore env input input.lines := by
  unfold buildBillingPdfLines rowsBefore
  rw [if_neg (not_lt.mpr h),List.append_nil,List.take_of_length_le h]

theorem fits_iff : Fits env onPage input ↔ input.lines=[] ∨
    (input.lines.length≤ maxLines ∧ (buildBillingPdfLines env input).length≤rowLimit onPage) := by
  unfold Fits
  rw [← List.length_flatMap]
  refine or_congr_right (and_congr_right fun hfew => ?_)
  rw [rows_eq hfew]
  rfl

theorem rows_safe : ∀ row∈buildBillingPdfLines env input, IsSafe row := by
  intro row hrow
  obtain ⟨text,_,hin⟩ := List.mem_flatMap.mp hrow
  exact wrapPdfLine_safe hin

theorem rows_some : buildBillingPdfLines env input≠[] := by
  have hall := @rows_length env (headTexts env input++(input.lines.take maxLines).flatMap lineTexts++
    (if maxLines < input.lines.length then [omissionText (input.lines.length-maxLines)] else []))
  intro hempty
  unfold buildBillingPdfLines at hempty
  rw [hempty,List.length_append,List.length_append] at hall
  unfold headTexts at hall
  simp only [List.length_append,List.length_cons,List.length_nil] at hall
  omega

theorem shown_eq (env : Runtime) (input : BillingInvoicePdfInput) (onPage : Bool) :
    PageContent.shownTexts onPage (buildPageContent env (buildBillingPdfLines env input))=
      (buildBillingPdfLines env input).take (rowLimit onPage) :=
  shownTexts_content rows_safe rows_some onPage

theorem accounted_of_fits (h : Fits env onPage input) :
    Accounted env ((buildBillingPdfLines env input).take (rowLimit onPage)) input := by
  intro before line after hlines
  cases fits_iff.mp h with
  | inl hnone =>
    rw [hnone] at hlines
    exact absurd hlines.symm (by simp)
  | inr hfits =>
    left
    refine ⟨?_,fun text _ => wrapPdfLine_solid text⟩
    rw [List.take_of_length_le hfits.2,rows_eq hfits.1,hlines,rowsBefore_append,List.flatMap_cons,
      List.flatMap_append]
    exact (List.prefix_append_right_inj _).mpr (List.prefix_append _ _)

theorem shown_length :
    ((buildBillingPdfLines env input).take (rowLimit onPage)).length≤70 := by
  have htaken := List.length_take_le (rowLimit onPage) (buildBillingPdfLines env input)
  have hlimit : rowLimit onPage≤70 := by cases onPage <;> decide
  omega

/-- Behind as many lines as a document takes there is no row for anything, be it the message. -/
theorem not_printed (hmany : maxLines < input.lines.length) (texts : List Str) :
    ¬Printed env ((buildBillingPdfLines env input).take (rowLimit onPage))
      (rowsBefore env input (input.lines.take maxLines)) texts := by
  intro hprinted
  have hshown := @shown_length env input onPage
  have hlong := @rowsBefore_length env input (input.lines.take maxLines)
  have hcount : (input.lines.take maxLines).length=32 := by
    rw [List.length_take,min_eq_left hmany.le]
    rfl
  have hlength := hprinted.1.length_le
  rw [List.length_append] at hlength
  omega

theorem fits_of_accounted
    (h : Accounted env ((buildBillingPdfLines env input).take (rowLimit onPage)) input) :
    Fits env onPage input := by
  rw [fits_iff]
  by_cases hmany : maxLines < input.lines.length
  · exfalso
    have hsplit : input.lines=input.lines.take maxLines++
        input.lines[maxLines]::input.lines.drop (maxLines+1) := by
      rw [List.cons_getElem_drop_succ,List.take_append_drop]
    cases h _ _ _ hsplit with
    | inl hprinted => exact not_printed hmany _ hprinted
    | inr hcounted => exact not_printed hmany _ hcounted.2
  · have hfew := not_lt.mp hmany
    cases hlast : input.lines.reverse with
    | nil => exact Or.inl (List.reverse_eq_nil_iff.mp hlast)
    | cons line earlier =>
      have hsplit : input.lines=earlier.reverse++[line] := by
        rw [← List.reverse_reverse input.lines,hlast,List.reverse_cons]
      refine Or.inr ⟨hfew,?_⟩
      cases h _ _ _ hsplit with
      | inr hcounted =>
        have hlength := congrArg List.length hsplit
        rw [List.length_append,List.length_singleton] at hlength
        have hfirst := hcounted.1
        omega
      | inl hprinted =>
        have hrows : buildBillingPdfLines env input=rowsBefore env input earlier.reverse++
            (lineTexts line).flatMap (wrapPdfLine env) := by
          rw [rows_eq hfew,hsplit,rowsBefore_append,List.flatMap_singleton]
        have hlength := hprinted.1.length_le
        rw [← hrows,List.length_take] at hlength
        omega

/-- Every line is accounted for exactly when neither limit is passed; the addresses are right in every
document. -/
theorem accountsFor_iff (env : Runtime) (onPage : Bool) (input : BillingInvoicePdfInput) :
    AccountsFor env onPage input ↔ Fits env onPage input := by
  unfold AccountsFor
  simp only [shown_eq]
  constructor
  · intro h
    exact fits_of_accounted h.2
  · intro h
    exact ⟨⟨_,addressed_billing _,rfl⟩,accounted_of_fits h⟩

/-- Texts within ASCII, and no text is a date. -/
def demoRuntime : Runtime where
  nfkd := id
  nfkd_ascii := fun _ _ => rfl
  newDate := fun _ => none

def demoLine : BillingPdfLineInput where
  lineNumber := 1
  eventType := "STORAGE".toList
  description := "Pallet places".toList
  quantity := 4
  netAmountMinor := 1000
  taxAmountMinor := 210
  grossAmountMinor := 1210
  currency := "EUR".toList

/-- An invoice of 33 lines. -/
def demoInvoice : BillingInvoicePdfInput where
  documentType := .INVOICE
  documentNumber := "INV-2026-0001".toList
  sourceDocumentNumber := none
  clientCode := "ACME".toList
  warehouseCode := "WH1".toList
  currency := "EUR".toList
  subtotalMinor := 33000
  taxTotalMinor := 6930
  totalAmountMinor := 39930
  periodStart := none
  periodEnd := none
  status := "ISSUED".toList
  lines := List.replicate 33 demoLine

theorem demoInvoice_unaccounted : ¬AccountsFor demoRuntime false demoInvoice := by
  unfold AccountsFor
  simp only [shown_eq]
  intro h
  have hmany : maxLines < demoInvoice.lines.length := by decide
  cases fits_of_accounted h.2 with
  | inl hnone => exact absurd (congrArg List.length hnone) (by decide)
  | inr hfits => exact absurd hfits.1 (not_le.mpr hmany)

end Lines

end AardvarkWms.BillingPdf
