import AardvarkWms.Csv
import AardvarkWms.DocumentNumbers

/-! The exports of invoices and credit notes: `src/clients/billing-invoice.helpers.ts`. -/
namespace AardvarkWms.InvoiceCsv

open Messaging (Str)
open Billing (decimal isoDate)

structure CsvLine where
  lineNumber : ℤ
  eventType : Str
  description : Str
  quantity : ℤ
  amountMinor : ℤ
  vatRateBps : Option ℤ
  netAmountMinor : Option ℤ
  taxAmountMinor : Option ℤ
  grossAmountMinor : Option ℤ
  currency : Str

structure InvoiceCsvInput where
  invoiceNumber : Str
  clientCode : Str
  warehouseCode : Str
  periodStart : ℤ
  periodEnd : ℤ
  lines : List CsvLine

structure CreditNoteCsvInput where
  creditNoteNumber : Str
  invoiceNumber : Str
  clientCode : Str
  warehouseCode : Str
  lines : List CsvLine

/-- `String(n)` -/
def integerText (n : ℤ) : Str := if n < 0 then '-'::decimal n.natAbs else decimal n.natAbs

/-- What has a quote, a comma or a line feed in it. -/
def needsQuotes (value : Str) : Bool := value.any fun c => c= '"' || c= ',' || c= '\n'

def csvEscape (value : Str) : Str := Csv.cell needsQuotes value

/-- What both exports say of a line. -/
def CsvLine.fields (line : CsvLine) : List Str :=
  [integerText line.lineNumber,line.eventType,line.description,integerText line.quantity,
    integerText (line.netAmountMinor.getD line.amountMinor),
    (line.vatRateBps.map integerText).getD [],
    integerText (line.taxAmountMinor.getD 0),
    integerText (line.grossAmountMinor.getD line.amountMinor),line.currency]

def lineHeader : List Str :=
  ["lineNumber","eventType","description","quantity","netAmountMinor","vatRateBps",
    "taxAmountMinor","grossAmountMinor","currency"].map String.toList

def InvoiceCsvInput.header : List Str :=
  (["invoiceNumber","clientCode","warehouseCode","periodStart","periodEnd"].map String.toList)++
    lineHeader

def InvoiceCsvInput.rows (input : InvoiceCsvInput) : List (List Str) :=
  input.lines.map fun line =>
    [input.invoiceNumber,input.clientCode,input.warehouseCode,isoDate input.periodStart,
      isoDate input.periodEnd]++line.fields

def CreditNoteCsvInput.header : List Str :=
  (["creditNoteNumber","invoiceNumber","clientCode","warehouseCode"].map String.toList)++lineHeader

def CreditNoteCsvInput.rows (input : CreditNoteCsvInput) : List (List Str) :=
  input.lines.map fun line =>
    [input.creditNoteNumber,input.invoiceNumber,input.clientCode,input.warehouseCode]++line.fields

/-- The records, line by line. -/
def csvText (records : List (List Str)) : Str :=
  ['\n'].intercalate (records.map fun row => [','].intercalate (row.map csvEscape))

def exportInvoiceCsv (input : InvoiceCsvInput) : Str :=
  csvText (InvoiceCsvInput.header::input.rows)

def exportCreditNoteCsv (input : CreditNoteCsvInput) : Str :=
  csvText (CreditNoteCsvInput.header::input.rows)

/-- The texts that an export takes from the invoice, once for each line. -/
def InvoiceCsvInput.texts (input : InvoiceCsvInput) : List Str :=
  input.lines.flatMap fun line => [input.invoiceNumber,input.clientCode,input.warehouseCode,
    line.eventType,line.description,line.currency]

def CreditNoteCsvInput.texts (input : CreditNoteCsvInput) : List Str :=
  input.lines.flatMap fun line => [input.creditNoteNumber,input.invoiceNumber,input.clientCode,
    input.warehouseCode,line.eventType,line.description,line.currency]

theorem covers_needsQuotes : Csv.Covers needsQuotes := by
  intro value h
  refine List.any_eq_true.mpr ?_
  rcases h with h|h|h
  · exact ⟨_,h,rfl⟩
  · exact ⟨_,h,rfl⟩
  · exact ⟨_,h,rfl⟩

theorem not_return_decimal (n : ℕ) : '\r'∉decimal n := by
  intro h
  have hten : ∀ d < 10, Nat.digitChar d≠ '\r' := by decide
  obtain ⟨d,hd,hc⟩ := Billing.decimal_chars h
  exact hten d hd hc.symm

theorem not_return_integerText (n : ℤ) : '\r'∉integerText n := by
  unfold integerText
  split
  · simp [not_return_decimal]
  · exact not_return_decimal _

theorem not_return_isoDate (t : ℤ) : '\r'∉isoDate t :=
  Billing.notMem_isoDate (by decide) (by decide) (by decide)

theorem closed_fields (line : CsvLine) : (∀ field∈line.fields, Csv.Closed needsQuotes field) ↔
    Csv.Closed needsQuotes line.eventType ∧ Csv.Closed needsQuotes line.description ∧
      Csv.Closed needsQuotes line.currency := by
  have hnumber : ∀ n : ℤ, Csv.Closed needsQuotes (integerText n) := fun n h =>
    absurd h (not_return_integerText n)
  have hrate : Csv.Closed needsQuotes ((line.vatRateBps.map integerText).getD []) := by
    cases line.vatRateBps with
    | none => exact fun h => by cases h
    | some rate => exact hnumber rate
  unfold CsvLine.fields
  simp [hnumber,hrate]

theorem closed_isoDate (t : ℤ) : Csv.Closed needsQuotes (isoDate t) := fun h =>
  absurd h (not_return_isoDate t)

theorem closed_invoice_header :
    ∀ field∈InvoiceCsvInput.header, Csv.Closed needsQuotes field := by
  have hnone : InvoiceCsvInput.header.all (fun field => !field.contains '\r')=true := by decide
  intro field hfield h
  have hfield := List.all_eq_true.mp hnone field hfield
  simp [h] at hfield

theorem closed_creditNote_header :
    ∀ field∈CreditNoteCsvInput.header, Csv.Closed needsQuotes field := by
  have hnone : CreditNoteCsvInput.header.all (fun field => !field.contains '\r')=true := by decide
  intro field hfield h
  have hfield := List.all_eq_true.mp hnone field hfield
  simp [h] at hfield

theorem closed_invoice (input : InvoiceCsvInput) :
    (∀ r∈InvoiceCsvInput.header::input.rows, ∀ field∈r, Csv.Closed needsQuotes field) ↔
      ∀ value∈input.texts, Csv.Closed needsQuotes value := by
  have hline : ∀ line : CsvLine,
      (∀ field∈[input.invoiceNumber,input.clientCode,input.warehouseCode,
        isoDate input.periodStart,isoDate input.periodEnd]++line.fields,
          Csv.Closed needsQuotes field) ↔
      ∀ value∈[input.invoiceNumber,input.clientCode,input.warehouseCode,line.eventType,
        line.description,line.currency], Csv.Closed needsQuotes value := by
    intro line
    rw [List.forall_mem_append,closed_fields]
    simp [closed_isoDate,and_assoc]
  unfold InvoiceCsvInput.rows InvoiceCsvInput.texts
  rw [List.forall_mem_cons,List.forall_mem_map,List.forall_mem_flatMap]
  simp only [hline]
  exact and_iff_right closed_invoice_header

theorem closed_creditNote (input : CreditNoteCsvInput) :
    (∀ r∈CreditNoteCsvInput.header::input.rows, ∀ field∈r, Csv.Closed needsQuotes field) ↔
      ∀ value∈input.texts, Csv.Closed needsQuotes value := by
  have hline : ∀ line : CsvLine,
      (∀ field∈[input.creditNoteNumber,input.invoiceNumber,input.clientCode,
        input.warehouseCode]++line.fields, Csv.Closed needsQuotes field) ↔
      ∀ value∈[input.creditNoteNumber,input.invoiceNumber,input.clientCode,input.warehouseCode,
        line.eventType,line.description,line.currency], Csv.Closed needsQuotes value := by
    intro line
    rw [List.forall_mem_append,closed_fields]
    simp [and_assoc]
  unfold CreditNoteCsvInput.rows CreditNoteCsvInput.texts
  rw [List.forall_mem_cons,List.forall_mem_map,List.forall_mem_flatMap]
  simp only [hline]
  exact and_iff_right closed_creditNote_header

theorem csvText_eq (records : List (List Str)) : csvText records=Csv.file needsQuotes records := rfl

theorem proper_of_length {r : List Str} (h : 1 < r.length) : Csv.Proper r := by
  constructor
  · rintro rfl
    simp at h
  · rintro rfl
    simp at h

/-- A reader of CSV files gets the header and the fields of each line back, of an invoice and of a
credit note, if and only if each carriage return in a text stands beside a quote, a comma or a line
feed. -/
theorem exports_read_iff (input : InvoiceCsvInput) (note : CreditNoteCsvInput) :
    (Csv.read (exportInvoiceCsv input)=some (InvoiceCsvInput.header::input.rows) ↔
      ∀ value∈input.texts, Csv.Closed needsQuotes value) ∧
    (Csv.read (exportCreditNoteCsv note)=some (CreditNoteCsvInput.header::note.rows) ↔
      ∀ value∈note.texts, Csv.Closed needsQuotes value) := by
  constructor
  · have hproper : ∀ r∈InvoiceCsvInput.header::input.rows, Csv.Proper r := by
      refine List.forall_mem_cons.mpr ⟨proper_of_length (by decide),?_⟩
      unfold InvoiceCsvInput.rows
      refine List.forall_mem_map.mpr fun line _ => proper_of_length ?_
      simp
    rw [exportInvoiceCsv,csvText_eq,Csv.read_file_iff covers_needsQuotes hproper]
    exact closed_invoice input
  · have hproper : ∀ r∈CreditNoteCsvInput.header::note.rows, Csv.Proper r := by
      refine List.forall_mem_cons.mpr ⟨proper_of_length (by decide),?_⟩
      unfold CreditNoteCsvInput.rows
      refine List.forall_mem_map.mpr fun line _ => proper_of_length ?_
      simp
    rw [exportCreditNoteCsv,csvText_eq,Csv.read_file_iff covers_needsQuotes hproper]
    exact closed_creditNote note

def demoInvoice : InvoiceCsvInput where
  invoiceNumber := "INV-2026-000001".toList
  clientCode := "ACME".toList
  warehouseCode := "MAIN".toList
  periodStart := 1777593600000
  periodEnd := 1780272000000
  lines := [⟨1,"STORAGE_DAY".toList,"Pallets\rrow 2".toList,3,300,none,none,none,none,
    "EUR".toList⟩]

/-- A carriage return in a description ends the record. -/
theorem description_broken : Csv.read (exportInvoiceCsv demoInvoice)≠
    some (InvoiceCsvInput.header::demoInvoice.rows) := by
  decide +kernel

end AardvarkWms.InvoiceCsv
