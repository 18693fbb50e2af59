import AardvarkWms.BillingWrites
import AardvarkWms.Separators
import Mathlib.Data.Nat.Digits.Lemmas

/-! The numbers that invoices and credit notes get by themselves. -/
namespace AardvarkWms.Billing

open Messaging (Str)
open OrderUpdates (Uuid someUuid)

section Texts

/-- The number that some digits are of. -/
def textValue (s : Str) : ℕ := Nat.ofDigits 10 (s.reverse.map fun c => c.toNat-48)

theorem digitChar_value : ∀ d < 10, (Nat.digitChar d).toNat-48=d ∧ Nat.digitChar d≠ '-' := by
  decide

theorem decimal_chars {n : ℕ} {c : Char} (h : c∈decimal n) : ∃ d, d < 10 ∧ c=Nat.digitChar d := by
  unfold decimal at h
  split at h
  · exact ⟨0,by omega,List.mem_singleton.mp h⟩
  · rw [List.mem_reverse] at h
    obtain ⟨d,hd,rfl⟩ := List.mem_map.mp h
    exact ⟨d,Nat.digits_lt_base (by omega) hd,rfl⟩

theorem padStart_chars {w n : ℕ} {c : Char} (h : c∈padStart w (decimal n)) :
    ∃ d, d < 10 ∧ c=Nat.digitChar d := by
  cases List.mem_append.mp h with
  | inl hzero => exact ⟨0,by omega,(List.mem_replicate.mp hzero).2⟩
  | inr hdigit => exact decimal_chars hdigit

theorem isoDate_chars {t : ℤ} {c : Char} (h : c∈isoDate t) :
    c= '-' ∨ c= '+' ∨ ∃ d, d < 10 ∧ c=Nat.digitChar d := by
  unfold isoDate at h
  generalize civil (utcDay t)=date at h
  have hmem := List.mem_of_mem_take h
  simp only [List.mem_append,List.mem_cons] at hmem
  rcases hmem with ((hyear | hdash | hmonth) | hdash | hday)
  · split at hyear
    · exact Or.inr (Or.inr (padStart_chars hyear))
    · cases List.mem_cons.mp hyear with
      | inl hsign =>
        split at hsign
        · exact Or.inl hsign
        · exact Or.inr (Or.inl hsign)
      | inr hdigits => exact Or.inr (Or.inr (padStart_chars hdigits))
  · exact Or.inl hdash
  · exact Or.inr (Or.inr (padStart_chars hmonth))
  · exact Or.inl hdash
  · exact Or.inr (Or.inr (padStart_chars hday))

theorem notMem_isoDate {t : ℤ} {c : Char} (hdash : c≠ '-') (hplus : c≠ '+')
    (hdigit : ∀ d < 10, c≠Nat.digitChar d) : c∉isoDate t := by
  intro h
  rcases isoDate_chars h with hc | hc | ⟨d,hd,hc⟩
  · exact hdash hc
  · exact hplus hc
  · exact hdigit d hd hc

theorem dash_notMem_padStart (w n : ℕ) : '-'∉padStart w (decimal n) := by
  intro h
  obtain ⟨d,hd,hc⟩ := padStart_chars h
  exact (digitChar_value d hd).2 hc.symm

theorem textValue_padStart (w n : ℕ) : textValue (padStart w (decimal n))=n := by
  have hzeros : ∀ k, (List.replicate k '0').map (fun c : Char => c.toNat-48)=List.replicate k 0 :=
    fun k => by rw [List.map_replicate]; rfl
  unfold textValue padStart
  rw [List.reverse_append,List.map_append,List.reverse_replicate,hzeros,
    Nat.ofDigits_append_replicate_zero]
  unfold decimal
  split
  · rename_i hn
    rw [hn]
    rfl
  · rw [List.reverse_reverse,List.map_map]
    have hdigits : (Nat.digits 10 n).map ((fun c : Char => c.toNat-48)∘Nat.digitChar)=
        Nat.digits 10 n := by
      conv_rhs => rw [← List.map_id (Nat.digits 10 n)]
      exact List.map_congr_left fun d hd =>
        (digitChar_value d (Nat.digits_lt_base (by omega) hd)).1
    rw [hdigits,Nat.ofDigits_digits]

theorem padStart_inj {w n m : ℕ} (h : padStart w (decimal n)=padStart w (decimal m)) : n=m := by
  rw [← textValue_padStart w n,h,textValue_padStart]

theorem length_padStart {w n : ℕ} (hw : 0 < w) (h : n < 10^w) : (padStart w (decimal n)).length=w := by
  have hlength : (decimal n).length≤w := by
    unfold decimal
    split
    · exact hw
    · rw [List.length_reverse,List.length_map]
      exact (Nat.digits_length_le_iff (by omega) n).mpr h
  unfold padStart
  rw [List.length_append,List.length_replicate]
  omega

variable (env : Env)

/-- What the numbers of a prefix and a year have in common. -/
def series (code : Str) (year : ℤ) : Str :=
  (normalizeInvoiceToken env code).map (fun c => if c = '_' then '-' else c)++ '-'::
    decimal (max 2000 (min 9999 year)).toNat

theorem makeSequentialInvoiceNumber_eq (code : Str) (year : ℤ) (n : ℕ) :
    makeSequentialInvoiceNumber env code year n=
      series env code year++ '-'::padStart 6 (decimal (max 1 n)) := by
  unfold makeSequentialInvoiceNumber series
  rw [List.append_assoc,List.cons_append]

variable {env}

theorem invoiceNumber_inj {code code' : Str} {year year' : ℤ} {n n' : ℕ}
    (h : makeSequentialInvoiceNumber env code year n=makeSequentialInvoiceNumber env code' year' n') :
    series env code year=series env code' year' ∧ max 1 n=max 1 n' := by
  rw [makeSequentialInvoiceNumber_eq,makeSequentialInvoiceNumber_eq] at h
  obtain ⟨hseries,hnumber⟩ := Separators.split_last (dash_notMem_padStart _ _) (dash_notMem_padStart _ _) h
  exact ⟨hseries,padStart_inj hnumber⟩

/-- A credit note number before it is cut. -/
def fullCreditNoteNumber (env : Env) (invoiceNumber : Str) (n : ℕ) : Str :=
  "CN-".toList++creditToken env invoiceNumber++ '-'::padStart 3 (decimal (max 1 n))

theorem fullCreditNoteNumber_inj {x x' : Str} {n n' : ℕ}
    (h : fullCreditNoteNumber env x n=fullCreditNoteNumber env x' n') :
    creditToken env x=creditToken env x' ∧ max 1 n=max 1 n' := by
  obtain ⟨htoken,hnumber⟩ := Separators.split_last (dash_notMem_padStart _ _) (dash_notMem_padStart _ _) h
  exact ⟨(List.append_right_inj _).mp htoken,padStart_inj hnumber⟩

end Texts

section Conditions
variable (env : Env) (db : BillingDb)

def BillingDb.hasInvoiceNumber (clientId : Uuid) (number : Str) : Prop :=
  ∃ i∈db.invoices.rows, i.clientId=clientId ∧ i.invoiceNumber=number

def BillingDb.hasCreditNoteNumber (clientId : Uuid) (number : Str) : Prop :=
  ∃ n∈db.notes.rows, n.clientId=clientId ∧ n.creditNoteNumber=number

def BillingDb.noteCount (invoiceId : Uuid) : ℕ :=
  (db.notes.rows.filter fun n => n.invoiceId=invoiceId).length

/-- No other sequence of the client makes the same numbers. -/
def BillingDb.numbersAlone (q : InvoiceNumberSequence) : Bool :=
  db.sequences.rows.all fun q' => q'.clientId≠q.clientId ||
    series env q'.prefixText q'.year≠series env q.prefixText q.year || q'.key=q.key

/-- No other invoice of the client that has credit notes makes the same credit note numbers. -/
def BillingDb.creditsAlone (i : BillingInvoice) : Bool :=
  db.notes.rows.all fun n => n.clientId≠i.clientId || n.invoiceId=i.id ||
    (db.invoices.get? n.invoiceId).all fun i' =>
      creditToken env i'.invoiceNumber≠creditToken env i.invoiceNumber

/-- An automatic number is made from what the rows still say, and by nothing else; one that is asked
for is refused. -/
def BillingDb.isCurrent : Phase → Bool
  | .insertInvoice d =>
    match d.allocation with
    | .requested => db.invoices.rows.any fun i =>
        i.clientId=d.client.id && i.invoiceNumber=d.invoiceNumber
    | .first q => db.sequences.get? q.key=none && db.numbersAlone env q
    | .next q => db.sequences.get? q.key=some q && db.numbersAlone env q
  | .insertNote d =>
    match d.sequence with
    | none => db.notes.rows.any fun n =>
        n.clientId=d.invoice.clientId && n.creditNoteNumber=d.creditNoteNumber
    | some k => k=db.noteCount d.invoice.id+1 &&
        (fullCreditNoteNumber env d.invoice.invoiceNumber k).length≤120 && db.creditsAlone env d.invoice
  | _ => true

/-- A number that is asked for does not look like an automatic one. -/
def Phase.Plain : Phase → Prop
  | .insertInvoice d => d.allocation=.requested ∧ ∀ year k, d.invoiceNumber≠
      makeSequentialInvoiceNumber env (env.runtime.normalizeReference d.client.code) year k
  | .insertNote d => d.sequence=none ∧ ∀ x k, d.creditNoteNumber≠fullCreditNoteNumber env x k
  | _ => False

/-- What the insertion of a document needs. -/
def Numbering (_ : ℕ → Uuid) (phase : Phase) : Prop := db.isCurrent env phase=true ∨ phase.Plain env

/-- An automatic number that is about to be stored is one that the client has already. -/
def BillingDb.numberTaken : Phase → Bool
  | .insertInvoice d => d.allocation≠.requested && db.invoices.rows.any fun i =>
      i.clientId=d.client.id && i.invoiceNumber=d.invoiceNumber
  | .insertNote d => d.sequence≠none && db.notes.rows.any fun n =>
      n.clientId=d.invoice.clientId && n.creditNoteNumber=d.creditNoteNumber
  | _ => false

end Conditions

section Meaning
variable {env : Env} {db : BillingDb} {gen : ℕ → Uuid} {d : InvoiceDraft} {c : CreditDraft}
  {q : InvoiceNumberSequence}

theorem numbersAlone_key (h : db.numbersAlone env q=true) {q' : InvoiceNumberSequence}
    (hq' : q'∈db.sequences.rows) (hclient : q'.clientId=q.clientId)
    (hseries : series env q'.prefixText q'.year=series env q.prefixText q.year) : q'.key=q.key := by
  have hrow := List.all_eq_true.mp h q' hq'
  simpa [hclient,hseries] using hrow

theorem numbering_requested (h : Numbering env db gen (.insertInvoice d))
    (ha : d.allocation=.requested) : db.hasInvoiceNumber d.client.id d.invoiceNumber ∨
    ∀ year k, d.invoiceNumber≠
      makeSequentialInvoiceNumber env (env.runtime.normalizeReference d.client.code) year k := by
  refine h.imp ?_ And.right
  intro htaken
  unfold BillingDb.isCurrent at htaken
  simp only [ha] at htaken
  obtain ⟨i,hi,hboth⟩ := List.any_eq_true.mp htaken
  simp only [Bool.and_eq_true,decide_eq_true_eq] at hboth
  exact ⟨i,hi,hboth⟩

theorem numbering_first (h : Numbering env db gen (.insertInvoice d)) (ha : d.allocation=.first q) :
    db.sequences.get? q.key=none ∧ db.numbersAlone env q=true := by
  cases h with
  | inl hcurrent =>
    unfold BillingDb.isCurrent at hcurrent
    simp only [ha,Bool.and_eq_true,decide_eq_true_eq] at hcurrent
    exact hcurrent
  | inr hplain =>
    have hrequested := hplain.1
    rw [ha] at hrequested
    cases hrequested

theorem numbering_next (h : Numbering env db gen (.insertInvoice d)) (ha : d.allocation=.next q) :
    db.sequences.get? q.key=some q ∧ db.numbersAlone env q=true := by
  cases h with
  | inl hcurrent =>
    unfold BillingDb.isCurrent at hcurrent
    simp only [ha,Bool.and_eq_true,decide_eq_true_eq] at hcurrent
    exact hcurrent
  | inr hplain =>
    have hrequested := hplain.1
    rw [ha] at hrequested
    cases hrequested

theorem numbering_note_requested (h : Numbering env db gen (.insertNote c)) (hc : c.sequence=none) :
    db.hasCreditNoteNumber c.invoice.clientId c.creditNoteNumber ∨
    ∀ x k, c.creditNoteNumber≠fullCreditNoteNumber env x k := by
  refine h.imp ?_ And.right
  intro htaken
  unfold BillingDb.isCurrent at htaken
  simp only [hc] at htaken
  obtain ⟨n,hn,hboth⟩ := List.any_eq_true.mp htaken
  simp only [Bool.and_eq_true,decide_eq_true_eq] at hboth
  exact ⟨n,hn,hboth⟩

theorem numbering_note (h : Numbering env db gen (.insertNote c)) {k : ℕ} (hc : c.sequence=some k) :
    k=db.noteCount c.invoice.id+1 ∧ (fullCreditNoteNumber env c.invoice.invoiceNumber k).length≤120 ∧
    ∀ n∈db.notes.rows, n.clientId=c.invoice.clientId → n.invoiceId≠c.invoice.id →
      ∀ i, db.invoices.get? n.invoiceId=some i →
        creditToken env i.invoiceNumber≠creditToken env c.invoice.invoiceNumber := by
  cases h with
  | inl hcurrent =>
    unfold BillingDb.isCurrent at hcurrent
    simp only [hc,Bool.and_eq_true,decide_eq_true_eq] at hcurrent
    obtain ⟨⟨hcount,hlength⟩,halone⟩ := hcurrent
    refine ⟨hcount,hlength,?_⟩
    intro n hn hclient hinvoice i hi
    have hrow := List.all_eq_true.mp halone n hn
    rw [hi] at hrow
    simpa [hclient,hinvoice] using hrow
  | inr hplain =>
    have hnone := hplain.1
    rw [hc] at hnone
    cases hnone

end Meaning

section Books
variable {env : Env} {db db' : BillingDb}

/-- Who has a number that looks automatic, has it from a sequence or an invoice that is past it. -/
structure BillingDb.NumberBooks (env : Env) (db : BillingDb) : Prop where
  sequences : ∀ q∈db.sequences.rows, 1≤q.nextNumber
  invoices : ∀ i∈db.invoices.rows, ∃ c, db.clients.get? i.clientId=some c ∧ ∀ year k,
    i.invoiceNumber=makeSequentialInvoiceNumber env (env.runtime.normalizeReference c.code) year k →
    ∃ q∈db.sequences.rows, q.clientId=i.clientId ∧ series env q.prefixText q.year=
      series env (env.runtime.normalizeReference c.code) year ∧ max 1 k < q.nextNumber
  notes : ∀ n∈db.notes.rows, ∃ i, db.invoices.get? n.invoiceId=some i ∧ i.clientId=n.clientId ∧
    ∀ x k, n.creditNoteNumber=fullCreditNoteNumber env x k →
    creditToken env x=creditToken env i.invoiceNumber ∧ max 1 k≤db.noteCount n.invoiceId

theorem series_of_code {c c' : WmsClient} (h : c.fixed=c'.fixed) : c.code=c'.code := by
  have hcode : c.fixed.code=c'.fixed.code := by rw [h]
  exact hcode

theorem BillingDb.NumberBooks.fresh_invoice (h : db.NumberBooks env) {d : InvoiceDraft}
    (hknown : (Phase.insertInvoice d).Known env db) {gen : ℕ → Uuid}
    (hmeets : Numbering env db gen (.insertInvoice d)) (hautomatic : d.allocation≠.requested) :
    ¬db.hasInvoiceNumber d.client.id d.invoiceNumber := by
  intro hsame
  obtain ⟨i,hi,hclient,hnumber⟩ := hsame
  obtain ⟨c,hc,hbooks⟩ := h.invoices i hi
  obtain ⟨⟨⟨now,hnow,hfixed⟩,_⟩,hnumbered⟩ := hknown
  rw [hclient,hnow] at hc
  cases hc
  have hcode := series_of_code hfixed
  unfold InvoiceDraft.Numbered at hnumbered
  cases hallocation : d.allocation with
  | requested => exact hautomatic hallocation
  | first q =>
    obtain ⟨hnone,halone⟩ := numbering_first hmeets hallocation
    simp only [hallocation] at hnumbered
    obtain ⟨hqclient,hqcode,_,hqnumber⟩ := hnumbered
    obtain ⟨q',hq',hq'client,hq'series,_⟩ := hbooks q.year 1 (by rw [hnumber,hqnumber,hqcode,hcode])
    have hkey := numbersAlone_key halone hq' (hq'client.trans (hclient.trans hqclient.symm))
      (by rw [hq'series,hcode,hqcode])
    have hfound := Table.get?_key hq'
    rw [hkey,hnone] at hfound
    cases hfound
  | next q =>
    obtain ⟨hstored,halone⟩ := numbering_next hmeets hallocation
    simp only [hallocation] at hnumbered
    obtain ⟨hqclient,hqcode,hqnumber⟩ := hnumbered
    obtain ⟨q',hq',hq'client,hq'series,hlt⟩ :=
      hbooks q.year q.nextNumber (by rw [hnumber,hqnumber,hqcode,hcode])
    have hkey := numbersAlone_key halone hq' (hq'client.trans (hclient.trans hqclient.symm))
      (by rw [hq'series,hcode,hqcode])
    have hfound := Table.get?_key hq'
    rw [hkey,hstored] at hfound
    cases hfound
    exact absurd (Nat.le_max_right 1 q.nextNumber) (Nat.not_le.mpr hlt)

theorem makeCreditNoteNumber_full {x : Str} {k : ℕ}
    (h : (fullCreditNoteNumber env x k).length≤120) :
    makeCreditNoteNumber env x k=fullCreditNoteNumber env x k := List.take_of_length_le h

theorem BillingDb.NumberBooks.fresh_note (h : db.NumberBooks env) {d : CreditDraft}
    (hknown : (Phase.insertNote d).Known env db) {gen : ℕ → Uuid}
    (hmeets : Numbering env db gen (.insertNote d)) (hautomatic : d.sequence≠none) :
    ¬db.hasCreditNoteNumber d.invoice.clientId d.creditNoteNumber := by
  intro hsame
  obtain ⟨n,hn,hclient,hnumber⟩ := hsame
  obtain ⟨i,hi,hiclient,hbooks⟩ := h.notes n hn
  cases hsequence : d.sequence with
  | none => exact hautomatic hsequence
  | some k =>
    obtain ⟨hk,hlength,halone⟩ := numbering_note hmeets hsequence
    have hfull : n.creditNoteNumber=fullCreditNoteNumber env d.invoice.invoiceNumber k := by
      rw [hnumber,hknown.2 k hsequence,makeCreditNoteNumber_full hlength]
    obtain ⟨htoken,hle⟩ := hbooks d.invoice.invoiceNumber k hfull
    by_cases hinvoice : n.invoiceId=d.invoice.id
    · rw [hinvoice] at hle
      have hpast := (Nat.le_max_right 1 k).trans hle
      omega
    · exact halone n hn hclient hinvoice i hi htoken.symm

theorem invoice_of_fixed {i i' : BillingInvoice} (h : i.fixed=i'.fixed) :
    i.clientId=i'.clientId ∧ i.invoiceNumber=i'.invoiceNumber := by
  have hclient : i.fixed.clientId=i'.fixed.clientId := by rw [h]
  have hnumber : i.fixed.invoiceNumber=i'.fixed.invoiceNumber := by rw [h]
  exact ⟨hclient,hnumber⟩

theorem note_of_fixed {n n' : BillingCreditNote} (h : n.fixed=n'.fixed) :
    n.clientId=n'.clientId ∧ n.invoiceId=n'.invoiceId ∧ n.creditNoteNumber=n'.creditNoteNumber := by
  have hclient : n.fixed.clientId=n'.fixed.clientId := by rw [h]
  have hinvoice : n.fixed.invoiceId=n'.fixed.invoiceId := by rw [h]
  have hnumber : n.fixed.creditNoteNumber=n'.fixed.creditNoteNumber := by rw [h]
  exact ⟨hclient,hinvoice,hnumber⟩

theorem BillingDb.NumberBooks.of_fixed (h : db.NumberBooks env)
    (hclients : Table.Grows WmsClient.fixed db.clients db'.clients)
    (hgrows : Table.Grows BillingInvoice.fixed db.invoices db'.invoices)
    (hinvoices : ∀ i'∈db'.invoices.rows, ∃ i∈db.invoices.rows, i.fixed=i'.fixed)
    (hsequences : db'.sequences=db.sequences)
    (hnotes : ∀ n'∈db'.notes.rows, ∃ n∈db.notes.rows, n.fixed=n'.fixed)
    (hcount : ∀ x, db'.noteCount x=db.noteCount x) : db'.NumberBooks env := by
  constructor
  · rw [hsequences]
    exact h.sequences
  · intro i' hi'
    obtain ⟨i,hi,hfixed⟩ := hinvoices i' hi'
    obtain ⟨hclient,hnumber⟩ := invoice_of_fixed hfixed
    obtain ⟨c,hc,hbooks⟩ := h.invoices i hi
    obtain ⟨c',hc',hcfixed⟩ := hclients _ c hc
    rw [hclient] at hc' hbooks
    rw [hnumber] at hbooks
    rw [hsequences]
    refine ⟨c',hc',?_⟩
    rw [series_of_code hcfixed]
    exact hbooks
  · intro n' hn'
    obtain ⟨n,hn,hfixed⟩ := hnotes n' hn'
    obtain ⟨hclient,hinvoice,hnumber⟩ := note_of_fixed hfixed
    obtain ⟨i,hi,hiclient,hbooks⟩ := h.notes n hn
    obtain ⟨i',hi',hifixed⟩ := hgrows _ i hi
    obtain ⟨hclient',hnumber'⟩ := invoice_of_fixed hifixed
    rw [hinvoice] at hi' hbooks
    rw [hnumber,← hnumber'] at hbooks
    refine ⟨i',hi',hclient'.trans (hiclient.trans hclient),?_⟩
    intro x k hx
    rw [hcount]
    exact hbooks x k hx

theorem advanceSequence_first {sequences sequences' : Table InvoiceNumberSequence.key}
    {q : InvoiceNumberSequence} (h : advanceSequence sequences (.first q)=.ok sequences') :
    sequences.get? q.key=none ∧ sequences'=sequences.insert q := by
  simp only [advanceSequence] at h
  split at h
  · cases h
  · rename_i hnew
    cases h
    exact ⟨not_not.mp hnew,rfl⟩

theorem advanceSequence_next {sequences sequences' : Table InvoiceNumberSequence.key}
    {read : InvoiceNumberSequence} (h : advanceSequence sequences (.next read)=.ok sequences') :
    sequences'.rows=sequences.rows.map fun q =>
      if q.key=read.key then {q with nextNumber := q.nextNumber+1} else q := by
  cases h
  rfl

theorem advanceSequence_kept {sequences sequences' : Table InvoiceNumberSequence.key}
    {allocation : Allocation} (h : advanceSequence sequences allocation=.ok sequences')
    {q : InvoiceNumberSequence} (hq : q∈sequences.rows) : ∃ q'∈sequences'.rows,
      q'.clientId=q.clientId ∧ q'.prefixText=q.prefixText ∧ q'.year=q.year ∧
      q.nextNumber≤q'.nextNumber := by
  cases allocation with
  | requested =>
    cases h
    exact ⟨q,hq,rfl,rfl,rfl,le_rfl⟩
  | first new =>
    obtain ⟨hnew,rfl⟩ := advanceSequence_first h
    rw [Table.rows_insert hnew]
    exact ⟨q,List.mem_append_left _ hq,rfl,rfl,rfl,le_rfl⟩
  | next read =>
    rw [advanceSequence_next h]
    refine ⟨if q.key=read.key then {q with nextNumber := q.nextNumber+1} else q,
      List.mem_map.mpr ⟨q,hq,rfl⟩,?_⟩
    split
    · exact ⟨rfl,rfl,rfl,Nat.le_succ _⟩
    · exact ⟨rfl,rfl,rfl,le_rfl⟩

theorem advanceSequence_pos {sequences sequences' : Table InvoiceNumberSequence.key}
    {allocation : Allocation} (h : advanceSequence sequences allocation=.ok sequences')
    (hpos : ∀ q∈sequences.rows, 1≤q.nextNumber)
    (hfirst : ∀ q, allocation=.first q → q.nextNumber=2) : ∀ q∈sequences'.rows, 1≤q.nextNumber := by
  intro q hq
  cases allocation with
  | requested =>
    cases h
    exact hpos q hq
  | first new =>
    obtain ⟨hnew,rfl⟩ := advanceSequence_first h
    rw [Table.rows_insert hnew] at hq
    cases List.mem_append.mp hq with
    | inl hold => exact hpos q hold
    | inr hlast =>
      rw [List.mem_singleton.mp hlast,hfirst new rfl]
      omega
  | next read =>
    rw [advanceSequence_next h] at hq
    obtain ⟨o,ho,hchanged⟩ := List.mem_map.mp hq
    have hold := hpos o ho
    split at hchanged
    · subst hchanged
      exact Nat.le_succ_of_le hold
    · subst hchanged
      exact hold

theorem Stored.passed {d : InvoiceDraft} {id : Uuid} {invoice : BillingInvoice}
    (h : Stored env db d id db' invoice) (hbooks : db.NumberBooks env) (hnumbered : d.Numbered env)
    {gen : ℕ → Uuid} (hmeets : Numbering env db gen (.insertInvoice d)) {year : ℤ} {k : ℕ}
    (hk : d.invoiceNumber=makeSequentialInvoiceNumber env
      (env.runtime.normalizeReference d.client.code) year k) :
    ∃ q∈db'.sequences.rows, q.clientId=d.client.id ∧ series env q.prefixText q.year=
      series env (env.runtime.normalizeReference d.client.code) year ∧ max 1 k < q.nextNumber := by
  have hsequences := h.sequences
  unfold InvoiceDraft.Numbered at hnumbered
  cases hallocation : d.allocation with
  | requested =>
    cases numbering_requested hmeets hallocation with
    | inl htaken =>
      obtain ⟨i,hi,hclient,hnumber⟩ := htaken
      exact absurd hnumber (h.number i hi hclient)
    | inr hplain => exact absurd hk (hplain year k)
  | first q =>
    simp only [hallocation] at hnumbered hsequences
    obtain ⟨hclient,hcode,hnext,hnumber⟩ := hnumbered
    obtain ⟨hseries,hmax⟩ := invoiceNumber_inj (hnumber.symm.trans hk)
    obtain ⟨hnew,hinserted⟩ := advanceSequence_first hsequences
    refine ⟨q,?_,hclient,hseries,?_⟩
    · rw [hinserted,Table.rows_insert hnew]
      exact List.mem_append_right _ (List.mem_singleton_self q)
    · omega
  | next q =>
    obtain ⟨hstored,_⟩ := numbering_next hmeets hallocation
    simp only [hallocation] at hnumbered hsequences
    obtain ⟨hclient,hcode,hnumber⟩ := hnumbered
    obtain ⟨hseries,hmax⟩ := invoiceNumber_inj (hnumber.symm.trans hk)
    have hmem := (Table.mem_of_get? hstored).1
    have hpos := hbooks.sequences q hmem
    refine ⟨{q with nextNumber := q.nextNumber+1},?_,hclient,hseries,?_⟩
    · rw [advanceSequence_next hsequences]
      exact List.mem_map.mpr ⟨q,hmem,if_pos rfl⟩
    have hone : max 1 q.nextNumber=q.nextNumber := Nat.max_eq_right hpos
    simp only
    omega

theorem Stored.numberBooks {d : InvoiceDraft} {id : Uuid} {invoice : BillingInvoice}
    (h : Stored env db d id db' invoice) (hbooks : db.NumberBooks env)
    (hknown : (Phase.insertInvoice d).Known env db) {gen : ℕ → Uuid}
    (hmeets : Numbering env db gen (.insertInvoice d)) : db'.NumberBooks env := by
  obtain ⟨⟨⟨now,hnow,hfixed⟩,_⟩,hnumbered⟩ := hknown
  have hid : invoice.id=id := by rw [h.isInvoice]; rfl
  have hrows : db'.invoices.rows=db.invoices.rows++[invoice] := by
    rw [h.invoices]
    exact Table.rows_insert (hid ▸ h.new)
  refine ⟨?_,?_,?_⟩
  · refine advanceSequence_pos h.sequences hbooks.sequences ?_
    intro q hq
    unfold InvoiceDraft.Numbered at hnumbered
    rw [hq] at hnumbered
    exact hnumbered.2.2.1
  · intro i hi
    rw [hrows] at hi
    rw [h.rest.2.2]
    cases List.mem_append.mp hi with
    | inl hold =>
      obtain ⟨c,hc,hpassed⟩ := hbooks.invoices i hold
      refine ⟨c,hc,?_⟩
      intro year k hk
      obtain ⟨q,hq,hclient,hseries,hlt⟩ := hpassed year k hk
      obtain ⟨q',hq',hclient',hcode',hyear',hle⟩ := advanceSequence_kept h.sequences hq
      refine ⟨q',hq',hclient'.trans hclient,?_,hlt.trans_le hle⟩
      rw [hcode',hyear']
      exact hseries
    | inr hlast =>
      rw [List.mem_singleton.mp hlast,h.isInvoice]
      refine ⟨now,hnow,?_⟩
      rw [series_of_code hfixed]
      intro year k hk
      exact h.passed hbooks hnumbered hmeets hk
  · intro n hn
    rw [h.rest.1] at hn
    obtain ⟨i,hi,hclient,hpassed⟩ := hbooks.notes n hn
    obtain ⟨i',hi',hifixed⟩ := h.extends.invoices _ i hi
    obtain ⟨hclient',hnumber'⟩ := invoice_of_fixed hifixed
    refine ⟨i',hi',hclient'.trans hclient,?_⟩
    intro x k hk
    unfold BillingDb.noteCount
    rw [hnumber',h.rest.1]
    exact hpassed x k hk

theorem NoteStored.numberBooks {d : CreditDraft} {id : Uuid} {note : BillingCreditNote}
    (h : NoteStored db d id db' note) (hbooks : db.NumberBooks env)
    (hknown : (Phase.insertNote d).Known env db) {gen : ℕ → Uuid}
    (hmeets : Numbering env db gen (.insertNote d)) : db'.NumberBooks env := by
  obtain ⟨⟨⟨now,hnow,hfixed⟩,_⟩,hnumbered⟩ := hknown
  have hid : note.id=id := by rw [h.isNote]; rfl
  have hinvoice : note.invoiceId=d.invoice.id := by rw [h.isNote]; rfl
  have hrows : db'.notes.rows=db.notes.rows++[note] := by
    rw [h.left]
    exact Table.rows_insert (hid ▸ h.new)
  have hcount : ∀ x, db'.noteCount x=db.noteCount x+if note.invoiceId=x then 1 else 0 := by
    intro x
    unfold BillingDb.noteCount
    rw [hrows,List.filter_append,List.length_append]
    by_cases hx : note.invoiceId=x <;> simp [hx]
  have hrest : db'.sequences=db.sequences ∧ db'.clients=db.clients ∧ db'.invoices=db.invoices := by
    rw [h.left]
    exact ⟨rfl,rfl,rfl⟩
  obtain ⟨hsequences,hclients,hinvoices⟩ := hrest
  refine ⟨?_,?_,?_⟩
  · rw [hsequences]
    exact hbooks.sequences
  · rw [hsequences,hclients,hinvoices]
    exact hbooks.invoices
  · intro n hn
    rw [hrows] at hn
    rw [hinvoices]
    cases List.mem_append.mp hn with
    | inl hold =>
      obtain ⟨i,hi,hclient,hpassed⟩ := hbooks.notes n hold
      refine ⟨i,hi,hclient,?_⟩
      intro x k hk
      obtain ⟨htoken,hle⟩ := hpassed x k hk
      rw [hcount]
      exact ⟨htoken,hle.trans (Nat.le_add_right _ _)⟩
    | inr hlast =>
      rw [List.mem_singleton.mp hlast]
      obtain ⟨hclient,hnumber⟩ := invoice_of_fixed hfixed
      refine ⟨now,hinvoice ▸ hnow,?_,?_⟩
      · rw [hclient,h.isNote]
        rfl
      · intro x k hk
        have hown : note.creditNoteNumber=d.creditNoteNumber := by rw [h.isNote]; rfl
        rw [hown] at hk
        rw [hcount,if_pos rfl,hinvoice,hnumber]
        cases hsequence : d.sequence with
        | none =>
          cases numbering_note_requested hmeets hsequence with
          | inl htaken =>
            obtain ⟨m,hm,hmclient,hmnumber⟩ := htaken
            exact absurd hmnumber (h.number m hm hmclient)
          | inr hplain => exact absurd hk (hplain x k)
        | some j =>
          obtain ⟨hj,hlength,_⟩ := numbering_note hmeets hsequence
          rw [hnumbered j hsequence,makeCreditNoteNumber_full hlength] at hk
          obtain ⟨htoken,hmax⟩ := fullCreditNoteNumber_inj hk
          refine ⟨htoken.symm,?_⟩
          omega

end Books

section Runs
variable {env : Env} {db db' : BillingDb} {gen : ℕ → Uuid} {c : Call}

theorem mem_setInvoiceStatus {invoices : Table BillingInvoice.id} {id : Uuid}
    {status : BillingInvoiceStatus} {i' : BillingInvoice}
    (h : i'∈(setInvoiceStatus invoices id status).rows) : ∃ i∈invoices.rows, i.fixed=i'.fixed := by
  obtain ⟨i,hi,hchanged⟩ := List.mem_map.mp h
  refine ⟨i,hi,?_⟩
  split at hchanged
  · rw [← hchanged]
    rfl
  · rw [hchanged]

theorem mem_setNoteStatus {notes : Table BillingCreditNote.id} {id : Uuid}
    {status : BillingCreditNoteStatus} {n' : BillingCreditNote}
    (h : n'∈(setNoteStatus notes id status).rows) : ∃ n∈notes.rows, n.fixed=n'.fixed := by
  obtain ⟨n,hn,hchanged⟩ := List.mem_map.mp h
  refine ⟨n,hn,?_⟩
  split at hchanged
  · rw [← hchanged]
    rfl
  · rw [hchanged]

theorem noteCount_setNoteStatus (id x : Uuid) (status : BillingCreditNoteStatus) :
    {db with notes := setNoteStatus db.notes id status}.noteCount x=db.noteCount x := by
  unfold BillingDb.noteCount
  change ((db.notes.rows.map _).filter _).length=_
  rw [List.filter_map,List.length_map]
  congr 1
  refine List.filter_congr ?_
  intro n _
  simp only [Function.comp_apply]
  split <;> rfl

theorem BillingDb.NumberBooks.of_events {events : Table BillingEvent.id} (h : db.NumberBooks env) :
    {db with events}.NumberBooks env := ⟨h.sequences,h.invoices,h.notes⟩

theorem BillingDb.SameBooks.numberBooks (h : db.SameBooks db') (hbooks : db.NumberBooks env) :
    db'.NumberBooks env := by
  refine hbooks.of_fixed h.clients ?_ ?_ h.sequences ?_ ?_
  · rw [h.invoices]
    exact .refl _
  · rw [h.invoices]
    exact fun i hi => ⟨i,hi,rfl⟩
  · rw [h.notes]
    exact fun n hn => ⟨n,hn,rfl⟩
  · intro x
    unfold BillingDb.noteCount
    rw [h.notes]

theorem BillingWrite.numberBooks (h : BillingWrite env gen c db db')
    (hknown : c.phase.Known env db) (hmeets : Numbering env db gen c.phase)
    (hbooks : db.NumberBooks env) : db'.NumberBooks env := by
  cases h with
  | none => exact hbooks
  | upsert u events row _ _ => exact hbooks.of_events
  | upserts us events rows _ _ => exact hbooks.of_events
  | voidEvent read _ => exact hbooks.of_events
  | insertInvoice d _ invoice hphase hstore =>
    rw [hphase] at hknown hmeets
    exact (storeInvoice_ok hstore).numberBooks hbooks hknown hmeets
  | finalizeInvoice i ids _ =>
    exact hbooks.of_fixed (.refl _) (grows_setInvoiceStatus _ _ _) (fun _ h => mem_setInvoiceStatus h) rfl
      (fun n hn => ⟨n,hn,rfl⟩) fun _ => rfl
  | voidInvoice i ids released _ =>
    exact hbooks.of_fixed (.refl _) (grows_setInvoiceStatus _ _ _) (fun _ h => mem_setInvoiceStatus h) rfl
      (fun n hn => ⟨n,hn,rfl⟩) fun _ => rfl
  | insertNote d _ note hphase hstore =>
    rw [hphase] at hknown hmeets
    exact (storeNote_ok hstore).numberBooks hbooks hknown hmeets
  | finalizeNote read _ =>
    exact hbooks.of_fixed (.refl _) (.refl _) (fun i hi => ⟨i,hi,rfl⟩) rfl
      (fun _ h => mem_setNoteStatus h) fun x => noteCount_setNoteStatus _ x _

theorem numberBooks_initial (places : OrderUpdates.Places) :
    (System.initial places).db.NumberBooks env :=
  ⟨fun _ hq => (List.not_mem_nil hq).elim,fun _ hi => (List.not_mem_nil hi).elim,
    fun _ hn => (List.not_mem_nil hn).elim⟩

theorem BillingDb.NumberBooks.fresh (h : db.NumberBooks env) {phase : Phase}
    (hknown : phase.Known env db) (hmeets : Numbering env db gen phase) :
    db.numberTaken phase=false := by
  by_contra htaken
  rw [Bool.not_eq_false] at htaken
  cases phase with
  | insertInvoice d =>
    simp only [BillingDb.numberTaken,Bool.and_eq_true,decide_eq_true_eq] at htaken
    obtain ⟨i,hi,hboth⟩ := List.any_eq_true.mp htaken.2
    simp only [Bool.and_eq_true,decide_eq_true_eq] at hboth
    exact h.fresh_invoice hknown hmeets htaken.1 ⟨i,hi,hboth⟩
  | insertNote d =>
    simp only [BillingDb.numberTaken,Bool.and_eq_true,decide_eq_true_eq] at htaken
    obtain ⟨n,hn,hboth⟩ := List.any_eq_true.mp htaken.2
    simp only [Bool.and_eq_true,decide_eq_true_eq] at hboth
    exact h.fresh_note hknown hmeets htaken.1 ⟨n,hn,hboth⟩
  | _ => cases htaken

/-- In a run that numbers as it should, no automatic number is one that its client has when it is
stored. -/
theorem document_numbers (places : OrderUpdates.Places) (as : List Action)
    (hmeets : (System.initial places).RunMeets env (Numbering env) as) :
    ∀ bs i gen cs c, as=bs++.advance i gen::cs →
      (System.run env (System.initial places) bs).call i=some c →
      (System.run env (System.initial places) bs).db.numberTaken c.phase=false := by
  intro bs i gen cs c hsplit hc
  subst hsplit
  obtain ⟨hbs,hstep,_⟩ := runMeets_append.mp hmeets
  have hknown := known_initial env places
  have hbooks : (System.run env (System.initial places) bs).db.NumberBooks env :=
    run_invariant (fun _ _ h => h.numberBooks) (fun _ _ _ _ h => h.numberBooks) bs hknown
      (numberBooks_initial places) hbs
  exact hbooks.fresh (known_run bs hknown i c hc) (hstep c hc)

/-- One automatic invoice, with an automatic credit note. -/
def demoNumbered : List Action :=
  demoClient::(demoCall 1 (someUuid '3' OrderUpdates.isHex_three) 3 (demoEvent "E-1".toList 2)++
    (demoCall 2 (someUuid '4' OrderUpdates.isHex_four) 5 (demoInvoice none)++
      demoCall 3 (someUuid '5' OrderUpdates.isHex_five) 6
        (.createBillingCreditNote "ACME".toList "ACME-2026-000001".toList {})))

theorem document_numbers_demo :
    (System.run demoEnv (System.initial demoPlaces) demoNumbered).db.notes.rows≠[] ∧
    ∀ bs i gen cs c, demoNumbered=bs++.advance i gen::cs →
      (System.run demoEnv (System.initial demoPlaces) bs).call i=some c →
      (System.run demoEnv (System.initial demoPlaces) bs).db.numberTaken c.phase=false := by
  have hcurrent : (System.initial demoPlaces).RunMeets demoEnv
      (fun db _ phase => db.isCurrent demoEnv phase=true) demoNumbered := by decide +kernel
  refine ⟨by decide +kernel,?_⟩
  exact document_numbers demoPlaces demoNumbered
    (runMeets_mono (fun _ _ _ h => .inl h) demoNumbered hcurrent)

def twoWarehouses : OrderUpdates.Places :=
  ⟨[OrderUpdates.mainWarehouse,⟨someUuid '9' OrderUpdates.isHex_nine,"EAST".toList⟩],[],[]⟩

/-- Each warehouse has an event to invoice, the first one invoices it, and the second one has its
number. -/
def demoSecondSeries : List Action :=
  demoClient::(demoCall 1 (someUuid '3' OrderUpdates.isHex_three) 3 (demoEvent "E-1".toList 2)++
    (demoCallAt "EAST".toList 2 (someUuid '4' OrderUpdates.isHex_four) 3 (demoEvent "E-2".toList 2)++
      (demoCall 3 (someUuid '5' OrderUpdates.isHex_five) 5 (demoInvoice none)++
        demoCallAt "EAST".toList 4 (someUuid '6' OrderUpdates.isHex_six) 4 (demoInvoice none))))

/-- Both warehouses number their first invoice of the client alike. -/
theorem series_repeated : ¬∀ env places as bs i gen cs c, as=bs++Action.advance i gen::cs →
    (System.run env (System.initial places) bs).call i=some c →
    (System.run env (System.initial places) bs).db.numberTaken c.phase=false := by
  intro h
  have htaken : ((System.run demoEnv (System.initial twoWarehouses) demoSecondSeries).call 4).any
      (fun c => (System.run demoEnv (System.initial twoWarehouses) demoSecondSeries).db.numberTaken
        c.phase)=true := by decide +kernel
  obtain ⟨c,hc,hc'⟩ := (Option.any_eq_true _ _).mp htaken
  have hfresh := h demoEnv twoWarehouses _ demoSecondSeries 4 (fun _ => someUuid '6' OrderUpdates.isHex_six) [] c
    rfl hc
  rw [hc'] at hfresh
  cases hfresh

end Runs
end AardvarkWms.Billing
