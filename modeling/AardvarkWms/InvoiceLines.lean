import AardvarkWms.BillingWrites

/-! The lines of a new invoice, and its totals. -/
namespace AardvarkWms.Billing

open OrderUpdates (Uuid someUuid)

def BillingInvoice.totals (i : BillingInvoice) : ℕ × ℕ × ℕ :=
  (i.subtotalMinor,i.taxTotalMinor,i.totalAmountMinor)

/-- An invoice and its lines account for the events that it was made from. -/
structure InvoiceDraft.Accounted (env : Env) (d : InvoiceDraft) (id : Uuid) (invoice : BillingInvoice)
    (ls : List BillingInvoiceLine) : Prop where
  perEvent : (ls.map (·.billingEventId)).Perm (d.events.map fun e => some e.id)
  numbered : ls.map (·.lineNumber)=List.range' 1 ls.length
  taxed : ∀ l∈ls, l.grossAmountMinor=l.netAmountMinor+l.taxAmountMinor
  adds : invoice.subtotalMinor+invoice.taxTotalMinor=invoice.totalAmountMinor
  anyOrder : ∀ events, events.Perm d.events →
    (d.invoice id (buildInvoiceLines env id d.vatRateBps events)).totals=invoice.totals
  oneCurrency : invoice.totalAmountMinor=
    ((ls.filter (·.currency=invoice.currency)).map (·.grossAmountMinor)).sum

/-- Every event that costs anything is in the currency of the event that comes first. -/
def FirstCurrency (env : Env) (events : List BillingEvent) : Prop :=
  ∀ first∈(sortedEvents env events).head?, ∀ e∈events, 0 < e.amountMinor → e.currency=first.currency

section Lines
variable (env : Env) (id : Uuid) (vat : Option ℕ) (events : List BillingEvent)

theorem sortedEvents_perm : (sortedEvents env events).Perm events :=
  (List.perm_insertionSort _ _).trans (List.perm_insertionSort _ _)

theorem map_buildInvoiceLines {β : Type} {f : BillingInvoiceLine → β} {g : BillingEvent → β}
    (h : ∀ n e, f (invoiceLine id vat n e)=g e) :
    (buildInvoiceLines env id vat events).map f=(sortedEvents env events).map g := by
  have hfun : f∘(fun x : BillingEvent × ℕ => invoiceLine id vat (x.2+1) x.1)=g∘Prod.fst := by
    funext x
    exact h (x.2+1) x.1
  unfold buildInvoiceLines
  rw [List.map_map,hfun,← List.map_map,List.zipIdx_map_fst]

theorem buildInvoiceLines_perm {β : Type} {f : BillingInvoiceLine → β} {g : BillingEvent → β}
    (h : ∀ n e, f (invoiceLine id vat n e)=g e) :
    ((buildInvoiceLines env id vat events).map f).Perm (events.map g) := by
  rw [map_buildInvoiceLines env id vat events h]
  exact (sortedEvents_perm env events).map g

theorem buildInvoiceLines_sum {f : BillingInvoiceLine → ℕ} {g : BillingEvent → ℕ}
    (h : ∀ n e, f (invoiceLine id vat n e)=g e) :
    ((buildInvoiceLines env id vat events).map f).sum=(events.map g).sum :=
  (buildInvoiceLines_perm env id vat events h).sum_eq

theorem buildInvoiceLines_numbers :
    (buildInvoiceLines env id vat events).map (·.lineNumber)=
      List.range' 1 (buildInvoiceLines env id vat events).length := by
  have hfun : (·.lineNumber)∘(fun x : BillingEvent × ℕ => invoiceLine id vat (x.2+1) x.1)=
      (1+·)∘Prod.snd := by
    funext x
    exact Nat.add_comm x.2 1
  unfold buildInvoiceLines
  rw [List.map_map,hfun,← List.map_map,List.zipIdx_map_snd,List.length_map,List.length_zipIdx,
    List.map_add_range']

theorem buildInvoiceLines_taxed {l : BillingInvoiceLine}
    (h : l∈buildInvoiceLines env id vat events) :
    l.grossAmountMinor=l.netAmountMinor+l.taxAmountMinor := by
  obtain ⟨e,_,n,rfl⟩ := mem_buildInvoiceLines h
  rfl

end Lines

section Totals
variable (env : Env) (d : InvoiceDraft) (id : Uuid)

/-- What an event adds to the total. -/
def grossAmount (vat : Option ℕ) (e : BillingEvent) : ℕ := (calculateTaxAmounts e.amountMinor vat).2.2.2

theorem grossAmount_eq_zero (vat : Option ℕ) (e : BillingEvent) :
    grossAmount vat e=0 ↔ e.amountMinor=0 := by
  unfold grossAmount calculateTaxAmounts
  constructor
  · intro h
    exact Nat.eq_zero_of_add_eq_zero_right h
  · intro h
    cases vat <;> simp [h]

theorem sum_add_map {α : Type} (f g : α → ℕ) (xs : List α) :
    (xs.map f).sum+(xs.map g).sum=(xs.map fun x => f x+g x).sum := by
  induction xs with
  | nil => rfl
  | cons x xs ih =>
    simp only [List.map_cons,List.sum_cons,← ih]
    omega

theorem sum_eq_sum_filter_iff {α : Type} (f : α → ℕ) (p : α → Bool) (xs : List α) :
    (xs.map f).sum=((xs.filter p).map f).sum ↔ ∀ x∈xs, p x=false → f x=0 := by
  induction xs with
  | nil => simp
  | cons x xs ih =>
    have hle : ((xs.filter p).map f).sum≤(xs.map f).sum :=
      (List.filter_sublist.map f).sum_le_sum fun _ _ => Nat.zero_le _
    rw [List.forall_mem_cons,← ih]
    cases hp : p x with
    | true => simp [hp]
    | false =>
      simp only [hp,List.filter_cons,List.map_cons,List.sum_cons,forall_const,Bool.false_eq_true,
        if_false]
      omega

theorem invoice_totals (events : List BillingEvent) :
    (d.invoice id (buildInvoiceLines env id d.vatRateBps events)).totals=
      ((events.map (·.amountMinor)).sum,
        (events.map fun e => (calculateTaxAmounts e.amountMinor d.vatRateBps).2.2.1).sum,
        (events.map (grossAmount d.vatRateBps)).sum) := by
  have hnet := buildInvoiceLines_sum env id d.vatRateBps events
    (f := (·.netAmountMinor)) (g := (·.amountMinor)) fun _ _ => rfl
  have htax := buildInvoiceLines_sum env id d.vatRateBps events
    (f := (·.taxAmountMinor)) (g := fun e => (calculateTaxAmounts e.amountMinor d.vatRateBps).2.2.1)
    fun _ _ => rfl
  have hgross := buildInvoiceLines_sum env id d.vatRateBps events
    (f := (·.grossAmountMinor)) (g := grossAmount d.vatRateBps) fun _ _ => rfl
  rw [← hnet,← htax,← hgross]
  rfl

theorem invoice_currency (first : BillingEvent) (h : first∈(sortedEvents env d.events).head?) :
    (d.invoice id (buildInvoiceLines env id d.vatRateBps d.events)).currency=first.currency := by
  have hhead : ((buildInvoiceLines env id d.vatRateBps d.events).map (·.currency)).head?=
      some first.currency := by
    rw [map_buildInvoiceLines env id d.vatRateBps d.events (g := (·.currency)) fun _ _ => rfl,
      List.head?_map,h]
    rfl
  have hcurrency : (d.invoice id (buildInvoiceLines env id d.vatRateBps d.events)).currency=
      ((buildInvoiceLines env id d.vatRateBps d.events).head?.map (·.currency)).getD "EUR".toList := rfl
  rw [hcurrency,← List.head?_map,hhead]
  rfl

theorem oneCurrency_iff :
    (d.invoice id (buildInvoiceLines env id d.vatRateBps d.events)).totalAmountMinor=
      (((buildInvoiceLines env id d.vatRateBps d.events).filter (·.currency=
        (d.invoice id (buildInvoiceLines env id d.vatRateBps d.events)).currency)).map
          (·.grossAmountMinor)).sum ↔ FirstCurrency env d.events := by
  have hsum := sum_eq_sum_filter_iff (·.grossAmountMinor)
    (·.currency=(d.invoice id (buildInvoiceLines env id d.vatRateBps d.events)).currency)
    (buildInvoiceLines env id d.vatRateBps d.events)
  refine hsum.trans ?_
  constructor
  · intro h first hfirst e he hcosts
    by_contra hother
    have hmem : (e.currency,grossAmount d.vatRateBps e)∈
        (buildInvoiceLines env id d.vatRateBps d.events).map fun l => (l.currency,l.grossAmountMinor) :=
      (buildInvoiceLines_perm env id d.vatRateBps d.events
        (g := fun e => (e.currency,grossAmount d.vatRateBps e)) fun _ _ => rfl).mem_iff.mpr
          (List.mem_map_of_mem he)
    obtain ⟨l,hl,heq⟩ := List.mem_map.mp hmem
    obtain ⟨hcurrency,hgross⟩ := Prod.mk.inj heq
    rw [← invoice_currency env d id first hfirst,← hcurrency] at hother
    have hzero := h l hl (decide_eq_false hother)
    rw [hgross,grossAmount_eq_zero] at hzero
    omega
  · intro h l hl hother
    obtain ⟨e,he,n,rfl⟩ := mem_buildInvoiceLines hl
    have hcosts : ¬0 < e.amountMinor := by
      intro hpos
      cases hsorted : (sortedEvents env d.events).head? with
      | none =>
        rw [List.head?_eq_none_iff] at hsorted
        have hnone := (sortedEvents_perm env d.events).mem_iff.mpr he
        rw [hsorted] at hnone
        exact List.not_mem_nil hnone
      | some first =>
        have hcurrency := h first hsorted e he hpos
        rw [← invoice_currency env d id first hsorted] at hcurrency
        exact of_decide_eq_false hother hcurrency
    exact (grossAmount_eq_zero d.vatRateBps e).mpr (by omega)

end Totals

section Main
variable {env : Env} {db db' : BillingDb} {d : InvoiceDraft} {id : Uuid} {invoice : BillingInvoice}

/-- The lines that `createBillingInvoice` stores, and the totals of its invoice. -/
theorem storeInvoice_accounted_iff (h : storeInvoice env db d id=.ok (db',invoice)) :
    (∃ ls, db'.lines.rows=db.lines.rows++ls ∧ d.Accounted env id invoice ls) ↔
      FirstCurrency env d.events := by
  have hstored := storeInvoice_ok h
  have hinvoice := hstored.isInvoice
  have hrows := hstored.inserted.rows
  constructor
  · intro ⟨ls,hls,haccounted⟩
    rw [hrows] at hls
    have hsame := List.append_cancel_left hls
    have hcurrency := haccounted.oneCurrency
    rw [← hsame,hinvoice] at hcurrency
    exact (oneCurrency_iff env d id).mp hcurrency
  · intro hfirst
    refine ⟨_,hrows,?_,buildInvoiceLines_numbers _ _ _ _,?_,?_,?_,?_⟩
    · exact buildInvoiceLines_perm env id d.vatRateBps d.events fun _ _ => rfl
    · exact fun l hl => buildInvoiceLines_taxed env id d.vatRateBps d.events hl
    · have htotals := invoice_totals env d id d.events
      obtain ⟨hnet,hrest⟩ := Prod.mk.inj htotals
      obtain ⟨htax,hgross⟩ := Prod.mk.inj hrest
      rw [hinvoice,hnet,htax,hgross]
      exact sum_add_map _ _ _
    · intro events hperm
      rw [hinvoice,invoice_totals,invoice_totals,(hperm.map _).sum_eq,(hperm.map _).sum_eq,
        (hperm.map _).sum_eq]
    · rw [hinvoice]
      exact (oneCurrency_iff env d id).mpr hfirst

/-- The books of a client with an event of 10.00 in euros and one of 15.00 in `currency`. -/
def twoEvents (currency : String) : BillingDb :=
  (System.run demoEnv (System.initial demoPlaces) (demoClient::
    (demoCall 1 (someUuid '3' OrderUpdates.isHex_three) 3 (demoEvent "E-1".toList 2)++
      demoCall 2 (someUuid '4' OrderUpdates.isHex_four) 3 (.createBillingEvent "ACME".toList
        {eventType := .MANUAL
         status := some .BILLABLE
         reference := some "E-2".toList
         quantity := some 3
         unitPriceMinor := some 500
         currency := some currency.toList
         occurredAt := some "2026-01-15".toList})))).db

/-- The invoice of all that is billable, with a tax of 21 %. -/
def demoDraft (db : BillingDb) : InvoiceDraft where
  warehouseId := OrderUpdates.mainWarehouse.id
  client := ⟨someUuid '2' OrderUpdates.isHex_two,"ACME".toList,"EUR".toList⟩
  period := (1767225600000,1769904000000)
  events := invoiceEvents db OrderUpdates.mainWarehouse.id (someUuid '2' OrderUpdates.isHex_two)
    [.BILLABLE] (1767225600000,1769904000000)
  invoiceNumber := "INV-1".toList
  allocation := .requested
  vatRateBps := some 2100
  finalize := false

def demoStored (db : BillingDb) : BillingDb × BillingInvoice :=
  match storeInvoice demoEnv db (demoDraft db) (someUuid '5' OrderUpdates.isHex_five) with
  | .ok r => r
  | .error _ => (db,(demoDraft db).invoice (someUuid '5' OrderUpdates.isHex_five) [])

theorem invoice_accounted_demo :
    (∃ ls, (demoStored (twoEvents "EUR")).1.lines.rows=(twoEvents "EUR").lines.rows++ls ∧
      (demoDraft (twoEvents "EUR")).Accounted demoEnv (someUuid '5' OrderUpdates.isHex_five)
        (demoStored (twoEvents "EUR")).2 ls) ↔
      FirstCurrency demoEnv (demoDraft (twoEvents "EUR")).events :=
  storeInvoice_accounted_iff rfl

/-- Euros and crowns are added up, and the invoice says that all of it is in euros. -/
theorem mixed_currencies_invoiced : ¬∀ (env : Env) (db db' : BillingDb) (d : InvoiceDraft) (id : Uuid)
    (invoice : BillingInvoice), storeInvoice env db d id=.ok (db',invoice) →
    ∃ ls, db'.lines.rows=db.lines.rows++ls ∧ d.Accounted env id invoice ls := by
  intro h
  obtain ⟨ls,hls,haccounted⟩ := h demoEnv (twoEvents "CZK") (demoStored (twoEvents "CZK")).1
    (demoDraft (twoEvents "CZK")) (someUuid '5' OrderUpdates.isHex_five)
    (demoStored (twoEvents "CZK")).2 rfl
  have hsum := haccounted.oneCurrency
  have hempty : (twoEvents "CZK").lines.rows=[] := by decide +kernel
  rw [hempty,List.nil_append] at hls
  rw [← hls] at hsum
  have htotals : (demoStored (twoEvents "CZK")).2.totalAmountMinor=3025 ∧
      (((demoStored (twoEvents "CZK")).1.lines.rows.filter fun l =>
        decide (l.currency=(demoStored (twoEvents "CZK")).2.currency)).map
          (·.grossAmountMinor)).sum=1210 := by
    decide +kernel
  rw [htotals.1,htotals.2] at hsum
  omega

end Main

end AardvarkWms.Billing
