import AardvarkWms.Billing

/-! The billing calls, statement by statement. A transaction's writes take effect where it commits;
what it reads before, and what a call reads before its transaction, may be old by then. -/
namespace AardvarkWms.Billing

open Messaging (Str)
open OrderUpdates (Uuid)

inductive Request
  | createBillingEvent (client : Str) (dto : CreateBillingEventDto)
  | generateBillingEvents (client : Str) (dto : GenerateBillingEventsDto)
  | generateStorageDayBilling (client : Str) (dto : GenerateStorageBillingDto)
  | voidBillingEvent (event : Str)
  | createBillingInvoice (client : Str) (dto : CreateBillingInvoiceDto)
  | finalizeBillingInvoice (client invoice : Str)
  | voidBillingInvoice (client invoice : Str)
  | createBillingCreditNote (client invoice : Str) (dto : CreateBillingCreditNoteDto)
  | finalizeBillingCreditNote (client creditNote : Str)
  deriving DecidableEq

/-- Where an invoice number comes from: the request, or the sequence as it was read. -/
inductive Allocation
  | requested
  | first (q : InvoiceNumberSequence)
  | next (read : InvoiceNumberSequence)
  deriving DecidableEq

structure InvoiceDraft where
  warehouseId : Uuid
  client : WmsClient
  period : ℤ × ℤ
  events : List BillingEvent
  invoiceNumber : Str
  allocation : Allocation
  vatRateBps : Option ℕ
  finalize : Bool
  deriving DecidableEq

/-- `sequence` is there where the number is automatic. -/
structure CreditDraft where
  invoice : BillingInvoice
  lines : List BillingInvoiceLine
  creditNoteNumber : Str
  sequence : Option ℕ
  finalize : Bool
  deriving DecidableEq

inductive Answer
  | events (es : List BillingEvent)
  | dryRun (us : List EventUpsert)
  | invoice (i : BillingInvoice)
  | creditNote (n : BillingCreditNote)
  deriving DecidableEq

inductive Phase
  | warehouse
  | client (w : Uuid)
  | upsert (u : EventUpsert)
  | upserts (us : List EventUpsert)
  | links (w : Uuid) (c : WmsClient) (period : ℤ × ℤ)
  | quants (w : Uuid) (c : WmsClient) (period : ℤ × ℤ) (ids : List Str)
  | rate (w : Uuid) (c : WmsClient) (period : ℤ × ℤ) (quants : List StockQuant)
  | event (w : Uuid)
  | voidEvent (read : BillingEvent)
  | events (w : Uuid) (c : WmsClient) (period : ℤ × ℤ)
  | sequence (w : Uuid) (c : WmsClient) (period : ℤ × ℤ) (events : List BillingEvent)
  | insertInvoice (d : InvoiceDraft)
  | invoice (w : Uuid) (c : WmsClient)
  | lines (c : WmsClient) (invoice : BillingInvoice)
  | finalizeInvoice (invoice : BillingInvoice) (eventIds : List Uuid)
  | release (invoice : BillingInvoice) (eventIds : List Uuid)
  | voidInvoice (invoice : BillingInvoice) (eventIds released : List Uuid)
  | count (invoice : BillingInvoice) (lines : List BillingInvoiceLine)
  | insertNote (d : CreditDraft)
  | note (w : Uuid) (c : WmsClient)
  | finalizeNote (note : BillingCreditNote)
  | ended (r : Except BillingError Answer)

structure Call where
  warehouseReference : Str
  request : Request
  phase : Phase

def Request.client : Request → Str
  | .createBillingEvent client _ | .generateBillingEvents client _
  | .generateStorageDayBilling client _ | .createBillingInvoice client _
  | .finalizeBillingInvoice client _ | .voidBillingInvoice client _
  | .createBillingCreditNote client _ _ | .finalizeBillingCreditNote client _ => client
  | .voidBillingEvent _ => []

/-- The invoice or credit note that a request names. -/
def Request.document : Request → Str
  | .finalizeBillingInvoice _ invoice | .voidBillingInvoice _ invoice
  | .createBillingCreditNote _ invoice _ => invoice
  | .finalizeBillingCreditNote _ creditNote => creditNote
  | _ => []

section Reads
variable (env : Env) (db : BillingDb)

def resolveClient (reference : Str) : Except BillingError WmsClient :=
  (db.clients.rows.find? fun c => OrderUpdates.Runtime.referenceWhere (normalizeClientCode env reference)
    reference c.id c.code).elim (throw (.notFound "Client was not found.")) pure

def resolveInvoice (w c : Uuid) (reference : Str) : Except BillingError BillingInvoice :=
  (db.invoices.rows.find? fun i => i.warehouseId=w && i.clientId=c &&
    OrderUpdates.Runtime.referenceWhere (env.runtime.normalizeReference reference) reference i.id
      i.invoiceNumber).elim (throw (.notFound "Billing invoice was not found.")) pure

def resolveCreditNote (w c : Uuid) (reference : Str) : Except BillingError BillingCreditNote :=
  (db.notes.rows.find? fun n => n.warehouseId=w && n.clientId=c &&
    OrderUpdates.Runtime.referenceWhere (env.runtime.normalizeReference reference) reference n.id
      n.creditNoteNumber).elim (throw (.notFound "Billing credit note was not found.")) pure

def linesOf (invoiceId : Uuid) : List BillingInvoiceLine :=
  (db.lines.rows.filter (·.invoiceId=invoiceId)).insertionSort fun a b => a.lineNumber≤b.lineNumber

/-- The rate of the newest card that holds then. -/
def resolveActiveClientRate (w c : Uuid) (eventType : Str) (at' : ℤ) : Option (ℕ × Str) := do
  let card ← ((db.cards.filter fun k => k.warehouseId=w && k.clientId=c && k.isActive &&
    k.validFrom≤at' && k.validTo.all (at' < ·) && k.rates.any (·.eventType=eventType)).insertionSort
      fun a b => b.validFrom < a.validFrom ∨ b.validFrom=a.validFrom ∧ b.createdAt≤a.createdAt).head?
  let rate ← ((card.rates.filter (·.eventType=eventType)).insertionSort
    fun a b => env.collates a.unit b.unit).head?
  pure (rate.unitPriceMinor,card.currency)

/-- The events that an invoice of the period is made from. -/
def invoiceEvents (w c : Uuid) (statuses : List BillingEventStatus) (period : ℤ × ℤ) :
    List BillingEvent :=
  db.events.rows.filter fun e => e.warehouseId=w && e.clientId=c && decide (e.status∈statuses) &&
    period.1≤e.occurredAt && e.occurredAt < period.2 &&
    db.lines.rows.all (·.billingEventId≠some e.id)

/-- A number that the request names. -/
def requestedNumber (value : Option Str) : Option Str :=
  (value.map env.runtime.normalizeReference).filter (·≠[])

/-- `allocateInvoiceNumber`: the number, and what happens to its sequence. -/
def allocateInvoiceNumber (w : Uuid) (c : WmsClient) (periodStart : ℤ) : Str × Allocation :=
  let year := getUTCFullYear periodStart
  let prefixText := env.runtime.normalizeReference c.code
  match db.sequences.get? (w,c.id,year,prefixText) with
  | none => (makeSequentialInvoiceNumber env prefixText year 1,.first ⟨w,c.id,year,prefixText,2⟩)
  | some q => (makeSequentialInvoiceNumber env q.prefixText q.year q.nextNumber,.next q)

/-- The ids of the events that lines are of, each once. -/
def billingEventIds (lines : List BillingInvoiceLine) : List Uuid :=
  (lines.filterMap (·.billingEventId)).dedup

end Reads

section Writes
variable (env : Env) (db : BillingDb)

def setStatus (events : Table BillingEvent.id) (ids : List Uuid) (old : Option BillingEventStatus)
    (status : BillingEventStatus) : Table BillingEvent.id :=
  events.modifyWhere (fun e => e.id∈ids && old.all (e.status=·)) (fun e => {e with status})
    fun _ => rfl

def setInvoiceStatus (invoices : Table BillingInvoice.id) (id : Uuid)
    (status : BillingInvoiceStatus) : Table BillingInvoice.id :=
  invoices.modify id (fun i => {i with status}) fun _ => rfl

def setNoteStatus (notes : Table BillingCreditNote.id) (id : Uuid)
    (status : BillingCreditNoteStatus) : Table BillingCreditNote.id :=
  notes.modify id (fun n => {n with status}) fun _ => rfl

def InvoiceDraft.invoice (d : InvoiceDraft) (id : Uuid) (lines : List BillingInvoiceLine) :
    BillingInvoice :=
  ⟨id,d.client.id,d.warehouseId,d.invoiceNumber,if d.finalize then .FINALIZED else .DRAFT,d.period.1,
    d.period.2,(lines.head?.map (·.currency)).getD "EUR".toList,(lines.map (·.netAmountMinor)).sum,
    (lines.map (·.taxAmountMinor)).sum,(lines.map (·.grossAmountMinor)).sum⟩

def advanceSequence (sequences : Table InvoiceNumberSequence.key) :
    Allocation → Except BillingError (Table InvoiceNumberSequence.key)
  | .requested => pure sequences
  | .first q => if sequences.get? q.key≠none then throw .uniqueViolation else pure (sequences.insert q)
  | .next read => pure (sequences.modify read.key (fun q => {q with nextNumber := q.nextNumber+1})
      fun _ => rfl)

/-- The lines of a new invoice, whose events have none yet. -/
def insertLines (lines : Table BillingInvoiceLine.key) :
    List BillingInvoiceLine → Except BillingError (Table BillingInvoiceLine.key)
  | [] => pure lines
  | l::ls =>
    if lines.get? l.key≠none ∨ lines.rows.any (fun k => k.billingEventId≠none &&
        k.billingEventId=l.billingEventId) then throw .uniqueViolation
    else insertLines (lines.insert l) ls

/-- What the transaction of `createBillingInvoice` leaves. -/
def storeInvoice (d : InvoiceDraft) (id : Uuid) : Except BillingError (BillingDb × BillingInvoice) := do
  let drafts := buildInvoiceLines env id d.vatRateBps d.events
  let invoice := d.invoice id drafts
  let sequences ← advanceSequence db.sequences d.allocation
  if !(fitsInt invoice.subtotalMinor && fitsInt invoice.taxTotalMinor &&
      fitsInt invoice.totalAmountMinor) then throw .outOfRange
  else if db.invoices.get? id≠none ∨ db.invoices.rows.any (fun i => i.clientId=invoice.clientId &&
      i.invoiceNumber=invoice.invoiceNumber) then throw .uniqueViolation
  else do
    let lines ← insertLines db.lines drafts
    let events := if d.finalize then setStatus db.events (d.events.map (·.id)) none .INVOICED
      else db.events
    pure ({db with sequences, lines, events, invoices := db.invoices.insert invoice},invoice)

def CreditDraft.note (d : CreditDraft) (id : Uuid) (lines : List BillingCreditNoteLine) :
    BillingCreditNote :=
  ⟨id,d.invoice.clientId,d.invoice.warehouseId,d.invoice.id,d.creditNoteNumber,
    if d.finalize then .FINALIZED else .DRAFT,(lines.head?.map (·.currency)).getD "EUR".toList,
    (lines.map (·.netAmountMinor)).sum,(lines.map (·.taxAmountMinor)).sum,
    (lines.map (·.grossAmountMinor)).sum⟩

/-- What the transaction of `createBillingCreditNote` leaves. -/
def storeNote (d : CreditDraft) (id : Uuid) : Except BillingError (BillingDb × BillingCreditNote) :=
  let lines := buildCreditNoteLines id d.lines
  let note := d.note id lines
  if !(fitsInt note.subtotalMinor && fitsInt note.taxTotalMinor && fitsInt note.totalAmountMinor) then
    throw .outOfRange
  else if db.notes.get? id≠none ∨ db.notes.rows.any (fun n => n.clientId=note.clientId &&
      n.creditNoteNumber=note.creditNoteNumber) then throw .uniqueViolation
  else pure ({db with notes := db.notes.insert note, noteLines := db.noteLines++lines},note)

end Writes

section Advance
variable (env : Env) (now : ℤ) (gen : ℕ → Uuid) (db : BillingDb)

def afterClient (request : Request) (w : Uuid) (c : WmsClient) : Except BillingError Phase :=
  match request with
  | .createBillingEvent _ dto => do
    let u ← normalizeBillingEventInput env c w now dto
    pure (.upsert u)
  | .generateBillingEvents _ dto => do
    let us ← buildBillingEventsFromCounters env c w now dto
    pure (if dto.dryRun then .ended (.ok (.dryRun us)) else .upserts us)
  | .generateStorageDayBilling _ dto => do
    let period ← normalizeBillingPeriod env dto.periodStart dto.periodEnd
    pure (.links w c period)
  | .createBillingInvoice _ dto => do
    let period ← normalizeBillingPeriod env dto.periodStart dto.periodEnd
    pure (.events w c period)
  | .finalizeBillingCreditNote _ _ => pure (.note w c)
  | _ => pure (.invoice w c)

/-- The price is known: what is to be stored, or only shown. -/
def toStorageUpserts (dto : GenerateStorageBillingDto) (w : Uuid) (c : WmsClient) (period : ℤ × ℤ)
    (quants : List StockQuant) (unitPriceMinor : ℕ) (currency : Str) : Phase :=
  let us := buildStorageDayBillingEvents env c w (normalizeCurrency env dto.currency currency)
    period.1 period.2 unitPriceMinor quants
  if dto.dryRun then .ended (.ok (.dryRun us)) else .upserts us

def afterLines (request : Request) (invoice : BillingInvoice) (lines : List BillingInvoiceLine) :
    Except BillingError Phase :=
  match request with
  | .finalizeBillingInvoice _ _ =>
    if invoice.status≠.DRAFT then throw (.conflict "Only draft invoices can be finalized.")
    else pure (.finalizeInvoice invoice (billingEventIds lines))
  | .voidBillingInvoice _ _ =>
    if invoice.status=.VOIDED then pure (.ended (.ok (.invoice invoice)))
    else if billingEventIds lines=[] then pure (.voidInvoice invoice [] [])
    else pure (.release invoice (billingEventIds lines))
  | .createBillingCreditNote _ _ dto =>
    if invoice.status≠.FINALIZED then
      throw (.conflict "Credit notes can only be created for finalized invoices.")
    else if creditedLines dto.invoiceLineNumbers lines=[] then
      throw (.conflict "Credit note must reference at least one invoice line.")
    else pure (.count invoice (creditedLines dto.invoiceLineNumbers lines))
  | _ => pure (.ended (.ok (.invoice invoice)))

/-- What the transaction of `voidBillingInvoice` leaves. -/
def storeVoid (invoice : BillingInvoice) (eventIds released : List Uuid) : BillingDb :=
  {db with
    events := setStatus db.events released (some .INVOICED) .BILLABLE
    lines := db.lines.modifyWhere
      (fun l => l.invoiceId=invoice.id && l.billingEventId.any (·∈eventIds))
      (fun l => {l with billingEventId := none}) fun _ => rfl
    invoices := setInvoiceStatus db.invoices invoice.id .VOIDED}

/-- One statement of a call, or the commit of its transaction: what it leaves and what comes next, or
the error that ends the call. -/
def advance (c : Call) : Except BillingError (BillingDb × Phase) :=
  match c.phase, c.request with
  | .warehouse, request => do
    let warehouse ← (env.runtime.resolveWarehouse db.places c.warehouseReference).mapError .service
    pure (db,match request with
      | .voidBillingEvent _ => .event warehouse.id
      | _ => .client warehouse.id)
  | .client w, request => do
    let client ← resolveClient env db request.client
    let next ← afterClient env now request w client
    pure (db,next)
  | .upsert u, _ => do
    let (events,row) ← upsertEvent db.events (gen 0) u
    pure ({db with events},.ended (.ok (.events [row])))
  | .upserts us, _ => do
    let (events,rows) ← upsertEvents db.events gen us
    pure ({db with events},.ended (.ok (.events rows)))
  | .links w client period, _ =>
    let ids := (db.links.filter fun l => l.warehouseId=w && l.clientId=client.id).map (·.resourceId)
    pure (db,if ids=[] then .ended (.ok (.events [])) else .quants w client period ids)
  | .quants w client period ids, .generateStorageDayBilling _ dto =>
    if ids.any fun id => !env.readsUuid id then throw (.failure "Error creating UUID")
    else
      let quants := (db.quants.filter fun q => q.warehouseId=w && ids.any q.id.isCalled &&
        0 < q.quantity).insertionSort fun a b => a.createdAt≤b.createdAt
      match dto.unitPriceMinorPerUnitDay with
      | some price =>
        pure (db,toStorageUpserts env dto w client period quants price client.billingCurrency)
      | none => pure (db,.rate w client period quants)
  | .rate w client period quants, .generateStorageDayBilling _ dto =>
    match resolveActiveClientRate env db w client.id "STORAGE_DAY".toList period.1 with
    | none => throw (.conflict ("unitPriceMinorPerUnitDay is required when no active STORAGE_DAY "++
        "rate card exists."))
    | some (price,currency) =>
      pure (db,toStorageUpserts env dto w client period quants price currency)
  | .event w, .voidBillingEvent reference =>
    if !env.readsUuid reference then throw (.failure "Error creating UUID")
    else match db.events.rows.find? fun e => e.warehouseId=w &&
        (e.id.isCalled reference || e.reference=reference) with
      | none => throw (.notFound "Billing event was not found.")
      | some e =>
        if e.status=.INVOICED then throw (.conflict "Invoiced billing events cannot be voided.")
        else pure (db,.voidEvent e)
  | .voidEvent read, _ =>
    pure ({db with events := setStatus db.events [read.id] none .VOIDED},
      .ended (.ok (.events ((db.events.get? read.id).toList.map fun e => {e with status := .VOIDED}))))
  | .events w client period, .createBillingInvoice _ dto =>
    let events := invoiceEvents db w client.id (invoiceEventStatusFilter dto.eventStatuses) period
    if events=[] then
      throw (.conflict "No billable events were found for this invoice period.")
    else match requestedNumber env dto.invoiceNumber with
      | some number => pure (db,.insertInvoice
          ⟨w,client,period,events,number,.requested,dto.vatRateBps,dto.finalize⟩)
      | none => pure (db,.sequence w client period events)
  | .sequence w client period events, .createBillingInvoice _ dto =>
    let (number,allocation) := allocateInvoiceNumber env db w client period.1
    pure (db,.insertInvoice ⟨w,client,period,events,number,allocation,dto.vatRateBps,dto.finalize⟩)
  | .insertInvoice d, _ => do
    let (db,invoice) ← storeInvoice env db d (gen 0)
    pure (db,.ended (.ok (.invoice invoice)))
  | .invoice w client, request => do
    let invoice ← resolveInvoice env db w client.id request.document
    pure (db,.lines client invoice)
  | .lines _ invoice, request => do
    let next ← afterLines request invoice (linesOf db invoice.id)
    pure (db,next)
  | .finalizeInvoice invoice eventIds, _ =>
    pure ({db with
        invoices := setInvoiceStatus db.invoices invoice.id .FINALIZED
        events := setStatus db.events eventIds none .INVOICED},
      .ended (.ok (.invoice {invoice with status := .FINALIZED})))
  | .release invoice eventIds, _ =>
    pure (db,.voidInvoice invoice eventIds
      ((db.events.rows.filter fun e => decide (e.id∈eventIds) && e.status=.INVOICED).map (·.id)))
  | .voidInvoice invoice eventIds released, _ =>
    pure (storeVoid db invoice eventIds released,.ended (.ok (.invoice {invoice with status := .VOIDED})))
  | .count invoice lines, .createBillingCreditNote _ _ dto =>
    let sequence := (db.notes.rows.filter fun n => n.invoiceId=invoice.id).length+1
    match requestedNumber env dto.creditNoteNumber with
    | some number => pure (db,.insertNote ⟨invoice,lines,number,none,dto.finalize⟩)
    | none => pure (db,.insertNote ⟨invoice,lines,
        makeCreditNoteNumber env invoice.invoiceNumber sequence,some sequence,dto.finalize⟩)
  | .insertNote d, _ => do
    let (db,note) ← storeNote db d (gen 0)
    pure (db,.ended (.ok (.creditNote note)))
  | .note w client, request => do
    let note ← resolveCreditNote env db w client.id request.document
    if note.status≠.DRAFT then throw (.conflict "Only draft credit notes can be finalized.")
    else pure (db,.finalizeNote note)
  | .finalizeNote note, _ =>
    pure ({db with notes := setNoteStatus db.notes note.id .FINALIZED},
      .ended (.ok (.creditNote {note with status := .FINALIZED})))
  | phase, _ => pure (db,phase)

end Advance

structure System where
  db : BillingDb
  now : ℤ
  call : ℕ → Option Call

inductive Action
  | start (i : ℕ) (warehouseReference : Str) (request : Request)
  | advance (i : ℕ) (gen : ℕ → Uuid)
  | tick (milliseconds : ℕ)
  | createClient (id : Uuid) (code currency : Str)
  | stock (links : List StockLink) (quants : List StockQuant) (cards : List ClientRateCard)

/-- `createClient`: an upsert by the code, which stays. -/
def upsertClient (clients : Table WmsClient.id) (id : Uuid) (code billingCurrency : Str) :
    Table WmsClient.id :=
  if clients.rows.any (·.code=code) then
    clients.modifyWhere (·.code=code) (fun c => {c with billingCurrency}) fun _ => rfl
  else clients.insert ⟨id,code,billingCurrency⟩

def createClient (env : Env) (db : BillingDb) (id : Uuid) (code currency : Str) : BillingDb :=
  let code := normalizeClientCode env code
  let currency := normalizeCurrency env (some currency) "EUR".toList
  if code=[] then db
  else {db with clients := upsertClient db.clients id code currency}

namespace System

def initial (places : OrderUpdates.Places) : System :=
  ⟨⟨places,.empty,[],[],[],.empty,.empty,.empty,.empty,.empty,[]⟩,0,fun _ => none⟩

def put (s : System) (db : BillingDb) (i : ℕ) (c : Call) : System :=
  ⟨db,s.now,Function.update s.call i (some c)⟩

def act (env : Env) (s : System) : Action → System
  | .start i warehouseReference request =>
    match s.call i with
    | some _ => s
    | none => s.put s.db i ⟨warehouseReference,request,.warehouse⟩
  | .advance i gen =>
    match s.call i with
    | none => s
    | some c =>
      match Billing.advance env s.now gen s.db c with
      | .error e => s.put s.db i {c with phase := .ended (.error e)}
      | .ok (db,phase) => s.put db i {c with phase}
  | .tick milliseconds => {s with now := s.now+milliseconds}
  | .createClient id code currency => {s with db := createClient env s.db id code currency}
  | .stock links quants cards => {s with db := {s.db with links, quants, cards}}

def run (env : Env) (s : System) (as : List Action) : System := as.foldl (act env) s

end System
end AardvarkWms.Billing
