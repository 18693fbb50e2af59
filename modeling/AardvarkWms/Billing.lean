import AardvarkWms.OrderUpdates
import Mathlib.Data.List.Sort
import Mathlib.Data.Nat.Digits.Defs

/-! Billing of a client: events, invoices, credit notes and what is computed for them. -/
namespace AardvarkWms.Billing

open Messaging (Str trim)
open OrderUpdates (Uuid normalizeNullableString)

inductive BillingEventType
  | STORAGE_DAY | INBOUND_RECEIPT | OUTBOUND_ORDER | PICK | PACK | SHIP | CARRIER_LABEL
  | CYCLE_COUNT | REPLENISHMENT | MANUAL
  deriving DecidableEq

inductive BillingEventStatus
  | PENDING | BILLABLE | INVOICED | VOIDED
  deriving DecidableEq

inductive BillingInvoiceStatus
  | DRAFT | FINALIZED | VOIDED
  deriving DecidableEq

inductive BillingCreditNoteStatus
  | DRAFT | FINALIZED | VOIDED
  deriving DecidableEq

def BillingEventType.name : BillingEventType → Str
  | .STORAGE_DAY => "STORAGE_DAY".toList
  | .INBOUND_RECEIPT => "INBOUND_RECEIPT".toList
  | .OUTBOUND_ORDER => "OUTBOUND_ORDER".toList
  | .PICK => "PICK".toList
  | .PACK => "PACK".toList
  | .SHIP => "SHIP".toList
  | .CARRIER_LABEL => "CARRIER_LABEL".toList
  | .CYCLE_COUNT => "CYCLE_COUNT".toList
  | .REPLENISHMENT => "REPLENISHMENT".toList
  | .MANUAL => "MANUAL".toList

structure WmsClient where
  id : Uuid
  code : Str
  billingCurrency : Str
  deriving DecidableEq

/-- What the metadata of a storage event says. -/
structure StorageDays where
  stockQuantity : ℕ
  chargeableDays : ℕ
  periodStart : ℤ
  periodEnd : ℤ
  deriving DecidableEq

structure BillingEvent where
  id : Uuid
  clientId : Uuid
  warehouseId : Uuid
  eventType : BillingEventType
  status : BillingEventStatus
  reference : Str
  resourceType : Option Str
  resourceId : Option Str
  description : Option Str
  quantity : ℕ
  unitPriceMinor : ℕ
  amountMinor : ℕ
  currency : Str
  occurredAt : ℤ
  storage : Option StorageDays
  deriving DecidableEq

structure BillingInvoice where
  id : Uuid
  clientId : Uuid
  warehouseId : Uuid
  invoiceNumber : Str
  status : BillingInvoiceStatus
  periodStart : ℤ
  periodEnd : ℤ
  currency : Str
  subtotalMinor : ℕ
  taxTotalMinor : ℕ
  totalAmountMinor : ℕ
  deriving DecidableEq

/-- A line is known by its invoice and its number there. -/
structure BillingInvoiceLine where
  invoiceId : Uuid
  lineNumber : ℕ
  billingEventId : Option Uuid
  eventType : BillingEventType
  description : Str
  quantity : ℕ
  amountMinor : ℕ
  vatRateBps : Option ℕ
  netAmountMinor : ℕ
  taxAmountMinor : ℕ
  grossAmountMinor : ℕ
  currency : Str
  deriving DecidableEq

def BillingInvoiceLine.key (l : BillingInvoiceLine) : Uuid × ℕ := (l.invoiceId,l.lineNumber)

structure BillingCreditNote where
  id : Uuid
  clientId : Uuid
  warehouseId : Uuid
  invoiceId : Uuid
  creditNoteNumber : Str
  status : BillingCreditNoteStatus
  currency : Str
  subtotalMinor : ℕ
  taxTotalMinor : ℕ
  totalAmountMinor : ℕ
  deriving DecidableEq

structure BillingCreditNoteLine where
  creditNoteId : Uuid
  invoiceLineId : Uuid × ℕ
  lineNumber : ℕ
  eventType : BillingEventType
  description : Str
  quantity : ℕ
  amountMinor : ℕ
  vatRateBps : Option ℕ
  netAmountMinor : ℕ
  taxAmountMinor : ℕ
  grossAmountMinor : ℕ
  currency : Str
  deriving DecidableEq

structure InvoiceNumberSequence where
  warehouseId : Uuid
  clientId : Uuid
  year : ℤ
  prefixText : Str
  nextNumber : ℕ
  deriving DecidableEq

def InvoiceNumberSequence.key (q : InvoiceNumberSequence) : Uuid × Uuid × ℤ × Str :=
  (q.warehouseId,q.clientId,q.year,q.prefixText)

/-- A link of a client to a stock quant, by the text it is stored under. -/
structure StockLink where
  warehouseId : Uuid
  clientId : Uuid
  resourceId : Str
  deriving DecidableEq

structure StockQuant where
  id : Uuid
  warehouseId : Uuid
  skuCode : Str
  quantity : ℕ
  createdAt : ℤ
  deriving DecidableEq

structure ClientRate where
  eventType : Str
  unit : Str
  unitPriceMinor : ℕ
  deriving DecidableEq

structure ClientRateCard where
  warehouseId : Uuid
  clientId : Uuid
  isActive : Bool
  validFrom : ℤ
  validTo : Option ℤ
  currency : Str
  createdAt : ℤ
  rates : List ClientRate
  deriving DecidableEq

structure BillingDb where
  places : OrderUpdates.Places
  clients : Table WmsClient.id
  links : List StockLink
  quants : List StockQuant
  cards : List ClientRateCard
  events : Table BillingEvent.id
  invoices : Table BillingInvoice.id
  lines : Table BillingInvoiceLine.key
  sequences : Table InvoiceNumberSequence.key
  notes : Table BillingCreditNote.id
  noteLines : List BillingCreditNoteLine

inductive BillingError
  | service (e : OrderUpdates.ServiceError)
  | notFound (message : String)
  | conflict (message : String)
  | failure (message : String)
  | uniqueViolation
  | outOfRange
  deriving DecidableEq

/-- The language's upper case and dates, digests, orders of texts, and which texts the database
reads as a UUID. -/
structure Env where
  runtime : OrderUpdates.Runtime
  shortHash : Str → Str
  localeCompare : Str → Str → Bool
  collates : Str → Str → Bool
  readsUuid : Str → Bool

section Texts

def isAlnum (c : Char) : Bool :=
  ('0'≤c && c≤ '9') || ('a'≤c && c≤ 'z') || ('A'≤c && c≤ 'Z')

/-- Each run of other characters becomes one `by'`. -/
def replaceRuns (keep : Char → Bool) (by' : Char) (inRun : Bool) : Str → Str
  | [] => []
  | c::cs =>
    if keep c then c::replaceRuns keep by' false cs
    else if inRun then replaceRuns keep by' true cs
    else by'::replaceRuns keep by' true cs

theorem replaceRuns_mem {keep : Char → Bool} {by' : Char} {c : Char} (s : Str) : ∀ inRun,
    c∈replaceRuns keep by' inRun s → c=by' ∨ c∈s ∧ keep c=true := by
  induction s with
  | nil =>
    intro inRun hc
    cases hc
  | cons a s ih =>
    intro inRun hc
    have hlater : ∀ b, c∈replaceRuns keep by' b s → c=by' ∨ c∈a::s ∧ keep c=true :=
      fun b hb => (ih b hb).imp_right fun h => ⟨List.mem_cons_of_mem a h.1,h.2⟩
    unfold replaceRuns at hc
    by_cases ha : keep a=true
    · rw [if_pos ha] at hc
      cases List.mem_cons.mp hc with
      | inl hhead => exact Or.inr ⟨hhead ▸ List.mem_cons_self,hhead ▸ ha⟩
      | inr hrest => exact hlater _ hrest
    · rw [if_neg ha] at hc
      cases inRun with
      | true => exact hlater _ hc
      | false =>
        cases List.mem_cons.mp hc with
        | inl hhead => exact Or.inl hhead
        | inr hrest => exact hlater _ hrest

/-- Without the `c`s at both ends. -/
def strip (c : Char) (s : Str) : Str :=
  ((s.dropWhile (·=c)).reverse.dropWhile (·=c)).reverse

/-- A number in decimals. -/
def decimal (n : ℕ) : Str := if n=0 then ['0'] else ((Nat.digits 10 n).map Nat.digitChar).reverse

def padStart (width : ℕ) (s : Str) : Str := List.replicate (width-s.length) '0'++s

variable (env : Env)

def normalizeClientCode (value : Str) : Str :=
  env.runtime.toUpperCase (strip '_' (replaceRuns isAlnum '_' false (trim value)))

def normalizeOptionalResourceCode (value : Option Str) : Option Str :=
  (value.map (normalizeClientCode env)).filter (·≠[])

def isCurrency (s : Str) : Bool := s.length=3 && s.all fun c => 'A'≤c && c≤ 'Z'

def normalizeCurrency (value : Option Str) (fallback : Str) : Str :=
  let normalized := env.runtime.toUpperCase (trim (value.getD fallback))
  if isCurrency normalized then normalized else fallback

def normalizeBillingReference (value : Str) : Str :=
  env.runtime.toUpperCase ((replaceRuns (fun c => isAlnum c || c∈[':','_','-']) '-' false
    (trim value)).take 120)

def normalizeInvoiceToken (value : Str) : Str :=
  let token := (normalizeClientCode env value).take 32
  if token=[] then "CLIENT".toList else token

end Texts

def MS_PER_DAY : ℤ := 86400000

/-- Year, month and day of a day since the first of January 1970. -/
def civil (day : ℤ) : ℤ × ℤ × ℤ :=
  let z := day+719468
  let era := z/146097
  let doe := z-era*146097
  let yoe := (doe-doe/1460+doe/36524-doe/146096)/365
  let doy := doe-(365*yoe+yoe/4-yoe/100)
  let mp := (5*doy+2)/153
  let month := if mp < 10 then mp+3 else mp-9
  (yoe+era*400+(if month≤2 then 1 else 0),month,doy-(153*mp+2)/5+1)

def dayOf (year month day : ℤ) : ℤ :=
  let y := if month≤2 then year-1 else year
  let era := y/400
  let yoe := y-era*400
  let doy := (153*(if 2 < month then month-3 else month+9)+2)/5+day-1
  era*146097+(yoe*365+yoe/4-yoe/100+doy)-719468

def utcDay (t : ℤ) : ℤ := t/MS_PER_DAY

def getUTCFullYear (t : ℤ) : ℤ := (civil (utcDay t)).1

/-- `Date.UTC` reads a year below 100 as one of the last century. -/
def startOfUtcDay (t : ℤ) : ℤ :=
  let (year,month,day) := civil (utcDay t)
  if 0≤year ∧ year < 100 then dayOf (1900+year) month day*MS_PER_DAY else utcDay t*MS_PER_DAY

/-- The date part of `toISOString`, as far as the slice goes. -/
def isoDate (t : ℤ) : Str :=
  let (year,month,day) := civil (utcDay t)
  let yearText := if 0≤year ∧ year < 10000 then padStart 4 (decimal year.toNat)
    else (if year < 0 then '-' else '+')::padStart 6 (decimal year.natAbs)
  (yearText++ '-'::padStart 2 (decimal month.toNat)++ '-'::padStart 2 (decimal day.toNat)).take 10

def yyyymmdd (t : ℤ) : Str := (isoDate t).filter (·≠ '-')

/-- Both ends at the start of their days. -/
def normalizeBillingPeriod (env : Env) (periodStart periodEnd : Str) :
    Except BillingError (ℤ × ℤ) :=
  match env.runtime.newDate periodStart, env.runtime.newDate periodEnd with
  | some s, some e =>
    if startOfUtcDay e ≤ startOfUtcDay s then
      .error (.failure "Billing period end must be after period start.")
    else .ok (startOfUtcDay s,startOfUtcDay e)
  | _, _ => .error (.failure "Billing period dates must be valid dates.")

/-- The days of the period that the stock was owned on; both ends are starts of days. -/
def calculateChargeableDays (periodStart periodEnd ownedFrom : ℤ) : ℕ :=
  ((periodEnd-max (startOfUtcDay ownedFrom) periodStart)/MS_PER_DAY).toNat

section Events

structure CreateBillingEventDto where
  eventType : BillingEventType
  status : Option BillingEventStatus := none
  reference : Option Str := none
  resourceType : Option Str := none
  resourceId : Option Str := none
  description : Option Str := none
  quantity : Option ℕ := none
  unitPriceMinor : Option ℕ := none
  amountMinor : Option ℕ := none
  currency : Option Str := none
  occurredAt : Option Str := none
  deriving DecidableEq

structure BillingCounterDto where
  eventType : BillingEventType
  quantity : ℕ
  unitPriceMinor : ℕ
  description : Option Str := none
  resourceType : Option Str := none
  resourceId : Option Str := none
  referenceSuffix : Option Str := none
  deriving DecidableEq

structure GenerateBillingEventsDto where
  counters : List BillingCounterDto
  occurredAt : Option Str := none
  currency : Option Str := none
  dryRun : Bool := false
  deriving DecidableEq

structure GenerateStorageBillingDto where
  periodStart : Str
  periodEnd : Str
  unitPriceMinorPerUnitDay : Option ℕ := none
  currency : Option Str := none
  dryRun : Bool := false
  deriving DecidableEq

/-- Which of the three upserts writes: they differ in what they do to an event that exists. -/
inductive UpsertKind
  | manual (status : BillingEventStatus)
  | counter
  | storage
  deriving DecidableEq

structure EventUpsert where
  kind : UpsertKind
  clientId : Uuid
  warehouseId : Uuid
  eventType : BillingEventType
  reference : Str
  resourceType : Option Str
  resourceId : Option Str
  description : Option Str
  quantity : ℕ
  unitPriceMinor : ℕ
  amountMinor : ℕ
  currency : Str
  occurredAt : ℤ
  storage : Option StorageDays
  deriving DecidableEq

def UpsertKind.initialStatus : UpsertKind → BillingEventStatus
  | .manual status => status
  | .counter => .PENDING
  | .storage => .BILLABLE

/-- The status that an existing event gets. -/
def UpsertKind.statusOf (kind : UpsertKind) (old : BillingEventStatus) : BillingEventStatus :=
  match kind with
  | .manual status => status
  | .counter => old
  | .storage => .BILLABLE

def EventUpsert.created (u : EventUpsert) (id : Uuid) : BillingEvent :=
  ⟨id,u.clientId,u.warehouseId,u.eventType,u.kind.initialStatus,u.reference,u.resourceType,
    u.resourceId,u.description,u.quantity,u.unitPriceMinor,u.amountMinor,u.currency,u.occurredAt,
    u.storage⟩

/-- The storage upsert leaves the type and the resource of an event that exists. -/
def EventUpsert.updated (u : EventUpsert) (e : BillingEvent) : BillingEvent :=
  {e with
    eventType := if u.kind=.storage then e.eventType else u.eventType
    status := u.kind.statusOf e.status
    resourceType := if u.kind=.storage then e.resourceType else u.resourceType
    resourceId := if u.kind=.storage then e.resourceId else u.resourceId
    description := u.description
    quantity := u.quantity
    unitPriceMinor := u.unitPriceMinor
    amountMinor := u.amountMinor
    currency := u.currency
    occurredAt := u.occurredAt
    storage := u.storage}

/-- An integer column holds 32 bits. -/
def fitsInt (n : ℕ) : Bool := n < 2^31

/-- `upsert` on `clientId_reference`: the table and the row. -/
def upsertEvent (events : Table BillingEvent.id) (id : Uuid) (u : EventUpsert) :
    Except BillingError (Table BillingEvent.id × BillingEvent) :=
  if !(fitsInt u.quantity && fitsInt u.unitPriceMinor && fitsInt u.amountMinor) then
    throw .outOfRange
  else match events.rows.find? fun e => e.clientId=u.clientId && e.reference=u.reference with
    | some e => pure (events.modify e.id u.updated fun _ => rfl,u.updated e)
    | none =>
      if events.get? id≠none then throw .uniqueViolation
      else pure (events.insert (u.created id),u.created id)

/-- The upserts of one transaction, one after the other. -/
def upsertEvents (events : Table BillingEvent.id) (gen : ℕ → Uuid) :
    List EventUpsert → Except BillingError (Table BillingEvent.id × List BillingEvent)
  | [] => pure (events,[])
  | u::us => do
    let (events,row) ← upsertEvent events (gen us.length) u
    let (events,rows) ← upsertEvents events gen us
    pure (events,row::rows)

variable (env : Env)

def calculateBillingAmountMinor (quantity unitPriceMinor : ℕ) (amountMinor : Option ℕ) : ℕ :=
  amountMinor.getD (quantity*unitPriceMinor)

def makeBillingReference (clientCode : Str) (warehouseId : Uuid) (eventType : BillingEventType)
    (resourceType resourceId : Option Str) (occurredAt : ℤ) : Str :=
  let day := yyyymmdd occurredAt
  let seed := [clientCode,warehouseId.val,eventType.name,resourceType.getD "RESOURCE".toList,
    resourceId.getD "AUTO".toList,day]
  "BILL-".toList++normalizeClientCode env clientCode++ '-'::day++ '-'::
    env.shortHash ((seed.intersperse [':']).flatten)

def normalizeBillingEventInput (client : WmsClient) (warehouseId : Uuid) (now : ℤ)
    (dto : CreateBillingEventDto) : Except BillingError EventUpsert :=
  match dto.occurredAt.elim (some now) env.runtime.newDate with
  | none => throw (.failure "Invalid time value")
  | some occurredAt =>
    let quantity := dto.quantity.getD 1
    let unitPriceMinor := dto.unitPriceMinor.getD 0
    pure
      {kind := .manual (dto.status.getD .PENDING)
       clientId := client.id
       warehouseId := warehouseId
       eventType := dto.eventType
       reference := normalizeBillingReference env (dto.reference.getD (makeBillingReference env
        client.code warehouseId dto.eventType dto.resourceType dto.resourceId occurredAt))
       resourceType := normalizeOptionalResourceCode env dto.resourceType
       resourceId := normalizeNullableString dto.resourceId
       description := normalizeNullableString dto.description
       quantity := quantity
       unitPriceMinor := unitPriceMinor
       amountMinor := calculateBillingAmountMinor quantity unitPriceMinor dto.amountMinor
       currency := normalizeCurrency env dto.currency client.billingCurrency
       occurredAt := occurredAt
       storage := none}

/-- One counter's event. -/
def counterEvent (client : WmsClient) (warehouseId : Uuid) (currency : Str) (occurredAt : ℤ)
    (counter : BillingCounterDto) : EventUpsert where
  kind := .counter
  clientId := client.id
  warehouseId := warehouseId
  eventType := counter.eventType
  reference := normalizeBillingReference env (makeBillingReference env client.code warehouseId
    counter.eventType (normalizeOptionalResourceCode env counter.resourceType)
    (counter.referenceSuffix.or (normalizeNullableString counter.resourceId)) occurredAt)
  resourceType := normalizeOptionalResourceCode env
    (normalizeOptionalResourceCode env counter.resourceType)
  resourceId := normalizeNullableString counter.resourceId
  description := normalizeNullableString counter.description
  quantity := counter.quantity
  unitPriceMinor := counter.unitPriceMinor
  amountMinor := calculateBillingAmountMinor counter.quantity counter.unitPriceMinor none
  currency := normalizeCurrency env (some currency) currency
  occurredAt := occurredAt
  storage := none

def buildBillingEventsFromCounters (client : WmsClient) (warehouseId : Uuid) (now : ℤ)
    (dto : GenerateBillingEventsDto) : Except BillingError (List EventUpsert) :=
  let counters := dto.counters.filter fun counter => 0 < counter.quantity
  match dto.occurredAt.elim (some now) env.runtime.newDate with
  | some occurredAt => pure (counters.map (counterEvent env client warehouseId
      (normalizeCurrency env dto.currency client.billingCurrency) occurredAt))
  | none => if counters=[] then pure [] else throw (.failure "Invalid time value")

def makeStorageBillingReference (clientCode : Str) (warehouseId : Uuid) (stockQuantId : Str)
    (periodStart periodEnd : ℤ) : Str :=
  let seed := [clientCode,warehouseId.val,stockQuantId,yyyymmdd periodStart,yyyymmdd periodEnd]
  "STOR-".toList++normalizeInvoiceToken env clientCode++ '-'::yyyymmdd periodStart++ '-'::
    env.shortHash ((seed.intersperse [':']).flatten)

def storageEvent (client : WmsClient) (warehouseId : Uuid) (currency : Str)
    (periodStart periodEnd : ℤ) (unitPriceMinor : ℕ) (quant : StockQuant) : EventUpsert :=
  let chargeableDays := calculateChargeableDays periodStart periodEnd quant.createdAt
  let billedUnits := quant.quantity*chargeableDays
  {kind := .storage
   clientId := client.id
   warehouseId := warehouseId
   eventType := .STORAGE_DAY
   reference := makeStorageBillingReference env client.code warehouseId quant.id.val periodStart
    periodEnd
   resourceType := some "STOCK_QUANT".toList
   resourceId := some quant.id.val
   description := some ("Storage days for ".toList++quant.skuCode)
   quantity := billedUnits
   unitPriceMinor := unitPriceMinor
   amountMinor := billedUnits*unitPriceMinor
   currency := currency
   occurredAt := periodEnd
   storage := some ⟨quant.quantity,chargeableDays,periodStart,periodEnd⟩}

def buildStorageDayBillingEvents (client : WmsClient) (warehouseId : Uuid) (currency : Str)
    (periodStart periodEnd : ℤ) (unitPriceMinor : ℕ) (quants : List StockQuant) :
    List EventUpsert :=
  (quants.map (storageEvent env client warehouseId currency periodStart periodEnd
    unitPriceMinor)).filter fun u => 0 < u.quantity && 0 < u.amountMinor

end Events

section Invoices

structure CreateBillingInvoiceDto where
  periodStart : Str
  periodEnd : Str
  invoiceNumber : Option Str := none
  eventStatuses : Option (List BillingEventStatus) := none
  vatRateBps : Option ℕ := none
  finalize : Bool := false
  deriving DecidableEq

structure CreateBillingCreditNoteDto where
  creditNoteNumber : Option Str := none
  invoiceLineNumbers : Option (List ℕ) := none
  finalize : Bool := false
  deriving DecidableEq

def invoiceEventStatusFilter (statuses : Option (List BillingEventStatus)) :
    List BillingEventStatus :=
  if statuses.getD [.BILLABLE]=[] then [.BILLABLE] else statuses.getD [.BILLABLE]

/-- Net, tax and gross; `Math.round` goes up from the half. -/
def calculateTaxAmounts (amountMinor : ℕ) (vatRateBps : Option ℕ) : Option ℕ × ℕ × ℕ × ℕ :=
  let rate := vatRateBps.map (min 10000)
  let tax := rate.elim 0 fun r => (amountMinor*r+5000)/10000
  (rate,amountMinor,tax,amountMinor+tax)

def invoiceLine (invoiceId : Uuid) (vatRateBps : Option ℕ) (lineNumber : ℕ) (e : BillingEvent) :
    BillingInvoiceLine :=
  let (rate,net,tax,gross) := calculateTaxAmounts e.amountMinor vatRateBps
  ⟨invoiceId,lineNumber,some e.id,e.eventType,
    (normalizeNullableString e.description).getD (e.eventType.name++ ' '::e.reference),
    e.quantity,e.amountMinor,rate,net,tax,gross,e.currency⟩

variable (env : Env)

/-- The order of the query, then the order of the lines. -/
def sortedEvents (events : List BillingEvent) : List BillingEvent :=
  (events.insertionSort fun a b => a.occurredAt < b.occurredAt ∨ a.occurredAt=b.occurredAt ∧
    env.collates a.reference b.reference).insertionSort fun a b => a.occurredAt < b.occurredAt ∨
    a.occurredAt=b.occurredAt ∧ env.localeCompare a.reference b.reference

def buildInvoiceLines (invoiceId : Uuid) (vatRateBps : Option ℕ) (events : List BillingEvent) :
    List BillingInvoiceLine :=
  (sortedEvents env events).zipIdx.map fun x => invoiceLine invoiceId vatRateBps (x.2+1) x.1

def makeSequentialInvoiceNumber (prefixText : Str) (year : ℤ) (nextNumber : ℕ) : Str :=
  (normalizeInvoiceToken env prefixText).map (fun c => if c = '_' then '-' else c)++ '-'::
    decimal (max 2000 (min 9999 year)).toNat++ '-'::padStart 6 (decimal (max 1 nextNumber))

/-- An invoice number as part of a credit note number. -/
def creditToken (invoiceNumber : Str) : Str :=
  let token := strip '-' (replaceRuns (fun c => ('A'≤c && c≤ 'Z') || ('0'≤c && c≤ '9') ||
    c∈['_','-']) '-' false (env.runtime.toUpperCase (trim invoiceNumber)))
  if token=[] then "INVOICE".toList else token

def makeCreditNoteNumber (invoiceNumber : Str) (sequence : ℕ) : Str :=
  ("CN-".toList++creditToken env invoiceNumber++ '-'::padStart 3 (decimal (max 1 sequence))).take 120

def normalizeLineNumberSelection (value : Option (List ℕ)) : Option (List ℕ) :=
  (value.map fun ns => ns.filter (0 < ·)).filter (·≠[])

def creditNoteLine (creditNoteId : Uuid) (lineNumber : ℕ) (l : BillingInvoiceLine) :
    BillingCreditNoteLine :=
  ⟨creditNoteId,l.key,lineNumber,l.eventType,("Credit: ".toList++l.description).take 500,l.quantity,
    l.amountMinor,l.vatRateBps.map (min 10000),l.netAmountMinor,l.taxAmountMinor,l.grossAmountMinor,
    l.currency⟩

def creditedLines (selection : Option (List ℕ)) (lines : List BillingInvoiceLine) :
    List BillingInvoiceLine :=
  (lines.filter fun l => (normalizeLineNumberSelection selection).all (l.lineNumber∈·)).insertionSort
    fun a b => a.lineNumber≤b.lineNumber

def buildCreditNoteLines (creditNoteId : Uuid) (lines : List BillingInvoiceLine) :
    List BillingCreditNoteLine :=
  lines.zipIdx.map fun x => creditNoteLine creditNoteId (x.2+1) x.1

end Invoices
end AardvarkWms.Billing
