import AardvarkWms.BillingCalls
import Mathlib.Data.Char
import Mathlib.Data.List.Dedup
import Mathlib.Data.List.Lex

/-! What one statement of a billing call can do, said once, and what a call knows between its
statements. -/
namespace AardvarkWms.Billing

open Messaging (Str)
open OrderUpdates (Uuid isUuid)
open Transactions.Txn (bind_eq_ok)

/-- What a statement writes, and from which phase. -/
inductive BillingWrite (env : Env) (gen : ℕ → Uuid) (c : Call) (db : BillingDb) : BillingDb → Prop
  | none : BillingWrite env gen c db db
  | upsert (u events row) : c.phase=.upsert u → upsertEvent db.events (gen 0) u=.ok (events,row) →
      BillingWrite env gen c db {db with events}
  | upserts (us events rows) : c.phase=.upserts us →
      upsertEvents db.events gen us=.ok (events,rows) → BillingWrite env gen c db {db with events}
  | voidEvent (read) : c.phase=.voidEvent read →
      BillingWrite env gen c db {db with events := setStatus db.events [read.id] .none .VOIDED}
  | insertInvoice (d db' invoice) : c.phase=.insertInvoice d →
      storeInvoice env db d (gen 0)=.ok (db',invoice) → BillingWrite env gen c db db'
  | finalizeInvoice (invoice eventIds) : c.phase=.finalizeInvoice invoice eventIds →
      BillingWrite env gen c db {db with
        invoices := setInvoiceStatus db.invoices invoice.id .FINALIZED
        events := setStatus db.events eventIds .none .INVOICED}
  | voidInvoice (invoice eventIds released) : c.phase=.voidInvoice invoice eventIds released →
      BillingWrite env gen c db (storeVoid db invoice eventIds released)
  | insertNote (d db' note) : c.phase=.insertNote d → storeNote db d (gen 0)=.ok (db',note) →
      BillingWrite env gen c db db'
  | finalizeNote (note) : c.phase=.finalizeNote note →
      BillingWrite env gen c db {db with notes := setNoteStatus db.notes note.id .FINALIZED}

section Rows
variable {env : Env} {db db' : BillingDb}

theorem mem_setStatus {events : Table BillingEvent.id} {ids : List Uuid}
    {old : Option BillingEventStatus} {status : BillingEventStatus} {e' : BillingEvent} :
    e'∈(setStatus events ids old status).rows ↔ ∃ e∈events.rows,
      (if e.id∈ids ∧ old.all (e.status=·)=true then {e with status} else e)=e' := by
  unfold setStatus
  refine List.mem_map.trans ?_
  simp only [Bool.and_eq_true,decide_eq_true_eq]

def WmsClient.fixed (c : WmsClient) : WmsClient := {c with billingCurrency := []}

def BillingInvoice.fixed (i : BillingInvoice) : BillingInvoice := {i with status := .DRAFT}

def BillingInvoiceLine.fixed (l : BillingInvoiceLine) : BillingInvoiceLine :=
  {l with billingEventId := none}

def BillingCreditNote.fixed (n : BillingCreditNote) : BillingCreditNote := {n with status := .DRAFT}

/-- Clients stay up to their currency, documents and lines up to their status and the event of a line;
a document gets no new lines, and a line no other event. -/
structure BillingDb.Extends (db db' : BillingDb) : Prop where
  clients : Table.Grows WmsClient.fixed db.clients db'.clients
  events : Table.Keeps db.events db'.events
  invoices : Table.Grows BillingInvoice.fixed db.invoices db'.invoices
  lines : Table.Grows BillingInvoiceLine.fixed db.lines db'.lines
  notes : Table.Grows BillingCreditNote.fixed db.notes db'.notes
  old : ∀ l'∈db'.lines.rows, db.invoices.get? l'.invoiceId≠none → ∃ l∈db.lines.rows,
    l.fixed=l'.fixed ∧ ∀ x, l'.billingEventId=some x → l.billingEventId=some x

theorem BillingDb.Extends.refl (db : BillingDb) : db.Extends db :=
  ⟨.refl _,fun _ h => h,.refl _,.refl _,.refl _,fun l hl _ => ⟨l,hl,rfl,fun _ h => h⟩⟩

theorem invoiceId_fixed {l l' : BillingInvoiceLine} (h : l.fixed=l'.fixed) :
    l.invoiceId=l'.invoiceId := by
  have hid : l.fixed.invoiceId=l'.fixed.invoiceId := by rw [h]
  exact hid

theorem extends_of_lines (hclients : Table.Grows WmsClient.fixed db.clients db'.clients)
    (hevents : Table.Keeps db.events db'.events)
    (hinvoices : Table.Grows BillingInvoice.fixed db.invoices db'.invoices)
    (hlines : db'.lines=db.lines)
    (hnotes : Table.Grows BillingCreditNote.fixed db.notes db'.notes) : db.Extends db' := by
  refine ⟨hclients,hevents,hinvoices,?_,hnotes,?_⟩
  · rw [hlines]
    exact .refl _
  · intro l hl _
    exact ⟨l,hlines ▸ hl,rfl,fun _ h => h⟩

/-- New lines follow the old ones, each with a number and an event of its own. -/
structure Inserted (lines lines' : Table BillingInvoiceLine.key) (ls : List BillingInvoiceLine) :
    Prop where
  rows : lines'.rows=lines.rows++ls
  fresh : ∀ l∈ls, lines.get? l.key=none
  events : ∀ l∈ls, ∀ k∈lines.rows, l.billingEventId≠none → k.billingEventId≠l.billingEventId
  once : ls.Pairwise fun l k => l.billingEventId≠none → k.billingEventId≠l.billingEventId

theorem insertLines_ok {lines lines' : Table BillingInvoiceLine.key} {ls : List BillingInvoiceLine}
    (h : insertLines lines ls=.ok lines') : Inserted lines lines' ls := by
  induction ls generalizing lines with
  | nil =>
    cases h
    refine ⟨(List.append_nil _).symm,?_,?_,List.Pairwise.nil⟩
    · intro l hl
      cases hl
    · intro l hl
      cases hl
  | cons l ls ih =>
    unfold insertLines at h
    split at h
    · cases h
    · rename_i hnew
      obtain ⟨hkey,hevent⟩ := not_or.mp hnew
      have hkey' := not_not.mp hkey
      have hev : ∀ k∈lines.rows, l.billingEventId≠none → k.billingEventId≠l.billingEventId := by
        intro k hk hne he
        refine hevent (List.any_eq_true.mpr ⟨k,hk,?_⟩)
        simp [he,hne]
      obtain ⟨hrows,hfresh,hevents,honce⟩ := ih h
      rw [Table.rows_insert hkey'] at hrows hevents
      refine ⟨by rw [hrows,List.append_assoc,List.singleton_append],?_,?_,?_⟩
      · intro k hk
        cases List.mem_cons.mp hk with
        | inl hfirst =>
          subst hfirst
          exact hkey'
        | inr hrest =>
          have hnone := hfresh k hrest
          rw [Table.get?_insert] at hnone
          split at hnone
          · rename_i hsame
            rw [hsame]
            exact hkey'
          · exact hnone
      · intro k hk
        cases List.mem_cons.mp hk with
        | inl hfirst =>
          subst hfirst
          exact hev
        | inr hrest => exact fun m hm => hevents k hrest m (List.mem_append_left _ hm)
      · refine List.pairwise_cons.mpr ⟨?_,honce⟩
        intro k hk hne he
        have hother := hevents k hk l (List.mem_append_right _ (List.mem_singleton_self _))
        exact hother (he ▸ hne) he.symm

/-- What a stored invoice is. -/
structure Stored (env : Env) (db : BillingDb) (d : InvoiceDraft) (id : Uuid) (db' : BillingDb)
    (invoice : BillingInvoice) : Prop where
  isInvoice : invoice=d.invoice id (buildInvoiceLines env id d.vatRateBps d.events)
  new : db.invoices.get? id=none
  number : ∀ i∈db.invoices.rows, i.clientId=d.client.id → i.invoiceNumber≠d.invoiceNumber
  invoices : db'.invoices=db.invoices.insert invoice
  inserted : Inserted db.lines db'.lines (buildInvoiceLines env id d.vatRateBps d.events)
  events : db'.events=if d.finalize then setStatus db.events (d.events.map (·.id)) none .INVOICED
    else db.events
  sequences : advanceSequence db.sequences d.allocation=.ok db'.sequences
  rest : db'.notes=db.notes ∧ db'.noteLines=db.noteLines ∧ db'.clients=db.clients

theorem storeInvoice_ok {d : InvoiceDraft} {id : Uuid} {invoice : BillingInvoice}
    (h : storeInvoice env db d id=.ok (db',invoice)) : Stored env db d id db' invoice := by
  obtain ⟨sequences,hsequences,h⟩ := bind_eq_ok h
  split at h
  · cases h
  · split at h
    · cases h
    · rename_i hnew
      obtain ⟨hid,hnumber⟩ := not_or.mp hnew
      obtain ⟨lines,hlines,h⟩ := bind_eq_ok h
      cases h
      refine ⟨rfl,not_not.mp hid,?_,rfl,insertLines_ok hlines,rfl,hsequences,rfl,rfl,rfl⟩
      intro i hi hclient hsame
      refine hnumber (List.any_eq_true.mpr ⟨i,hi,?_⟩)
      simp [InvoiceDraft.invoice,hclient,hsame]

structure NoteStored (db : BillingDb) (d : CreditDraft) (id : Uuid) (db' : BillingDb)
    (note : BillingCreditNote) : Prop where
  isNote : note=d.note id (buildCreditNoteLines id d.lines)
  new : db.notes.get? id=none
  number : ∀ n∈db.notes.rows, n.clientId=d.invoice.clientId → n.creditNoteNumber≠d.creditNoteNumber
  left : db'={db with
    notes := db.notes.insert note, noteLines := db.noteLines++buildCreditNoteLines id d.lines}

theorem storeNote_ok {d : CreditDraft} {id : Uuid} {note : BillingCreditNote}
    (h : storeNote db d id=.ok (db',note)) : NoteStored db d id db' note := by
  unfold storeNote at h
  simp only at h
  split at h
  · cases h
  · split at h
    · cases h
    · rename_i hnew
      obtain ⟨hid,hnumber⟩ := not_or.mp hnew
      cases h
      refine ⟨rfl,not_not.mp hid,?_,rfl⟩
      intro n hn hclient hsame
      refine hnumber (List.any_eq_true.mpr ⟨n,hn,?_⟩)
      simp [CreditDraft.note,hclient,hsame]

theorem mem_buildInvoiceLines {id : Uuid} {vat : Option ℕ} {events : List BillingEvent}
    {l : BillingInvoiceLine} (h : l∈buildInvoiceLines env id vat events) :
    ∃ e∈events, ∃ n, l=invoiceLine id vat n e := by
  obtain ⟨⟨e,n⟩,hx,rfl⟩ := List.mem_map.mp h
  have he := List.fst_mem_of_mem_zipIdx hx
  unfold sortedEvents at he
  rw [List.mem_insertionSort,List.mem_insertionSort] at he
  exact ⟨e,he,n+1,rfl⟩

theorem buildInvoiceLines_mem (env : Env) (id : Uuid) (vat : Option ℕ) {events : List BillingEvent}
    {e : BillingEvent} (h : e∈events) :
    ∃ l∈buildInvoiceLines env id vat events, l.billingEventId=some e.id := by
  have he : e∈sortedEvents env events := by
    unfold sortedEvents
    rw [List.mem_insertionSort,List.mem_insertionSort]
    exact h
  obtain ⟨n,hn⟩ := List.mem_iff_getElem?.mp he
  exact ⟨_,List.mem_map.mpr ⟨(e,n),List.mk_mem_zipIdx_iff_getElem?.mpr hn,rfl⟩,rfl⟩

theorem EventUpsert.updated_id (u : EventUpsert) (e : BillingEvent) : (u.updated e).id=e.id := rfl

/-- What an upsert that goes through does. -/
inductive Upserted (events : Table BillingEvent.id) (id : Uuid) (u : EventUpsert) :
    Table BillingEvent.id → BillingEvent → Prop
  | updated (e : BillingEvent)
      (h : (events.rows.find? fun e => e.clientId=u.clientId && e.reference=u.reference)=some e) :
      Upserted events id u (events.modify e.id u.updated u.updated_id) (u.updated e)
  | created
      (h : (events.rows.find? fun e => e.clientId=u.clientId && e.reference=u.reference)=none)
      (new : events.get? id=none) : Upserted events id u (events.insert (u.created id)) (u.created id)

theorem upsertEvent_ok {events events' : Table BillingEvent.id} {id : Uuid} {u : EventUpsert}
    {row : BillingEvent} (h : upsertEvent events id u=.ok (events',row)) :
    Upserted events id u events' row := by
  unfold upsertEvent at h
  split at h
  · cases h
  · split at h
    · rename_i e he
      cases h
      exact .updated e he
    · rename_i hnone
      split at h
      · cases h
      · rename_i hnew
        cases h
        exact .created hnone (not_not.mp hnew)

theorem Upserted.keeps {events events' : Table BillingEvent.id} {id : Uuid} {u : EventUpsert}
    {row : BillingEvent} (h : Upserted events id u events' row) : Table.Keeps events events' := by
  intro x hx
  cases h with
  | updated e he =>
    rw [Table.get?_modify]
    split
    · simpa using hx
    · exact hx
  | created hnone hnew =>
    rw [Table.get?_insert]
    split
    · exact Option.some_ne_none _
    · exact hx

theorem upsertEvents_cons {events events' : Table BillingEvent.id} {gen : ℕ → Uuid}
    {u : EventUpsert} {us : List EventUpsert} {rows : List BillingEvent}
    (h : upsertEvents events gen (u::us)=.ok (events',rows)) :
    ∃ events₁ row rest, upsertEvent events (gen us.length) u=.ok (events₁,row) ∧
      upsertEvents events₁ gen us=.ok (events',rest) := by
  obtain ⟨⟨events₁,row⟩,hfirst,h⟩ := bind_eq_ok h
  obtain ⟨⟨events₂,rest⟩,hrest,h⟩ := bind_eq_ok h
  cases h
  exact ⟨events₁,row,rest,hfirst,hrest⟩

theorem upsertEvents_keeps {events events' : Table BillingEvent.id} {gen : ℕ → Uuid}
    {us : List EventUpsert} {rows : List BillingEvent}
    (h : upsertEvents events gen us=.ok (events',rows)) : Table.Keeps events events' := by
  induction us generalizing events rows with
  | nil =>
    cases h
    exact fun _ hx => hx
  | cons u us ih =>
    obtain ⟨events₁,row,rest,hfirst,hrest⟩ := upsertEvents_cons h
    intro x hx
    exact ih hrest x ((upsertEvent_ok hfirst).keeps x hx)

theorem keeps_setStatus (events : Table BillingEvent.id) (ids : List Uuid)
    (old : Option BillingEventStatus) (status : BillingEventStatus) :
    Table.Keeps events (setStatus events ids old status) := by
  intro x hx
  unfold setStatus
  rw [Table.get?_modifyWhere]
  simpa using hx

theorem grows_setInvoiceStatus (invoices : Table BillingInvoice.id) (id : Uuid)
    (status : BillingInvoiceStatus) :
    Table.Grows BillingInvoice.fixed invoices (setInvoiceStatus invoices id status) :=
  Table.grows_modify _ _ _ fun _ => rfl

theorem grows_setNoteStatus (notes : Table BillingCreditNote.id) (id : Uuid)
    (status : BillingCreditNoteStatus) :
    Table.Grows BillingCreditNote.fixed notes (setNoteStatus notes id status) :=
  Table.grows_modify _ _ _ fun _ => rfl

theorem invoiceId_of_mem_build {id : Uuid} {vat : Option ℕ} {events : List BillingEvent}
    {l : BillingInvoiceLine} (h : l∈buildInvoiceLines env id vat events) : l.invoiceId=id := by
  obtain ⟨e,_,n,rfl⟩ := mem_buildInvoiceLines h
  rfl

theorem Inserted.grows {lines lines' : Table BillingInvoiceLine.key} {ls : List BillingInvoiceLine}
    {fixed : BillingInvoiceLine → BillingInvoiceLine} (h : Inserted lines lines' ls) :
    Table.Grows fixed lines lines' := by
  intro id l hl
  refine ⟨l,?_,rfl⟩
  obtain ⟨hmem,hkey⟩ := Table.mem_of_get? hl
  exact Table.get?_eq_some.mpr ⟨h.rows ▸ List.mem_append_left _ hmem,hkey⟩

theorem Stored.extends {d : InvoiceDraft} {id : Uuid} {invoice : BillingInvoice}
    (h : Stored env db d id db' invoice) : db.Extends db' := by
  refine ⟨?_,?_,?_,h.inserted.grows,?_,?_⟩
  · rw [h.rest.2.2]
    exact .refl _
  · rw [h.events]
    split
    · exact keeps_setStatus _ _ _ _
    · exact fun _ hx => hx
  · rw [h.invoices]
    exact Table.grows_insert _ _
  · rw [h.rest.1]
    exact .refl _
  · intro l hl hold
    rw [h.inserted.rows] at hl
    cases List.mem_append.mp hl with
    | inl hl => exact ⟨l,hl,rfl,fun _ hx => hx⟩
    | inr hl =>
      rw [invoiceId_of_mem_build hl] at hold
      exact absurd h.new hold

theorem storeVoid_extends (db : BillingDb) (invoice : BillingInvoice) (eventIds released : List Uuid) :
    db.Extends (storeVoid db invoice eventIds released) := by
  have hlines : Table.Grows BillingInvoiceLine.fixed db.lines
      (storeVoid db invoice eventIds released).lines := by
    exact Table.grows_modifyWhere db.lines _ BillingInvoiceLine.fixed (fun _ => rfl) fun _ => rfl
  refine ⟨.refl _,keeps_setStatus _ _ _ _,grows_setInvoiceStatus _ _ _,hlines,.refl _,?_⟩
  intro l' hl' _
  obtain ⟨l,hl,rfl⟩ := List.mem_map.mp hl'
  refine ⟨l,hl,?_,?_⟩
  · split
    · rfl
    · rfl
  · intro x hx
    split at hx
    · cases hx
    · exact hx

theorem BillingWrite.extends {gen : ℕ → Uuid} {c : Call} (h : BillingWrite env gen c db db') :
    db.Extends db' := by
  cases h with
  | none => exact .refl db
  | upsert u events row _ hup =>
    exact extends_of_lines (.refl _) (upsertEvent_ok hup).keeps (.refl _) rfl (.refl _)
  | upserts us events rows _ hup =>
    exact extends_of_lines (.refl _) (upsertEvents_keeps hup) (.refl _) rfl (.refl _)
  | voidEvent read _ => exact extends_of_lines (.refl _) (keeps_setStatus _ _ _ _) (.refl _) rfl (.refl _)
  | insertInvoice d _ invoice _ hstore => exact (storeInvoice_ok hstore).extends
  | finalizeInvoice invoice eventIds _ =>
    exact extends_of_lines (.refl _) (keeps_setStatus _ _ _ _) (grows_setInvoiceStatus _ _ _) rfl (.refl _)
  | voidInvoice invoice eventIds released _ => exact storeVoid_extends _ _ _ _
  | insertNote d _ note _ hstore =>
    rw [(storeNote_ok hstore).left]
    exact extends_of_lines (.refl _) (fun _ hx => hx) (.refl _) rfl (Table.grows_insert _ _)
  | finalizeNote note _ =>
    exact extends_of_lines (.refl _) (fun _ hx => hx) (.refl _) rfl (grows_setNoteStatus _ _ _)

end Rows

section Knowledge
variable {env : Env} {now : ℤ} {gen : ℕ → Uuid} {db db' : BillingDb}

def BillingDb.HasClient (db : BillingDb) (c : WmsClient) : Prop :=
  ∃ now, db.clients.get? c.id=some now ∧ now.fixed=c.fixed

def BillingDb.HasInvoice (db : BillingDb) (i : BillingInvoice) : Prop :=
  ∃ now, db.invoices.get? i.id=some now ∧ now.fixed=i.fixed

/-- The lines of an invoice that still have an event have one of these. -/
def BillingDb.Covers (db : BillingDb) (invoice : BillingInvoice) (eventIds : List Uuid) : Prop :=
  db.HasInvoice invoice ∧ ∀ l∈db.lines.rows, l.invoiceId=invoice.id →
    ∀ x, l.billingEventId=some x → x∈eventIds

/-- The lines are the invoice's, up to their events. -/
def BillingDb.Has (db : BillingDb) (invoice : BillingInvoice) (lines : List BillingInvoiceLine) :
    Prop :=
  db.HasInvoice invoice ∧ (lines.map BillingInvoiceLine.key).Nodup ∧
    ∀ l∈lines, l.invoiceId=invoice.id ∧ ∃ k, db.lines.get? l.key=some k ∧ k.fixed=l.fixed

/-- Where an automatic number comes from. -/
def InvoiceDraft.Numbered (env : Env) (d : InvoiceDraft) : Prop :=
  match d.allocation with
  | .requested => True
  | .first q => q.clientId=d.client.id ∧ q.prefixText=env.runtime.normalizeReference d.client.code ∧
      q.nextNumber=2 ∧ d.invoiceNumber=makeSequentialInvoiceNumber env q.prefixText q.year 1
  | .next q => q.clientId=d.client.id ∧ q.prefixText=env.runtime.normalizeReference d.client.code ∧
      d.invoiceNumber=makeSequentialInvoiceNumber env q.prefixText q.year q.nextNumber

def CreditDraft.Numbered (env : Env) (d : CreditDraft) : Prop :=
  ∀ k, d.sequence=some k → d.creditNoteNumber=makeCreditNoteNumber env d.invoice.invoiceNumber k

/-- What a call read is still there, and its number is made from what it read. -/
def Phase.Known (env : Env) (db : BillingDb) : Phase → Prop
  | .events _ c _ => db.HasClient c
  | .sequence _ c _ es => db.HasClient c ∧ ∀ e∈es, db.events.get? e.id≠none
  | .insertInvoice d => (db.HasClient d.client ∧ ∀ e∈d.events, db.events.get? e.id≠none) ∧ d.Numbered env
  | .lines _ i => db.HasInvoice i
  | .finalizeInvoice i ids => db.Covers i ids
  | .release i ids => db.Covers i ids
  | .voidInvoice i ids _ => db.Covers i ids
  | .count i ls => db.Has i ls
  | .insertNote d => db.Has d.invoice d.lines ∧ d.Numbered env
  | .finalizeNote read => ∃ n, db.notes.get? read.id=some n ∧ n.fixed=read.fixed
  | _ => True

theorem BillingDb.HasClient.extends {c : WmsClient} (h : db.HasClient c) (hext : db.Extends db') :
    db'.HasClient c := by
  obtain ⟨now,hnow,hfixed⟩ := h
  obtain ⟨later,hlater,hfixed'⟩ := hext.clients _ now hnow
  exact ⟨later,hlater,hfixed'.trans hfixed⟩

theorem BillingDb.HasInvoice.extends {i : BillingInvoice} (h : db.HasInvoice i)
    (hext : db.Extends db') : db'.HasInvoice i := by
  obtain ⟨now,hnow,hfixed⟩ := h
  obtain ⟨later,hlater,hfixed'⟩ := hext.invoices _ now hnow
  exact ⟨later,hlater,hfixed'.trans hfixed⟩

theorem BillingDb.HasInvoice.found {i : BillingInvoice} (h : db.HasInvoice i) :
    db.invoices.get? i.id≠none := by
  obtain ⟨now,hnow,_⟩ := h
  rw [hnow]
  exact Option.some_ne_none _

theorem BillingDb.Covers.extends {invoice : BillingInvoice} {eventIds : List Uuid}
    (h : db.Covers invoice eventIds) (hext : db.Extends db') : db'.Covers invoice eventIds := by
  refine ⟨h.1.extends hext,?_⟩
  intro l' hl' hinvoice x hx
  obtain ⟨l,hl,hfixed,hevent⟩ := hext.old l' hl' (hinvoice ▸ h.1.found)
  exact h.2 l hl ((invoiceId_fixed hfixed).trans hinvoice) x (hevent x hx)

theorem BillingDb.Has.extends {invoice : BillingInvoice} {lines : List BillingInvoiceLine}
    (h : db.Has invoice lines) (hext : db.Extends db') : db'.Has invoice lines := by
  refine ⟨h.1.extends hext,h.2.1,?_⟩
  intro l hl
  obtain ⟨hinvoice,k,hk,hfixed⟩ := h.2.2 l hl
  obtain ⟨k',hk',hfixed'⟩ := hext.lines _ k hk
  exact ⟨hinvoice,k',hk',hfixed'.trans hfixed⟩

theorem Phase.Known.extends {p : Phase} (h : p.Known env db) (hext : db.Extends db') :
    p.Known env db' := by
  cases p with
  | events w c period => exact BillingDb.HasClient.extends h hext
  | sequence w c period events => exact ⟨h.1.extends hext,fun e he => hext.events _ (h.2 e he)⟩
  | insertInvoice d => exact ⟨⟨h.1.1.extends hext,fun e he => hext.events _ (h.1.2 e he)⟩,h.2⟩
  | lines c invoice => exact BillingDb.HasInvoice.extends h hext
  | finalizeInvoice invoice eventIds => exact BillingDb.Covers.extends h hext
  | release invoice eventIds => exact BillingDb.Covers.extends h hext
  | voidInvoice invoice eventIds released => exact BillingDb.Covers.extends h hext
  | count invoice lines => exact BillingDb.Has.extends h hext
  | insertNote d => exact ⟨h.1.extends hext,h.2⟩
  | finalizeNote note =>
    obtain ⟨n,hn,hfixed⟩ := h
    obtain ⟨n',hn',hfixed'⟩ := hext.notes _ n hn
    exact ⟨n',hn',hfixed'.trans hfixed⟩
  | _ => trivial

theorem resolveInvoice_found {w c : Uuid} {reference : Str} {i : BillingInvoice}
    (h : resolveInvoice env db w c reference=.ok i) : i∈db.invoices.rows := by
  unfold resolveInvoice at h
  cases hfind : db.invoices.rows.find? fun i => i.warehouseId=w && i.clientId=c &&
      OrderUpdates.Runtime.referenceWhere (env.runtime.normalizeReference reference) reference i.id
        i.invoiceNumber with
  | none =>
    rw [hfind] at h
    cases h
  | some found =>
    rw [hfind] at h
    cases h
    exact List.mem_of_find?_eq_some hfind

theorem resolveCreditNote_found {w c : Uuid} {reference : Str} {n : BillingCreditNote}
    (h : resolveCreditNote env db w c reference=.ok n) : n∈db.notes.rows := by
  unfold resolveCreditNote at h
  cases hfind : db.notes.rows.find? fun n => n.warehouseId=w && n.clientId=c &&
      OrderUpdates.Runtime.referenceWhere (env.runtime.normalizeReference reference) reference n.id
        n.creditNoteNumber with
  | none =>
    rw [hfind] at h
    cases h
  | some found =>
    rw [hfind] at h
    cases h
    exact List.mem_of_find?_eq_some hfind

theorem mem_linesOf {id : Uuid} {l : BillingInvoiceLine} :
    l∈linesOf db id ↔ l∈db.lines.rows ∧ l.invoiceId=id := by
  unfold linesOf
  rw [List.mem_insertionSort,List.mem_filter,decide_eq_true_eq]

theorem mem_billingEventIds {lines : List BillingInvoiceLine} {x : Uuid} :
    x∈billingEventIds lines ↔ ∃ l∈lines, l.billingEventId=some x := by
  unfold billingEventIds
  rw [List.mem_dedup,List.mem_filterMap]

theorem covers_billingEventIds {i : BillingInvoice} (h : db.HasInvoice i) :
    db.Covers i (billingEventIds (linesOf db i.id)) :=
  ⟨h,fun l hl hinvoice _ hx => mem_billingEventIds.mpr ⟨l,mem_linesOf.mpr ⟨hl,hinvoice⟩,hx⟩⟩

theorem has_creditedLines {i : BillingInvoice} {selection : Option (List ℕ)}
    (h : db.HasInvoice i) : db.Has i (creditedLines selection (linesOf db i.id)) := by
  refine ⟨h,?_,?_⟩
  · unfold creditedLines linesOf
    refine ((List.perm_insertionSort _ _).map _).nodup_iff.mpr ?_
    refine List.Nodup.sublist (List.filter_sublist.map _) ?_
    refine ((List.perm_insertionSort _ _).map _).nodup_iff.mpr ?_
    exact List.Nodup.sublist (List.filter_sublist.map _) db.lines.nodup
  intro l hl
  unfold creditedLines at hl
  rw [List.mem_insertionSort,List.mem_filter,mem_linesOf] at hl
  obtain ⟨⟨hmem,hinvoice⟩,_⟩ := hl
  exact ⟨hinvoice,l,Table.get?_key hmem,rfl⟩

theorem resolveClient_found {reference : Str} {c : WmsClient}
    (h : resolveClient env db reference=.ok c) : db.HasClient c := by
  unfold resolveClient at h
  cases hfind : db.clients.rows.find? fun c => OrderUpdates.Runtime.referenceWhere
      (normalizeClientCode env reference) reference c.id c.code with
  | none =>
    rw [hfind] at h
    cases h
  | some found =>
    rw [hfind] at h
    cases h
    exact ⟨c,Table.get?_key (List.mem_of_find?_eq_some hfind),rfl⟩

theorem afterClient_known {request : Request} {w : Uuid} {c : WmsClient} {p : Phase}
    (hc : db.HasClient c) (h : afterClient env now request w c=.ok p) : p.Known env db := by
  cases request with
  | createBillingEvent client dto =>
    obtain ⟨u,_,h⟩ := bind_eq_ok h
    cases h
    trivial
  | generateBillingEvents client dto =>
    obtain ⟨us,_,h⟩ := bind_eq_ok h
    cases h
    cases dto.dryRun <;> trivial
  | generateStorageDayBilling client dto =>
    obtain ⟨period,_,h⟩ := bind_eq_ok h
    cases h
    trivial
  | createBillingInvoice client dto =>
    obtain ⟨period,_,h⟩ := bind_eq_ok h
    cases h
    exact hc
  | _ => cases h; trivial

theorem afterLines_known {request : Request} {i : BillingInvoice} {p : Phase}
    (hi : db.HasInvoice i)
    (h : afterLines request i (linesOf db i.id)=.ok p) : p.Known env db := by
  cases request with
  | finalizeBillingInvoice client invoice =>
    simp only [afterLines] at h
    split at h
    · cases h
    · cases h
      exact covers_billingEventIds hi
  | voidBillingInvoice client invoice =>
    simp only [afterLines] at h
    split at h
    · cases h
      trivial
    · split at h
      · rename_i hnone
        cases h
        have hcovers := covers_billingEventIds hi
        rw [hnone] at hcovers
        exact hcovers
      · cases h
        exact covers_billingEventIds hi
  | createBillingCreditNote client invoice dto =>
    simp only [afterLines] at h
    split at h
    · cases h
    · split at h
      · cases h
      · cases h
        exact has_creditedLines hi
  | _ => cases h; trivial

theorem invoiceEvents_found {w c : Uuid} {statuses : List BillingEventStatus} {period : ℤ × ℤ}
    {e : BillingEvent} (h : e∈invoiceEvents db w c statuses period) : db.events.get? e.id≠none := by
  rw [Table.get?_key (List.mem_filter.mp h).1]
  exact Option.some_ne_none _

theorem allocate_numbered {w : Uuid} {c : WmsClient} {period : ℤ × ℤ} {es : List BillingEvent}
    {vat : Option ℕ} {finalize : Bool} :
    InvoiceDraft.Numbered env ⟨w,c,period,es,(allocateInvoiceNumber env db w c period.1).1,
      (allocateInvoiceNumber env db w c period.1).2,vat,finalize⟩ := by
  unfold allocateInvoiceNumber
  simp only
  cases hq : db.sequences.get? (w,c.id,getUTCFullYear period.1,
      env.runtime.normalizeReference c.code) with
  | none => exact ⟨rfl,rfl,rfl,rfl⟩
  | some q =>
    have hkey := Table.key_of_get? hq
    have hclient : q.clientId=c.id := congrArg (fun k => k.2.1) hkey
    have hcode : q.prefixText=env.runtime.normalizeReference c.code := congrArg (fun k => k.2.2.2) hkey
    exact ⟨hclient,hcode,rfl⟩

theorem advance_cases {ref : Str} {request : Request} {phase p : Phase}
    (hknown : phase.Known env db)
    (h : Billing.advance env now gen db ⟨ref,request,phase⟩=.ok (db',p)) :
    BillingWrite env gen ⟨ref,request,phase⟩ db db' ∧ p.Known env db' := by
  cases phase with
  | warehouse =>
    obtain ⟨w,_,h⟩ := bind_eq_ok h
    cases h
    refine ⟨.none,?_⟩
    cases request <;> trivial
  | client w =>
    obtain ⟨c,hc,h⟩ := bind_eq_ok h
    obtain ⟨next,hnext,h⟩ := bind_eq_ok h
    cases h
    exact ⟨.none,afterClient_known (resolveClient_found hc) hnext⟩
  | upsert u =>
    obtain ⟨⟨events,row⟩,hup,h⟩ := bind_eq_ok h
    cases h
    exact ⟨.upsert u events row rfl hup,trivial⟩
  | upserts us =>
    obtain ⟨⟨events,rows⟩,hup,h⟩ := bind_eq_ok h
    cases h
    exact ⟨.upserts us events rows rfl hup,trivial⟩
  | links w c period =>
    cases h
    refine ⟨.none,?_⟩
    split <;> trivial
  | quants w c period ids =>
    cases request with
    | generateStorageDayBilling client dto =>
      simp only [Billing.advance] at h
      split at h
      · cases h
      · split at h
        · cases h
          refine ⟨.none,?_⟩
          unfold toStorageUpserts
          cases dto.dryRun <;> trivial
        · cases h
          exact ⟨.none,trivial⟩
    | _ => cases h; exact ⟨.none,trivial⟩
  | rate w c period quants =>
    cases request with
    | generateStorageDayBilling client dto =>
      simp only [Billing.advance] at h
      split at h
      · cases h
      · cases h
        refine ⟨.none,?_⟩
        unfold toStorageUpserts
        cases dto.dryRun <;> trivial
    | _ => cases h; exact ⟨.none,trivial⟩
  | event w =>
    cases request with
    | voidBillingEvent reference =>
      simp only [Billing.advance] at h
      split at h
      · cases h
      · split at h
        · cases h
        · split at h
          · cases h
          · cases h
            exact ⟨.none,trivial⟩
    | _ => cases h; exact ⟨.none,trivial⟩
  | voidEvent read =>
    cases h
    exact ⟨.voidEvent read rfl,trivial⟩
  | events w c period =>
    cases request with
    | createBillingInvoice client dto =>
      simp only [Billing.advance] at h
      split at h
      · cases h
      · split at h
        · cases h
          exact ⟨.none,⟨hknown,fun e he => invoiceEvents_found he⟩,trivial⟩
        · cases h
          exact ⟨.none,hknown,fun e he => invoiceEvents_found he⟩
    | _ => cases h; exact ⟨.none,hknown⟩
  | sequence w c period es =>
    cases request with
    | createBillingInvoice client dto =>
      cases h
      exact ⟨.none,hknown,allocate_numbered⟩
    | _ => cases h; exact ⟨.none,hknown⟩
  | insertInvoice d =>
    obtain ⟨⟨db₁,invoice⟩,hstore,h⟩ := bind_eq_ok h
    cases h
    exact ⟨.insertInvoice d _ invoice rfl hstore,trivial⟩
  | invoice w c =>
    obtain ⟨i,hi,h⟩ := bind_eq_ok h
    cases h
    exact ⟨.none,i,Table.get?_key (resolveInvoice_found hi),rfl⟩
  | lines c i =>
    obtain ⟨next,hnext,h⟩ := bind_eq_ok h
    cases h
    exact ⟨.none,afterLines_known hknown hnext⟩
  | finalizeInvoice i ids =>
    cases h
    exact ⟨.finalizeInvoice i ids rfl,trivial⟩
  | release i ids =>
    cases h
    exact ⟨.none,hknown⟩
  | voidInvoice i ids released =>
    cases h
    exact ⟨.voidInvoice i ids released rfl,trivial⟩
  | count i ls =>
    cases request with
    | createBillingCreditNote client reference dto =>
      simp only [Billing.advance] at h
      split at h
      · cases h
        refine ⟨.none,hknown,?_⟩
        intro k hk
        cases hk
      · cases h
        refine ⟨.none,hknown,?_⟩
        intro k hk
        cases hk
        rfl
    | _ => cases h; exact ⟨.none,hknown⟩
  | insertNote d =>
    obtain ⟨⟨db₁,note⟩,hstore,h⟩ := bind_eq_ok h
    cases h
    exact ⟨.insertNote d _ note rfl hstore,trivial⟩
  | note w c =>
    obtain ⟨n,hn,h⟩ := bind_eq_ok h
    split at h
    · cases h
    · cases h
      exact ⟨.none,n,Table.get?_key (resolveCreditNote_found hn),rfl⟩
  | finalizeNote n =>
    cases h
    exact ⟨.finalizeNote n rfl,trivial⟩
  | ended r =>
    cases request <;> cases h <;> exact ⟨.none,trivial⟩

end Knowledge

section Runs
variable {env : Env} {s : System}

/-- Clients, stock and rates may differ, the books do not. -/
structure BillingDb.SameBooks (db db' : BillingDb) : Prop where
  clients : Table.Grows WmsClient.fixed db.clients db'.clients
  events : db'.events=db.events
  invoices : db'.invoices=db.invoices
  lines : db'.lines=db.lines
  sequences : db'.sequences=db.sequences
  notes : db'.notes=db.notes
  noteLines : db'.noteLines=db.noteLines

theorem BillingDb.SameBooks.refl (db : BillingDb) : db.SameBooks db :=
  ⟨.refl _,rfl,rfl,rfl,rfl,rfl,rfl⟩

theorem BillingDb.SameBooks.extends {db db' : BillingDb} (h : db.SameBooks db') :
    db.Extends db' := by
  refine extends_of_lines h.clients ?_ ?_ h.lines ?_
  · rw [h.events]
    exact fun _ hx => hx
  · rw [h.invoices]
    exact .refl _
  · rw [h.notes]
    exact .refl _

theorem grows_upsertClient (clients : Table WmsClient.id) (id : Uuid) (code currency : Str) :
    Table.Grows WmsClient.fixed clients (upsertClient clients id code currency) := by
  unfold upsertClient
  split
  · exact Table.grows_modifyWhere clients (fun c => c.code=code)
      (fun c => {c with billingCurrency := currency}) (fun _ => rfl) fun _ => rfl
  · exact Table.grows_insert _ _

theorem createClient_sameBooks (env : Env) (db : BillingDb) (id : Uuid) (code currency : Str) :
    db.SameBooks (createClient env db id code currency) := by
  unfold createClient
  simp only
  split
  · exact .refl db
  · exact ⟨grows_upsertClient _ _ _ _,rfl,rfl,rfl,rfl,rfl,rfl⟩

def System.Known (env : Env) (s : System) : Prop :=
  ∀ i c, s.call i=some c → c.phase.Known env s.db

theorem System.Known.put {db : BillingDb} {i : ℕ} {c : Call} (h : s.Known env)
    (hext : s.db.Extends db) (hc : c.phase.Known env db) : (s.put db i c).Known env := by
  intro j k hk
  by_cases hj : j=i
  · subst hj
    have hsame : some c=some k := by simpa [System.put] using hk
    cases hsame
    exact hc
  · have hother : s.call j=some k := by simpa [System.put,hj] using hk
    exact (h j k hother).extends hext

theorem put_call (s : System) (db : BillingDb) (i : ℕ) (c : Call) : (s.put db i c).call i=some c := by
  simp [System.put]

theorem put_put (s : System) (db db' : BillingDb) (i : ℕ) (c c' : Call) :
    (s.put db i c).put db' i c'=s.put db' i c' := by
  simp [System.put]

theorem act_none {i : ℕ} {gen : ℕ → Uuid} (hc : s.call i=none) :
    System.act env s (.advance i gen)=s := by
  simp only [System.act,hc]

theorem act_error {i : ℕ} {gen : ℕ → Uuid} {c : Call} {e : BillingError} (hc : s.call i=some c)
    (h : Billing.advance env s.now gen s.db c=.error e) :
    System.act env s (.advance i gen)=s.put s.db i {c with phase := .ended (.error e)} := by
  simp only [System.act,hc,h]

theorem act_ok {i : ℕ} {gen : ℕ → Uuid} {c : Call} {db : BillingDb} {p : Phase} (hc : s.call i=some c)
    (h : Billing.advance env s.now gen s.db c=.ok (db,p)) :
    System.act env s (.advance i gen)=s.put db i {c with phase := p} := by
  simp only [System.act,hc,h]

/-- An action leaves the books, or is a statement that writes. -/
inductive BooksStep (env : Env) (s : System) (a : Action) (db' : BillingDb) : Prop
  | same (h : s.db.SameBooks db')
  | write (i gen c) (ha : a=.advance i gen) (hc : s.call i=some c)
      (h : BillingWrite env gen c s.db db')

theorem act_cases (h : s.Known env) (a : Action) :
    BooksStep env s a (System.act env s a).db ∧ (System.act env s a).Known env := by
  cases a with
  | start i ref request =>
    unfold System.act
    simp only
    split
    · exact ⟨.same (.refl _),h⟩
    · exact ⟨.same (.refl _),h.put (.refl _) trivial⟩
  | advance i gen =>
    cases hc : s.call i with
    | none =>
      rw [act_none hc]
      exact ⟨.same (.refl _),h⟩
    | some c =>
      cases hadv : Billing.advance env s.now gen s.db c with
      | error e =>
        rw [act_error hc hadv]
        exact ⟨.same (.refl _),h.put (.refl _) trivial⟩
      | ok x =>
        obtain ⟨db',p⟩ := x
        obtain ⟨hwrite,hknown⟩ := advance_cases (h i c hc) hadv
        rw [act_ok hc hadv]
        exact ⟨.write i gen c rfl hc hwrite,h.put hwrite.extends hknown⟩
  | tick n => exact ⟨.same (.refl _),h⟩
  | createClient id code currency =>
    have hsame := createClient_sameBooks env s.db id code currency
    exact ⟨.same hsame,fun i c hc => (h i c hc).extends hsame.extends⟩
  | stock links quants cards =>
    have hsame : s.db.SameBooks {s.db with links, quants, cards} :=
      ⟨.refl _,rfl,rfl,rfl,rfl,rfl,rfl⟩
    exact ⟨.same hsame,fun i c hc => (h i c hc).extends hsame.extends⟩

theorem known_initial (env : Env) (places : OrderUpdates.Places) : (System.initial places).Known env := by
  intro i c hc
  cases hc

/-- This holds of the state that a statement finds. -/
def Action.Meets (p : BillingDb → (ℕ → Uuid) → Phase → Prop) (s : System) : Action → Prop
  | .advance i gen => ∀ c∈s.call i, p s.db gen c.phase
  | _ => True

/-- Every statement of the run meets the condition. -/
def System.RunMeets (env : Env) (p : BillingDb → (ℕ → Uuid) → Phase → Prop) (s : System) :
    List Action → Prop
  | [] => True
  | a::as => a.Meets p s ∧ System.RunMeets env p (System.act env s a) as

instance Action.decidableMeets (p : BillingDb → (ℕ → Uuid) → Phase → Prop)
    [∀ db gen phase, Decidable (p db gen phase)] (s : System) : ∀ a : Action, Decidable (a.Meets p s)
  | .advance i gen => inferInstanceAs (Decidable (∀ c∈s.call i, p s.db gen c.phase))
  | .start _ _ _ | .tick _ | .createClient _ _ _ | .stock _ _ _ => inferInstanceAs (Decidable True)

instance System.decidableRunMeets (env : Env) (p : BillingDb → (ℕ → Uuid) → Phase → Prop)
    [∀ db gen phase, Decidable (p db gen phase)] :
    ∀ (s : System) (as : List Action), Decidable (s.RunMeets env p as)
  | _, [] => inferInstanceAs (Decidable True)
  | s, a::as =>
    have := System.decidableRunMeets env p (System.act env s a) as
    inferInstanceAs (Decidable (a.Meets p s ∧ System.RunMeets env p (System.act env s a) as))

theorem known_run (as : List Action) (h : s.Known env) : (System.run env s as).Known env := by
  induction as generalizing s with
  | nil => exact h
  | cons a as ih => exact ih (act_cases h a).2

theorem run_append (as bs : List Action) :
    System.run env s (as++bs)=System.run env (System.run env s as) bs := List.foldl_append

section Rule
variable {p : BillingDb → (ℕ → Uuid) → Phase → Prop} {I : BillingDb → Prop}

theorem runMeets_append {as bs : List Action} :
    s.RunMeets env p (as++bs) ↔ s.RunMeets env p as ∧ (System.run env s as).RunMeets env p bs := by
  induction as generalizing s with
  | nil => simp [System.RunMeets,System.run]
  | cons a as ih =>
    rw [List.cons_append,System.RunMeets,System.RunMeets,ih,and_assoc]
    exact Iff.rfl

theorem runMeets_mono {p' : BillingDb → (ℕ → Uuid) → Phase → Prop}
    (h : ∀ db gen phase, p db gen phase → p' db gen phase) (as : List Action)
    (hmeets : s.RunMeets env p as) : s.RunMeets env p' as := by
  induction as generalizing s with
  | nil => trivial
  | cons a as ih =>
    refine ⟨?_,ih hmeets.2⟩
    cases a with
    | advance i gen => exact fun c hc => h _ _ _ (hmeets.1 c hc)
    | _ => trivial

theorem run_invariant (hsame : ∀ db db', db.SameBooks db' → I db → I db')
    (hwrite : ∀ gen c db db', BillingWrite env gen c db db' → c.phase.Known env db →
      p db gen c.phase → I db → I db')
    (as : List Action) (hknown : s.Known env) (h : I s.db) (hmeets : s.RunMeets env p as) :
    I (System.run env s as).db := by
  induction as generalizing s with
  | nil => exact h
  | cons a as ih =>
    obtain ⟨ha,has⟩ := hmeets
    obtain ⟨hstep,hknown'⟩ := act_cases hknown a
    refine ih hknown' ?_ has
    cases hstep with
    | same hs => exact hsame _ _ hs h
    | write i gen c hact hc hw =>
      subst hact
      exact hwrite gen c _ _ hw (hknown i c hc) (ha c hc) h

end Rule
end Runs

/-- Some days of the year 2026. -/
def demoDate (value : Str) : Option ℤ :=
  if value="2026-01-01".toList then some 1767225600000
  else if value="2026-01-15".toList then some 1768435200000
  else if value="2026-02-01".toList then some 1769904000000
  else none

/-- The digests of what the examples hash. -/
def demoHash (seed : Str) : Str :=
  let warehouse := "10000000-0000-4000-8000-000000000000"
  let quant := "70000000-0000-4000-8000-000000000000"
  if seed=("ACME:"++warehouse++":"++quant++":20260101:20260201").toList then "C13944C45916".toList
  else if seed=("ACME:"++warehouse++":"++quant++":20260115:20260201").toList then "0265943F7D20".toList
  else if seed=("ACME:"++warehouse++":PICK:RESOURCE:AUTO:20260115").toList then "2B77F903B4A2".toList
  else if seed=("ACME:"++warehouse++":PACK:RESOURCE:AUTO:20260115").toList then "2A40A78C6414".toList
  else []

def demoEnv : Env where
  runtime := ⟨fun v => v.map Char.toUpper,demoDate⟩
  shortHash := demoHash
  localeCompare := fun a b => decide (a≤b)
  collates := fun a b => decide (a≤b)
  readsUuid := isUuid

def demoPlaces : OrderUpdates.Places := ⟨[OrderUpdates.mainWarehouse],[],[]⟩

def demoClient : Action := .createClient (OrderUpdates.someUuid '2' OrderUpdates.isHex_two) "ACME".toList "EUR".toList

/-- A call of number `i`, all of its statements with nothing in between. -/
def demoCallAt (warehouse : Str) (i : ℕ) (id : Uuid) (statements : ℕ) (request : Request) :
    List Action :=
  .start i warehouse request::List.replicate statements (.advance i fun _ => id)

def demoCall : ℕ → Uuid → ℕ → Request → List Action := demoCallAt "MAIN".toList

def demoEvent (reference : Str) (quantity : ℕ) : Request := .createBillingEvent "ACME".toList
  {eventType := .MANUAL
   status := some .BILLABLE
   reference := some reference
   quantity := some quantity
   unitPriceMinor := some 500
   occurredAt := some "2026-01-15".toList}

/-- The invoice of January, finalized at once. -/
def demoInvoice (number : Option Str) : Request := .createBillingInvoice "ACME".toList
  {periodStart := "2026-01-01".toList
   periodEnd := "2026-02-01".toList
   invoiceNumber := number
   finalize := true}

/-- A client with an event that is invoiced. -/
def demoInvoiced : List Action :=
  demoClient::(demoCall 1 (OrderUpdates.someUuid '3' OrderUpdates.isHex_three) 3 (demoEvent "E-1".toList 2)++
    demoCall 2 (OrderUpdates.someUuid '4' OrderUpdates.isHex_four) 4 (demoInvoice (some "INV-1".toList)))

end AardvarkWms.Billing
