import AardvarkWms.BillingWrites
import Mathlib.Data.List.Pairwise

/-! Billing events and the invoices that their lines are on. -/
namespace AardvarkWms.Billing

open OrderUpdates (Uuid someUuid)

def BillingDb.isFinalized (db : BillingDb) (invoiceId : Uuid) : Bool :=
  (db.invoices.get? invoiceId).any (·.status=.FINALIZED)

/-- The line has the event, and its invoice is finalized. -/
def BillingDb.Invoices (db : BillingDb) (l : BillingInvoiceLine) (e : BillingEvent) : Prop :=
  l.billingEventId=some e.id ∧ db.isFinalized l.invoiceId=true

/-- An event is invoiced where a line of a finalized invoice has it, and then it is on that line only,
with its amount and currency. -/
def BillingDb.Consistent (db : BillingDb) : Prop :=
  ∀ e∈db.events.rows, (e.status=.INVOICED ↔ ∃ l∈db.lines.rows, db.Invoices l e) ∧
    (e.status=.INVOICED → ∃ l∈db.lines.rows, db.Invoices l e ∧ l.amountMinor=e.amountMinor ∧
      l.currency=e.currency ∧ ∀ k∈db.lines.rows, k.billingEventId=some e.id → k=l)

def BillingDb.hasStatus (db : BillingDb) (status : BillingEventStatus) (id : Uuid) : Prop :=
  ∃ e, db.events.get? id=some e ∧ e.status=status

/-- An upsert that leaves an invoiced event invoiced at its amount and a voided one voided, and makes
no other event invoiced. -/
def EventUpsert.careful (u : EventUpsert) (events : Table BillingEvent.id) : Bool :=
  match events.rows.find? fun e => e.clientId=u.clientId && e.reference=u.reference with
  | none => u.kind.initialStatus≠.INVOICED
  | some e =>
    if e.status=.INVOICED then u.kind.statusOf .INVOICED=.INVOICED && u.amountMinor=e.amountMinor &&
      u.currency=e.currency
    else if e.status=.VOIDED then u.kind.statusOf .VOIDED=.VOIDED
    else u.kind.statusOf e.status≠.INVOICED

def carefulUpserts (events : Table BillingEvent.id) (gen : ℕ → Uuid) : List EventUpsert → Bool
  | [] => true
  | u::us => u.careful events &&
    match upsertEvent events (gen us.length) u with
    | .ok (events,_) => carefulUpserts events gen us
    | .error _ => true

/-- The event is on a line of this invoice. -/
def BillingDb.isOn (db : BillingDb) (invoiceId x : Uuid) : Bool :=
  db.lines.rows.any fun l => l.invoiceId=invoiceId && l.billingEventId=some x

/-- What a write needs of the rows that it finds: the reads it rests on still hold of them. -/
def careful (db : BillingDb) (gen : ℕ → Uuid) : Phase → Bool
  | .upsert u => u.careful db.events
  | .upserts us => carefulUpserts db.events gen us
  | .voidEvent read => (db.events.get? read.id).all (·.status≠.INVOICED)
  | .insertInvoice d => !d.finalize || d.events.all fun read => (db.events.get? read.id).all fun e =>
      e.status≠.VOIDED && e.amountMinor=read.amountMinor && e.currency=read.currency
  | .finalizeInvoice i ids =>
    (ids.all fun x => (db.events.get? x).all fun e =>
      e.status≠.VOIDED && (e.status=.INVOICED || db.isOn i.id x)) &&
    db.lines.rows.all fun l => l.invoiceId≠i.id || (l.billingEventId.bind db.events.get?).all fun e =>
      l.amountMinor=e.amountMinor && l.currency=e.currency
  | .voidInvoice i _ released => db.events.rows.all fun e =>
      e.status≠.INVOICED || decide (e.id∈released)==db.isOn i.id e.id
  | _ => true

section Books
variable {db : BillingDb}

/-- What careful steps keep. -/
structure BillingDb.Books (db : BillingDb) : Prop where
  line : ∀ l∈db.lines.rows, db.invoices.get? l.invoiceId≠none ∧
    ∀ x, l.billingEventId=some x → db.events.get? x≠none
  once : ∀ l∈db.lines.rows, ∀ k∈db.lines.rows, ∀ x, l.billingEventId=some x →
    k.billingEventId=some x → l=k
  invoiced : ∀ e∈db.events.rows, e.status=.INVOICED ↔ ∃ l∈db.lines.rows, db.Invoices l e
  amounts : ∀ e∈db.events.rows, ∀ l∈db.lines.rows, db.Invoices l e →
    l.amountMinor=e.amountMinor ∧ l.currency=e.currency

theorem BillingDb.Books.consistent (h : db.Books) : db.Consistent := by
  intro e he
  refine ⟨h.invoiced e he,?_⟩
  intro hinvoiced
  obtain ⟨l,hl,hline⟩ := (h.invoiced e he).mp hinvoiced
  obtain ⟨hamount,hcurrency⟩ := h.amounts e he l hl hline
  exact ⟨l,hl,hline,hamount,hcurrency,fun k hk hevent => h.once k hk l hl e.id hevent hline.1⟩

/-- No event is lost, comes or ceases to be invoiced, or is changed where it is invoiced. -/
structure EventsKept (events events' : Table BillingEvent.id) : Prop where
  keeps : Table.Keeps events events'
  old : ∀ e'∈events'.rows,
    (∃ e∈events.rows, e.id=e'.id ∧ (e'.status=.INVOICED ↔ e.status=.INVOICED) ∧
      (e.status=.INVOICED → e'.amountMinor=e.amountMinor ∧ e'.currency=e.currency) ∧
      (e.status=.VOIDED → e'.status=.VOIDED)) ∨
    (events.get? e'.id=none ∧ e'.status≠.INVOICED)

theorem EventsKept.refl (events : Table BillingEvent.id) : EventsKept events events :=
  ⟨fun _ h => h,fun e he => .inl ⟨e,he,rfl,Iff.rfl,fun _ => ⟨rfl,rfl⟩,fun h => h⟩⟩

theorem EventsKept.trans {events events' events'' : Table BillingEvent.id}
    (h : EventsKept events events') (h' : EventsKept events' events'') :
    EventsKept events events'' := by
  refine ⟨fun x hx => h'.keeps x (h.keeps x hx),?_⟩
  intro e'' he''
  cases h'.old e'' he'' with
  | inl hold =>
    obtain ⟨e',he',hid',hiff',hamount',hvoided'⟩ := hold
    cases h.old e' he' with
    | inl hold =>
      obtain ⟨e,he,hid,hiff,hamount,hvoided⟩ := hold
      refine .inl ⟨e,he,hid.trans hid',hiff'.trans hiff,?_,fun hv => hvoided' (hvoided hv)⟩
      intro hinvoiced
      obtain ⟨ha,hc⟩ := hamount hinvoiced
      obtain ⟨ha',hc'⟩ := hamount' (hiff.mpr hinvoiced)
      exact ⟨ha'.trans ha,hc'.trans hc⟩
    | inr hnew =>
      obtain ⟨hnone,hstatus⟩ := hnew
      exact .inr ⟨hid' ▸ hnone,fun hi => hstatus (hiff'.mp hi)⟩
  | inr hnew =>
    obtain ⟨hnone,hstatus⟩ := hnew
    refine .inr ⟨?_,hstatus⟩
    by_contra hsome
    exact h.keeps _ hsome hnone

theorem EventsKept.books {events' : Table BillingEvent.id} (h : EventsKept db.events events')
    (hbooks : db.Books) : {db with events := events'}.Books := by
  refine ⟨?_,hbooks.once,?_,?_⟩
  · intro l hl
    obtain ⟨hinvoice,hevent⟩ := hbooks.line l hl
    exact ⟨hinvoice,fun x hx => h.keeps x (hevent x hx)⟩
  · intro e' he'
    cases h.old e' he' with
    | inl hold =>
      obtain ⟨e,he,hid,hiff,_⟩ := hold
      rw [hiff,hbooks.invoiced e he]
      unfold BillingDb.Invoices
      rw [hid]
      exact Iff.rfl
    | inr hnew =>
      obtain ⟨hnone,hstatus⟩ := hnew
      refine ⟨fun hi => absurd hi hstatus,?_⟩
      intro hline
      obtain ⟨l,hl,hevent,_⟩ := hline
      exact absurd hnone ((hbooks.line l hl).2 _ hevent)
  · intro e' he' l hl hline
    cases h.old e' he' with
    | inl hold =>
      obtain ⟨e,he,hid,_,hamount,_⟩ := hold
      have hline' : db.Invoices l e := ⟨hid ▸ hline.1,hline.2⟩
      have hinvoiced := (hbooks.invoiced e he).mpr ⟨l,hl,hline'⟩
      obtain ⟨ha,hc⟩ := hbooks.amounts e he l hl hline'
      obtain ⟨ha',hc'⟩ := hamount hinvoiced
      exact ⟨ha.trans ha'.symm,hc.trans hc'.symm⟩
    | inr hnew => exact absurd hnew.1 ((hbooks.line l hl).2 _ hline.1)

theorem EventsKept.voided {events events' : Table BillingEvent.id} (h : EventsKept events events')
    {x : Uuid} {e : BillingEvent} (he : events.get? x=some e) (hv : e.status=.VOIDED) :
    ∃ e', events'.get? x=some e' ∧ e'.status=.VOIDED := by
  have hfound : events'.get? x≠none := by
    refine h.keeps x ?_
    rw [he]
    exact Option.some_ne_none _
  obtain ⟨e',he'⟩ := Option.ne_none_iff_exists'.mp hfound
  obtain ⟨hmem',hid'⟩ := Table.mem_of_get? he'
  obtain ⟨hmem,hid⟩ := Table.mem_of_get? he
  refine ⟨e',he',?_⟩
  cases h.old e' hmem' with
  | inl hold =>
    obtain ⟨o,ho,hoid,_,_,hvoided⟩ := hold
    have hsame : o=e := Table.inj_of_nodup events.nodup ho hmem (hoid.trans (hid'.trans hid.symm))
    exact hvoided (hsame ▸ hv)
  | inr hnew =>
    rw [hid',he] at hnew
    cases hnew.1

end Books

theorem careful_updated {events : Table BillingEvent.id} {u : EventUpsert} {e : BillingEvent}
    (hcareful : u.careful events=true)
    (he : (events.rows.find? fun e => e.clientId=u.clientId && e.reference=u.reference)=some e) :
    ((u.updated e).status=.INVOICED ↔ e.status=.INVOICED) ∧
    (e.status=.INVOICED → u.amountMinor=e.amountMinor ∧ u.currency=e.currency) ∧
    (e.status=.VOIDED → (u.updated e).status=.VOIDED) := by
  have hstatus : (u.updated e).status=u.kind.statusOf e.status := rfl
  unfold EventUpsert.careful at hcareful
  rw [he] at hcareful
  rw [hstatus]
  simp only at hcareful
  split at hcareful
  · rename_i hinvoiced
    simp only [Bool.and_eq_true,decide_eq_true_eq] at hcareful
    obtain ⟨⟨hkept,hamount⟩,hcurrency⟩ := hcareful
    rw [hinvoiced]
    refine ⟨⟨fun _ => rfl,fun _ => hkept⟩,fun _ => ⟨hamount,hcurrency⟩,?_⟩
    intro hv
    cases hv
  · rename_i hother
    split at hcareful
    · rename_i hvoided
      have hkept := of_decide_eq_true hcareful
      rw [hvoided,hkept]
      refine ⟨Iff.rfl,?_,fun _ => rfl⟩
      intro hi
      cases hi
    · rename_i hvoided
      have hkept := of_decide_eq_true hcareful
      refine ⟨⟨fun hi => absurd hi hkept,fun hi => absurd hi hother⟩,fun hi => absurd hi hother,?_⟩
      exact fun hv => absurd hv hvoided

theorem Upserted.kept {events events' : Table BillingEvent.id} {id : Uuid} {u : EventUpsert}
    {row : BillingEvent} (h : Upserted events id u events' row) (hcareful : u.careful events=true) :
    EventsKept events events' := by
  refine ⟨h.keeps,?_⟩
  cases h with
  | updated e he =>
    obtain ⟨hiff,hamount,hvoided⟩ := careful_updated hcareful he
    have hmem := List.mem_of_find?_eq_some he
    intro e' he'
    obtain ⟨o,ho,hchanged⟩ := List.mem_map.mp he'
    split at hchanged
    · rename_i hid
      have hsame : o=e := Table.inj_of_nodup events.nodup ho hmem hid
      subst hsame
      subst hchanged
      exact .inl ⟨o,ho,rfl,hiff,hamount,hvoided⟩
    · subst hchanged
      exact .inl ⟨o,ho,rfl,Iff.rfl,fun _ => ⟨rfl,rfl⟩,fun hv => hv⟩
  | created hnone hnew =>
    intro e' he'
    rw [Table.rows_insert hnew] at he'
    cases List.mem_append.mp he' with
    | inl hold => exact .inl ⟨e',hold,rfl,Iff.rfl,fun _ => ⟨rfl,rfl⟩,fun hv => hv⟩
    | inr hfresh =>
      have hrow := List.mem_singleton.mp hfresh
      subst hrow
      unfold EventUpsert.careful at hcareful
      rw [hnone] at hcareful
      exact .inr ⟨hnew,of_decide_eq_true hcareful⟩

theorem upsertEvents_kept {events events' : Table BillingEvent.id} {gen : ℕ → Uuid}
    {us : List EventUpsert} {rows : List BillingEvent}
    (h : upsertEvents events gen us=.ok (events',rows)) (hcareful : carefulUpserts events gen us=true) :
    EventsKept events events' := by
  induction us generalizing events rows with
  | nil =>
    cases h
    exact .refl _
  | cons u us ih =>
    obtain ⟨events₁,row,rest,hfirst,hrest⟩ := upsertEvents_cons h
    unfold carefulUpserts at hcareful
    rw [hfirst] at hcareful
    obtain ⟨hu,hus⟩ := Bool.and_eq_true_iff.mp hcareful
    exact ((upsertEvent_ok hfirst).kept hu).trans (ih hrest hus)

theorem voidEvent_kept {events : Table BillingEvent.id} {x : Uuid}
    (hcareful : (events.get? x).all (·.status≠.INVOICED)=true) :
    EventsKept events (setStatus events [x] none .VOIDED) := by
  refine ⟨keeps_setStatus _ _ _ _,?_⟩
  intro e' he'
  obtain ⟨e,he,hchanged⟩ := mem_setStatus.mp he'
  split at hchanged
  · rename_i hx
    have hid : e.id=x := List.mem_singleton.mp hx.1
    rw [← hid,Table.get?_key he] at hcareful
    have hstatus : e.status≠.INVOICED := of_decide_eq_true hcareful
    subst hchanged
    refine .inl ⟨e,he,rfl,⟨?_,fun hi => absurd hi hstatus⟩,fun hi => absurd hi hstatus,fun _ => rfl⟩
    intro hi
    cases hi
  · subst hchanged
    exact .inl ⟨e,he,rfl,Iff.rfl,fun _ => ⟨rfl,rfl⟩,fun hv => hv⟩

section Documents
variable {env : Env} {db db' : BillingDb}

theorem isFinalized_setInvoiceStatus {id x : Uuid} {status : BillingInvoiceStatus}
    (hfound : db.invoices.get? id≠none) :
    ((setInvoiceStatus db.invoices id status).get? x).any (·.status=.FINALIZED)=
      if x=id then decide (status=.FINALIZED) else db.isFinalized x := by
  unfold setInvoiceStatus
  rw [Table.get?_modify]
  split
  · rename_i hx
    subst hx
    obtain ⟨i,hi⟩ := Option.ne_none_iff_exists'.mp hfound
    rw [hi]
    rfl
  · rfl

theorem status_setStatus {events : Table BillingEvent.id} {ids : List Uuid}
    {old : Option BillingEventStatus} {status : BillingEventStatus} {e' : BillingEvent}
    (h : e'∈(setStatus events ids old status).rows) :
    ∃ e∈events.rows, e.id=e'.id ∧ e.amountMinor=e'.amountMinor ∧ e.currency=e'.currency ∧
      e'.status=if e.id∈ids ∧ old.all (e.status=·)=true then status else e.status := by
  obtain ⟨e,he,hchanged⟩ := mem_setStatus.mp h
  split at hchanged
  · rename_i hc
    subst hchanged
    exact ⟨e,he,rfl,rfl,rfl,(if_pos hc).symm⟩
  · rename_i hc
    subst hchanged
    exact ⟨e,he,rfl,rfl,rfl,(if_neg hc).symm⟩

theorem get?_setStatus (events : Table BillingEvent.id) (ids : List Uuid)
    (old : Option BillingEventStatus) (status : BillingEventStatus) (x : Uuid) :
    (setStatus events ids old status).get? x=(events.get? x).map fun e =>
      if e.id∈ids ∧ old.all (e.status=·)=true then {e with status} else e := by
  unfold setStatus
  rw [Table.get?_modifyWhere]
  simp only [Bool.and_eq_true,decide_eq_true_eq]

theorem voided_setStatus {events : Table BillingEvent.id} {ids : List Uuid}
    {old : Option BillingEventStatus} {status : BillingEventStatus} {x : Uuid} {e : BillingEvent}
    (he : events.get? x=some e) (hv : e.status=.VOIDED)
    (h : ¬(x∈ids ∧ old.all (e.status=·)=true)) :
    ∃ e', (setStatus events ids old status).get? x=some e' ∧ e'.status=.VOIDED := by
  have hid := Table.key_of_get? he
  refine ⟨e,?_,hv⟩
  rw [get?_setStatus,he,Option.map_some,hid,if_neg h]

section Store
variable {d : InvoiceDraft} {id : Uuid} {invoice : BillingInvoice}

theorem Stored.isFinalized_new (h : Stored env db d id db' invoice) :
    db'.isFinalized id=d.finalize := by
  have hid : invoice.id=id := by rw [h.isInvoice]; rfl
  have hget : db'.invoices.get? id=some invoice := by
    rw [h.invoices,← hid]
    exact Table.get?_insert_new (hid ▸ h.new)
  unfold BillingDb.isFinalized
  rw [hget,h.isInvoice]
  cases hd : d.finalize <;> simp [InvoiceDraft.invoice,hd]

theorem Stored.isFinalized_old (h : Stored env db d id db' invoice) {x : Uuid}
    (hx : db.invoices.get? x≠none) : db'.isFinalized x=db.isFinalized x := by
  have hid : invoice.id=id := by rw [h.isInvoice]; rfl
  have hne : x≠invoice.id := by
    intro hsame
    rw [hsame,hid] at hx
    exact hx h.new
  unfold BillingDb.isFinalized
  rw [h.invoices,Table.get?_insert_ne _ hne]

theorem Stored.status (h : Stored env db d id db' invoice) {e' : BillingEvent}
    (he' : e'∈db'.events.rows) : ∃ e∈db.events.rows, e.id=e'.id ∧ e.amountMinor=e'.amountMinor ∧
      e.currency=e'.currency ∧ e'.status=if d.finalize=true ∧ e.id∈d.events.map (·.id) then .INVOICED
        else e.status := by
  rw [h.events] at he'
  split at he'
  · rename_i hd
    obtain ⟨e,he,hid,hamount,hcurrency,hstatus⟩ := status_setStatus he'
    refine ⟨e,he,hid,hamount,hcurrency,?_⟩
    rw [hstatus]
    simp [hd]
  · rename_i hd
    refine ⟨e',he',rfl,rfl,rfl,?_⟩
    rw [if_neg fun h => hd h.1]

theorem Stored.line (h : Stored env db d id db' invoice) {l : BillingInvoiceLine}
    (hl : l∈db'.lines.rows) : l∈db.lines.rows ∨
      l∈buildInvoiceLines env id d.vatRateBps d.events := by
  rw [h.inserted.rows] at hl
  exact List.mem_append.mp hl

theorem Stored.once (h : Stored env db d id db' invoice)
    (honce : ∀ l∈db.lines.rows, ∀ k∈db.lines.rows, ∀ x, l.billingEventId=some x →
      k.billingEventId=some x → l=k) :
    ∀ l∈db'.lines.rows, ∀ k∈db'.lines.rows, ∀ x, l.billingEventId=some x →
      k.billingEventId=some x → l=k := by
  intro l hl k hk x hlx hkx
  have hlne : l.billingEventId≠none := by rw [hlx]; exact Option.some_ne_none _
  have hkne : k.billingEventId≠none := by rw [hkx]; exact Option.some_ne_none _
  have hsame : l.billingEventId=k.billingEventId := hlx.trans hkx.symm
  cases h.line hl with
  | inl hlold =>
    cases h.line hk with
    | inl hkold => exact honce l hlold k hkold x hlx hkx
    | inr hknew => exact absurd hsame (h.inserted.events k hknew l hlold hkne)
  | inr hlnew =>
    cases h.line hk with
    | inl hkold => exact absurd hsame.symm (h.inserted.events l hlnew k hkold hlne)
    | inr hknew =>
      by_contra hne
      have hsymm : Std.Symm fun l k : BillingInvoiceLine =>
          l.billingEventId≠none → k.billingEventId≠l.billingEventId :=
        ⟨fun a b hab hb he => hab (he ▸ hb) he.symm⟩
      exact h.inserted.once.forall hlnew hknew hne hlne hsame.symm

theorem Stored.newLine {l : BillingInvoiceLine}
    (hl : l∈buildInvoiceLines env id d.vatRateBps d.events) {x : Uuid}
    (hx : l.billingEventId=some x) : ∃ read∈d.events, read.id=x ∧ l.amountMinor=read.amountMinor ∧
      l.currency=read.currency := by
  obtain ⟨read,hread,n,rfl⟩ := mem_buildInvoiceLines hl
  exact ⟨read,hread,Option.some.inj hx,rfl,rfl⟩

theorem Stored.books (h : Stored env db d id db' invoice) (hbooks : db.Books)
    (hknown : ∀ e∈d.events, db.events.get? e.id≠none) {gen : ℕ → Uuid}
    (hcareful : careful db gen (.insertInvoice d)=true) : db'.Books := by
  have hext := h.extends
  refine ⟨?_,h.once hbooks.once,?_,?_⟩
  · intro l hl
    cases h.line hl with
    | inl hold =>
      obtain ⟨hinvoice,hevent⟩ := hbooks.line l hold
      exact ⟨Table.Grows.keeps hext.invoices _ hinvoice,fun x hx => hext.events _ (hevent x hx)⟩
    | inr hnew =>
      have hid : invoice.id=id := by rw [h.isInvoice]; rfl
      constructor
      · rw [invoiceId_of_mem_build hnew,h.invoices,← hid,Table.get?_insert_new (hid ▸ h.new)]
        exact Option.some_ne_none _
      · intro x hx
        obtain ⟨read,hread,hrid,_⟩ := Stored.newLine hnew hx
        exact hrid ▸ hext.events _ (hknown read hread)
  · intro e' he'
    obtain ⟨e,he,hid,_,_,hstatus⟩ := h.status he'
    rw [hstatus]
    split
    · rename_i hnew
      obtain ⟨hd,hin⟩ := hnew
      obtain ⟨read,hread,hrid⟩ := List.mem_map.mp hin
      obtain ⟨l,hl,hevent⟩ := buildInvoiceLines_mem env id d.vatRateBps hread
      refine ⟨fun _ => ?_,fun _ => rfl⟩
      refine ⟨l,h.inserted.rows ▸ List.mem_append_right _ hl,?_,?_⟩
      · rw [hevent,hrid,hid]
      · rw [invoiceId_of_mem_build hl,h.isFinalized_new,hd]
    · rename_i hkept
      rw [hbooks.invoiced e he]
      constructor
      · intro hline
        obtain ⟨l,hl,hevent,hfinal⟩ := hline
        refine ⟨l,h.inserted.rows ▸ List.mem_append_left _ hl,hid ▸ hevent,?_⟩
        rw [h.isFinalized_old (hbooks.line l hl).1]
        exact hfinal
      · intro hline
        obtain ⟨l,hl,hevent,hfinal⟩ := hline
        cases h.line hl with
        | inl hold =>
          rw [h.isFinalized_old (hbooks.line l hold).1] at hfinal
          exact ⟨l,hold,hid ▸ hevent,hfinal⟩
        | inr hnew =>
          obtain ⟨read,hread,hrid,_⟩ := Stored.newLine hnew hevent
          rw [invoiceId_of_mem_build hnew,h.isFinalized_new] at hfinal
          have hin : e.id∈d.events.map (·.id) := List.mem_map.mpr ⟨read,hread,hrid.trans hid.symm⟩
          exact absurd ⟨hfinal,hin⟩ hkept
  · intro e' he' l hl hline
    obtain ⟨e,he,hid,hamount,hcurrency,_⟩ := h.status he'
    obtain ⟨hevent,hfinal⟩ := hline
    cases h.line hl with
    | inl hold =>
      rw [h.isFinalized_old (hbooks.line l hold).1] at hfinal
      obtain ⟨ha,hc⟩ := hbooks.amounts e he l hold ⟨hid ▸ hevent,hfinal⟩
      exact ⟨ha.trans hamount,hc.trans hcurrency⟩
    | inr hnew =>
      obtain ⟨read,hread,hrid,ha,hc⟩ := Stored.newLine hnew hevent
      rw [invoiceId_of_mem_build hnew,h.isFinalized_new] at hfinal
      have hget : db.events.get? read.id=some e := by
        rw [hrid,← hid]
        exact Table.get?_key he
      simp only [careful,hfinal,Bool.not_true,Bool.false_or,List.all_eq_true] at hcareful
      have hread' := hcareful read hread
      rw [hget] at hread'
      simp only [Option.all_some,Bool.and_eq_true,decide_eq_true_eq] at hread'
      obtain ⟨⟨_,hra⟩,hrc⟩ := hread'
      exact ⟨ha.trans (hra.symm.trans hamount),hc.trans (hrc.symm.trans hcurrency)⟩

theorem Stored.voided (h : Stored env db d id db' invoice) {gen : ℕ → Uuid}
    (hcareful : careful db gen (.insertInvoice d)=true) {x : Uuid} {e : BillingEvent}
    (he : db.events.get? x=some e) (hv : e.status=.VOIDED) :
    ∃ e', db'.events.get? x=some e' ∧ e'.status=.VOIDED := by
  rw [h.events]
  split
  · rename_i hd
    refine voided_setStatus he hv ?_
    intro hin
    obtain ⟨read,hread,hrid⟩ := List.mem_map.mp hin.1
    simp only [careful,hd,Bool.not_true,Bool.false_or,List.all_eq_true] at hcareful
    have hread' := hcareful read hread
    rw [hrid,he] at hread'
    simp [hv] at hread'
  · exact ⟨e,he,hv⟩

end Store

section Finalize
variable {i : BillingInvoice} {ids : List Uuid} {gen : ℕ → Uuid}

theorem finalize_books (hbooks : db.Books) (hcovers : db.Covers i ids)
    (hcareful : careful db gen (.finalizeInvoice i ids)=true) :
    {db with
      invoices := setInvoiceStatus db.invoices i.id .FINALIZED
      events := setStatus db.events ids none .INVOICED}.Books := by
  have hfinal : ∀ x, ((setInvoiceStatus db.invoices i.id .FINALIZED).get? x).any
      (·.status=.FINALIZED)=if x=i.id then true else db.isFinalized x :=
    fun x => isFinalized_setInvoiceStatus hcovers.1.found
  obtain ⟨hready,hamounts⟩ := Bool.and_eq_true_iff.mp hcareful
  rw [List.all_eq_true] at hready hamounts
  refine ⟨?_,hbooks.once,?_,?_⟩
  · intro l hl
    obtain ⟨hinvoice,hevent⟩ := hbooks.line l hl
    exact ⟨Table.Grows.keeps (grows_setInvoiceStatus _ _ _) _ hinvoice,
      fun x hx => keeps_setStatus _ _ _ _ x (hevent x hx)⟩
  · intro e' he'
    obtain ⟨e,he,hid,_,_,hstatus⟩ := status_setStatus he'
    have hstill : (∃ l∈db.lines.rows, db.Invoices l e) → ∃ l∈db.lines.rows,
        l.billingEventId=some e'.id ∧ (if l.invoiceId=i.id then true else db.isFinalized l.invoiceId)=true := by
      intro hline
      obtain ⟨l,hl,hevent,hf⟩ := hline
      refine ⟨l,hl,hid ▸ hevent,?_⟩
      rw [hf]
      exact ite_self _
    simp only [BillingDb.Invoices,BillingDb.isFinalized,hfinal] at hstill ⊢
    rw [hstatus]
    split
    · rename_i hin
      refine ⟨fun _ => ?_,fun _ => rfl⟩
      have hevent := hready e.id hin.1
      rw [Table.get?_key he] at hevent
      simp only [Option.all_some,Bool.and_eq_true,Bool.or_eq_true,decide_eq_true_eq] at hevent
      cases hevent.2 with
      | inl hinvoiced => exact hstill ((hbooks.invoiced e he).mp hinvoiced)
      | inr hon =>
        obtain ⟨l,hl,hline⟩ := List.any_eq_true.mp hon
        simp only [Bool.and_eq_true,decide_eq_true_eq] at hline
        exact ⟨l,hl,hid ▸ hline.2,if_pos hline.1⟩
    · rename_i hout
      rw [hbooks.invoiced e he]
      refine ⟨hstill,?_⟩
      intro hline
      obtain ⟨l,hl,hevent,hf⟩ := hline
      split at hf
      · rename_i hinvoice
        exact absurd ⟨hid ▸ hcovers.2 l hl hinvoice _ hevent,rfl⟩ hout
      · exact ⟨l,hl,hid ▸ hevent,hf⟩
  · intro e' he' l hl hline
    obtain ⟨e,he,hid,hamount,hcurrency,_⟩ := status_setStatus he'
    obtain ⟨hevent,hf⟩ := hline
    simp only [BillingDb.isFinalized,hfinal] at hf
    have hsame : l.amountMinor=e.amountMinor ∧ l.currency=e.currency := by
      split at hf
      · rename_i hinvoice
        have hl' := hamounts l hl
        rw [hevent,← hid,Option.bind_some,Table.get?_key he] at hl'
        simpa [hinvoice] using hl'
      · exact hbooks.amounts e he l hl ⟨hid ▸ hevent,hf⟩
    exact ⟨hsame.1.trans hamount,hsame.2.trans hcurrency⟩

theorem finalize_voided (hcareful : careful db gen (.finalizeInvoice i ids)=true) {x : Uuid}
    {e : BillingEvent} (he : db.events.get? x=some e) (hv : e.status=.VOIDED) :
    ∃ e', (setStatus db.events ids none .INVOICED).get? x=some e' ∧ e'.status=.VOIDED := by
  refine voided_setStatus he hv ?_
  intro hin
  have hready := List.all_eq_true.mp (Bool.and_eq_true_iff.mp hcareful).1 x hin.1
  rw [he] at hready
  simp [hv] at hready

end Finalize

section Void
variable {i : BillingInvoice} {ids released : List Uuid} {gen : ℕ → Uuid}

theorem mem_storeVoid_lines {l' : BillingInvoiceLine}
    (h : l'∈(storeVoid db i ids released).lines.rows) : ∃ l∈db.lines.rows, l.fixed=l'.fixed ∧
      ((l'.billingEventId=none) ∨ l'=l ∧ ¬(l.invoiceId=i.id ∧ l.billingEventId.any (·∈ids)=true)) := by
  obtain ⟨l,hl,hchanged⟩ := List.mem_map.mp h
  refine ⟨l,hl,?_⟩
  split at hchanged
  · subst hchanged
    exact ⟨rfl,.inl rfl⟩
  · rename_i hkept
    subst hchanged
    refine ⟨rfl,.inr ⟨rfl,?_⟩⟩
    intro hboth
    simp only [Bool.and_eq_true,decide_eq_true_eq] at hkept
    exact hkept hboth

theorem storeVoid_keeps_line {l : BillingInvoiceLine} (hl : l∈db.lines.rows)
    (h : l.invoiceId≠i.id) : l∈(storeVoid db i ids released).lines.rows := by
  refine List.mem_map.mpr ⟨l,hl,?_⟩
  simp [h]

theorem storeVoid_isFinalized (hfound : db.invoices.get? i.id≠none) (x : Uuid) :
    (storeVoid db i ids released).isFinalized x=if x=i.id then false else db.isFinalized x :=
  isFinalized_setInvoiceStatus hfound

theorem void_books (hbooks : db.Books) (hcovers : db.Covers i ids)
    (hcareful : careful db gen (.voidInvoice i ids released)=true) :
    (storeVoid db i ids released).Books := by
  have hext := storeVoid_extends db i ids released
  have hreleased := List.all_eq_true.mp hcareful
  refine ⟨?_,?_,?_,?_⟩
  · intro l' hl'
    obtain ⟨l,hl,hfixed,hline⟩ := mem_storeVoid_lines hl'
    obtain ⟨hinvoice,hevent⟩ := hbooks.line l hl
    rw [invoiceId_fixed hfixed] at hinvoice
    refine ⟨Table.Grows.keeps hext.invoices _ hinvoice,?_⟩
    intro x hx
    cases hline with
    | inl hnone =>
      rw [hnone] at hx
      cases hx
    | inr hkept => exact hext.events _ (hevent x (hkept.1 ▸ hx))
  · intro l' hl' k' hk' x hlx hkx
    obtain ⟨l,hl,_,hline⟩ := mem_storeVoid_lines hl'
    obtain ⟨k,hk,_,hkine⟩ := mem_storeVoid_lines hk'
    cases hline with
    | inl hnone =>
      rw [hnone] at hlx
      cases hlx
    | inr hlkept =>
      cases hkine with
      | inl hnone =>
        rw [hnone] at hkx
        cases hkx
      | inr hkkept =>
        obtain ⟨rfl,_⟩ := hlkept
        obtain ⟨rfl,_⟩ := hkkept
        exact hbooks.once l' hl k' hk x hlx hkx
  · intro e' he'
    obtain ⟨e,he,hid,_,_,hstatus⟩ := status_setStatus he'
    have hcase := hreleased e he
    constructor
    · intro hinvoiced
      rw [hstatus] at hinvoiced
      split at hinvoiced
      · cases hinvoiced
      · rename_i hkept
        have hout : e.id∉released := by
          intro hin
          exact hkept ⟨hin,by rw [Option.all_some,hinvoiced]; rfl⟩
        obtain ⟨l,hl,hevent,hf⟩ := (hbooks.invoiced e he).mp hinvoiced
        have hother : l.invoiceId≠i.id := by
          intro hsame
          have hon : db.isOn i.id e.id=true :=
            List.any_eq_true.mpr ⟨l,hl,by simp [hsame,hevent]⟩
          simp [hinvoiced,hout,hon] at hcase
        refine ⟨l,storeVoid_keeps_line hl hother,hid ▸ hevent,?_⟩
        rw [storeVoid_isFinalized hcovers.1.found,if_neg hother]
        exact hf
    · intro hline
      obtain ⟨l',hl',hevent,hf⟩ := hline
      obtain ⟨l,hl,_,hkept⟩ := mem_storeVoid_lines hl'
      cases hkept with
      | inl hnone =>
        rw [hnone] at hevent
        cases hevent
      | inr hkept =>
        rw [hkept.1] at hevent hf
        rw [storeVoid_isFinalized hcovers.1.found] at hf
        split at hf
        · cases hf
        · rename_i hother
          have hinvoiced := (hbooks.invoiced e he).mpr ⟨l,hl,hid ▸ hevent,hf⟩
          have hoff : db.isOn i.id e.id=false := by
            by_contra hon
            obtain ⟨k,hk,hkline⟩ := List.any_eq_true.mp (Bool.not_eq_false _ ▸ hon)
            simp only [Bool.and_eq_true,decide_eq_true_eq] at hkline
            have hsame := hbooks.once k hk l hl e.id hkline.2 (hid ▸ hevent)
            exact hother (hsame ▸ hkline.1)
          have hout : e.id∉released := by
            intro hin
            simp [hinvoiced,hin,hoff] at hcase
          rw [hstatus,if_neg (fun h => hout h.1)]
          exact hinvoiced
  · intro e' he' l' hl' hline
    obtain ⟨e,he,hid,hamount,hcurrency,_⟩ := status_setStatus he'
    obtain ⟨hevent,hf⟩ := hline
    obtain ⟨l,hl,_,hkept⟩ := mem_storeVoid_lines hl'
    cases hkept with
    | inl hnone =>
      rw [hnone] at hevent
      cases hevent
    | inr hkept =>
      rw [hkept.1] at hevent hf ⊢
      rw [storeVoid_isFinalized hcovers.1.found] at hf
      split at hf
      · cases hf
      · obtain ⟨ha,hc⟩ := hbooks.amounts e he l hl ⟨hid ▸ hevent,hf⟩
        exact ⟨ha.trans hamount,hc.trans hcurrency⟩

theorem void_voided {x : Uuid} {e : BillingEvent} (he : db.events.get? x=some e)
    (hv : e.status=.VOIDED) :
    ∃ e', (storeVoid db i ids released).events.get? x=some e' ∧ e'.status=.VOIDED := by
  refine voided_setStatus he hv ?_
  intro hin
  have hold := hin.2
  rw [Option.all_some,hv] at hold
  cases hold

end Void
end Documents

section Runs
variable {env : Env} {s : System}

theorem BillingDb.SameBooks.books {db db' : BillingDb} (h : db.SameBooks db') (hbooks : db.Books) :
    db'.Books := by
  obtain ⟨_,hevents,hinvoices,hlines,_,_,_⟩ := h
  obtain ⟨hline,honce,hinvoiced,hamounts⟩ := hbooks
  constructor
  · rw [hevents,hinvoices,hlines]
    exact hline
  · rw [hlines]
    exact honce
  · unfold BillingDb.Invoices BillingDb.isFinalized
    rw [hevents,hinvoices,hlines]
    exact hinvoiced
  · unfold BillingDb.Invoices BillingDb.isFinalized
    rw [hevents,hinvoices,hlines]
    exact hamounts

theorem BillingWrite.books {db db' : BillingDb} {gen : ℕ → Uuid} {c : Call}
    (h : BillingWrite env gen c db db') (hknown : c.phase.Known env db)
    (hcareful : careful db gen c.phase=true) (hbooks : db.Books) : db'.Books := by
  cases h with
  | none => exact hbooks
  | upsert u events row hphase hup =>
    rw [hphase] at hcareful
    exact ((upsertEvent_ok hup).kept hcareful).books hbooks
  | upserts us events rows hphase hup =>
    rw [hphase] at hcareful
    exact (upsertEvents_kept hup hcareful).books hbooks
  | voidEvent read hphase =>
    rw [hphase] at hcareful
    exact (voidEvent_kept hcareful).books hbooks
  | insertInvoice d _ invoice hphase hstore =>
    rw [hphase] at hcareful hknown
    exact (storeInvoice_ok hstore).books hbooks hknown.1.2 hcareful
  | finalizeInvoice i ids hphase =>
    rw [hphase] at hcareful hknown
    exact finalize_books hbooks hknown hcareful
  | voidInvoice i ids released hphase =>
    rw [hphase] at hcareful hknown
    exact void_books hbooks hknown hcareful
  | insertNote d _ note _ hstore =>
    rw [(storeNote_ok hstore).left]
    exact ⟨hbooks.line,hbooks.once,hbooks.invoiced,hbooks.amounts⟩
  | finalizeNote note _ => exact ⟨hbooks.line,hbooks.once,hbooks.invoiced,hbooks.amounts⟩

theorem BillingWrite.voided {db db' : BillingDb} {gen : ℕ → Uuid} {c : Call}
    (h : BillingWrite env gen c db db') (hcareful : careful db gen c.phase=true) {x : Uuid}
    (hx : db.hasStatus .VOIDED x) : db'.hasStatus .VOIDED x := by
  obtain ⟨e,he,hv⟩ := hx
  cases h with
  | none => exact ⟨e,he,hv⟩
  | upsert u events row hphase hup =>
    rw [hphase] at hcareful
    exact ((upsertEvent_ok hup).kept hcareful).voided he hv
  | upserts us events rows hphase hup =>
    rw [hphase] at hcareful
    exact (upsertEvents_kept hup hcareful).voided he hv
  | voidEvent read hphase =>
    rw [hphase] at hcareful
    exact (voidEvent_kept hcareful).voided he hv
  | insertInvoice d _ invoice hphase hstore =>
    rw [hphase] at hcareful
    exact (storeInvoice_ok hstore).voided hcareful he hv
  | finalizeInvoice i ids hphase =>
    rw [hphase] at hcareful
    exact finalize_voided hcareful he hv
  | voidInvoice i ids released hphase => exact void_voided he hv
  | insertNote d _ note _ hstore =>
    rw [(storeNote_ok hstore).left]
    exact ⟨e,he,hv⟩
  | finalizeNote note _ => exact ⟨e,he,hv⟩

theorem books_run {as : List Action} (hknown : s.Known env) (hbooks : s.db.Books)
    (hcareful : s.RunMeets env (fun db gen phase => careful db gen phase=true) as) : (System.run env s as).db.Books :=
  run_invariant (fun _ _ h => h.books) (fun _ _ _ _ h => h.books) as hknown hbooks hcareful

theorem voided_run {as : List Action} (hknown : s.Known env)
    (hcareful : s.RunMeets env (fun db gen phase => careful db gen phase=true) as) {x : Uuid} (hx : s.db.hasStatus .VOIDED x) :
    (System.run env s as).db.hasStatus .VOIDED x := by
  refine run_invariant (I := fun db => db.hasStatus .VOIDED x) ?_ ?_ as hknown hx hcareful
  · intro db db' hsame h
    unfold BillingDb.hasStatus
    rw [hsame.events]
    exact h
  · exact fun _ _ _ _ h _ hcareful => h.voided hcareful

theorem books_initial (places : OrderUpdates.Places) : (System.initial places).db.Books :=
  ⟨fun _ hl => (List.not_mem_nil hl).elim,fun _ hl => (List.not_mem_nil hl).elim,
    fun _ he => (List.not_mem_nil he).elim,fun _ he => (List.not_mem_nil he).elim⟩

/-- In a run of careful steps, events and invoices stay consistent, and what is voided is not invoiced
later. -/
theorem invoiced_events (places : OrderUpdates.Places) (as : List Action)
    (hcareful : (System.initial places).RunMeets env
      (fun db gen phase => careful db gen phase=true) as) :
    (System.run env (System.initial places) as).db.Consistent ∧
    ∀ bs cs x, as=bs++cs → (System.run env (System.initial places) bs).db.hasStatus .VOIDED x →
      ¬(System.run env (System.initial places) as).db.hasStatus .INVOICED x := by
  have hknown := known_initial env places
  refine ⟨(books_run hknown (books_initial places) hcareful).consistent,?_⟩
  intro bs cs x hsplit hvoided hinvoiced
  subst hsplit
  have hkept := voided_run (known_run bs hknown) (runMeets_append.mp hcareful).2 hvoided
  rw [← run_append] at hkept
  obtain ⟨e,he,hv⟩ := hkept
  obtain ⟨e',he',hi⟩ := hinvoiced
  rw [he] at he'
  cases he'
  rw [hv] at hi
  cases hi

end Runs

theorem invoiced_events_demo :
    (System.run demoEnv (System.initial demoPlaces) demoInvoiced).db.Consistent ∧
    ∀ bs cs x, demoInvoiced=bs++cs →
      (System.run demoEnv (System.initial demoPlaces) bs).db.hasStatus .VOIDED x →
      ¬(System.run demoEnv (System.initial demoPlaces) demoInvoiced).db.hasStatus .INVOICED x :=
  invoiced_events demoPlaces demoInvoiced (by decide +kernel)

/-- The invoiced event is created once more under its reference: it is billable again, at another
amount, and still on the finalized invoice. -/
theorem invoiced_event_overwritten : ¬∀ env places as,
    (System.run env (System.initial places) as).db.Consistent ∧
    ∀ bs cs x, as=bs++cs → (System.run env (System.initial places) bs).db.hasStatus .VOIDED x →
      ¬(System.run env (System.initial places) as).db.hasStatus .INVOICED x := by
  intro h
  have hconsistent := (h demoEnv demoPlaces
    (demoInvoiced++demoCall 3 (someUuid '5' OrderUpdates.isHex_five) 3 (demoEvent "E-1".toList 3))).1
  have hrows : ∃ e∈(System.run demoEnv (System.initial demoPlaces) (demoInvoiced++demoCall 3
      (someUuid '5' OrderUpdates.isHex_five) 3 (demoEvent "E-1".toList 3))).db.events.rows, e.status≠.INVOICED ∧
      ∃ l∈(System.run demoEnv (System.initial demoPlaces) (demoInvoiced++demoCall 3
        (someUuid '5' OrderUpdates.isHex_five) 3 (demoEvent "E-1".toList 3))).db.lines.rows, l.billingEventId=some e.id ∧
        (System.run demoEnv (System.initial demoPlaces) (demoInvoiced++demoCall 3
          (someUuid '5' OrderUpdates.isHex_five) 3 (demoEvent "E-1".toList 3))).db.isFinalized l.invoiceId=true := by
    decide +kernel
  obtain ⟨e,he,hstatus,hline⟩ := hrows
  exact hstatus ((hconsistent e he).1.mpr hline)

end AardvarkWms.Billing
