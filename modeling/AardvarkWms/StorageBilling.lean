import AardvarkWms.BillingWrites

/-! Storage days, and the invoices of their periods. -/
namespace AardvarkWms.Billing

open Messaging (Str)
open OrderUpdates (Uuid someUuid)
open Transactions.Txn (bind_eq_ok)

/-- The event charges the stock quant for this day: one of the last days of its period. -/
def BillingEvent.Charges (e : BillingEvent) (quant : Str) (day : ℤ) : Prop :=
  e.eventType=.STORAGE_DAY ∧ e.status≠.VOIDED ∧ e.resourceId=some quant ∧
  ∃ s, e.storage=some s ∧ utcDay s.periodEnd-s.chargeableDays≤day ∧ day < utcDay s.periodEnd

/-- Each day of a quant is charged once, and an invoice of a storage event's period takes it. -/
structure BillingDb.StorageBilled (db : BillingDb) : Prop where
  once : ∀ e∈db.events.rows, ∀ e'∈db.events.rows, ∀ quant day, e.Charges quant day →
    e'.Charges quant day → e=e'
  selected : ∀ e∈db.events.rows, ∀ s, e.eventType=.STORAGE_DAY → e.storage=some s →
    e∈invoiceEvents db e.warehouseId e.clientId (invoiceEventStatusFilter none)
      (s.periodStart,s.periodEnd)

/-- Storage billing is the only call that is made. -/
def Action.isStorage : Action → Bool
  | .start _ _ (.generateStorageDayBilling _ _) => true
  | .start _ _ _ => false
  | _ => true

/-- A call that has come to its transaction has nothing to store, or the transaction fails. -/
def chargesNothing (db : BillingDb) (gen : ℕ → Uuid) : Phase → Bool
  | .upserts us => us=[] || !(upsertEvents db.events gen us).isOk
  | _ => true

section Calls
variable {env : Env} {now : ℤ} {gen : ℕ → Uuid} {db db' : BillingDb}

/-- A storage event occurs at the end of its period. -/
def EventUpsert.OfStorage (u : EventUpsert) : Prop :=
  u.kind=.storage ∧ u.eventType=.STORAGE_DAY ∧ ∃ s, u.storage=some s ∧ u.occurredAt=s.periodEnd

def BillingEvent.OfStorage (e : BillingEvent) : Prop :=
  e.eventType=.STORAGE_DAY ∧ ∃ s, e.storage=some s ∧ e.occurredAt=s.periodEnd

/-- The phases that a storage call goes through. -/
def Phase.OfStorage : Phase → Prop
  | .warehouse | .client _ | .links _ _ _ | .quants _ _ _ _ | .rate _ _ _ _ | .ended _ => True
  | .upserts us => ∀ u∈us, u.OfStorage
  | _ => False

theorem toStorageUpserts_ofStorage (dto : GenerateStorageBillingDto) (w : Uuid) (c : WmsClient)
    (period : ℤ × ℤ) (quants : List StockQuant) (price : ℕ) (currency : Str) :
    (toStorageUpserts env dto w c period quants price currency).OfStorage := by
  unfold toStorageUpserts
  cases dto.dryRun with
  | true => trivial
  | false =>
    intro u hu
    obtain ⟨hmem,_⟩ := List.mem_filter.mp hu
    obtain ⟨quant,_,rfl⟩ := List.mem_map.mp hmem
    exact ⟨rfl,rfl,_,rfl,rfl⟩

theorem advance_ofStorage {ref client : Str} {dto : GenerateStorageBillingDto} {phase p : Phase}
    (hphase : phase.OfStorage)
    (h : Billing.advance env now gen db ⟨ref,.generateStorageDayBilling client dto,phase⟩=.ok (db',p)) :
    p.OfStorage ∧ (db'=db ∨ ∃ us rows events, phase=.upserts us ∧
      upsertEvents db.events gen us=.ok (events,rows) ∧ db'={db with events}) := by
  cases phase with
  | warehouse =>
    obtain ⟨w,_,h⟩ := bind_eq_ok h
    cases h
    exact ⟨trivial,.inl rfl⟩
  | client w =>
    obtain ⟨c,_,h⟩ := bind_eq_ok h
    obtain ⟨next,hnext,h⟩ := bind_eq_ok h
    obtain ⟨period,_,hnext⟩ := bind_eq_ok hnext
    cases hnext
    cases h
    exact ⟨trivial,.inl rfl⟩
  | upserts us =>
    obtain ⟨⟨events,rows⟩,hup,h⟩ := bind_eq_ok h
    cases h
    exact ⟨trivial,.inr ⟨us,rows,events,rfl,hup,rfl⟩⟩
  | links w c period =>
    cases h
    refine ⟨?_,.inl rfl⟩
    split <;> trivial
  | quants w c period ids =>
    simp only [Billing.advance] at h
    split at h
    · cases h
    · split at h
      · cases h
        exact ⟨toStorageUpserts_ofStorage _ _ _ _ _ _ _,.inl rfl⟩
      · cases h
        exact ⟨trivial,.inl rfl⟩
  | rate w c period quants =>
    simp only [Billing.advance] at h
    split at h
    · cases h
    · cases h
      exact ⟨toStorageUpserts_ofStorage _ _ _ _ _ _ _,.inl rfl⟩
  | ended r =>
    cases h
    exact ⟨trivial,.inl rfl⟩
  | _ => exact hphase.elim

theorem Upserted.ofStorage {events events' : Table BillingEvent.id} {id : Uuid} {u : EventUpsert}
    {row : BillingEvent} (h : Upserted events id u events' row) (hu : u.OfStorage)
    (hevents : ∀ e∈events.rows, e.OfStorage) : ∀ e∈events'.rows, e.OfStorage := by
  obtain ⟨hkind,htype,s,hs,hend⟩ := hu
  intro e' he'
  cases h with
  | updated e he =>
    obtain ⟨o,ho,hchanged⟩ := List.mem_map.mp he'
    obtain ⟨hotype,_⟩ := hevents o ho
    split at hchanged
    · subst hchanged
      refine ⟨?_,s,hs,hend⟩
      simp only [EventUpsert.updated,hkind,if_pos]
      exact hotype
    · subst hchanged
      exact hevents o ho
  | created hnone hnew =>
    rw [Table.rows_insert hnew] at he'
    cases List.mem_append.mp he' with
    | inl hold => exact hevents e' hold
    | inr hlast =>
      rw [List.mem_singleton.mp hlast]
      exact ⟨htype,s,hs,hend⟩

theorem upsertEvents_ofStorage {events events' : Table BillingEvent.id} {us : List EventUpsert}
    {rows : List BillingEvent} (h : upsertEvents events gen us=.ok (events',rows))
    (hus : ∀ u∈us, u.OfStorage) (hevents : ∀ e∈events.rows, e.OfStorage) :
    ∀ e∈events'.rows, e.OfStorage := by
  induction us generalizing events rows with
  | nil =>
    cases h
    exact hevents
  | cons u us ih =>
    obtain ⟨events₁,row,rest,hfirst,hrest⟩ := upsertEvents_cons h
    exact ih hrest (fun v hv => hus v (List.mem_cons_of_mem u hv))
      ((upsertEvent_ok hfirst).ofStorage (hus u List.mem_cons_self) hevents)

theorem upsertEvents_rows {events events' : Table BillingEvent.id} {us : List EventUpsert}
    {rows : List BillingEvent} (h : upsertEvents events gen us=.ok (events',rows)) (hus : us≠[]) :
    events'.rows≠[] := by
  cases us with
  | nil => exact absurd rfl hus
  | cons u us =>
    obtain ⟨events₁,row,rest,hfirst,hrest⟩ := upsertEvents_cons h
    have hrow : ∃ x, events₁.get? x≠none := by
      cases upsertEvent_ok hfirst with
      | updated e he =>
        refine ⟨e.id,?_⟩
        rw [Table.get?_modify_self,Table.get?_key (List.mem_of_find?_eq_some he)]
        exact Option.some_ne_none _
      | created hnone hnew =>
        have hget : (events.insert (u.created (gen us.length))).get? (gen us.length)=
            some (u.created (gen us.length)) := Table.get?_insert_new hnew
        refine ⟨gen us.length,?_⟩
        rw [hget]
        exact Option.some_ne_none _
    obtain ⟨x,hx⟩ := hrow
    intro hempty
    refine upsertEvents_keeps hrest x hx ?_
    rw [Table.get?_eq_none,hempty]
    exact fun r hr => (List.not_mem_nil hr).elim

end Calls

section Runs
variable {env : Env} {s : System}

/-- Storage calls only, and storage events only. -/
structure System.OfStorage (s : System) : Prop where
  calls : ∀ i c, s.call i=some c → (∃ client dto, c.request=.generateStorageDayBilling client dto) ∧
    c.phase.OfStorage
  events : ∀ e∈s.db.events.rows, e.OfStorage

theorem System.OfStorage.put {db : BillingDb} {i : ℕ} {c : Call} (h : s.OfStorage)
    (hevents : ∀ e∈db.events.rows, e.OfStorage)
    (hrequest : ∃ client dto, c.request=.generateStorageDayBilling client dto)
    (hphase : c.phase.OfStorage) : (s.put db i c).OfStorage := by
  refine ⟨?_,hevents⟩
  intro j k hk
  by_cases hj : j=i
  · subst hj
    have hsame : some c=some k := by simpa [System.put] using hk
    cases hsame
    exact ⟨hrequest,hphase⟩
  · have hother : s.call j=some k := by simpa [System.put,hj] using hk
    exact h.calls j k hother

theorem createClient_events (env : Env) (db : BillingDb) (id : Uuid) (code currency : Str) :
    (createClient env db id code currency).events=db.events :=
  (createClient_sameBooks env db id code currency).events

theorem System.OfStorage.act (env : Env) (h : s.OfStorage) {a : Action} (ha : a.isStorage=true) :
    (System.act env s a).OfStorage ∧ ((System.act env s a).db.events=s.db.events ∨
      ∃ i gen c us rows, a=.advance i gen ∧ s.call i=some c ∧ c.phase=.upserts us ∧
        upsertEvents s.db.events gen us=.ok ((System.act env s a).db.events,rows)) := by
  cases a with
  | start i ref request =>
    unfold System.act
    simp only
    split
    · exact ⟨h,.inl rfl⟩
    · cases request with
      | generateStorageDayBilling client dto =>
        exact ⟨h.put h.events ⟨client,dto,rfl⟩ trivial,.inl rfl⟩
      | _ => cases ha
  | advance i gen =>
    cases hc : s.call i with
    | none =>
      rw [act_none hc]
      exact ⟨h,.inl rfl⟩
    | some c =>
      obtain ⟨⟨client,dto,hrequest⟩,hphase⟩ := h.calls i c hc
      cases hadv : Billing.advance env s.now gen s.db c with
      | error e =>
        rw [act_error hc hadv]
        exact ⟨h.put h.events ⟨client,dto,hrequest⟩ trivial,.inl rfl⟩
      | ok x =>
        obtain ⟨db',p⟩ := x
        rw [act_ok hc hadv]
        obtain ⟨ref,request,phase⟩ := c
        subst hrequest
        obtain ⟨hp,hstored⟩ := advance_ofStorage hphase hadv
        cases hstored with
        | inl hsame =>
          subst hsame
          exact ⟨h.put h.events ⟨client,dto,rfl⟩ hp,.inl rfl⟩
        | inr hstored =>
          obtain ⟨us,rows,events,rfl,hup,rfl⟩ := hstored
          exact ⟨h.put (upsertEvents_ofStorage hup hphase h.events) ⟨client,dto,rfl⟩ hp,
            .inr ⟨i,gen,_,us,rows,rfl,hc,rfl,hup⟩⟩
  | tick n => exact ⟨⟨h.calls,h.events⟩,.inl rfl⟩
  | createClient id code currency =>
    have hsame := createClient_events env s.db id code currency
    refine ⟨⟨h.calls,?_⟩,.inl hsame⟩
    intro e he
    exact h.events e (hsame ▸ he)
  | stock links quants cards => exact ⟨⟨h.calls,h.events⟩,.inl rfl⟩

theorem storageBilled_iff {db : BillingDb} (h : ∀ e∈db.events.rows, e.OfStorage) :
    db.StorageBilled ↔ db.events.rows=[] := by
  constructor
  · intro hbilled
    by_contra hsome
    obtain ⟨e,he⟩ := List.exists_mem_of_ne_nil _ hsome
    obtain ⟨htype,s,hs,hend⟩ := h e he
    have hselected := (List.mem_filter.mp (hbilled.selected e he s htype hs)).2
    simp only [Bool.and_eq_true,decide_eq_true_eq] at hselected
    obtain ⟨⟨_,hbefore⟩,_⟩ := hselected
    rw [hend] at hbefore
    exact lt_irrefl _ hbefore
  · intro hempty
    constructor
    · rw [hempty]
      exact fun _ he => (List.not_mem_nil he).elim
    · rw [hempty]
      exact fun _ he => (List.not_mem_nil he).elim

theorem System.OfStorage.billed_iff {as : List Action} (h : s.OfStorage)
    (hempty : s.db.events.rows=[]) (has : as.all Action.isStorage=true) :
    (∀ bs cs, as=bs++cs → (System.run env s bs).db.StorageBilled) ↔
      s.RunMeets env (fun db gen phase => chargesNothing db gen phase=true) as := by
  induction as generalizing s with
  | nil =>
    refine ⟨fun _ => trivial,?_⟩
    intro _ bs cs hsplit
    obtain ⟨rfl,_⟩ := List.append_eq_nil_iff.mp hsplit.symm
    exact (storageBilled_iff h.events).mpr hempty
  | cons a as ih =>
    rw [List.all_cons,Bool.and_eq_true] at has
    obtain ⟨hkept,hstored⟩ := System.OfStorage.act env h has.1
    constructor
    · intro hbilled
      have hnext := (storageBilled_iff hkept.events).mp (hbilled [a] as rfl)
      refine ⟨?_,(ih hkept hnext has.2).mp fun bs cs hsplit => hbilled (a::bs) cs (by rw [hsplit]; rfl)⟩
      cases a with
      | advance i gen =>
        intro c hc
        cases hphase : c.phase with
        | upserts us =>
          cases hstored with
          | inl hsame =>
            by_contra hcharges
            simp only [chargesNothing,Bool.or_eq_true,Bool.not_eq_true',decide_eq_true_eq,not_or,
              Bool.not_eq_false] at hcharges
            obtain ⟨hus,hok⟩ := hcharges
            cases hup : upsertEvents s.db.events gen us with
            | error e =>
              rw [hup] at hok
              cases hok
            | ok x =>
              obtain ⟨events,rows⟩ := x
              have hadv : Billing.advance env s.now gen s.db c=
                  .ok ({s.db with events},.ended (.ok (.events rows))) := by
                obtain ⟨ref,request,phase⟩ := c
                simp only at hphase
                subst hphase
                simp only [Billing.advance,hup]
                rfl
              rw [act_ok hc hadv] at hnext
              exact upsertEvents_rows hup hus hnext
          | inr hstored =>
            obtain ⟨j,gen',c',us',rows,hsame,hc',hphase',hup⟩ := hstored
            cases hsame
            rw [Option.mem_def.mp hc] at hc'
            cases hc'
            rw [hphase] at hphase'
            cases hphase'
            by_cases hus : us=[]
            · simp [chargesNothing,hus]
            · exact absurd hnext (upsertEvents_rows hup hus)
        | _ => rfl
      | _ => trivial
    · intro hmeets
      have hnext : (System.act env s a).db.events.rows=[] := by
        cases hstored with
        | inl hsame => rw [hsame,hempty]
        | inr hstored =>
          obtain ⟨i,gen,c,us,rows,hsame,hc,hphase,hup⟩ := hstored
          subst hsame
          have hnothing := hmeets.1 c hc
          simp only [hphase,chargesNothing,hup,Bool.or_eq_true,decide_eq_true_eq] at hnothing
          cases hnothing with
          | inl hus =>
            subst hus
            obtain ⟨hevents,_⟩ := Prod.mk.inj (Except.ok.inj hup)
            rw [← hevents]
            exact hempty
          | inr herror => cases herror
      intro bs cs hsplit
      cases bs with
      | nil => exact (storageBilled_iff h.events).mpr hempty
      | cons b bs =>
        obtain ⟨rfl,hrest⟩ := List.cons.inj hsplit
        exact (ih hkept hnext has.2).mpr hmeets.2 bs cs hrest

/-- A run of storage calls bills as it should exactly where no call stores a charge. -/
theorem storage_billing (places : OrderUpdates.Places) (as : List Action)
    (has : as.all Action.isStorage=true) :
    (∀ bs cs, as=bs++cs → (System.run env (System.initial places) bs).db.StorageBilled) ↔
      (System.initial places).RunMeets env (fun db gen phase => chargesNothing db gen phase=true) as :=
  System.OfStorage.billed_iff ⟨fun _ _ hc => (Option.some_ne_none _ hc.symm).elim,
    fun _ he => (List.not_mem_nil he).elim⟩ rfl has

/-- Ten pieces of the client, there from the first of January. -/
def demoStock : Action :=
  .stock [⟨OrderUpdates.mainWarehouse.id,someUuid '2' OrderUpdates.isHex_two,(someUuid '7' OrderUpdates.isHex_seven).val⟩]
    [⟨someUuid '7' OrderUpdates.isHex_seven,OrderUpdates.mainWarehouse.id,"SKU-1".toList,10,1767225600000⟩] []

def demoStorage (i : ℕ) (id : Uuid) (start : Str) : List Action :=
  demoCall i id 5 (.generateStorageDayBilling "ACME".toList
    {periodStart := start
     periodEnd := "2026-02-01".toList
     unitPriceMinorPerUnitDay := some 5})

/-- January, and its second half once more. -/
def demoOverlap : List Action :=
  demoClient::demoStock::(demoStorage 1 (someUuid '3' OrderUpdates.isHex_three) "2026-01-01".toList++
    demoStorage 2 (someUuid '4' OrderUpdates.isHex_four) "2026-01-15".toList)

theorem storage_billing_demo :
    (∀ bs cs, demoOverlap=bs++cs →
      (System.run demoEnv (System.initial demoPlaces) bs).db.StorageBilled) ↔
    (System.initial demoPlaces).RunMeets demoEnv
      (fun db gen phase => chargesNothing db gen phase=true) demoOverlap :=
  storage_billing demoPlaces demoOverlap (by decide +kernel)

/-- The last day of January is charged by both calls. -/
theorem day_charged_twice : ¬∀ env places as, as.all Action.isStorage=true → ∀ bs cs, as=bs++cs →
    (System.run env (System.initial places) bs).db.StorageBilled := by
  intro h
  have hbilled := h demoEnv demoPlaces demoOverlap (by decide +kernel) demoOverlap []
    (List.append_nil _).symm
  have hrows : ∃ e∈(System.run demoEnv (System.initial demoPlaces) demoOverlap).db.events.rows,
      ∃ e'∈(System.run demoEnv (System.initial demoPlaces) demoOverlap).db.events.rows, e≠e' ∧
      (e.eventType=.STORAGE_DAY ∧ e.status≠.VOIDED ∧
        e.resourceId=some (someUuid '7' OrderUpdates.isHex_seven).val ∧ ∃ s∈e.storage,
          utcDay s.periodEnd-s.chargeableDays≤20484 ∧ 20484 < utcDay s.periodEnd) ∧
      (e'.eventType=.STORAGE_DAY ∧ e'.status≠.VOIDED ∧
        e'.resourceId=some (someUuid '7' OrderUpdates.isHex_seven).val ∧ ∃ s∈e'.storage,
          utcDay s.periodEnd-s.chargeableDays≤20484 ∧ 20484 < utcDay s.periodEnd) := by
    unfold demoOverlap demoStock demoStorage demoClient demoEnv demoHash demoDate
    simp only [String.toList_append]
    repeat rewrite [String.toList_ofList]
    decide +kernel
  obtain ⟨e,he,e',he',hne,hcharges,hcharges'⟩ := hrows
  exact hne (hbilled.once e he e' he' _ 20484 hcharges hcharges')

end Runs
end AardvarkWms.Billing
