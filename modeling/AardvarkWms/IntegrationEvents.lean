import AardvarkWms.Histories
import AardvarkWms.Texts
import Mathlib.Data.PNat.Basic

/-! Runtime integration events: ingested, applied, retried and written by label print tests, each
by one statement of its own on the row. -/
namespace AardvarkWms.IntegrationEvents

open Messaging (Str trim)

inductive RuntimeIntegrationState
  | READY | WAITING | RETRYING | DEAD_LETTER | APPLIED
  deriving DecidableEq

def RuntimeIntegrationState.name : RuntimeIntegrationState → Str
  | .READY => "READY".toList
  | .WAITING => "WAITING".toList
  | .RETRYING => "RETRYING".toList
  | .DEAD_LETTER => "DEAD_LETTER".toList
  | .APPLIED => "APPLIED".toList

def RuntimeIntegrationState.values : List RuntimeIntegrationState :=
  [.READY,.WAITING,.RETRYING,.DEAD_LETTER,.APPLIED]

structure IntegrationEvent where
  id : ℕ
  warehouseId : Str
  connectorCode : Str
  flow : Str
  state : RuntimeIntegrationState
  externalId : Str
  attempts : ℕ
  maxAttempts : ℕ
  retryAfter : Option ℕ
  payload : Json
  lastError : Option Str
  updatedAt : ℕ
  deriving DecidableEq

/-- The columns of the unique index. -/
def IntegrationEvent.externalKey (e : IntegrationEvent) : Str × Str × Str × Str :=
  (e.warehouseId,e.connectorCode,e.flow,e.externalId)

structure RuntimeIntegrationEventIngestDto where
  connectorCode : Str
  flow : Str
  externalId : Str
  state : Option Str := none
  maxAttempts : Option ℕ+ := none
  payload : Option Json.Fields := none

structure RuntimeIntegrationEventApplyDto where
  mapping : Option Json.Fields := none
  note : Option Str := none

structure RuntimePrintLabelTestDto where
  connectorCode : Option Str := none
  stationCode : Option Str := none
  reference : Option Str := none
  templateCode : Option Str := none
  dryRun : Option Bool := none

inductive OpsError
  | notFound (message : String)
  | uniqueViolation
  deriving DecidableEq

abbrev OpsDb : Type := Table IntegrationEvent.id

inductive Request
  | ingest (dto : RuntimeIntegrationEventIngestDto)
  | apply (eventId : ℕ) (dto : RuntimeIntegrationEventApplyDto)
  | testPrint (dto : RuntimePrintLabelTestDto)
  | retry (eventId : ℕ)

/-- One call, the time it runs at and the identifier the database generates for a new row. -/
structure Call where
  warehouseId : Str
  request : Request
  now : ℕ
  generated : ℕ

structure Env where
  language : Language
  toISOString : ℕ → String

section Statements
variable (env : Env)

def normalizeIntegrationState (value : Option Str) : RuntimeIntegrationState :=
  let normalized := value.map fun v => env.language.toUpperCase (trim v)
  (RuntimeIntegrationState.values.find? fun s => normalized=some s.name).getD .WAITING

/-- The event that has the entry of a row in the unique index. -/
def conflicting (db : OpsDb) (row : IntegrationEvent) : Option IntegrationEvent :=
  db.rows.find? fun e => e.externalKey=row.externalKey

def eventOf (db : OpsDb) (warehouseId : Str) (eventId : ℕ) : Option IntegrationEvent :=
  (db.get? eventId).filter fun e => e.warehouseId=warehouseId

/-- `INSERT … ON CONFLICT (warehouse_id, connector_code, flow, external_id) DO UPDATE`. -/
def upsert (db : OpsDb) (row : IntegrationEvent) (update : IntegrationEvent → IntegrationEvent)
    (hupdate : ∀ e, (update e).id=e.id) : Except OpsError OpsDb :=
  match conflicting db row with
  | some e => .ok (db.modify e.id update hupdate)
  | none => if db.get? row.id=none then .ok (db.insert row) else .error .uniqueViolation

/-- `UPDATE … WHERE warehouse_id = … AND id = …`. -/
def update (db : OpsDb) (warehouseId : Str) (eventId : ℕ) (f : IntegrationEvent → IntegrationEvent)
    (hf : ∀ e, (f e).id=e.id) : Except OpsError OpsDb :=
  match eventOf db warehouseId eventId with
  | none => .error (.notFound "Integration event was not found")
  | some e => .ok (db.modify e.id f hf)

def ingestPayload (now : ℕ) (dto : RuntimeIntegrationEventIngestDto) : Json :=
  .object (Json.Fields.spread (dto.payload.getD [])
    [("ingestedAt",.string (env.toISOString now)),("source",.string "operations-runtime")])

def ingestMaxAttempts (dto : RuntimeIntegrationEventIngestDto) : ℕ :=
  (dto.maxAttempts.map PNat.val).getD 5

/-- The row that an ingest proposes. -/
def ingestedEvent (warehouseId : Str) (now generated : ℕ) (dto : RuntimeIntegrationEventIngestDto) :
    IntegrationEvent where
  id := generated
  warehouseId := warehouseId
  connectorCode := env.language.toUpperCase (trim dto.connectorCode)
  flow := trim dto.flow
  state := normalizeIntegrationState env dto.state
  externalId := trim dto.externalId
  attempts := 0
  maxAttempts := ingestMaxAttempts dto
  retryAfter := if normalizeIntegrationState env dto.state∈[.WAITING,.RETRYING] then some now
    else none
  payload := ingestPayload env now dto
  lastError := none
  updatedAt := now

def IntegrationEvent.reingested (excluded e : IntegrationEvent) : IntegrationEvent :=
  {e with
    state := if e.state=.APPLIED then e.state else excluded.state
    maxAttempts := excluded.maxAttempts
    retryAfter := excluded.retryAfter
    payload := excluded.payload
    lastError := none
    updatedAt := excluded.updatedAt}

/-- What an apply adds to the payload. -/
def appliedFields (now : ℕ) (dto : RuntimeIntegrationEventApplyDto) : Json.Fields :=
  [("appliedAt",.string (env.toISOString now)),
    ("mapping",(dto.mapping.map Json.object).getD .null),
    ("note",(dto.note.map fun n => Json.string (String.ofList n)).getD .null)]

def IntegrationEvent.applied (now : ℕ) (dto : RuntimeIntegrationEventApplyDto)
    (e : IntegrationEvent) : IntegrationEvent :=
  {e with
    state := .APPLIED
    attempts := e.attempts+1
    retryAfter := none
    lastError := none
    payload := .object (Json.Fields.spread (e.payload.fields?.getD []) (appliedFields env now dto))
    updatedAt := now}

/-- A text that is trimmed and put in upper case, or the default where nothing is left of it. -/
def upperOr (value : Option Str) (default : String) : Str :=
  ((value.map fun v => env.language.toUpperCase (trim v)).filter (·≠[])).getD default.toList

def testReference (now : ℕ) (dto : RuntimePrintLabelTestDto) : Str :=
  ((dto.reference.map trim).filter (·≠[])).getD ("PRINT-TEST-".toList++(toString now).toList)

def zplPreview (reference : Str) : Str :=
  "^XA^FO40,40^A0N,34,34^FDWMS TEST ".toList++reference++
    "^FS^FO40,95^BY2^BCN,80,Y,N,N^FD".toList++reference++"^FS^XZ".toList

def isDryRun (dto : RuntimePrintLabelTestDto) : Bool := dto.dryRun≠some false

def printTestPayload (now : ℕ) (dto : RuntimePrintLabelTestDto) : Json :=
  .object [("stationCode",.string (String.ofList (upperOr env dto.stationCode "PACK-01"))),
    ("templateCode",.string (String.ofList (upperOr env dto.templateCode "SAMPLE_ZPL"))),
    ("dryRun",.bool (isDryRun dto)),
    ("zplPreview",.string (String.ofList (zplPreview (testReference now dto))))]

/-- The row that a print test proposes. -/
def printTestEvent (warehouseId : Str) (now generated : ℕ) (dto : RuntimePrintLabelTestDto) :
    IntegrationEvent where
  id := generated
  warehouseId := warehouseId
  connectorCode := upperOr env dto.connectorCode "PRINT"
  flow := "label.print".toList
  state := if isDryRun dto then .APPLIED else .WAITING
  externalId := testReference now dto
  attempts := 1
  maxAttempts := 3
  retryAfter := none
  payload := printTestPayload env now dto
  lastError := none
  updatedAt := now

def IntegrationEvent.retested (excluded e : IntegrationEvent) : IntegrationEvent :=
  {e with
    state := excluded.state
    attempts := e.attempts+1
    payload := excluded.payload
    lastError := none
    updatedAt := excluded.updatedAt}

def RETRY_INTERVAL : ℕ := 2*60*1000

def IntegrationEvent.retried (now : ℕ) (e : IntegrationEvent) : IntegrationEvent :=
  {e with
    state := if e.maxAttempts≤e.attempts+1 then .DEAD_LETTER else .RETRYING
    attempts := e.attempts+1
    retryAfter := some (now+RETRY_INTERVAL)
    lastError := if e.maxAttempts≤e.attempts+1 then e.lastError else none
    updatedAt := now}

def execute (db : OpsDb) (c : Call) : Except OpsError OpsDb :=
  match c.request with
  | .ingest dto =>
    let row := ingestedEvent env c.warehouseId c.now c.generated dto
    upsert db row row.reingested fun _ => rfl
  | .apply eventId dto =>
    update db c.warehouseId eventId (IntegrationEvent.applied env c.now dto) fun _ => rfl
  | .testPrint dto =>
    let row := printTestEvent env c.warehouseId c.now c.generated dto
    upsert db row row.retested fun _ => rfl
  | .retry eventId =>
    update db c.warehouseId eventId (IntegrationEvent.retried c.now) fun _ => rfl

/-- A statement that fails changes nothing. -/
def act (db : OpsDb) (c : Call) : OpsDb := (execute env db c).toOption.getD db

end Statements

section Law

/-- The attempts of an event stay within its maximum, and only an event that has used them up is a
dead letter. -/
structure IntegrationEvent.Counted (e : IntegrationEvent) : Prop where
  attempts : e.attempts≤e.maxAttempts
  dead : e.state=.DEAD_LETTER → e.maxAttempts≤e.attempts

/-- An event that is applied stays so, with its payload. -/
def IntegrationEvent.StaysApplied (e e' : IntegrationEvent) : Prop :=
  e.state=.APPLIED → e'.state=.APPLIED ∧ Json.sameJsonValue e'.payload e.payload

def Counted (db : OpsDb) : Prop := ∀ e∈db.rows, e.Counted

def KeepsApplied (db db' : OpsDb) : Prop :=
  ∀ e∈db.rows, e.state=.APPLIED →
    ∃ e'∈db'.rows, e'.id=e.id ∧ e'.state=.APPLIED ∧ Json.sameJsonValue e'.payload e.payload

instance decidableCountedEvent (e : IntegrationEvent) : Decidable e.Counted :=
  decidable_of_iff (e.attempts≤e.maxAttempts ∧ (e.state=.DEAD_LETTER → e.maxAttempts≤e.attempts))
    ⟨fun h => ⟨h.1,h.2⟩,fun h => ⟨h.attempts,h.dead⟩⟩

instance decidableCounted (db : OpsDb) : Decidable (Counted db) :=
  inferInstanceAs (Decidable (∀ e∈db.rows, e.Counted))

instance decidableKeepsApplied (db db' : OpsDb) : Decidable (KeepsApplied db db') :=
  inferInstanceAs (Decidable (∀ e∈db.rows, e.state=.APPLIED → ∃ e'∈db'.rows, e'.id=e.id ∧
    e'.state=.APPLIED ∧ Json.sameJsonValue e'.payload e.payload))

variable {db db' db'' : OpsDb} {e row : IntegrationEvent}

theorem KeepsApplied.refl (db : OpsDb) : KeepsApplied db db :=
  fun e he h => ⟨e,he,rfl,h,Json.sameJsonValue.refl _⟩

theorem KeepsApplied.trans (h : KeepsApplied db db') (h' : KeepsApplied db' db'') :
    KeepsApplied db db'' := by
  intro e he hs
  obtain ⟨e',he',hid',hs',hp'⟩ := h e he hs
  obtain ⟨e'',he'',hid'',hs'',hp''⟩ := h' e' he' hs'
  exact ⟨e'',he'',hid''.trans hid',hs'',hp''.trans hp'⟩

theorem modify_lawful (hdb : Counted db) {f : IntegrationEvent → IntegrationEvent}
    (hf : ∀ e, (f e).id=e.id) (he : e∈db.rows) :
    Counted (db.modify e.id f hf) ∧ KeepsApplied db (db.modify e.id f hf) ↔
      (f e).Counted ∧ e.StaysApplied (f e) := by
  have hget : (db.modify e.id f hf).get? e.id=some (f e) := by
    rw [Table.get?_modify_self,Table.get?_key he]
    rfl
  have hmem := (Table.mem_of_get? hget).1
  constructor
  · intro h
    refine ⟨h.1 _ hmem,?_⟩
    intro hs
    obtain ⟨e',he',hid,hs',hp⟩ := h.2 e he hs
    have hsame : e'=f e := Table.inj_of_nodup (Table.nodup _) he' hmem (hid.trans (hf e).symm)
    exact hsame ▸ ⟨hs',hp⟩
  · intro h
    constructor
    · intro x hx
      rw [Table.rows_modify] at hx
      obtain ⟨r,hr,rfl⟩ := List.mem_map.mp hx
      by_cases hid : r.id=e.id
      · have hsame : r=e := Table.inj_of_nodup db.nodup hr he hid
        rw [if_pos hid,hsame]
        exact h.1
      · rw [if_neg hid]
        exact hdb r hr
    · intro r hr hs
      by_cases hid : r.id=e.id
      · have hsame : r=e := Table.inj_of_nodup db.nodup hr he hid
        subst hsame
        exact ⟨f r,hmem,hf r,h.2 hs⟩
      · have hkept : (db.modify e.id f hf).get? r.id=some r := by
          rw [Table.get?_modify_ne _ _ _ hid]
          exact Table.get?_key hr
        exact ⟨r,(Table.mem_of_get? hkept).1,rfl,hs,Json.sameJsonValue.refl _⟩

theorem insert_lawful (hdb : Counted db) (hnew : db.get? row.id=none) :
    Counted (db.insert row) ∧ KeepsApplied db (db.insert row) ↔ row.Counted := by
  have hrows : (db.insert row).rows=db.rows++[row] := Table.rows_insert hnew
  constructor
  · intro h
    exact h.1 row (by simp [hrows])
  · intro h
    constructor
    · intro e he
      rw [hrows,List.mem_append,List.mem_singleton] at he
      rcases he with he|rfl
      · exact hdb e he
      · exact h
    · intro e he hs
      exact ⟨e,by simp [hrows,he],rfl,hs,Json.sameJsonValue.refl _⟩

end Law

section Permits
variable (env : Env)

/-- When an ingest may write on a stored event. -/
def IngestPermitted (now : ℕ) (dto : RuntimeIntegrationEventIngestDto) (e : IntegrationEvent) : Prop :=
  e.attempts ≤ ingestMaxAttempts dto ∧
    (e.state=.APPLIED → Json.sameJsonValue (ingestPayload env now dto) e.payload) ∧
    (e.state≠.APPLIED → normalizeIntegrationState env dto.state=.DEAD_LETTER →
      ingestMaxAttempts dto≤e.attempts)

def ApplyPermitted (now : ℕ) (dto : RuntimeIntegrationEventApplyDto) (e : IntegrationEvent) : Prop :=
  e.attempts < e.maxAttempts ∧
    (e.state=.APPLIED → Json.sameJsonValue (e.applied env now dto).payload e.payload)

def PrintTestPermitted (now : ℕ) (dto : RuntimePrintLabelTestDto) (e : IntegrationEvent) : Prop :=
  e.attempts < e.maxAttempts ∧
    (e.state=.APPLIED → isDryRun dto=true ∧
      Json.sameJsonValue (printTestPayload env now dto) e.payload)

def RetryPermitted (e : IntegrationEvent) : Prop :=
  e.attempts < e.maxAttempts ∧ e.state≠.APPLIED

/-- The event that a call finds and writes on leaves it room: its attempts are not used up, and
where it is applied the call writes the payload it has. A new event is no dead letter. -/
def Permits (db : OpsDb) (c : Call) : Prop :=
  match c.request with
  | .ingest dto =>
    let row := ingestedEvent env c.warehouseId c.now c.generated dto
    (∀ e, conflicting db row=some e → IngestPermitted env c.now dto e) ∧
      (conflicting db row=none → db.get? row.id=none → row.state≠.DEAD_LETTER)
  | .apply eventId dto =>
    ∀ e, eventOf db c.warehouseId eventId=some e → ApplyPermitted env c.now dto e
  | .testPrint dto =>
    ∀ e, conflicting db (printTestEvent env c.warehouseId c.now c.generated dto)=some e →
      PrintTestPermitted env c.now dto e
  | .retry eventId => ∀ e, eventOf db c.warehouseId eventId=some e → RetryPermitted e

variable {env} {db : OpsDb} {c : Call} {e row : IntegrationEvent} {now : ℕ}

theorem ingestPermitted_iff {dto : RuntimeIntegrationEventIngestDto} {w : Str} {generated : ℕ} :
    IngestPermitted env now dto e ↔
      ((ingestedEvent env w now generated dto).reingested e).Counted ∧
        e.StaysApplied ((ingestedEvent env w now generated dto).reingested e) := by
  cases hs : decide (e.state=.APPLIED) with
  | true =>
    have hs : e.state=.APPLIED := of_decide_eq_true hs
    constructor
    · intro h
      refine ⟨⟨h.1,?_⟩,fun _ => ⟨?_,h.2.1 hs⟩⟩
      · simp [IntegrationEvent.reingested,hs]
      · simp [IntegrationEvent.reingested,hs]
    · intro h
      exact ⟨h.1.attempts,fun _ => (h.2 hs).2,fun hn => (hn hs).elim⟩
  | false =>
    have hs : e.state≠.APPLIED := of_decide_eq_false hs
    constructor
    · intro h
      refine ⟨⟨h.1,?_⟩,fun ha => (hs ha).elim⟩
      intro hd
      simp only [IntegrationEvent.reingested,hs,if_false] at hd
      exact h.2.2 hs hd
    · intro h
      refine ⟨h.1.attempts,fun ha => (hs ha).elim,?_⟩
      intro _ hd
      have hdead : ((ingestedEvent env w now generated dto).reingested e).state=.DEAD_LETTER := by
        simp only [IntegrationEvent.reingested,hs,if_false]
        exact hd
      exact h.1.dead hdead

theorem applyPermitted_iff {dto : RuntimeIntegrationEventApplyDto} :
    ApplyPermitted env now dto e ↔
      (e.applied env now dto).Counted ∧ e.StaysApplied (e.applied env now dto) := by
  constructor
  · intro h
    exact ⟨⟨h.1,fun hd => by cases hd⟩,fun hs => ⟨rfl,h.2 hs⟩⟩
  · intro h
    exact ⟨h.1.attempts,fun hs => (h.2 hs).2⟩

theorem printTestPermitted_iff {dto : RuntimePrintLabelTestDto} {w : Str} {generated : ℕ} :
    PrintTestPermitted env now dto e ↔
      ((printTestEvent env w now generated dto).retested e).Counted ∧
        e.StaysApplied ((printTestEvent env w now generated dto).retested e) := by
  have hstate : ((printTestEvent env w now generated dto).retested e).state=
      if isDryRun dto=true then .APPLIED else .WAITING := rfl
  constructor
  · intro h
    refine ⟨⟨h.1,?_⟩,?_⟩
    · rw [hstate]
      split <;> intro hd <;> cases hd
    · intro hs
      obtain ⟨hdry,hp⟩ := h.2 hs
      rw [hstate,if_pos hdry]
      exact ⟨rfl,hp⟩
  · intro h
    refine ⟨h.1.attempts,?_⟩
    intro hs
    obtain ⟨happlied,hp⟩ := h.2 hs
    refine ⟨?_,hp⟩
    rw [hstate] at happlied
    by_contra hdry
    rw [if_neg hdry] at happlied
    cases happlied

theorem retryPermitted_iff :
    RetryPermitted e ↔ (e.retried now).Counted ∧ e.StaysApplied (e.retried now) := by
  have hstate : (e.retried now).state=
      if e.maxAttempts≤e.attempts+1 then .DEAD_LETTER else .RETRYING := rfl
  constructor
  · intro h
    refine ⟨⟨h.1,?_⟩,fun hs => (h.2 hs).elim⟩
    rw [hstate]
    intro hd
    by_contra hn
    have hopen : ¬e.maxAttempts≤e.attempts+1 := hn
    rw [if_neg hopen] at hd
    cases hd
  · intro h
    refine ⟨h.1.attempts,?_⟩
    intro hs
    have happlied := (h.2 hs).1
    rw [hstate] at happlied
    split at happlied <;> cases happlied

theorem upsert_lawful (hdb : Counted db) (row : IntegrationEvent) {f : IntegrationEvent → IntegrationEvent}
    (hf : ∀ e, (f e).id=e.id) :
    Counted ((upsert db row f hf).toOption.getD db) ∧
        KeepsApplied db ((upsert db row f hf).toOption.getD db) ↔
      (∀ e, conflicting db row=some e → (f e).Counted ∧ e.StaysApplied (f e)) ∧
        (conflicting db row=none → db.get? row.id=none → row.Counted) := by
  unfold upsert
  cases hc : conflicting db row with
  | some e =>
    have he : e∈db.rows := List.mem_of_find?_eq_some hc
    have hlaw := modify_lawful hdb hf he
    simpa [Except.toOption] using hlaw
  | none =>
    by_cases hid : db.get? row.id=none
    · have hlaw := insert_lawful hdb hid
      simpa [hid,Except.toOption] using hlaw
    · have hsame : Counted db ∧ KeepsApplied db db := ⟨hdb,.refl db⟩
      simpa [hid,Except.toOption] using hsame

theorem update_lawful (hdb : Counted db) (w : Str) (id : ℕ)
    {f : IntegrationEvent → IntegrationEvent} (hf : ∀ e, (f e).id=e.id) :
    Counted ((update db w id f hf).toOption.getD db) ∧
        KeepsApplied db ((update db w id f hf).toOption.getD db) ↔
      ∀ e, eventOf db w id=some e → (f e).Counted ∧ e.StaysApplied (f e) := by
  unfold update
  cases hc : eventOf db w id with
  | some e =>
    have he : e∈db.rows := (Table.mem_of_get? (Option.filter_eq_some_iff.mp hc).1).1
    have hlaw := modify_lawful hdb hf he
    simpa [Except.toOption] using hlaw
  | none =>
    have hsame : Counted db ∧ KeepsApplied db db := ⟨hdb,.refl db⟩
    simpa [Except.toOption] using hsame

theorem printTestEvent_counted {dto : RuntimePrintLabelTestDto} {w : Str} {generated : ℕ} :
    (printTestEvent env w now generated dto).Counted := by
  have hattempts : 1≤3 := by decide
  refine ⟨hattempts,?_⟩
  intro hd
  have hstate : (if isDryRun dto=true then RuntimeIntegrationState.APPLIED else .WAITING)=
    .DEAD_LETTER := hd
  split at hstate <;> cases hstate

theorem ingestedEvent_counted {dto : RuntimeIntegrationEventIngestDto} {w : Str} {generated : ℕ} :
    (ingestedEvent env w now generated dto).Counted ↔
      (ingestedEvent env w now generated dto).state≠.DEAD_LETTER := by
  have hmax : 0 < ingestMaxAttempts dto := by
    unfold ingestMaxAttempts
    cases dto.maxAttempts with
    | none => decide
    | some n => exact n.pos
  constructor
  · intro h hd
    have hused : ingestMaxAttempts dto≤0 := h.dead hd
    omega
  · intro h
    exact ⟨Nat.zero_le _,fun hd => (h hd).elim⟩

/-- Exactly the permitted calls keep the law. -/
theorem permits_iff (hdb : Counted db) :
    Permits env db c ↔ Counted (act env db c) ∧ KeepsApplied db (act env db c) := by
  obtain ⟨w,request,now,generated⟩ := c
  cases request with
  | ingest dto =>
    have hlaw := upsert_lawful hdb (ingestedEvent env w now generated dto)
      (f := (ingestedEvent env w now generated dto).reingested) fun _ => rfl
    refine Iff.trans ?_ hlaw.symm
    refine and_congr ?_ ?_
    · exact forall₂_congr fun e _ => ingestPermitted_iff
    · exact forall₂_congr fun _ _ => ingestedEvent_counted.symm
  | apply id dto =>
    have hlaw := update_lawful hdb w id (f := .applied env now dto) fun _ => rfl
    refine Iff.trans ?_ hlaw.symm
    exact forall₂_congr fun e _ => applyPermitted_iff
  | testPrint dto =>
    have hlaw := upsert_lawful hdb (printTestEvent env w now generated dto)
      (f := (printTestEvent env w now generated dto).retested) fun _ => rfl
    refine Iff.trans ?_ hlaw.symm
    constructor
    · intro h
      exact ⟨fun e he => printTestPermitted_iff.mp (h e he),fun _ _ => printTestEvent_counted⟩
    · intro h e he
      exact printTestPermitted_iff.mpr (h.1 e he)
  | retry id =>
    have hlaw := update_lawful hdb w id (f := .retried now) fun _ => rfl
    refine Iff.trans ?_ hlaw.symm
    exact forall₂_congr fun e _ => retryPermitted_iff

end Permits

section History
variable (env : Env)

/-- What is asked of every history of calls: an event that has become applied stays applied with
its payload, attempts never exceed the maximum, and a dead letter has used them up. -/
def Law (cs : List Call) : Prop :=
  Histories.Lawful (act env) Counted KeepsApplied Table.empty cs

/-- A history obeys the law just where every call is permitted when it comes. -/
theorem integration_events_lawful (cs : List Call) :
    Law env cs ↔ Histories.Throughout (act env) (Permits env) Table.empty cs := by
  have hempty : Counted Table.empty := fun e he => by cases he
  exact Histories.lawful_iff hempty (fun db _ => .refl db) (fun h h' => h.trans h')
    fun db c hdb => permits_iff hdb

def demoEnv : Env := ⟨.ascii,fun _ => "2026-01-01T00:00:00.000Z"⟩

def shopOrder (maxAttempts : ℕ+) (state : Option Str) : Call where
  warehouseId := "W".toList
  request := .ingest ⟨"SHOP".toList,"order.import".toList,"SO-1".toList,state,some maxAttempts,none⟩
  now := 0
  generated := 1

def applyOrder : Call := ⟨"W".toList,.apply 1 ⟨none,none⟩,1,2⟩

def retryOrder : Call := ⟨"W".toList,.retry 1,2,3⟩

/-- An applied event that is retried is waiting to be applied again; one that is applied twice has
more attempts than it may have; and one may come in as a dead letter. -/
theorem integration_events_unlawful :
    ¬Law demoEnv [shopOrder 5 none,applyOrder,retryOrder] ∧
      ¬Law demoEnv [shopOrder 1 none,applyOrder,applyOrder] ∧
      ¬Law demoEnv [shopOrder 5 (some "DEAD_LETTER".toList)] := by
  refine ⟨?_,?_,?_⟩
  · intro h
    have hkept := h.kept [shopOrder 5 none,applyOrder] _ ⟨[retryOrder],rfl⟩ (List.prefix_refl _)
    revert hkept
    decide
  · intro h
    have hcounted := h.inv _ (List.prefix_refl _)
    revert hcounted
    decide
  · intro h
    have hcounted := h.inv _ (List.prefix_refl _)
    revert hcounted
    decide

end History
end AardvarkWms.IntegrationEvents
