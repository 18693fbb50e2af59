import AardvarkWms.EventKeys

/-! Domain events: each is stored once under its key and sent to the subscriptions of its warehouse.
The transaction that writes an event holds its key until it ends. -/
namespace AardvarkWms.EnterpriseOps.DomainEvents

open Messaging (Str trim)

structure RecordDomainEventDto where
  ownerClientId : Option ℕ := none
  eventType : Str
  resourceType : Str
  resourceId : Str
  schemaVersion : Option ℕ := none
  payload : Option Json.Fields := none
  metadata : Option Json.Fields := none

structure DomainEvent where
  id : ℕ
  warehouseId : ℕ
  ownerClientId : Option ℕ
  eventType : Str
  resourceType : Str
  resourceId : Str
  schemaVersion : ℕ
  eventKey : Str
  payload : Json
  metadata : Json.Fields
  publishedAt : Option ℕ
  deriving DecidableEq

structure WebhookSubscription where
  id : ℕ
  warehouseId : ℕ
  ownerClientId : Option ℕ
  targetUrl : Str
  eventTypes : List Str
  status : Str
  deriving DecidableEq

structure WebhookDelivery where
  warehouseId : ℕ
  ownerClientId : Option ℕ
  subscriptionId : ℕ
  domainEventId : ℕ
  status : Str
  attemptNumber : ℕ
  targetUrl : Str
  replay : Bool
  deriving DecidableEq

/-- The columns of the unique index. -/
def WebhookDelivery.attempt (d : WebhookDelivery) : ℕ × ℕ × ℕ :=
  (d.subscriptionId,d.domainEventId,d.attemptNumber)

inductive Phase
  | start
  | recorded (event : DomainEvent)
  | delivered (event : DomainEvent) (rows : List WebhookDelivery)
  | ended (result : Except EnterpriseError DomainEvent)
  deriving DecidableEq

/-- The event that an open transaction has written. -/
def Phase.event? : Phase → Option DomainEvent
  | .recorded e | .delivered e _ => some e
  | _ => none

/-- A call of `recordDomainEvent`. -/
structure Recording where
  warehouseId : ℕ
  dto : RecordDomainEventDto
  phase : Phase

structure System where
  events : Table DomainEvent.id
  deliveries : Table WebhookDelivery.attempt
  subscriptions : List WebhookSubscription
  recordings : List Recording

section Statements
variable (env : EventEnv)

def keyInput (dto : RecordDomainEventDto) : DomainEventKeyInput where
  eventType := normalizeEnterpriseCode dto.eventType
  resourceType := normalizeEnterpriseCode dto.resourceType
  resourceId := dto.resourceId
  schemaVersion := dto.schemaVersion.getD 1
  payload := .object (dto.payload.getD [])

def newEvent (id warehouseId : ℕ) (dto : RecordDomainEventDto) : DomainEvent where
  id := id
  warehouseId := warehouseId
  ownerClientId := dto.ownerClientId
  eventType := normalizeEnterpriseCode dto.eventType
  resourceType := normalizeEnterpriseCode dto.resourceType
  resourceId := dto.resourceId
  schemaVersion := dto.schemaVersion.getD 1
  eventKey := buildDomainEventKey env (keyInput dto)
  payload := .object (dto.payload.getD [])
  metadata := dto.metadata.getD []
  publishedAt := none

/-- `ON CONFLICT (event_key) DO UPDATE`. -/
def DomainEvent.recordedAgain (dto : RecordDomainEventDto) (e : DomainEvent) : DomainEvent :=
  {e with
    metadata := Json.Fields.spread e.metadata (dto.metadata.getD [])
    publishedAt := none}

/-- The WHERE clause of the fan-out. -/
def WebhookSubscription.selects (s : WebhookSubscription) (e : DomainEvent) : Bool :=
  s.warehouseId=e.warehouseId && s.status="ACTIVE".toList &&
    (e.ownerClientId=none || s.ownerClientId=none || s.ownerClientId=e.ownerClientId) &&
    (s.eventTypes=[] || e.eventType∈s.eventTypes)

/-- `COALESCE(max(attempt_number) + 1, 1)` over the attempts there are. -/
def nextAttempt (deliveries : List WebhookDelivery) (subscriptionId eventId : ℕ) : ℕ :=
  ((deliveries.filter fun d => d.subscriptionId=subscriptionId && d.domainEventId=eventId).map
    fun d => d.attemptNumber+1).foldl max 1

def enqueueWebhookDeliveries (s : System) (e : DomainEvent) (replay : Bool) : List WebhookDelivery :=
  (s.subscriptions.filter fun x => x.selects e).map fun x =>
    { warehouseId := x.warehouseId
      ownerClientId := x.ownerClientId
      subscriptionId := x.id
      domainEventId := e.id
      status := "PENDING".toList
      attemptNumber := if replay then nextAttempt s.deliveries.rows x.id e.id else 1
      targetUrl := x.targetUrl
      replay := replay }

def System.pending (s : System) : List DomainEvent := s.recordings.filterMap fun x => x.phase.event?

/-- The next statement of a transaction; there is none where another one holds the key. -/
def nextPhase (s : System) (generated : ℕ) (x : Recording) : Option Phase :=
  match x.phase with
  | .start =>
    let eventKey := buildDomainEventKey env (keyInput x.dto)
    if s.pending.any fun e => e.eventKey=eventKey then none
    else match s.events.rows.find? fun e => e.eventKey=eventKey with
      | some e => some (.recorded (e.recordedAgain x.dto))
      | none =>
        if s.events.get? generated=none ∧ ¬(s.pending.any fun e => e.id=generated) then
          some (.recorded (newEvent env generated x.warehouseId x.dto))
        else some (.ended (.error .uniqueViolation))
  | .recorded e => some (.delivered e (enqueueWebhookDeliveries s e false))
  | _ => none

inductive Action
  | start (warehouseId : ℕ) (dto : RecordDomainEventDto)
  | statement (i generated : ℕ)
  | commit (i : ℕ)
  | rollback (i : ℕ) (e : EnterpriseError)
  | subscribe (subscriptions : List WebhookSubscription)

def System.setPhase (s : System) (i : ℕ) (x : Recording) (phase : Phase) : System :=
  {s with recordings := s.recordings.set i {x with phase}}

def act (s : System) : Action → System
  | .start warehouseId dto => {s with recordings := s.recordings++[⟨warehouseId,dto,.start⟩]}
  | .statement i generated =>
    match s.recordings[i]? with
    | none => s
    | some x => (nextPhase env s generated x).elim s (s.setPhase i x)
  | .commit i =>
    match s.recordings[i]? with
    | none => s
    | some x =>
      match x.phase with
      | .delivered e rows => {s.setPhase i x (.ended (.ok e)) with
          events := s.events.put e
          deliveries := rows.foldl Table.insert s.deliveries}
      | _ => s
  | .rollback i err =>
    match s.recordings[i]? with
    | none => s
    | some x =>
      match x.phase with
      | .ended _ => s
      | _ => s.setPhase i x (.ended (.error err))
  | .subscribe subscriptions => {s with subscriptions}

def System.initial : System := ⟨Table.empty,Table.empty,[],[]⟩

def history (as : List Action) : System := Histories.run (act env) System.initial as

end Statements

section Law

/-- The subscription is for the event: it is of its warehouse, active and for its type, and not of
another owner than the event's. -/
structure WebhookSubscription.Covers (s : WebhookSubscription) (e : DomainEvent) : Prop where
  warehouse : s.warehouseId=e.warehouseId
  active : s.status="ACTIVE".toList
  type : s.eventTypes=[] ∨ e.eventType∈s.eventTypes
  owner : ∀ o o', s.ownerClientId=some o → e.ownerClientId=some o' → o=o'

/-- Two calls record the same event. -/
structure Recording.Agrees (x y : Recording) : Prop where
  warehouse : x.warehouseId=y.warehouseId
  eventType : normalizeEnterpriseCode x.dto.eventType=normalizeEnterpriseCode y.dto.eventType
  resourceType :
    normalizeEnterpriseCode x.dto.resourceType=normalizeEnterpriseCode y.dto.resourceType
  resourceId : x.dto.resourceId=y.dto.resourceId
  schemaVersion : x.dto.schemaVersion.getD 1=y.dto.schemaVersion.getD 1
  payload : Json.sameJsonValue (.object (x.dto.payload.getD [])) (.object (y.dto.payload.getD []))

/-- The call has returned the event. -/
def System.Recorded (s : System) (x : Recording) (e : DomainEvent) : Prop :=
  x∈s.recordings ∧ x.phase=.ended (.ok e)

/-- The first attempts to deliver an event to a subscription. -/
def System.firstAttempts (s : System) (subscriptionId eventId : ℕ) : List WebhookDelivery :=
  s.deliveries.rows.filter fun d => d.attempt=(subscriptionId,eventId,1)

/-- The statement that fans out the event of the `i`th call finds it here. -/
def System.FansOut (s : System) (i : ℕ) (e : DomainEvent) : Prop :=
  ∃ x, s.recordings[i]?=some x ∧ x.phase=.recorded e

variable (env : EventEnv)

/-- Calls share a stored event just where they record the same event, a stored event belongs to the
warehouse of every call that recorded it, and it has one first attempt for each subscription that
was for it when it was fanned out, and for no other. -/
structure Law (as : List Action) : Prop where
  shared : ∀ x y e f, (history env as).Recorded x e → (history env as).Recorded y f →
    (e.id=f.id ↔ x.Agrees y)
  own : ∀ e∈(history env as).events.rows, (∃ x f, (history env as).Recorded x f ∧ f.id=e.id) ∧
    ∀ x f, (history env as).Recorded x f → f.id=e.id → e.warehouseId=x.warehouseId
  delivered : ∀ bs i generated, bs++[.statement i generated]<+:as → ∀ e, (history env bs).FansOut i e →
    (∃ x f, (history env as).recordings[i]?=some x ∧ x.phase=.ended (.ok f)) →
    ∀ sub∈(history env bs).subscriptions, sub.Covers e →
      ((history env as).firstAttempts sub.id e.id).length=1
  only : ∀ d∈(history env as).deliveries.rows, ∃ bs i generated e, bs++[.statement i generated]<+:as ∧
    (history env bs).FansOut i e ∧ e.id=d.domainEventId ∧
    ∃ sub∈(history env bs).subscriptions, sub.id=d.subscriptionId ∧ sub.Covers e

/-- Of the calls that have recorded an event, no two whose events have one type, one resource type,
one version, one payload and, but for blanks around it, one resource identifier are of two warehouses
or have blanks around it that differ. -/
def Told (as : List Action) : Prop :=
  ∀ x y e f, (history env as).Recorded x e → (history env as).Recorded y f →
    SameKey (keyInput x.dto) (keyInput y.dto) →
    x.warehouseId=y.warehouseId ∧ x.dto.resourceId=y.dto.resourceId

variable {env} {x y : Recording} {e : DomainEvent}

theorem selects_iff {sub : WebhookSubscription} : sub.selects e=true ↔ sub.Covers e := by
  simp only [WebhookSubscription.selects,Bool.and_eq_true,Bool.or_eq_true,decide_eq_true_eq]
  constructor
  · rintro ⟨⟨⟨hw,hactive⟩,howner⟩,htype⟩
    refine ⟨hw,hactive,htype,?_⟩
    intro o o' ho ho'
    rcases howner with (hnone|hnone)|hsame
    · rw [ho'] at hnone
      cases hnone
    · rw [ho] at hnone
      cases hnone
    · rw [ho,ho'] at hsame
      exact Option.some.inj hsame
  · intro h
    refine ⟨⟨⟨h.warehouse,h.active⟩,?_⟩,h.type⟩
    cases ho' : e.ownerClientId with
    | none => simp
    | some o' =>
      cases ho : sub.ownerClientId with
      | none => simp
      | some o => simp [h.owner o o' ho ho']

theorem agrees_iff : x.Agrees y ↔ SameKey (keyInput x.dto) (keyInput y.dto) ∧
    x.warehouseId=y.warehouseId ∧ x.dto.resourceId=y.dto.resourceId := by
  constructor
  · intro h
    refine ⟨⟨?_,?_,congrArg trim h.resourceId,h.schemaVersion,h.payload⟩,h.warehouse,h.resourceId⟩
    · exact congrArg normalizeEnterpriseCode h.eventType
    · exact congrArg normalizeEnterpriseCode h.resourceType
  · rintro ⟨h,hw,hid⟩
    have htype := h.eventType
    have hresource := h.resourceType
    simp only [keyInput,normalizeEnterpriseCode_idem] at htype hresource
    exact ⟨hw,htype,hresource,hid,h.schemaVersion,h.payload⟩

end Law

section Invariant
variable (env : EventEnv)

def Recording.key (x : Recording) : Str := buildDomainEventKey env (keyInput x.dto)

/-- What the event that a transaction has written is to those that are stored. -/
inductive Wrote (T : Table DomainEvent.id) (x : Recording) (e : DomainEvent) : Prop
  | insert (hid : T.get? e.id=none) (hkey : ∀ f∈T.rows, f.eventKey≠e.eventKey)
      (hwarehouse : e.warehouseId=x.warehouseId)
  | update (f : DomainEvent) (hstored : T.get? e.id=some f) (hkey : e.eventKey=f.eventKey)
      (hwarehouse : e.warehouseId=f.warehouseId)

structure Recording.Ready (T : Table DomainEvent.id) (x : Recording) : Prop where
  pending : ∀ e, x.phase.event?=some e → e.eventKey=x.key env ∧ Wrote T x e
  ended : ∀ e, x.phase=.ended (.ok e) → ∃ f∈T.rows, f.id=e.id ∧ f.eventKey=x.key env

/-- An event is stored once under its key, by a call of its warehouse; and no two open transactions
write one event. -/
structure System.Inv (s : System) : Prop where
  keys : ∀ e∈s.events.rows, ∀ f∈s.events.rows, e.eventKey=f.eventKey → e=f
  origin : ∀ e∈s.events.rows, ∃ x f, s.Recorded x f ∧ f.id=e.id ∧ x.key env=e.eventKey ∧
    x.warehouseId=e.warehouseId
  ready : ∀ (i : ℕ) (x : Recording), s.recordings[i]?=some x → x.Ready env s.events
  apart : ∀ (i j : ℕ) (x y : Recording) (e f : DomainEvent), s.recordings[i]?=some x →
    s.recordings[j]?=some y → x.phase.event?=some e → y.phase.event?=some f →
    e.id=f.id ∨ e.eventKey=f.eventKey → i=j

variable {env} {s : System} {T : Table DomainEvent.id} {x y : Recording} {e f : DomainEvent}
  {i generated : ℕ} {p : Phase} {a : Action}

theorem mem_pending : e∈s.pending ↔ ∃ x∈s.recordings, x.phase.event?=some e := by
  simp only [System.pending,List.mem_filterMap]

theorem Wrote.put (h : Wrote T x e) (hid : e.id≠f.id) (hkey : e.eventKey≠f.eventKey) :
    Wrote (T.put f) x e := by
  have hget : (T.put f).get? e.id=T.get? e.id := by
    rw [Table.get?_put,if_neg hid]
  cases h with
  | insert hnew hfresh hwarehouse =>
    refine .insert (hget.trans hnew) ?_ hwarehouse
    intro g hg
    rcases Table.mem_put.mp hg with rfl|⟨hg,_⟩
    · exact Ne.symm hkey
    · exact hfresh g hg
  | update g hstored hsame hwarehouse => exact .update g (hget.trans hstored) hsame hwarehouse

theorem Wrote.phase (h : Wrote T x e) (p : Phase) : Wrote T {x with phase := p} e := by
  cases h with
  | insert hnew hfresh hwarehouse => exact .insert hnew hfresh hwarehouse
  | update g hstored hsame hwarehouse => exact .update g hstored hsame hwarehouse

/-- What the next statement of a transaction writes, no other transaction holds. -/
def Free (s : System) (p : Phase) : Prop :=
  ∀ e, p.event?=some e → ∀ f∈s.pending, f.id≠e.id ∧ f.eventKey≠e.eventKey

theorem record_ready (hs : s.Inv env) (hstart : x.phase=.start)
    (hp : nextPhase env s generated x=some p) :
    Recording.Ready env s.events {x with phase := p} ∧ Free s p := by
  have ended : ∀ err, Recording.Ready env s.events {x with phase := .ended (.error err)} ∧
      Free s (.ended (.error err)) := by
    intro err
    refine ⟨⟨?_,?_⟩,?_⟩
    · intro e he
      cases he
    · intro e he
      cases he
    · intro e he
      cases he
  simp only [nextPhase,hstart] at hp
  split at hp
  · cases hp
  · rename_i hfree
    have hkeys : ∀ f∈s.pending, f.eventKey≠x.key env := by
      intro f hf hkey
      exact hfree (List.any_eq_true.mpr ⟨f,hf,decide_eq_true hkey⟩)
    split at hp
    · rename_i e he
      cases hp
      have hmem : e∈s.events.rows := List.mem_of_find?_eq_some he
      have hfound := List.find?_some
        (p := fun e : DomainEvent => decide (e.eventKey=x.key env)) he
      have hkey : e.eventKey=x.key env := of_decide_eq_true hfound
      refine ⟨⟨?_,?_⟩,?_⟩
      · intro f hf
        cases hf
        exact ⟨hkey,.update e (Table.get?_key hmem) rfl rfl⟩
      · intro f hf
        cases hf
      · intro f hf g hg
        cases hf
        refine ⟨?_,fun hsame => hkeys g hg (hsame.trans hkey)⟩
        -- who holds the stored event has its key, and the statement would wait
        intro hid
        obtain ⟨y,hy,hwritten⟩ := mem_pending.mp hg
        obtain ⟨j,hj⟩ := List.mem_iff_getElem?.mp hy
        obtain ⟨_,hwrote⟩ := (hs.ready j y hj).pending g hwritten
        have hid' : g.id=e.id := hid
        have hget : s.events.get? g.id=some e := hid' ▸ Table.get?_key hmem
        cases hwrote with
        | insert hnew _ _ => cases hnew.symm.trans hget
        | update h hstored hsame _ =>
          obtain rfl : h=e := Option.some.inj (hstored.symm.trans hget)
          exact hkeys g hg (hsame.trans hkey)
    · rename_i hnone
      split at hp
      · rename_i hnew
        cases hp
        have hids : ∀ g∈s.pending, g.id≠generated := by
          intro g hg hid
          exact hnew.2 (List.any_eq_true.mpr ⟨g,hg,decide_eq_true hid⟩)
        refine ⟨⟨?_,?_⟩,?_⟩
        · intro f hf
          cases hf
          refine ⟨rfl,.insert hnew.1 ?_ rfl⟩
          intro g hg hsame
          have hno := List.find?_eq_none.mp hnone g hg
          exact hno (decide_eq_true hsame)
        · intro f hf
          cases hf
        · intro f hf g hg
          cases hf
          exact ⟨hids g hg,hkeys g hg⟩
      · cases hp
        exact ended _

theorem getElem?_setPhase {j : ℕ} (h : (s.setPhase i x p).recordings[j]?=some y) :
    j=i ∧ y={x with phase := p} ∨ j≠i ∧ s.recordings[j]?=some y :=
  Histories.getElem?_set_cases h

theorem getElem?_setPhase_ne {j : ℕ} (hj : j≠i) :
    (s.setPhase i x p).recordings[j]?=s.recordings[j]? := by
  simp [System.setPhase,Ne.symm hj]

theorem getElem?_setPhase_self (hx : s.recordings[i]?=some x) :
    (s.setPhase i x p).recordings[i]?=some {x with phase := p} := by
  have hlen : i < s.recordings.length := (List.getElem?_eq_some_iff.mp hx).1
  simp [System.setPhase,hlen]

theorem recorded_setPhase (hx : s.recordings[i]?=some x) (hopen : ∀ g, x.phase≠.ended (.ok g))
    (h : s.Recorded y f) : (s.setPhase i x p).Recorded y f := by
  obtain ⟨j,hj⟩ := List.mem_iff_getElem?.mp h.1
  have hne : j≠i := by
    rintro rfl
    obtain rfl : y=x := Option.some.inj (hj.symm.trans hx)
    exact hopen f h.2
  have hkept := (getElem?_setPhase_ne (s := s) (x := x) (p := p) hne).trans hj
  exact ⟨List.mem_of_getElem? hkept,h.2⟩

theorem System.Inv.setPhase (hs : s.Inv env) (hx : s.recordings[i]?=some x)
    (hopen : ∀ g, x.phase≠.ended (.ok g)) (hready : Recording.Ready env s.events {x with phase := p})
    (hfree : ∀ e, p.event?=some e → ∀ (j : ℕ) (y : Recording) (f : DomainEvent), j≠i →
      s.recordings[j]?=some y → y.phase.event?=some f → f.id≠e.id ∧ f.eventKey≠e.eventKey) :
    (s.setPhase i x p).Inv env := by
  refine ⟨hs.keys,?_,?_,?_⟩
  · intro e he
    obtain ⟨y,f,hy,hrest⟩ := hs.origin e he
    exact ⟨y,f,recorded_setPhase hx hopen hy,hrest⟩
  · intro j y hy
    rcases getElem?_setPhase hy with ⟨_,rfl⟩|⟨_,hy⟩
    · exact hready
    · exact hs.ready j y hy
  · intro j k y z e f hy hz he hf hsame
    rcases getElem?_setPhase hy with ⟨hj,rfl⟩|⟨hj,hy⟩ <;>
      rcases getElem?_setPhase hz with ⟨hk,rfl⟩|⟨hk,hz⟩
    · exact hj.trans hk.symm
    · obtain ⟨hid,hkey⟩ := hfree e he k z f hk hz hf
      exact (hsame.elim (fun h => hid h.symm) fun h => hkey h.symm).elim
    · obtain ⟨hid,hkey⟩ := hfree f hf j y e hj hy he
      exact (hsame.elim hid hkey).elim
    · exact hs.apart j k y z e f hy hz he hf hsame

theorem System.Inv.commit (hs : s.Inv env) (hx : s.recordings[i]?=some x)
    {rows : List WebhookDelivery} (hphase : x.phase=.delivered e rows) {D : Table WebhookDelivery.attempt} :
    System.Inv env {s.setPhase i x (.ended (.ok e)) with events := s.events.put e, deliveries := D} := by
  have hevent : x.phase.event?=some e := by
    rw [hphase]
    rfl
  have hopen : ∀ g, x.phase≠.ended (.ok g) := by
    intro g hg
    rw [hphase] at hg
    cases hg
  obtain ⟨hkey,hwrote⟩ := (hs.ready i x hx).pending e hevent
  have hself := getElem?_setPhase_self (p := .ended (.ok e)) hx
  -- a stored event with the key or the identifier of `e` has both
  have hclash : ∀ g∈s.events.rows, g.id≠e.id → g.eventKey≠e.eventKey := by
    intro g hg hid hsame
    cases hwrote with
    | insert _ hfresh _ => exact hfresh g hg hsame
    | update f hstored hfkey _ =>
      obtain rfl := hs.keys g hg f (Table.mem_of_get? hstored).1 (hsame.trans hfkey)
      exact hid (Table.key_of_get? hstored)
  have hstay : ∀ g∈s.events.rows, g.id=e.id → g.eventKey=e.eventKey := by
    intro g hg hid
    have hget : s.events.get? e.id=some g := hid ▸ Table.get?_key hg
    cases hwrote with
    | insert hnew _ _ => cases hnew.symm.trans hget
    | update f hstored hfkey _ =>
      obtain rfl : f=g := Option.some.inj (hstored.symm.trans hget)
      exact hfkey.symm
  refine ⟨?_,?_,?_,?_⟩
  · intro g hg h hh hsame
    rcases Table.mem_put.mp hg with rfl|⟨hgold,hgid⟩ <;>
      rcases Table.mem_put.mp hh with rfl|⟨hhold,hhid⟩
    · rfl
    · exact (hclash h hhold hhid hsame.symm).elim
    · exact (hclash g hgold hgid hsame).elim
    · exact hs.keys g hgold h hhold hsame
  · intro g hg
    rcases Table.mem_put.mp hg with rfl|⟨hg,_⟩
    · cases hwrote with
      | insert _ _ hwarehouse =>
        exact ⟨_,g,⟨List.mem_of_getElem? hself,rfl⟩,rfl,hkey.symm,hwarehouse.symm⟩
      | update f hstored hfkey hwarehouse =>
        obtain ⟨y,h,hy,hid,hykey,hyw⟩ := hs.origin f (Table.mem_of_get? hstored).1
        have hfid : f.id=g.id := Table.key_of_get? hstored
        exact ⟨y,h,recorded_setPhase hx hopen hy,hid.trans hfid,hykey.trans hfkey.symm,
          hyw.trans hwarehouse.symm⟩
    · obtain ⟨y,h,hy,hrest⟩ := hs.origin g hg
      exact ⟨y,h,recorded_setPhase hx hopen hy,hrest⟩
  · intro j y hy
    rcases getElem?_setPhase hy with ⟨_,rfl⟩|⟨hj,hy⟩
    · refine ⟨?_,?_⟩
      · intro g hg
        cases hg
      · intro g hg
        cases hg
        exact ⟨e,Table.mem_put.mpr (.inl rfl),rfl,hkey⟩
    · have hready := hs.ready j y hy
      refine ⟨?_,?_⟩
      · intro g hg
        obtain ⟨hgkey,hgwrote⟩ := hready.pending g hg
        refine ⟨hgkey,hgwrote.put ?_ ?_⟩
        · intro hid
          exact hj (hs.apart j i y x g e hy hx hg hevent (.inl hid))
        · intro hsame
          exact hj (hs.apart j i y x g e hy hx hg hevent (.inr hsame))
      · intro g hg
        obtain ⟨f,hf,hid,hfkey⟩ := hready.ended g hg
        by_cases hfe : f.id=e.id
        · have hput : e∈(s.events.put e).rows := Table.mem_put.mpr (.inl rfl)
          exact ⟨e,hput,hfe.symm.trans hid,(hstay f hf hfe).symm.trans hfkey⟩
        · exact ⟨f,Table.mem_put.mpr (.inr ⟨hf,hfe⟩),hid,hfkey⟩
  · intro j k y z g h hy hz hg hh hsame
    rcases getElem?_setPhase hy with ⟨_,rfl⟩|⟨_,hy⟩
    · cases hg
    · rcases getElem?_setPhase hz with ⟨_,rfl⟩|⟨_,hz⟩
      · cases hh
      · exact hs.apart j k y z g h hy hz hg hh hsame

theorem System.Inv.statement (hs : s.Inv env) (hx : s.recordings[i]?=some x)
    (hp : nextPhase env s generated x=some p) : (s.setPhase i x p).Inv env := by
  cases hphase : x.phase with
  | start =>
    obtain ⟨hready,hfree⟩ := record_ready hs hphase hp
    refine hs.setPhase hx ?_ hready ?_
    · intro g hg
      rw [hphase] at hg
      cases hg
    · intro e he j y f _ hy hf
      exact hfree e he f (mem_pending.mpr ⟨y,List.mem_of_getElem? hy,hf⟩)
  | recorded e =>
    simp only [nextPhase,hphase,Option.some.injEq] at hp
    subst hp
    have hevent : x.phase.event?=some e := by
      rw [hphase]
      rfl
    refine hs.setPhase hx ?_ ⟨?_,?_⟩ ?_
    · intro g hg
      rw [hphase] at hg
      cases hg
    · intro g hg
      cases hg
      obtain ⟨hkey,hwrote⟩ := (hs.ready i x hx).pending e hevent
      exact ⟨hkey,hwrote.phase _⟩
    · intro g hg
      cases hg
    · intro g hg j y f hj hy hf
      cases hg
      refine ⟨?_,?_⟩
      · intro hid
        exact hj (hs.apart j i y x f e hy hx hf hevent (.inl hid))
      · intro hsame
        exact hj (hs.apart j i y x f e hy hx hf hevent (.inr hsame))
  | delivered e rows => simp [nextPhase,hphase] at hp
  | ended r => simp [nextPhase,hphase] at hp

theorem System.Inv.act (hs : s.Inv env) (a : Action) : (act env s a).Inv env := by
  cases a with
  | start w dto =>
    have hold : ∀ (j : ℕ) (y : Recording), (s.recordings++[⟨w,dto,.start⟩])[j]?=some y →
        y=⟨w,dto,.start⟩ ∨ s.recordings[j]?=some y := by
      intro j y hy
      rw [List.getElem?_append] at hy
      split at hy
      · exact .inr hy
      · exact .inl (List.mem_singleton.mp (List.mem_of_getElem? hy))
    refine ⟨hs.keys,?_,?_,?_⟩
    · intro e he
      obtain ⟨y,f,hy,hrest⟩ := hs.origin e he
      exact ⟨y,f,⟨List.mem_append_left _ hy.1,hy.2⟩,hrest⟩
    · intro j y hy
      rcases hold j y hy with rfl|hy
      · refine ⟨?_,?_⟩
        · intro e he
          cases he
        · intro e he
          cases he
      · exact hs.ready j y hy
    · intro j k y z e f hy hz he hf hsame
      rcases hold j y hy with rfl|hy
      · cases he
      · rcases hold k z hz with rfl|hz
        · cases hf
        · exact hs.apart j k y z e f hy hz he hf hsame
  | statement i generated =>
    simp only [DomainEvents.act]
    split
    · exact hs
    · rename_i x hx
      cases hp : nextPhase env s generated x with
      | none => exact hs
      | some p => exact hs.statement hx hp
  | commit i =>
    simp only [DomainEvents.act]
    split
    · exact hs
    · rename_i x hx
      split
      · rename_i e rows hphase
        exact hs.commit hx hphase
      · exact hs
  | rollback i err =>
    simp only [DomainEvents.act]
    split
    · exact hs
    · rename_i x hx
      split
      · exact hs
      · rename_i hopen
        refine hs.setPhase hx (fun g hg => hopen _ hg) ⟨?_,?_⟩ ?_
        · intro e he
          cases he
        · intro e he
          cases he
        · intro e he
          cases he
  | subscribe subscriptions => exact ⟨hs.keys,hs.origin,hs.ready,hs.apart⟩

variable (env) in
theorem inv_history (as : List Action) : (history env as).Inv env := by
  have hstart : System.initial.Inv env := by
    refine ⟨?_,?_,?_,?_⟩
    · intro e he
      cases he
    · intro e he
      cases he
    · intro i x hx
      cases hx
    · intro i j x y e f hx
      cases hx
  exact Histories.run_inv hstart fun s a hs => hs.act a

end Invariant

section Inserts
variable {α κ : Type} [DecidableEq κ] {key : α → κ}

theorem foldl_insert (rows : List α) : ∀ T : Table key,
    (∀ k, T.get? k≠none → (rows.foldl Table.insert T).get? k≠none) ∧
      (∀ r∈rows, (rows.foldl Table.insert T).get? (key r)≠none) ∧
      ∀ r∈(rows.foldl Table.insert T).rows, r∈T.rows ∨ r∈rows := by
  induction rows with
  | nil =>
    intro T
    exact ⟨fun _ h => h,by simp,fun r hr => .inl hr⟩
  | cons a rows ih =>
    intro T
    obtain ⟨hold,hnew,hmem⟩ := ih (T.insert a)
    have hinsert : ∀ k, T.get? k≠none ∨ k=key a → (T.insert a).get? k≠none := by
      intro k hk
      rw [Table.get?_insert]
      split
      · exact Option.some_ne_none _
      · rename_i hne
        exact hk.resolve_right hne
    refine ⟨fun k hk => hold k (hinsert k (.inl hk)),?_,?_⟩
    · intro r hr
      rcases List.mem_cons.mp hr with rfl|hr
      · exact hold _ (hinsert _ (.inr rfl))
      · exact hnew r hr
    · intro r hr
      rcases hmem r hr with hr|hr
      · unfold Table.insert at hr
        split at hr
        · rcases List.mem_append.mp hr with hr|hr
          · exact .inl hr
          · exact .inr (by simp [List.mem_singleton.mp hr])
        · exact .inl hr
      · exact .inr (List.mem_cons_of_mem _ hr)

theorem filter_key_length {T : Table key} {k : κ} (h : T.get? k≠none) :
    (T.rows.filter fun r => key r=k).length=1 := by
  obtain ⟨r,hr⟩ := Option.ne_none_iff_exists'.mp h
  obtain ⟨hmem,hk⟩ := Table.mem_of_get? hr
  have hcount : (T.rows.map key).count k=1 :=
    List.count_eq_one_of_mem T.nodup (List.mem_map.mpr ⟨r,hmem,hk⟩)
  rw [List.count,List.countP_map,List.countP_eq_length_filter] at hcount
  rw [← hcount]
  congr 1

end Inserts

section Deliveries
variable {env : EventEnv} {s : System} {e : DomainEvent} {i : ℕ} {x : Recording} {a : Action}

theorem enqueued_iff {d : WebhookDelivery} : d∈enqueueWebhookDeliveries s e false →
    d.domainEventId=e.id ∧ ∃ sub∈s.subscriptions, sub.id=d.subscriptionId ∧ sub.Covers e := by
  intro hd
  obtain ⟨sub,hsub,rfl⟩ := List.mem_map.mp hd
  obtain ⟨hmem,hselects⟩ := List.mem_filter.mp hsub
  exact ⟨rfl,sub,hmem,rfl,selects_iff.mp hselects⟩

theorem enqueued_first {sub : WebhookSubscription} (hsub : sub∈s.subscriptions)
    (hcovers : sub.Covers e) : ∃ d∈enqueueWebhookDeliveries s e false, d.attempt=(sub.id,e.id,1) := by
  have hmem : sub∈s.subscriptions.filter fun x => x.selects e :=
    List.mem_filter.mpr ⟨hsub,selects_iff.mpr hcovers⟩
  exact ⟨_,List.mem_map.mpr ⟨sub,hmem,rfl⟩,rfl⟩

/-- Where a call is that fanned its event out to these subscriptions. -/
def Toward (s : System) (i : ℕ) (e : DomainEvent) (subs : List WebhookSubscription) : Prop :=
  ∃ x, s.recordings[i]?=some x ∧
    ((∃ f rows, x.phase=.delivered f rows ∧
        ∀ sub∈subs, sub.Covers e → ∃ d∈rows, d.attempt=(sub.id,e.id,1)) ∨
      (∃ err, x.phase=.ended (.error err)) ∨
      ((∃ f, x.phase=.ended (.ok f)) ∧
        ∀ sub∈subs, sub.Covers e → s.deliveries.get? (sub.id,e.id,1)≠none))

theorem act_recording (hx : s.recordings[i]?=some x) :
    (act env s a).recordings[i]?=some x ∨
      (∃ generated p, a=.statement i generated ∧ nextPhase env s generated x=some p ∧
        (act env s a).recordings[i]?=some {x with phase := p}) ∨
      (∃ e rows, a=.commit i ∧ x.phase=.delivered e rows ∧
        (act env s a).recordings[i]?=some {x with phase := .ended (.ok e)} ∧
        (act env s a).deliveries=rows.foldl Table.insert s.deliveries) ∨
      (∃ err, a=.rollback i err ∧ (∀ r, x.phase≠.ended r) ∧
        (act env s a).recordings[i]?=some {x with phase := .ended (.error err)}) := by
  have other : ∀ (j : ℕ) (y : Recording) (p : Phase), j≠i →
      (s.setPhase j y p).recordings[i]?=some x := by
    intro j y p hj
    exact (getElem?_setPhase_ne (Ne.symm hj)).trans hx
  cases a with
  | start w dto =>
    left
    have hlen : i < s.recordings.length := (List.getElem?_eq_some_iff.mp hx).1
    simpa [act,List.getElem?_append,hlen] using hx
  | statement j generated =>
    simp only [act]
    split
    · exact .inl hx
    · rename_i y hy
      cases hp : nextPhase env s generated y with
      | none => exact .inl hx
      | some p =>
        by_cases hj : j=i
        · subst hj
          obtain rfl : y=x := Option.some.inj (hy.symm.trans hx)
          exact .inr (.inl ⟨generated,p,rfl,hp,getElem?_setPhase_self hx⟩)
        · exact .inl (other j y p hj)
  | commit j =>
    simp only [act]
    split
    · exact .inl hx
    · rename_i y hy
      split
      · rename_i f rows hphase
        by_cases hj : j=i
        · subst hj
          obtain rfl : y=x := Option.some.inj (hy.symm.trans hx)
          exact .inr (.inr (.inl ⟨f,rows,rfl,hphase,getElem?_setPhase_self hx,rfl⟩))
        · exact .inl (other j y _ hj)
      · exact .inl hx
  | rollback j err =>
    simp only [act]
    split
    · exact .inl hx
    · rename_i y hy
      split
      · exact .inl hx
      · rename_i hopen
        by_cases hj : j=i
        · subst hj
          obtain rfl : y=x := Option.some.inj (hy.symm.trans hx)
          exact .inr (.inr (.inr ⟨err,rfl,hopen,getElem?_setPhase_self hx⟩))
        · exact .inl (other j y _ hj)
  | subscribe subscriptions => exact .inl hx

theorem act_new (hnone : s.recordings[i]?=none) (hx : (act env s a).recordings[i]?=some x) :
    x.phase=.start := by
  have other : ∀ (j : ℕ) (y : Recording) (p : Phase), (s.setPhase j y p).recordings[i]?=some x →
      x.phase=.start := by
    intro j y p h
    have hlen : i < s.recordings.length := by
      simpa [System.setPhase] using (List.getElem?_eq_some_iff.mp h).1
    rw [List.getElem?_eq_none_iff] at hnone
    omega
  cases a with
  | start w dto =>
    simp only [act,List.getElem?_append] at hx
    split at hx
    · rw [hnone] at hx
      cases hx
    · rw [List.mem_singleton.mp (List.mem_of_getElem? hx)]
  | statement j generated =>
    simp only [act] at hx
    split at hx
    · rw [hnone] at hx
      cases hx
    · rename_i y _
      cases hp : nextPhase env s generated y with
      | none =>
        rw [hp,Option.elim_none,hnone] at hx
        cases hx
      | some p =>
        rw [hp] at hx
        exact other j y p hx
  | commit j =>
    simp only [act] at hx
    split at hx
    · rw [hnone] at hx
      cases hx
    · rename_i y _
      split at hx
      · exact other j y _ hx
      · rw [hnone] at hx
        cases hx
  | rollback j err =>
    simp only [act] at hx
    split at hx
    · rw [hnone] at hx
      cases hx
    · rename_i y _
      split at hx
      · rw [hnone] at hx
        cases hx
      · exact other j y _ hx
  | subscribe subscriptions =>
    have hsame : s.recordings[i]?=some x := hx
    rw [hnone] at hsame
    cases hsame

theorem act_deliveries (s : System) (a : Action) : (act env s a).deliveries=s.deliveries ∨
    ∃ (i : ℕ) (x : Recording) (e : DomainEvent) (rows : List WebhookDelivery),
      s.recordings[i]?=some x ∧ x.phase=.delivered e rows ∧
      (act env s a).deliveries=rows.foldl Table.insert s.deliveries := by
  cases a with
  | start w dto => exact .inl rfl
  | statement i generated =>
    left
    simp only [act]
    split
    · rfl
    · cases nextPhase env s generated _ <;> rfl
  | commit i =>
    simp only [act]
    split
    · exact .inl rfl
    · rename_i x hx
      split
      · rename_i e rows hphase
        exact .inr ⟨i,x,e,rows,hx,hphase,rfl⟩
      · exact .inl rfl
  | rollback i err =>
    left
    simp only [act]
    split
    · rfl
    · split <;> rfl
  | subscribe subscriptions => exact .inl rfl

theorem Toward.act {subs : List WebhookSubscription} (h : Toward s i e subs) (a : Action) :
    Toward (DomainEvents.act env s a) i e subs := by
  have hkeep : ∀ k, s.deliveries.get? k≠none → (DomainEvents.act env s a).deliveries.get? k≠none := by
    intro k hk
    rcases act_deliveries s a with hd|⟨_,_,_,rows,_,_,hd⟩
    · rwa [hd]
    · rw [hd]
      exact (foldl_insert rows s.deliveries).1 k hk
  obtain ⟨x,hx,hcase⟩ := h
  rcases act_recording (a := a) hx with hx'|⟨generated,p,rfl,hp,hx'⟩|
    ⟨f,rows,rfl,hphase,hx',hd⟩|⟨err,rfl,hopen,hx'⟩
  · refine ⟨x,hx',?_⟩
    rcases hcase with hrows|herr|⟨hok,hdone⟩
    · exact .inl hrows
    · exact .inr (.inl herr)
    · exact .inr (.inr ⟨hok,fun sub hsub hcovers => hkeep _ (hdone sub hsub hcovers)⟩)
  · -- a call that has fanned out makes no further statement
    rcases hcase with ⟨f,rows,hphase,_⟩|⟨err,hphase⟩|⟨⟨f,hphase⟩,_⟩ <;> simp [nextPhase,hphase] at hp
  · refine ⟨_,hx',?_⟩
    rcases hcase with ⟨g,rows',hphase',hrows⟩|⟨err,hphase'⟩|⟨⟨g,hphase'⟩,_⟩
    · obtain ⟨rfl,rfl⟩ : f=g ∧ rows=rows' := by simpa using hphase.symm.trans hphase'
      refine .inr (.inr ⟨⟨f,rfl⟩,?_⟩)
      intro sub hsub hcovers
      obtain ⟨d,hdmem,hattempt⟩ := hrows sub hsub hcovers
      rw [hd,← hattempt]
      exact (foldl_insert rows s.deliveries).2.1 d hdmem
    · cases hphase.symm.trans hphase'
    · cases hphase.symm.trans hphase'
  · exact ⟨_,hx',.inr (.inl ⟨err,rfl⟩)⟩

/-- A delivery goes back to a fan-out that found its subscription there and meant it. -/
def Source (env : EventEnv) (as : List Action) (d : WebhookDelivery) : Prop :=
  ∃ bs i generated e, bs++[.statement i generated]<+:as ∧ (history env bs).FansOut i e ∧
    e.id=d.domainEventId ∧
    ∃ sub∈(history env bs).subscriptions, sub.id=d.subscriptionId ∧ sub.Covers e

theorem Source.mono {as bs : List Action} {d : WebhookDelivery} (h : Source env as d) (hle : as<+:bs) :
    Source env bs d := by
  obtain ⟨cs,i,generated,e,hcs,hrest⟩ := h
  exact ⟨cs,i,generated,e,hcs.trans hle,hrest⟩

theorem history_concat (as : List Action) (a : Action) :
    history env (as++[a])=act env (history env as) a := Histories.run_concat

theorem sources (as : List Action) : (∀ d∈(history env as).deliveries.rows, Source env as d) ∧
    ∀ (i : ℕ) (x : Recording) (e : DomainEvent) (rows : List WebhookDelivery),
      (history env as).recordings[i]?=some x → x.phase=.delivered e rows → ∀ d∈rows, Source env as d := by
  induction as using List.reverseRecOn with
  | nil =>
    constructor
    · intro d hd
      cases hd
    · intro i x e rows hx
      cases hx
  | append_singleton as a ih =>
    obtain ⟨hstored,hrows⟩ := ih
    have hle : as<+:as++[a] := List.prefix_append as [a]
    rw [history_concat]
    constructor
    · intro d hd
      rcases act_deliveries (history env as) a with hsame|⟨i,x,e,rows,hx,hphase,hnew⟩
      · rw [hsame] at hd
        exact (hstored d hd).mono hle
      · rw [hnew] at hd
        rcases (foldl_insert rows _).2.2 d hd with hd|hd
        · exact (hstored d hd).mono hle
        · exact (hrows i x e rows hx hphase d hd).mono hle
    · intro i x e rows hx hphase d hd
      cases hbefore : (history env as).recordings[i]? with
      | none => cases hphase.symm.trans (act_new hbefore hx)
      | some y =>
        rcases act_recording (a := a) hbefore with hx'|⟨generated,p,rfl,hp,hx'⟩|
          ⟨f,rows',rfl,hphase',hx',_⟩|⟨err,rfl,hopen,hx'⟩
        · obtain rfl : x=y := Option.some.inj (hx.symm.trans hx')
          exact (hrows i x e rows hbefore hphase d hd).mono hle
        · obtain rfl : x=_ := Option.some.inj (hx.symm.trans hx')
          obtain rfl : p=.delivered e rows := hphase
          cases hy : y.phase with
          | recorded f =>
            simp only [nextPhase,hy,Option.some.injEq,Phase.delivered.injEq] at hp
            obtain ⟨rfl,rfl⟩ := hp
            obtain ⟨hid,hsub⟩ := enqueued_iff hd
            exact ⟨as,i,generated,f,List.prefix_refl _,⟨y,hbefore,hy⟩,hid.symm,hsub⟩
          | start =>
            simp only [nextPhase,hy] at hp
            split at hp
            · cases hp
            · split at hp
              · cases hp
              · split at hp <;> cases hp
          | delivered f rows' => simp [nextPhase,hy] at hp
          | ended r => simp [nextPhase,hy] at hp
        · obtain rfl : x=_ := Option.some.inj (hx.symm.trans hx')
          cases hphase
        · obtain rfl : x=_ := Option.some.inj (hx.symm.trans hx')
          cases hphase

theorem toward_after {bs as : List Action} {i generated : ℕ} {e : DomainEvent}
    (hfans : (history env bs).FansOut i e) (hle : bs++[.statement i generated]<+:as) :
    Toward (history env as) i e (history env bs).subscriptions := by
  induction as using List.reverseRecOn with
  | nil => simp at hle
  | append_singleton as a ih =>
    rw [history_concat]
    rcases Histories.prefix_concat hle with hle|heq
    · exact (ih hle).act a
    · obtain ⟨rfl,hlast⟩ := List.append_inj' heq rfl
      obtain rfl : .statement i generated=a := by simpa using hlast
      obtain ⟨x,hx,hphase⟩ := hfans
      have hnext : nextPhase env (history env bs) generated x=
          some (.delivered e (enqueueWebhookDeliveries (history env bs) e false)) := by
        simp only [nextPhase,hphase]
      refine ⟨{x with phase := .delivered e _},?_,
        .inl ⟨e,_,rfl,fun sub hsub hcovers => enqueued_first hsub hcovers⟩⟩
      simp only [DomainEvents.act,hx,hnext]
      exact getElem?_setPhase_self hx

end Deliveries

section Theorem
variable (env : EventEnv)

/-- No two of the calls have digests that collide. -/
def CollisionFree (as : List Action) : Prop :=
  ∀ x∈(history env as).recordings, ∀ y∈(history env as).recordings,
    NoCollision env (keyInput x.dto) (keyInput y.dto)

variable {env} {as : List Action} {x y : Recording} {e f : DomainEvent}

theorem recorded_id_iff (hx : (history env as).Recorded x e) (hy : (history env as).Recorded y f) :
    e.id=f.id ↔ x.key env=y.key env := by
  have hinv := inv_history env as
  obtain ⟨i,hi⟩ := List.mem_iff_getElem?.mp hx.1
  obtain ⟨j,hj⟩ := List.mem_iff_getElem?.mp hy.1
  obtain ⟨g,hg,hgid,hgkey⟩ := (hinv.ready i x hi).ended e hx.2
  obtain ⟨h,hh,hhid,hhkey⟩ := (hinv.ready j y hj).ended f hy.2
  constructor
  · intro hid
    have hsame : g=h := Table.inj_of_nodup (Table.nodup _) hg hh (hgid.trans (hid.trans hhid.symm))
    rw [← hgkey,← hhkey,hsame]
  · intro hkey
    have hsame : g=h := hinv.keys g hg h hh (hgkey.trans (hkey.trans hhkey.symm))
    rw [← hgid,← hhid,hsame]

def payloadText : Str := "\x7b\"a\":\"x\",\"b\":null\x7d".toList

def payloadDigest : Str :=
  "617b676667cb9615270635c7ba50bcc5da5ce0d46b879f04d7d73ba51cf56579".toList

def keyDigest : Str :=
  "236aca26727933d80a8401090d5b85b9fcc87f2c67394f0153db7bbb527d27fe".toList

theorem payloadDigest_alnum : payloadDigest.all Billing.isAlnum=true := by
  unfold payloadDigest
  rewrite [String.toList_ofList]
  decide

theorem keyDigest_alnum : keyDigest.all Billing.isAlnum=true := by
  unfold keyDigest
  rewrite [String.toList_ofList]
  decide

theorem digest_alnum (t : Str) :
    ∀ c∈(if t=payloadText then payloadDigest else keyDigest), Billing.isAlnum c=true := by
  intro c hc
  split at hc
  · exact List.all_eq_true.mp payloadDigest_alnum c hc
  · exact List.all_eq_true.mp keyDigest_alnum c hc

/-- The digests of the two texts that these runs digest. -/
def demoEnv : EventEnv := ⟨fun t => if t=payloadText then payloadDigest else keyDigest,
  fun _ => payloadText,digest_alnum⟩

def moved (payload : Json.Fields) : RecordDomainEventDto where
  eventType := "stock moved".toList
  resourceType := "Quant".toList
  resourceId := "Q:1".toList
  payload := some payload

def hook : WebhookSubscription := ⟨9,1,none,"https://hook".toList,[],"ACTIVE".toList⟩

def Phase.returned? : Phase → Option DomainEvent
  | .ended (.ok e) => some e
  | _ => none

theorem returned_some {p : Phase} {e : DomainEvent} (h : e∈p.returned?) : p=.ended (.ok e) := by
  unfold Phase.returned? at h
  split at h
  · obtain rfl := Option.some.inj h
    rfl
  · cases h

/-- One event recorded twice, its payload's keys in another order, by two warehouses. -/
def recordTwice (w w' : ℕ) : List Action :=
  [.subscribe [hook],.start w (moved [("b",.null),("a",.string "x")]),.statement 0 1,.statement 0 0,
    .commit 0,.start w' (moved [("a",.string "x"),("b",.null)]),.statement 1 2,.statement 1 0,.commit 1]

def digestEnv (text payload key : Str) : EventEnv :=
  ⟨fun t => (if t=text then payload else key).filter Billing.isAlnum,fun _ => text,
    fun _ _ hc => (List.mem_filter.mp hc).2⟩

theorem demoEnv_eq : demoEnv=digestEnv payloadText payloadDigest keyDigest := by
  have hdigests : (fun t => if t=payloadText then payloadDigest else keyDigest)=
      fun t => (if t=payloadText then payloadDigest else keyDigest).filter Billing.isAlnum :=
    funext fun t => (List.filter_eq_self.mpr (digest_alnum t)).symm
  unfold demoEnv digestEnv
  congr 1

end Theorem
end AardvarkWms.EnterpriseOps.DomainEvents
