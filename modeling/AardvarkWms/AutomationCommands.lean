import AardvarkWms.Billing
import AardvarkWms.Histories

/-! Automation commands: they are queued under a correlation id, claimed by devices one at a time
and completed. A transaction holds the row it wrote until it commits or is rolled back. -/
namespace AardvarkWms.EnterpriseOps

open Messaging (Str trim)
open OrderUpdates (normalizeNullableString)

inductive AutomationCommandStatus
  | QUEUED | CLAIMED | SENT | COMPLETED | FAILED | DEAD_LETTER | CANCELLED
  deriving DecidableEq

structure AutomationCommand where
  id : ℕ
  warehouseId : ℕ
  ownerClientId : Option ℕ
  deviceId : Option ℕ
  commandType : Str
  status : AutomationCommandStatus
  priority : ℕ
  correlationId : Option Str
  payload : Json
  attempts : ℕ
  notBeforeAt : Option ℕ
  claimedAt : Option ℕ
  completedAt : Option ℕ
  errorMessage : Option Str
  metadata : Json
  createdAt : ℕ
  updatedAt : ℕ
  deriving DecidableEq

structure EnqueueAutomationCommandDto where
  ownerClientId : Option ℕ := none
  deviceId : Option ℕ := none
  commandType : Str
  priority : Option ℕ := none
  correlationId : Option Str := none
  notBeforeAt : Option ℕ := none
  payload : Option Json := none

structure CompleteAutomationCommandDto where
  result : Option Json := none
  errorMessage : Option Str := none

inductive EnterpriseError
  | notFound (message : String)
  | invalidTransition
  | uniqueViolation
  deriving DecidableEq

/-- What is left is letters and digits of ASCII, with a dash for each run of anything else. -/
def normalizeEnterpriseCode (value : Str) : Str :=
  (Billing.strip '-' (Billing.replaceRuns Billing.isAlnum '-' false (trim value))).map Char.toUpper

inductive AutomationCommandAction
  | CLAIM | SEND | COMPLETE | FAIL | DEAD_LETTER | CANCEL
  deriving DecidableEq

def nextAutomationCommandStatus (current : AutomationCommandStatus)
    (action : AutomationCommandAction) : Except EnterpriseError AutomationCommandStatus :=
  match action, current with
  | .CANCEL, _ => .ok .CANCELLED
  | .DEAD_LETTER, _ => .ok .DEAD_LETTER
  | .CLAIM, .QUEUED => .ok .CLAIMED
  | .FAIL, .QUEUED => .ok .FAILED
  | .SEND, .CLAIMED => .ok .SENT
  | .COMPLETE, .CLAIMED => .ok .COMPLETED
  | .FAIL, .CLAIMED => .ok .FAILED
  | .COMPLETE, .SENT => .ok .COMPLETED
  | .FAIL, .SENT => .ok .FAILED
  | .CLAIM, .FAILED => .ok .CLAIMED
  | _, _ => .error .invalidTransition

/-- An empty message is none. -/
def CompleteAutomationCommandDto.reportsError (dto : CompleteAutomationCommandDto) : Bool :=
  dto.errorMessage.any (·≠[])

def CompleteAutomationCommandDto.action (dto : CompleteAutomationCommandDto) :
    AutomationCommandAction :=
  if dto.reportsError then .FAIL else .COMPLETE

inductive Request
  | enqueue (dto : EnqueueAutomationCommandDto)
  | claimNext (deviceId : Option ℕ)
  | complete (commandId : ℕ) (dto : CompleteAutomationCommandDto)

/-- Where a transaction is: a completion has read the command and decided its next status; a
statement has written a row, which stays locked until the end. -/
inductive Phase
  | start
  | decided (status : AutomationCommandStatus)
  | written (row : AutomationCommand)
  | ended (result : Except EnterpriseError (Option AutomationCommand))

def Phase.row? : Phase → Option AutomationCommand
  | .written row => some row
  | _ => none

structure Session where
  warehouseId : ℕ
  request : Request
  phase : Phase

/-- The committed commands, and the transactions. -/
structure System where
  commands : Table AutomationCommand.id
  sessions : List Session
  now : ℕ

section Rows
variable (now : ℕ)

def newCommand (id warehouseId : ℕ) (dto : EnqueueAutomationCommandDto) : AutomationCommand where
  id := id
  warehouseId := warehouseId
  ownerClientId := dto.ownerClientId
  deviceId := dto.deviceId
  commandType := normalizeEnterpriseCode dto.commandType
  status := .QUEUED
  priority := dto.priority.getD 50
  correlationId := normalizeNullableString dto.correlationId
  payload := dto.payload.getD (.object [])
  attempts := 0
  notBeforeAt := dto.notBeforeAt
  claimedAt := none
  completedAt := none
  errorMessage := none
  metadata := .object []
  createdAt := now
  updatedAt := now

/-- `ON CONFLICT (correlation_id) … DO UPDATE`. -/
def AutomationCommand.requeued (dto : EnqueueAutomationCommandDto) (c : AutomationCommand) :
    AutomationCommand :=
  {c with
    payload := dto.payload.getD (.object [])
    priority := max c.priority (dto.priority.getD 50)
    updatedAt := now}

def AutomationCommand.claimed (deviceId : Option ℕ) (c : AutomationCommand) : AutomationCommand :=
  {c with
    status := .CLAIMED
    deviceId := c.deviceId.or deviceId
    attempts := c.attempts+1
    claimedAt := some now
    updatedAt := now}

def AutomationCommand.closed (status : AutomationCommandStatus)
    (dto : CompleteAutomationCommandDto) (c : AutomationCommand) : AutomationCommand :=
  {c with
    status := status
    completedAt := if status=.COMPLETED then some now else c.completedAt
    errorMessage := dto.errorMessage
    metadata := .object (Json.Fields.set "result" (dto.result.getD .null) (c.metadata.fields?.getD []))
    updatedAt := now}

/-- The WHERE clause of the claim. -/
def AutomationCommand.claimable (warehouseId : ℕ) (deviceId : Option ℕ) (c : AutomationCommand) :
    Bool :=
  c.warehouseId=warehouseId && (c.status=.QUEUED || c.status=.FAILED) &&
    (deviceId=none || c.deviceId=deviceId || c.deviceId=none) && c.notBeforeAt.all (·≤now)

end Rows

/-- `ORDER BY priority DESC, created_at ASC`. -/
def comesBefore (a b : AutomationCommand) : Bool :=
  b.priority < a.priority || a.priority=b.priority && a.createdAt≤b.createdAt

namespace System
variable (s : System)

/-- The rows that open transactions have written. -/
def pending : List AutomationCommand :=
  s.sessions.filterMap fun x => x.phase.row?

def locked (id : ℕ) : Bool := s.pending.any fun row => row.id=id

/-- `FOR UPDATE SKIP LOCKED`: the first command that may be claimed and that nobody holds. -/
def nextCommand (warehouseId : ℕ) (deviceId : Option ℕ) : Option AutomationCommand :=
  ((s.commands.rows.filter fun c => c.claimable s.now warehouseId deviceId && !s.locked c.id)
    |>.insertionSort fun a b => comesBefore a b).head?

def findAutomationCommand (warehouseId commandId : ℕ) : Option AutomationCommand :=
  (s.commands.get? commandId).filter fun c => c.warehouseId=warehouseId

def correlated (correlationId : Str) : Option AutomationCommand :=
  s.commands.rows.find? fun c => c.correlationId=some correlationId

end System

section Statements
variable (s : System) (generated : ℕ)

def insertCommand (warehouseId : ℕ) (dto : EnqueueAutomationCommandDto) : Phase :=
  if s.commands.get? generated=none ∧ s.locked generated=false then
    .written (newCommand s.now generated warehouseId dto)
  else .ended (.error .uniqueViolation)

/-- The next statement of a transaction; there is none where it has to wait for another one. -/
def nextPhase (x : Session) : Option Phase :=
  match x.phase, x.request with
  | .start, .enqueue dto =>
    match normalizeNullableString dto.correlationId with
    | none => some (insertCommand s generated x.warehouseId dto)
    | some correlationId =>
      if s.pending.any fun row => row.correlationId=some correlationId then none
      else match s.correlated correlationId with
        | none => some (insertCommand s generated x.warehouseId dto)
        | some c => some (.written (c.requeued s.now dto))
  | .start, .claimNext deviceId =>
    match s.nextCommand x.warehouseId deviceId with
    | none => some (.ended (.ok none))
    | some c => some (.written (c.claimed s.now deviceId))
  | .start, .complete commandId dto =>
    match s.findAutomationCommand x.warehouseId commandId with
    | none => some (.ended (.error (.notFound "Automation command was not found.")))
    | some c =>
      match nextAutomationCommandStatus c.status dto.action with
      | .error e => some (.ended (.error e))
      | .ok status => some (.decided status)
  | .decided status, .complete commandId dto =>
    if s.locked commandId then none
    else match s.findAutomationCommand x.warehouseId commandId with
      | none => some (.ended (.error (.notFound "Automation command was not updated.")))
      | some c => some (.written (c.closed s.now status dto))
  | _, _ => none

end Statements

inductive Action
  | start (warehouseId : ℕ) (request : Request)
  | statement (i generated : ℕ)
  | commit (i : ℕ)
  | rollback (i : ℕ) (e : EnterpriseError)
  | tick (n : ℕ)

def System.setPhase (s : System) (i : ℕ) (x : Session) (phase : Phase) : System :=
  {s with sessions := s.sessions.set i {x with phase}}

def act (s : System) : Action → System
  | .start warehouseId request =>
    {s with sessions := s.sessions++[⟨warehouseId,request,.start⟩]}
  | .statement i generated =>
    match s.sessions[i]? with
    | none => s
    | some x => (nextPhase s generated x).elim s (s.setPhase i x)
  | .commit i =>
    match s.sessions[i]? with
    | none => s
    | some x =>
      match x.phase with
      | .written row => {s.setPhase i x (.ended (.ok (some row))) with commands := s.commands.put row}
      | _ => s
  | .rollback i e =>
    match s.sessions[i]? with
    | none => s
    | some x =>
      match x.phase with
      | .ended _ => s
      | _ => s.setPhase i x (.ended (.error e))
  | .tick n => {s with now := s.now+n}

def System.initial : System := ⟨Table.empty,[],0⟩

def history (as : List Action) : System := Histories.run act System.initial as

/-- A command that was claimed and has not failed since is not claimed again; one that is completed
stays completed and is not claimed again; and an enqueue changes no command that was claimed or
that belongs to another warehouse. The attempts of a command count its claims. -/
structure Lifecycle (as : List Action) : Prop where
  claimed : ∀ bs cs, bs<+:cs → cs<+:as → ∀ c∈(history bs).commands.rows, 0 < c.attempts →
    (∀ ds, bs<+:ds → ds<+:cs → ∀ d∈(history ds).commands.rows, d.id=c.id → d.status≠.FAILED) →
    ∃ d∈(history cs).commands.rows, d.id=c.id ∧ d.attempts=c.attempts
  completed : ∀ bs cs, bs<+:cs → cs<+:as → ∀ c∈(history bs).commands.rows, c.status=.COMPLETED →
    ∃ d∈(history cs).commands.rows, d.id=c.id ∧ d.status=.COMPLETED ∧ d.attempts=c.attempts
  enqueued : ∀ bs i, bs++[.commit i]<+:as → ∀ x dto, (history bs).sessions[i]?=some x →
    x.request=.enqueue dto → ∀ c∈(history bs).commands.rows,
      0 < c.attempts ∨ c.warehouseId≠x.warehouseId →
        c∈(history (bs++[.commit i])).commands.rows

/-- When a transaction commits: a completion that reports an error finds the command not completed
by another one, and an enqueue that meets a command of its correlation id finds one of its own
warehouse that nobody has claimed. -/
def Session.Permits (x : Session) (c : AutomationCommand) : Prop :=
  match x.request with
  | .complete _ dto => dto.reportsError=true → c.status≠.COMPLETED
  | .enqueue _ => c.attempts=0 ∧ c.warehouseId=x.warehouseId
  | .claimNext _ => True

instance decidableSessionPermits (x : Session) (c : AutomationCommand) : Decidable (x.Permits c) := by
  unfold Session.Permits
  split <;> infer_instance

def Permits (s : System) : Action → Prop
  | .commit i => ∀ x∈s.sessions[i]?, ∀ row∈x.phase.row?, ∀ c∈s.commands.get? row.id, x.Permits c
  | _ => True

instance decidablePermits (s : System) (a : Action) : Decidable (Permits s a) := by
  unfold Permits
  split <;> infer_instance

section Invariant

def CompleteAutomationCommandDto.outcome (dto : CompleteAutomationCommandDto) :
    AutomationCommandStatus :=
  if dto.reportsError then .FAILED else .COMPLETED

/-- What the row that a transaction has written is to the one that is stored. -/
inductive Wrote (T : Table AutomationCommand.id) (x : Session) (row : AutomationCommand) : Prop
  | insert (dto : EnqueueAutomationCommandDto) (hrequest : x.request=.enqueue dto)
      (hnew : T.get? row.id=none) (hstatus : row.status=.QUEUED) (hattempts : row.attempts=0)
  | requeue (dto : EnqueueAutomationCommandDto) (c : AutomationCommand) (now : ℕ)
      (hrequest : x.request=.enqueue dto) (hstored : T.get? row.id=some c)
      (hrow : row=c.requeued now dto)
  | claim (deviceId : Option ℕ) (c : AutomationCommand) (now : ℕ)
      (hrequest : x.request=.claimNext deviceId) (hstored : T.get? row.id=some c)
      (hstatus : c.status=.QUEUED ∨ c.status=.FAILED) (hrow : row=c.claimed now deviceId)
  | close (commandId : ℕ) (dto : CompleteAutomationCommandDto) (c : AutomationCommand) (now : ℕ)
      (hrequest : x.request=.complete commandId dto) (hstored : T.get? row.id=some c)
      (hrow : row=c.closed now dto.outcome dto)

def Session.Ready (T : Table AutomationCommand.id) (x : Session) : Prop :=
  match x.phase with
  | .decided status => ∀ commandId dto, x.request=.complete commandId dto → status=dto.outcome
  | .written row => Wrote T x row
  | _ => True

/-- Nobody queues a claimed command, every open transaction is where it should be, and no two of
them have written the same row. -/
structure System.Inv (s : System) : Prop where
  queued : ∀ c∈s.commands.rows, c.status=.QUEUED → c.attempts=0
  ready : ∀ (i : ℕ) (x : Session), s.sessions[i]?=some x → x.Ready s.commands
  apart : ∀ (i j : ℕ) (x y : Session) (row row' : AutomationCommand), s.sessions[i]?=some x →
    s.sessions[j]?=some y → x.phase=.written row → y.phase=.written row' → row.id=row'.id → i=j

variable {s : System} {T : Table AutomationCommand.id} {x : Session} {row c : AutomationCommand}
  {generated i : ℕ} {p : Phase}

theorem next_complete {current status : AutomationCommandStatus}
    (h : nextAutomationCommandStatus current .COMPLETE=.ok status) : status=.COMPLETED := by
  cases current <;> cases h <;> rfl

theorem next_fail {current status : AutomationCommandStatus}
    (h : nextAutomationCommandStatus current .FAIL=.ok status) : status=.FAILED := by
  cases current <;> cases h <;> rfl

theorem nextAutomationCommandStatus_outcome {current status : AutomationCommandStatus}
    {dto : CompleteAutomationCommandDto}
    (h : nextAutomationCommandStatus current dto.action=.ok status) : status=dto.outcome := by
  unfold CompleteAutomationCommandDto.action at h
  unfold CompleteAutomationCommandDto.outcome
  split at h
  · rename_i hr
    rw [if_pos hr]
    exact next_fail h
  · rename_i hr
    rw [if_neg hr]
    exact next_complete h

theorem mem_pending : row∈s.pending ↔ ∃ x∈s.sessions, x.phase=.written row := by
  have hrow : ∀ p : Phase, p.row?=some row ↔ p=.written row := by
    intro p
    cases p <;> simp [Phase.row?]
  simp only [System.pending,List.mem_filterMap,hrow]

theorem not_locked {id : ℕ} (h : s.locked id=false) : ∀ r∈s.pending, r.id≠id := by
  simpa [System.locked] using h

theorem Wrote.put {row' : AutomationCommand} (h : Wrote T x row) (hne : row.id≠row'.id) :
    Wrote (T.put row') x row := by
  have hget : (T.put row').get? row.id=T.get? row.id := by
    rw [Table.get?_put,if_neg hne]
  cases h with
  | insert dto hrequest hnew hstatus hattempts =>
    exact .insert dto hrequest (hget.trans hnew) hstatus hattempts
  | requeue dto c now hrequest hstored hrow =>
    exact .requeue dto c now hrequest (hget.trans hstored) hrow
  | claim deviceId c now hrequest hstored hstatus hrow =>
    exact .claim deviceId c now hrequest (hget.trans hstored) hstatus hrow
  | close commandId dto c now hrequest hstored hrow =>
    exact .close commandId dto c now hrequest (hget.trans hstored) hrow

theorem Wrote.correlationId (h : Wrote T x row) (hget : T.get? row.id=some c) :
    row.correlationId=c.correlationId := by
  have hsame : ∀ {d}, T.get? row.id=some d → d=c := fun hd => Option.some.inj (hd.symm.trans hget)
  cases h with
  | insert dto hrequest hnew _ _ => cases hnew.symm.trans hget
  | requeue dto d now _ hstored hrow => rw [hrow,hsame hstored]; rfl
  | claim deviceId d now _ hstored _ hrow => rw [hrow,hsame hstored]; rfl
  | close commandId dto d now _ hstored hrow => rw [hrow,hsame hstored]; rfl

theorem Wrote.queued (h : Wrote T x row) (hT : ∀ c∈T.rows, c.status=.QUEUED → c.attempts=0)
    (hstatus : row.status=.QUEUED) : row.attempts=0 := by
  cases h with
  | insert dto _ _ _ hattempts => exact hattempts
  | requeue dto c now _ hstored hrow =>
    subst hrow
    exact hT c (Table.mem_of_get? hstored).1 hstatus
  | claim deviceId c now _ _ _ hrow =>
    subst hrow
    cases hstatus
  | close commandId dto c now _ _ hrow =>
    subst hrow
    have hout : dto.outcome=.QUEUED := hstatus
    unfold CompleteAutomationCommandDto.outcome at hout
    split at hout <;> cases hout

/-- What the next statement of a transaction writes, no other transaction holds. -/
def Free (s : System) (p : Phase) : Prop :=
  ∀ row, p=.written row → ∀ row'∈s.pending, row'.id≠row.id

theorem insertCommand_ready {dto : EnqueueAutomationCommandDto} (hrequest : x.request=.enqueue dto) :
    Session.Ready s.commands {x with phase := insertCommand s generated x.warehouseId dto} ∧
      Free s (insertCommand s generated x.warehouseId dto) := by
  unfold insertCommand
  split
  · rename_i hnew
    refine ⟨.insert dto hrequest hnew.1 rfl rfl,?_⟩
    rintro row ⟨⟩
    exact not_locked hnew.2
  · refine ⟨trivial,?_⟩
    rintro row ⟨⟩

theorem nextCommand_some {w : ℕ} {deviceId : Option ℕ} (h : s.nextCommand w deviceId=some c) :
    s.commands.get? c.id=some c ∧ (c.status=.QUEUED ∨ c.status=.FAILED) ∧
      s.locked c.id=false := by
  have hmem := List.mem_of_mem_head? h
  rw [List.mem_insertionSort,List.mem_filter] at hmem
  obtain ⟨hc,hok⟩ := hmem
  simp only [AutomationCommand.claimable,Bool.and_eq_true,Bool.or_eq_true,decide_eq_true_eq,
    Bool.not_eq_true'] at hok
  exact ⟨Table.get?_key hc,hok.1.1.1.2,hok.2⟩

theorem nextPhase_ready (hs : s.Inv) (hx : s.sessions[i]?=some x)
    (hp : nextPhase s generated x=some p) :
    Session.Ready s.commands {x with phase := p} ∧ Free s p := by
  have hready := hs.ready i x hx
  obtain ⟨w,request,phase⟩ := x
  have ended : ∀ r, Session.Ready s.commands ⟨w,request,.ended r⟩ ∧ Free s (.ended r) := by
    intro r
    refine ⟨trivial,?_⟩
    rintro row ⟨⟩
  cases phase with
  | start =>
    cases request with
    | enqueue dto =>
      simp only [nextPhase] at hp
      split at hp
      · cases hp
        exact insertCommand_ready rfl
      · rename_i correlationId hcorr
        split at hp
        · cases hp
        · rename_i hfree
          split at hp
          · cases hp
            exact insertCommand_ready rfl
          · rename_i c hc
            cases hp
            have hmem : c∈s.commands.rows := List.mem_of_find?_eq_some hc
            have hk : c.correlationId=some correlationId := by simpa using List.find?_some hc
            refine ⟨.requeue dto c s.now rfl (Table.get?_key hmem) rfl,?_⟩
            rintro row ⟨⟩ row' hrow' hid
            -- who holds the row has its correlation id, and the statement would wait
            obtain ⟨y,hy,hwritten⟩ := mem_pending.mp hrow'
            obtain ⟨j,hj⟩ := List.mem_iff_getElem?.mp hy
            have hwrote := hs.ready j y hj
            unfold Session.Ready at hwrote
            rw [hwritten] at hwrote
            have hget : s.commands.get? row'.id=some c := hid ▸ Table.get?_key hmem
            have hsame := hwrote.correlationId hget
            refine hfree (List.any_eq_true.mpr ⟨row',hrow',?_⟩)
            simpa using hsame.trans hk
    | claimNext deviceId =>
      simp only [nextPhase] at hp
      split at hp
      · cases hp
        exact ended _
      · rename_i c hc
        cases hp
        obtain ⟨hget,hstatus,hlocked⟩ := nextCommand_some hc
        refine ⟨.claim deviceId c s.now rfl hget hstatus rfl,?_⟩
        rintro row ⟨⟩
        exact not_locked hlocked
    | complete commandId dto =>
      simp only [nextPhase] at hp
      split at hp
      · cases hp
        exact ended _
      · split at hp
        · cases hp
          exact ended _
        · rename_i c hc status hnext
          cases hp
          refine ⟨?_,?_⟩
          · rintro commandId' dto' ⟨⟩
            exact nextAutomationCommandStatus_outcome hnext
          · rintro row ⟨⟩
  | decided status =>
    cases request with
    | complete commandId dto =>
      simp only [nextPhase] at hp
      split at hp
      · cases hp
      · rename_i hlocked
        split at hp
        · cases hp
          exact ended _
        · rename_i c hc
          cases hp
          obtain rfl : status=dto.outcome := hready commandId dto rfl
          obtain ⟨hget,_⟩ := Option.filter_eq_some_iff.mp hc
          have hid : c.id=commandId := Table.key_of_get? hget
          subst hid
          refine ⟨.close c.id dto c s.now rfl hget rfl,?_⟩
          have hopen : s.locked c.id=false := by simpa using hlocked
          rintro row ⟨⟩
          exact not_locked hopen
    | enqueue dto => cases hp
    | claimNext deviceId => cases hp
  | written row => cases request <;> cases hp
  | ended r => cases request <;> cases hp

end Invariant

section Steps
variable {s : System} {x : Session} {row c : AutomationCommand} {i : ℕ} {p : Phase} {a : Action}

theorem getElem?_setPhase {j : ℕ} {y : Session} (h : (s.setPhase i x p).sessions[j]?=some y) :
    j=i ∧ y={x with phase := p} ∨ j≠i ∧ s.sessions[j]?=some y :=
  Histories.getElem?_set_cases h

theorem System.Inv.setPhase (hs : s.Inv)
    (hready : Session.Ready s.commands {x with phase := p}) (hfree : Free s p) :
    (s.setPhase i x p).Inv := by
  refine ⟨hs.queued,?_,?_⟩
  · intro j y hy
    rcases getElem?_setPhase hy with ⟨_,rfl⟩|⟨_,hy⟩
    · exact hready
    · exact hs.ready j y hy
  · intro j k y z row row' hy hz hrow hrow' hid
    rcases getElem?_setPhase hy with ⟨hj,rfl⟩|⟨_,hy⟩ <;>
      rcases getElem?_setPhase hz with ⟨hk,rfl⟩|⟨_,hz⟩
    · exact hj.trans hk.symm
    · have hmem := mem_pending.mpr ⟨z,List.mem_of_getElem? hz,hrow'⟩
      exact (hfree row hrow row' hmem hid.symm).elim
    · have hmem := mem_pending.mpr ⟨y,List.mem_of_getElem? hy,hrow⟩
      exact (hfree row' hrow' row hmem hid).elim
    · exact hs.apart j k y z row row' hy hz hrow hrow' hid

theorem System.Inv.commit (hs : s.Inv) (hx : s.sessions[i]?=some x) (hrow : x.phase=.written row) :
    System.Inv {s.setPhase i x (.ended (.ok (some row))) with commands := s.commands.put row} := by
  have hwrote : Wrote s.commands x row := by
    have hready := hs.ready i x hx
    unfold Session.Ready at hready
    rwa [hrow] at hready
  refine ⟨?_,?_,?_⟩
  · intro c hc
    rcases Table.mem_put.mp hc with rfl|⟨hc,_⟩
    · exact hwrote.queued hs.queued
    · exact hs.queued c hc
  · intro j y hy
    rcases getElem?_setPhase hy with ⟨_,rfl⟩|⟨hj,hy⟩
    · trivial
    · have hready := hs.ready j y hy
      unfold Session.Ready at hready ⊢
      split
      · rename_i status hphase
        simpa [hphase] using hready
      · rename_i row' hphase
        rw [hphase] at hready
        refine Wrote.put hready ?_
        intro hid
        exact hj (hs.apart j i y x row' row hy hx hphase hrow hid)
      · trivial
  · intro j k y z r r' hy hz hr hr' hid
    rcases getElem?_setPhase hy with ⟨_,rfl⟩|⟨_,hy⟩
    · cases hr
    · rcases getElem?_setPhase hz with ⟨_,rfl⟩|⟨_,hz⟩
      · cases hr'
      · exact hs.apart j k y z r r' hy hz hr hr' hid

theorem System.Inv.act (hs : s.Inv) (a : Action) : (act s a).Inv := by
  cases a with
  | start w request =>
    have hold : ∀ (j : ℕ) (y : Session), (s.sessions++[⟨w,request,.start⟩])[j]?=some y →
        y=⟨w,request,.start⟩ ∨ s.sessions[j]?=some y := by
      intro j y hy
      rw [List.getElem?_append] at hy
      split at hy
      · exact .inr hy
      · have hmem := List.mem_of_getElem? hy
        exact .inl (List.mem_singleton.mp hmem)
    refine ⟨hs.queued,?_,?_⟩
    · intro j y hy
      rcases hold j y hy with rfl|hy
      · trivial
      · exact hs.ready j y hy
    · intro j k y z row row' hy hz hrow hrow' hid
      rcases hold j y hy with rfl|hy
      · cases hrow
      · rcases hold k z hz with rfl|hz
        · cases hrow'
        · exact hs.apart j k y z row row' hy hz hrow hrow' hid
  | statement i generated =>
    simp only [EnterpriseOps.act]
    split
    · exact hs
    · rename_i x hx
      cases hp : nextPhase s generated x with
      | none => exact hs
      | some p =>
        obtain ⟨hready,hfree⟩ := nextPhase_ready hs hx hp
        exact hs.setPhase hready hfree
  | commit i =>
    simp only [EnterpriseOps.act]
    split
    · exact hs
    · rename_i x hx
      split
      · rename_i row hrow
        exact hs.commit hx hrow
      · exact hs
  | rollback i e =>
    simp only [EnterpriseOps.act]
    split
    · exact hs
    · rename_i x hx
      split
      · exact hs
      · refine hs.setPhase trivial ?_
        rintro row ⟨⟩
  | tick n => exact ⟨hs.queued,hs.ready,hs.apart⟩

theorem inv_history (as : List Action) : (history as).Inv := by
  have hstart : System.initial.Inv := by
    refine ⟨?_,?_,?_⟩
    · intro c hc
      cases hc
    · intro i x hx
      cases hx
    · intro i j x y row row' hx
      cases hx
  exact Histories.run_inv hstart fun s a hs => hs.act a

theorem act_commands (s : System) (a : Action) : (EnterpriseOps.act s a).commands=s.commands ∨
    ∃ i x row, a=.commit i ∧ s.sessions[i]?=some x ∧ x.phase=.written row ∧
      (EnterpriseOps.act s a).commands=s.commands.put row := by
  cases a with
  | start w request => exact .inl rfl
  | statement i generated =>
    left
    simp only [EnterpriseOps.act]
    split
    · rfl
    · cases nextPhase s generated _ <;> rfl
  | commit i =>
    simp only [EnterpriseOps.act]
    split
    · exact .inl rfl
    · rename_i x hx
      split
      · rename_i row hrow
        exact .inr ⟨i,x,row,rfl,hx,hrow,rfl⟩
      · exact .inl rfl
  | rollback i e =>
    left
    simp only [EnterpriseOps.act]
    split
    · rfl
    · split <;> rfl
  | tick n => exact .inl rfl

theorem act_row (hs : s.Inv) (a : Action) (hc : c∈s.commands.rows) :
    c∈(EnterpriseOps.act s a).commands.rows ∨ ∃ i x row, a=.commit i ∧ s.sessions[i]?=some x ∧
      x.phase=.written row ∧ Wrote s.commands x row ∧ s.commands.get? row.id=some c ∧ row.id=c.id ∧
      row∈(EnterpriseOps.act s a).commands.rows := by
  cases act_commands s a with
  | inl h => exact .inl (h ▸ hc)
  | inr h =>
    obtain ⟨i,x,row,ha,hx,hrow,h⟩ := h
    rw [h]
    by_cases hid : c.id=row.id
    · have hwrote := hs.ready i x hx
      unfold Session.Ready at hwrote
      rw [hrow] at hwrote
      exact .inr ⟨i,x,row,ha,hx,hrow,hwrote,hid ▸ Table.get?_key hc,hid.symm,
        Table.mem_put.mpr (.inl rfl)⟩
    · exact .inl (Table.mem_put.mpr (.inr ⟨hc,hid⟩))

theorem act_attempts (hs : s.Inv) (a : Action) (hc : c∈s.commands.rows) :
    ∃ d∈(EnterpriseOps.act s a).commands.rows, d.id=c.id ∧
      (d.attempts=c.attempts ∨ c.attempts=0 ∨ c.status=.FAILED) := by
  cases act_row hs a hc with
  | inl h => exact ⟨c,h,rfl,.inl rfl⟩
  | inr h =>
    obtain ⟨i,x,row,_,_,_,hwrote,hget,hid,hmem⟩ := h
    refine ⟨row,hmem,hid,?_⟩
    have hsame : ∀ {d}, s.commands.get? row.id=some d → d=c :=
      fun hd => Option.some.inj (hd.symm.trans hget)
    cases hwrote with
    | insert dto _ hnew _ _ => cases hnew.symm.trans hget
    | requeue dto d now _ hstored hrow =>
      rw [hrow,hsame hstored]
      exact .inl rfl
    | claim deviceId d now _ hstored hstatus _ =>
      rw [hsame hstored] at hstatus
      exact .inr (hstatus.imp (hs.queued c hc) id)
    | close commandId dto d now _ hstored hrow =>
      rw [hrow,hsame hstored]
      exact .inl rfl

theorem act_completed (hs : s.Inv) (hok : Permits s a) (hc : c∈s.commands.rows)
    (hstatus : c.status=.COMPLETED) : ∃ d∈(EnterpriseOps.act s a).commands.rows, d.id=c.id ∧
      d.status=.COMPLETED ∧ d.attempts=c.attempts := by
  cases act_row hs a hc with
  | inl h => exact ⟨c,h,rfl,hstatus,rfl⟩
  | inr h =>
    obtain ⟨i,x,row,rfl,hx,hphase,hwrote,hget,hid,hmem⟩ := h
    refine ⟨row,hmem,hid,?_⟩
    have hpermits : x.Permits c := by
      refine hok x hx row ?_ c hget
      rw [hphase]
      rfl
    have hsame : ∀ {d}, s.commands.get? row.id=some d → d=c :=
      fun hd => Option.some.inj (hd.symm.trans hget)
    cases hwrote with
    | insert dto _ hnew _ _ => cases hnew.symm.trans hget
    | requeue dto d now _ hstored hrow =>
      rw [hrow,hsame hstored]
      exact ⟨hstatus,rfl⟩
    | claim deviceId d now _ hstored hd _ =>
      rw [hsame hstored,hstatus] at hd
      simp at hd
    | close commandId dto d now hrequest hstored hrow =>
      unfold Session.Permits at hpermits
      rw [hrequest] at hpermits
      rw [hrow,hsame hstored]
      refine ⟨?_,rfl⟩
      cases hr : dto.reportsError with
      | true => exact (hpermits hr hstatus).elim
      | false => simp [AutomationCommand.closed,CompleteAutomationCommandDto.outcome,hr]

/-- The commit of a permitted enqueue leaves every command that was claimed or that belongs to
another warehouse as it was. -/
theorem commit_enqueued (hok : Permits s (.commit i)) (hx : s.sessions[i]?=some x)
    {dto : EnqueueAutomationCommandDto} (hrequest : x.request=.enqueue dto)
    (hc : c∈s.commands.rows) (hother : 0 < c.attempts ∨ c.warehouseId≠x.warehouseId) :
    c∈(EnterpriseOps.act s (.commit i)).commands.rows := by
  rcases act_commands s (.commit i) with h|⟨j,y,row,hij,hy,hrow,h⟩
  · exact h ▸ hc
  · cases hij
    obtain rfl : y=x := Option.some.inj (hy.symm.trans hx)
    rw [h]
    refine Table.mem_put.mpr (.inr ⟨hc,?_⟩)
    intro hid
    have hget : s.commands.get? row.id=some c := hid ▸ Table.get?_key hc
    have hpermits : y.Permits c := by
      refine hok y hx row ?_ c hget
      rw [hrow]
      rfl
    unfold Session.Permits at hpermits
    rw [hrequest] at hpermits
    rcases hother with hclaimed|hforeign
    · omega
    · exact hforeign hpermits.2

end Steps

/-- In a history of permitted steps the commands keep their life cycle. -/
theorem automation_commands_lifecycle (as : List Action)
    (h : Histories.Throughout act Permits System.initial as) : Lifecycle as := by
  refine ⟨?_,?_,?_⟩
  · intro bs cs hbs hcs c hc hclaimed
    induction cs using List.reverseRecOn with
    | nil =>
      intro _
      obtain rfl := List.prefix_nil.mp hbs
      exact ⟨c,hc,rfl,rfl⟩
    | append_singleton cs a ih =>
      intro hopen
      rcases Histories.prefix_concat hbs with hbs'|rfl
      · have hcs' : cs<+:cs++[a] := List.prefix_append cs [a]
        obtain ⟨d,hd,hid,hsame⟩ := ih hbs' (hcs'.trans hcs)
          fun ds hds hle => hopen ds hds (hle.trans hcs')
        have hnot : d.status≠.FAILED := hopen cs hbs' hcs' d hd hid
        obtain ⟨e,he,heid,hattempts⟩ := act_attempts (inv_history cs) a hd
        refine ⟨e,?_,heid.trans hid,?_⟩
        · unfold history
          rw [Histories.run_concat]
          exact he
        · rcases hattempts with h|h|h
          · omega
          · omega
          · exact (hnot h).elim
      · exact ⟨c,hc,rfl,rfl⟩
  · intro bs cs hbs hcs c hc hstatus
    induction cs using List.reverseRecOn with
    | nil =>
      obtain rfl := List.prefix_nil.mp hbs
      exact ⟨c,hc,rfl,hstatus,rfl⟩
    | append_singleton cs a ih =>
      rcases Histories.prefix_concat hbs with hbs'|rfl
      · have hcs' : cs<+:cs++[a] := List.prefix_append cs [a]
        obtain ⟨d,hd,hid,hdone,hsame⟩ := ih hbs' (hcs'.trans hcs)
        obtain ⟨e,he,heid,hedone,hesame⟩ := act_completed (inv_history cs) (h cs a hcs) hd hdone
        refine ⟨e,?_,heid.trans hid,hedone,hesame.trans hsame⟩
        unfold history
        rw [Histories.run_concat]
        exact he
      · exact ⟨c,hc,rfl,hstatus,rfl⟩
  · intro bs i hbs x dto hx hrequest c hc hother
    have hok := h bs (.commit i) hbs
    unfold history
    rw [Histories.run_concat]
    exact commit_enqueued hok hx hrequest hc hother

/-- A command is enqueued, claimed and failed, then claimed again and completed. -/
def failedOnce : List Action :=
  [.start 1 (.enqueue ⟨none,none,"move".toList,none,none,none,none⟩),.statement 0 1,.commit 0,
    .start 1 (.claimNext (some 7)),.statement 1 0,.commit 1,
    .start 1 (.complete 1 ⟨none,some "jam".toList⟩),.statement 2 0,.statement 2 0,.commit 2,
    .start 1 (.claimNext (some 7)),.statement 3 0,.commit 3,
    .start 1 (.complete 1 ⟨none,none⟩),.statement 4 0,.statement 4 0,.commit 4]

theorem automation_commands_demo : Lifecycle failedOnce ∧
    (history failedOnce).commands.rows.map (fun c => (c.status,c.attempts))=[(.COMPLETED,2)] :=
  ⟨automation_commands_lifecycle failedOnce (by decide),by decide⟩

/-- Two devices report on one claim: both reports read it claimed, one completes it, and then the
other one fails it. -/
def reportedTwice : List Action :=
  [.start 1 (.enqueue ⟨none,none,"move".toList,none,none,none,none⟩),.statement 0 1,.commit 0,
    .start 1 (.claimNext (some 7)),.statement 1 0,.commit 1,
    .start 1 (.complete 1 ⟨none,none⟩),.start 1 (.complete 1 ⟨none,some "jam".toList⟩),
    .statement 2 0,.statement 3 0,.statement 2 0,.commit 2,.statement 3 0,.commit 3]

/-- Another warehouse enqueues under the correlation id of a command that is claimed. -/
def enqueuedTwice : List Action :=
  [.start 1 (.enqueue ⟨none,none,"move".toList,none,some "k".toList,none,none⟩),.statement 0 1,
    .commit 0,.start 1 (.claimNext (some 7)),.statement 1 0,.commit 1,
    .start 2 (.enqueue ⟨none,none,"move".toList,none,some "k".toList,none,
      some (.object [("to",.string "B")])⟩),.statement 2 2,.commit 2]

theorem automation_commands_out_of_order : ¬Lifecycle reportedTwice ∧ ¬Lifecycle enqueuedTwice := by
  constructor
  · intro h
    have hprefix : reportedTwice.take 12<+:reportedTwice := List.take_prefix _ _
    have hcompleted := h.completed _ _ hprefix (List.prefix_refl _)
    revert hcompleted
    decide
  · intro h
    have hlast : enqueuedTwice.take 8++[.commit 2]<+:enqueuedTwice := List.prefix_refl _
    have hkept := h.enqueued _ 2 hlast _ _ rfl rfl
    revert hkept
    decide

end AardvarkWms.EnterpriseOps
