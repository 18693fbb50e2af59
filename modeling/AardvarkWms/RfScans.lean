import AardvarkWms.Histories
import AardvarkWms.Texts

/-! Scans of the RF terminals and the replay of their offline queues, several calls at a time, one
statement after the other: `src/operations-runtime/operations-runtime.service.ts`. -/
namespace AardvarkWms.RfScans

open Messaging (Str trim)
open Histories (run Throughout)

inductive RuntimeRfResult
  | ACCEPTED | MISMATCH | DUPLICATE | REJECTED
  deriving DecidableEq

structure RuntimeRfScanDto where
  sessionId : Option Str := none
  deviceCode : Str
  taskReference : Option Str := none
  stepKey : Str
  scannedValue : Str
  expectedValue : Option Str := none
  offlineId : Option Str := none
  quantity : Option ℕ := none
  metadata : Option Json.Fields := none

structure RuntimeOfflineActionDto where
  sessionId : Option Str := none
  deviceCode : Option Str := none
  taskReference : Option Str := none
  stepKey : Str
  scannedValue : Str
  expectedValue : Option Str := none
  offlineId : Option Str := none
  quantity : Option ℕ := none
  metadata : Option Json.Fields := none

structure RuntimeRfOfflineReplayDto where
  deviceCode : Str
  actions : List RuntimeOfflineActionDto

structure RfScanRow where
  id : ℕ
  warehouseId : Str
  sessionId : Option Str
  deviceCode : Str
  taskReference : Option Str
  stepKey : Str
  scannedValue : Str
  expectedValue : Option Str
  result : RuntimeRfResult
  offlineId : Option Str
  quantity : Option ℕ
  metadata : Json

structure RfSessionRow where
  id : Str
  warehouseId : Str
  deviceCode : Str
  state : String
  currentStep : Str
  offlineQueue : Json
  lastError : Option String
  lastSeenAt : ℕ

structure RfExceptionRow where
  warehouseId : Str
  sessionId : Option Str
  deviceCode : Str
  taskReference : Option Str
  code : String
  title : String
  status : String
  severity : String
  scanEventId : ℕ
  stepKey : Str

/-- The three tables. -/
structure Db where
  scans : List RfScanRow
  sessions : List RfSessionRow
  exceptions : List RfExceptionRow

/-- What the language does with texts, and the cast of a text to a UUID. -/
structure Env where
  lang : Language
  castUuid : Str → Option Str

inductive ScanError
  | invalidUuid | integerOutOfRange | uniqueViolation
  deriving DecidableEq

/-- A text that is not the empty one: what is truthy here, and no `NULL` there. -/
def given (value : Option Str) : Option Str := value.filter (·≠[])

section Texts
variable (env : Env)

def normalize (value : Str) : Str := env.lang.toUpperCase (trim value)

def isExpected (scanned : Str) (expected : Option Str) : Bool :=
  match expected with
  | none => true
  | some expected => trim expected=[] || normalize env scanned=normalize env expected

def order : List Str :=
  ["SCAN_LOCATION","SCAN_SKU","CONFIRM_QTY","SCAN_TOTE","COMPLETE"].map (·.toList)

/-- A step that is not in the order comes before the first. -/
def nextRfStep (current : Str) (result : RuntimeRfResult) : Str :=
  if result≠.ACCEPTED then current
  else
    let next := ((order.idxOf? current).map (·+1)).getD 0
    (order[min (order.length-1) next]?).getD "SCAN_LOCATION".toList

end Texts

section Statements
variable (env : Env) (db : Db) (warehouseId : Str) (dto : RuntimeRfScanDto)

/-- The lookup, where the scan has an offline id. -/
def duplicate : Option RfScanRow :=
  (given dto.offlineId).bind fun offlineId => db.scans.find? fun row =>
    row.warehouseId=warehouseId && row.deviceCode=trim dto.deviceCode &&
      row.offlineId=some (trim offlineId)

def resultOf : RuntimeRfResult :=
  if isExpected env dto.scannedValue dto.expectedValue then .ACCEPTED else .MISMATCH

def castSession : Except ScanError (Option Str) :=
  match given dto.sessionId with
  | none => .ok none
  | some sessionId => ((env.castUuid sessionId).map some).elim (.error .invalidUuid) .ok

/-- The unique index, on the columns as they are stored. -/
def offlineKeyTaken (row : RfScanRow) : Bool :=
  row.offlineId.isSome && db.scans.any fun other =>
    other.warehouseId=row.warehouseId && other.deviceCode=row.deviceCode &&
      other.offlineId=row.offlineId

def insertScan : Except ScanError RfScanRow := do
  let sessionId ← castSession env dto
  let row : RfScanRow := {
    id := db.scans.length
    warehouseId := warehouseId
    sessionId := sessionId
    deviceCode := trim dto.deviceCode
    taskReference := given dto.taskReference
    stepKey := trim dto.stepKey
    scannedValue := trim dto.scannedValue
    expectedValue := given dto.expectedValue
    result := resultOf env dto
    offlineId := given dto.offlineId
    quantity := dto.quantity
    metadata := .object (dto.metadata.getD [])}
  if dto.quantity.any (2147483647 < ·) then .error .integerOutOfRange
  else if offlineKeyTaken db row then .error .uniqueViolation
  else .ok row

/-- The session that the scan names, where it names one. -/
def updateSession (now : ℕ) (result : RuntimeRfResult) : Db :=
  match given dto.sessionId with
  | none => db
  | some sessionId => {db with sessions := db.sessions.map fun session =>
      if session.warehouseId=warehouseId ∧ env.castUuid sessionId=some session.id then
        {session with
          lastSeenAt := now
          currentStep := nextRfStep dto.stepKey result
          lastError := if result=.MISMATCH then some "SCAN_MISMATCH" else none}
      else session}

def insertException (event : RfScanRow) : Db :=
  let expected := String.ofList (dto.expectedValue.getD "configured value".toList)
  let scanned := String.ofList dto.scannedValue
  {db with exceptions := db.exceptions++[{
    warehouseId := warehouseId
    sessionId := event.sessionId
    deviceCode := trim dto.deviceCode
    taskReference := given dto.taskReference
    code := "SCAN_MISMATCH"
    title := s!"Expected {expected}, scanned {scanned}"
    status := "OPEN"
    severity := "HIGH"
    scanEventId := event.id
    stepKey := dto.stepKey}]}

/-- What a replay does to the sessions of its device, once its actions are through. -/
def closeReplay (deviceCode : Str) (now : ℕ) : Db :=
  {db with sessions := db.sessions.map fun session =>
    if session.warehouseId=warehouseId ∧ session.deviceCode=trim deviceCode ∧
        session.state∈["ACTIVE","OFFLINE","BLOCKED"] then
      {session with
        offlineQueue := .array []
        lastSeenAt := now
        lastError := none}
    else session}

end Statements

structure ScanAnswer where
  result : RuntimeRfResult
  accepted : Bool
  instruction : String
  event : RfScanRow

def duplicateAnswer (row : RfScanRow) : ScanAnswer :=
  ⟨.DUPLICATE,true,"Duplicate offline scan ignored safely. Continue scanning.",row⟩

def storedAnswer (dto : RuntimeRfScanDto) (event : RfScanRow) : ScanAnswer :=
  let next := String.ofList (nextRfStep dto.stepKey event.result)
  ⟨event.result,event.result=.ACCEPTED,
    if event.result=.ACCEPTED then s!"{next} ready. Continue."
    else "Scan mismatch. Show exception choices: retry scan, short-pick, supervisor override.",
    event⟩

structure ReplayReport where
  warehouseId : Str
  deviceCode : Str
  accepted : ℕ
  duplicates : ℕ
  rejected : ℕ
  results : List (Option Str × RuntimeRfResult)

inductive Request
  | submitRfScan (dto : RuntimeRfScanDto)
  | replayRfOfflineQueue (dto : RuntimeRfOfflineReplayDto)

inductive Response
  | scan (answer : ScanAnswer)
  | replay (report : ReplayReport)

/-- The statement of `submitRfScan` that comes next, with the row that it has stored. -/
inductive Stage
  | lookup
  | insert
  | session (event : RfScanRow)
  | exception (event : RfScanRow)

/-- The counters of a replay's loop. -/
structure Tally where
  accepted : ℕ := 0
  duplicates : ℕ := 0
  rejected : ℕ := 0
  results : List (Option Str × RuntimeRfResult) := []

def Tally.add (tally : Tally) (offlineId : Option Str) (result : RuntimeRfResult) : Tally where
  accepted := if result=.ACCEPTED then tally.accepted+1 else tally.accepted
  duplicates := if result=.DUPLICATE then tally.duplicates+1 else tally.duplicates
  rejected := if result≠.ACCEPTED ∧ result≠.DUPLICATE then tally.rejected+1 else tally.rejected
  results := tally.results++[(offlineId,result)]

/-- How far a call is; a single scan is a loop of one turn. -/
inductive Progress
  | scanning (stage : Stage) (dto : RuntimeRfScanDto) (rest : List RuntimeRfScanDto) (tally : Tally)
  | closing (dto : RuntimeRfOfflineReplayDto) (tally : Tally)
  | returned (response : Response)
  | failed (error : ScanError)

structure Call where
  warehouseId : Str
  request : Request
  progress : Progress

/-- An action of the queue as a scan; it may name a device of its own. -/
def RuntimeOfflineActionDto.scan (deviceCode : Str) (action : RuntimeOfflineActionDto) :
    RuntimeRfScanDto where
  sessionId := action.sessionId
  deviceCode := (given action.deviceCode).getD deviceCode
  taskReference := action.taskReference
  stepKey := action.stepKey
  scannedValue := action.scannedValue
  expectedValue := action.expectedValue
  offlineId := action.offlineId
  quantity := action.quantity
  metadata := action.metadata

def Request.begin : Request → Progress
  | .submitRfScan dto => .scanning .lookup dto [] {}
  | .replayRfOfflineQueue dto =>
    match dto.actions.map (·.scan dto.deviceCode) with
    | [] => .closing dto {}
    | scan::rest => .scanning .lookup scan rest {}

/-- A scan has been answered: the call returns, or takes the next action, or closes. -/
def Call.answered (call : Call) (dto : RuntimeRfScanDto) (rest : List RuntimeRfScanDto)
    (tally : Tally) (answer : ScanAnswer) : Progress :=
  match call.request,rest with
  | .submitRfScan _,_ => .returned (.scan answer)
  | .replayRfOfflineQueue replay,[] => .closing replay (tally.add dto.offlineId answer.result)
  | .replayRfOfflineQueue _,next::rest =>
    .scanning .lookup next rest (tally.add dto.offlineId answer.result)

/-- The next statement of a call, and what it does. -/
def advance (env : Env) (db : Db) (now : ℕ) (call : Call) : Db × Progress :=
  match call.progress with
  | .scanning .lookup dto rest tally =>
    match duplicate db call.warehouseId dto with
    | some row => (db,call.answered dto rest tally (duplicateAnswer row))
    | none => (db,.scanning .insert dto rest tally)
  | .scanning .insert dto rest tally =>
    match insertScan env db call.warehouseId dto with
    | .error e => (db,.failed e)
    | .ok event =>
      ({db with scans := db.scans++[event]},.scanning (.session event) dto rest tally)
  | .scanning (.session event) dto rest tally =>
    (updateSession env db call.warehouseId dto now event.result,
      .scanning (.exception event) dto rest tally)
  | .scanning (.exception event) dto rest tally =>
    (if event.result=.MISMATCH then insertException db call.warehouseId dto event else db,
      call.answered dto rest tally (storedAnswer dto event))
  | .closing dto tally =>
    (closeReplay db call.warehouseId dto.deviceCode now,.returned (.replay
      ⟨call.warehouseId,dto.deviceCode,tally.accepted,tally.duplicates,tally.rejected,tally.results⟩))
  | .returned response => (db,.returned response)
  | .failed e => (db,.failed e)

structure System where
  db : Db
  calls : List Call

/-- A call comes in, or the database runs a statement of one, or other operations write the
sessions and the exceptions. -/
inductive Event
  | begin (warehouseId : Str) (request : Request)
  | proceed (i : ℕ) (now : ℕ)
  | others (sessions : List RfSessionRow) (exceptions : List RfExceptionRow)

def act (env : Env) (s : System) : Event → System
  | .begin warehouseId request => {s with calls := s.calls++[⟨warehouseId,request,request.begin⟩]}
  | .proceed i now =>
    match s.calls[i]? with
    | none => s
    | some call =>
      let next := advance env s.db now call
      ⟨next.1,s.calls.set i {call with progress := next.2}⟩
  | .others sessions exceptions =>
    {s with db := {s.db with sessions := sessions, exceptions := exceptions}}

/-- No scan has been stored yet. -/
def initial (sessions : List RfSessionRow) (exceptions : List RfExceptionRow) : System :=
  ⟨⟨[],sessions,exceptions⟩,[]⟩

section Keys

/-- Warehouse, device and offline id, without the blanks around them. -/
abbrev Key : Type := Str × Str × Str

def RfScanRow.key (row : RfScanRow) : Option Key :=
  row.offlineId.map fun offlineId => (row.warehouseId,row.deviceCode,trim offlineId)

def RuntimeRfScanDto.key (warehouseId : Str) (dto : RuntimeRfScanDto) : Option Key :=
  (given dto.offlineId).map fun offlineId => (warehouseId,trim dto.deviceCode,trim offlineId)

/-- A scan of the key has been stored, in whatever spelling. -/
def Db.Stored (db : Db) (key : Option Key) : Prop := key≠none ∧ ∃ row∈db.scans, row.key=key

/-- It has been stored without blanks around it. -/
def Db.StoredTrimmed (db : Db) (key : Option Key) : Prop :=
  ∃ row∈db.scans, row.offlineId.map trim=row.offlineId ∧ row.key=key

/-- No two scan events are of one key. -/
def Db.AtMostOnce (db : Db) : Prop := (db.scans.filterMap RfScanRow.key).Nodup

instance decidableStored (db : Db) (key : Option Key) : Decidable (db.Stored key) :=
  inferInstanceAs (Decidable (_ ∧ _))

instance decidableStoredTrimmed (db : Db) (key : Option Key) : Decidable (db.StoredTrimmed key) :=
  inferInstanceAs (Decidable (∃ row∈db.scans, _))

variable (env : Env)

/-- What is in the database already is answered with `DUPLICATE`, and nothing changes. -/
def Call.AnswersDuplicate (call : Call) (db : Db) (now : ℕ) (dto : RuntimeRfScanDto)
    (rest : List RuntimeRfScanDto) (tally : Tally) : Prop :=
  db.Stored (dto.key call.warehouseId) →
    ∃ row∈db.scans, row.key=dto.key call.warehouseId ∧
      advance env db now call=(db,call.answered dto rest tally (duplicateAnswer row))

/-- Whenever a scan that is stored already comes to its lookup or to its insert. -/
def Call.Idempotent (call : Call) (db : Db) (now : ℕ) : Prop :=
  match call.progress with
  | .scanning .lookup dto rest tally => call.AnswersDuplicate env db now dto rest tally
  | .scanning .insert dto rest tally => call.AnswersDuplicate env db now dto rest tally
  | _ => True

/-- A scan that is stored already has been stored without blanks, and is looked up after that. -/
def Call.Careful (call : Call) (db : Db) : Prop :=
  match call.progress with
  | .scanning .lookup dto _ _ =>
    db.Stored (dto.key call.warehouseId) → db.StoredTrimmed (dto.key call.warehouseId)
  | .scanning .insert dto _ _ => ¬db.Stored (dto.key call.warehouseId)
  | _ => True

instance decidableCareful (call : Call) (db : Db) : Decidable (call.Careful db) := by
  unfold Call.Careful
  split <;> infer_instance

def AnsweredDuplicate (s : System) : Event → Prop
  | .proceed i now => ∀ call∈s.calls[i]?, call.Idempotent env s.db now
  | _ => True

def Careful (s : System) : Event → Prop
  | .proceed i _ => ∀ call∈s.calls[i]?, call.Careful s.db
  | _ => True

/-- A replay that has returned reports each of its actions, in one of the three counts. -/
def Call.Reported (call : Call) : Prop :=
  ∀ replay report, call.request=.replayRfOfflineQueue replay →
    call.progress=.returned (.replay report) →
      report.accepted+report.duplicates+report.rejected=replay.actions.length ∧
        report.results.map Prod.fst=replay.actions.map (·.offlineId)

/-- What is asked of a history, from the empty table on. -/
structure Idempotent (start : System) (es : List Event) : Prop where
  atMostOnce : ∀ bs, bs<+:es → (run (act env) start bs).db.AtMostOnce
  answered : Throughout (act env) (AnsweredDuplicate env) start es
  reported : ∀ bs, bs<+:es → ∀ call∈(run (act env) start bs).calls, call.Reported

end Keys

section Steps
variable {env : Env} {db : Db} {call : Call} {now : ℕ} {dto : RuntimeRfScanDto}
  {rest : List RuntimeRfScanDto} {tally : Tally} {s : System} {e : Event}

theorem insertScan_key {warehouseId : Str} {row : RfScanRow}
    (h : insertScan env db warehouseId dto=.ok row) : row.key=dto.key warehouseId := by
  unfold insertScan at h
  cases hsession : castSession env dto with
  | error e => simp [hsession,bind,Except.bind] at h
  | ok sessionId =>
    simp only [hsession,bind,Except.bind] at h
    split at h
    · exact absurd h (by simp)
    · split at h
      · exact absurd h (by simp)
      · rw [Except.ok.injEq] at h
        subst h
        rfl

theorem duplicate_isSome {warehouseId : Str} (hkey : dto.key warehouseId≠none) :
    (duplicate db warehouseId dto).isSome ↔ db.StoredTrimmed (dto.key warehouseId) := by
  unfold duplicate RuntimeRfScanDto.key at *
  cases hgiven : given dto.offlineId with
  | none => simp [hgiven] at hkey
  | some offlineId =>
    rw [Option.bind_some,List.find?_isSome,Option.map_some]
    unfold Db.StoredTrimmed RfScanRow.key
    refine exists_congr fun row => and_congr_right fun hrow => ?_
    cases hstored : row.offlineId with
    | none => simp
    | some stored =>
      simp only [Bool.and_eq_true,decide_eq_true_eq,Option.map_some,Option.some.injEq,Prod.mk.injEq]
      constructor
      · rintro ⟨⟨hwarehouse,hdevice⟩,rfl⟩
        exact ⟨trim_trim _,hwarehouse,hdevice,trim_trim _⟩
      · rintro ⟨htrimmed,hwarehouse,hdevice,hid⟩
        exact ⟨⟨hwarehouse,hdevice⟩,htrimmed.symm.trans hid⟩

theorem duplicate_key {warehouseId : Str} {row : RfScanRow}
    (h : duplicate db warehouseId dto=some row) : row∈db.scans ∧ row.key=dto.key warehouseId := by
  unfold duplicate at h
  cases hgiven : given dto.offlineId with
  | none => simp [hgiven] at h
  | some offlineId =>
    rw [hgiven,Option.bind_some] at h
    have hfound := List.find?_some h
    simp only [Bool.and_eq_true,decide_eq_true_eq] at hfound
    obtain ⟨⟨hwarehouse,hdevice⟩,hid⟩ := hfound
    refine ⟨List.mem_of_find?_eq_some h,?_⟩
    simp [RfScanRow.key,RuntimeRfScanDto.key,hgiven,hid,hwarehouse,hdevice,trim_trim]

theorem answered_ne_failed {answer : ScanAnswer} {e : ScanError} :
    call.answered dto rest tally answer≠.failed e := by
  unfold Call.answered
  split <;> simp

theorem answered_ne_insert {answer : ScanAnswer} :
    call.answered dto rest tally answer≠.scanning .insert dto rest tally := by
  unfold Call.answered
  split <;> simp

theorem idempotent_iff : call.Idempotent env db now ↔ call.Careful db := by
  unfold Call.Idempotent Call.Careful
  cases hprogress : call.progress with
  | scanning stage dto rest tally =>
    cases stage with
    | lookup =>
      refine forall_congr' fun hstored => ?_
      rw [← duplicate_isSome hstored.1]
      unfold advance
      rw [hprogress]
      dsimp only
      cases hfound : duplicate db call.warehouseId dto with
      | none =>
        simp only [Option.isSome_none,Bool.false_eq_true,iff_false]
        rintro ⟨row,_,_,hnext⟩
        exact answered_ne_insert (congrArg Prod.snd hnext).symm
      | some row =>
        obtain ⟨hrow,hkey⟩ := duplicate_key hfound
        simp only [Option.isSome_some,iff_true]
        exact ⟨row,hrow,hkey,rfl⟩
    | insert =>
      constructor
      · intro h hstored
        obtain ⟨row,_,_,hnext⟩ := h hstored
        unfold advance at hnext
        rw [hprogress] at hnext
        dsimp only at hnext
        cases hinsert : insertScan env db call.warehouseId dto with
        | error e =>
          rw [hinsert] at hnext
          exact answered_ne_failed (congrArg Prod.snd hnext).symm
        | ok event =>
          rw [hinsert] at hnext
          have hlength := congrArg (fun next => next.1.scans.length) hnext
          simp at hlength
      · intro hnew hstored
        exact absurd hstored hnew
    | session event => rfl
    | exception event => rfl
  | closing dto tally => rfl
  | returned response => rfl
  | failed e => rfl

theorem answeredDuplicate_iff : AnsweredDuplicate env s e ↔ Careful s e := by
  cases e with
  | proceed i now => exact forall₂_congr fun _ _ => idempotent_iff
  | begin warehouseId request => rfl
  | others sessions exceptions => rfl

theorem advance_atMostOnce (hdb : db.AtMostOnce) (hcareful : call.Careful db) :
    (advance env db now call).1.AtMostOnce := by
  unfold Call.Careful at hcareful
  unfold advance
  cases hprogress : call.progress with
  | scanning stage dto rest tally =>
    cases stage with
    | lookup =>
      dsimp only
      cases duplicate db call.warehouseId dto with
      | none => exact hdb
      | some row => exact hdb
    | insert =>
      rw [hprogress] at hcareful
      have hcareful : ¬db.Stored (dto.key call.warehouseId) := hcareful
      dsimp only
      cases hinsert : insertScan env db call.warehouseId dto with
      | error e => exact hdb
      | ok event =>
        show ((db.scans++[event]).filterMap RfScanRow.key).Nodup
        have hkey := insertScan_key hinsert
        rw [List.filterMap_append]
        cases hevent : event.key with
        | none =>
          have hnone : [event].filterMap RfScanRow.key=[] := by simp [hevent]
          rw [hnone,List.append_nil]
          exact hdb
        | some key =>
          have hfresh : key∉db.scans.filterMap RfScanRow.key := by
            intro hmem
            obtain ⟨row,hrow,hsame⟩ := List.mem_filterMap.mp hmem
            have hstored : db.Stored (some key) := ⟨by simp,row,hrow,hsame⟩
            rw [← hevent,hkey] at hstored
            exact hcareful hstored
          have hone : [event].filterMap RfScanRow.key=[key] := by simp [hevent]
          rw [hone]
          exact List.Nodup.append hdb (List.nodup_singleton key)
            (List.disjoint_singleton.mpr hfresh)
    | session event =>
      dsimp only
      unfold updateSession
      split <;> exact hdb
    | exception event =>
      dsimp only
      split <;> exact hdb
  | closing dto tally => exact hdb
  | returned response => exact hdb
  | failed e => exact hdb

theorem act_atMostOnce (hs : s.db.AtMostOnce) (hcareful : Careful s e) :
    (act env s e).db.AtMostOnce := by
  cases e with
  | begin warehouseId request => exact hs
  | others sessions exceptions => exact hs
  | proceed i now =>
    unfold act
    dsimp only
    cases hcall : s.calls[i]? with
    | none => exact hs
    | some call => exact advance_atMostOnce hs (hcareful call hcall)

end Steps

section Reports
variable {env : Env} {call : Call} {s : System} {e : Event}

def Tally.total (tally : Tally) : ℕ := tally.accepted+tally.duplicates+tally.rejected

/-- The offline ids of the actions that a replay is asked for. -/
def Request.offlineIds : Request → List (Option Str)
  | .submitRfScan dto => [dto.offlineId]
  | .replayRfOfflineQueue dto => dto.actions.map (·.offlineId)

/-- Each action that is through has been counted, and the others are still to come. -/
def Tally.Counted (tally : Tally) (left offlineIds : List (Option Str)) : Prop :=
  tally.total=tally.results.length ∧ tally.results.map Prod.fst++left=offlineIds

def Call.Counted (call : Call) : Prop :=
  match call.progress with
  | .scanning _ dto rest tally =>
    tally.Counted (dto.offlineId::rest.map (·.offlineId)) call.request.offlineIds
  | .closing dto tally =>
    call.request=.replayRfOfflineQueue dto ∧ tally.Counted [] call.request.offlineIds
  | .returned (.replay report) =>
    report.accepted+report.duplicates+report.rejected=report.results.length ∧
      report.results.map Prod.fst=call.request.offlineIds
  | .returned (.scan _) => True
  | .failed _ => True

theorem begin_counted (warehouseId : Str) (request : Request) :
    Call.Counted ⟨warehouseId,request,request.begin⟩ := by
  cases request with
  | submitRfScan dto => exact ⟨rfl,rfl⟩
  | replayRfOfflineQueue dto =>
    unfold Call.Counted Request.begin
    dsimp only
    cases hactions : dto.actions with
    | nil => exact ⟨rfl,rfl,by simp [Request.offlineIds,hactions]⟩
    | cons action actions =>
      have hids : (action.scan dto.deviceCode).offlineId::(actions.map
          (·.scan dto.deviceCode)).map (·.offlineId)=dto.actions.map (·.offlineId) := by
        simp [hactions,RuntimeOfflineActionDto.scan]
      exact ⟨rfl,hids⟩

theorem add_counted {tally : Tally} {offlineId : Option Str} {left offlineIds : List (Option Str)}
    (h : tally.Counted (offlineId::left) offlineIds) (result : RuntimeRfResult) :
    (tally.add offlineId result).Counted left offlineIds := by
  obtain ⟨htotal,hids⟩ := h
  constructor
  · unfold Tally.total Tally.add at *
    cases result <;> simp <;> omega
  · rw [← hids]
    simp [Tally.add]

theorem answered_counted {dto : RuntimeRfScanDto} {rest : List RuntimeRfScanDto} {tally : Tally}
    (h : tally.Counted (dto.offlineId::rest.map (·.offlineId)) call.request.offlineIds)
    (answer : ScanAnswer) :
    Call.Counted {call with progress := call.answered dto rest tally answer} := by
  have hadd := add_counted h answer.result
  unfold Call.Counted Call.answered
  cases hrequest : call.request with
  | submitRfScan scan => trivial
  | replayRfOfflineQueue replay =>
    rw [hrequest] at hadd
    cases rest with
    | nil => exact ⟨rfl,hadd⟩
    | cons next rest => exact hadd

theorem advance_counted {db : Db} {now : ℕ} (h : call.Counted) :
    Call.Counted {call with progress := (advance env db now call).2} := by
  have hcall := h
  unfold Call.Counted at h
  unfold advance
  cases hprogress : call.progress with
  | scanning stage dto rest tally =>
    rw [hprogress] at h
    have h : tally.Counted (dto.offlineId::rest.map (·.offlineId)) call.request.offlineIds := h
    cases stage with
    | lookup =>
      dsimp only
      cases duplicate db call.warehouseId dto with
      | none => exact h
      | some row => exact answered_counted h _
    | insert =>
      dsimp only
      cases insertScan env db call.warehouseId dto with
      | error e => trivial
      | ok event => exact h
    | session event => exact h
    | exception event => exact answered_counted h _
  | closing dto tally =>
    rw [hprogress] at h
    obtain ⟨_,htotal,hids⟩ := h
    rw [List.append_nil] at hids
    exact ⟨htotal,hids⟩
  | returned response =>
    rw [hprogress] at h
    exact h
  | failed e => trivial

def System.Counted (s : System) : Prop := ∀ call∈s.calls, call.Counted

theorem act_counted (h : s.Counted) : (act env s e).Counted := by
  cases e with
  | others sessions exceptions => exact h
  | begin warehouseId request =>
    intro call hcall
    cases List.mem_append.mp hcall with
    | inl hcall => exact h call hcall
    | inr hcall =>
      rw [List.mem_singleton] at hcall
      subst hcall
      exact begin_counted warehouseId request
  | proceed i now =>
    unfold act
    dsimp only
    cases hcall : s.calls[i]? with
    | none => exact h
    | some call =>
      intro other hother
      cases List.mem_or_eq_of_mem_set hother with
      | inl hother => exact h other hother
      | inr hother =>
        subst hother
        exact advance_counted (h call (List.mem_of_getElem? hcall))

theorem Call.Counted.reported (h : call.Counted) : call.Reported := by
  intro replay report hrequest hprogress
  unfold Call.Counted at h
  rw [hprogress,hrequest] at h
  obtain ⟨htotal,hids⟩ := h
  have hids : report.results.map Prod.fst=replay.actions.map (·.offlineId) := hids
  refine ⟨?_,hids⟩
  have hlength := congrArg List.length hids
  rw [List.length_map,List.length_map] at hlength
  rw [htotal,hlength]

end Reports

section Main
variable {env : Env} {sessions : List RfSessionRow} {exceptions : List RfExceptionRow}
  {es : List Event}

theorem scans_idempotent_iff : Idempotent env (initial sessions exceptions) es ↔
    Throughout (act env) Careful (initial sessions exceptions) es := by
  constructor
  · intro h
    exact h.answered.imp fun _ _ _ => answeredDuplicate_iff.mp
  · intro h
    refine ⟨?_,?_,?_⟩
    · intro bs hbs
      have hstart : (initial sessions exceptions).db.AtMostOnce := List.nodup_nil
      exact (h.before hbs).inv hstart fun s e hs he => act_atMostOnce hs he
    · exact h.imp fun _ _ _ => answeredDuplicate_iff.mpr
    · intro bs hbs call hcall
      have hstart : (initial sessions exceptions).Counted := by
        intro call hcall
        exact absurd hcall List.not_mem_nil
      have hcounted : (run (act env) (initial sessions exceptions) bs).Counted :=
        (h.before hbs).inv hstart fun s e hs _ => act_counted hs
      exact (hcounted call hcall).reported

/-- A scan of the location, under an id with a blank on each side. -/
def spacedScan : RuntimeRfScanDto where
  deviceCode := ['R','F']
  stepKey := "SCAN_LOCATION".toList
  scannedValue := ['A']
  offlineId := some [' ','1',' ']

/-- It is stored, and comes in again. -/
def spacedHistory : List Event :=
  [.begin ['W'] (.submitRfScan spacedScan),.proceed 0 0,.proceed 0 0,
   .begin ['W'] (.submitRfScan spacedScan),.proceed 1 0]

def plainEnv : Env := ⟨.ascii,some⟩

/-- The lookup has no blanks and does not find the id as it was stored. -/
theorem spaced_id_not_found : ¬∀ (env : Env) (sessions : List RfSessionRow)
    (exceptions : List RfExceptionRow) (es : List Event),
    Idempotent env (initial sessions exceptions) es := by
  intro h
  have hanswered := (h plainEnv [] [] spacedHistory).answered
  have hcareful : Throughout (act plainEnv) Careful (initial [] []) spacedHistory :=
    hanswered.imp fun _ _ _ => answeredDuplicate_iff.mp
  have hlast := hcareful (spacedHistory.take 4) (.proceed 1 0) (List.prefix_refl _)
  exact absurd (hlast _ rfl) (by decide +kernel)

end Main

end AardvarkWms.RfScans
