import AardvarkWms.Outcomes
import AardvarkWms.Messaging
import AardvarkWms.TaskSteps

/-! Scans that a device recorded offline: each is stored under its key, then replayed as a scan
of its session. The calls of several devices are mixed statement by statement. -/
namespace AardvarkWms.OfflineScans

open Transactions Transactions.Txn Relational
open Messaging (Str trim)

def stepKeyText : RfStepKey → String
  | .SCAN_SOURCE_LOCATION => "SCAN_SOURCE_LOCATION"
  | .SCAN_DESTINATION_LOCATION => "SCAN_DESTINATION_LOCATION"
  | .SCAN_ITEM_OR_HANDLING_UNIT => "SCAN_ITEM_OR_HANDLING_UNIT"
  | .CONFIRM_QUANTITY => "CONFIRM_QUANTITY"
  | .COMPLETE_TASK => "COMPLETE_TASK"

/-- What a scan answers: the step it completed, with the task of the session, or a mismatch. -/
inductive RfInstruction
  | completed (step : ScannerWorkflowStep) (taskId : Option ℕ)
  | mismatch

/-- `scan`, with its answer. -/
def scanInstruction (warehouseReference : Text) (sessionReference : ℕ) (dto : ScanRfStepDto) :
    Wms RfInstruction := do
  let warehouse ← resolveWarehouse warehouseReference
  let session ← resolveSession warehouse.id sessionReference
  require (session.status=.ACTIVE) (.conflict "RF session is not active")
  let task ← resolveSessionTask warehouse.id session.taskId
  let found ← getOpenStep session.id
  let step ← demand found (.conflict "RF session has no open step")
  if isExpectedScan step.expected dto.scannedValue then do
    update (D := wms) .scannerWorkflowSteps step.id .COMPLETED
    match task.bind (getNextStepAfterScan · step.stepKey) with
    | some next => createScannerStep session.id next (step.sequence+1)
    | none =>
      update (D := wms) .scannerSessions session.id .COMPLETED
      completeTaskAfterRfScan warehouse.id (task.map (·.task)) dto
    return .completed step session.taskId
  else return .mismatch

theorem scan_eq (warehouseReference : Text) (sessionReference : ℕ) (dto : ScanRfStepDto) :
    scan warehouseReference sessionReference dto=
      (scanInstruction warehouseReference sessionReference dto).bind fun _ => .done () := by
  simp only [scan,scanInstruction,bind_eq,pure_eq,bind_assoc]
  refine congrArg _ (funext fun warehouse => ?_)
  refine congrArg _ (funext fun session => ?_)
  refine congrArg _ (funext fun _ => ?_)
  refine congrArg _ (funext fun task => ?_)
  refine congrArg _ (funext fun found => ?_)
  refine congrArg _ (funext fun step => ?_)
  by_cases h : isExpectedScan step.expected dto.scannedValue=true
  · simp only [if_pos h,bind_assoc]
    refine congrArg _ (funext fun _ => ?_)
    cases task.bind (getNextStepAfterScan · step.stepKey) with
    | some next =>
      show _=((createScannerStep session.id next (step.sequence+1)).bind _).bind _
      rw [bind_assoc]
      exact (bind_done _).symm
    | none =>
      show (update (D := wms) .scannerSessions session.id .COMPLETED).bind _=
        ((update (D := wms) .scannerSessions session.id .COMPLETED).bind _).bind _
      rw [bind_assoc]
      refine congrArg _ (funext fun _ => ?_)
      rw [bind_assoc]
      exact (bind_done _).symm
  · rw [if_neg h,if_neg h]
    rfl

inductive RfOfflineScanStatus
  | QUEUED | SYNCED | FAILED | DUPLICATE
  deriving DecidableEq

/-- `scan` is what was scanned and the quantity. -/
structure RfOfflineScanDto where
  idempotencyKey : Str
  sessionReference : Option ℕ := none
  taskReference : Option Text := none
  stepKey : Option String := none
  scan : ScanRfStepDto

structure RfOfflineQueueRow where
  warehouseId : ℕ
  sessionId : Option ℕ
  taskId : Option ℕ
  scannerDeviceId : Option ℕ
  idempotencyKey : Str
  stepKey : Option String
  status : RfOfflineScanStatus
  errorCode : Option String
  deriving DecidableEq

structure RfOfflineSyncItem where
  idempotencyKey : Str
  status : RfOfflineScanStatus
  sessionId : Option ℕ
  taskId : Option Text
  errorCode : Option String
  deriving DecidableEq

/-- The warehouse and the key of a scan. -/
abbrev ScanKey : Type := ℕ × Str

def RfOfflineQueueRow.key (r : RfOfflineQueueRow) : ScanKey := (r.warehouseId,r.idempotencyKey)

/-- Where the ingestion of a scan stands: what was looked up, stored and replayed so far. -/
inductive Phase
  | next
  | resolving (scan : RfOfflineScanDto) (session : Option ScannerSession)
  | storing (scan : RfOfflineScanDto) (session : Option ScannerSession)
      (task : Option WarehouseTask)
  | replaying (scan : RfOfflineScanDto) (session : ScannerSession) (taskId : Option ℕ)
  | recording (scan : RfOfflineScanDto) (session : ScannerSession) (taskId : Option ℕ)
      (errorCode : Option String)
  | repeated (scan : RfOfflineScanDto)
  | answering (scan : RfOfflineScanDto)

/-- A call of `syncOfflineQueue`, with the scans that it has not begun. -/
structure SyncCall where
  warehouseId : ℕ
  scannerDeviceId : Option ℕ
  dryRun : Bool
  scans : List RfOfflineScanDto
  phase : Phase

def SyncCall.key (call : SyncCall) (scan : RfOfflineScanDto) : ScanKey :=
  (call.warehouseId,trim scan.idempotencyKey)

/-- A replay was accepted, with what was recorded offline and what it completed, or a scan was
answered. -/
inductive Event
  | applied (key : ScanKey) (stepKey : Option String) (taskId : Option ℕ)
      (step : ScannerWorkflowStep) (stepTaskId : Option ℕ)
  | answered (warehouseId : ℕ) (item : RfOfflineSyncItem)

/-- What a statement leaves; the call is over where none is left. -/
structure Turn where
  rf : WmsDb
  queue : List RfOfflineQueueRow
  call : Option SyncCall
  events : List Event

/-- A lookup whose failure is caught. -/
def tryRead {α : Type} (p : Wms α) (rf : WmsDb) : Option α :=
  match alone store id p 0 [] (.start rf) with
  | .ok e => some e.value
  | .error _ => none

def offlineQueueItem (idempotencyKey : Str) (row : Option RfOfflineQueueRow)
    (status : RfOfflineScanStatus) : RfOfflineSyncItem :=
  ⟨idempotencyKey,status,row.bind (·.sessionId),(row.bind (·.taskId)).map .uuid,
    row.bind (·.errorCode)⟩

def recordedStatus (errorCode : Option String) : RfOfflineScanStatus :=
  if errorCode=none then .SYNCED else .FAILED

def recordedRow (errorCode : Option String) (r : RfOfflineQueueRow) : RfOfflineQueueRow :=
  {r with status := recordedStatus errorCode, errorCode}

/-- Only `SYNCED` outlives a repetition. -/
def repeatedRow (r : RfOfflineQueueRow) : RfOfflineQueueRow :=
  {r with status := if r.status=.SYNCED then .SYNCED else .DUPLICATE}

namespace SyncCall
variable (call : SyncCall) (rf : WmsDb) (queue : List RfOfflineQueueRow)

def begin (scan : RfOfflineScanDto) (scans : List RfOfflineScanDto) : Turn :=
  if call.dryRun then
    ⟨rf,queue,some {call with scans},[.answered call.warehouseId
      ⟨trim scan.idempotencyKey,.QUEUED,scan.sessionReference,scan.taskReference,none⟩]⟩
  else
    let session := scan.sessionReference.bind fun id =>
      tryRead (resolveSession call.warehouseId id) rf
    ⟨rf,queue,some {call with scans, phase := .resolving scan session},[]⟩

def queueRow (scan : RfOfflineScanDto) (session : Option ScannerSession)
    (task : Option WarehouseTask) : RfOfflineQueueRow :=
  ⟨call.warehouseId,session.map (·.id),task.map (·.id) <|> session.bind (·.taskId),
    call.scannerDeviceId,trim scan.idempotencyKey,scan.stepKey,.QUEUED,none⟩

/-- `INSERT … ON CONFLICT DO NOTHING`: a row that is there leaves no row to return. -/
def insertScan (scan : RfOfflineScanDto) (session : Option ScannerSession)
    (task : Option WarehouseTask) : Turn :=
  if queue.any fun r => r.key=call.key scan then
    ⟨rf,queue,some {call with phase := .repeated scan},[]⟩
  else
    let row := call.queueRow scan session task
    match session with
    | none => ⟨rf,queue++[row],some {call with phase := .next},[.answered call.warehouseId
        (offlineQueueItem (trim scan.idempotencyKey) (some row) .QUEUED)]⟩
    | some session =>
      ⟨rf,queue++[row],some {call with phase := .replaying scan session row.taskId},[]⟩

/-- The scan is a transaction of its own; where it fails nothing of it stays. -/
def replay (ids : ℕ → ℕ) (n : ℕ) (scan : RfOfflineScanDto) (session : ScannerSession)
    (taskId : Option ℕ) : Turn :=
  match alone store ids (scanInstruction (.uuid call.warehouseId) session.id scan.scan) n []
      (.start rf) with
  | .ok e => match e.value with
    | .mismatch =>
      ⟨e.ctx.view,queue,some {call with
        phase := .recording scan session taskId (some "SCAN_MISMATCH")},[]⟩
    | .completed step stepTaskId =>
      ⟨e.ctx.view,queue,some {call with phase := .recording scan session taskId none},
        [.applied (call.key scan) scan.stepKey taskId step stepTaskId]⟩
  | .error _ =>
    ⟨rf,queue,some {call with
      phase := .recording scan session taskId (some "REPLAY_FAILED")},[]⟩

def updateRows (scan : RfOfflineScanDto) (f : RfOfflineQueueRow → RfOfflineQueueRow) :
    List RfOfflineQueueRow :=
  queue.map fun r => if r.key=call.key scan then f r else r

def advance (ids : ℕ → ℕ) (n : ℕ) : Turn :=
  match call.phase with
  | .next => match call.scans with
    | [] => ⟨rf,queue,none,[]⟩
    | scan::scans => call.begin rf queue scan scans
  | .resolving scan session =>
    let task := scan.taskReference.bind fun reference =>
      tryRead (resolveRfTask call.warehouseId reference) rf
    ⟨rf,queue,some {call with phase := .storing scan session task},[]⟩
  | .storing scan session task => call.insertScan rf queue scan session task
  | .replaying scan session taskId => call.replay rf queue ids n scan session taskId
  | .recording scan session taskId errorCode =>
    ⟨rf,call.updateRows queue scan (recordedRow errorCode),some {call with phase := .next},
      [.answered call.warehouseId ⟨trim scan.idempotencyKey,recordedStatus errorCode,
        some session.id,taskId.map .uuid,errorCode⟩]⟩
  | .repeated scan =>
    ⟨rf,call.updateRows queue scan repeatedRow,some {call with phase := .answering scan},[]⟩
  | .answering scan =>
    ⟨rf,queue,some {call with phase := .next},[.answered call.warehouseId
      (offlineQueueItem (trim scan.idempotencyKey)
        (queue.find? fun r => r.key=call.key scan) .DUPLICATE)]⟩

end SyncCall

structure System where
  rf : WmsDb
  queue : List RfOfflineQueueRow
  call : ℕ → Option SyncCall

structure SyncRfOfflineQueueDto where
  scannerDeviceReference : Option Text := none
  dryRun : Bool := false
  scans : List RfOfflineScanDto

/-- Anything else that happens in the warehouse, a new call, or the next statement of a call, with
the ids that it may draw. A call that breaks off is one that is not advanced again. -/
inductive Action
  | warehouse (rf : WmsDb)
  | sync (i : ℕ) (warehouseReference : Text) (dto : SyncRfOfflineQueueDto)
  | advance (i : ℕ) (ids : ℕ → ℕ) (n : ℕ)

/-- The scanner that a call names has to be there. -/
def callScanner (warehouseId : ℕ) : Option Text → Wms (Option ℕ)
  | none => pure none
  | some reference => do
    let scanner ← resolveScanner warehouseId reference
    return some scanner.id

/-- The warehouse of a call and its scanner. -/
def resolveSync (warehouseReference : Text) (scannerDeviceReference : Option Text) :
    Wms (ℕ × Option ℕ) := do
  let warehouse ← resolveWarehouse warehouseReference
  let scanner ← callScanner warehouse.id scannerDeviceReference
  return (warehouse.id,scanner)

def syncOfflineQueue (warehouseReference : Text) (dto : SyncRfOfflineQueueDto) (rf : WmsDb) :
    Option SyncCall :=
  (tryRead (resolveSync warehouseReference dto.scannerDeviceReference) rf).map fun x =>
    ⟨x.1,x.2,dto.dryRun,dto.scans,.next⟩

namespace System

def put (s : System) (i : ℕ) (call : Option SyncCall) : System :=
  {s with call := Function.update s.call i call}

def act (s : System) : Action → System × List Event
  | .warehouse rf => ({s with rf},[])
  | .sync i warehouseReference dto =>
    match s.call i with
    | some _ => (s,[])
    | none => (s.put i (syncOfflineQueue warehouseReference dto s.rf),[])
  | .advance i ids n =>
    match s.call i with
    | none => (s,[])
    | some call =>
      let t := call.advance s.rf s.queue ids n
      (System.put ⟨t.rf,t.queue,s.call⟩ i t.call,t.events)

/-- A run and what happened in it, in order. -/
def run : System → List Action → System × List Event
  | s, [] => (s,[])
  | s, a::as => let r := run (s.act a).1 as; (r.1,(s.act a).2++r.2)

end System

def Event.appliedKey : Event → Option ScanKey
  | .applied key _ _ _ _ => some key
  | .answered _ _ => none

def appliedKeys (es : List Event) : List ScanKey := es.filterMap Event.appliedKey

namespace SyncCall

def replayingKey (call : SyncCall) : Option ScanKey :=
  match call.phase with
  | .replaying scan _ _ => some (call.key scan)
  | _ => none

/-- A scan that was accepted and is not yet recorded as `SYNCED`. -/
def syncedKey (call : SyncCall) : Option ScanKey :=
  match call.phase with
  | .recording scan _ _ none => some (call.key scan)
  | _ => none

def repeatedKey (call : SyncCall) : Option ScanKey :=
  match call.phase with
  | .repeated scan => some (call.key scan)
  | .answering scan => some (call.key scan)
  | _ => none

/-- What one statement of a call does to the stored scans and to the accepted ones. -/
structure Turned (call : SyncCall) (queue : List RfOfflineQueueRow) (t : Turn) : Prop where
  kept : ∀ r∈queue, ∃ r'∈t.queue, r'.key=r.key
  synced : ∀ r∈t.queue, r.status=.SYNCED →
    (∃ r'∈queue, r'.key=r.key ∧ r'.status=.SYNCED) ∨ call.syncedKey=some r.key
  applied : appliedKeys t.events=[] ∨ ∃ k, call.replayingKey=some k ∧ appliedKeys t.events=[k]
  replaying : ∀ c∈t.call, ∀ k∈c.replayingKey, (∀ r∈queue, r.key≠k) ∧ ∃ r∈t.queue, r.key=k
  syncedCall : ∀ c∈t.call, ∀ k∈c.syncedKey, k∈appliedKeys t.events

variable {call : SyncCall} {queue : List RfOfflineQueueRow} {t : Turn}

theorem Turned.quiet (hqueue : t.queue=queue) (hevents : appliedKeys t.events=[])
    (hcall : ∀ c∈t.call, c.replayingKey=none ∧ c.syncedKey=none) : Turned call queue t where
  kept := fun r hr => ⟨r,hqueue ▸ hr,rfl⟩
  synced := fun r hr hs => .inl ⟨r,hqueue ▸ hr,rfl,hs⟩
  applied := .inl hevents
  replaying := by
    intro c hc k hk
    rw [(hcall c hc).1] at hk
    cases hk
  syncedCall := by
    intro c hc k hk
    rw [(hcall c hc).2] at hk
    cases hk

theorem Turned.stores {row : RfOfflineQueueRow} (hnew : ∀ r∈queue, r.key≠row.key)
    (hstatus : row.status=.QUEUED) (hqueue : t.queue=queue++[row])
    (hevents : appliedKeys t.events=[])
    (hcall : ∀ c∈t.call, (∀ k∈c.replayingKey, k=row.key) ∧ c.syncedKey=none) :
    Turned call queue t where
  kept := by
    intro r hr
    exact ⟨r,by rw [hqueue]; exact List.mem_append_left _ hr,rfl⟩
  synced := by
    intro r hr hs
    rw [hqueue] at hr
    cases List.mem_append.mp hr with
    | inl h => exact .inl ⟨r,h,rfl,hs⟩
    | inr h =>
      cases List.mem_singleton.mp h
      rw [hstatus] at hs
      cases hs
  applied := .inl hevents
  replaying := by
    intro c hc k hk
    cases (hcall c hc).1 k hk
    exact ⟨hnew,row,by rw [hqueue]; simp,rfl⟩
  syncedCall := by
    intro c hc k hk
    rw [(hcall c hc).2] at hk
    cases hk

theorem Turned.marks {scan : RfOfflineScanDto} {f : RfOfflineQueueRow → RfOfflineQueueRow}
    (hkey : ∀ r, (f r).key=r.key)
    (hf : ∀ r, (f r).status=.SYNCED → r.status=.SYNCED ∨ call.syncedKey=some (call.key scan))
    (hqueue : t.queue=call.updateRows queue scan f) (hevents : appliedKeys t.events=[])
    (hcall : ∀ c∈t.call, c.replayingKey=none ∧ c.syncedKey=none) : Turned call queue t where
  kept := by
    intro r hr
    refine ⟨if r.key=call.key scan then f r else r,?_,?_⟩
    · rw [hqueue]
      exact List.mem_map_of_mem hr
    · split
      · exact hkey r
      · rfl
  synced := by
    intro r' hr' hs
    rw [hqueue] at hr'
    obtain ⟨r,hr,hfr⟩ := List.mem_map.mp hr'
    by_cases h : r.key=call.key scan
    · rw [if_pos h] at hfr
      subst hfr
      rw [hkey]
      cases hf r hs with
      | inl hold => exact .inl ⟨r,hr,rfl,hold⟩
      | inr hsynced => exact .inr (hsynced.trans (congrArg some h.symm))
    · rw [if_neg h] at hfr
      subst hfr
      exact .inl ⟨r,hr,rfl,hs⟩
  applied := .inl hevents
  replaying := by
    intro c hc k hk
    rw [(hcall c hc).1] at hk
    cases hk
  syncedCall := by
    intro c hc k hk
    rw [(hcall c hc).2] at hk
    cases hk

theorem turned_insertScan (rf : WmsDb) (scan : RfOfflineScanDto) (session : Option ScannerSession)
    (task : Option WarehouseTask) :
    Turned call queue (call.insertScan rf queue scan session task) := by
  unfold insertScan
  by_cases hthere : (queue.any fun r => r.key=call.key scan)=true
  · rw [if_pos hthere]
    exact .quiet rfl rfl (by rintro c ⟨⟩; exact ⟨rfl,rfl⟩)
  rw [if_neg hthere]
  have hnew : ∀ r∈queue, r.key≠(call.queueRow scan session task).key := by
    intro r hr heq
    exact hthere (List.any_eq_true.mpr ⟨r,hr,decide_eq_true heq⟩)
  cases session with
  | none => exact .stores hnew rfl rfl rfl (by rintro c ⟨⟩; exact ⟨by rintro k ⟨⟩,rfl⟩)
  | some session =>
    exact .stores hnew rfl rfl rfl (by rintro c ⟨⟩; exact ⟨by rintro k ⟨⟩; rfl,rfl⟩)

theorem turned_replay (rf : WmsDb) (ids : ℕ → ℕ) (n : ℕ) {scan : RfOfflineScanDto}
    {session : ScannerSession} {taskId : Option ℕ}
    (hphase : call.phase=.replaying scan session taskId) :
    Turned call queue (call.replay rf queue ids n scan session taskId) := by
  unfold replay
  cases alone store ids (scanInstruction (.uuid call.warehouseId) session.id scan.scan) n []
      (.start rf) with
  | error f => exact .quiet rfl rfl (by rintro c ⟨⟩; exact ⟨rfl,rfl⟩)
  | ok e =>
    cases hvalue : e.value with
    | mismatch =>
      simp only [hvalue]
      exact .quiet rfl rfl (by rintro c ⟨⟩; exact ⟨rfl,rfl⟩)
    | completed step stepTaskId =>
      simp only [hvalue]
      have hkey : call.replayingKey=some (call.key scan) := by
        simp only [replayingKey,hphase]
      exact {
        kept := fun r hr => ⟨r,hr,rfl⟩
        synced := fun r hr hs => .inl ⟨r,hr,rfl,hs⟩
        applied := .inr ⟨_,hkey,rfl⟩
        replaying := by rintro c ⟨⟩ k ⟨⟩
        syncedCall := by
          rintro c ⟨⟩ k ⟨⟩
          exact List.mem_singleton.mpr rfl}

theorem turned (rf : WmsDb) (ids : ℕ → ℕ) (n : ℕ) :
    Turned call queue (call.advance rf queue ids n) := by
  unfold advance
  cases hphase : call.phase with
  | next =>
    cases call.scans with
    | nil => exact .quiet rfl rfl (by rintro c ⟨⟩)
    | cons scan scans =>
      simp only [begin]
      by_cases hdry : call.dryRun=true
      · rw [if_pos hdry]
        refine .quiet rfl rfl ?_
        rintro c ⟨⟩
        exact ⟨by simp only [replayingKey,hphase],by simp only [syncedKey,hphase]⟩
      · rw [if_neg hdry]
        exact .quiet rfl rfl (by rintro c ⟨⟩; exact ⟨rfl,rfl⟩)
  | resolving scan session => exact .quiet rfl rfl (by rintro c ⟨⟩; exact ⟨rfl,rfl⟩)
  | storing scan session task => exact turned_insertScan rf scan session task
  | replaying scan session taskId => exact turned_replay rf ids n hphase
  | recording scan session taskId errorCode =>
    refine .marks (f := recordedRow errorCode) (fun _ => rfl) ?_ rfl rfl
      (by rintro c ⟨⟩; exact ⟨rfl,rfl⟩)
    intro r hs
    cases errorCode with
    | none => exact .inr (by simp only [syncedKey,hphase])
    | some code => cases hs
  | repeated scan =>
    refine .marks (f := repeatedRow) (fun _ => rfl) ?_ rfl rfl (by rintro c ⟨⟩; exact ⟨rfl,rfl⟩)
    intro r hs
    by_cases h : r.status=.SYNCED
    · exact .inl h
    · simp [repeatedRow,h] at hs
  | answering scan => exact .quiet rfl rfl (by rintro c ⟨⟩; exact ⟨rfl,rfl⟩)

end SyncCall

theorem appliedKeys_append (es es' : List Event) :
    appliedKeys (es++es')=appliedKeys es++appliedKeys es' := List.filterMap_append

/-- What holds after the events `es`: an accepted scan is stored, a scan that is being replayed
was not accepted before, by nobody else, and only accepted scans count as `SYNCED`. -/
structure Kept (s : System) (es : List Event) : Prop where
  once : (appliedKeys es).Nodup
  stored : ∀ k∈appliedKeys es, ∃ r∈s.queue, r.key=k
  replaying : ∀ i, ∀ c∈s.call i, ∀ k∈c.replayingKey, (∃ r∈s.queue, r.key=k) ∧ k∉appliedKeys es
  alone : ∀ i j, ∀ c∈s.call i, ∀ c'∈s.call j, ∀ k∈c.replayingKey, k∈c'.replayingKey → i=j
  synced : ∀ r∈s.queue, r.status=.SYNCED → r.key∈appliedKeys es
  syncedCall : ∀ i, ∀ c∈s.call i, ∀ k∈c.syncedKey, k∈appliedKeys es

theorem System.mem_put {s : System} {i j : ℕ} {call : Option SyncCall} {c : SyncCall} :
    c∈(s.put i call).call j ↔ (j=i ∧ c∈call) ∨ (j≠i ∧ c∈s.call j) := by
  by_cases h : j=i
  · subst h
    simp [System.put]
  · simp [System.put,h]

theorem Kept.advance {s : System} {es : List Event} (h : Kept s es) {i : ℕ} {call : SyncCall}
    (hcall : call∈s.call i ∨ call.phase=.next) {t : Turn} (ht : call.Turned s.queue t) :
    Kept (System.put ⟨t.rf,t.queue,s.call⟩ i t.call) (es++t.events) := by
  have hreplaying : ∀ k∈call.replayingKey, call∈s.call i := by
    intro k hk
    cases hcall with
    | inl hi => exact hi
    | inr hphase => simp [SyncCall.replayingKey,hphase] at hk
  have hsynced : ∀ k∈call.syncedKey, call∈s.call i := by
    intro k hk
    cases hcall with
    | inl hi => exact hi
    | inr hphase => simp [SyncCall.syncedKey,hphase] at hk
  have hrows : ∀ k, (∃ r∈s.queue, r.key=k) → ∃ r∈t.queue, r.key=k := by
    rintro k ⟨r,hr,rfl⟩
    exact ht.kept r hr
  -- What a statement accepts was being replayed.
  have happlied : ∀ k∈appliedKeys t.events, k∈call.replayingKey := by
    intro k hk
    cases ht.applied with
    | inl hnone => rw [hnone] at hk; cases hk
    | inr hone =>
      obtain ⟨k',hk',hone⟩ := hone
      rw [hone] at hk
      cases List.mem_singleton.mp hk
      exact hk'
  constructor
  case once =>
    rw [appliedKeys_append,List.nodup_append]
    refine ⟨h.once,?_,?_⟩
    · cases ht.applied with
      | inl hnone => rw [hnone]; exact List.nodup_nil
      | inr hone =>
        obtain ⟨k,_,hone⟩ := hone
        rw [hone]
        exact List.nodup_singleton k
    · rintro k hk k' hk' rfl
      exact (h.replaying i call (hreplaying k (happlied k hk')) k (happlied k hk')).2 hk
  case stored =>
    intro k hk
    rw [appliedKeys_append] at hk
    cases List.mem_append.mp hk with
    | inl hold => exact hrows k (h.stored k hold)
    | inr hnew =>
      have hk := happlied k hnew
      exact hrows k (h.replaying i call (hreplaying k hk) k hk).1
  case replaying =>
    intro j c hc k hk
    rw [appliedKeys_append,List.mem_append]
    cases System.mem_put.mp hc with
    | inl hself =>
      have hnew := ht.replaying c hself.2 k hk
      refine ⟨hnew.2,?_⟩
      rintro (hold|happ)
      · obtain ⟨r,hr,hrk⟩ := h.stored k hold
        exact hnew.1 r hr hrk
      · have hk := happlied k happ
        obtain ⟨r,hr,hrk⟩ := (h.replaying i call (hreplaying k hk) k hk).1
        exact hnew.1 r hr hrk
    | inr hother =>
      have hold := h.replaying j c hother.2 k hk
      refine ⟨hrows k hold.1,?_⟩
      rintro (hk'|happ)
      · exact hold.2 hk'
      · have hk' := happlied k happ
        exact hother.1 (h.alone j i c hother.2 call (hreplaying k hk') k hk hk')
  case alone =>
    intro j j' c hc c' hc' k hk hk'
    have hfresh : ∀ m, ∀ d∈s.call m, k∈d.replayingKey → ∀ d∈t.call, k∉d.replayingKey := by
      intro m d hd hkd d' hd' hkd'
      obtain ⟨r,hr,hrk⟩ := (h.replaying m d hd k hkd).1
      exact (ht.replaying d' hd' k hkd').1 r hr hrk
    cases System.mem_put.mp hc with
    | inl hself =>
      cases System.mem_put.mp hc' with
      | inl hself' => exact hself.1.trans hself'.1.symm
      | inr hother' => exact (hfresh j' c' hother'.2 hk' c hself.2 hk).elim
    | inr hother =>
      cases System.mem_put.mp hc' with
      | inl hself' => exact (hfresh j c hother.2 hk c' hself'.2 hk').elim
      | inr hother' => exact h.alone j j' c hother.2 c' hother'.2 k hk hk'
  case synced =>
    intro r hr hs
    rw [appliedKeys_append]
    apply List.mem_append_left
    cases ht.synced r hr hs with
    | inl hold =>
      obtain ⟨r',hr',hkey,hs'⟩ := hold
      exact hkey ▸ h.synced r' hr' hs'
    | inr hmark => exact h.syncedCall i call (hsynced _ hmark) _ hmark
  case syncedCall =>
    intro j c hc k hk
    rw [appliedKeys_append,List.mem_append]
    cases System.mem_put.mp hc with
    | inl hself => exact .inr (ht.syncedCall c hself.2 k hk)
    | inr hother => exact .inl (h.syncedCall j c hother.2 k hk)

theorem syncOfflineQueue_phase {warehouseReference : Text} {dto : SyncRfOfflineQueueDto}
    {rf : WmsDb} {c : SyncCall} (h : c∈syncOfflineQueue warehouseReference dto rf) :
    c.phase=.next := by
  obtain ⟨x,_,rfl⟩ := Option.map_eq_some_iff.mp h
  rfl

theorem Kept.act {s : System} {es : List Event} (h : Kept s es) (a : Action) :
    Kept (s.act a).1 (es++(s.act a).2) := by
  cases a with
  | warehouse rf =>
    simp only [System.act,List.append_nil]
    exact ⟨h.once,h.stored,h.replaying,h.alone,h.synced,h.syncedCall⟩
  | sync i warehouseReference dto =>
    simp only [System.act]
    cases hcall : s.call i with
    | some call => simpa using h
    | none =>
      have hnew : SyncCall.Turned ⟨0,none,false,[],.next⟩ s.queue
          ⟨s.rf,s.queue,syncOfflineQueue warehouseReference dto s.rf,[]⟩ := by
        refine .quiet rfl rfl fun c hc => ?_
        have hphase := syncOfflineQueue_phase hc
        exact ⟨by simp only [SyncCall.replayingKey,hphase],by simp only [SyncCall.syncedKey,hphase]⟩
      exact h.advance (.inr rfl) hnew
  | advance i ids n =>
    simp only [System.act]
    cases hcall : s.call i with
    | none => simpa using h
    | some call => exact h.advance (.inl hcall) (SyncCall.turned s.rf ids n)

/-- The step that a session waits with. -/
def openStep (rf : WmsDb) (sessionId : ℕ) : Option ScannerWorkflowStep :=
  (((rf .scannerWorkflowSteps).rows.filter fun s => s.sessionId=sessionId && s.status=.OPEN).insertionSort
    fun a b => a.sequence≤b.sequence).head?

theorem completed_of_alone {ids : ℕ → ℕ} {rf : WmsDb} {w : Text} {sessionId n : ℕ}
    {dto : ScanRfStepDto} {e : Ended (interface wms) WmsDb RfInstruction}
    {step : ScannerWorkflowStep} {taskId : Option ℕ}
    (h : Transactions.alone store ids (scanInstruction w sessionId dto) n [] (.start rf)=.ok e)
    (hvalue : e.value=.completed step taskId) :
    ∃ session, (rf .scannerSessions).get? sessionId=some session ∧
      openStep rf sessionId=some step ∧ isExpectedScan step.expected dto.scannedValue=true ∧
      session.taskId=taskId := by
  suffices hout : outcome store (.free (interface wms) WmsDb ids) (scanInstruction w sessionId dto) n
      (.start rf) fun a _ _ => a=.completed step taskId →
        ∃ session, (rf .scannerSessions).get? sessionId=some session ∧
          openStep rf sessionId=some step ∧ isExpectedScan step.expected dto.scannedValue=true ∧
          session.taskId=taskId by
    have hstore : {store with accepts := store.accepts}=store := rfl
    rw [← hstore] at h
    exact outcome_returns store.accepts _ hout h hvalue
  simp only [scanInstruction,bind_eq,outcome_bind]
  refine outcome_of_reads (fun _ => trivial) (only_resolveWarehouse _) fun warehouse n₁ c₁ h₁ => ?_
  have hview₁ : rf=c₁.view := h₁.view
  simp only [resolveSession,bind_eq,outcome_bind,outcome_demand]
  refine ⟨fun session hsession => ?_,fun _ => trivial⟩
  rw [← hview₁] at hsession
  obtain ⟨hget,_⟩ := Option.filter_eq_some_iff.mp hsession
  have hid : session.id=sessionId := (rf .scannerSessions).key_of_get? hget
  rw [outcome_require]
  by_cases hactive : session.status=.ACTIVE
  case neg => rw [if_neg hactive]; trivial
  rw [if_pos hactive]
  refine outcome_of_reads (fun _ => trivial) (only_resolveSessionTask _ _) fun task n₂ c₂ h₂ => ?_
  have hview₂ : rf=c₂.view := hview₁.trans h₂.view
  simp only [getOpenStep,bind_eq,pure_eq,outcome_bind,outcome_done]
  rw [outcome_findMany]
  refine ⟨fun step' hstep => ?_,fun _ => trivial⟩
  rw [← hview₂,hid] at hstep
  rw [outcome_ite]
  constructor
  · intro hexpected
    have hdone : RfInstruction.completed step' session.taskId=.completed step taskId →
        ∃ session, (rf .scannerSessions).get? sessionId=some session ∧
          openStep rf sessionId=some step ∧ isExpectedScan step.expected dto.scannedValue=true ∧
          session.taskId=taskId := by
      intro heq
      cases heq
      exact ⟨session,hget,hstep,hexpected,rfl⟩
    rw [outcome_bind]
    apply outcome_free
    intro _ n c
    cases task.bind (getNextStepAfterScan · step'.stepKey) with
    | some next =>
      rw [outcome_bind]
      exact outcome_free fun _ _ _ => hdone
    | none =>
      rw [outcome_bind]
      apply outcome_free
      intro _ _ _
      rw [outcome_bind]
      exact outcome_free fun _ _ _ => hdone
  · intro _ heq
    cases heq

/-- What a scan was recorded for is what it completed: its step, and its task. -/
def Event.Faithful : Event → Prop
  | .applied _ stepKey taskId step stepTaskId =>
    (∀ key∈stepKey, key=stepKeyText step.stepKey) ∧ stepTaskId=taskId
  | .answered _ _ => True

/-- Whatever happened up to here, no scan was reported as a duplicate that had not been accepted. -/
def DuplicatesApplied (es : List Event) : Prop :=
  ∀ earlier warehouseId item, earlier++[.answered warehouseId item] <+: es →
    item.status=.DUPLICATE → (warehouseId,item.idempotencyKey)∈appliedKeys earlier

structure Replayed (es : List Event) : Prop where
  once : (appliedKeys es).Nodup
  steps : ∀ e∈es, e.Faithful
  duplicates : DuplicatesApplied es

/-- The open step of the session is the step that was recorded, if it accepts the scan. -/
def ExpectedStep (rf : WmsDb) (sessionId : ℕ) (taskId : Option ℕ) (scan : RfOfflineScanDto) : Prop :=
  ∀ session∈(rf .scannerSessions).get? sessionId, ∀ step∈openStep rf sessionId,
    isExpectedScan step.expected scan.scan.scannedValue=true →
    (∀ key∈scan.stepKey, key=stepKeyText step.stepKey) ∧ session.taskId=taskId

/-- Of a stored scan that comes again: it is `SYNCED`, or its acceptance is being recorded. -/
def System.Accepted (s : System) (k : ScanKey) : Prop :=
  (∃ r∈s.queue, r.key=k ∧ r.status=.SYNCED) ∨ ∃ i, ∃ c∈s.call i, c.syncedKey=some k

def System.Stored (s : System) (k : ScanKey) : Prop := ∃ r∈s.queue, r.key=k

def System.Meets (s : System) : Action → Prop
  | .advance i _ _ => ∀ call∈s.call i, match call.phase with
    | .storing scan _ _ => s.Stored (call.key scan) → s.Accepted (call.key scan)
    | .replaying scan session taskId => ExpectedStep s.rf session.id taskId scan
    | _ => True
  | _ => True

def System.AllMeet : System → List Action → Prop
  | _, [] => True
  | s, a::as => s.Meets a ∧ (s.act a).1.AllMeet as

/-- A scan that is being reported as a duplicate was accepted. -/
def Repeats (s : System) (es : List Event) : Prop :=
  ∀ i, ∀ c∈s.call i, ∀ k∈c.repeatedKey, k∈appliedKeys es

theorem Kept.accepted {s : System} {es : List Event} (h : Kept s es) {k : ScanKey}
    (hk : s.Accepted k) : k∈appliedKeys es := by
  cases hk with
  | inl hrow =>
    obtain ⟨r,hr,hkey,hs⟩ := hrow
    exact hkey ▸ h.synced r hr hs
  | inr hcall =>
    obtain ⟨i,c,hc,hk⟩ := hcall
    exact h.syncedCall i c hc k hk

/-- What one statement does for the recorded steps and the duplicates. -/
structure Honest (s : System) (call : SyncCall) (t : Turn) : Prop where
  steps : ∀ e∈t.events, e.Faithful
  single : t.events.length≤1
  duplicates : ∀ warehouseId item, .answered warehouseId item∈t.events → item.status=.DUPLICATE →
    call.repeatedKey=some (warehouseId,item.idempotencyKey)
  repeated : ∀ c∈t.call, ∀ k∈c.repeatedKey, call.repeatedKey=some k ∨ s.Accepted k

theorem honest {s : System} {i : ℕ} {ids : ℕ → ℕ} {n : ℕ} {call : SyncCall}
    (hcall : s.call i=some call) (h : s.Meets (.advance i ids n)) :
    Honest s call (call.advance s.rf s.queue ids n) := by
  have hmeets := h call hcall
  unfold SyncCall.advance
  cases hphase : call.phase with
  | next =>
    cases call.scans with
    | nil => exact ⟨by simp,by simp,by simp,by simp⟩
    | cons scan scans =>
      simp only [SyncCall.begin]
      by_cases hdry : call.dryRun=true
      · rw [if_pos hdry]
        refine ⟨by simp [Event.Faithful],by simp,?_,?_⟩
        · intro warehouseId item hitem hstatus
          cases List.mem_singleton.mp hitem
          cases hstatus
        · rintro c ⟨⟩ k hk
          simp [SyncCall.repeatedKey,hphase] at hk
      · rw [if_neg hdry]
        exact ⟨by simp,by simp,by simp,by rintro c ⟨⟩ k ⟨⟩⟩
  | resolving scan session => exact ⟨by simp,by simp,by simp,by rintro c ⟨⟩ k ⟨⟩⟩
  | storing scan session task =>
    simp only [hphase] at hmeets
    simp only [SyncCall.insertScan]
    by_cases hthere : (s.queue.any fun r => r.key=call.key scan)=true
    · rw [if_pos hthere]
      refine ⟨by simp,by simp,by simp,?_⟩
      rintro c ⟨⟩ k ⟨⟩
      obtain ⟨r,hr,hkey⟩ := List.any_eq_true.mp hthere
      exact .inr (hmeets ⟨r,hr,of_decide_eq_true hkey⟩)
    rw [if_neg hthere]
    cases session with
    | none =>
      refine ⟨by simp [Event.Faithful],by simp,?_,by rintro c ⟨⟩ k ⟨⟩⟩
      intro warehouseId item hitem hstatus
      cases List.mem_singleton.mp hitem
      cases hstatus
    | some session => exact ⟨by simp,by simp,by simp,by rintro c ⟨⟩ k ⟨⟩⟩
  | replaying scan session taskId =>
    simp only [hphase] at hmeets
    simp only [SyncCall.replay]
    cases halone : Transactions.alone store ids
        (scanInstruction (.uuid call.warehouseId) session.id scan.scan) n [] (.start s.rf) with
    | error f => exact ⟨by simp,by simp,by simp,by rintro c ⟨⟩ k ⟨⟩⟩
    | ok e =>
      cases hvalue : e.value with
      | mismatch =>
        simp only [hvalue]
        exact ⟨by simp,by simp,by simp,by rintro c ⟨⟩ k ⟨⟩⟩
      | completed step stepTaskId =>
        simp only [hvalue]
        obtain ⟨session',hget,hstep,hexpected,htask⟩ := completed_of_alone halone hvalue
        have hfaithful := hmeets session' hget step hstep hexpected
        refine ⟨?_,by simp,by simp,by rintro c ⟨⟩ k ⟨⟩⟩
        intro e' he'
        cases List.mem_singleton.mp he'
        exact ⟨hfaithful.1,htask.symm.trans hfaithful.2⟩
  | recording scan session taskId errorCode =>
    refine ⟨by simp [Event.Faithful],by simp,?_,by rintro c ⟨⟩ k ⟨⟩⟩
    intro warehouseId item hitem hstatus
    cases List.mem_singleton.mp hitem
    cases errorCode with
    | none => cases hstatus
    | some code => cases hstatus
  | repeated scan =>
    refine ⟨by simp,by simp,by simp,?_⟩
    rintro c ⟨⟩ k ⟨⟩
    exact .inl (by simp only [SyncCall.repeatedKey,SyncCall.key,hphase])
  | answering scan =>
    refine ⟨by simp [Event.Faithful],by simp,?_,by rintro c ⟨⟩ k ⟨⟩⟩
    intro warehouseId item hitem _
    cases List.mem_singleton.mp hitem
    simp only [SyncCall.repeatedKey,hphase,SyncCall.key,offlineQueueItem]

/-- A run whose statements all meet the condition, up to now. -/
structure Course (s : System) (es : List Event) : Prop where
  kept : Kept s es
  repeats : Repeats s es
  replayed : Replayed es

theorem DuplicatesApplied.append {es es' : List Event} (h : DuplicatesApplied es)
    (hsingle : es'.length≤1)
    (hnew : ∀ warehouseId item, .answered warehouseId item∈es' → item.status=.DUPLICATE →
      (warehouseId,item.idempotencyKey)∈appliedKeys es) : DuplicatesApplied (es++es') := by
  intro earlier warehouseId item hprefix hstatus
  cases es' with
  | nil =>
    rw [List.append_nil] at hprefix
    exact h earlier warehouseId item hprefix hstatus
  | cons e rest =>
    have hrest : rest=[] := List.length_eq_zero_iff.mp (Nat.le_zero.mp (Nat.le_of_succ_le_succ hsingle))
    subst hrest
    cases List.prefix_concat_iff.mp hprefix with
    | inl heq =>
      have hsame := List.append_inj' heq rfl
      have hlast : Event.answered warehouseId item=e := List.singleton_inj.mp hsame.2
      rw [hsame.1]
      exact hnew warehouseId item (by rw [hlast]; exact List.mem_singleton.mpr rfl) hstatus
    | inr hold => exact h earlier warehouseId item hold hstatus

theorem Course.act {s : System} {es : List Event} (h : Course s es) {a : Action}
    (hmeets : s.Meets a) : Course (s.act a).1 (es++(s.act a).2) := by
  have hkept := h.kept.act a
  have hidle : (s.act a).2=[] → Repeats (s.act a).1 es → Course (s.act a).1 (es++(s.act a).2) := by
    intro hnone hrepeats
    rw [hnone,List.append_nil] at hkept ⊢
    exact ⟨hkept,hrepeats,h.replayed⟩
  cases a with
  | warehouse rf => exact hidle rfl h.repeats
  | sync i warehouseReference dto =>
    cases hcall : s.call i with
    | some call =>
      have hact : s.act (.sync i warehouseReference dto)=(s,[]) := by simp only [System.act,hcall]
      exact hidle (by rw [hact]) (by rw [hact]; exact h.repeats)
    | none =>
      have hact : s.act (.sync i warehouseReference dto)=
          (s.put i (syncOfflineQueue warehouseReference dto s.rf),[]) := by
        simp only [System.act,hcall]
      refine hidle (by rw [hact]) ?_
      rw [hact]
      intro j c hc k hk
      cases System.mem_put.mp hc with
      | inl hself => simp [SyncCall.repeatedKey,syncOfflineQueue_phase hself.2] at hk
      | inr hother => exact h.repeats j c hother.2 k hk
  | advance i ids n =>
    cases hcall : s.call i with
    | none =>
      have hact : s.act (.advance i ids n)=(s,[]) := by simp only [System.act,hcall]
      exact hidle (by rw [hact]) (by rw [hact]; exact h.repeats)
    | some call =>
      have hhonest := honest hcall hmeets
      have hact : s.act (.advance i ids n)=
          (System.put ⟨(call.advance s.rf s.queue ids n).rf,(call.advance s.rf s.queue ids n).queue,
            s.call⟩ i (call.advance s.rf s.queue ids n).call,
            (call.advance s.rf s.queue ids n).events) := by
        simp only [System.act,hcall]
      rw [hact] at hkept ⊢
      refine ⟨hkept,?_,hkept.once,?_,?_⟩
      · intro j c hc k hk
        rw [appliedKeys_append]
        apply List.mem_append_left
        cases System.mem_put.mp hc with
        | inl hself =>
          cases hhonest.repeated c hself.2 k hk with
          | inl hold => exact h.repeats i call hcall k hold
          | inr haccepted => exact h.kept.accepted haccepted
        | inr hother => exact h.repeats j c hother.2 k hk
      · intro e he
        cases List.mem_append.mp he with
        | inl hold => exact h.replayed.steps e hold
        | inr hnew => exact hhonest.steps e hnew
      · refine h.replayed.duplicates.append hhonest.single fun warehouseId item hitem hstatus => ?_
        exact h.repeats i call hcall _ (hhonest.duplicates warehouseId item hitem hstatus)

theorem Course.run {s : System} {es : List Event} (h : Course s es) {as : List Action}
    (hmeets : s.AllMeet as) : Course (s.run as).1 (es++(s.run as).2) := by
  induction as generalizing s es with
  | nil => simpa [System.run] using h
  | cons a as ih =>
    have hstep := ih (h.act hmeets.1) hmeets.2
    rw [List.append_assoc] at hstep
    exact hstep

def System.start (rf : WmsDb) : System := ⟨rf,[],fun _ => none⟩

theorem course_start (rf : WmsDb) : Course (.start rf) [] where
  kept := by
    constructor <;> simp [System.start,appliedKeys]
  repeats := by
    intro i c hc
    cases hc
  replayed := ⟨List.nodup_nil,by simp,by
    intro earlier warehouseId item hprefix
    have hnil := List.prefix_nil.mp hprefix
    simp at hnil⟩

/-- Where a scan meets only the step that it was recorded for, and is sent again only after it was
accepted, no key is applied twice, every scan completes its own step, and no scan is lost as a
duplicate. -/
theorem offline_scans_replayed (rf : WmsDb) (as : List Action)
    (h : (System.start rf).AllMeet as) : Replayed ((System.start rf).run as).2 :=
  ((course_start rf).run h).replayed

/-- A move of three that waits for its quantity. -/
def aisle : WmsDb := after
  [.insert .warehouses ⟨1,.word 1⟩,
   .insert .warehouseTasks {WarehouseTask.record 1 1 .MOVE with quantity := some 3},
   .insert .scannerSessions ⟨5,1,some 1,.ACTIVE⟩,
   .insert .scannerWorkflowSteps ⟨6,5,.CONFIRM_QUANTITY,1,.OPEN,⟨.QUANTITY,[]⟩⟩]
  emptyDb

def aisleScan (sessionReference : Option ℕ) (stepKey : String) : RfOfflineScanDto where
  idempotencyKey := "k1".toList
  sessionReference := sessionReference
  stepKey := some stepKey
  scan := ⟨.word 3,some 3,some 3,by decide,by decide⟩

/-- One call with one scan, alone to its end. -/
def ingest (scan : RfOfflineScanDto) : List Action :=
  let next := Action.advance 0 id 10
  [.sync 0 (.uuid 1) {scans := [scan]},next,next,next,next,next,next]

/-- A scan that comes again after it was accepted. -/
def sentTwice : List Action :=
  ingest (aisleScan (some 5) "CONFIRM_QUANTITY")++ingest (aisleScan (some 5) "CONFIRM_QUANTITY")

theorem offline_scans_replayed_demo : Replayed ((System.start aisle).run sentTwice).2 := by
  have hmeets : (System.start aisle).AllMeet sentTwice := by
    refine ⟨trivial,?_⟩
    refine ⟨by rintro call ⟨⟩; trivial,?_⟩
    refine ⟨by rintro call ⟨⟩; trivial,?_⟩
    refine ⟨(by rintro call ⟨⟩ ⟨r,hr,_⟩; cases hr),?_⟩
    refine ⟨by rintro call ⟨⟩ session ⟨⟩ step ⟨⟩ _; exact ⟨by rintro key ⟨⟩; rfl,rfl⟩,?_⟩
    refine ⟨by rintro call ⟨⟩; trivial,?_⟩
    refine ⟨by rintro call ⟨⟩; trivial,?_⟩
    refine ⟨trivial,?_⟩
    refine ⟨by rintro call ⟨⟩; trivial,?_⟩
    refine ⟨by rintro call ⟨⟩; trivial,?_⟩
    refine ⟨by rintro call ⟨⟩ _; exact .inl ⟨_,List.Mem.head _,rfl,rfl⟩,?_⟩
    refine ⟨by rintro call ⟨⟩; trivial,?_⟩
    refine ⟨by rintro call ⟨⟩; trivial,?_⟩
    exact ⟨by rintro call ⟨⟩; trivial,trivial⟩
  exact offline_scans_replayed aisle sentTwice hmeets

/-- Stored without its session and sent again with it, a scan is a duplicate of nothing. A scan
of a location that comes while a quantity is open confirms the quantity. -/
theorem offline_scans_lost :
    ¬Replayed ((System.start aisle).run (ingest (aisleScan none "CONFIRM_QUANTITY")++
        ingest (aisleScan (some 5) "CONFIRM_QUANTITY"))).2 ∧
      ¬Replayed ((System.start aisle).run
        (ingest (aisleScan (some 5) "SCAN_SOURCE_LOCATION"))).2 := by
  constructor
  · intro h
    have hduplicate := h.duplicates [.answered 1 ⟨"k1".toList,.QUEUED,none,none,none⟩] 1
      ⟨"k1".toList,.DUPLICATE,none,none,none⟩ ⟨[],rfl⟩ rfl
    cases hduplicate
  · intro h
    have hstep := h.steps (.applied (1,"k1".toList) (some "SCAN_SOURCE_LOCATION") (some 1)
      ⟨6,5,.CONFIRM_QUANTITY,1,.OPEN,⟨.QUANTITY,[]⟩⟩ (some 1)) (List.Mem.head _)
    exact absurd (hstep.1 _ rfl) (by decide)

end AardvarkWms.OfflineScans
