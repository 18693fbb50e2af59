import AardvarkWms.OrderUpdates
import Mathlib.Data.List.Sort

/-! Label print jobs: they are created, claimed by print agents under a lease, reported on, and
managed from the print console. Every statement is a transaction of its own. -/
namespace AardvarkWms.PrintJobs

open Messaging (Str trim)
open OrderUpdates (Uuid ServiceError normalizeNullableString)

inductive LabelJobStatus
  | QUEUED | CLAIMED | PRINTING | PRINTED | FAILED | CANCELLED
  deriving DecidableEq

inductive PrintAgentStatus
  | OFFLINE | ONLINE | DISABLED
  deriving DecidableEq

/-- `printerCodes` is what the agent's metadata holds under that key. -/
structure PrintAgent where
  warehouseId : Uuid
  code : Str
  tokenHash : Str
  status : PrintAgentStatus
  printerCodes : Json
  authFailedCount : ℕ
  authLockedUntil : Option ℕ
  tokenLastFailedAt : Option ℕ
  deriving DecidableEq

structure PrinterStation where
  warehouseId : Uuid
  code : Str
  deriving DecidableEq

structure LabelTemplate where
  id : Uuid
  warehouseId : Uuid
  code : Str
  content : Str
  isActive : Bool
  deriving DecidableEq

structure LabelTemplateVersion where
  warehouseId : Uuid
  templateCode : Str
  version : ℕ
  layout : Json
  isActive : Bool
  deriving DecidableEq

structure PrintJob where
  id : ℕ
  warehouseId : Uuid
  printerCode : Option Str
  agentCode : Option Str
  templateCode : Option Str
  templateVersion : ℕ
  status : LabelJobStatus
  copies : ℕ
  attempts : ℕ
  maxAttempts : ℕ
  payload : Json
  renderedZpl : Str
  requestedByUserId : ℕ
  idempotencyKey : Option Str
  requestHash : Option Str
  errorMessage : Option Str
  claimedAt : Option ℕ
  claimExpiresAt : Option ℕ
  printedAt : Option ℕ
  createdAt : ℕ
  deriving DecidableEq

structure LabelsDb where
  places : OrderUpdates.Places
  agents : List PrintAgent
  printers : List PrinterStation
  templates : List LabelTemplate
  layouts : List LabelTemplateVersion
  jobs : Table PrintJob.id

inductive LabelsError
  | service (e : ServiceError)
  | notFound (message : Str)
  | conflict (message : Str)
  | forbidden (message : String)
  | unauthorized (message : String)
  | uniqueViolation
  deriving DecidableEq

structure CreateRuntimePrintJobDto where
  printerCode : Option Str := none
  agentCode : Option Str := none
  templateCode : Option Str := none
  copies : Option ℕ := none
  maxAttempts : Option ℕ := none
  payload : Option Json := none
  layout : Option Json := none
  renderedZpl : Option Str := none
  idempotencyKey : Option Str := none
  deriving DecidableEq

structure RuntimePrintJobActionDto where
  printerCode : Option Str := none
  agentCode : Option Str := none
  copies : Option ℕ := none
  metadata : Option Json := none
  idempotencyKey : Option Str := none
  deriving DecidableEq

structure ClaimPrintJobDto where
  agentCode : Str
  token : Str
  limit : Option ℕ := none
  printerCodes : Option (List Str) := none
  acceptUnassignedJobs : Option Bool := none
  deriving DecidableEq

inductive PrintAgentReportedStatus
  | PRINTING | PRINTED | FAILED | CANCELLED
  deriving DecidableEq

structure ReportPrintJobResultDto where
  agentCode : Str
  token : Str
  status : PrintAgentReportedStatus
  errorMessage : Option Str := none
  deriving DecidableEq

/-- What a request is hashed from. -/
inductive RequestKey
  | print (warehouseId : Uuid) (printerCode agentCode templateCode : Option Str)
      (copies maxAttempts : ℕ) (payload : Json) (renderedZpl : Str) (actorUserId : ℕ)
  | reprint (warehouseId : Uuid) (sourceJobId : ℕ) (printerCode agentCode : Option Str)
      (copies : ℕ) (metadata : Json) (actorUserId : ℕ)
  deriving DecidableEq

/-- The language's upper case, digests and label rendering. -/
structure Env where
  runtime : OrderUpdates.Runtime
  hashToken : Str → Str
  hashRequest : RequestKey → Str
  normalizeLabelLayout : Json → Json
  renderZpl : Json → Json → Str × List Str
  defaultLabelLayout : Json
  renderContentTemplate : Str → Json → Str
  validateZplDocument : Str → List Str

/-- A code that is in its normal form already stays. -/
def Env.Normalizes (env : Env) : Prop :=
  ∀ s, env.runtime.normalizeReference (env.runtime.normalizeReference s)=
    env.runtime.normalizeReference s

section Routing

structure PrintAgentRouting where
  printerCodes : List Str
  acceptUnassignedJobs : Bool
  legacyWarehouseClaim : Bool
  deriving DecidableEq

/-- A text at its commas. -/
def splitCommas (s : Str) : List Str :=
  s.foldr (fun c parts => if c = ',' then []::parts
    else match parts with
      | [] => [[c]]
      | p::ps => (c::p)::ps) [[]]

variable (env : Env)

def normalizeCode (value : Str) : Str := env.runtime.normalizeReference value

/-- Codes in their normal form, each once and none empty. -/
def normalizePrinterCodes (items : List Str) : List Str :=
  (items.map (normalizeCode env)).foldl (fun codes code =>
    if code=[] ∨ code∈codes then codes else codes++[code]) []

def jsonString? : Json → Option Str
  | .string s => some s.toList
  | _ => none

/-- What `printerCodes` of an agent's metadata says, whatever its shape. -/
def readPrinterCodesFromAgentMetadata (value : Json) : List Str :=
  normalizePrinterCodes env (match value with
    | .array items => items.filterMap jsonString?
    | .string s => splitCommas s.toList
    | _ => [])

def buildPrintAgentRouting (configured reported : List Str) (acceptUnassignedJobs : Option Bool) :
    PrintAgentRouting :=
  let printerCodes := if configured≠[] then configured else reported
  ⟨printerCodes,printerCodes=[] || acceptUnassignedJobs=some true,printerCodes=[]⟩

def normalizeNullableCode (value : Option Str) : Option Str :=
  (value.map (normalizeCode env)).filter (·≠[])

/-- The routing rule as a function of its own. -/
def isRuntimePrintJobClaimableByAgent (jobAgentCode jobPrinterCode : Option Str) (agentCode : Str)
    (routing : PrintAgentRouting) : Bool :=
  let normalizedAgent := normalizeCode env agentCode
  let jobAgent := normalizeNullableCode env jobAgentCode
  let jobPrinter := normalizeNullableCode env jobPrinterCode
  if jobAgent.any (·≠normalizedAgent) then false
  else if jobAgent=some normalizedAgent then true
  else if routing.legacyWarehouseClaim then true
  else match jobPrinter with
    | none => routing.acceptUnassignedJobs
    | some code => code∈routing.printerCodes

end Routing

/-- `claim_expires_at IS NULL OR claim_expires_at < now()`. -/
def PrintJob.leaseExpired (j : PrintJob) (now : ℕ) : Bool := j.claimExpiresAt.all (· < now)

/-- `printer_code = ANY(codes) OR (acceptUnassigned AND printer_code IS NULL)`. -/
def PrintJob.routedTo (j : PrintJob) (routing : PrintAgentRouting) : Bool :=
  j.printerCode.any (·∈routing.printerCodes) || routing.acceptUnassignedJobs && j.printerCode=none

/-- The WHERE clause of the select, in its two variants. -/
def PrintJob.selected (j : PrintJob) (warehouseId : Uuid) (agentCode : Str)
    (routing : PrintAgentRouting) (now : ℕ) : Bool :=
  j.warehouseId=warehouseId && decide (j.attempts < j.maxAttempts) &&
  if routing.legacyWarehouseClaim then
    j.status=.QUEUED && (j.agentCode=none || j.agentCode=some agentCode) ||
      j.status=.CLAIMED && j.leaseExpired now
  else
    j.status=.QUEUED && j.agentCode=some agentCode ||
      j.status=.QUEUED && j.agentCode=none && j.routedTo routing ||
      j.status=.CLAIMED && j.leaseExpired now && j.routedTo routing ||
      j.status=.CLAIMED && j.leaseExpired now && j.agentCode=some agentCode

/-- The WHERE clause of the update. -/
def PrintJob.claimable (j : PrintJob) (warehouseId : Uuid) (agentCode : Str) (now : ℕ) : Bool :=
  j.warehouseId=warehouseId && decide (j.attempts < j.maxAttempts) &&
    (j.status=.QUEUED && (j.agentCode=none || j.agentCode=some agentCode) ||
      j.status=.CLAIMED && j.leaseExpired now)

def PRINT_JOB_LEASE_SECONDS : ℕ := 120

def PrintJob.claimed (agentCode : Str) (now : ℕ) (j : PrintJob) : PrintJob :=
  {j with
    status := .CLAIMED
    agentCode := some agentCode
    attempts := j.attempts+1
    claimedAt := some now
    claimExpiresAt := some (now+PRINT_JOB_LEASE_SECONDS)}

def PrintAgentReportedStatus.toStatus : PrintAgentReportedStatus → LabelJobStatus
  | .PRINTING => .PRINTING
  | .PRINTED => .PRINTED
  | .FAILED => .FAILED
  | .CANCELLED => .CANCELLED

def isPrintAgentStatusTransitionAllowed (current : LabelJobStatus)
    (reported : PrintAgentReportedStatus) : Bool :=
  match current with
  | .CLAIMED | .PRINTING => true
  | .PRINTED => reported=.PRINTED
  | .FAILED => reported=.FAILED
  | .CANCELLED => reported=.CANCELLED
  | .QUEUED => false

/-- `NULLIF(…, '')`. -/
def nullIfEmpty (s : Option Str) : Option Str := s.filter (·≠[])

def PrintJob.reported (dto : ReportPrintJobResultDto) (now : ℕ) (j : PrintJob) : PrintJob :=
  {j with
    status := dto.status.toStatus
    errorMessage := if dto.status=.PRINTED then none else nullIfEmpty (dto.errorMessage.map trim)
    claimExpiresAt := if dto.status=.PRINTING then some (now+PRINT_JOB_LEASE_SECONDS) else none
    printedAt := if dto.status=.PRINTED then some now else j.printedAt}

def PrintJob.requeued (printerCode agentCode : Option Str) (j : PrintJob) : PrintJob :=
  {j with
    status := .QUEUED
    printerCode := nullIfEmpty printerCode
    agentCode := nullIfEmpty agentCode
    errorMessage := none
    claimedAt := none
    claimExpiresAt := none
    printedAt := none}

def PrintJob.cancelled (reason : Str) (j : PrintJob) : PrintJob :=
  {j with
    status := .CANCELLED
    errorMessage := nullIfEmpty (some reason)
    claimExpiresAt := none}

inductive Request
  | create (dto : CreateRuntimePrintJobDto)
  | retry (jobId : ℕ) (dto : RuntimePrintJobActionDto)
  | cancel (jobId : ℕ) (metadata : Option Json)
  | reassign (jobId : ℕ) (dto : RuntimePrintJobActionDto)
  | reprint (jobId : ℕ) (dto : RuntimePrintJobActionDto)
  | claim (dto : ClaimPrintJobDto)
  | report (jobId : ℕ) (dto : ReportPrintJobResultDto)
  deriving DecidableEq

def Request.jobId : Request → Option ℕ
  | .create _ | .claim _ => none
  | .retry jobId _ | .cancel jobId _ | .reassign jobId _ | .reprint jobId _ | .report jobId _ =>
    some jobId

/-- Where a job is to be printed, and the row that was read for it. -/
structure Target where
  warehouseId : Uuid
  job : Option PrintJob
  printerCode : Option Str
  agentCode : Option Str
  deriving DecidableEq

/-- The statement that a call makes next, with what it has read so far. -/
inductive Phase
  | warehouse
  | job (warehouseId : Uuid)
  | printer (t : Target)
  | agent (t : Target)
  | layout (t : Target) (templateCode : Str)
  | template (t : Target) (templateCode : Str)
  | insert (t : Target) (renderedZpl : Str)
  | insertReprint (t : Target) (source : PrintJob)
  | replay (warehouseId : Uuid) (idempotencyKey : Str) (requestHash : Str)
  | update (t : Target) (read : PrintJob)
  | token (warehouseId : Uuid)
  | tokenFailure (agent : PrintAgent)
  | clearTokenFailures (agent : PrintAgent)
  | heartbeat (agent : PrintAgent)
  | select (agent : PrintAgent)
  | claim (agent : PrintAgent) (ids : List ℕ) (claimed : List PrintJob)
  | current (agent : PrintAgent)
  | result (agent : PrintAgent) (read : PrintJob)
  | latest (agent : PrintAgent)
  | ended (result : Except LabelsError (List PrintJob))

structure Call where
  warehouseReference : Str
  actorUserId : ℕ
  request : Request
  phase : Phase

def LabelJobStatus.name : LabelJobStatus → Str
  | .QUEUED => "QUEUED".toList
  | .CLAIMED => "CLAIMED".toList
  | .PRINTING => "PRINTING".toList
  | .PRINTED => "PRINTED".toList
  | .FAILED => "FAILED".toList
  | .CANCELLED => "CANCELLED".toList

namespace LabelsDb
variable (db : LabelsDb)

def agentOf (warehouseId : Uuid) (code : Str) : Option PrintAgent :=
  db.agents.find? fun a => a.warehouseId=warehouseId && a.code=code

def jobOf (warehouseId : Uuid) (jobId : ℕ) : Option PrintJob :=
  (db.jobs.get? jobId).filter fun j => j.warehouseId=warehouseId

def resolveRuntimePrintJobRow (warehouseId : Uuid) (jobId : ℕ) : Except LabelsError PrintJob :=
  (db.jobOf warehouseId jobId).elim (throw (.notFound "Print job was not found".toList)) pure

def jobByKey (warehouseId : Uuid) (idempotencyKey : Str) : Option PrintJob :=
  db.jobs.rows.find? fun j => j.warehouseId=warehouseId && j.idempotencyKey=some idempotencyKey

def mapAgent (agent : PrintAgent) (f : PrintAgent → PrintAgent) : LabelsDb :=
  {db with agents := db.agents.map fun a =>
    if a.warehouseId=agent.warehouseId ∧ a.code=agent.code then f a else a}

/-- `UPDATE wms_print_jobs … WHERE id = … AND warehouse_id = …`. -/
def updateJob (warehouseId : Uuid) (jobId : ℕ) (f : PrintJob → PrintJob)
    (hf : ∀ j, (f j).id=j.id) : LabelsDb :=
  {db with jobs := db.jobs.modifyWhere (fun j => j.id=jobId && j.warehouseId=warehouseId) f hf}

end LabelsDb

section Steps
variable (env : Env)

def ensureQueueableZpl (zpl : Str) (layoutWarnings : List Str) : Except LabelsError Str :=
  let warnings := layoutWarnings++env.validateZplDocument zpl
  if warnings≠[] then
    throw (.conflict ("Label cannot be queued: ".toList++(warnings.intersperse [' ']).flatten))
  else pure (trim zpl)

def renderLayout (layout : Json) (dto : CreateRuntimePrintJobDto) : Except LabelsError Str :=
  let result := env.renderZpl layout (dto.payload.getD (.object []))
  ensureQueueableZpl env result.1 result.2

/-- The label text, where no stored layout or template has to be read for it. -/
def toZpl (t : Target) (dto : CreateRuntimePrintJobDto) : Except LabelsError Phase :=
  match dto.renderedZpl.filter (fun zpl => trim zpl≠[]), dto.layout,
      normalizeNullableString dto.templateCode with
  | some zpl, _, _ => do
    let zpl ← ensureQueueableZpl env (trim zpl) []
    pure (.insert t zpl)
  | none, some layout, _ => do
    let zpl ← renderLayout env (env.normalizeLabelLayout layout) dto
    pure (.insert t zpl)
  | none, none, some templateCode => pure (.layout t templateCode)
  | none, none, none => do
    let zpl ← renderLayout env env.defaultLabelLayout dto
    pure (.insert t zpl)

def toWrite (request : Request) (t : Target) : Except LabelsError Phase :=
  match request, t.job with
  | .create dto, _ => toZpl env t dto
  | .reprint _ _, some source => pure (.insertReprint t source)
  | _, some job => pure (.update t job)
  | _, none => throw (.notFound "Print job was not found".toList)

/-- Codes that are null or empty are not looked up. -/
def toAgent (request : Request) (t : Target) : Except LabelsError Phase :=
  if nullIfEmpty t.agentCode=none then toWrite env request t else pure (.agent t)

def toPrinter (request : Request) (t : Target) : Except LabelsError Phase :=
  if nullIfEmpty t.printerCode=none then toAgent env request t else pure (.printer t)

def afterWarehouse (request : Request) (w : Uuid) : Except LabelsError Phase :=
  match request with
  | .create dto => toPrinter env request ⟨w,none,normalizeNullableString dto.printerCode,
      normalizeNullableString dto.agentCode⟩
  | .claim _ | .report _ _ => pure (.token w)
  | _ => pure (.job w)

/-- What is asked of the job that an action of the print console names. -/
def afterJob (request : Request) (warehouseId : Uuid) (job : PrintJob) :
    Except LabelsError Phase :=
  match request with
  | .retry _ dto =>
    if job.status=.PRINTED then
      throw (.conflict "Printed jobs cannot be retried; use reprint instead".toList)
    else toPrinter env request ⟨warehouseId,some job,
      (normalizeNullableString dto.printerCode).or job.printerCode,
      (normalizeNullableString dto.agentCode).or job.agentCode⟩
  | .cancel _ _ =>
    if job.status=.PRINTED then throw (.conflict "Printed jobs cannot be cancelled".toList)
    else pure (.update ⟨warehouseId,some job,none,none⟩ job)
  | .reassign _ dto =>
    if job.status∈[.PRINTED,.PRINTING,.CLAIMED] then
      throw (.conflict ("An already claimed, printing or printed job must be reconciled "++
        "before reassignment").toList)
    else toPrinter env request ⟨warehouseId,some job,normalizeNullableString dto.printerCode,
      normalizeNullableString dto.agentCode⟩
  | .reprint _ dto => toPrinter env request ⟨warehouseId,some job,
      (normalizeNullableString dto.printerCode).or job.printerCode,
      (normalizeNullableString dto.agentCode).or job.agentCode⟩
  | _ => pure (.ended (.ok []))

/-- The assertion of `assertRuntimeAgentCanServePrinter`, once the agent was read. -/
def canServePrinter (agent : PrintAgent) (printerCode : Option Str) : Bool :=
  (nullIfEmpty printerCode).all fun code =>
    let routing := buildPrintAgentRouting
      (readPrinterCodesFromAgentMetadata env agent.printerCodes) [] (some true)
    routing.legacyWarehouseClaim || code∈routing.printerCodes

def createKey (w : Uuid) (t : Target) (dto : CreateRuntimePrintJobDto) (zpl : Str) (actor : ℕ) :
    RequestKey :=
  .print w t.printerCode t.agentCode (normalizeNullableString dto.templateCode)
    (dto.copies.getD 1) (dto.maxAttempts.getD 3) (dto.payload.getD (.object [])).stable zpl actor

def reprintKey (t : Target) (source : PrintJob) (dto : RuntimePrintJobActionDto) (actor : ℕ) :
    RequestKey :=
  .reprint t.warehouseId source.id t.printerCode t.agentCode (dto.copies.getD source.copies)
    (dto.metadata.getD (.object [])).stable actor

/-- A hash is stored only with a key. -/
def createdJob (id now actor : ℕ) (t : Target) (dto : CreateRuntimePrintJobDto) (zpl : Str) :
    PrintJob where
  id := id
  warehouseId := t.warehouseId
  printerCode := nullIfEmpty t.printerCode
  agentCode := nullIfEmpty t.agentCode
  templateCode := normalizeNullableString dto.templateCode
  templateVersion := 1
  status := .QUEUED
  copies := dto.copies.getD 1
  attempts := 0
  maxAttempts := dto.maxAttempts.getD 3
  payload := dto.payload.getD (.object [])
  renderedZpl := zpl
  requestedByUserId := actor
  idempotencyKey := normalizeNullableString dto.idempotencyKey
  requestHash := (normalizeNullableString dto.idempotencyKey).map fun _ =>
    env.hashRequest (createKey t.warehouseId t dto zpl actor)
  errorMessage := none
  claimedAt := none
  claimExpiresAt := none
  printedAt := none
  createdAt := now

def reprintedJob (id now actor : ℕ) (t : Target) (source : PrintJob)
    (dto : RuntimePrintJobActionDto) : PrintJob where
  id := id
  warehouseId := t.warehouseId
  printerCode := nullIfEmpty t.printerCode
  agentCode := nullIfEmpty t.agentCode
  templateCode := nullIfEmpty source.templateCode
  templateVersion := source.templateVersion
  status := .QUEUED
  copies := dto.copies.getD source.copies
  attempts := 0
  maxAttempts := source.maxAttempts
  payload := .object (Json.Fields.spread (source.payload.fields?.getD [])
    [("reprintOfJobId",.string (toString source.id)),
      ("reprintMetadata",dto.metadata.getD (.object []))])
  renderedZpl := source.renderedZpl
  requestedByUserId := actor
  idempotencyKey := normalizeNullableString dto.idempotencyKey
  requestHash := (normalizeNullableString dto.idempotencyKey).map fun _ =>
    env.hashRequest (reprintKey t source dto actor)
  errorMessage := none
  claimedAt := none
  claimExpiresAt := none
  printedAt := none
  createdAt := now

/-- `INSERT … ON CONFLICT (warehouse_id, idempotency_key) DO NOTHING`. -/
def insertJob (db : LabelsDb) (job : PrintJob) : Except LabelsError (LabelsDb × Phase) :=
  match job.idempotencyKey, job.requestHash with
  | some key, some hash =>
    if db.jobByKey job.warehouseId key≠none then
      pure (db,.replay job.warehouseId key hash)
    else if db.jobs.get? job.id≠none then throw .uniqueViolation
    else pure ({db with jobs := db.jobs.insert job},.ended (.ok [job]))
  | _, _ =>
    if db.jobs.get? job.id≠none then throw .uniqueViolation
    else pure ({db with jobs := db.jobs.insert job},.ended (.ok [job]))

end Steps
def PRINT_AGENT_TOKEN_LOCK_SECONDS : ℕ := 15*60

def PRINT_AGENT_TOKEN_FAILURE_LOCK_THRESHOLD : ℕ := 5

def isPrintAgentAuthLocked (lockedUntil : Option ℕ) (now : ℕ) : Bool := lockedUntil.any (now < ·)

section Advance
variable (env : Env) (now generated : ℕ) (db : LabelsDb)

def readActionReason (metadata : Option Json) : Option Str :=
  ((metadata.bind Json.fields?).bind fun fs => (fs.get? "reason").bind jsonString?).bind fun reason =>
    normalizeNullableString (some reason)

/-- `validateAgentToken`, once the agent was read; a wrong token is counted. -/
def checkAgent (agent : Option PrintAgent) (token : Str) : Except LabelsError Phase :=
  match agent with
  | none => throw (.unauthorized "Print agent is not registered")
  | some a =>
    if a.status=.DISABLED then throw (.forbidden "Print agent is disabled")
    else if isPrintAgentAuthLocked a.authLockedUntil now then
      throw (.forbidden "Print agent is temporarily locked after repeated token failures")
    else if a.tokenHash≠env.hashToken token then pure (.tokenFailure a)
    else if 0 < a.authFailedCount ∨ a.authLockedUntil≠none ∨ a.tokenLastFailedAt≠none then
      pure (.clearTokenFailures a)
    else pure (.heartbeat a)

def failedToken (a : PrintAgent) : PrintAgent :=
  {a with
    authFailedCount := a.authFailedCount+1
    tokenLastFailedAt := some now
    authLockedUntil := if PRINT_AGENT_TOKEN_FAILURE_LOCK_THRESHOLD≤a.authFailedCount+1 then
      some (now+PRINT_AGENT_TOKEN_LOCK_SECONDS) else a.authLockedUntil}

def tokenError (a : Option PrintAgent) : LabelsError :=
  match a with
  | none => .unauthorized "Print agent is not registered"
  | some a =>
    if isPrintAgentAuthLocked a.authLockedUntil now then
      .forbidden "Print agent is temporarily locked after repeated token failures"
    else .unauthorized "Print agent token is invalid"

def routingOf (agent : PrintAgent) (dto : ClaimPrintJobDto) : PrintAgentRouting :=
  buildPrintAgentRouting (readPrinterCodesFromAgentMetadata env agent.printerCodes)
    (normalizePrinterCodes env (dto.printerCodes.getD [])) dto.acceptUnassignedJobs

/-- The oldest of the jobs that the agent may claim. -/
def selectJobs (agent : PrintAgent) (dto : ClaimPrintJobDto) : List PrintJob :=
  (((db.jobs.rows.filter fun j => j.selected agent.warehouseId agent.code (routingOf env agent dto)
    now).insertionSort fun a b => a.createdAt≤b.createdAt).take (dto.limit.getD 1))

def claimOne (agent : PrintAgent) (id : ℕ) : LabelsDb × List PrintJob :=
  match (db.jobs.get? id).filter fun j => j.claimable agent.warehouseId agent.code now with
  | none => (db,[])
  | some j => (db.updateJob agent.warehouseId id (PrintJob.claimed agent.code now) fun _ => rfl,
      [j.claimed agent.code now])

def afterUpdate (db : LabelsDb) (t : Target) (read : PrintJob) (message : String) :
    Except LabelsError (LabelsDb × Phase) :=
  match db.jobOf t.warehouseId read.id with
  | none => throw (.notFound message.toList)
  | some j => pure (db,.ended (.ok [j]))

/-- One statement of a call: what it leaves and what comes next, or the error that ends the call. -/
def advance (c : Call) : Except LabelsError (LabelsDb × Phase) :=
  match c.phase, c.request with
  | .warehouse, request => do
    let warehouse ← (env.runtime.resolveWarehouse db.places c.warehouseReference).mapError .service
    let next ← afterWarehouse env request warehouse.id
    pure (db,next)
  | .job w, request => do
    let job ← db.resolveRuntimePrintJobRow w (request.jobId.getD 0)
    let next ← afterJob env request w job
    pure (db,next)
  | .printer t, request =>
    match t.printerCode with
    | some code =>
      if db.printers.any fun p => p.warehouseId=t.warehouseId && p.code=code then do
        let next ← toAgent env request t
        pure (db,next)
      else throw (.notFound ("Printer ".toList++code++" was not found".toList))
    | none => throw (.notFound [])
  | .agent t, request =>
    match t.agentCode with
    | some code =>
      match db.agentOf t.warehouseId code with
      | none => throw (.notFound ("Print agent ".toList++code++" was not found".toList))
      | some agent =>
        if canServePrinter env agent t.printerCode then do
          let next ← toWrite env request t
          pure (db,next)
        else throw (.conflict ("Print agent ".toList++code++" is not assigned to printer ".toList++
          t.printerCode.getD []))
    | none => throw (.notFound [])
  | .layout t templateCode, .create dto =>
    match ((db.layouts.filter fun l => l.warehouseId=t.warehouseId && l.templateCode=templateCode &&
        l.isActive).insertionSort fun a b => b.version≤a.version).head? with
    | some row => do
      let zpl ← renderLayout env (env.normalizeLabelLayout row.layout) dto
      pure (db,.insert t zpl)
    | none => pure (db,.template t templateCode)
  | .template t templateCode, .create dto =>
    match db.templates.find? fun x => x.warehouseId=t.warehouseId && OrderUpdates.Runtime.referenceWhere
        (normalizeCode env templateCode) templateCode x.id x.code with
    | none => throw (.notFound "Label template was not found".toList)
    | some template =>
      if !template.isActive then throw (.conflict "Label template is inactive".toList)
      else if ['^','X','A'].isPrefixOf (trim template.content) then do
        let zpl ← ensureQueueableZpl env (env.renderContentTemplate template.content
          (dto.payload.getD (.object []))) []
        pure (db,.insert t zpl)
      else do
        let zpl ← renderLayout env env.defaultLabelLayout dto
        pure (db,.insert t zpl)
  | .insert t zpl, .create dto => insertJob db (createdJob env generated now c.actorUserId t dto zpl)
  | .insertReprint t source, .reprint _ dto =>
    insertJob db (reprintedJob env generated now c.actorUserId t source dto)
  | .replay w key hash, _ =>
    match db.jobByKey w key with
    | none => throw (.notFound "Print job was not created".toList)
    | some existing =>
      if existing.requestHash≠some hash then throw (.conflict
        "Idempotency key was reused with a different runtime print request".toList)
      else pure (db,.ended (.ok [existing]))
  | .update t read, .retry _ _ =>
    afterUpdate (db.updateJob t.warehouseId read.id (PrintJob.requeued t.printerCode t.agentCode) fun _ => rfl) t
      read "Print job retry was not stored"
  | .update t read, .cancel _ metadata =>
    afterUpdate (db.updateJob t.warehouseId read.id (PrintJob.cancelled
      ((readActionReason metadata).getD "Cancelled from print console".toList)) fun _ => rfl) t read
      "Print job cancellation was not stored"
  | .update t read, .reassign _ _ =>
    match (db.jobOf t.warehouseId read.id).filter
        fun j => j.status∉[.CLAIMED,.PRINTING,.PRINTED] with
    | none => throw (.conflict "Print job changed state while being reassigned".toList)
    | some j => pure (db.updateJob t.warehouseId read.id (PrintJob.requeued t.printerCode t.agentCode)
        fun _ => rfl,.ended (.ok [j.requeued t.printerCode t.agentCode]))
  | .token w, .claim dto => do
    let next ← checkAgent env now (db.agentOf w (normalizeCode env dto.agentCode)) dto.token
    pure (db,next)
  | .token w, .report _ dto => do
    let next ← checkAgent env now (db.agentOf w (normalizeCode env dto.agentCode)) dto.token
    pure (db,next)
  | .tokenFailure agent, _ =>
    let db' := db.mapAgent agent (failedToken now)
    pure (db',.ended (.error (tokenError now (db'.agentOf agent.warehouseId agent.code))))
  | .clearTokenFailures agent, _ =>
    pure (db.mapAgent agent fun a => {a with
      authFailedCount := 0, authLockedUntil := none, tokenLastFailedAt := none},.heartbeat agent)
  | .heartbeat agent, .claim _ =>
    pure (db.mapAgent agent fun a => {a with status := .ONLINE},.select agent)
  | .heartbeat agent, _ =>
    pure (db.mapAgent agent fun a => {a with status := .ONLINE},.current agent)
  | .select agent, .claim dto =>
    pure (db,.claim agent ((selectJobs env now db agent dto).map (·.id)) [])
  | .claim _ [] claimed, _ => pure (db,.ended (.ok claimed))
  | .claim agent (id::ids) claimed, _ =>
    let (db',row) := claimOne now db agent id
    pure (db',.claim agent ids (claimed++row))
  | .current agent, .report jobId dto => do
    let job ← db.resolveRuntimePrintJobRow agent.warehouseId jobId
    if job.agentCode≠some agent.code then
      throw (.forbidden "Print job is claimed by another agent")
    else if !isPrintAgentStatusTransitionAllowed job.status dto.status then
      throw (.conflict ("Print job cannot transition from ".toList++job.status.name++
        " to ".toList++dto.status.toStatus.name))
    else if job.status=dto.status.toStatus ∧ job.status∈[.PRINTED,.FAILED,.CANCELLED] then
      pure (db,.ended (.ok [job]))
    else pure (db,.result agent job)
  | .result agent read, .report jobId dto =>
    match (db.jobOf agent.warehouseId jobId).filter
        fun j => j.status=read.status && j.agentCode=some agent.code with
    | none => pure (db,.latest agent)
    | some j => pure (db.updateJob agent.warehouseId jobId (PrintJob.reported dto now) fun _ => rfl,
        .ended (.ok [j.reported dto now]))
  | .latest agent, .report jobId dto => do
    let latest ← db.resolveRuntimePrintJobRow agent.warehouseId jobId
    if latest.agentCode=some agent.code ∧ latest.status=dto.status.toStatus then
      pure (db,.ended (.ok [latest]))
    else throw (.conflict "Print job changed while the result was being reported".toList)
  | phase, _ => pure (db,phase)

end Advance

structure System where
  db : LabelsDb
  now : ℕ
  call : ℕ → Option Call

inductive Action
  | start (i : ℕ) (warehouseReference : Str) (actorUserId : ℕ) (request : Request)
  | advance (i : ℕ) (generated : ℕ)
  | tick (seconds : ℕ)
  | upsertPrinter (warehouseId : Uuid) (code : Str)
  | upsertPrintAgent (warehouseId : Uuid) (code token : Str) (printerCodes : Option (List Str))
      (metadata : Option Json)
  | labels (templates : List LabelTemplate) (layouts : List LabelTemplateVersion)

section Upserts
variable (env : Env) (db : LabelsDb)

/-- `ON CONFLICT (warehouse_id, code) DO UPDATE`, which leaves the code. -/
def upsertPrinter (warehouseId : Uuid) (code : Str) : LabelsDb :=
  if db.printers.any fun p => p.warehouseId=warehouseId && p.code=normalizeCode env code then db
  else {db with printers := db.printers++[⟨warehouseId,normalizeCode env code⟩]}

/-- `withConfiguredPrinterCodes`, as far as the codes go. -/
def withConfiguredPrinterCodes (metadata : Option Json) (printerCodes : Option (List Str)) : Json :=
  match printerCodes with
  | some codes => .array ((normalizePrinterCodes env codes).map fun c => .string (String.ofList c))
  | none => (((metadata.bind Json.fields?).bind fun fs => fs.get? "printerCodes")).getD .null

def upsertPrintAgent (warehouseId : Uuid) (code token : Str) (printerCodes : Option (List Str))
    (metadata : Option Json) : LabelsDb :=
  let agent : PrintAgent := ⟨warehouseId,normalizeCode env code,env.hashToken token,.OFFLINE,
    withConfiguredPrinterCodes env metadata printerCodes,0,none,none⟩
  if db.agentOf warehouseId agent.code=none then {db with agents := db.agents++[agent]}
  else db.mapAgent agent fun a => {agent with status := a.status}

end Upserts

namespace System

def initial (places : OrderUpdates.Places) : System := ⟨⟨places,[],[],[],[],.empty⟩,0,fun _ => none⟩

def put (s : System) (db : LabelsDb) (i : ℕ) (c : Call) : System :=
  ⟨db,s.now,Function.update s.call i (some c)⟩

def act (env : Env) (s : System) : Action → System
  | .start i warehouseReference actorUserId request =>
    match s.call i with
    | some _ => s
    | none => s.put s.db i ⟨warehouseReference,actorUserId,request,.warehouse⟩
  | .advance i generated =>
    match s.call i with
    | none => s
    | some c =>
      match PrintJobs.advance env s.now generated s.db c with
      | .error e => s.put s.db i {c with phase := .ended (.error e)}
      | .ok (db,phase) => s.put db i {c with phase}
  | .tick seconds => {s with now := s.now+seconds}
  | .upsertPrinter warehouseId code => {s with db := upsertPrinter env s.db warehouseId code}
  | .upsertPrintAgent warehouseId code token printerCodes metadata =>
    {s with db := upsertPrintAgent env s.db warehouseId code token printerCodes metadata}
  | .labels templates layouts => {s with db := {s.db with templates, layouts}}

def run (env : Env) (s : System) (as : List Action) : System := as.foldl (act env) s

end System
end AardvarkWms.PrintJobs
