import AardvarkWms.RefreshTokens
import AardvarkWms.Staging
import Mathlib.Algebra.Ring.Nat

/-! Retention cleanup, and what a shipment or a refresh token comes to after it:
`src/reliability/retention-cleanup.service.ts`. -/
namespace AardvarkWms.Retention

open Messaging (Str)
open RefreshTokens (AuthDb RefreshTokenSession Drawn)
open Staging (ShippingDb CarrierLabel)
open Relational

inductive RetainedTable
  | rate_limit_buckets | auth_login_attempts | refresh_token_sessions | idempotency_records
  | outbox_events | inbox_events | label_print_jobs | wms_print_jobs | carrier_labels
  | integration_dispatch_logs | integration_dead_letters | audit_logs | wms_queue_worker_heartbeats
  deriving DecidableEq

inductive TimeColumn
  | reset_at | locked_until | updated_at | expires_at | sent_at | processed_at | printed_at
  | created_at | resolved_at | replayed_at | last_seen_at
  deriving DecidableEq

inductive DaysKey
  | AUDIT_LOG | AUTH_LOGIN_ATTEMPT | RATE_LIMIT_BUCKET | REFRESH_SESSION | IDEMPOTENCY | OUTBOX_SENT
  | INBOX_TERMINAL | PRINT_JOB | INTEGRATION_LOG | INTEGRATION_DEAD_LETTER

/-- What the cleanup reads of a row, under the column that it is deleted by; `none` is `NULL`. -/
structure Row where
  id : ℕ
  status : String
  time : TimeColumn → Option ℕ

/-- `condition AND COALESCE(aged) < $1`, and the oldest first. -/
structure RetentionPolicy where
  key : String
  table : RetainedTable
  description : String
  daysKey : DaysKey
  condition : ℕ → Row → Bool := fun _ _ => true
  aged : List TimeColumn
  optionalTable : Bool := false

def coalesce (columns : List TimeColumn) (row : Row) : Option ℕ := columns.findSome? row.time

def isIn (statuses : List String) : ℕ → Row → Bool := fun _ row => row.status∈statuses

def refreshTokenSessionsPolicy : RetentionPolicy where
  key := "refresh-token-sessions"
  table := .refresh_token_sessions
  description := "Expired, rotated, revoked, or compromised refresh sessions."
  daysKey := .REFRESH_SESSION
  condition := fun now row => row.status≠"ACTIVE" || (row.time .expires_at).any (· < now)
  aged := [.updated_at]

def carrierLabelsPolicy : RetentionPolicy where
  key := "carrier-labels"
  table := .carrier_labels
  description := "Printed or cancelled carrier labels."
  daysKey := .PRINT_JOB
  condition := isIn ["PRINTED","CANCELLED"]
  aged := [.printed_at,.updated_at]

def buildPolicies : List RetentionPolicy :=
  [{key := "rate-limit-buckets"
    table := .rate_limit_buckets
    description := "Expired distributed rate-limit buckets."
    daysKey := .RATE_LIMIT_BUCKET
    aged := [.reset_at]},
   {key := "auth-login-attempts"
    table := .auth_login_attempts
    description := "Old unlocked login-backoff attempt records."
    daysKey := .AUTH_LOGIN_ATTEMPT
    condition := fun now row => (row.time .locked_until).all (· < now)
    aged := [.updated_at]},
   refreshTokenSessionsPolicy,
   {key := "idempotency-records"
    table := .idempotency_records
    description := "Completed or failed idempotency records past replay window."
    daysKey := .IDEMPOTENCY
    condition := isIn ["COMPLETED","FAILED"]
    aged := [.updated_at]},
   {key := "outbox-sent-events"
    table := .outbox_events
    description := "Sent outbox events retained after successful dispatch."
    daysKey := .OUTBOX_SENT
    condition := isIn ["SENT"]
    aged := [.sent_at,.updated_at]},
   {key := "inbox-terminal-events"
    table := .inbox_events
    description := "Processed, duplicate, or ignored inbound events."
    daysKey := .INBOX_TERMINAL
    condition := isIn ["PROCESSED","DUPLICATE","IGNORED"]
    aged := [.processed_at,.updated_at]},
   {key := "label-print-jobs"
    table := .label_print_jobs
    description := "Printed or cancelled label jobs."
    daysKey := .PRINT_JOB
    condition := isIn ["PRINTED","CANCELLED"]
    aged := [.printed_at,.updated_at]},
   {key := "runtime-print-jobs"
    table := .wms_print_jobs
    description := "Terminal runtime print-agent jobs."
    daysKey := .PRINT_JOB
    condition := isIn ["PRINTED","CANCELLED"]
    aged := [.printed_at,.updated_at]
    optionalTable := true},
   carrierLabelsPolicy,
   {key := "integration-dispatch-logs"
    table := .integration_dispatch_logs
    description := "Old integration dispatch log rows."
    daysKey := .INTEGRATION_LOG
    aged := [.created_at]},
   {key := "integration-dead-letters"
    table := .integration_dead_letters
    description := "Resolved, ignored, or replayed integration dead letters."
    daysKey := .INTEGRATION_DEAD_LETTER
    condition := isIn ["RESOLVED","IGNORED","REPLAYED"]
    aged := [.resolved_at,.replayed_at,.updated_at]},
   {key := "audit-logs"
    table := .audit_logs
    description := "Audit log rows older than the configured audit retention."
    daysKey := .AUDIT_LOG
    aged := [.created_at]},
   {key := "queue-worker-heartbeats"
    table := .wms_queue_worker_heartbeats
    description := "Old queue worker heartbeat records for retired worker ids."
    daysKey := .RATE_LIMIT_BUCKET
    aged := [.last_seen_at]
    optionalTable := true}]

structure LabelTimes where
  printedAt : Option ℕ
  updatedAt : ℕ

/-- The tables of shipping and of the tokens, with the times that only the cleanup reads, and the
others that it cleans up; a token's hash is unique. -/
structure Db where
  shipping : ShippingDb
  labelTimes : ℕ → LabelTimes
  auth : AuthDb
  sessionUpdatedAt : ℕ → ℕ
  others : RetainedTable → List Row
  hasTable : RetainedTable → Bool
  uniqueHash : (auth.sessions.rows.map (·.tokenHash)).Nodup

def labelStatus : Staging.CarrierLabelStatus → String
  | .QUEUED => "QUEUED"
  | .GENERATED => "GENERATED"
  | .PRINTED => "PRINTED"
  | .FAILED => "FAILED"
  | .CANCELLED => "CANCELLED"

def sessionStatus : RefreshTokens.RefreshTokenSessionStatus → String
  | .ACTIVE => "ACTIVE"
  | .ROTATED => "ROTATED"
  | .REVOKED => "REVOKED"
  | .EXPIRED => "EXPIRED"
  | .COMPROMISED => "COMPROMISED"

def Db.labelRow (db : Db) (label : CarrierLabel) : Row where
  id := label.id
  status := labelStatus label.status
  time
    | .printed_at => (db.labelTimes label.id).printedAt
    | .updated_at => some (db.labelTimes label.id).updatedAt
    | _ => none

def Db.sessionRow (db : Db) (session : RefreshTokenSession) : Row where
  id := session.id
  status := sessionStatus session.status
  time
    | .expires_at => some session.expiresAt
    | .updated_at => some (db.sessionUpdatedAt session.id)
    | _ => none

def Db.rows (db : Db) : RetainedTable → List Row
  | .carrier_labels => db.shipping.labels.map db.labelRow
  | .refresh_token_sessions => db.auth.sessions.rows.map db.sessionRow
  | table => db.others table

/-- A session whose successor is gone names none any more. -/
def forget (ids : List ℕ) (session : RefreshTokenSession) : RefreshTokenSession :=
  {session with replacedBySessionId := session.replacedBySessionId.filter (·∉ids)}

def remaining (ids : List ℕ) (sessions : List RefreshTokenSession) : List RefreshTokenSession :=
  (sessions.filter (·.id∉ids)).map (forget ids)

theorem remaining_map {α : Type} (ids : List ℕ) (sessions : List RefreshTokenSession)
    {column : RefreshTokenSession → α} (hcolumn : ∀ s, column (forget ids s)=column s) :
    (remaining ids sessions).map column=(sessions.filter (·.id∉ids)).map column := by
  rw [remaining,List.map_map]
  exact List.map_congr_left fun s _ => hcolumn s

theorem nodup_remaining {α : Type} {ids : List ℕ} {sessions : List RefreshTokenSession}
    {column : RefreshTokenSession → α} (hcolumn : ∀ s, column (forget ids s)=column s)
    (h : (sessions.map column).Nodup) : ((remaining ids sessions).map column).Nodup := by
  rw [remaining_map ids sessions hcolumn]
  exact h.sublist (List.filter_sublist.map column)

def Db.deleteLabels (db : Db) (ids : List ℕ) : Db :=
  {db with shipping := {db.shipping with labels := db.shipping.labels.filter (·.id∉ids)}}

def Db.deleteSessions (db : Db) (ids : List ℕ) : Db :=
  {db with
    auth := {db.auth with sessions := ⟨remaining ids db.auth.sessions.rows,
      nodup_remaining (fun _ => rfl) db.auth.sessions.nodup⟩}
    uniqueHash := nodup_remaining (fun _ => rfl) db.uniqueHash}

def Db.delete (db : Db) (ids : List ℕ) : RetainedTable → Db
  | .carrier_labels => db.deleteLabels ids
  | .refresh_token_sessions => db.deleteSessions ids
  | table => {db with others := fun other =>
      if other=table then (db.others table).filter (·.id∉ids) else db.others other}

section Cleanup

/-- `RETENTION_CLEANUP_ENABLED`, `RETENTION_CLEANUP_BATCH_SIZE` and the periods in days. -/
structure Config where
  enabled : Bool
  batchSize : ℕ
  days : DaysKey → ℕ

/-- A batch size that is given, `none` one that is not an integer. -/
structure RunRetentionCleanupInput where
  dryRun : Option Bool := none
  batchSize : Option (Option ℤ) := none

structure RetentionCleanupItem where
  key : String
  table : RetainedTable
  description : String
  retentionDays : ℕ
  cutoff : ℕ
  eligibleCount : ℕ
  deletedCount : ℕ
  skipReason : Option String := none

structure RetentionCleanupResult where
  dryRun : Bool
  enabled : Bool
  batchSize : ℕ
  totalEligible : ℕ
  totalDeleted : ℕ
  items : List RetentionCleanupItem

def normalizeBatchSize (value : Option (Option ℤ)) (fallback : ℕ) : ℕ :=
  match value.getD (some fallback) with
  | none => fallback
  | some parsed => (max 10 (min 10000 parsed)).toNat

def daysAgo (now days : ℕ) : ℕ := now-days*24*60*60*1000

variable (config : Config) (now : ℕ)

def RetentionPolicy.cutoff (policy : RetentionPolicy) : ℕ := daysAgo now (config.days policy.daysKey)

def RetentionPolicy.eligible (policy : RetentionPolicy) (row : Row) : Bool :=
  policy.condition now row && (coalesce policy.aged row).any (· < policy.cutoff config now)

/-- The rows that a batch takes, by their ids. -/
def RetentionPolicy.candidates (policy : RetentionPolicy) (batchSize : ℕ) (rows : List Row) :
    List ℕ :=
  ((((rows.filter (policy.eligible config now)).insertionSort fun a b =>
    (coalesce policy.aged a).getD 0≤(coalesce policy.aged b).getD 0)).take batchSize).map (·.id)

def evaluatePolicy (dryRun : Bool) (batchSize : ℕ) (db : Db) (policy : RetentionPolicy) :
    RetentionCleanupItem × Db :=
  let item : RetentionCleanupItem := {
    key := policy.key
    table := policy.table
    description := policy.description
    retentionDays := config.days policy.daysKey
    cutoff := policy.cutoff config now
    eligibleCount := 0
    deletedCount := 0}
  if policy.optionalTable && !db.hasTable policy.table then
    ({item with skipReason := "Table is not present in this installation."},db)
  else
    let rows := db.rows policy.table
    let eligibleCount := rows.countP (policy.eligible config now)
    if dryRun || eligibleCount=0 then ({item with eligibleCount := eligibleCount},db)
    else
      let ids := policy.candidates config now batchSize rows
      let deleted := db.delete ids policy.table
      ({item with
        eligibleCount := eligibleCount
        deletedCount := rows.length-(deleted.rows policy.table).length},deleted)

/-- The policies, one after the other. -/
def evaluatePolicies (dryRun : Bool) (batchSize : ℕ) : List RetentionPolicy → Db →
    List RetentionCleanupItem × Db
  | [], db => ([],db)
  | policy::policies, db =>
    let next := evaluatePolicy config now dryRun batchSize db policy
    let rest := evaluatePolicies dryRun batchSize policies next.2
    (next.1::rest.1,rest.2)

def runCleanup (input : RunRetentionCleanupInput) (db : Db) : RetentionCleanupResult × Db :=
  let dryRun := input.dryRun.getD true
  let batchSize := normalizeBatchSize input.batchSize config.batchSize
  let done := evaluatePolicies config now dryRun batchSize buildPolicies db
  ({dryRun := dryRun
    enabled := config.enabled
    batchSize := batchSize
    totalEligible := (done.1.map (·.eligibleCount)).sum
    totalDeleted := (done.1.map (·.deletedCount)).sum
    items := done.1},done.2)

end Cleanup

/-- An operation after the cleanup: a shipment is shipped, or a token refreshed. -/
inductive Operation
  | shipShipment (warehouse shipment : Text) (dto : Staging.ShipShipmentDto)
  | refresh (refreshToken : Str) (drawn : Drawn)

/-- The sessions that are active and not expired, with their families. -/
def live (now : ℕ) (sessions : List RefreshTokenSession) : List (ℕ × ℕ) :=
  (sessions.filter fun s => s.status=.ACTIVE && now < s.expiresAt).map fun s => (s.id,s.familyId)

/-- What comes of it: the tables and the packages' states, where the shipment is shipped; whether
the token is accepted, the sessions that are revoked and those that stay. -/
inductive Outcome
  | shipped (result : Option (WmsDb × (ℕ → Staging.ShipmentPackageStatus)))
  | refreshed (accepted : Bool) (revoked stays : List (ℕ × ℕ))

/-- The one call in an otherwise idle system, through the statements of its transaction. -/
def refreshed (env : RefreshTokens.Env) (now : ℕ) (auth : AuthDb) (refreshToken : Str)
    (drawn : Drawn) : RefreshTokens.System :=
  RefreshTokens.System.run env ⟨auth,fun _ => none,fun _ => none⟩
    [.start 0 (.refresh refreshToken) drawn,.advance 0 now,.advance 0 now,.advance 0 now,
     .advance 0 now,.advance 0 now,.advance 0 now]

def isAccepted : Option RefreshTokens.Call → Bool
  | some ⟨_,_,.ended (.ok (.refreshed (.rotated _ _))),_⟩ => true
  | _ => false

def perform (env : RefreshTokens.Env) (now : ℕ) (db : Db) : Operation → Outcome
  | .shipShipment warehouse shipment dto => .shipped
      ((db.shipping.shipShipment warehouse shipment dto).toOption.map fun d =>
        (d.tables,d.packageStatus))
  | .refresh refreshToken drawn =>
    let before := live now db.auth.sessions.rows
    let done := refreshed env now db.auth refreshToken drawn
    let stays := live now done.db.sessions.rows
    .refreshed (isAccepted (done.call 0)) (before.filter (·∉stays)) stays

section Refreshing
open RefreshTokens (System Phase Write Answer successor)
variable {env : RefreshTokens.Env} {now : ℕ} {auth : AuthDb} {token : Str} {drawn : Drawn}
  {x : RefreshTokenSession} {s : System} {phase phase' : Phase} {ws ws' : List Write}

/-- The call is at this statement; nothing is committed yet, and only the call holds rows. -/
structure At (s : System) (auth : AuthDb) (token : Str) (drawn : Drawn) (phase : Phase)
    (ws : List Write) : Prop where
  db : s.db=auth
  call : s.call 0=some ⟨.refresh token,drawn,phase,ws⟩
  locks : ∀ u i, s.rowLock u=some i → i=0

/-- The call has ended. -/
structure Ended (s : System) (auth : AuthDb) (token : Str) (drawn : Drawn) (answer : Answer) :
    Prop where
  db : s.db=auth
  call : s.call 0=some ⟨.refresh token,drawn,.ended (.ok answer),[]⟩

theorem At.advance (h : At s auth token drawn phase ws) (hended : ∀ r, phase≠.ended r)
    (hcommit : ∀ a, phase≠.commit a)
    (hstep : RefreshTokens.advance env now (auth.under ws) ⟨.refresh token,drawn,phase,ws⟩=
      .ok (phase',ws')) :
    At (s.act env (.advance 0 now)) auth token drawn phase' (ws++ws') := by
  have hwaits : s.waits 0 phase=false := by
    unfold System.waits
    cases hlocks : phase.locks with
    | none => rfl
    | some u =>
      cases hlock : s.rowLock u with
      | none => simp [hlock]
      | some i => simp [hlock,h.locks u i hlock]
  have hact : s.act env (.advance 0 now)=⟨s.db,s.lock 0 phase,
      Function.update s.call 0 (some ⟨.refresh token,drawn,phase',ws++ws'⟩)⟩ := by
    unfold System.act
    dsimp only
    rw [h.call]
    unfold System.advance
    cases phase with
    | ended r => exact absurd rfl (hended r)
    | commit a => exact absurd rfl (hcommit a)
    | _ =>
      simp only [hwaits,h.db,hstep]
      rfl
  rw [hact]
  refine ⟨h.db,by simp,?_⟩
  intro u i hi
  unfold System.lock at hi
  cases hlocks : phase.locks with
  | none =>
    rw [hlocks] at hi
    exact h.locks u i hi
  | some v =>
    rw [hlocks] at hi
    have hi : Function.update s.rowLock v (some 0) u=some i := hi
    by_cases huv : u=v
    · subst huv
      simpa using hi.symm
    · rw [Function.update_of_ne huv] at hi
      exact h.locks u i hi

theorem At.commit {answer : Answer} (h : At s auth token drawn (.commit answer) ws)
    (env : RefreshTokens.Env) (now : ℕ) (hpublishes : auth.publishes ws=true) :
    Ended (s.act env (.advance 0 now)) (auth.under ws) token drawn answer := by
  have hact : s.act env (.advance 0 now)=
      s.finish 0 ⟨.refresh token,drawn,.commit answer,ws⟩ (auth.under ws) (.ok answer) := by
    unfold System.act
    dsimp only
    rw [h.call]
    unfold System.advance
    dsimp only
    rw [h.db,if_pos hpublishes]
  rw [hact]
  exact ⟨rfl,by simp [System.finish]⟩

theorem Ended.act {answer : Answer} (h : Ended s auth token drawn answer) :
    s.act env (.advance 0 now)=s := by
  unfold System.act
  dsimp only
  rw [h.call]
  rfl

theorem at_start (env : RefreshTokens.Env) (auth : AuthDb) (token : Str) (drawn : Drawn) :
    At (System.act env ⟨auth,fun _ => none,fun _ => none⟩ (.start 0 (.refresh token) drawn)) auth token
      drawn .owner [] := by
  refine ⟨rfl,?_,?_⟩
  · simp [System.act,RefreshTokens.Request.first]
  · intro u i hi
    exact absurd hi (by simp [System.act])

/-- Where the user of the session may refresh. -/
def ActiveUser (auth : AuthDb) (x : RefreshTokenSession) : Prop :=
  (auth.users.get? x.userId).any (fun u => u.status=.ACTIVE)=true

theorem Ended.run {answer : Answer} (h : Ended s auth token drawn answer)
    (env : RefreshTokens.Env) (now n : ℕ) :
    Ended (s.run env (List.replicate n (.advance 0 now))) auth token drawn answer := by
  induction n generalizing s with
  | zero => exact h
  | succ n ih =>
    have hact : s.act env (.advance 0 now)=s := h.act
    have hnext : Ended (s.act env (.advance 0 now)) auth token drawn answer := by rwa [hact]
    exact ih hnext

theorem advance_owner (env : RefreshTokens.Env) (now : ℕ) (drawn : Drawn)
    (hx : auth.sessionOf (env.hashRefreshToken token)=some x) :
    RefreshTokens.advance env now (auth.under []) ⟨.refresh token,drawn,.owner,[]⟩=
      .ok (.user x.userId,[]) := by
  have hunder : auth.under []=auth := rfl
  unfold RefreshTokens.advance
  simp only [hunder,hx]
  rfl

theorem refreshed_unknown (h : auth.sessionOf (env.hashRefreshToken token)=none) :
    Ended (refreshed env now auth token drawn) auth token drawn (.refreshed .unknownToken) := by
  have hstep : RefreshTokens.advance env now (auth.under []) ⟨.refresh token,drawn,.owner,[]⟩=
      .ok (.commit (.refreshed .unknownToken),[]) := by
    have hunder : auth.under []=auth := rfl
    unfold RefreshTokens.advance
    simp only [hunder,h]
    rfl
  have hread := (at_start env auth token drawn).advance (by simp) (by simp) hstep
  have hend : Ended _ (auth.under []) token drawn _ := hread.commit env now rfl
  exact hend.run env now 4

theorem refreshed_inactive (hx : auth.sessionOf (env.hashRefreshToken token)=some x)
    (huser : ¬ActiveUser auth x) :
    Ended (refreshed env now auth token drawn) auth token drawn (.refreshed .inactiveUser) := by
  have hread := (at_start env auth token drawn).advance (by simp) (by simp)
    (advance_owner env now drawn hx)
  have hstep : RefreshTokens.advance env now (auth.under [])
      ⟨.refresh token,drawn,.user x.userId,[]⟩=.ok (.commit (.refreshed .inactiveUser),[]) := by
    have hunder : auth.under []=auth := rfl
    unfold RefreshTokens.advance
    unfold ActiveUser at huser
    simp only [hunder]
    rw [if_neg huser]
    rfl
  have huser := hread.advance (by simp) (by simp) hstep
  have hend : Ended _ (auth.under []) token drawn _ := huser.commit env now rfl
  exact hend.run env now 3

theorem at_session (now : ℕ) (drawn : Drawn)
    (hx : auth.sessionOf (env.hashRefreshToken token)=some x) (huser : ActiveUser auth x) :
    At (((System.act env ⟨auth,fun _ => none,fun _ => none⟩
      (.start 0 (.refresh token) drawn)).act env (.advance 0 now)).act env (.advance 0 now))
      auth token drawn .session [] := by
  have hread := (at_start env auth token drawn).advance (by simp) (by simp)
    (advance_owner env now drawn hx)
  have hstep : RefreshTokens.advance env now (auth.under [])
      ⟨.refresh token,drawn,.user x.userId,[]⟩=.ok (.session,[]) := by
    have hunder : auth.under []=auth := rfl
    unfold RefreshTokens.advance
    unfold ActiveUser at huser
    simp only [hunder]
    rw [if_pos huser]
    rfl
  exact hread.advance (by simp) (by simp) hstep

/-- What `compromise` writes. -/
def compromised (auth : AuthDb) (x : RefreshTokenSession) : Write :=
  .setStatus ((auth.sessions.rows.filter fun r => r.familyId=x.familyId).map (·.id)) .COMPROMISED

theorem refreshed_reused (hx : auth.sessionOf (env.hashRefreshToken token)=some x)
    (huser : ActiveUser auth x) (hspent : x.status≠.ACTIVE ∨ x.expiresAt≤now) :
    Ended (refreshed env now auth token drawn) (auth.under [compromised auth x]) token drawn
      (.refreshed (.reuseDetected x)) := by
  have hunder : auth.under []=auth := rfl
  have hstep : RefreshTokens.advance env now (auth.under [])
      ⟨.refresh token,drawn,.session,[]⟩=.ok (.compromise x,[]) := by
    unfold RefreshTokens.advance
    simp only [hunder,hx]
    rw [if_pos hspent]
    rfl
  have hfound := (at_session now drawn hx huser).advance (by simp) (by simp) hstep
  have hstep' : RefreshTokens.advance env now (auth.under [])
      ⟨.refresh token,drawn,.compromise x,[]⟩=
        .ok (.commit (.refreshed (.reuseDetected x)),[compromised auth x]) := by
    unfold RefreshTokens.advance
    simp only [hunder]
    rfl
  have hwritten := hfound.advance (by simp) (by simp) hstep'
  exact (hwritten.commit env now rfl).run env now 1

theorem refreshed_rotated (hx : auth.sessionOf (env.hashRefreshToken token)=some x)
    (huser : ActiveUser auth x) (hopen : ¬(x.status≠.ACTIVE ∨ x.expiresAt≤now))
    (hfresh : auth.admits (successor env drawn x)=true) :
    Ended (refreshed env now auth token drawn)
      (auth.under [.insertSession (successor env drawn x),.rotated x.id drawn.sessionId]) token drawn
      (.refreshed (.rotated x drawn.sessionId)) := by
  have hunder : auth.under []=auth := rfl
  have hstep : RefreshTokens.advance env now (auth.under [])
      ⟨.refresh token,drawn,.session,[]⟩=.ok (.insert x,[]) := by
    unfold RefreshTokens.advance
    simp only [hunder,hx]
    rw [if_neg hopen]
    rfl
  have hfound := (at_session now drawn hx huser).advance (by simp) (by simp) hstep
  have hstep' : RefreshTokens.advance env now (auth.under []) ⟨.refresh token,drawn,.insert x,[]⟩=
      .ok (.rotate x drawn.sessionId,[.insertSession (successor env drawn x)]) := by
    unfold RefreshTokens.advance
    simp only [hunder]
    rw [if_pos hfresh]
    rfl
  have hinserted := hfound.advance (by simp) (by simp) hstep'
  have hstep'' : RefreshTokens.advance env now (auth.under [.insertSession (successor env drawn x)])
      ⟨.refresh token,drawn,.rotate x drawn.sessionId,[.insertSession (successor env drawn x)]⟩=
        .ok (.commit (.refreshed (.rotated x drawn.sessionId)),[.rotated x.id drawn.sessionId]) := by
    rfl
  have hrotated := hinserted.advance (by simp) (by simp) hstep''
  exact hrotated.commit env now (by simpa [AuthDb.publishes] using hfresh)

end Refreshing

section Live
variable {env : RefreshTokens.Env} {now : ℕ} {auth : AuthDb} {drawn : Drawn} {ids : List ℕ}
  {rows : List RefreshTokenSession} {x : RefreshTokenSession}

def isLive (now : ℕ) (s : RefreshTokenSession) : Bool := s.status=.ACTIVE && now < s.expiresAt

theorem live_cons (s : RefreshTokenSession) : live now (s::rows)=
    if isLive now s then (s.id,s.familyId)::live now rows else live now rows := by
  unfold live isLive
  rw [List.filter_cons]
  split <;> rfl

theorem live_append (rows rows' : List RefreshTokenSession) :
    live now (rows++rows')=live now rows++live now rows' := by
  simp [live]

theorem live_marked {p : RefreshTokenSession → Bool} {q : ℕ × ℕ → Bool}
    {f : RefreshTokenSession → RefreshTokenSession} (hf : ∀ s, (f s).status≠.ACTIVE)
    (hpq : ∀ s∈rows, p s=!q (s.id,s.familyId)) :
    live now (rows.map fun s => if p s then f s else s)=(live now rows).filter q := by
  induction rows with
  | nil => rfl
  | cons s rows ih =>
    have hrest := ih fun s hs => hpq s (List.mem_cons_of_mem _ hs)
    have hs := hpq s List.mem_cons_self
    rw [List.map_cons,live_cons,live_cons,hrest]
    cases hq : q (s.id,s.familyId) with
    | false =>
      have hp : p s=true := by rw [hs,hq]; rfl
      have hdead : isLive now (f s)=false := by simp [isLive,hf s]
      rw [if_pos hp,hdead]
      by_cases hl : isLive now s=true
      · simp [hl,hq]
      · simp [hl]
    | true =>
      have hp : ¬p s=true := by rw [hs,hq]; simp
      rw [if_neg hp]
      by_cases hl : isLive now s=true
      · simp [hl,hq]
      · simp [hl]

theorem live_remaining (h : ∀ s∈rows, isLive now s=true → s.id∉ids) :
    live now (remaining ids rows)=live now rows := by
  unfold remaining
  induction rows with
  | nil => rfl
  | cons s rows ih =>
    have hrest := ih fun s hs => h s (List.mem_cons_of_mem _ hs)
    rw [live_cons,List.filter_cons]
    by_cases hs : s.id∈ids
    · have hdead : ¬isLive now s=true := fun hl => h s List.mem_cons_self hl hs
      rw [if_neg (by simpa using hs),hrest,if_neg hdead]
    · have hsame : isLive now (forget ids s)=isLive now s := rfl
      rw [if_pos (by simpa using hs),List.map_cons,live_cons,hrest,hsame]
      rfl

theorem live_compromised : live now (auth.under [compromised auth x]).sessions.rows=
    (live now auth.sessions.rows).filter (·.2≠x.familyId) := by
  apply live_marked
  · intro s
    simp
  · intro s hs
    have hiff : s.id∈(auth.sessions.rows.filter fun r => r.familyId=x.familyId).map (·.id) ↔
        s.familyId=x.familyId := by
      rw [List.mem_map]
      constructor
      · intro ⟨r,hr,hid⟩
        have hr := List.mem_filter.mp hr
        have hrs : r=s := Table.inj_of_nodup auth.sessions.nodup hr.1 hs hid
        rw [← hrs]
        exact of_decide_eq_true hr.2
      · intro hfamily
        exact ⟨s,List.mem_filter.mpr ⟨hs,decide_eq_true hfamily⟩,rfl⟩
    have hsame : decide (s.id∈(auth.sessions.rows.filter fun r => r.familyId=x.familyId).map (·.id))=
        decide (s.familyId=x.familyId) := decide_eq_decide.mpr hiff
    rw [hsame]
    simp

theorem live_rotated (hx : x∈auth.sessions.rows)
    (hfresh : auth.admits (RefreshTokens.successor env drawn x)=true) :
    live now (auth.under [.insertSession (RefreshTokens.successor env drawn x),
      .rotated x.id drawn.sessionId]).sessions.rows=
        (live now auth.sessions.rows).filter (·.1≠x.id)++
          if now < drawn.expiresAt then [(drawn.sessionId,x.familyId)] else [] := by
  have hall : ∀ r∈auth.sessions.rows, r.id≠drawn.sessionId := by
    intro r hr
    have hr := List.all_eq_true.mp hfresh r hr
    simp only [Bool.and_eq_true,decide_eq_true_eq] at hr
    exact hr.1
  have hnone : auth.sessions.get? (RefreshTokens.successor env drawn x).id=none :=
    Table.get?_eq_none.mpr hall
  have hrows : (auth.sessions.insert (RefreshTokens.successor env drawn x)).rows=
      auth.sessions.rows++[RefreshTokens.successor env drawn x] := by
    unfold Table.insert
    rw [dif_pos hnone]
  show live now ((auth.sessions.insert (RefreshTokens.successor env drawn x)).rows.map fun r =>
    if r.id=x.id then {r with
      status := .ROTATED
      replacedBySessionId := some drawn.sessionId} else r)=_
  rw [hrows,List.map_append,live_append]
  congr 1
  · have hmarked : live now (auth.sessions.rows.map fun r => if (decide (r.id=x.id))=true then {r with
          status := .ROTATED
          replacedBySessionId := some drawn.sessionId} else r)=
        (live now auth.sessions.rows).filter (·.1≠x.id) := live_marked (by simp) (by simp)
    simpa using hmarked
  · have hother : drawn.sessionId≠x.id := Ne.symm (hall x hx)
    by_cases hlater : now < drawn.expiresAt
    · simp [live,RefreshTokens.successor,hother,hlater]
    · simp [live,RefreshTokens.successor,hother,hlater]

theorem sessionOf_kept {hash : Str} (hx : auth.sessionOf hash=some x) (hkept : x.id∉ids) :
    (remaining ids auth.sessions.rows).find? (fun s => s.tokenHash=hash)=some (forget ids x) := by
  unfold AuthDb.sessionOf at hx
  unfold remaining
  rw [List.find?_map,List.find?_filter]
  have hfound : auth.sessions.rows.find? (fun s =>
      decide ((decide (s.id∉ids))=true ∧ (decide (s.tokenHash=hash))=true))=some x := by
    rw [List.find?_eq_some_iff_append] at hx ⊢
    obtain ⟨hhash,before,after,hrows,hbefore⟩ := hx
    refine ⟨by simpa [hkept] using hhash,before,after,hrows,?_⟩
    intro s hs
    have hother := hbefore s hs
    simp only [Bool.not_eq_true',decide_eq_false_iff_not] at hother
    simp [hother]
  have hmapped := congrArg (Option.map (forget ids)) hfound
  exact hmapped

theorem sessionOf_gone {db : Db} {hash : Str} (hx : db.auth.sessionOf hash=some x)
    (hgone : x.id∈ids) : (remaining ids db.auth.sessions.rows).find? (fun s => s.tokenHash=hash)=none := by
  rw [List.find?_eq_none]
  intro s hs
  obtain ⟨r,hr,rfl⟩ := List.mem_map.mp hs
  obtain ⟨hr,hkept⟩ := List.mem_filter.mp hr
  have hkept : r.id∉ids := of_decide_eq_true hkept
  simp only [decide_eq_true_eq]
  intro hhash
  have hhash : r.tokenHash=hash := hhash
  have hxhash : x.tokenHash=hash := by simpa using List.find?_some hx
  have hrx : r=x := Table.inj_of_nodup db.uniqueHash hr (List.mem_of_find?_eq_some hx)
    (hhash.trans hxhash.symm)
  rw [hrx] at hkept
  exact hkept hgone

end Live

section Effects
variable {config : Config} {now batchSize : ℕ} {db : Db} {policy : RetentionPolicy}

/-- What no policy but that of its own table touches. -/
structure Untouched {β : Type} (view : Db → β) (table : RetainedTable) : Prop where
  delete : ∀ db ids other, other≠table → view (Db.delete db ids other)=view db

theorem evaluatePolicy_untouched {β : Type} {view : Db → β} {table : RetainedTable} {dryRun : Bool}
    (h : Untouched view table) (hother : policy.table≠table) :
    view (evaluatePolicy config now dryRun batchSize db policy).2=view db := by
  unfold evaluatePolicy
  dsimp only
  split
  · rfl
  · split
    · rfl
    · exact h.delete db _ policy.table hother

theorem evaluatePolicies_untouched {β : Type} {view : Db → β} {table : RetainedTable}
    {dryRun : Bool} (h : Untouched view table) {policies : List RetentionPolicy}
    (hother : ∀ p∈policies, p.table≠table) :
    view (evaluatePolicies config now dryRun batchSize policies db).2=view db := by
  induction policies generalizing db with
  | nil => rfl
  | cons policy policies ih =>
    have hrest : view (evaluatePolicies config now dryRun batchSize policies
        (evaluatePolicy config now dryRun batchSize db policy).2).2=
          view (evaluatePolicy config now dryRun batchSize db policy).2 :=
      ih fun p hp => hother p (List.mem_cons_of_mem _ hp)
    exact hrest.trans (evaluatePolicy_untouched h (hother policy List.mem_cons_self))

theorem evaluatePolicies_append {dryRun : Bool} (before after : List RetentionPolicy) (db : Db) :
    (evaluatePolicies config now dryRun batchSize (before++after) db).2=
      (evaluatePolicies config now dryRun batchSize after
        (evaluatePolicies config now dryRun batchSize before db).2).2 := by
  induction before generalizing db with
  | nil => rfl
  | cons policy before ih => exact ih _

theorem evaluatePolicies_reach {β : Type} {view : Db → β} {table : RetainedTable} {dryRun : Bool}
    (h : Untouched view table) {before after : List RetentionPolicy}
    (hbefore : ∀ p∈before, p.table≠table) (hafter : ∀ p∈after, p.table≠table) :
    ∃ db', view db'=view db ∧
      view (evaluatePolicies config now dryRun batchSize (before++policy::after) db).2=
        view (evaluatePolicy config now dryRun batchSize db' policy).2 := by
  refine ⟨(evaluatePolicies config now dryRun batchSize before db).2,
    evaluatePolicies_untouched h hbefore,?_⟩
  rw [evaluatePolicies_append]
  exact evaluatePolicies_untouched h hafter

/-- The labels, with what decides on their deletion. -/
def labelView (db : Db) : ShippingDb × (ℕ → LabelTimes) := (db.shipping,db.labelTimes)

def sessionView (db : Db) :
    Table RefreshTokens.User.id × List RefreshTokenSession × (ℕ → ℕ) :=
  (db.auth.users,db.auth.sessions.rows,db.sessionUpdatedAt)

theorem labelView_untouched : Untouched labelView .carrier_labels where
  delete := by
    intro db ids other hother
    cases other with
    | carrier_labels => exact absurd rfl hother
    | _ => rfl

theorem sessionView_untouched : Untouched sessionView .refresh_token_sessions where
  delete := by
    intro db ids other hother
    cases other with
    | refresh_token_sessions => exact absurd rfl hother
    | _ => rfl

/-- The labels that a cleanup deletes. -/
def expiredLabels (config : Config) (now batchSize : ℕ) (db : Db) : List ℕ :=
  carrierLabelsPolicy.candidates config now batchSize (db.rows .carrier_labels)

/-- The sessions that a cleanup deletes. -/
def expiredSessions (config : Config) (now batchSize : ℕ) (db : Db) : List ℕ :=
  refreshTokenSessionsPolicy.candidates config now batchSize (db.rows .refresh_token_sessions)

theorem candidates_of_none {rows : List Row} (h : rows.countP (policy.eligible config now)=0) :
    policy.candidates config now batchSize rows=[] := by
  rw [List.countP_eq_zero] at h
  have hnone : rows.filter (policy.eligible config now)=[] := by
    rw [List.filter_eq_nil_iff]
    exact h
  simp [RetentionPolicy.candidates,hnone]

theorem evaluatePolicy_labels :
    labelView (evaluatePolicy config now false batchSize db carrierLabelsPolicy).2=
      labelView (db.deleteLabels (expiredLabels config now batchSize db)) := by
  unfold evaluatePolicy
  dsimp only
  split
  · next habsent => simp [carrierLabelsPolicy] at habsent
  · split
    · next hnone =>
      have hcount : (db.rows .carrier_labels).countP (carrierLabelsPolicy.eligible config now)=0 :=
        of_decide_eq_true hnone
      have hempty : expiredLabels config now batchSize db=[] := candidates_of_none hcount
      rw [hempty]
      simp [labelView,Db.deleteLabels]
    · rfl

theorem evaluatePolicy_sessions :
    sessionView (evaluatePolicy config now false batchSize db refreshTokenSessionsPolicy).2=
      sessionView (db.deleteSessions (expiredSessions config now batchSize db)) := by
  unfold evaluatePolicy
  dsimp only
  split
  · next habsent => simp [refreshTokenSessionsPolicy] at habsent
  · split
    · next hnone =>
      have hcount : (db.rows .refresh_token_sessions).countP
          (refreshTokenSessionsPolicy.eligible config now)=0 := of_decide_eq_true hnone
      have hempty : expiredSessions config now batchSize db=[] := candidates_of_none hcount
      rw [hempty]
      have hforget : forget []=id := by
        funext s
        have hall : s.replacedBySessionId.filter (·∉([] : List ℕ))=s.replacedBySessionId := by
          cases s.replacedBySessionId <;> simp
        rw [forget,hall]
        rfl
      have hsame : remaining [] db.auth.sessions.rows=db.auth.sessions.rows := by
        simp [remaining,hforget]
      show sessionView db=(db.auth.users,remaining [] db.auth.sessions.rows,db.sessionUpdatedAt)
      rw [hsame]
      rfl
    · rfl

end Effects

section Main
variable {config : Config} {cleanedAt : ℕ}
  {batch : Option (Option ℤ)} {db : Db}

/-- What is left after a cleanup that is no dry run. -/
def cleaned (config : Config) (batch : Option (Option ℤ)) (cleanedAt : ℕ) (db : Db) : Db :=
  (runCleanup config cleanedAt {dryRun := some false, batchSize := batch} db).2

theorem cleaned_eq : cleaned config batch cleanedAt db=(evaluatePolicies config cleanedAt false
    (normalizeBatchSize batch config.batchSize) buildPolicies db).2 := by
  simp only [cleaned,runCleanup,Option.getD_some]

theorem cleaned_labels : labelView (cleaned config batch cleanedAt db)=labelView (db.deleteLabels
    (expiredLabels config cleanedAt (normalizeBatchSize batch config.batchSize) db)) := by
  have hpolicies : buildPolicies=buildPolicies.take 8++carrierLabelsPolicy::buildPolicies.drop 9 := rfl
  have hbefore : ∀ p∈buildPolicies.take 8, p.table≠.carrier_labels := by
    simp [buildPolicies,refreshTokenSessionsPolicy]
  have hafter : ∀ p∈buildPolicies.drop 9, p.table≠.carrier_labels := by
    simp [buildPolicies]
  rw [cleaned_eq,hpolicies]
  obtain ⟨db',hview,hreach⟩ : ∃ db', labelView db'=labelView db ∧ _=_ :=
    evaluatePolicies_reach labelView_untouched hbefore hafter
  rw [hreach,evaluatePolicy_labels]
  obtain ⟨hshipping,htimes⟩ := Prod.mk.inj hview
  have hrow : db'.labelRow=db.labelRow := by
    funext label
    simp only [Db.labelRow,htimes]
  have hids : expiredLabels config cleanedAt (normalizeBatchSize batch config.batchSize) db'=
      expiredLabels config cleanedAt (normalizeBatchSize batch config.batchSize) db := by
    simp only [expiredLabels,Db.rows,hrow,hshipping]
  simp only [labelView,Db.deleteLabels,hids,hshipping,htimes]

theorem cleaned_sessions : sessionView (cleaned config batch cleanedAt db)=sessionView
    (db.deleteSessions
      (expiredSessions config cleanedAt (normalizeBatchSize batch config.batchSize) db)) := by
  have hpolicies : buildPolicies=
      buildPolicies.take 2++refreshTokenSessionsPolicy::buildPolicies.drop 3 := rfl
  have hbefore : ∀ p∈buildPolicies.take 2, p.table≠.refresh_token_sessions := by
    simp [buildPolicies]
  have hafter : ∀ p∈buildPolicies.drop 3, p.table≠.refresh_token_sessions := by
    simp [buildPolicies,carrierLabelsPolicy]
  rw [cleaned_eq,hpolicies]
  obtain ⟨db',hview,hreach⟩ : ∃ db', sessionView db'=sessionView db ∧ _=_ :=
    evaluatePolicies_reach sessionView_untouched hbefore hafter
  rw [hreach,evaluatePolicy_sessions]
  obtain ⟨husers,hrest⟩ := Prod.mk.inj hview
  obtain ⟨hrows,htimes⟩ := Prod.mk.inj hrest
  have hrow : db'.sessionRow=db.sessionRow := by
    funext session
    simp only [Db.sessionRow,htimes]
  have hids : expiredSessions config cleanedAt (normalizeBatchSize batch config.batchSize) db'=
      expiredSessions config cleanedAt (normalizeBatchSize batch config.batchSize) db := by
    simp only [expiredSessions,Db.rows,hrow,hrows]
  simp only [sessionView,Db.deleteSessions,hids,husers,hrows,htimes]

end Main

section Shipping
open Staging
variable {d : ShippingDb} {s : Shipment} {dto : ShipShipmentDto} {labels : List CarrierLabel}
  {warehouse shipment : Text}

/-- The shipment that the two references name. -/
def Named (d : ShippingDb) (warehouse shipment : Text) (s : Shipment) : Prop :=
  ∃ w, Staging.read (resolveWarehouse warehouse) d.tables=.ok w ∧
    Staging.read (resolveShipmentWithClient w.id shipment) d.tables=.ok s

/-- What a shipment needs to be shipped, besides its labels. -/
structure Ready (d : ShippingDb) (s : Shipment) : Prop where
  status : s.status=.STAGED ∨ s.status=.LOADING
  packages : d.packagesIn s.id [.STAGED,.LOADED]≠[]
  packed : d.assertOutboundOrderPacked s.outboundOrderId (d.packagesIn s.id [.STAGED,.LOADED])=.ok ()

/-- The carrier wants labels, and the request does not waive them. -/
def NeedsLabels (d : ShippingDb) (s : Shipment) (dto : ShipShipmentDto) : Prop :=
  dto.allowShipWithoutLabel.getD false=false ∧ carrierRequiresLabel (d.carrier s.id)=true

/-- Every package that leaves has a label, or the whole shipment has one. -/
def Labelled (d : ShippingDb) (s : Shipment) : Prop :=
  d.missingPackageLabel s (d.packagesIn s.id [.STAGED,.LOADED])=false

/-- What a shipment that leaves writes outside its labels. -/
def departed (d : ShippingDb) (s : Shipment) : WmsDb × (ℕ → ShipmentPackageStatus) :=
  (match s.outboundOrderId with
    | none => d.setShipmentStatus s.id .SHIPPED
    | some orderId => apply (.update (D := wms) .outboundOrders orderId ShippingDb.shippedOrder)
        (d.setShipmentStatus s.id .SHIPPED),
    d.setPackageStatus s.id [.PACKED,.STAGED,.LOADED] .SHIPPED)

theorem ship_ready (hready : Ready d s) (hlabels : NeedsLabels d s dto → Labelled d s) :
    (d.ship s dto).toOption.map (fun d => (d.tables,d.packageStatus))=some (departed d s) := by
  have hcheck : ¬(!(dto.allowShipWithoutLabel.getD false) && carrierRequiresLabel (d.carrier s.id) &&
      d.missingPackageLabel s (d.packagesIn s.id [.STAGED,.LOADED]))=true := by
    intro hmissing
    simp only [Bool.and_eq_true,Bool.not_eq_true'] at hmissing
    obtain ⟨hneeds,hmissing⟩ := hmissing
    have hlabelled := hlabels hneeds
    unfold Labelled at hlabelled
    rw [hlabelled] at hmissing
    exact absurd hmissing (by simp)
  unfold ShippingDb.ship
  rw [if_pos hready.status]
  unfold ShippingDb.assertShipmentReadyToShip
  dsimp only
  rw [if_neg hready.packages,if_neg hcheck,hready.packed]
  unfold departed
  cases s.outboundOrderId <;> rfl

theorem ship_refused (h : ¬(Ready d s ∧ (NeedsLabels d s dto → Labelled d s))) :
    (d.ship s dto).toOption.map (fun d => (d.tables,d.packageStatus))=none := by
  unfold ShippingDb.ship
  by_cases hstatus : s.status=.STAGED ∨ s.status=.LOADING
  · rw [if_pos hstatus]
    unfold ShippingDb.assertShipmentReadyToShip
    dsimp only
    by_cases hpackages : d.packagesIn s.id [.STAGED,.LOADED]=[]
    · rw [if_pos hpackages]
      rfl
    · rw [if_neg hpackages]
      by_cases hcheck : (!(dto.allowShipWithoutLabel.getD false) &&
          carrierRequiresLabel (d.carrier s.id) &&
            d.missingPackageLabel s (d.packagesIn s.id [.STAGED,.LOADED]))=true
      · rw [if_pos hcheck]
        rfl
      · rw [if_neg hcheck]
        cases hpacked : d.assertOutboundOrderPacked s.outboundOrderId
            (d.packagesIn s.id [.STAGED,.LOADED]) with
        | error e => rfl
        | ok u =>
          refine absurd ⟨⟨hstatus,hpackages,hpacked⟩,?_⟩ h
          intro hneeds
          unfold Labelled
          by_contra hmissing
          have hmissing : d.missingPackageLabel s (d.packagesIn s.id [.STAGED,.LOADED])=true := by
            simpa using hmissing
          exact hcheck (by simp [hneeds.1,hneeds.2,hmissing])
  · rw [if_neg hstatus]
    rfl

theorem ready_labels : Ready {d with labels := labels} s ↔ Ready d s := by
  constructor
  · intro h
    exact ⟨h.status,h.packages,h.packed⟩
  · intro h
    exact ⟨h.status,h.packages,h.packed⟩

theorem labelled_of_filter {p : CarrierLabel → Bool}
    (h : Labelled {d with labels := d.labels.filter p} s) : Labelled d s := by
  unfold Labelled ShippingDb.missingPackageLabel at *
  rw [List.any_eq_false] at h ⊢
  intro pack hpack hmissing
  refine h pack hpack ?_
  simp only [Bool.and_eq_true,Bool.not_eq_true',List.any_eq_false] at hmissing ⊢
  have hmore : ∀ l∈(d.labels.filter p).filter (fun l =>
      l.shipmentId=some s.id && l.status∈[.GENERATED,.PRINTED]),
        l∈d.labels.filter fun l => l.shipmentId=some s.id && l.status∈[.GENERATED,.PRINTED] := by
    intro l hl
    obtain ⟨hl,hcounts⟩ := List.mem_filter.mp hl
    exact List.mem_filter.mpr ⟨List.mem_of_mem_filter hl,hcounts⟩
  exact ⟨fun l hl => hmissing.1 l (hmore l hl),fun l hl => hmissing.2 l (hmore l hl)⟩

theorem named_unique {s' : Shipment} (h : Named d warehouse shipment s)
    (h' : Named d warehouse shipment s') : s'=s := by
  obtain ⟨w,hw,hs⟩ := h
  obtain ⟨w',hw',hs'⟩ := h'
  rw [hw] at hw'
  cases hw'
  rw [hs] at hs'
  cases hs'
  rfl

theorem shipShipment_named (h : Named d warehouse shipment s) :
    d.shipShipment warehouse shipment dto=d.ship s dto := by
  obtain ⟨w,hw,hs⟩ := h
  unfold ShippingDb.shipShipment
  rw [hw]
  show Except.bind _ _=_
  rw [Except.bind,hs]
  rfl

theorem shipShipment_unnamed (h : ∀ s, ¬Named d warehouse shipment s) :
    (d.shipShipment warehouse shipment dto).toOption=none := by
  unfold ShippingDb.shipShipment
  cases hw : Staging.read (resolveWarehouse warehouse) d.tables with
  | error e => rfl
  | ok w =>
    cases hs : Staging.read (resolveShipmentWithClient w.id shipment) d.tables with
    | error e =>
      show (Except.bind (Staging.read (resolveShipmentWithClient w.id shipment) d.tables)
        _).toOption=none
      rw [hs]
      rfl
    | ok s => exact absurd ⟨w,hw,hs⟩ (h s)

end Shipping

section Invisible
variable {env : RefreshTokens.Env} {config : Config} {batch : Option (Option ℤ)}
  {cleanedAt now : ℕ} {db : Db} {op : Operation}

/-- What a refresh draws, an id and a token, is new. -/
def Operation.Possible (env : RefreshTokens.Env) (db : Db) : Operation → Prop
  | .shipShipment _ _ _ => True
  | .refresh _ drawn => ∀ r∈db.auth.sessions.rows, r.id≠drawn.sessionId ∧
      r.tokenHash≠env.hashRefreshToken drawn.refreshToken

/-- The labels that stay label every package that was labelled; the session of a token that is
deleted has no family left that its reuse would end. -/
def Operation.Undisturbed (env : RefreshTokens.Env) (config : Config) (batch : Option (Option ℤ))
    (cleanedAt now : ℕ) (db : Db) : Operation → Prop
  | .shipShipment warehouse shipment dto => ∀ s, Named db.shipping warehouse shipment s →
      Ready db.shipping s → NeedsLabels db.shipping s dto → Labelled db.shipping s →
        Labelled {db.shipping with labels := db.shipping.labels.filter (·.id∉
          expiredLabels config cleanedAt (normalizeBatchSize batch config.batchSize) db)} s
  | .refresh token _ => ∀ x, db.auth.sessionOf (env.hashRefreshToken token)=some x →
      ActiveUser db.auth x →
        x.id∈expiredSessions config cleanedAt (normalizeBatchSize batch config.batchSize) db →
          ∀ pair∈live now db.auth.sessions.rows, pair.2≠x.familyId

/-- The operation comes to the same after the cleanup and without it. -/
def SameOutcome (env : RefreshTokens.Env) (config : Config) (batch : Option (Option ℤ))
    (cleanedAt now : ℕ) (db : Db) (op : Operation) : Prop :=
  perform env now (cleaned config batch cleanedAt db) op=perform env now db op

theorem ship_same_iff {warehouse shipment : Text} {dto : Staging.ShipShipmentDto} :
    SameOutcome env config batch cleanedAt now db (.shipShipment warehouse shipment dto) ↔
      (Operation.shipShipment warehouse shipment dto).Undisturbed env config batch cleanedAt now
        db := by
  have hshipping : (cleaned config batch cleanedAt db).shipping={db.shipping with
      labels := db.shipping.labels.filter (·.id∉
        expiredLabels config cleanedAt (normalizeBatchSize batch config.batchSize) db)} :=
    (Prod.mk.inj cleaned_labels).1
  unfold SameOutcome perform Operation.Undisturbed
  rw [hshipping]
  set d := db.shipping with hd
  set labels := d.labels.filter (·.id∉
    expiredLabels config cleanedAt (normalizeBatchSize batch config.batchSize) db) with hlabels
  rw [Outcome.shipped.injEq]
  by_cases hnamed : ∃ s, Named d warehouse shipment s
  · obtain ⟨s,hs⟩ := hnamed
    have hs' : Named {d with labels := labels} warehouse shipment s := hs
    rw [shipShipment_named hs,shipShipment_named hs']
    by_cases hships : Ready d s ∧ (NeedsLabels d s dto → Labelled d s)
    · obtain ⟨hready,hfull⟩ := hships
      rw [ship_ready hready hfull]
      constructor
      · intro hsame s' hs'' _ hneeds _
        obtain rfl := named_unique hs hs''
        by_contra hmissing
        have hnone : (ShippingDb.ship {d with labels := labels} s' dto).toOption.map
            (fun d => (d.tables,d.packageStatus))=none :=
          ship_refused fun h => hmissing (h.2 hneeds)
        rw [hnone] at hsame
        exact absurd hsame (by simp)
      · intro hsuffice
        have hready' : Ready {d with labels := labels} s := ready_labels.mpr hready
        rw [ship_ready hready' fun hneeds => hsuffice s hs hready hneeds (hfull hneeds)]
        rfl
    · have hrefused : ¬(Ready {d with labels := labels} s ∧
          (NeedsLabels {d with labels := labels} s dto → Labelled {d with labels := labels} s)) := by
        intro h
        exact hships ⟨ready_labels.mp h.1,fun hneeds => labelled_of_filter (h.2 hneeds)⟩
      rw [ship_refused hships,ship_refused hrefused]
      refine ⟨fun _ s' hs'' hready hneeds hlabelled => ?_,fun _ => rfl⟩
      obtain rfl := named_unique hs hs''
      exact absurd ⟨hready,fun _ => hlabelled⟩ hships
  · have hnone : ∀ s, ¬Named d warehouse shipment s := fun s hs => hnamed ⟨s,hs⟩
    have hnone' : ∀ s, ¬Named {d with labels := labels} warehouse shipment s := hnone
    rw [shipShipment_unnamed hnone,shipShipment_unnamed hnone']
    exact ⟨fun _ s hs => absurd hs (hnone s),fun _ => rfl⟩

theorem expiredSessions_dead {batchSize : ℕ} (hlater : cleanedAt≤now) {s : RefreshTokenSession}
    (hs : s∈db.auth.sessions.rows) (hgone : s.id∈expiredSessions config cleanedAt batchSize db) :
    s.status≠.ACTIVE ∨ s.expiresAt≤now := by
  unfold expiredSessions RetentionPolicy.candidates at hgone
  obtain ⟨row,hrow,hid⟩ := List.mem_map.mp hgone
  have hrow := (List.mem_insertionSort _).mp (List.mem_of_mem_take hrow)
  obtain ⟨hrow,heligible⟩ := List.mem_filter.mp hrow
  obtain ⟨r,hr,rfl⟩ := List.mem_map.mp hrow
  obtain rfl := Table.inj_of_nodup db.auth.sessions.nodup hr hs hid
  unfold RetentionPolicy.eligible at heligible
  have hcondition : (decide ((db.sessionRow r).status≠"ACTIVE") ||
      ((db.sessionRow r).time .expires_at).any (· < cleanedAt))=true :=
    ((Bool.and_eq_true _ _).mp heligible).1
  simp only [Db.sessionRow,Bool.or_eq_true,decide_eq_true_eq,Option.any_some] at hcondition
  cases hcondition with
  | inl hstatus =>
    have hstatus : sessionStatus r.status≠"ACTIVE" := of_decide_eq_true hstatus
    left
    intro hactive
    rw [hactive] at hstatus
    exact hstatus rfl
  | inr hexpired =>
    right
    omega

theorem perform_refresh {token : Str} {drawn : Drawn} {auth : AuthDb} {answer : RefreshTokens.Answer}
    (h : Ended (refreshed env now db.auth token drawn) auth token drawn answer) :
    perform env now db (.refresh token drawn)=
      .refreshed (isAccepted (some ⟨.refresh token,drawn,.ended (.ok answer),[]⟩))
        ((live now db.auth.sessions.rows).filter (·∉live now auth.sessions.rows))
        (live now auth.sessions.rows) := by
  unfold perform
  dsimp only
  rw [h.call,h.db]

theorem refresh_remaining_iff {token : Str} {drawn : Drawn} {db' : Db} {ids : List ℕ}
    (hfresh : (Operation.refresh token drawn).Possible env db)
    (husers : db'.auth.users=db.auth.users)
    (hrows : db'.auth.sessions.rows=remaining ids db.auth.sessions.rows)
    (hdead : ∀ s∈db.auth.sessions.rows, s.id∈ids → s.status≠.ACTIVE ∨ s.expiresAt≤now) :
    perform env now db' (.refresh token drawn)=perform env now db (.refresh token drawn) ↔
      ∀ x, db.auth.sessionOf (env.hashRefreshToken token)=some x → ActiveUser db.auth x →
        x.id∈ids → ∀ pair∈live now db.auth.sessions.rows, pair.2≠x.familyId := by
  have hlive : live now db'.auth.sessions.rows=live now db.auth.sessions.rows := by
    rw [hrows]
    apply live_remaining
    intro s hs hlive hgone
    unfold isLive at hlive
    simp only [Bool.and_eq_true,decide_eq_true_eq] at hlive
    cases hdead s hs hgone with
    | inl hstatus => exact hstatus hlive.1
    | inr hexpired => omega
  have hsession : ∀ hash, db'.auth.sessionOf hash=
      (remaining ids db.auth.sessions.rows).find? (fun s => s.tokenHash=hash) := by
    intro hash
    unfold AuthDb.sessionOf
    rw [hrows]
  -- the same answer and the same live sessions come to the same outcome
  have hsame : ∀ {auth auth' : AuthDb} {answer answer' : RefreshTokens.Answer},
      Ended (refreshed env now db.auth token drawn) auth token drawn answer →
      Ended (refreshed env now db'.auth token drawn) auth' token drawn answer' →
      isAccepted (some ⟨.refresh token,drawn,.ended (.ok answer'),[]⟩)=
        isAccepted (some ⟨.refresh token,drawn,.ended (.ok answer),[]⟩) →
      live now auth'.sessions.rows=live now auth.sessions.rows →
        perform env now db' (.refresh token drawn)=perform env now db (.refresh token drawn) := by
    intro auth auth' answer answer' hdone hdone' haccepted hstays
    rw [perform_refresh hdone,perform_refresh hdone',haccepted,hstays,hlive]
  cases hx : db.auth.sessionOf (env.hashRefreshToken token) with
  | none =>
    have hx' : db'.auth.sessionOf (env.hashRefreshToken token)=none := by
      rw [hsession,List.find?_eq_none]
      intro s hs
      obtain ⟨r,hr,rfl⟩ := List.mem_map.mp hs
      exact List.find?_eq_none.mp hx r (List.mem_of_mem_filter hr)
    have hboth := hsame (refreshed_unknown hx) (refreshed_unknown hx') rfl hlive
    exact ⟨fun _ x h => absurd h (by simp),fun _ => hboth⟩
  | some x =>
    have hmem : x∈db.auth.sessions.rows := List.mem_of_find?_eq_some hx
    have hkept : x.id∉ids →
        db'.auth.sessionOf (env.hashRefreshToken token)=some (forget ids x) := by
      intro h
      rw [hsession]
      exact sessionOf_kept hx h
    have hgone : x.id∈ids → db'.auth.sessionOf (env.hashRefreshToken token)=none := by
      intro h
      rw [hsession]
      exact sessionOf_gone hx h
    have huser' : ActiveUser db'.auth (forget ids x) ↔ ActiveUser db.auth x := by
      unfold ActiveUser
      rw [husers]
      rfl
    by_cases huser : ActiveUser db.auth x
    · by_cases hid : x.id∈ids
      · have hspent := hdead x hmem hid
        rw [perform_refresh (refreshed_reused hx huser hspent),
          perform_refresh (refreshed_unknown (hgone hid)),live_compromised,hlive]
        constructor
        · intro h y hy _ _ pair hpair
          obtain rfl := Option.some.inj hy
          rw [Outcome.refreshed.injEq] at h
          have hall := List.filter_eq_self.mp h.2.2.symm pair hpair
          exact of_decide_eq_true hall
        · intro h
          have hall : (live now db.auth.sessions.rows).filter (·.2≠x.familyId)=
              live now db.auth.sessions.rows := by
            rw [List.filter_eq_self]
            intro pair hpair
            exact decide_eq_true (h x rfl huser hid pair hpair)
          rw [hall]
          rfl
      · have hx' := hkept hid
        have hthere := huser'.mpr huser
        refine ⟨fun _ y hy _ hgone => ?_,fun _ => ?_⟩
        · obtain rfl := Option.some.inj hy
          exact absurd hgone hid
        · by_cases hspent : x.status≠.ACTIVE ∨ x.expiresAt≤now
          · apply hsame (refreshed_reused hx huser hspent) (refreshed_reused hx' hthere hspent) rfl
            rw [live_compromised,live_compromised,hlive]
            rfl
          · have hadmits : db.auth.admits (RefreshTokens.successor env drawn x)=true := by
              rw [AuthDb.admits,List.all_eq_true]
              intro r hr
              obtain ⟨hid,hhash⟩ := hfresh r hr
              simp [RefreshTokens.successor,hid,hhash]
            have hmem' : forget ids x∈db'.auth.sessions.rows := List.mem_of_find?_eq_some hx'
            have hadmits' :
                db'.auth.admits (RefreshTokens.successor env drawn (forget ids x))=true := by
              rw [AuthDb.admits,List.all_eq_true,hrows]
              intro s hs
              obtain ⟨r,hr,rfl⟩ := List.mem_map.mp hs
              obtain ⟨hid,hhash⟩ := hfresh r (List.mem_of_mem_filter hr)
              simp [RefreshTokens.successor,forget,hid,hhash]
            apply hsame (refreshed_rotated hx huser hspent hadmits)
              (refreshed_rotated hx' hthere hspent hadmits') rfl
            rw [live_rotated hmem hadmits,live_rotated hmem' hadmits',hlive]
            rfl
    · refine ⟨fun _ y hy hactive => ?_,fun _ => ?_⟩
      · obtain rfl := Option.some.inj hy
        exact absurd hactive huser
      · have hinactive : Ended (refreshed env now db.auth token drawn) db.auth token drawn
            (.refreshed .inactiveUser) := refreshed_inactive hx huser
        by_cases hid : x.id∈ids
        · exact hsame hinactive (refreshed_unknown (hgone hid)) rfl hlive
        · have huser' : ¬ActiveUser db'.auth (forget ids x) := fun h => huser (huser'.mp h)
          exact hsame hinactive (refreshed_inactive (hkept hid) huser') rfl hlive

theorem refresh_same_iff {token : Str} {drawn : Drawn} (hlater : cleanedAt≤now)
    (hfresh : (Operation.refresh token drawn).Possible env db) :
    SameOutcome env config batch cleanedAt now db (.refresh token drawn) ↔
      (Operation.refresh token drawn).Undisturbed env config batch cleanedAt now db := by
  have hview : sessionView (cleaned config batch cleanedAt db)=sessionView (db.deleteSessions
      (expiredSessions config cleanedAt (normalizeBatchSize batch config.batchSize) db)) :=
    cleaned_sessions
  obtain ⟨husers,hrest⟩ := Prod.mk.inj hview
  obtain ⟨hrows,_⟩ := Prod.mk.inj hrest
  exact refresh_remaining_iff hfresh husers hrows fun s hs => expiredSessions_dead hlater hs

end Invisible

/-- The defaults of the configuration. -/
def defaultConfig : Config where
  enabled := true
  batchSize := 500
  days
    | .AUDIT_LOG => 365
    | .AUTH_LOGIN_ATTEMPT => 30
    | .RATE_LIMIT_BUCKET => 2
    | .REFRESH_SESSION => 60
    | .IDEMPOTENCY => 45
    | .OUTBOX_SENT => 30
    | .INBOX_TERMINAL => 30
    | .PRINT_JOB => 90
    | .INTEGRATION_LOG => 90
    | .INTEGRATION_DEAD_LETTER => 180

def plainEnv : RefreshTokens.Env :=
  ⟨id,fun hash password => hash=password,fun _ => none,some,fun _ _ _ => true⟩

def emptySystem (users : Table RefreshTokens.User.id) : RefreshTokens.System := .initial users .empty

/-- A login, and its token rotated once. -/
def rotatedOnce : RefreshTokens.System :=
  (emptySystem (Table.empty.insert ⟨1,.ACTIVE,[],0⟩)).run plainEnv
    [.login ⟨1,1,['a'],7,.ACTIVE,1000,none⟩,.start 0 (.refresh ['a']) ⟨['b'],2,1000,[]⟩,
     .advance 0 0,.advance 0 0,.advance 0 0,.advance 0 0,.advance 0 0,.advance 0 0]

/-- A shipment of one package without an order, for a carrier that wants labels. -/
def station : ShippingDb where
  tables := after
    [.insert .warehouses ⟨1,.word 1⟩,.insert .shipments ⟨1,1,none,.word 11,.PACKING⟩] emptyDb
  carrier := fun _ => some (.named 5)
  packageStatus := fun _ => .OPEN
  labels := []

/-- The package is packed, its label printed, and the shipment staged. -/
def staged : ShippingDb := station.run
  [.addPackage (· + 21) (.word 1) (.word 11) {contents := []},
   .generateLabel ⟨1,some 1,some 21,.PRINTED⟩,.stageShipment (.word 1) (.word 11) {}]

theorem rotatedOnce_unique : (rotatedOnce.db.sessions.rows.map (·.tokenHash)).Nodup := by decide

theorem rotatedOnce_fresh : ∀ r∈rotatedOnce.db.sessions.rows, r.id≠3 ∧ r.tokenHash≠['c'] := by
  decide

def demoDb : Db where
  shipping := staged
  labelTimes := fun _ => ⟨some 0,0⟩
  auth := rotatedOnce.db
  sessionUpdatedAt := fun _ => 0
  others := fun _ => []
  hasTable := fun _ => true
  uniqueHash := rotatedOnce_unique

end AardvarkWms.Retention
