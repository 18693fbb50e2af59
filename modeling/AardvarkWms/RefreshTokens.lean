import AardvarkWms.Messaging
import Mathlib.Data.List.MinMax

/-! Refresh tokens: rotation, logout, password and MFA changes. A transaction reads what is
committed and what it wrote itself; whoever changes sessions of a user holds the user's row. -/
namespace AardvarkWms.RefreshTokens

open Messaging (Str)

inductive UserStatus
  | ACTIVE | DISABLED
  deriving DecidableEq

inductive RefreshTokenSessionStatus
  | ACTIVE | ROTATED | REVOKED | EXPIRED | COMPROMISED
  deriving DecidableEq

structure User where
  id : ℕ
  status : UserStatus
  passwordHash : Str
  sessionVersion : ℕ
  deriving DecidableEq

structure MfaTotpSecret where
  id : ℕ
  userId : ℕ
  secretCiphertext : Str
  createdAt : ℕ
  verifiedAt : Option ℕ
  disabledAt : Option ℕ
  deriving DecidableEq

structure RefreshTokenSession where
  id : ℕ
  userId : ℕ
  tokenHash : Str
  familyId : ℕ
  status : RefreshTokenSessionStatus
  expiresAt : ℕ
  replacedBySessionId : Option ℕ
  deriving DecidableEq

structure AuthDb where
  users : Table User.id
  secrets : Table MfaTotpSecret.id
  sessions : Table RefreshTokenSession.id

/-- What other code decides: digests, password and code checks. -/
structure Env where
  hashRefreshToken : Str → Str
  verifyPassword : Str → Str → Bool
  weakness : Str → Option String
  decryptMfaSecret : Str → Option Str
  verifyTotpCode : Str → Str → ℕ → Bool

inductive AuthError
  | badRequest (message : String)
  | unauthorized (message : String)
  | rolledBack
  deriving DecidableEq

/-- What one statement wrote, row by row. -/
inductive Write
  | insertSession (s : RefreshTokenSession)
  | setStatus (ids : List ℕ) (status : RefreshTokenSessionStatus)
  | rotated (id replacedBySessionId : ℕ)
  | bumpSessionVersion (userId : ℕ) (passwordHash : Option Str)
  | disableSecrets (ids : List ℕ) (now : ℕ)
  | verifySecret (id now : ℕ)
  deriving DecidableEq

def Write.onSessions : Write → Table RefreshTokenSession.id → Table RefreshTokenSession.id
  | .insertSession s, t => t.insert s
  | .setStatus ids status, t => t.modifyWhere (fun s => s.id∈ids) (fun s => {s with status})
      fun _ => rfl
  | .rotated id replacedBySessionId, t => t.modify id (fun s => {s with
      status := .ROTATED
      replacedBySessionId := some replacedBySessionId}) fun _ => rfl
  | _, t => t

def Write.onUsers : Write → Table User.id → Table User.id
  | .bumpSessionVersion userId passwordHash, t => t.modify userId (fun u => {u with
      sessionVersion := u.sessionVersion+1
      passwordHash := passwordHash.getD u.passwordHash}) fun _ => rfl
  | _, t => t

def Write.onSecrets : Write → Table MfaTotpSecret.id → Table MfaTotpSecret.id
  | .disableSecrets ids now, t => t.modifyWhere (fun s => s.id∈ids)
      (fun s => {s with disabledAt := some now}) fun _ => rfl
  | .verifySecret id now, t => t.modify id (fun s => {s with verifiedAt := some now}) fun _ => rfl
  | _, t => t

namespace AuthDb

def apply (db : AuthDb) (w : Write) : AuthDb :=
  ⟨w.onUsers db.users,w.onSecrets db.secrets,w.onSessions db.sessions⟩

/-- What a transaction sees: what is committed, and its own writes. -/
def under (db : AuthDb) (ws : List Write) : AuthDb := ws.foldl apply db

/-- The primary key and the unique index on `token_hash`. -/
def admits (db : AuthDb) (s : RefreshTokenSession) : Bool :=
  db.sessions.rows.all fun r => r.id≠s.id && r.tokenHash≠s.tokenHash

def sessionOf (db : AuthDb) (tokenHash : Str) : Option RefreshTokenSession :=
  db.sessions.rows.find? fun s => s.tokenHash=tokenHash

def activeOf (db : AuthDb) (userId : ℕ) : List RefreshTokenSession :=
  db.sessions.rows.filter fun s => s.userId=userId && s.status=.ACTIVE

end AuthDb
inductive Request
  | refresh (refreshToken : Str)
  | revokeRefreshToken (userId : ℕ) (refreshToken : Option Str) (revokeAll : Bool)
  | changePassword (userId : ℕ) (currentPassword newPassword : Str)
  | verifyMfaSetup (userId : ℕ) (code : Str)
  | disableMfa (userId : ℕ) (code : Str)
  deriving DecidableEq

/-- What a call draws: the successor's token, id and end, and the salted digest of a password. -/
structure Drawn where
  refreshToken : Str
  sessionId : ℕ
  expiresAt : ℕ
  passwordHash : Str
  deriving DecidableEq

/-- What the transaction of `refresh` came to; all but the last end in `Invalid refresh token`. -/
inductive Refreshed
  | unknownToken
  | inactiveUser
  | reuseDetected (session : RefreshTokenSession)
  | rotated (session : RefreshTokenSession) (createdId : ℕ)
  deriving DecidableEq

inductive Answer
  | refreshed (r : Refreshed)
  | revoked
  | changed
  | mfaEnabled
  | mfaDisabled
  deriving DecidableEq

/-- The statement that a call makes next, with what it has read so far. -/
inductive Phase
  | owner
  | user (userId : ℕ)
  | session
  | compromise (session : RefreshTokenSession)
  | insert (session : RefreshTokenSession)
  | rotate (session : RefreshTokenSession) (createdId : ℕ)
  | lockUser (userId : ℕ)
  | revoke (userId : ℕ)
  | password (userId : ℕ)
  | secret (userId : ℕ)
  | disableSecrets (userId : ℕ) (secretId : ℕ)
  | verifySecret (userId : ℕ) (secretId : ℕ)
  | sessionVersion (userId : ℕ) (passwordHash : Option Str)
  | revokeActive (userId : ℕ)
  | commit (answer : Answer)
  | ended (result : Except AuthError Answer)

/-- A call: `writes` are those of its open transaction. -/
structure Call where
  request : Request
  drawn : Drawn
  phase : Phase
  writes : List Write

def Request.first : Request → Phase
  | .refresh _ => .owner
  | .revokeRefreshToken userId refreshToken revokeAll =>
    if revokeAll || refreshToken.any (·≠[]) then .lockUser userId
    else .ended (.error (.badRequest "refreshToken is required unless revokeAll is true"))
  | .changePassword userId _ _ => .password userId
  | .verifyMfaSetup userId _ => .secret userId
  | .disableMfa userId _ => .secret userId

/-- The user row that a statement takes `FOR NO KEY UPDATE`, or updates. -/
def Phase.locks : Phase → Option ℕ
  | .user userId => some userId
  | .lockUser userId => some userId
  | .sessionVersion userId _ => some userId
  | _ => none

namespace AuthDb
variable (db : AuthDb)

/-- The newest one where several match. -/
def findPendingMfaSecret (userId : ℕ) : Option MfaTotpSecret :=
  (db.secrets.rows.filter fun s => s.userId=userId && s.verifiedAt=none && s.disabledAt=none).argmax
    (·.createdAt)

def findActiveMfaSecret (userId : ℕ) : Option MfaTotpSecret :=
  (db.secrets.rows.filter fun s => s.userId=userId && s.verifiedAt≠none && s.disabledAt=none).argmax
    fun s => s.verifiedAt.getD 0

/-- The sessions that a logout ends: all active ones, or those of the token's families. -/
def revokes (userId : ℕ) (tokenHash : Option Str) : List RefreshTokenSession :=
  (db.activeOf userId).filter fun s => tokenHash.all fun hash =>
    db.sessions.rows.any fun r => r.userId=userId && r.tokenHash=hash && r.familyId=s.familyId

end AuthDb

def successor (env : Env) (drawn : Drawn) (s : RefreshTokenSession) : RefreshTokenSession :=
  ⟨drawn.sessionId,s.userId,env.hashRefreshToken drawn.refreshToken,s.familyId,.ACTIVE,
    drawn.expiresAt,none⟩

def verified (env : Env) (now : ℕ) (secret : MfaTotpSecret) (code : Str) : Except AuthError Unit :=
  match env.decryptMfaSecret secret.secretCiphertext with
  | none => throw (.unauthorized "Invalid MFA secret")
  | some plain =>
    if env.verifyTotpCode plain code now then pure ()
    else throw (.unauthorized "Invalid MFA code")

/-- One statement of a call where its transaction sees `db`: what comes next and what was
written, or the error that ends the call. -/
def advance (env : Env) (now : ℕ) (db : AuthDb) (c : Call) :
    Except AuthError (Phase × List Write) :=
  match c.phase, c.request with
  | .owner, .refresh refreshToken =>
    match db.sessionOf (env.hashRefreshToken refreshToken) with
    | none => pure (.commit (.refreshed .unknownToken),[])
    | some s => pure (.user s.userId,[])
  | .user userId, _ =>
    if (db.users.get? userId).any fun u => u.status=.ACTIVE then pure (.session,[])
    else pure (.commit (.refreshed .inactiveUser),[])
  | .session, .refresh refreshToken =>
    match db.sessionOf (env.hashRefreshToken refreshToken) with
    | none => pure (.commit (.refreshed .unknownToken),[])
    | some s =>
      if s.status≠.ACTIVE ∨ s.expiresAt≤now then pure (.compromise s,[]) else pure (.insert s,[])
  | .compromise s, _ =>
    pure (.commit (.refreshed (.reuseDetected s)),
      [.setStatus ((db.sessions.rows.filter fun r => r.familyId=s.familyId).map (·.id))
        .COMPROMISED])
  | .insert s, _ =>
    if db.admits (successor env c.drawn s) then
      pure (.rotate s c.drawn.sessionId,[.insertSession (successor env c.drawn s)])
    else throw .rolledBack
  | .rotate s createdId, _ =>
    pure (.commit (.refreshed (.rotated s createdId)),[.rotated s.id createdId])
  | .lockUser userId, _ => pure (.revoke userId,[])
  | .revoke userId, .revokeRefreshToken _ refreshToken revokeAll =>
    pure (.commit .revoked,[.setStatus ((db.revokes userId
      (if revokeAll then none else refreshToken.map env.hashRefreshToken)).map (·.id)) .REVOKED])
  | .password userId, .changePassword _ currentPassword newPassword =>
    match db.users.get? userId with
    | none => throw (.unauthorized "Current password is invalid")
    | some u =>
      if !env.verifyPassword u.passwordHash currentPassword then
        throw (.unauthorized "Current password is invalid")
      else if env.verifyPassword u.passwordHash newPassword then
        throw (.badRequest "New password must be different from current password")
      else
        match env.weakness newPassword with
        | some message => throw (.badRequest message)
        | none => pure (.sessionVersion userId (some c.drawn.passwordHash),[])
  | .secret userId, .verifyMfaSetup _ code =>
    match db.findPendingMfaSecret userId with
    | none => throw (.badRequest "MFA setup has not been started")
    | some secret => do
      verified env now secret code
      pure (.disableSecrets userId secret.id,[])
  | .secret userId, .disableMfa _ code =>
    match db.findActiveMfaSecret userId with
    | none => pure (.ended (.ok .mfaDisabled),[])
    | some secret => do
      verified env now secret code
      pure (.disableSecrets userId secret.id,[])
  | .disableSecrets userId secretId, .verifyMfaSetup _ _ =>
    pure (.verifySecret userId secretId,[.disableSecrets ((db.secrets.rows.filter fun s =>
      s.userId=userId && s.verifiedAt≠none && s.disabledAt=none).map (·.id)) now])
  | .disableSecrets userId _, _ =>
    pure (.sessionVersion userId none,[.disableSecrets ((db.secrets.rows.filter fun s =>
      s.userId=userId && s.disabledAt=none).map (·.id)) now])
  | .verifySecret userId secretId, _ =>
    pure (.sessionVersion userId none,[.verifySecret secretId now])
  | .sessionVersion userId passwordHash, _ =>
    pure (.revokeActive userId,[.bumpSessionVersion userId passwordHash])
  | .revokeActive userId, request =>
    pure (.commit (match request with
        | .changePassword _ _ _ => .changed
        | .verifyMfaSetup _ _ => .mfaEnabled
        | _ => .mfaDisabled),
      [.setStatus ((db.activeOf userId).map (·.id)) .REVOKED])
  | phase, _ => pure (phase,[])

structure System where
  db : AuthDb
  /-- Which call holds a user row. -/
  rowLock : ℕ → Option ℕ
  call : ℕ → Option Call

/-- `login` is the one INSERT of `createRefreshSession`, with a family that `randomUUID` drew. -/
inductive Action
  | start (i : ℕ) (request : Request) (drawn : Drawn)
  | advance (i : ℕ) (now : ℕ)
  | rollBack (i : ℕ)
  | login (session : RefreshTokenSession)
  | setUserStatus (userId : ℕ) (status : UserStatus)
  deriving DecidableEq

/-- The unique indexes, where the rows become visible. -/
def AuthDb.publishes (db : AuthDb) (ws : List Write) : Bool :=
  ws.all fun w => match w with
    | .insertSession s => db.admits s
    | _ => true

namespace System

/-- Nobody has sessions yet. -/
def initial (users : Table User.id) (secrets : Table MfaTotpSecret.id) : System :=
  ⟨⟨users,secrets,.empty⟩,fun _ => none,fun _ => none⟩

def release (s : System) (i : ℕ) : ℕ → Option ℕ := fun u =>
  if s.rowLock u=some i then none else s.rowLock u

/-- The end of a call, and of its transaction. -/
def finish (s : System) (i : ℕ) (c : Call) (db : AuthDb) (result : Except AuthError Answer) :
    System :=
  ⟨db,s.release i,Function.update s.call i (some {c with phase := .ended result, writes := []})⟩

/-- A statement waits where it takes a user row that another call holds. -/
def waits (s : System) (i : ℕ) (p : Phase) : Bool :=
  p.locks.any fun u => (s.rowLock u).any (·≠i)

def lock (s : System) (i : ℕ) (p : Phase) : ℕ → Option ℕ :=
  match p.locks with
  | none => s.rowLock
  | some u => Function.update s.rowLock u (some i)

def advance (env : Env) (s : System) (i : ℕ) (now : ℕ) (c : Call) : System :=
  match c.phase with
  | .ended _ => s
  | .commit answer =>
    if s.db.publishes c.writes then s.finish i c (s.db.under c.writes) (.ok answer)
    else s.finish i c s.db (.error .rolledBack)
  | phase =>
    if s.waits i phase then s
    else
      match RefreshTokens.advance env now (s.db.under c.writes) c with
      | .error e => s.finish i c s.db (.error e)
      | .ok (next,ws) => ⟨s.db,s.lock i phase,
          Function.update s.call i (some {c with phase := next, writes := c.writes++ws})⟩

def act (env : Env) (s : System) : Action → System
  | .start i request drawn =>
    match s.call i with
    | some _ => s
    | none => ⟨s.db,s.rowLock,Function.update s.call i (some ⟨request,drawn,request.first,[]⟩)⟩
  | .advance i now =>
    match s.call i with
    | none => s
    | some c => s.advance env i now c
  | .rollBack i =>
    match s.call i with
    | none => s
    | some c =>
      match c.phase with
      | .ended _ => s
      | _ => s.finish i c s.db (.error .rolledBack)
  | .login session =>
    if s.db.admits session ∧ ∀ r∈s.db.sessions.rows, r.familyId≠session.familyId then
      ⟨s.db.apply (.insertSession {session with status := .ACTIVE}),s.rowLock,s.call⟩
    else s
  | .setUserStatus userId status =>
    if s.rowLock userId=none then
      ⟨{s.db with users := s.db.users.modify userId (fun u => {u with status}) fun _ => rfl},
        s.rowLock,s.call⟩
    else s

def run (env : Env) (s : System) (as : List Action) : System := as.foldl (act env) s

end System
end AardvarkWms.RefreshTokens
