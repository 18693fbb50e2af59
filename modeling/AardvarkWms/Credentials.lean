import AardvarkWms.RefreshTokens

/-! Logins and access tokens, around the sessions of `src/auth/auth.service.ts`. What a login was checked
against is kept with the family of sessions that it opens. -/
namespace AardvarkWms.RefreshTokens

open Messaging (Str)

/-- Zero where there is no such user. -/
def AuthDb.getUserSessionVersion (db : AuthDb) (userId : ℕ) : ℕ :=
  ((db.users.get? userId).map (·.sessionVersion)).getD 0

/-- A code was verified, or the user had no active secret. -/
inductive MfaCheck
  | verified | withoutSecret
  deriving DecidableEq

/-- The user's session version when the password's digest was read, and when the MFA secret was. -/
structure Checks where
  userId : ℕ
  passwordAt : ℕ
  mfaAt : ℕ
  mfa : MfaCheck
  deriving DecidableEq

/-- The statement that a login makes next. -/
inductive LoginPhase
  | user
  | secret (passwordAt : ℕ)
  | sessionVersion (checks : Checks)
  | createSession (checks : Checks) (sessionVersion : ℕ)
  | ended
  deriving DecidableEq

structure Login where
  userId : ℕ
  password : Str
  mfaCode : Option Str
  phase : LoginPhase
  deriving DecidableEq

/-- The checks are those of the login that the token goes back to. -/
structure AccessToken where
  userId : ℕ
  sessionVersion : ℕ
  mfaSatisfied : Bool
  checks : Checks
  deriving DecidableEq

/-- What a refresh does next, once its transaction is committed and its user is found. -/
inductive Reissue
  | sessionVersion (session : RefreshTokenSession)
  | secret (session : RefreshTokenSession) (sessionVersion : ℕ)
  | ended
  deriving DecidableEq

/-- The system with its logins under way, the checks of each family and the access tokens given out. -/
structure Server where
  sys : System
  login : ℕ → Option Login
  reissue : ℕ → Option Reissue
  checks : ℕ → Option Checks
  tokens : List AccessToken

inductive ServerAction
  | call (a : Action)
  | startLogin (k userId : ℕ) (password : Str) (mfaCode : Option Str)
  | login (k now : ℕ)
  | createSession (k id : ℕ) (tokenHash : Str) (familyId expiresAt : ℕ)
  | respond (i : ℕ)
  deriving DecidableEq

def Login.next (env : Env) (now : ℕ) (db : AuthDb) (l : Login) : LoginPhase :=
  match l.phase with
  | .user =>
    match db.users.get? l.userId with
    | none => .ended
    | some u =>
      if u.status=.ACTIVE && env.verifyPassword u.passwordHash l.password then .secret u.sessionVersion
      else .ended
  | .secret passwordAt =>
    let checks := Checks.mk l.userId passwordAt (db.getUserSessionVersion l.userId)
    match db.findActiveMfaSecret l.userId with
    | none => .sessionVersion (checks .withoutSecret)
    | some secret =>
      match l.mfaCode.filter (·≠[]) with
      | none => .ended
      | some code =>
        match verified env now secret code with
        | .error _ => .ended
        | .ok _ => .sessionVersion (checks .verified)
  | .sessionVersion checks => .createSession checks (db.getUserSessionVersion l.userId)
  | phase => phase

namespace Server

def initial (users : Table User.id) (secrets : Table MfaTotpSecret.id) : Server :=
  ⟨.initial users secrets,fun _ => none,fun _ => none,fun _ => none,[]⟩

/-- The session that a refresh has renewed. -/
def rotated (s : Server) (i : ℕ) : Option RefreshTokenSession :=
  match s.sys.call i with
  | some ⟨_,_,.ended (.ok (.refreshed (.rotated session _))),_⟩ => some session
  | _ => none

/-- What follows the transaction of a refresh, up to `buildAuthResponse`. -/
def respond (s : Server) (i : ℕ) : Server :=
  match s.reissue i with
  | none =>
    match s.rotated i with
    | none => s
    | some session =>
      let isActive := (s.sys.db.users.get? session.userId).any fun u => u.status=.ACTIVE
      let next := if isActive then Reissue.sessionVersion session else .ended
      {s with reissue := Function.update s.reissue i (some next)}
  | some (.sessionVersion session) =>
    let next := Reissue.secret session (s.sys.db.getUserSessionVersion session.userId)
    {s with reissue := Function.update s.reissue i (some next)}
  | some (.secret session sessionVersion) =>
    let mfaSatisfied := (s.sys.db.findActiveMfaSecret session.userId).isSome
    let given := (s.checks session.familyId).toList.map fun checks =>
      AccessToken.mk session.userId sessionVersion mfaSatisfied checks
    {s with reissue := Function.update s.reissue i (some .ended), tokens := given++s.tokens}
  | some .ended => s

/-- The session of a login, and with it the answer. -/
def createSession (env : Env) (s : Server) (k : ℕ) (l : Login) (checks : Checks) (sessionVersion : ℕ)
    (session : RefreshTokenSession) : Server :=
  let login := Function.update s.login k (some {l with phase := .ended})
  if s.sys.db.admits session ∧ ∀ r∈s.sys.db.sessions.rows, r.familyId≠session.familyId then
    {s with
      sys := s.sys.act env (.login session)
      login := login
      checks := Function.update s.checks session.familyId (some checks)
      tokens := ⟨l.userId,sessionVersion,checks.mfa=.verified,checks⟩::s.tokens}
  else {s with login := login}

def act (env : Env) (s : Server) : ServerAction → Server
  | .call (.login _) => s
  | .call a => {s with sys := s.sys.act env a}
  | .startLogin k userId password mfaCode =>
    match s.login k with
    | some _ => s
    | none => {s with login := Function.update s.login k (some ⟨userId,password,mfaCode,.user⟩)}
  | .login k now =>
    match s.login k with
    | none => s
    | some l => {s with
        login := Function.update s.login k (some {l with phase := l.next env now s.sys.db})}
  | .createSession k id tokenHash familyId expiresAt =>
    match s.login k with
    | none => s
    | some l =>
      match l.phase with
      | .createSession checks sessionVersion =>
        s.createSession env k l checks sessionVersion
          ⟨id,l.userId,tokenHash,familyId,.ACTIVE,expiresAt,none⟩
      | _ => s
  | .respond i => s.respond i

def run (env : Env) (s : Server) (as : List ServerAction) : Server := as.foldl (act env) s

end Server

/-- `verifyAccessTokenContext`, but for the signature and the end of the token. -/
def AccessToken.Validates (t : AccessToken) (db : AuthDb) : Prop :=
  ∃ u, db.users.get? t.userId=some u ∧ u.status=.ACTIVE ∧ u.sessionVersion=t.sessionVersion

end AardvarkWms.RefreshTokens
