import Mathlib.Algebra.Ring.Nat
import Mathlib.Logic.Function.Basic
import Mathlib.Data.List.Infix
import Mathlib.Data.Nat.Basic

/-! Login backoff: the attempts to log in with one email, and the row that counts their failures,
`src/auth/auth.service.ts`. Times are in milliseconds. -/
namespace AardvarkWms.LoginBackoff

/-- What `env.ts` lets the settings be. -/
structure Config where
  threshold : ℕ
  baseSeconds : ℕ
  maxSeconds : ℕ
  windowSeconds : ℕ
  threshold_ge : 2≤threshold
  baseSeconds_pos : 0 < baseSeconds
  baseSeconds_le : baseSeconds ≤ maxSeconds

structure AuthLoginAttempt where
  failedCount : ℕ
  firstFailedAt : ℕ
  lastFailedAt : ℕ
  lockedUntil : Option ℕ
  deriving DecidableEq

/-- What the checks of a login come to. -/
inductive LoginCheck
  | userNotFoundOrInactive | invalidPassword | mfaCodeRequired | invalidMfaCode | succeeded
  deriving DecidableEq

/-- The reason that is recorded; a missing code is no failure. -/
def LoginCheck.failure : LoginCheck → Option String
  | userNotFoundOrInactive => some "user_not_found_or_inactive"
  | invalidPassword => some "invalid_password"
  | invalidMfaCode => some "invalid_mfa_code"
  | mfaCodeRequired | succeeded => none

namespace Config
variable (cfg : Config)

def windowMs : ℕ := cfg.windowSeconds*1000

def lockSeconds (failedCount : ℕ) : ℕ :=
  if cfg.threshold≤failedCount then min cfg.maxSeconds (cfg.baseSeconds*2^(failedCount-cfg.threshold))
  else 0

def withinWindow (row : Option AuthLoginAttempt) (now : ℕ) : Bool :=
  row.any fun r => now≤r.lastFailedAt+cfg.windowMs

def failedCount (row : Option AuthLoginAttempt) (now : ℕ) : ℕ :=
  if cfg.withinWindow row now then (row.map (·.failedCount)).getD 0+1 else 1

/-- The row as a failed attempt leaves it. -/
def recorded (row : Option AuthLoginAttempt) (now : ℕ) : AuthLoginAttempt :=
  let failedCount := cfg.failedCount row now
  let lockSeconds := cfg.lockSeconds failedCount
  {failedCount := failedCount
   firstFailedAt := if cfg.withinWindow row now then (row.map (·.firstFailedAt)).getD now else now
   lastFailedAt := now
   lockedUntil := if 0 < lockSeconds then some (now+lockSeconds*1000) else none}

end Config

/-- The next statement of an attempt. -/
inductive Phase
  | assertLoginBackoffAllowsAttempt
  | checks
  | recordFailedLoginAttempt
  | selectForUpdate (now : ℕ)
  | insert (now : ℕ)
  | clearFailedLoginAttempts
  | ended
  deriving DecidableEq

/-- What has happened: a check failed, its failure was recorded (in the window of the one before or not,
and with how long a lock) or lost to the unique index, a login succeeded. -/
inductive Event
  | failedCheck (time : ℕ)
  | recorded (withinWindow : Bool) (lockSeconds : ℕ)
  | lost
  | cleared
  deriving DecidableEq

/-- The last event comes first. -/
structure State where
  clock : ℕ
  row : Option AuthLoginAttempt
  attempt : ℕ → Option Phase
  log : List Event

inductive Action
  | wait (ms : ℕ)
  | login (i : ℕ)
  | advance (i : ℕ) (check : LoginCheck)
  deriving DecidableEq

def isLocked (row : Option AuthLoginAttempt) (now : ℕ) : Bool :=
  row.any fun r => r.lockedUntil.any fun t => now < t

namespace State
variable (cfg : Config) (s : State)

def initial (clock : ℕ) (row : Option AuthLoginAttempt) : State := ⟨clock,row,fun _ => none,[]⟩

def moveTo (i : ℕ) (p : Phase) : State := {s with attempt := Function.update s.attempt i (some p)}

/-- The transaction is committed with the failure counted. -/
def record (i now : ℕ) : State :=
  {s.moveTo i .ended with
    row := some (cfg.recorded s.row now)
    log := .recorded (cfg.withinWindow s.row now) (cfg.lockSeconds (cfg.failedCount s.row now))::s.log}

/-- Each statement sees what is committed; a row that is there is locked up to the commit, so that the
update is one step with the read, and the INSERT is refused where another attempt was first. -/
def advance (i : ℕ) (check : LoginCheck) : State :=
  match s.attempt i with
  | none | some .ended => s
  | some .assertLoginBackoffAllowsAttempt =>
    if isLocked s.row s.clock then s.moveTo i .ended else s.moveTo i .checks
  | some .checks =>
    if check.failure.isSome then
      {s.moveTo i .recordFailedLoginAttempt with log := .failedCheck s.clock::s.log}
    else if check=.succeeded then s.moveTo i .clearFailedLoginAttempts
    else s.moveTo i .ended
  | some .recordFailedLoginAttempt => s.moveTo i (.selectForUpdate s.clock)
  | some (.selectForUpdate now) =>
    if s.row.isSome then s.record cfg i now else s.moveTo i (.insert now)
  | some (.insert now) =>
    if s.row.isSome then {s.moveTo i .ended with log := .lost::s.log} else s.record cfg i now
  | some .clearFailedLoginAttempts => {s.moveTo i .ended with row := none, log := .cleared::s.log}

def act : Action → State
  | .wait ms => {s with clock := s.clock+ms}
  | .login i =>
    match s.attempt i with
    | some _ => s
    | none => s.moveTo i .assertLoginBackoffAllowsAttempt
  | .advance i check => s.advance cfg i check

def run (as : List Action) : State := as.foldl (act cfg) s

end State
end AardvarkWms.LoginBackoff
