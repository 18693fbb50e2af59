import AardvarkWms.Histories
import AardvarkWms.Messaging

/-! The session of the console in one tab, where requests that are refused share one refresh:
`src/frontend/src/core/api/http.ts` over `src/frontend/src/core/auth/session.ts`. -/
namespace AardvarkWms.ConsoleSession

open Messaging (Str)
open Histories

structure SessionTokens where
  accessToken : Str
  refreshToken : Str
  deriving DecidableEq

/-- The answer to a refresh: tokens, a refusal with 400, 401 or 403, or none that can be used. -/
inductive RefreshAnswer
  | verdict (tokens : Option SessionTokens)
  | unavailable

/-- Where an `apiRequest` is, with the access token that it has sent. -/
inductive Request
  | sent (token : Option Str)
  | refreshing (token : Option Str)
  | refreshed (token : Option Str) (renewed : Bool)
  | resent (token : Option Str)
  | ended

structure Tab where
  stored : Option SessionTokens
  /-- The refresh token that `refreshPromise` has sent. -/
  refreshPromise : Option Str
  requests : List Request
  /-- The refresh tokens with a verdict, the last one first. -/
  answered : List Str

namespace Tab
variable (s : Tab)

def accessToken : Option Str := s.stored.map (·.accessToken)

def refreshToken : Option Str := s.stored.map (·.refreshToken)

/-- A request ends with a 401, which ends the session that it was sent in. -/
def unauthorized (i : ℕ) (token : Option Str) : Tab :=
  {s with
    stored := if s.accessToken=token then none else s.stored
    requests := s.requests.set i .ended}

/-- After a 401 the request is sent again with a token that is new, or waits for a refresh. -/
def refreshAccessToken (i : ℕ) (token : Option Str) : Tab :=
  if s.accessToken≠token ∧ s.stored≠none then
    {s with requests := s.requests.set i (.resent s.accessToken)}
  else
    match s.refreshPromise.or s.refreshToken with
    | some sent =>
      {s with refreshPromise := some sent, requests := s.requests.set i (.refreshing token)}
    | none => {s with requests := s.requests.set i (.refreshed token false)}

end Tab

/-- What those who wait for the refresh are told; an error ends them. -/
def Request.told (renewed : Option Bool) : Request → Request
  | .refreshing token => renewed.elim .ended (.refreshed token)
  | r => r

inductive Event
  | saveTokens (t : SessionTokens)
  | clearTokens
  | apiRequest
  /-- A response with status 401. -/
  | unauthorized (i : ℕ)
  | response (i : ℕ)
  | refreshAnswer (a : RefreshAnswer)
  /-- The realtime channel was refused. -/
  | refreshAccessTokenForSession
  /-- A request goes on after the refresh. -/
  | continued (i : ℕ)

/-- The end of `performAccessTokenRefresh`: what is stored in the meantime stays. -/
def answer (s : Tab) (sent : Str) : RefreshAnswer → Tab
  | .verdict tokens =>
    {s with
      stored := if s.refreshToken=some sent then tokens else s.stored
      refreshPromise := none
      requests := s.requests.map (.told (some (s.refreshToken=some sent && tokens.isSome)))
      answered := sent::s.answered}
  | .unavailable => {s with refreshPromise := none, requests := s.requests.map (.told none)}

def act (s : Tab) : Event → Tab
  | .saveTokens t => {s with stored := some t}
  | .clearTokens => {s with stored := none}
  | .apiRequest => {s with requests := s.requests++[.sent s.accessToken]}
  | .unauthorized i =>
    match s.requests[i]? with
    | some (.sent token) => s.refreshAccessToken i token
    | some (.resent token) => s.unauthorized i token
    | _ => s
  | .response i =>
    match s.requests[i]? with
    | some (.sent _) | some (.resent _) => {s with requests := s.requests.set i .ended}
    | _ => s
  | .refreshAnswer a => s.refreshPromise.elim s (answer s · a)
  | .refreshAccessTokenForSession => {s with refreshPromise := s.refreshPromise.or s.refreshToken}
  | .continued i =>
    match s.requests[i]? with
    | some (.refreshed token true) =>
      {s with requests := s.requests.set i (.resent (s.accessToken.or token))}
    | some (.refreshed token false) => s.unauthorized i token
    | _ => s

def start : Tab := ⟨none,none,[],[]⟩

/-- Tokens that come in are new: their refresh token is neither on its way nor answered. -/
def Fresh (s : Tab) : Event → Prop
  | .saveTokens t | .refreshAnswer (.verdict (some t)) =>
    s.refreshPromise≠some t.refreshToken ∧ t.refreshToken∉s.answered
  | _ => True

instance decidableFresh (s : Tab) : ∀ e, Decidable (Fresh s e)
  | .saveTokens _ | .refreshAnswer (.verdict (some _)) => inferInstanceAs (Decidable (_∧_))
  | .refreshAnswer (.verdict none) | .refreshAnswer .unavailable | .clearTokens | .apiRequest
  | .unauthorized _ | .response _ | .refreshAccessTokenForSession | .continued _ => .isTrue trivial

/-- Neither what is stored nor what is on its way has been answered. -/
structure Tab.Sound (s : Tab) : Prop where
  stored : ∀ r, s.refreshToken=some r → r∉s.answered
  sent : ∀ r, s.refreshPromise=some r → r∉s.answered
  nodup : s.answered.Nodup

variable {s : Tab}

theorem sound_unauthorized (i : ℕ) (token : Option Str) (h : s.Sound) :
    (s.unauthorized i token).Sound := by
  unfold Tab.unauthorized
  split
  · exact ⟨nofun,h.sent,h.nodup⟩
  · exact ⟨h.stored,h.sent,h.nodup⟩

theorem not_answered (h : s.Sound) {r : Str} (hr : s.refreshPromise.or s.refreshToken=some r) :
    r∉s.answered := by
  cases Option.or_eq_some_iff.mp hr with
  | inl hold => exact h.sent r hold
  | inr hnew => exact h.stored r hnew.2

theorem sound_refresh (i : ℕ) (token : Option Str) (h : s.Sound) :
    (s.refreshAccessToken i token).Sound := by
  unfold Tab.refreshAccessToken
  split
  · exact ⟨h.stored,h.sent,h.nodup⟩
  · cases hsent : s.refreshPromise.or s.refreshToken with
    | none => exact ⟨h.stored,h.sent,h.nodup⟩
    | some r =>
      refine ⟨h.stored,?_,h.nodup⟩
      intro r' hr
      cases hr
      exact not_answered h hsent

theorem sound_answer {sent : Str} (hsent : s.refreshPromise=some sent) {a : RefreshAnswer}
    (hfresh : Fresh s (.refreshAnswer a)) (h : s.Sound) : (answer s sent a).Sound := by
  cases a with
  | unavailable => exact ⟨h.stored,nofun,h.nodup⟩
  | verdict tokens =>
    refine ⟨?_,nofun,List.nodup_cons.mpr ⟨h.sent sent hsent,h.nodup⟩⟩
    intro r hr hmem
    by_cases hcurrent : s.refreshToken=some sent
    · simp only [answer,if_pos hcurrent] at hr
      cases tokens with
      | none => cases hr
      | some t =>
        cases hr
        cases List.mem_cons.mp hmem with
        | inl hsame => exact hfresh.1 (hsent.trans (congrArg some hsame.symm))
        | inr hold => exact hfresh.2 hold
    · simp only [answer,if_neg hcurrent] at hr
      cases List.mem_cons.mp hmem with
      | inl hsame => exact hcurrent (hsame ▸ hr)
      | inr hold => exact h.stored r hr hold

theorem sound_act (e : Event) (h : s.Sound) (hfresh : Fresh s e) : (act s e).Sound := by
  cases e with
  | saveTokens t =>
    refine ⟨?_,h.sent,h.nodup⟩
    intro r hr
    cases hr
    exact hfresh.2
  | clearTokens => exact ⟨nofun,h.sent,h.nodup⟩
  | apiRequest => exact ⟨h.stored,h.sent,h.nodup⟩
  | unauthorized i =>
    simp only [act]
    split
    · exact sound_refresh _ _ h
    · exact sound_unauthorized _ _ h
    · exact h
  | response i =>
    simp only [act]
    split <;> exact ⟨h.stored,h.sent,h.nodup⟩
  | refreshAnswer a =>
    simp only [act]
    cases hsent : s.refreshPromise with
    | none => exact h
    | some sent => exact sound_answer hsent hfresh h
  | refreshAccessTokenForSession => exact ⟨h.stored,fun _ hr => not_answered h hr,h.nodup⟩
  | continued i =>
    simp only [act]
    split
    · exact ⟨h.stored,h.sent,h.nodup⟩
    · exact sound_unauthorized _ _ h
    · exact h

theorem stored_act {e : Event} (hlogin : ∀ t, e≠.saveTokens t) (h : s.stored=none) :
    (act s e).stored=none := by
  cases e with
  | saveTokens t => exact absurd rfl (hlogin t)
  | clearTokens => rfl
  | apiRequest => exact h
  | unauthorized i =>
    simp only [act]
    split
    · unfold Tab.refreshAccessToken
      rw [if_neg fun hnew => hnew.2 h]
      split <;> exact h
    · simp [Tab.unauthorized,h]
    · exact h
  | response i =>
    simp only [act]
    split <;> exact h
  | refreshAnswer a =>
    simp only [act]
    cases s.refreshPromise with
    | none => exact h
    | some sent => cases a <;> simp [answer,Tab.refreshToken,h]
  | refreshAccessTokenForSession => exact h
  | continued i =>
    simp only [act]
    split
    · exact h
    · simp [Tab.unauthorized,h]
    · exact h

end AardvarkWms.ConsoleSession
