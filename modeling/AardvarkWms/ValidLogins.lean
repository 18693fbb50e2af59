import AardvarkWms.CredentialChanges

/-! What is valid goes back to a login that was checked after the last change of credentials, as long as
no change falls between the checks and the answer. -/
namespace AardvarkWms.RefreshTokens


/-- The call has revoked the user's sessions for a change of credentials, but not committed it. -/
def Call.hasRevoked (c : Call) (userId : ℕ) : Bool :=
  c.writes.any (fun w => match w with
    | .bumpSessionVersion u _ => u=userId
    | _ => false) &&
  c.writes.any fun w => match w with
    | .setStatus _ .REVOKED => true
    | _ => false

/-- A login gives out its session, and a refresh reads the session version, only while the user's session
version is the one that the password was checked at; and no change is about to be committed that has
revoked the sessions before this one. -/
def Server.Timely (s : Server) : ServerAction → Prop
  | .createSession k _ _ _ _ => ∀ l checks sessionVersion, s.login k=some l →
      l.phase=.createSession checks sessionVersion →
      s.sys.db.getUserSessionVersion l.userId=checks.passwordAt ∧
      ∀ i c, s.sys.call i=some c → c.hasRevoked l.userId=false
  | .respond i => ∀ session checks, s.reissue i=some (.sessionVersion session) →
      s.checks session.familyId=some checks →
      s.sys.db.getUserSessionVersion session.userId=checks.passwordAt
  | _ => True

/-- Each action of the run is timely where it is taken. -/
def Server.TimelyRun (env : Env) (s : Server) : List ServerAction → Prop
  | [] => True
  | a::as => s.Timely a ∧ (s.act env a).TimelyRun env as

/-- The login was this user's, and all its checks were made after the last change of credentials: each
change counts the session version up. -/
structure Checks.AfterChanges (k : Checks) (db : AuthDb) (userId : ℕ) : Prop where
  user : k.userId=userId
  password : k.passwordAt=db.getUserSessionVersion userId
  mfa : k.mfaAt=db.getUserSessionVersion userId

/-- Every active session and every access token that validates goes back to such a login; and an access
token says that MFA is satisfied only if its login verified a code. -/
def Server.LoggedInSince (s : Server) : Prop :=
  (∀ x∈s.sys.db.sessions.rows, x.status=.ACTIVE →
    ∃ k, s.checks x.familyId=some k ∧ k.AfterChanges s.sys.db x.userId) ∧
  ∀ t∈s.tokens, t.Validates s.sys.db →
    t.checks.AfterChanges s.sys.db t.userId ∧ (t.mfaSatisfied=true → t.checks.mfa=.verified)

/-! ### What holds of the logins -/

structure Checks.Fits (k : Checks) (db : AuthDb) : Prop where
  user : (db.users.get? k.userId).isSome=true
  order : k.passwordAt≤k.mfaAt
  bound : k.mfaAt≤db.getUserSessionVersion k.userId
  secret : k.mfaAt=db.getUserSessionVersion k.userId →
    (k.mfa=.verified ↔ (db.findActiveMfaSecret k.userId).isSome=true)

def Login.Fits (l : Login) (db : AuthDb) : Prop :=
  match l.phase with
  | .secret passwordAt =>
    (db.users.get? l.userId).isSome=true ∧ passwordAt≤db.getUserSessionVersion l.userId
  | .sessionVersion checks => checks.userId=l.userId ∧ checks.Fits db
  | .createSession checks sessionVersion => checks.userId=l.userId ∧ checks.Fits db ∧
      checks.mfaAt ≤ sessionVersion ∧ sessionVersion≤db.getUserSessionVersion l.userId
  | _ => True

structure AccessToken.Fits (t : AccessToken) (db : AuthDb) : Prop where
  checks : t.checks.Fits db
  user : t.checks.userId=t.userId
  password : t.checks.passwordAt=t.sessionVersion
  mfa : t.checks.mfaAt=t.sessionVersion
  satisfied : t.sessionVersion=db.getUserSessionVersion t.userId → t.mfaSatisfied=true →
    t.checks.mfa=.verified

/-- The session of the row goes back to the login of its family. -/
def Server.Descends (s : Server) (x : RefreshTokenSession) : Prop :=
  ∃ k, s.checks x.familyId=some k ∧ k.Fits s.sys.db ∧ k.userId=x.userId ∧
    (x.status=.ACTIVE → k.passwordAt=s.sys.db.getUserSessionVersion x.userId)

def Reissue.Fits (s : Server) : Reissue → Prop
  | .sessionVersion session => Known s.sys.db.sessions session
  | .secret session version => Known s.sys.db.sessions session ∧
      ∀ k, s.checks session.familyId=some k → k.passwordAt=version ∧ k.mfaAt=version
  | .ended => True

structure Server.Inv (env : Env) (s : Server) : Prop where
  sys : s.sys.Inv env
  changing : s.sys.Changing
  renewing : s.sys.Renewing
  sessions : ∀ x∈s.sys.db.sessions.rows, s.Descends x
  logins : ∀ k l, s.login k=some l → l.Fits s.sys.db
  reissues : ∀ i r, s.reissue i=some r → r.Fits s
  tokens : ∀ t∈s.tokens, t.Fits s.sys.db

section Later
variable {db db' : AuthDb}

/-- A user's credentials are as they were, or its session version has been counted up. -/
structure Later (db db' : AuthDb) : Prop where
  users : ∀ u, (db'.users.get? u).isSome=(db.users.get? u).isSome
  versions : ∀ u, (db.users.get? u).isSome=true →
    (db'.getUserSessionVersion u=db.getUserSessionVersion u ∧
      db'.findActiveMfaSecret u=db.findActiveMfaSecret u) ∨
    db.getUserSessionVersion u < db'.getUserSessionVersion u

theorem Moved.later (h : Moved db db') : Later db db' :=
  ⟨h.users,fun u hu => (h.versions u hu).imp id And.left⟩

theorem later_insertSession (db : AuthDb) (row : RefreshTokenSession) :
    Later db (db.apply (.insertSession row)) :=
  ⟨fun _ => rfl,fun _ _ => Or.inl ⟨rfl,rfl⟩⟩

theorem Later.version_le (h : Later db db') {u : ℕ} (hu : (db.users.get? u).isSome=true) :
    db.getUserSessionVersion u≤db'.getUserSessionVersion u := by
  cases h.versions u hu with
  | inl hsame => exact hsame.1.ge
  | inr hmore => exact hmore.le

theorem Checks.Fits.later {k : Checks} (hk : k.Fits db) (h : Later db db') : k.Fits db' := by
  refine ⟨(h.users k.userId).trans hk.user,hk.order,hk.bound.trans (h.version_le hk.user),fun hat => ?_⟩
  cases h.versions k.userId hk.user with
  | inl hsame =>
    rw [hsame.1] at hat
    rw [hsame.2]
    exact hk.secret hat
  | inr hmore =>
    have hbound := hk.bound
    omega

theorem Login.Fits.later {l : Login} (hl : l.Fits db) (h : Later db db') : l.Fits db' := by
  unfold Login.Fits at hl ⊢
  split
  next passwordAt hphase =>
    rw [hphase] at hl
    exact ⟨(h.users l.userId).trans hl.1,hl.2.trans (h.version_le hl.1)⟩
  next checks hphase =>
    rw [hphase] at hl
    exact ⟨hl.1,hl.2.later h⟩
  next checks v hphase =>
    rw [hphase] at hl
    obtain ⟨huser,hchecks,hfrom,hto⟩ := hl
    have hu : (db.users.get? l.userId).isSome=true := huser ▸ hchecks.user
    exact ⟨huser,hchecks.later h,hfrom,hto.trans (h.version_le hu)⟩
  next => trivial

theorem AccessToken.Fits.later {t : AccessToken} (ht : t.Fits db) (h : Later db db') : t.Fits db' := by
  refine ⟨ht.checks.later h,ht.user,ht.password,ht.mfa,fun hat => ?_⟩
  have hu : (db.users.get? t.userId).isSome=true := ht.user ▸ ht.checks.user
  have hbound := ht.checks.bound
  rw [ht.mfa,ht.user] at hbound
  cases h.versions t.userId hu with
  | inl hsame =>
    rw [hsame.1] at hat
    exact ht.satisfied hat
  | inr hmore =>
    omega

end Later

section Step
variable {env : Env} {s : Server}

theorem Server.Descends.later {x' : RefreshTokenSession} {sys : System}
    (hsessions : ∀ x∈s.sys.db.sessions.rows, s.Descends x) (h : Moved s.sys.db sys.db)
    (hx' : x'∈sys.db.sessions.rows) : Server.Descends {s with sys := sys} x' := by
  obtain ⟨x,hx,hfamily,huser,hactive⟩ := h.rows x' hx'
  obtain ⟨k,hk,hfits,hku,hat⟩ := hsessions x hx
  refine ⟨k,hfamily ▸ hk,hfits.later h.later,hku.trans huser,fun hstatus => ?_⟩
  have hu : (s.sys.db.users.get? x.userId).isSome=true := hku ▸ hfits.user
  cases h.versions x.userId hu with
  | inl hsame =>
    show k.passwordAt=sys.db.getUserSessionVersion x'.userId
    rw [← huser,hsame.1]
    exact hat (hactive hstatus)
  | inr hmore => exact (hmore.2 x' hx' huser.symm hstatus).elim

theorem Server.Inv.call (h : s.Inv env) (a : Action) (hlogin : ∀ row, a≠.login row) :
    Server.Inv env {s with sys := s.sys.act env a} := by
  obtain ⟨hmoved,hchanging⟩ := h.changing.act h.sys a hlogin
  refine ⟨(h.sys.act a).1,hchanging,h.renewing.act h.sys h.changing a hlogin,?_,?_,?_,?_⟩
  · exact fun x hx => Server.Descends.later h.sessions hmoved hx
  · exact fun k l hl => (h.logins k l hl).later hmoved.later
  · intro i r hr
    have hfits := h.reissues i r hr
    cases r with
    | sessionVersion session => exact Known.later hfits hmoved.families
    | secret session version => exact ⟨hfits.1.later hmoved.families,hfits.2⟩
    | ended => trivial
  · exact fun t ht => (h.tokens t ht).later hmoved.later

theorem Login.Fits.next {l : Login} {db : AuthDb} (hl : l.Fits db) (now : ℕ) :
    Login.Fits {l with phase := l.next env now db} db := by
  obtain ⟨userId,password,mfaCode,phase⟩ := l
  cases phase with
  | user =>
    simp only [Login.next]
    split
    · trivial
    next u hu =>
      split
      · have hversion : db.getUserSessionVersion userId=u.sessionVersion := by
          rw [AuthDb.getUserSessionVersion,hu]
          rfl
        exact ⟨by rw [hu]; rfl,hversion.ge⟩
      · trivial
  | secret passwordAt =>
    obtain ⟨huser,hat⟩ := hl
    simp only [Login.next]
    split
    next hnone =>
      refine ⟨rfl,huser,hat,le_rfl,fun _ => ?_⟩
      show (MfaCheck.withoutSecret=.verified ↔ (db.findActiveMfaSecret userId).isSome=true)
      rw [hnone]
      decide
    next secret hsome =>
      split
      · trivial
      · split
        · trivial
        · refine ⟨rfl,huser,hat,le_rfl,fun _ => ?_⟩
          show (MfaCheck.verified=.verified ↔ (db.findActiveMfaSecret userId).isSome=true)
          rw [hsome]
          exact ⟨fun _ => rfl,fun _ => rfl⟩
  | sessionVersion checks =>
    obtain ⟨huser,hchecks⟩ := hl
    have hbound := hchecks.bound
    rw [huser] at hbound
    exact ⟨huser,hchecks,hbound,le_rfl⟩
  | createSession checks v => exact hl
  | ended => trivial

theorem Server.Inv.startLogin (h : s.Inv env) (k : ℕ) {l : Login} (hl : l.Fits s.sys.db) :
    Server.Inv env {s with login := Function.update s.login k (some l)} := by
  refine ⟨h.sys,h.changing,h.renewing,h.sessions,?_,h.reissues,h.tokens⟩
  intro j d hd
  by_cases hj : j=k
  · subst hj
    simp only [Function.update_self,Option.some.injEq] at hd
    exact hd ▸ hl
  · simp only [Function.update_of_ne hj] at hd
    exact h.logins j d hd

theorem Server.Inv.reissued (h : s.Inv env) (i : ℕ) {r : Reissue} (hr : r.Fits s) :
    Server.Inv env {s with reissue := Function.update s.reissue i (some r)} := by
  refine ⟨h.sys,h.changing,h.renewing,h.sessions,h.logins,?_,h.tokens⟩
  intro j d hd
  by_cases hj : j=i
  · subst hj
    simp only [Function.update_self,Option.some.injEq] at hd
    exact hd ▸ hr
  · simp only [Function.update_of_ne hj] at hd
    exact h.reissues j d hd

theorem Server.Inv.known (h : s.Inv env) {session : RefreshTokenSession}
    (hknown : Known s.sys.db.sessions session) {k : Checks} (hk : s.checks session.familyId=some k) :
    k.Fits s.sys.db ∧ k.userId=session.userId := by
  obtain ⟨x,hx,hfamily,huser⟩ := hknown
  obtain ⟨k',hk',hfits,hku,-⟩ := h.sessions x hx
  rw [hfamily,hk] at hk'
  obtain rfl := Option.some.inj hk'
  exact ⟨hfits,hku.trans huser⟩

theorem Server.rotated_some {i : ℕ} {session : RefreshTokenSession} (h : s.rotated i=some session) :
    ∃ c, s.sys.call i=some c ∧ c.phase.renewed=some session := by
  unfold Server.rotated at h
  split at h
  next request drawn session' createdId writes hcall =>
    exact ⟨_,hcall,h⟩
  next => cases h

theorem Server.Inv.respond (h : s.Inv env) (i : ℕ) (htimely : s.Timely (.respond i)) :
    (s.respond i).Inv env := by
  unfold Server.respond
  split
  · split
    · exact h
    next session hrotated =>
      refine h.reissued i ?_
      obtain ⟨c,hcall,hrenewed⟩ := Server.rotated_some hrotated
      split
      · exact h.renewing i c session hcall hrenewed
      · trivial
  next session hreissue =>
    have hknown : Known s.sys.db.sessions session := h.reissues i _ hreissue
    refine h.reissued i ⟨hknown,fun k hk => ?_⟩
    -- no change since the login, so its MFA check is of this session version too
    have hat := htimely session k hreissue hk
    obtain ⟨hfits,huser⟩ := h.known hknown hk
    have horder := hfits.order
    have hbound := hfits.bound
    rw [huser] at hbound
    constructor
    · omega
    · omega
  next session version hreissue =>
    obtain ⟨hknown,hversion⟩ := h.reissues i _ hreissue
    have hended := h.reissued i (show Reissue.ended.Fits s from trivial)
    refine ⟨hended.sys,hended.changing,hended.renewing,hended.sessions,hended.logins,hended.reissues,?_⟩
    intro t ht
    cases List.mem_append.mp ht with
    | inr hold => exact h.tokens t hold
    | inl hnew =>
      obtain ⟨k,hk,rfl⟩ := List.mem_map.mp hnew
      have hk' := Option.mem_toList.mp hk
      obtain ⟨hfits,huser⟩ := h.known hknown hk'
      obtain ⟨hpassword,hmfa⟩ := hversion k hk'
      refine ⟨hfits,huser,hpassword,hmfa,fun hat hactive => ?_⟩
      have hnow : k.mfaAt=s.sys.db.getUserSessionVersion k.userId := by
        rw [huser,hmfa]
        exact hat
      exact (hfits.secret hnow).mpr (huser ▸ hactive)
  · exact h

theorem System.Changing.login {sys : System} (h : sys.Changing) {row : RefreshTokenSession}
    (hadmits : sys.db.admits row=true)
    (hpending : ∀ i c, sys.call i=some c → c.hasRevoked row.userId=false) :
    System.Changing ⟨sys.db.apply (.insertSession {row with status := .ACTIVE}),sys.rowLock,sys.call⟩ := by
  intro i c hi
  refine (h i c hi).later (sameSecrets_refl _) (fun _ hu => hu) ?_
  intro u hheld hrevoked x' hx' huser hstatus
  have hrows := login_rows hadmits
  rw [hrows] at hx'
  cases List.mem_append.mp hx' with
  | inl hold => exact hold
  | inr hnew =>
    obtain rfl := List.mem_singleton.mp hnew
    have hnone := hpending i c hi
    obtain ⟨pre,ids,hws,⟨pre',hash,hbump,-⟩,-⟩ := hrevoked
    have hsome : c.hasRevoked row.userId=true := by
      subst huser
      rw [Call.hasRevoked,hws,hbump]
      simp
    rw [hsome] at hnone
    cases hnone

theorem System.Renewing.login {sys : System} (h : sys.Renewing) {row : RefreshTokenSession}
    (hadmits : sys.db.admits row=true) :
    System.Renewing ⟨sys.db.apply (.insertSession {row with status := .ACTIVE}),sys.rowLock,sys.call⟩ := by
  refine h.later fun x hx => ⟨x,?_,rfl,rfl⟩
  rw [login_rows hadmits]
  exact List.mem_append_left _ hx

theorem Server.Inv.createSession (h : s.Inv env) {k : ℕ} {l : Login} (hl : s.login k=some l)
    {checks : Checks} {version : ℕ} (hphase : l.phase=.createSession checks version)
    (hat : s.sys.db.getUserSessionVersion l.userId=checks.passwordAt)
    (hpending : ∀ i c, s.sys.call i=some c → c.hasRevoked l.userId=false)
    {session : RefreshTokenSession} (huser : session.userId=l.userId) :
    (s.createSession env k l checks version session).Inv env := by
  obtain ⟨hku,hfits,hfrom,hto⟩ : checks.userId=l.userId ∧ checks.Fits s.sys.db ∧
      checks.mfaAt≤version ∧ version ≤ s.sys.db.getUserSessionVersion l.userId := by
    have hfits := h.logins k l hl
    rw [Login.Fits,hphase] at hfits
    exact hfits
  have horder := hfits.order
  have hended := h.startLogin k (l := {l with phase := .ended}) trivial
  unfold Server.createSession
  split
  next hnew =>
    obtain ⟨hadmits,hfresh⟩ := hnew
    have hsys : s.sys.act env (.login session)=
        ⟨s.sys.db.apply (.insertSession {session with status := .ACTIVE}),s.sys.rowLock,s.sys.call⟩ :=
      if_pos ⟨hadmits,hfresh⟩
    have hinv := (h.sys.act (.login session)).1
    rw [hsys] at hinv ⊢
    have hrows := login_rows hadmits
    have hlater := later_insertSession s.sys.db {session with status := .ACTIVE}
    -- the families that are there keep their login
    have hother : ∀ {x}, x∈s.sys.db.sessions.rows → Function.update s.checks session.familyId
        (some checks) x.familyId=s.checks x.familyId :=
      fun hx => Function.update_of_ne (hfresh _ hx) _ _
    refine ⟨hinv,h.changing.login hadmits (huser.symm ▸ hpending),h.renewing.login hadmits,?_,?_,?_,?_⟩
    · intro x hx
      have hx' := hrows ▸ hx
      cases List.mem_append.mp hx' with
      | inl hold =>
        obtain ⟨k',hk',hfits',hku',hat'⟩ := h.sessions x hold
        exact ⟨k',(hother hold).trans hk',hfits'.later hlater,hku',hat'⟩
      | inr hnew =>
        obtain rfl := List.mem_singleton.mp hnew
        refine ⟨checks,Function.update_self _ _ _,hfits.later hlater,hku.trans huser.symm,fun _ => ?_⟩
        rw [← hat]
        show _=s.sys.db.getUserSessionVersion session.userId
        rw [huser]
    · exact fun j d hd => (hended.logins j d hd).later hlater
    · intro i r hr
      have hr' := h.reissues i r hr
      have hknown : ∀ {y}, Known s.sys.db.sessions y →
          Known (s.sys.db.apply (.insertSession {session with status := .ACTIVE})).sessions y := by
        intro y hy
        refine hy.later fun x hx => ⟨x,?_,rfl,rfl⟩
        rw [hrows]
        exact List.mem_append_left _ hx
      cases r with
      | sessionVersion y => exact hknown hr'
      | secret y v =>
        obtain ⟨x,hx,hfamily,_⟩ := hr'.1
        refine ⟨hknown hr'.1,fun k' hk' => hr'.2 k' ?_⟩
        have hsame := hother hx
        rw [hfamily] at hsame
        exact hsame ▸ hk'
      | ended => trivial
    · intro t ht
      cases List.mem_cons.mp ht with
      | inr hold => exact (h.tokens t hold).later hlater
      | inl hnew =>
        subst hnew
        refine ⟨hfits.later hlater,hku,?_,?_,fun _ hsatisfied => of_decide_eq_true hsatisfied⟩
        · show checks.passwordAt=version
          omega
        · show checks.mfaAt=version
          omega
  next => exact hended

theorem Server.Inv.act (h : s.Inv env) (a : ServerAction) (htimely : s.Timely a) :
    (s.act env a).Inv env := by
  cases a with
  | call a =>
    cases a with
    | login session => exact h
    | start i request drawn => exact h.call _ nofun
    | advance i now => exact h.call _ nofun
    | rollBack i => exact h.call _ nofun
    | setUserStatus userId status => exact h.call _ nofun
  | startLogin k userId password mfaCode =>
    simp only [Server.act]
    split
    · exact h
    · exact h.startLogin k trivial
  | login k now =>
    simp only [Server.act]
    split
    · exact h
    next l hl => exact h.startLogin k ((h.logins k l hl).next now)
  | createSession k id tokenHash familyId expiresAt =>
    simp only [Server.act]
    split
    · exact h
    next l hl =>
      split
      next checks version hphase =>
        obtain ⟨hat,hpending⟩ := htimely l checks version hl hphase
        exact h.createSession hl hphase hat hpending rfl
      next => exact h
  | respond i => exact h.respond i htimely

theorem Server.Inv.run (h : s.Inv env) (as : List ServerAction) (htimely : s.TimelyRun env as) :
    (s.run env as).Inv env := by
  induction as generalizing s with
  | nil => exact h
  | cons a as ih => exact ih (h.act a htimely.1) htimely.2

end Step

theorem Server.timelyRun_append {env : Env} {s : Server} {as bs : List ServerAction} :
    s.TimelyRun env (as++bs) ↔ s.TimelyRun env as ∧ (s.run env as).TimelyRun env bs := by
  induction as generalizing s with
  | nil => exact ⟨fun h => ⟨trivial,h⟩,And.right⟩
  | cons a as ih =>
    constructor
    · intro h
      obtain ⟨has,hbs⟩ := ih.mp h.2
      exact ⟨⟨h.1,has⟩,hbs⟩
    · intro h
      exact ⟨h.1.1,ih.mpr ⟨h.1.2,h.2⟩⟩

/-- An action that gives nothing out. -/
def ServerAction.isFree : ServerAction → Bool
  | .createSession _ _ _ _ _ | .respond _ => false
  | _ => true

theorem Server.timelyRun_of_free {env : Env} {as : List ServerAction} (h : as.all (·.isFree)=true) :
    ∀ s : Server, s.TimelyRun env as := by
  induction as with
  | nil => exact fun _ => trivial
  | cons a as ih =>
    intro s
    rw [List.all_cons,Bool.and_eq_true] at h
    refine ⟨?_,ih h.2 _⟩
    cases a with
    | createSession k id tokenHash familyId expiresAt => cases h.1
    | respond i => cases h.1
    | _ => trivial

theorem Server.inv_initial (env : Env) (users : Table User.id) (secrets : Secrets) :
    (Server.initial users secrets).Inv env :=
  ⟨RefreshTokens.inv_initial env users secrets,fun _ _ h => (Option.some_ne_none _ h.symm).elim,
    fun _ _ _ h => (Option.some_ne_none _ h.symm).elim,fun _ h => (List.not_mem_nil h).elim,
    fun _ _ h => (Option.some_ne_none _ h.symm).elim,fun _ _ h => (Option.some_ne_none _ h.symm).elim,
    fun _ h => (List.not_mem_nil h).elim⟩

theorem Server.Inv.loggedInSince {env : Env} {s : Server} (h : s.Inv env) : s.LoggedInSince := by
  constructor
  · intro x hx hactive
    obtain ⟨k,hk,hfits,huser,hat⟩ := h.sessions x hx
    refine ⟨k,hk,huser,hat hactive,?_⟩
    have horder := hfits.order
    have hbound := hfits.bound
    have hpassword := hat hactive
    rw [huser] at hbound
    omega
  · rintro t ht ⟨u,hu,-,hversion⟩
    have hfits := h.tokens t ht
    have hnow : t.sessionVersion=s.sys.db.getUserSessionVersion t.userId := by
      rw [AuthDb.getUserSessionVersion,hu]
      exact hversion.symm
    exact ⟨⟨hfits.user,hfits.password.trans hnow,hfits.mfa.trans hnow⟩,hfits.satisfied hnow⟩

/-- In every state that a timely run reaches. -/
theorem logged_in_since (env : Env) (users : Table User.id) (secrets : Secrets) (as : List ServerAction)
    (htimely : (Server.initial users secrets).TimelyRun env as) :
    ((Server.initial users secrets).run env as).LoggedInSince :=
  ((Server.inv_initial env users secrets).run as htimely).loggedInSince

def loginUpTo : List ServerAction :=
  [.startLogin 0 1 [] none,.login 0 0,.login 0 0,.login 0 0]

def created : ServerAction := .createSession 0 1 ['h'] 7 100

def passwordChange : List ServerAction :=
  .call (.start 5 (.changePassword 1 [] ['n']) ⟨[],0,0,['n']⟩)::List.replicate 4 (.call (.advance 5 0))

def demoServer (as : List ServerAction) : Server := (Server.initial demoUsers .empty).run demoEnv as

theorem logged_in_since_demo :
    (demoServer (loginUpTo++created::passwordChange)).LoggedInSince ∧
      (demoServer (loginUpTo++created::passwordChange)).sys.db.getUserSessionVersion 1=1 := by
  have hlogin : (demoServer loginUpTo).login 0=
      some ⟨1,[],none,.createSession ⟨1,0,0,.withoutSecret⟩ 0⟩ := by decide +kernel
  have htimely : (demoServer loginUpTo).Timely created := by
    intro l checks version hl hphase
    rw [hlogin] at hl
    obtain rfl := Option.some.inj hl
    obtain ⟨rfl,rfl⟩ := LoginPhase.createSession.inj hphase
    have hidle : (demoServer loginUpTo).sys.call=fun _ => none := rfl
    refine ⟨by decide +kernel,fun i c hc => ?_⟩
    rw [hidle] at hc
    cases hc
  have hrun : (Server.initial demoUsers .empty).TimelyRun demoEnv (loginUpTo++created::passwordChange) :=
    Server.timelyRun_append.mpr ⟨Server.timelyRun_of_free (by decide) _,htimely,
      Server.timelyRun_of_free (by decide) _⟩
  exact ⟨logged_in_since demoEnv demoUsers .empty _ hrun,by decide +kernel⟩

def spanned : List ServerAction :=
  [.startLogin 0 1 [] none,.login 0 0]++passwordChange++[.login 0 0,.login 0 0,created]

/-- The login has checked the old password when the password is changed, and opens its session then. -/
theorem old_password_session : ¬∀ (env : Env) (users : Table User.id) (secrets : Secrets)
    (as : List ServerAction), ((Server.initial users secrets).run env as).LoggedInSince := by
  intro h
  have hsince : (demoServer spanned).LoggedInSince := h demoEnv demoUsers .empty spanned
  obtain ⟨x,hx,hactive,hchecks,hversion⟩ : ∃ x∈(demoServer spanned).sys.db.sessions.rows,
      x.status=.ACTIVE ∧ (demoServer spanned).checks x.familyId=some ⟨1,0,1,.withoutSecret⟩ ∧
      (demoServer spanned).sys.db.getUserSessionVersion x.userId=1 := by
    decide +kernel
  obtain ⟨k,hk,hafter⟩ := hsince.1 x hx hactive
  obtain rfl := Option.some.inj (hk.symm.trans hchecks)
  have hpassword := hafter.password.trans hversion
  cases hpassword

end AardvarkWms.RefreshTokens
