import AardvarkWms.Credentials
import AardvarkWms.TokenFamilies

/-! Credential changes against logins and refreshes: what is valid goes back to a login that was checked
after the last change, as long as no login or refresh spans one. -/
namespace AardvarkWms.RefreshTokens

open Transactions.Txn (bind_eq_ok)

abbrev Secrets : Type := Table MfaTotpSecret.id

/-- A write to the secrets of one user. -/
def Write.SecretsOf (T : Secrets) (u : ℕ) : Write → Prop
  | .disableSecrets ids _ => ∀ s∈T.rows, s.id∈ids → s.userId=u
  | .verifySecret id _ => ∀ s∈T.rows, s.id=id → s.userId=u
  | _ => False

/-- Each secret was there before, with its user. -/
def SameSecrets (T T' : Secrets) : Prop := ∀ s'∈T'.rows, ∃ s∈T.rows, s.id=s'.id ∧ s.userId=s'.userId

/-- The secrets of the other users are as they were. -/
def OnlySecretsOf (u : ℕ) (T T' : Secrets) : Prop :=
  SameSecrets T T' ∧ ∀ v, v≠u → T'.rows.filter (·.userId=v)=T.rows.filter (·.userId=v)

section Secrets
variable {T T' T'' : Secrets} {u : ℕ}

theorem sameSecrets_refl (T : Secrets) : SameSecrets T T := fun s hs => ⟨s,hs,rfl,rfl⟩

theorem SameSecrets.trans (h : SameSecrets T T') (h' : SameSecrets T' T'') : SameSecrets T T'' := by
  intro s hs
  obtain ⟨s',hs',hid',hu'⟩ := h' s hs
  obtain ⟨s'',hs'',hid'',hu''⟩ := h s' hs'
  exact ⟨s'',hs'',hid''.trans hid',hu''.trans hu'⟩

theorem onlySecretsOf_refl (u : ℕ) (T : Secrets) : OnlySecretsOf u T T := ⟨sameSecrets_refl T,fun _ _ => rfl⟩

theorem OnlySecretsOf.trans (h : OnlySecretsOf u T T') (h' : OnlySecretsOf u T' T'') :
    OnlySecretsOf u T T'' :=
  ⟨h.1.trans h'.1,fun v hv => (h'.2 v hv).trans (h.2 v hv)⟩

theorem Write.SecretsOf.same {w : Write} (h : w.SecretsOf T u) (hT : SameSecrets T T') :
    w.SecretsOf T' u := by
  cases w with
  | disableSecrets ids now =>
    intro s' hs' hid
    obtain ⟨s,hs,hids,hu⟩ := hT s' hs'
    exact hu ▸ h s hs (hids ▸ hid)
  | verifySecret id now =>
    intro s' hs' hid
    obtain ⟨s,hs,hids,hu⟩ := hT s' hs'
    exact hu ▸ h s hs (hids.trans hid)
  | _ => exact h.elim

theorem onlySecretsOf_map {f : MfaTotpSecret → MfaTotpSecret} (hrows : T'.rows=T.rows.map f)
    (hf : ∀ s∈T.rows, (f s).id=s.id ∧ (f s).userId=s.userId ∧ (f s=s ∨ s.userId=u)) :
    OnlySecretsOf u T T' := by
  constructor
  · intro s' hs'
    rw [hrows] at hs'
    obtain ⟨s,hs,rfl⟩ := List.mem_map.mp hs'
    exact ⟨s,hs,(hf s hs).1.symm,(hf s hs).2.1.symm⟩
  · intro v hv
    rw [hrows]
    generalize T.rows=rows at hf
    induction rows with
    | nil => rfl
    | cons s rows ih =>
      have hrest := ih fun r hr => hf r (List.mem_cons_of_mem _ hr)
      obtain ⟨-,huser,hsame⟩ := hf s List.mem_cons_self
      rw [List.map_cons,List.filter_cons,List.filter_cons,hrest,huser]
      by_cases hs : s.userId=v
      · have hkept : f s=s := hsame.resolve_right fun h => hv (hs.symm.trans h)
        rw [hkept]
      · simp only [hs,decide_false,Bool.false_eq_true,if_false]

theorem Write.SecretsOf.onSecrets {w : Write} (h : w.SecretsOf T u) :
    OnlySecretsOf u T (w.onSecrets T) := by
  cases w with
  | disableSecrets ids now =>
    refine onlySecretsOf_map rfl fun s hs => ?_
    dsimp only
    split
    next hid => exact ⟨rfl,rfl,Or.inr (h s hs (of_decide_eq_true hid))⟩
    next => exact ⟨rfl,rfl,Or.inl rfl⟩
  | verifySecret id now =>
    refine onlySecretsOf_map rfl fun s hs => ?_
    dsimp only
    split
    next hid => exact ⟨rfl,rfl,Or.inr (h s hs hid)⟩
    next => exact ⟨rfl,rfl,Or.inl rfl⟩
  | _ => exact h.elim

end Secrets

section Under
variable {db : AuthDb} {ws ws' : List Write} {u : ℕ}

theorem under_append (db : AuthDb) (ws ws' : List Write) :
    db.under (ws++ws')=(db.under ws).under ws' := List.foldl_append

theorem under_sessionWrites (h : ∀ w∈ws, ¬w.Aside) :
    ∀ db : AuthDb, (db.under ws).users=db.users ∧ (db.under ws).secrets=db.secrets := by
  induction ws with
  | nil => exact fun _ => ⟨rfl,rfl⟩
  | cons w ws ih =>
    intro db
    have hrest := ih (fun w' hw' => h w' (List.mem_cons_of_mem _ hw')) (db.apply w)
    have hw := h w List.mem_cons_self
    cases w with
    | insertSession s => exact hrest
    | setStatus ids status => exact hrest
    | rotated id successor => exact hrest
    | bumpSessionVersion userId passwordHash => exact (hw trivial).elim
    | disableSecrets ids now => exact (hw trivial).elim
    | verifySecret id now => exact (hw trivial).elim

theorem under_secretsOf : ∀ {db : AuthDb}, (∀ w∈ws, w.SecretsOf db.secrets u) →
    (db.under ws).users=db.users ∧ (db.under ws).sessions=db.sessions ∧
      OnlySecretsOf u db.secrets (db.under ws).secrets := by
  induction ws with
  | nil => exact fun _ => ⟨rfl,rfl,onlySecretsOf_refl _ _⟩
  | cons w ws ih =>
    intro db h
    have hw := h w List.mem_cons_self
    have hstep := hw.onSecrets
    have hlater : ∀ w'∈ws, w'.SecretsOf (db.apply w).secrets u := fun w' hw' =>
      (h w' (List.mem_cons_of_mem _ hw')).same hstep.1
    have hrest := ih hlater
    obtain ⟨husers,hsessions,hsecrets⟩ := hrest
    cases w with
    | disableSecrets ids now => exact ⟨husers,hsessions,hstep.trans hsecrets⟩
    | verifySecret id now => exact ⟨husers,hsessions,hstep.trans hsecrets⟩
    | _ => exact hw.elim

end Under

theorem findActiveMfaSecret_congr {db db' : AuthDb} {v : ℕ}
    (h : db'.secrets.rows.filter (·.userId=v)=db.secrets.rows.filter (·.userId=v)) :
    db'.findActiveMfaSecret v=db.findActiveMfaSecret v := by
  have hsplit : ∀ rows : List MfaTotpSecret,
      rows.filter (fun s => s.userId=v && s.verifiedAt≠none && s.disabledAt=none)=
        (rows.filter (·.userId=v)).filter fun s => s.verifiedAt≠none && s.disabledAt=none := by
    intro rows
    rw [List.filter_filter]
    refine List.filter_congr fun s _ => ?_
    rw [Bool.and_assoc,Bool.and_comm]
  unfold AuthDb.findActiveMfaSecret
  rw [hsplit,hsplit,h]

/-! ### Changes under way -/

/-- The writes of a change of credentials before the sessions are revoked. -/
def Bumped (T : Secrets) (u : ℕ) (ws : List Write) : Prop :=
  ∃ pre hash, ws=pre++[.bumpSessionVersion u hash] ∧ ∀ w∈pre, w.SecretsOf T u

/-- All the writes of a change: no active session of the user is left out. -/
def Revoked (db : AuthDb) (u : ℕ) (ws : List Write) : Prop :=
  ∃ pre ids, ws=pre++[.setStatus ids .REVOKED] ∧ Bumped db.secrets u pre ∧
    ∀ x∈db.sessions.rows, x.userId=u → x.status=.ACTIVE → x.id∈ids

/-- What a call has written when it stands at a phase. -/
def Phase.Changing (db : AuthDb) (held : ℕ → Prop) (ws : List Write) : Phase → Prop
  | .password _ | .secret _ => ws=[]
  | .disableSecrets u id => ws=[] ∧ ∀ s∈db.secrets.rows, s.id=id → s.userId=u
  | .verifySecret u id =>
    (∀ w∈ws, w.SecretsOf db.secrets u) ∧ ∀ s∈db.secrets.rows, s.id=id → s.userId=u
  | .sessionVersion u _ => ∀ w∈ws, w.SecretsOf db.secrets u
  | .revokeActive u => held u ∧ Bumped db.secrets u ws
  | .commit _ => (∀ w∈ws, ¬w.Aside) ∨ ∃ u, held u ∧ Revoked db u ws
  | _ => ∀ w∈ws, ¬w.Aside

section Calls
variable {env : Env} {db db' : AuthDb} {held held' : ℕ → Prop} {ws : List Write} {u : ℕ}

theorem findPendingMfaSecret_some {s : MfaTotpSecret} (h : db.findPendingMfaSecret u=some s) :
    s∈db.secrets.rows ∧ s.userId=u := by
  have hmem := List.argmax_mem h
  obtain ⟨hrow,hs⟩ := List.mem_filter.mp hmem
  simp only [Bool.and_eq_true,decide_eq_true_eq] at hs
  exact ⟨hrow,hs.1.1⟩

theorem findActiveMfaSecret_some {s : MfaTotpSecret} (h : db.findActiveMfaSecret u=some s) :
    s∈db.secrets.rows ∧ s.userId=u := by
  have hmem := List.argmax_mem h
  obtain ⟨hrow,hs⟩ := List.mem_filter.mp hmem
  simp only [Bool.and_eq_true,decide_eq_true_eq] at hs
  exact ⟨hrow,hs.1.1⟩

theorem secret_user {s : MfaTotpSecret} (hs : s∈db.secrets.rows) (hu : s.userId=u) :
    ∀ r∈db.secrets.rows, r.id=s.id → r.userId=u := by
  intro r hr hid
  have hsame : r=s := Table.inj_of_nodup db.secrets.nodup hr hs hid
  exact hsame ▸ hu

theorem under_bumped (h : Bumped db.secrets u ws) : (db.under ws).sessions=db.sessions := by
  obtain ⟨pre,hash,rfl,hpre⟩ := h
  rw [under_append]
  exact (under_secretsOf hpre).2.1

theorem sessionWrites_append {w : Write} (h : ∀ w∈ws, ¬w.Aside) (hw : ¬w.Aside) :
    ∀ w'∈ws++[w], ¬w'.Aside := by
  intro w' hmem
  cases List.mem_append.mp hmem with
  | inl hold => exact h w' hold
  | inr hnew => exact List.mem_singleton.mp hnew ▸ hw

theorem secretsOf_append {w : Write} (h : ∀ w∈ws, w.SecretsOf db.secrets u)
    (hw : w.SecretsOf db.secrets u) : ∀ w'∈ws++[w], w'.SecretsOf db.secrets u := by
  intro w' hmem
  cases List.mem_append.mp hmem with
  | inl hold => exact h w' hold
  | inr hnew => exact List.mem_singleton.mp hnew ▸ hw

theorem disableSecrets_of {p : MfaTotpSecret → Bool} {now : ℕ} (hp : ∀ r, p r=true → r.userId=u) :
    (Write.disableSecrets ((db.secrets.rows.filter p).map (·.id)) now).SecretsOf db.secrets u := by
  intro s hs hid
  obtain ⟨r,hr,hrid⟩ := List.mem_map.mp hid
  obtain ⟨hrow,hpr⟩ := List.mem_filter.mp hr
  exact secret_user hrow (hp r hpr) s hs hrid.symm

theorem Phase.Changing.advance {c : Call} {now : ℕ} {next : Phase}
    (h : c.phase.Changing db held c.writes) (hmore : ∀ u, held u → held' u)
    (hlock : ∀ u, c.phase.locks=some u → held' u) (hcommit : ∀ a, c.phase≠.commit a)
    (hended : ∀ r, c.phase≠.ended r)
    (hstep : RefreshTokens.advance env now (db.under c.writes) c=.ok (next,ws)) :
    next.Changing db held' (c.writes++ws) := by
  obtain ⟨request,drawn,phase,writes⟩ := c
  cases phase with
  | owner =>
    have hquiet : ∀ w∈writes++[], ¬w.Aside := (List.append_nil writes).symm ▸ h
    cases request with
    | refresh refreshToken =>
      simp only [RefreshTokens.advance] at hstep
      split at hstep <;> cases hstep
      · exact Or.inl hquiet
      · exact hquiet
    | _ => cases hstep; exact hquiet
  | user userId =>
    have hquiet : ∀ w∈writes++[], ¬w.Aside := (List.append_nil writes).symm ▸ h
    simp only [RefreshTokens.advance] at hstep
    split at hstep <;> cases hstep
    · exact hquiet
    · exact Or.inl hquiet
  | session =>
    have hquiet : ∀ w∈writes++[], ¬w.Aside := (List.append_nil writes).symm ▸ h
    cases request with
    | refresh refreshToken =>
      simp only [RefreshTokens.advance] at hstep
      split at hstep
      · cases hstep
        exact Or.inl hquiet
      · split at hstep <;> cases hstep
        · exact hquiet
        · exact hquiet
    | _ => cases hstep; exact hquiet
  | compromise s =>
    cases hstep
    exact Or.inl (sessionWrites_append h not_false)
  | insert s =>
    simp only [RefreshTokens.advance] at hstep
    split at hstep <;> cases hstep
    exact sessionWrites_append h not_false
  | rotate s createdId =>
    cases hstep
    exact Or.inl (sessionWrites_append h not_false)
  | lockUser userId =>
    cases hstep
    exact (List.append_nil writes).symm ▸ h
  | revoke userId =>
    cases request with
    | revokeRefreshToken actor refreshToken revokeAll =>
      cases hstep
      exact Or.inl (sessionWrites_append h not_false)
    | _ => cases hstep; exact (List.append_nil writes).symm ▸ h
  | password userId =>
    obtain rfl : writes=[] := h
    cases request with
    | changePassword actor currentPassword newPassword =>
      simp only [RefreshTokens.advance] at hstep
      split at hstep
      · cases hstep
      · split at hstep
        · cases hstep
        · split at hstep
          · cases hstep
          · split at hstep
            · cases hstep
            · cases hstep
              exact fun _ hw => (List.not_mem_nil hw).elim
    | _ => cases hstep; rfl
  | secret userId =>
    obtain rfl : writes=[] := h
    cases request with
    | verifyMfaSetup actor code =>
      simp only [RefreshTokens.advance] at hstep
      split at hstep
      · cases hstep
      next secret hfound =>
        obtain ⟨_,_,hstep⟩ := bind_eq_ok hstep
        cases hstep
        obtain ⟨hrow,huser⟩ := findPendingMfaSecret_some hfound
        exact ⟨rfl,secret_user hrow huser⟩
    | disableMfa actor code =>
      simp only [RefreshTokens.advance] at hstep
      split at hstep
      · cases hstep
        exact fun _ hw => (List.not_mem_nil hw).elim
      next secret hfound =>
        obtain ⟨_,_,hstep⟩ := bind_eq_ok hstep
        cases hstep
        obtain ⟨hrow,huser⟩ := findActiveMfaSecret_some hfound
        exact ⟨rfl,secret_user hrow huser⟩
    | _ => cases hstep; rfl
  | disableSecrets userId secretId =>
    obtain ⟨rfl,hsecret⟩ := h
    cases request with
    | verifyMfaSetup actor code =>
      cases hstep
      refine ⟨secretsOf_append (fun _ hw => (List.not_mem_nil hw).elim) (disableSecrets_of ?_),hsecret⟩
      intro r hr
      simp only [Bool.and_eq_true,decide_eq_true_eq] at hr
      exact hr.1.1
    | _ =>
      cases hstep
      refine secretsOf_append (fun _ hw => (List.not_mem_nil hw).elim) (disableSecrets_of ?_)
      intro r hr
      simp only [Bool.and_eq_true,decide_eq_true_eq] at hr
      exact hr.1
  | verifySecret userId secretId =>
    cases hstep
    exact secretsOf_append h.1 h.2
  | sessionVersion userId passwordHash =>
    cases hstep
    exact ⟨hlock userId rfl,writes,passwordHash,rfl,h⟩
  | revokeActive userId =>
    obtain ⟨hheld,hbumped⟩ := h
    cases hstep
    refine Or.inr ⟨userId,hmore userId hheld,writes,_,rfl,hbumped,?_⟩
    intro x hx huser hactive
    refine List.mem_map_of_mem (mem_activeOf.mpr ⟨?_,huser,hactive⟩)
    rw [under_bumped hbumped]
    exact hx
  | commit answer => exact (hcommit answer rfl).elim
  | ended result => exact (hended result rfl).elim

theorem Phase.Changing.later {p : Phase} (h : p.Changing db held ws)
    (hsecrets : SameSecrets db.secrets db'.secrets) (hmore : ∀ u, held u → held' u)
    (hactive : ∀ u, held u → Revoked db u ws → ∀ x'∈db'.sessions.rows, x'.userId=u →
      x'.status=.ACTIVE → x'∈db.sessions.rows) :
    p.Changing db' held' ws := by
  have hids : ∀ {u id}, (∀ s∈db.secrets.rows, s.id=id → s.userId=u) →
      ∀ s'∈db'.secrets.rows, s'.id=id → s'.userId=u := by
    intro u id h s' hs' hid
    obtain ⟨s,hs,hsid,hsu⟩ := hsecrets s' hs'
    exact hsu ▸ h s hs (hsid.trans hid)
  have hof : ∀ {u} {ws : List Write}, (∀ w∈ws, w.SecretsOf db.secrets u) →
      ∀ w∈ws, w.SecretsOf db'.secrets u := fun h w hw => (h w hw).same hsecrets
  cases p with
  | disableSecrets u id => exact ⟨h.1,hids h.2⟩
  | verifySecret u id => exact ⟨hof h.1,hids h.2⟩
  | sessionVersion u hash => exact hof h
  | revokeActive u =>
    obtain ⟨hheld,pre,hash,hws,hpre⟩ := h
    exact ⟨hmore u hheld,pre,hash,hws,hof hpre⟩
  | commit answer =>
    cases h with
    | inl hquiet => exact Or.inl hquiet
    | inr hchange =>
      obtain ⟨u,hheld,hrevoked⟩ := hchange
      have hkept := hactive u hheld hrevoked
      obtain ⟨pre,ids,hws,⟨pre',hash,hbump,hpre⟩,hcover⟩ := hrevoked
      refine Or.inr ⟨u,hmore u hheld,pre,ids,hws,⟨pre',hash,hbump,hof hpre⟩,?_⟩
      intro x hx huser hstatus
      exact hcover x (hkept x hx huser hstatus) huser hstatus
  | _ => exact h

/-- A committed change counts the user's session version up and leaves no session of the user active. -/
theorem under_revoked (h : Revoked db u ws) :
    (∃ f : User → User, (∀ r, (f r).sessionVersion=r.sessionVersion+1) ∧
      ∀ v, (db.under ws).users.get? v=if v=u then (db.users.get? v).map f else db.users.get? v) ∧
    OnlySecretsOf u db.secrets (db.under ws).secrets ∧
    ∀ x'∈(db.under ws).sessions.rows, x'.userId=u → x'.status≠.ACTIVE := by
  obtain ⟨_,ids,rfl,⟨pre,hash,rfl,hpre⟩,hcover⟩ := h
  obtain ⟨husers,hsessions,hsecrets⟩ := under_secretsOf hpre
  rw [under_append,under_append]
  let bump := fun r : User => {r with
    sessionVersion := r.sessionVersion+1
    passwordHash := hash.getD r.passwordHash}
  refine ⟨⟨bump,fun _ => rfl,fun v => ?_⟩,hsecrets,?_⟩
  · rw [← husers]
    exact Table.get?_modify (db.under pre).users u bump (fun _ => rfl) v
  · intro x' hx' huser
    have hrows : x'∈(db.under pre).sessions.rows.map fun r =>
        if decide (r.id∈ids) then {r with status := .REVOKED} else r := hx'
    rw [hsessions] at hrows
    obtain ⟨x,hx,hxx'⟩ := List.mem_map.mp hrows
    by_cases hid : x.id∈ids
    · rw [if_pos (decide_eq_true hid)] at hxx'
      rw [← hxx']
      exact nofun
    · rw [if_neg (by simpa using hid)] at hxx'
      subst hxx'
      exact fun hactive => hid (hcover x hx huser hactive)

end Calls

/-! ### The actions on the tables -/

/-- What an action other than a login does: each active session was one, and a user's credentials are as
they were or the session version has been counted up and the user's sessions are over. -/
structure Moved (db db' : AuthDb) : Prop where
  rows : ∀ x'∈db'.sessions.rows, ∃ x∈db.sessions.rows, x.familyId=x'.familyId ∧ x.userId=x'.userId ∧
    (x'.status=.ACTIVE → x.status=.ACTIVE)
  families : ∀ x∈db.sessions.rows, ∃ x'∈db'.sessions.rows, x'.familyId=x.familyId ∧ x'.userId=x.userId
  secrets : SameSecrets db.secrets db'.secrets
  users : ∀ u, (db'.users.get? u).isSome=(db.users.get? u).isSome
  versions : ∀ u, (db.users.get? u).isSome=true →
    (db'.getUserSessionVersion u=db.getUserSessionVersion u ∧
      db'.findActiveMfaSecret u=db.findActiveMfaSecret u) ∨
    (db.getUserSessionVersion u < db'.getUserSessionVersion u ∧
      ∀ x'∈db'.sessions.rows, x'.userId=u → x'.status≠.ACTIVE)

/-- The changes under way are in order. -/
def System.Changing (s : System) : Prop :=
  ∀ i c, s.call i=some c → c.phase.Changing s.db (fun u => s.rowLock u=some i) c.writes

section Act
variable {env : Env} {s : System} {T T' : Sessions}

theorem moved_refl (db : AuthDb) : Moved db db :=
  ⟨fun x hx => ⟨x,hx,rfl,rfl,id⟩,fun x hx => ⟨x,hx,rfl,rfl⟩,sameSecrets_refl _,fun _ => rfl,
    fun _ _ => Or.inl ⟨rfl,rfl⟩⟩

theorem Changed.rows {held : ℕ → Prop} (hc : Changed held T T') :
    ∀ x'∈T'.rows, ∃ x∈T.rows, x.familyId=x'.familyId ∧ x.userId=x'.userId ∧
      (x'.status=.ACTIVE → x.status=.ACTIVE) := by
  have hmarked : ∀ {f}, Marks held T f → ∀ x'∈T.rows.map f, ∃ x∈T.rows, x.familyId=x'.familyId ∧
      x.userId=x'.userId ∧ (x'.status=.ACTIVE → x.status=.ACTIVE) := by
    intro f hf x' hx'
    obtain ⟨x,hx,rfl⟩ := List.mem_map.mp hx'
    refine ⟨x,hx,(hf x hx).1.2.2.2,(hf x hx).1.2.1,fun hactive => ?_⟩
    rw [hf.active hx hactive] at hactive
    exact hactive
  intro x' hx'
  cases hc with
  | marked f hf hrows => exact hmarked hf x' (hrows ▸ hx')
  | rotated f row session hf hrows hs hactive hheld hended hfamily huser hfresh =>
    rw [hrows] at hx'
    cases List.mem_append.mp hx' with
    | inl hold => exact hmarked hf x' hold
    | inr hnew =>
      obtain rfl := List.mem_singleton.mp hnew
      exact ⟨session,hs,hfamily.symm,huser.symm,fun _ => hactive⟩

theorem Changed.families {held : ℕ → Prop} (hc : Changed held T T') :
    ∀ x∈T.rows, ∃ x'∈T'.rows, x'.familyId=x.familyId ∧ x'.userId=x.userId := by
  intro x hx
  cases hc with
  | marked f hf hrows =>
    refine ⟨f x,?_,(hf x hx).1.2.2.2.symm,(hf x hx).1.2.1.symm⟩
    rw [hrows]
    exact List.mem_map_of_mem hx
  | rotated f row session hf hrows hs hactive hheld hended hfamily huser hfresh =>
    refine ⟨f x,?_,(hf x hx).1.2.2.2.symm,(hf x hx).1.2.1.symm⟩
    rw [hrows]
    exact List.mem_append_left _ (List.mem_map_of_mem hx)

theorem getUserSessionVersion_congr {db db' : AuthDb} {u : ℕ}
    (h : (db'.users.get? u).map (·.sessionVersion)=(db.users.get? u).map (·.sessionVersion)) :
    db'.getUserSessionVersion u=db.getUserSessionVersion u := by
  rw [AuthDb.getUserSessionVersion,h]
  rfl

theorem System.Changing.commits (hinv : s.Inv env) (h : s.Changing) {i : ℕ} {c : Call}
    (hi : s.call i=some c) {a : Answer} (ha : c.phase=.commit a) (hpub : s.db.publishes c.writes=true) :
    Moved s.db (s.db.under c.writes) := by
  have hrows := (hinv.commits hi ha hpub).rows
  have hfamilies := (hinv.commits hi ha hpub).families
  have hphase := h i c hi
  rw [ha] at hphase
  cases hphase with
  | inl hquiet =>
    obtain ⟨husers,hsecrets⟩ := under_sessionWrites hquiet s.db
    refine ⟨hrows,hfamilies,?_,fun u => by rw [husers],fun u _ => Or.inl ⟨?_,?_⟩⟩
    · rw [hsecrets]
      exact sameSecrets_refl _
    · exact getUserSessionVersion_congr (by rw [husers])
    · exact findActiveMfaSecret_congr (by rw [hsecrets])
  | inr hchange =>
    obtain ⟨u,-,hrevoked⟩ := hchange
    obtain ⟨⟨f,hf,husers⟩,hsecrets,hover⟩ := under_revoked hrevoked
    refine ⟨hrows,hfamilies,hsecrets.1,fun v => ?_,fun v hv => ?_⟩
    · rw [husers v]
      split
      · exact Option.isSome_map
      · rfl
    · by_cases hvu : v=u
      · subst hvu
        refine Or.inr ⟨?_,hover⟩
        obtain ⟨r,hr⟩ := Option.isSome_iff_exists.mp hv
        have hbumped : (s.db.under c.writes).getUserSessionVersion v=r.sessionVersion+1 := by
          rw [AuthDb.getUserSessionVersion,husers v,if_pos rfl,hr]
          exact hf r
        have hbefore : s.db.getUserSessionVersion v=r.sessionVersion := by
          rw [AuthDb.getUserSessionVersion,hr]
          rfl
        omega
      · refine Or.inl ⟨getUserSessionVersion_congr ?_,findActiveMfaSecret_congr (hsecrets.2 v hvu)⟩
        rw [husers v,if_neg hvu]

theorem System.Changing.finish (h : s.Changing) {i : ℕ} (c : Call) {db : AuthDb}
    (hsecrets : SameSecrets s.db.secrets db.secrets)
    (hc : Changed (fun u => s.rowLock u=some i) s.db.sessions db.sessions)
    (result : Except AuthError Answer) : (s.finish i c db result).Changing := by
  intro j d hd
  by_cases hj : j=i
  · subst hj
    simp only [System.finish,Function.update_self,Option.some.injEq] at hd
    subst hd
    exact fun _ hw => (List.not_mem_nil hw).elim
  · simp only [System.finish,Function.update_of_ne hj] at hd
    have hothers : Undisturbed (fun u => s.rowLock u=some j) s.db.sessions db.sessions := by
      refine hc.undisturbed fun u hi hj' => ?_
      rw [hi] at hj'
      exact hj (Option.some.inj hj').symm
    refine (h j d hd).later hsecrets (fun u hu => (release_other hj u).mpr hu) ?_
    intro u hheld _ x' hx' huser _
    cases hothers.family x' hx' (huser.symm ▸ hheld) with
    | inl hold => exact hold
    | inr hnew =>
      obtain ⟨x,hx,hfamily,_⟩ := hc.rows x' hx'
      exact (hnew x hx hfamily).elim

theorem first_changing (r : Request) (db : AuthDb) (held : ℕ → Prop) : r.first.Changing db held [] := by
  cases r with
  | revokeRefreshToken userId refreshToken revokeAll =>
    simp only [Request.first]
    split
    · exact fun _ hw => (List.not_mem_nil hw).elim
    · exact fun _ hw => (List.not_mem_nil hw).elim
  | refresh refreshToken => exact fun _ hw => (List.not_mem_nil hw).elim
  | _ => rfl

theorem System.Changing.advance (hinv : s.Inv env) (h : s.Changing) {i now : ℕ} {c : Call}
    (hi : s.call i=some c) {s' : System} (hs' : Advanced env s i now c s') :
    Moved s.db s'.db ∧ s'.Changing := by
  cases hs' with
  | idle => exact ⟨moved_refl _,h⟩
  | committed a ha hpub =>
    have hmoved := h.commits hinv hi ha hpub
    exact ⟨hmoved,h.finish c hmoved.secrets (hinv.commits hi ha hpub) _⟩
  | lost e => exact ⟨moved_refl _,h.finish c (sameSecrets_refl _) (.refl _ _) _⟩
  | moved next ws hcommit hended hwait hstep =>
    refine ⟨moved_refl _,fun j d hd => ?_⟩
    by_cases hj : j=i
    · subst hj
      simp only [Function.update_self,Option.some.injEq] at hd
      subst hd
      exact (h j c hi).advance (fun u hu => lock_more hu) (fun u hu => lock_mine hu) hcommit hended hstep
    · simp only [Function.update_of_ne hj] at hd
      exact (h j d hd).later (sameSecrets_refl _) (fun u hu => (lock_other hwait hj u).mpr hu)
        fun _ _ _ _ hx _ _ => hx

theorem moved_setUserStatus (db : AuthDb) (userId : ℕ) (status : UserStatus) :
    Moved db {db with users := db.users.modify userId (fun u => {u with status}) fun _ => rfl} := by
  have hget : ∀ v, ((db.users.modify userId (fun u => {u with status}) fun _ => rfl).get? v).map
      (·.sessionVersion)=(db.users.get? v).map (·.sessionVersion) := by
    intro v
    rw [Table.get?_modify]
    split
    · rw [Option.map_map]
      rfl
    · rfl
  refine ⟨(moved_refl db).rows,(moved_refl db).families,sameSecrets_refl _,fun v => ?_,
    fun v _ => Or.inl ⟨?_,rfl⟩⟩
  · have hv := congrArg Option.isSome (hget v)
    rwa [Option.isSome_map,Option.isSome_map] at hv
  · exact getUserSessionVersion_congr (hget v)

theorem System.Changing.act (hinv : s.Inv env) (h : s.Changing) (a : Action)
    (hlogin : ∀ row, a≠.login row) : Moved s.db (s.act env a).db ∧ (s.act env a).Changing := by
  cases a with
  | start i request drawn =>
    simp only [System.act]
    split
    · exact ⟨moved_refl _,h⟩
    · refine ⟨moved_refl _,fun j d hd => ?_⟩
      by_cases hj : j=i
      · subst hj
        simp only [Function.update_self,Option.some.injEq] at hd
        subst hd
        exact first_changing request _ _
      · simp only [Function.update_of_ne hj] at hd
        exact h j d hd
  | advance i now =>
    simp only [System.act]
    split
    · exact ⟨moved_refl _,h⟩
    next c hi => exact h.advance hinv hi (advanced i now c)
  | rollBack i =>
    simp only [System.act]
    split
    · exact ⟨moved_refl _,h⟩
    · split
      · exact ⟨moved_refl _,h⟩
      · exact ⟨moved_refl _,h.finish _ (sameSecrets_refl _) (.refl _ _) _⟩
  | login row => exact (hlogin row rfl).elim
  | setUserStatus userId status =>
    simp only [System.act]
    split
    · exact ⟨moved_setUserStatus _ _ _,h⟩
    · exact ⟨moved_refl _,h⟩

/-! ### The sessions that refreshes renew -/

/-- The session that the call's transaction renews, or has renewed. -/
def Phase.renewed : Phase → Option RefreshTokenSession
  | .commit (.refreshed (.rotated s _)) => some s
  | .ended (.ok (.refreshed (.rotated s _))) => some s
  | _ => none

/-- A session that is there has this family and this user. -/
def Known (T : Sessions) (session : RefreshTokenSession) : Prop :=
  ∃ x∈T.rows, x.familyId=session.familyId ∧ x.userId=session.userId

def System.Renewing (s : System) : Prop :=
  ∀ i c session, s.call i=some c → c.phase.renewed=some session → Known s.db.sessions session

theorem Known.later {session : RefreshTokenSession} (h : Known T session)
    (hkept : ∀ x∈T.rows, ∃ x'∈T'.rows, x'.familyId=x.familyId ∧ x'.userId=x.userId) :
    Known T' session := by
  obtain ⟨x,hx,hfamily,huser⟩ := h
  obtain ⟨x',hx',hfamily',huser'⟩ := hkept x hx
  exact ⟨x',hx',hfamily'.trans hfamily,huser'.trans huser⟩

/-- Only the last statement of a rotation leads to the answer that a session was renewed. -/
theorem rotate_of_renewed {now : ℕ} {db : AuthDb} {c : Call} {next : Phase} {ws : List Write}
    {session : RefreshTokenSession} (hcommit : ∀ a, c.phase≠.commit a) (hended : ∀ r, c.phase≠.ended r)
    (hstep : RefreshTokens.advance env now db c=.ok (next,ws)) (h : next.renewed=some session) :
    ∃ createdId, c.phase=.rotate session createdId := by
  obtain ⟨request,drawn,phase,writes⟩ := c
  cases phase with
  | rotate s createdId =>
    cases hstep
    cases h
    exact ⟨createdId,rfl⟩
  | commit answer => exact (hcommit answer rfl).elim
  | ended result => exact (hended result rfl).elim
  | owner =>
    cases request <;> simp only [RefreshTokens.advance] at hstep
    case refresh refreshToken =>
      split at hstep
      · cases hstep; cases h
      · cases hstep; cases h
    all_goals cases hstep; cases h
  | user userId =>
    simp only [RefreshTokens.advance] at hstep
    split at hstep <;> cases hstep <;> cases h
  | session =>
    cases request <;> simp only [RefreshTokens.advance] at hstep
    case refresh refreshToken =>
      split at hstep
      · cases hstep; cases h
      · split at hstep <;> cases hstep <;> cases h
    all_goals cases hstep; cases h
  | compromise s => cases hstep; cases h
  | insert s =>
    simp only [RefreshTokens.advance] at hstep
    split at hstep
    · cases hstep; cases h
    · cases hstep
  | lockUser userId => cases hstep; cases h
  | revoke userId => cases request <;> cases hstep <;> cases h
  | password userId =>
    cases request with
    | changePassword actor currentPassword newPassword =>
      simp only [RefreshTokens.advance] at hstep
      repeat' split at hstep
      all_goals cases hstep <;> cases h
    | _ => cases hstep; cases h
  | secret userId =>
    cases request with
    | verifyMfaSetup actor code =>
      simp only [RefreshTokens.advance] at hstep
      split at hstep
      · cases hstep
      · obtain ⟨_,_,hstep⟩ := bind_eq_ok hstep
        cases hstep
        cases h
    | disableMfa actor code =>
      simp only [RefreshTokens.advance] at hstep
      split at hstep
      · cases hstep
        cases h
      · obtain ⟨_,_,hstep⟩ := bind_eq_ok hstep
        cases hstep
        cases h
    | _ => cases hstep; cases h
  | disableSecrets userId secretId => cases request <;> cases hstep <;> cases h
  | verifySecret userId secretId => cases hstep; cases h
  | sessionVersion userId passwordHash => cases hstep; cases h
  | revokeActive userId => cases request <;> cases hstep <;> cases h

theorem System.Renewing.later (h : s.Renewing) {db : AuthDb}
    (hkept : ∀ x∈s.db.sessions.rows, ∃ x'∈db.sessions.rows, x'.familyId=x.familyId ∧ x'.userId=x.userId)
    {rowLock : ℕ → Option ℕ} : System.Renewing ⟨db,rowLock,s.call⟩ :=
  fun i c session hi hc => (h i c session hi hc).later hkept

theorem System.Renewing.update (h : s.Renewing) {i : ℕ} {c : Call} {rowLock : ℕ → Option ℕ}
    (hc : ∀ session, c.phase.renewed=some session → Known s.db.sessions session) :
    System.Renewing ⟨s.db,rowLock,Function.update s.call i (some c)⟩ := by
  intro j d session hd hrenewed
  by_cases hj : j=i
  · subst hj
    simp only [Function.update_self,Option.some.injEq] at hd
    subst hd
    exact hc session hrenewed
  · simp only [Function.update_of_ne hj] at hd
    exact h j d session hd hrenewed

theorem System.Renewing.advance (hinv : s.Inv env) (hchanging : s.Changing) (h : s.Renewing) {i now : ℕ}
    {c : Call} (hi : s.call i=some c) {s' : System} (hs' : Advanced env s i now c s') : s'.Renewing := by
  cases hs' with
  | idle => exact h
  | committed a ha hpub =>
    have hkept := (hchanging.commits hinv hi ha hpub).families
    have hknown : ∀ session, (Phase.ended (.ok a)).renewed=some session → Known s.db.sessions session := by
      intro session hsession
      refine h i c session hi ?_
      rw [ha]
      cases a with
      | refreshed r =>
        cases r with
        | rotated row createdId => exact hsession
        | _ => cases hsession
      | _ => cases hsession
    have hupdated : System.Renewing ⟨s.db,s.rowLock,Function.update s.call i
        (some {c with phase := .ended (.ok a), writes := []})⟩ := h.update hknown
    exact hupdated.later hkept
  | lost e => exact h.update fun session hsession => by cases hsession
  | moved next ws hcommit hended hwait hstep =>
    refine h.update fun session hsession => ?_
    obtain ⟨createdId,hphase⟩ := rotate_of_renewed hcommit hended hstep hsession
    obtain ⟨ch,hsane⟩ := hinv.sane i c hi
    have hready := hsane.ready
    rw [hphase] at hready
    obtain ⟨row,rfl,-⟩ := hready
    exact ⟨session,hsane.allowed.1,rfl,rfl⟩

theorem System.Renewing.act (hinv : s.Inv env) (hchanging : s.Changing) (h : s.Renewing) (a : Action)
    (hlogin : ∀ row, a≠.login row) : (s.act env a).Renewing := by
  cases a with
  | start i request drawn =>
    simp only [System.act]
    split
    · exact h
    · refine h.update fun session hsession => ?_
      cases request with
      | revokeRefreshToken userId refreshToken revokeAll =>
        simp only [Request.first] at hsession
        split at hsession <;> cases hsession
      | _ => cases hsession
  | advance i now =>
    simp only [System.act]
    split
    · exact h
    next c hi => exact h.advance hinv hchanging hi (advanced i now c)
  | rollBack i =>
    simp only [System.act]
    split
    · exact h
    · split
      · exact h
      · exact h.update fun session hsession => by cases hsession
  | login row => exact (hlogin row rfl).elim
  | setUserStatus userId status =>
    simp only [System.act]
    split
    · exact h
    · exact h

end Act

end AardvarkWms.RefreshTokens
