import AardvarkWms.RefreshTokens

/-! Token families: what a transaction wrote is one change of the sessions of the user whose row
it holds, so that no family has two active sessions, and none once a reuse was detected. -/
namespace AardvarkWms.RefreshTokens

open Messaging (Str)

abbrev Sessions : Type := Table RefreshTokenSession.id

/-- What the writes of a transaction come to. -/
inductive Change
  | none
  | set (ids : List ℕ) (status : RefreshTokenSessionStatus)
  | insert (row session : RefreshTokenSession)
  | rotate (row session : RefreshTokenSession)

def Change.apply : Change → Sessions → Sessions
  | .none, T => T
  | .set ids status, T => (Write.setStatus ids status).onSessions T
  | .insert row _, T => T.insert row
  | .rotate row session, T => (Write.rotated session.id row.id).onSessions (T.insert row)

/-- A write to users or secrets. -/
def Write.Aside : Write → Prop
  | .bumpSessionVersion _ _ | .disableSecrets _ _ | .verifySecret _ _ => True
  | _ => False

inductive Amounts : List Write → Change → Prop
  | none {ws} : (∀ w∈ws, w.Aside) → Amounts ws .none
  | set {ws} (ids status) : (∀ w∈ws, w.Aside) → Amounts (ws++[.setStatus ids status]) (.set ids status)
  | insert {ws} (row session) : (∀ w∈ws, w.Aside) →
      Amounts (ws++[.insertSession row]) (.insert row session)
  | rotate {ws} (row session) : (∀ w∈ws, w.Aside) →
      Amounts (ws++[.insertSession row]++[.rotated session.id row.id]) (.rotate row session)

section Sessions
variable {T : Sessions} {ws : List Write} {ch : Change}

def after (T : Sessions) (ws : List Write) : Sessions := ws.foldl (fun T w => w.onSessions T) T

theorem under_sessions (ws : List Write) : ∀ db : AuthDb,
    (db.under ws).sessions=after db.sessions ws := by
  induction ws with
  | nil => intro db; rfl
  | cons w ws ih => intro db; exact ih _

theorem Write.Aside.onSessions {w : Write} (h : w.Aside) (T : Sessions) : w.onSessions T=T := by
  cases w with
  | insertSession s => exact h.elim
  | setStatus ids status => exact h.elim
  | rotated id successor => exact h.elim
  | bumpSessionVersion userId passwordHash => rfl
  | disableSecrets ids now => rfl
  | verifySecret id now => rfl

theorem after_aside (h : ∀ w∈ws, w.Aside) : after T ws=T := by
  induction ws with
  | nil => rfl
  | cons w ws ih =>
    have hw : w.onSessions T=T := (h w (by simp)).onSessions T
    show after (w.onSessions T) ws=T
    rw [hw]
    exact ih fun w' hw' => h w' (by simp [hw'])

theorem after_append (T : Sessions) (ws ws' : List Write) :
    after T (ws++ws')=after (after T ws) ws' := List.foldl_append

theorem Amounts.after_eq (h : Amounts ws ch) : after T ws=ch.apply T := by
  cases h with
  | none haside => exact after_aside haside
  | set ids status haside =>
    rw [after_append,after_aside haside]
    rfl
  | insert row session haside =>
    rw [after_append,after_aside haside]
    rfl
  | rotate row session haside =>
    rw [after_append,after_append,after_aside haside]
    rfl

theorem Amounts.aside (h : Amounts ws .none) {w : Write} (hw : w.Aside) :
    Amounts (ws++[w]) .none := by
  cases h with
  | none haside =>
    refine .none fun w' hw' => ?_
    cases List.mem_append.mp hw' with
    | inl hold => exact haside w' hold
    | inr hnew =>
      rw [List.mem_singleton] at hnew
      exact hnew ▸ hw

theorem Amounts.then_set (h : Amounts ws .none) (ids : List ℕ)
    (status : RefreshTokenSessionStatus) :
    Amounts (ws++[.setStatus ids status]) (.set ids status) := by
  cases h with
  | none haside => exact .set ids status haside

end Sessions

/-- One user a family, one active session a family, one session a token. -/
structure Sound (rows : List RefreshTokenSession) : Prop where
  user : ∀ x∈rows, ∀ y∈rows, x.familyId=y.familyId → x.userId=y.userId
  active : ∀ x∈rows, ∀ y∈rows, x.familyId=y.familyId → x.status=.ACTIVE → y.status=.ACTIVE → x=y
  token : ∀ x∈rows, ∀ y∈rows, x.tokenHash=y.tokenHash → x=y

/-- No session of the family is active. -/
def Dead (T : Sessions) (familyId : ℕ) : Prop :=
  ∀ x∈T.rows, x.familyId=familyId → x.status≠.ACTIVE

/-- What no statement changes of a session. -/
def SameSession (x y : RefreshTokenSession) : Prop :=
  x.id=y.id ∧ x.userId=y.userId ∧ x.tokenHash=y.tokenHash ∧ x.familyId=y.familyId

/-- What a transaction that holds the rows of `held` may have prepared. -/
def Change.Allowed (T : Sessions) (held : ℕ → Prop) : Change → Prop
  | .none => True
  | .set ids status => status≠.ACTIVE ∧ ∃ u, held u ∧ ∀ id∈ids, ∃ x∈T.rows, x.id=id ∧ x.userId=u
  | .insert row s | .rotate row s => s∈T.rows ∧ s.status=.ACTIVE ∧ held s.userId ∧
      row.familyId=s.familyId ∧ row.userId=s.userId

/-- Sessions of users whose rows are held are left as they are, or end. -/
def Marks (held : ℕ → Prop) (T : Sessions) (f : RefreshTokenSession → RefreshTokenSession) : Prop :=
  ∀ x∈T.rows, SameSession x (f x) ∧ (f x=x ∨ held x.userId ∧ (f x).status≠.ACTIVE)

/-- What one transaction that holds the rows of `held` does to the sessions. -/
inductive Changed (held : ℕ → Prop) (T T' : Sessions) : Prop
  | marked (f) : Marks held T f → T'.rows=T.rows.map f → Changed held T T'
  | rotated (f) (row s : RefreshTokenSession) : Marks held T f → T'.rows=T.rows.map f++[row] →
      s∈T.rows → s.status=.ACTIVE → held s.userId → (f s).status≠.ACTIVE →
      row.familyId=s.familyId → row.userId=s.userId → (∀ x∈T.rows, x.tokenHash≠row.tokenHash) →
      Changed held T T'

/-- What the others may do meanwhile to a transaction that holds the rows of `held`. -/
structure Undisturbed (held : ℕ → Prop) (T T' : Sessions) : Prop where
  same : ∀ x∈T.rows, ∃ x'∈T'.rows, SameSession x x'
  kept : ∀ x∈T.rows, held x.userId → x∈T'.rows
  family : ∀ x'∈T'.rows, held x'.userId → x'∈T.rows ∨ ∀ y∈T.rows, y.familyId≠x'.familyId

/-- What holds of a call between its statements. -/
def Phase.Ready (T : Sessions) (held : ℕ → Prop) (tokenHash : Str) (ch : Change) : Phase → Prop
  | .user u => ch=.none ∧ ∃ x∈T.rows, x.tokenHash=tokenHash ∧ x.userId=u
  | .session => ch=.none ∧ ∃ x∈T.rows, x.tokenHash=tokenHash ∧ held x.userId
  | .compromise s => ch=.none ∧ s∈T.rows ∧ held s.userId
  | .insert s => ch=.none ∧ s∈T.rows ∧ s.status=.ACTIVE ∧ held s.userId
  | .rotate s createdId => ∃ row, ch=.insert row s ∧ row.id=createdId
  | .revoke u | .revokeActive u => ch=.none ∧ held u
  | .commit (.refreshed (.reuseDetected s)) => ∃ ids, ch=.set ids .COMPROMISED ∧ s∈T.rows ∧
      held s.userId ∧ ∀ x∈T.rows, x.familyId=s.familyId → x.id∈ids
  | .commit _ => ∀ row s, ch≠.insert row s
  | _ => ch=.none

section Changed
variable {held : ℕ → Prop} {T T' : Sessions} {f : RefreshTokenSession → RefreshTokenSession}

theorem Marks.active (hf : Marks held T f) {x : RefreshTokenSession} (hx : x∈T.rows)
    (h : (f x).status=.ACTIVE) : f x=x := by
  cases (hf x hx).2 with
  | inl hsame => exact hsame
  | inr hended => exact (hended.2 h).elim

theorem Marks.sound (hf : Marks held T f) (h : Sound T.rows) : Sound (T.rows.map f) := by
  refine ⟨?_,?_,?_⟩
  · intro x' hx' y' hy' hxy
    obtain ⟨x,hx,rfl⟩ := List.mem_map.mp hx'
    obtain ⟨y,hy,rfl⟩ := List.mem_map.mp hy'
    obtain ⟨⟨_,hxu,_,hxf⟩,_⟩ := hf x hx
    obtain ⟨⟨_,hyu,_,hyf⟩,_⟩ := hf y hy
    rw [← hxu,← hyu]
    exact h.user x hx y hy (by rw [hxf,hyf,hxy])
  · intro x' hx' y' hy' hxy hxa hya
    obtain ⟨x,hx,rfl⟩ := List.mem_map.mp hx'
    obtain ⟨y,hy,rfl⟩ := List.mem_map.mp hy'
    have hfx := hf.active hx hxa
    have hfy := hf.active hy hya
    rw [hfx] at hxa hxy ⊢
    rw [hfy] at hya hxy ⊢
    exact h.active x hx y hy hxy hxa hya
  · intro x' hx' y' hy' hxy
    obtain ⟨x,hx,rfl⟩ := List.mem_map.mp hx'
    obtain ⟨y,hy,rfl⟩ := List.mem_map.mp hy'
    have hsame : x=y :=
      h.token x hx y hy (by rw [(hf x hx).1.2.2.1,(hf y hy).1.2.2.1,hxy])
    rw [hsame]

theorem Sound.append {rows : List RefreshTokenSession} {row : RefreshTokenSession}
    (h : Sound rows) (hfamily : ∀ x∈rows, x.familyId=row.familyId →
      x.userId=row.userId ∧ x.status≠.ACTIVE) (hfresh : ∀ x∈rows, x.tokenHash≠row.tokenHash) :
    Sound (rows++[row]) := by
  have hmem : ∀ x∈rows++[row], x∈rows ∨ x=row := by
    intro x hx
    simpa using hx
  refine ⟨?_,?_,?_⟩
  · intro x hx y hy hxy
    cases hmem x hx with
    | inl hxold =>
      cases hmem y hy with
      | inl hyold => exact h.user x hxold y hyold hxy
      | inr hynew => subst hynew; exact (hfamily x hxold hxy).1
    | inr hxnew =>
      cases hmem y hy with
      | inl hyold => subst hxnew; exact (hfamily y hyold hxy.symm).1.symm
      | inr hynew => rw [hxnew,hynew]
  · intro x hx y hy hxy hxa hya
    cases hmem x hx with
    | inl hxold =>
      cases hmem y hy with
      | inl hyold => exact h.active x hxold y hyold hxy hxa hya
      | inr hynew => subst hynew; exact ((hfamily x hxold hxy).2 hxa).elim
    | inr hxnew =>
      cases hmem y hy with
      | inl hyold => subst hxnew; exact ((hfamily y hyold hxy.symm).2 hya).elim
      | inr hynew => rw [hxnew,hynew]
  · intro x hx y hy hxy
    cases hmem x hx with
    | inl hxold =>
      cases hmem y hy with
      | inl hyold => exact h.token x hxold y hyold hxy
      | inr hynew => subst hynew; exact (hfresh x hxold hxy).elim
    | inr hxnew =>
      cases hmem y hy with
      | inl hyold => subst hxnew; exact (hfresh y hyold hxy.symm).elim
      | inr hynew => rw [hxnew,hynew]

theorem Changed.sound (hc : Changed held T T') (h : Sound T.rows) : Sound T'.rows := by
  cases hc with
  | marked f hf hrows =>
    rw [hrows]
    exact hf.sound h
  | rotated f row s hf hrows hs hsa hheld hfs hfamily hrow hfresh =>
    rw [hrows]
    refine (hf.sound h).append ?_ ?_
    · intro x' hx' hxf
      obtain ⟨x,hx,rfl⟩ := List.mem_map.mp hx'
      obtain ⟨⟨_,hxu,_,hxfam⟩,_⟩ := hf x hx
      have hfam : x.familyId=s.familyId := by rw [hxfam,hxf,hfamily]
      refine ⟨?_,?_⟩
      · rw [← hxu,hrow]
        exact h.user x hx s hs hfam
      · intro hxa
        have hfx := hf.active hx hxa
        rw [hfx] at hxa
        have hsame : x=s := h.active x hx s hs hfam hxa hsa
        rw [← hsame,hfx] at hfs
        exact hfs hxa
    · intro x' hx' hxt
      obtain ⟨x,hx,rfl⟩ := List.mem_map.mp hx'
      exact hfresh x hx (by rw [(hf x hx).1.2.2.1,hxt])

theorem Changed.dead (hc : Changed held T T') {F : ℕ} (h : Dead T F) : Dead T' F := by
  have hold : ∀ {f}, Marks held T f → ∀ x∈T.rows.map f, x.familyId=F → x.status≠.ACTIVE := by
    intro f hf x' hx' hxF hxa
    obtain ⟨x,hx,rfl⟩ := List.mem_map.mp hx'
    have hfx := hf.active hx hxa
    rw [hfx] at hxa hxF
    exact h x hx hxF hxa
  cases hc with
  | marked f hf hrows =>
    intro x hx
    rw [hrows] at hx
    exact hold hf x hx
  | rotated f row s hf hrows hs hsa hheld hfs hfamily hrow hfresh =>
    intro x hx hxF
    rw [hrows,List.mem_append,List.mem_singleton] at hx
    cases hx with
    | inl hxold => exact hold hf x hxold hxF
    | inr hxnew =>
      rw [hxnew,hfamily] at hxF
      exact (h s hs hxF hsa).elim

theorem Changed.undisturbed (hc : Changed held T T') {held' : ℕ → Prop}
    (hapart : ∀ u, held u → ¬held' u) : Undisturbed held' T T' := by
  have hkept : ∀ {f}, Marks held T f → ∀ x∈T.rows, held' x.userId → f x=x := by
    intro f hf x hx hx'
    cases (hf x hx).2 with
    | inl hsame => exact hsame
    | inr hended => exact (hapart _ hended.1 hx').elim
  have hold : ∀ {f}, Marks held T f → ∀ x'∈T.rows.map f, held' x'.userId → x'∈T.rows := by
    intro f hf x' hx' hheld
    obtain ⟨x,hx,rfl⟩ := List.mem_map.mp hx'
    rw [← (hf x hx).1.2.1] at hheld
    rw [hkept hf x hx hheld]
    exact hx
  cases hc with
  | marked f hf hrows =>
    refine ⟨?_,?_,?_⟩
    · intro x hx
      refine ⟨f x,?_,(hf x hx).1⟩
      rw [hrows]
      exact List.mem_map_of_mem hx
    · intro x hx hx'
      rw [hrows]
      exact hkept hf x hx hx' ▸ List.mem_map_of_mem hx
    · intro x' hx' hheld
      rw [hrows] at hx'
      exact .inl (hold hf x' hx' hheld)
  | rotated f row s hf hrows hs hsa hheld hfs hfamily hrow hfresh =>
    refine ⟨?_,?_,?_⟩
    · intro x hx
      refine ⟨f x,?_,(hf x hx).1⟩
      rw [hrows]
      exact List.mem_append_left _ (List.mem_map_of_mem hx)
    · intro x hx hx'
      rw [hrows]
      exact List.mem_append_left _ (hkept hf x hx hx' ▸ List.mem_map_of_mem hx)
    · intro x' hx' hheld'
      rw [hrows,List.mem_append,List.mem_singleton] at hx'
      cases hx' with
      | inl hxold => exact .inl (hold hf x' hxold hheld')
      | inr hxnew =>
        rw [hxnew,hrow] at hheld'
        exact (hapart _ hheld hheld').elim

theorem undisturbed_login {row : RefreshTokenSession} (hrows : T'.rows=T.rows++[row])
    (hfamily : ∀ x∈T.rows, x.familyId≠row.familyId) : Undisturbed held T T' := by
  refine ⟨?_,?_,?_⟩
  · intro x hx
    refine ⟨x,?_,rfl,rfl,rfl,rfl⟩
    rw [hrows]
    exact List.mem_append_left _ hx
  · intro x hx _
    rw [hrows]
    exact List.mem_append_left _ hx
  · intro x' hx' _
    rw [hrows,List.mem_append,List.mem_singleton] at hx'
    cases hx' with
    | inl hxold => exact .inl hxold
    | inr hxnew => exact .inr (hxnew ▸ hfamily)

theorem Undisturbed.allowed (h : Undisturbed held T T') {ch : Change} (ha : ch.Allowed T held) :
    ch.Allowed T' held := by
  have hkept : ∀ {s : RefreshTokenSession}, s∈T.rows → held s.userId → s∈T'.rows :=
    fun hs hheld => h.kept _ hs hheld
  cases ch with
  | none => trivial
  | set ids status =>
    obtain ⟨hstatus,u,hu,hids⟩ := ha
    refine ⟨hstatus,u,hu,?_⟩
    intro id hid
    obtain ⟨x,hx,hxid,hxu⟩ := hids id hid
    exact ⟨x,hkept hx (hxu ▸ hu),hxid,hxu⟩
  | insert row s => exact ⟨hkept ha.1 ha.2.2.1,ha.2⟩
  | rotate row s => exact ⟨hkept ha.1 ha.2.2.1,ha.2⟩

theorem Undisturbed.ready (h : Undisturbed held T T') {tokenHash : Str} {ch : Change} {p : Phase}
    (hsound : Sound T'.rows) (hp : p.Ready T held tokenHash ch) : p.Ready T' held tokenHash ch := by
  cases p with
  | user u =>
    obtain ⟨hch,x,hx,hxt,hxu⟩ := hp
    obtain ⟨x',hx',_,hu,ht,_⟩ := h.same x hx
    exact ⟨hch,x',hx',ht ▸ hxt,hu ▸ hxu⟩
  | session =>
    obtain ⟨hch,x,hx,hxt,hheld⟩ := hp
    exact ⟨hch,x,h.kept x hx hheld,hxt,hheld⟩
  | compromise s => exact ⟨hp.1,h.kept s hp.2.1 hp.2.2,hp.2.2⟩
  | insert s => exact ⟨hp.1,h.kept s hp.2.1 hp.2.2.2,hp.2.2⟩
  | commit answer =>
    cases answer with
    | refreshed r =>
      cases r with
      | reuseDetected s =>
        obtain ⟨ids,hch,hs,hheld,hids⟩ := hp
        refine ⟨ids,hch,h.kept s hs hheld,hheld,?_⟩
        intro x' hx' hfam
        have huser : x'.userId=s.userId := hsound.user x' hx' s (h.kept s hs hheld) hfam
        cases h.family x' hx' (huser ▸ hheld) with
        | inl hold => exact hids x' hold hfam
        | inr hnew => exact (hnew s hs hfam.symm).elim
      | unknownToken => exact hp
      | inactiveUser => exact hp
      | rotated s createdId => exact hp
    | revoked => exact hp
    | changed => exact hp
    | mfaEnabled => exact hp
    | mfaDisabled => exact hp
  | _ => exact hp

theorem Change.Allowed.mono {held' : ℕ → Prop} (hmore : ∀ u, held u → held' u) {ch : Change}
    (ha : ch.Allowed T held) : ch.Allowed T held' := by
  cases ch with
  | none => trivial
  | set ids status =>
    obtain ⟨hstatus,u,hu,hids⟩ := ha
    exact ⟨hstatus,u,hmore u hu,hids⟩
  | insert row s => exact ⟨ha.1,ha.2.1,hmore _ ha.2.2.1,ha.2.2.2⟩
  | rotate row s => exact ⟨ha.1,ha.2.1,hmore _ ha.2.2.1,ha.2.2.2⟩

end Changed

section Commit
variable {held : ℕ → Prop} {T : Sessions}

theorem marks_ite {p : RefreshTokenSession → Prop} [DecidablePred p]
    {g : RefreshTokenSession → RefreshTokenSession}
    (hg : ∀ x∈T.rows, p x → SameSession x (g x) ∧ held x.userId ∧ (g x).status≠.ACTIVE) :
    Marks held T fun x => if p x then g x else x := by
  intro x hx
  show SameSession x (if p x then g x else x) ∧ _
  by_cases hp : p x
  · obtain ⟨hsame,hheld,hended⟩ := hg x hx hp
    simp only [hp,if_true]
    exact ⟨hsame,.inr ⟨hheld,hended⟩⟩
  · simp only [hp,if_false]
    exact ⟨⟨rfl,rfl,rfl,rfl⟩,.inl trivial⟩

theorem Change.Allowed.changed {ch : Change} (ha : ch.Allowed T held)
    (hends : ∀ row s, ch≠.insert row s)
    (hfresh : ∀ row s, ch=.rotate row s →
      ∀ x∈T.rows, x.id≠row.id ∧ x.tokenHash≠row.tokenHash) :
    Changed held T (ch.apply T) := by
  cases ch with
  | none => exact .marked id (fun x _ => ⟨⟨rfl,rfl,rfl,rfl⟩,.inl rfl⟩) (List.map_id _).symm
  | set ids status =>
    obtain ⟨hstatus,u,hu,hids⟩ := ha
    refine .marked _ (marks_ite ?_) rfl
    intro x hx hid
    obtain ⟨y,hy,hyid,hyu⟩ := hids x.id (of_decide_eq_true hid)
    have hsame : y=x := Table.inj_of_nodup T.nodup hy hx hyid
    exact ⟨⟨rfl,rfl,rfl,rfl⟩,hsame ▸ hyu.symm ▸ hu,hstatus⟩
  | insert row s => exact (hends row s rfl).elim
  | rotate row s =>
    obtain ⟨hs,hactive,hheld,hfamily,huser⟩ := ha
    have hnew := hfresh row s rfl
    have hnone : T.get? row.id=Option.none := Table.get?_eq_none.mpr fun x hx => (hnew x hx).1
    have hrows : ((Change.rotate row s).apply T).rows=(T.rows++[row]).map fun x =>
        if x.id=s.id then {x with status := .ROTATED, replacedBySessionId := some row.id} else x :=
      congrArg _ (Table.rows_insert hnone)
    rw [List.map_append,List.map_singleton,if_neg (hnew s hs).1.symm] at hrows
    refine .rotated _ row s (marks_ite ?_) hrows hs hactive hheld ?_ hfamily huser
      fun x hx => (hnew x hx).2
    · intro x hx hid
      have hsame : x=s := Table.inj_of_nodup T.nodup hx hs hid
      exact ⟨⟨rfl,rfl,rfl,rfl⟩,hsame ▸ hheld,by simp⟩
    · simp

end Commit

def Request.tokenHash (env : Env) : Request → Str
  | .refresh refreshToken => env.hashRefreshToken refreshToken
  | _ => []

/-- A call between its statements: what it wrote is a change it may make, and its next statement
is ready. -/
structure Call.Sane (env : Env) (T : Sessions) (held : ℕ → Prop) (c : Call) (ch : Change) :
    Prop where
  amounts : Amounts c.writes ch
  allowed : ch.Allowed T held
  ready : c.phase.Ready T held (c.request.tokenHash env) ch

theorem sessionOf_some {db : AuthDb} {hash : Str} {s : RefreshTokenSession}
    (h : db.sessionOf hash=some s) : s∈db.sessions.rows ∧ s.tokenHash=hash := by
  have hkey := List.find?_some h
  exact ⟨List.mem_of_find?_eq_some h,by simpa using hkey⟩

theorem mem_activeOf {db : AuthDb} {userId : ℕ} {s : RefreshTokenSession} :
    s∈db.activeOf userId ↔ s∈db.sessions.rows ∧ s.userId=userId ∧ s.status=.ACTIVE := by
  simp [AuthDb.activeOf]

section Statement
variable {env : Env} {db : AuthDb} {held held' : ℕ → Prop} {c : Call} {ch : Change} {now : ℕ}

theorem Call.Sane.view (h : c.Sane env db.sessions held ch) :
    (db.under c.writes).sessions=ch.apply db.sessions :=
  (under_sessions _ _).trans h.amounts.after_eq

theorem allowed_set {T : Sessions} {u : ℕ} (hu : held u) (status : RefreshTokenSessionStatus)
    (hstatus : status≠.ACTIVE) {xs : List RefreshTokenSession}
    (hxs : ∀ x∈xs, x∈T.rows ∧ x.userId=u) :
    (Change.set (xs.map (·.id)) status).Allowed T held := by
  refine ⟨hstatus,u,hu,?_⟩
  intro id hid
  obtain ⟨x,hx,rfl⟩ := List.mem_map.mp hid
  exact ⟨x,(hxs x hx).1,rfl,(hxs x hx).2⟩

theorem Call.Sane.advance (h : c.Sane env db.sessions held ch) (hsound : Sound db.sessions.rows)
    (hmore : ∀ u, held u → held' u) (hlock : ∀ u, c.phase.locks=some u → held' u)
    {next : Phase} {ws : List Write} (hcommit : ∀ a, c.phase≠.commit a)
    (hended : ∀ r, c.phase≠.ended r)
    (hstep : RefreshTokens.advance env now (db.under c.writes) c=.ok (next,ws)) :
    ∃ ch', ({c with phase := next, writes := c.writes++ws} : Call).Sane env db.sessions held' ch' := by
  obtain ⟨request,drawn,phase,writes⟩ := c
  have hsessions := h.view
  obtain ⟨hamounts,hallowed,hready⟩ := h
  have hquiet : ∀ {p : Phase}, ch=.none → p.Ready db.sessions held' (request.tokenHash env) .none →
      ∃ ch', (⟨request,drawn,p,writes++[]⟩ : Call).Sane env db.sessions held' ch' := by
    intro p hch hp
    refine ⟨.none,?_,trivial,hp⟩
    rw [List.append_nil]
    exact hch ▸ hamounts
  cases phase with
  | owner =>
    obtain rfl : ch=.none := hready
    cases request with
    | refresh refreshToken =>
      simp only [RefreshTokens.advance] at hstep
      cases hfound : (db.under writes).sessionOf (env.hashRefreshToken refreshToken) with
      | none =>
        rw [hfound] at hstep
        cases hstep
        exact hquiet rfl (fun _ _ => nofun)
      | some s =>
        rw [hfound] at hstep
        cases hstep
        obtain ⟨hmem,hhash⟩ := sessionOf_some hfound
        rw [hsessions] at hmem
        exact hquiet rfl ⟨rfl,s,hmem,hhash,rfl⟩
    | _ => cases hstep; exact hquiet rfl rfl
  | user userId =>
    obtain ⟨rfl,x,hx,hhash,hu⟩ := hready
    simp only [RefreshTokens.advance] at hstep
    split at hstep
    · cases hstep
      exact hquiet rfl ⟨rfl,x,hx,hhash,hu ▸ hlock userId rfl⟩
    · cases hstep
      exact hquiet rfl (fun _ _ => nofun)
  | session =>
    obtain ⟨rfl,x,hx,hhash,hheld⟩ := hready
    cases request with
    | refresh refreshToken =>
      simp only [RefreshTokens.advance] at hstep
      cases hfound : (db.under writes).sessionOf (env.hashRefreshToken refreshToken) with
      | none =>
        rw [hfound] at hstep
        cases hstep
        exact hquiet rfl (fun _ _ => nofun)
      | some s =>
        obtain ⟨hmem,hs⟩ := sessionOf_some hfound
        rw [hsessions] at hmem
        obtain rfl : x=s := hsound.token x hx s hmem (hhash.trans hs.symm)
        rw [hfound] at hstep
        simp only at hstep
        split at hstep
        · cases hstep
          exact hquiet rfl ⟨rfl,hx,hmore _ hheld⟩
        · rename_i hfine
          cases hstep
          have hactive : x.status=.ACTIVE := by
            by_contra hne
            exact hfine (.inl hne)
          exact hquiet rfl ⟨rfl,hx,hactive,hmore _ hheld⟩
    | _ => cases hstep; exact hquiet rfl ⟨rfl,x,hx,hhash,hmore _ hheld⟩
  | compromise s =>
    obtain ⟨rfl,hs,hheld⟩ := hready
    cases hstep
    rw [hsessions]
    refine ⟨_,hamounts.then_set _ _,?_,_,rfl,hs,hmore _ hheld,?_⟩
    · refine allowed_set (hmore _ hheld) _ (by simp) ?_
      intro x hx
      obtain ⟨hx,hfamily⟩ := List.mem_filter.mp hx
      exact ⟨hx,hsound.user x hx s hs (of_decide_eq_true hfamily)⟩
    · intro x hx hfamily
      exact List.mem_map_of_mem (List.mem_filter.mpr ⟨hx,decide_eq_true hfamily⟩)
  | insert s =>
    obtain ⟨rfl,hs,hactive,hheld⟩ := hready
    simp only [RefreshTokens.advance] at hstep
    split at hstep
    · cases hstep
      refine ⟨.insert (successor env drawn s) s,?_,⟨hs,hactive,hmore _ hheld,rfl,rfl⟩,
        successor env drawn s,rfl,rfl⟩
      cases hamounts with
      | none haside => exact .insert _ s haside
    · cases hstep
  | rotate s createdId =>
    obtain ⟨row,rfl,rfl⟩ := hready
    cases hstep
    refine ⟨.rotate row s,?_,hallowed.mono hmore,fun _ _ => nofun⟩
    cases hamounts with
    | insert row session haside => exact .rotate row s haside
  | lockUser userId =>
    obtain rfl : ch=.none := hready
    cases hstep
    exact hquiet rfl ⟨rfl,hlock userId rfl⟩
  | revoke userId =>
    obtain ⟨rfl,hheld⟩ := hready
    cases request with
    | revokeRefreshToken actor refreshToken revokeAll =>
      cases hstep
      refine ⟨_,hamounts.then_set _ _,allowed_set (hmore _ hheld) _ (by simp) ?_,fun _ _ => nofun⟩
      intro x hx
      obtain ⟨hx,huser,_⟩ := mem_activeOf.mp (List.mem_of_mem_filter hx)
      rw [hsessions] at hx
      exact ⟨hx,huser⟩
    | _ => cases hstep; exact hquiet rfl ⟨rfl,hmore _ hheld⟩
  | password userId =>
    obtain rfl : ch=.none := hready
    cases request with
    | changePassword actor currentPassword newPassword =>
      simp only [RefreshTokens.advance] at hstep
      split at hstep
      · cases hstep
      · split at hstep
        · cases hstep
        · split at hstep
          · cases hstep
          · split at hstep
            · cases hstep
            · cases hstep
              exact hquiet rfl rfl
    | _ => cases hstep; exact hquiet rfl rfl
  | secret userId =>
    obtain rfl : ch=.none := hready
    cases request with
    | verifyMfaSetup actor code =>
      simp only [RefreshTokens.advance] at hstep
      split at hstep
      · cases hstep
      · obtain ⟨_,_,hstep⟩ := Transactions.Txn.bind_eq_ok hstep
        cases hstep
        exact hquiet rfl rfl
    | disableMfa actor code =>
      simp only [RefreshTokens.advance] at hstep
      split at hstep
      · cases hstep
        exact hquiet rfl rfl
      · obtain ⟨_,_,hstep⟩ := Transactions.Txn.bind_eq_ok hstep
        cases hstep
        exact hquiet rfl rfl
    | _ => cases hstep; exact hquiet rfl rfl
  | disableSecrets userId secretId =>
    obtain rfl : ch=.none := hready
    cases request <;> cases hstep <;> exact ⟨.none,hamounts.aside trivial,trivial,rfl⟩
  | verifySecret userId secretId =>
    obtain rfl : ch=.none := hready
    cases hstep
    exact ⟨.none,hamounts.aside trivial,trivial,rfl⟩
  | sessionVersion userId passwordHash =>
    obtain rfl : ch=.none := hready
    cases hstep
    exact ⟨.none,hamounts.aside trivial,trivial,rfl,hlock userId rfl⟩
  | revokeActive userId =>
    obtain ⟨rfl,hheld⟩ := hready
    cases hstep
    refine ⟨_,hamounts.then_set _ _,allowed_set (hmore _ hheld) _ (by simp) ?_,?_⟩
    · intro x hx
      obtain ⟨hx,huser,_⟩ := mem_activeOf.mp hx
      rw [hsessions] at hx
      exact ⟨hx,huser⟩
    · cases request <;> exact fun _ _ => nofun
  | commit answer => exact (hcommit answer rfl).elim
  | ended result => exact (hended result rfl).elim

end Statement

/-- What holds between the actions of any run. -/
structure System.Inv (env : Env) (s : System) : Prop where
  sound : Sound s.db.sessions.rows
  sane : ∀ i c, s.call i=some c →
    ∃ ch, c.Sane env s.db.sessions (fun u => s.rowLock u=some i) ch

/-- What an action does to the sessions. -/
inductive Acted (T T' : Sessions) : Prop
  | same : T'=T → Acted T T'
  | changed (held) : Changed held T T' → Acted T T'
  | login (row : RefreshTokenSession) : T'.rows=T.rows++[row] →
      (∀ x∈T.rows, x.familyId≠row.familyId) → (∀ x∈T.rows, x.tokenHash≠row.tokenHash) → Acted T T'

section Act
variable {env : Env} {s : System} {T T' : Sessions}

theorem Acted.sound (h : Acted T T') (hs : Sound T.rows) : Sound T'.rows := by
  cases h with
  | same hT => exact hT ▸ hs
  | changed held hc => exact hc.sound hs
  | login row hrows hfamily hfresh =>
    rw [hrows]
    exact hs.append (fun x hx hf => (hfamily x hx hf).elim) hfresh

theorem undisturbed_refl (held : ℕ → Prop) (T : Sessions) : Undisturbed held T T :=
  ⟨fun x hx => ⟨x,hx,rfl,rfl,rfl,rfl⟩,fun _ hx _ => hx,fun _ hx _ => .inl hx⟩

theorem Call.Sane.undisturbed {held : ℕ → Prop} {c : Call} {ch : Change}
    (h : c.Sane env T held ch) (hT : Undisturbed held T T') (hsound : Sound T'.rows) :
    c.Sane env T' held ch :=
  ⟨h.amounts,hT.allowed h.allowed,hT.ready hsound h.ready⟩

theorem admits_fresh {db : AuthDb} {row : RefreshTokenSession} (h : db.admits row=true) :
    ∀ x∈db.sessions.rows, x.id≠row.id ∧ x.tokenHash≠row.tokenHash := by
  intro x hx
  have hx' := List.all_eq_true.mp h x hx
  simpa using hx'

theorem lock_other {i j : ℕ} {p : Phase} (hwait : s.waits i p=false) (hj : j≠i) (u : ℕ) :
    s.lock i p u=some j ↔ s.rowLock u=some j := by
  unfold System.lock
  cases hp : p.locks with
  | none => exact Iff.rfl
  | some v =>
    by_cases hu : u=v
    · subst hu
      simp only [Function.update_self]
      constructor
      · intro he
        exact (hj (Option.some.inj he).symm).elim
      · intro he
        unfold System.waits at hwait
        rw [hp] at hwait
        simp [he,hj] at hwait
    · simp only [Function.update_of_ne hu]

theorem release_other {i j : ℕ} (hj : j≠i) (u : ℕ) :
    s.release i u=some j ↔ s.rowLock u=some j := by
  unfold System.release
  split
  · rename_i hi
    rw [hi]
    simp [hj.symm]
  · exact Iff.rfl

theorem System.Inv.finish (h : s.Inv env) {i : ℕ} (c : Call) {db : AuthDb}
    (hc : Changed (fun u => s.rowLock u=some i) s.db.sessions db.sessions)
    (result : Except AuthError Answer) : (s.finish i c db result).Inv env := by
  have hsound : Sound db.sessions.rows := hc.sound h.sound
  refine ⟨hsound,?_⟩
  intro j d hd
  by_cases hj : j=i
  · subst hj
    simp only [System.finish,Function.update_self,Option.some.injEq] at hd
    subst hd
    exact ⟨.none,.none (by simp),trivial,rfl⟩
  · simp only [System.finish,Function.update_of_ne hj] at hd
    obtain ⟨ch,hsane⟩ := h.sane j d hd
    have hheld : (fun u => s.release i u=some j)=fun u => s.rowLock u=some j :=
      funext fun u => propext (release_other hj u)
    refine ⟨ch,?_⟩
    show d.Sane env db.sessions (fun u => s.release i u=some j) ch
    rw [hheld]
    refine hsane.undisturbed (hc.undisturbed ?_) hsound
    intro u hi hj'
    rw [hi] at hj'
    exact hj (Option.some.inj hj').symm

theorem Changed.refl (held : ℕ → Prop) (T : Sessions) : Changed held T T :=
  .marked id (fun _ _ => ⟨⟨rfl,rfl,rfl,rfl⟩,.inl rfl⟩) (List.map_id _).symm

theorem System.Inv.commits (h : s.Inv env) {i : ℕ} {c : Call} (hi : s.call i=some c) {a : Answer}
    (ha : c.phase=.commit a) (hpub : s.db.publishes c.writes=true) :
    Changed (fun u => s.rowLock u=some i) s.db.sessions (s.db.under c.writes).sessions := by
  obtain ⟨ch,hsane⟩ := h.sane i c hi
  rw [hsane.view]
  have hready := hsane.ready
  rw [ha] at hready
  refine hsane.allowed.changed ?_ ?_
  · intro row r hch
    subst hch
    cases a with
    | refreshed x =>
      cases x with
      | reuseDetected y =>
        obtain ⟨ids,hset,_⟩ := hready
        cases hset
      | unknownToken => exact hready row r rfl
      | inactiveUser => exact hready row r rfl
      | rotated y createdId => exact hready row r rfl
    | _ => exact hready row r rfl
  · intro row r hch
    subst hch
    have hmem : Write.insertSession row∈c.writes := by
      have hamounts := hsane.amounts
      generalize c.writes=ws at hamounts
      cases hamounts with
      | rotate row session _ => simp
    exact admits_fresh (List.all_eq_true.mp hpub _ hmem)

/-- What `advance` comes to. -/
inductive Advanced (env : Env) (s : System) (i now : ℕ) (c : Call) : System → Prop
  | idle : Advanced env s i now c s
  | committed (a) : c.phase=.commit a → s.db.publishes c.writes=true →
      Advanced env s i now c (s.finish i c (s.db.under c.writes) (.ok a))
  | lost (e) : Advanced env s i now c (s.finish i c s.db (.error e))
  | moved (next ws) : (∀ a, c.phase≠.commit a) → (∀ r, c.phase≠.ended r) →
      s.waits i c.phase=false → RefreshTokens.advance env now (s.db.under c.writes) c=.ok (next,ws) →
      Advanced env s i now c ⟨s.db,s.lock i c.phase,
        Function.update s.call i (some {c with phase := next, writes := c.writes++ws})⟩

theorem advanced (i now : ℕ) (c : Call) : Advanced env s i now c (s.advance env i now c) := by
  unfold System.advance
  split
  · exact .idle
  · rename_i a ha
    split
    · rename_i hpub
      exact .committed a ha hpub
    · exact .lost _
  · rename_i hended hcommit
    split
    · exact .idle
    · rename_i hwait
      split
      · exact .lost _
      · rename_i next ws hstep
        exact .moved next ws (fun a ha => hcommit a ha) (fun r hr => hended r hr)
          (Bool.not_eq_true _ ▸ hwait) hstep

theorem lock_mine {i u : ℕ} {p : Phase} (h : p.locks=some u) : s.lock i p u=some i := by
  unfold System.lock
  rw [h]
  exact Function.update_self _ _ _

theorem lock_more {i u : ℕ} {p : Phase} (h : s.rowLock u=some i) : s.lock i p u=some i := by
  unfold System.lock
  cases hp : p.locks with
  | none => exact h
  | some v =>
    by_cases hu : u=v
    · exact hu ▸ Function.update_self _ _ _
    · simpa only [Function.update_of_ne hu] using h

theorem System.Inv.advance (h : s.Inv env) {i now : ℕ} {c : Call} (hi : s.call i=some c) {s' : System}
    (hs' : Advanced env s i now c s') : s'.Inv env ∧ Acted s.db.sessions s'.db.sessions := by
  cases hs' with
  | idle => exact ⟨h,.same rfl⟩
  | committed a ha hpub =>
    have hc := h.commits hi ha hpub
    exact ⟨h.finish c hc _,.changed _ hc⟩
  | lost e => exact ⟨h.finish c (.refl _ _) _,.same rfl⟩
  | moved next ws hcommit hended hwait hstep =>
    refine ⟨⟨h.sound,?_⟩,.same rfl⟩
    intro j d hd
    by_cases hj : j=i
    · subst hj
      simp only [Function.update_self,Option.some.injEq] at hd
      subst hd
      obtain ⟨ch,hsane⟩ := h.sane j c hi
      exact hsane.advance h.sound (fun u hu => lock_more hu) (fun u hu => lock_mine hu) hcommit
        hended hstep
    · simp only [Function.update_of_ne hj] at hd
      have hheld : (fun u => s.lock i c.phase u=some j)=fun u => s.rowLock u=some j :=
        funext fun u => propext (lock_other hwait hj u)
      show ∃ ch, d.Sane env s.db.sessions (fun u => s.lock i c.phase u=some j) ch
      rw [hheld]
      exact h.sane j d hd

theorem first_ready (r : Request) (T : Sessions) (held : ℕ → Prop) (tokenHash : Str) :
    r.first.Ready T held tokenHash .none := by
  cases r with
  | revokeRefreshToken userId refreshToken revokeAll =>
    simp only [Request.first]
    split <;> rfl
  | _ => rfl

theorem System.Inv.others (h : s.Inv env) {db : AuthDb} (ha : Acted s.db.sessions db.sessions)
    (hT : ∀ held, Undisturbed held s.db.sessions db.sessions) :
    System.Inv env ⟨db,s.rowLock,s.call⟩ := by
  refine ⟨ha.sound h.sound,?_⟩
  intro i c hi
  obtain ⟨ch,hsane⟩ := h.sane i c hi
  exact ⟨ch,hsane.undisturbed (hT _) (ha.sound h.sound)⟩

theorem login_rows {db : AuthDb} {row : RefreshTokenSession} (h : db.admits row=true) :
    (db.apply (.insertSession {row with status := .ACTIVE})).sessions.rows=
      db.sessions.rows++[{row with status := .ACTIVE}] :=
  Table.rows_insert (Table.get?_eq_none.mpr fun x hx => (admits_fresh h x hx).1)

theorem System.Inv.act (h : s.Inv env) (a : Action) :
    (s.act env a).Inv env ∧ Acted s.db.sessions (s.act env a).db.sessions := by
  cases a with
  | start i request drawn =>
    simp only [System.act]
    split
    · exact ⟨h,.same rfl⟩
    · refine ⟨⟨h.sound,?_⟩,.same rfl⟩
      intro j d hd
      by_cases hj : j=i
      · subst hj
        simp only [Function.update_self,Option.some.injEq] at hd
        subst hd
        exact ⟨.none,.none (by simp),trivial,first_ready _ _ _ _⟩
      · simp only [Function.update_of_ne hj] at hd
        exact h.sane j d hd
  | advance i now =>
    simp only [System.act]
    split
    · exact ⟨h,.same rfl⟩
    · rename_i c hi
      exact h.advance hi (advanced i now c)
  | rollBack i =>
    simp only [System.act]
    split
    · exact ⟨h,.same rfl⟩
    · split
      · exact ⟨h,.same rfl⟩
      · exact ⟨h.finish _ (.refl _ _) _,.same rfl⟩
  | login row =>
    simp only [System.act]
    split
    · rename_i hadmits
      obtain ⟨hadmits,hfamily⟩ := hadmits
      have hrows := login_rows hadmits
      have ha := Acted.login _ hrows hfamily fun x hx => (admits_fresh hadmits x hx).2
      exact ⟨h.others ha fun _ => undisturbed_login hrows hfamily,ha⟩
    · exact ⟨h,.same rfl⟩
  | setUserStatus userId status =>
    simp only [System.act]
    split
    · exact ⟨h.others (.same rfl) fun _ => undisturbed_refl _ _,.same rfl⟩
    · exact ⟨h,.same rfl⟩

theorem System.Inv.run (h : s.Inv env) (as : List Action) : (s.run env as).Inv env := by
  induction as generalizing s with
  | nil => exact h
  | cons a as ih => exact ih (h.act a).1

end Act

theorem inv_initial (env : Env) (users : Table User.id) (secrets : Table MfaTotpSecret.id) :
    (System.initial users secrets).Inv env := by
  refine ⟨⟨?_,?_,?_⟩,?_⟩
  · intro x hx
    cases hx
  · intro x hx
    cases hx
  · intro x hx
    cases hx
  · intro i c hi
    cases hi

/-- A session of the family that its token cannot renew any more. -/
def Spent (T : Sessions) (tokenHash : Str) (familyId : ℕ) : Prop :=
  ∃ x∈T.rows, x.tokenHash=tokenHash ∧ x.familyId=familyId ∧ x.status≠.ACTIVE

/-- Where a refresh with a spent token may stand. -/
def Phase.Doomed (T : Sessions) (familyId : ℕ) : Phase → Prop
  | .owner | .user _ | .session => True
  | .compromise x | .commit (.refreshed (.reuseDetected x)) => x.familyId=familyId
  | .commit (.refreshed .inactiveUser) | .ended (.ok (.refreshed .inactiveUser)) => True
  | .ended (.ok _) => Dead T familyId
  | .ended (.error _) => True
  | _ => False

def System.Presents (s : System) (familyId i : ℕ) (token : Str) : Prop :=
  ∃ c, s.call i=some c ∧ c.request=.refresh token ∧ c.phase.Doomed s.db.sessions familyId

section Reuse
variable {env : Env} {s : System} {T T' : Sessions} {F i : ℕ} {token hash : Str}

theorem Acted.spent (h : Acted T T') (hs : Spent T hash F) : Spent T' hash F := by
  obtain ⟨x,hx,hhash,hF,hstatus⟩ := hs
  have hmark : ∀ {held f}, Marks held T f → f x∈T'.rows → Spent T' hash F := by
    intro held f hf hmem
    obtain ⟨⟨_,_,ht,hfam⟩,hcase⟩ := hf x hx
    refine ⟨f x,hmem,ht ▸ hhash,hfam ▸ hF,?_⟩
    cases hcase with
    | inl hsame => exact hsame.symm ▸ hstatus
    | inr hended => exact hended.2
  cases h with
  | same hT => exact hT ▸ ⟨x,hx,hhash,hF,hstatus⟩
  | changed held hc =>
    cases hc with
    | marked f hf hrows => exact hmark hf (hrows ▸ List.mem_map_of_mem hx)
    | rotated f row s hf hrows =>
      exact hmark hf (hrows ▸ List.mem_append_left _ (List.mem_map_of_mem hx))
  | login row hrows =>
    exact ⟨x,hrows ▸ List.mem_append_left _ hx,hhash,hF,hstatus⟩

theorem Acted.dead (h : Acted T T') (hs : Spent T hash F) (hdead : Dead T F) : Dead T' F := by
  cases h with
  | same hT => exact hT ▸ hdead
  | changed held hc => exact hc.dead hdead
  | login row hrows hfamily hfresh =>
    obtain ⟨y,hy,_,hyF,_⟩ := hs
    intro x hx hxF
    rw [hrows,List.mem_append,List.mem_singleton] at hx
    cases hx with
    | inl hold => exact hdead x hold hxF
    | inr hnew =>
      rw [hnew,← hyF] at hxF
      exact (hfamily y hy hxF.symm).elim

theorem Spent.found {db : AuthDb} (hspent : Spent db.sessions hash F)
    (hsound : Sound db.sessions.rows) :
    ∃ x, db.sessionOf hash=some x ∧ x.familyId=F ∧ x.status≠.ACTIVE := by
  obtain ⟨x,hx,hhash,hF,hstatus⟩ := hspent
  cases hfound : db.sessionOf hash with
  | none =>
    have hnone := List.find?_eq_none.mp hfound x hx
    simp [hhash] at hnone
  | some y =>
    obtain ⟨hy,hyhash⟩ := sessionOf_some hfound
    obtain rfl : y=x := hsound.token y hy x hx (hyhash.trans hhash.symm)
    exact ⟨y,rfl,hF,hstatus⟩

theorem Phase.Doomed.later {p : Phase} (h : p.Doomed T F) (hdead : Dead T F → Dead T' F) :
    p.Doomed T' F := by
  cases p with
  | ended result =>
    cases result with
    | error e => trivial
    | ok a =>
      cases a with
      | refreshed r =>
        cases r with
        | inactiveUser => trivial
        | unknownToken => exact hdead h
        | reuseDetected x => exact hdead h
        | rotated x createdId => exact hdead h
      | revoked => exact hdead h
      | changed => exact hdead h
      | mfaEnabled => exact hdead h
      | mfaDisabled => exact hdead h
  | commit a =>
    cases a with
    | refreshed r => cases r <;> exact h
    | _ => exact h
  | _ => exact h

theorem Phase.Doomed.advance {now : ℕ} {drawn : Drawn} {phase next : Phase} {ws ws' : List Write}
    {db : AuthDb} (hp : phase.Doomed T F) (hspent : Spent db.sessions (env.hashRefreshToken token) F)
    (hsound : Sound db.sessions.rows) (hcommit : ∀ a, phase≠.commit a)
    (hended : ∀ r, phase≠.ended r)
    (hstep : RefreshTokens.advance env now db ⟨.refresh token,drawn,phase,ws⟩=.ok (next,ws')) :
    next.Doomed T F := by
  obtain ⟨x,hfound,hF,hstatus⟩ := hspent.found hsound
  cases phase with
  | owner =>
    simp only [RefreshTokens.advance,hfound] at hstep
    cases hstep
    trivial
  | user u =>
    simp only [RefreshTokens.advance] at hstep
    split at hstep <;> cases hstep <;> trivial
  | session =>
    simp only [RefreshTokens.advance,hfound,hstatus,ne_eq,not_false_eq_true,true_or,if_true] at hstep
    cases hstep
    exact hF
  | compromise y =>
    cases hstep
    exact hp
  | commit a => exact (hcommit a rfl).elim
  | ended r => exact (hended r rfl).elim
  | _ => exact hp.elim

theorem finish_call_other {j : ℕ} (hj : i≠j) (c : Call) (db : AuthDb)
    (result : Except AuthError Answer) : (s.finish j c db result).call i=s.call i := by
  simp only [System.finish,Function.update_of_ne hj]

theorem Advanced.call_other {j now : ℕ} {c : Call} {s' : System} (hj : i≠j)
    (h : Advanced env s j now c s') : s'.call i=s.call i := by
  cases h with
  | idle => rfl
  | committed a => exact finish_call_other hj _ _ _
  | lost e => exact finish_call_other hj _ _ _
  | moved next ws => simp only [Function.update_of_ne hj]

theorem System.Inv.compromised (h : s.Inv env) {c : Call} (hi : s.call i=some c)
    {x : RefreshTokenSession} (hphase : c.phase=.commit (.refreshed (.reuseDetected x))) :
    Dead (s.db.under c.writes).sessions x.familyId := by
  obtain ⟨ch,hsane⟩ := h.sane i c hi
  have hready := hsane.ready
  rw [hphase] at hready
  obtain ⟨ids,rfl,_,_,hids⟩ := hready
  rw [hsane.view]
  intro y' hy' hfamily
  obtain ⟨y,hy,rfl⟩ := List.mem_map.mp hy'
  by_cases hid : y.id∈ids
  · simp [hid]
  · simp only [hid,decide_false,Bool.false_eq_true,if_false] at hfamily
    exact (hid (hids y hy hfamily)).elim

theorem System.Presents.advance {c : Call} (hi : s.call i=some c) (hrequest : c.request=.refresh token)
    (hdoomed : c.phase.Doomed s.db.sessions F) (h : s.Inv env)
    (hspent : Spent s.db.sessions (env.hashRefreshToken token) F) {now : ℕ} {s' : System}
    (hs' : Advanced env s i now c s') : s'.Presents F i token := by
  cases hs' with
  | idle => exact ⟨c,hi,hrequest,hdoomed⟩
  | committed a ha hpub =>
    refine ⟨_,Function.update_self _ _ _,hrequest,?_⟩
    rw [ha] at hdoomed
    cases a with
    | refreshed r =>
      cases r with
      | inactiveUser => trivial
      | unknownToken => exact hdoomed.elim
      | reuseDetected x =>
        obtain rfl : x.familyId=F := hdoomed
        exact h.compromised hi ha
      | rotated x createdId => exact hdoomed.elim
    | _ => exact hdoomed.elim
  | lost e => exact ⟨_,Function.update_self _ _ _,hrequest,trivial⟩
  | moved next ws hcommit hended hwait hstep =>
    refine ⟨_,Function.update_self _ _ _,hrequest,?_⟩
    obtain ⟨ch,hsane⟩ := h.sane i c hi
    have hnone : ch=.none := by
      have hready := hsane.ready
      cases hphase : c.phase with
      | owner => rw [hphase] at hready; exact hready
      | user u => rw [hphase] at hready; exact hready.1
      | session => rw [hphase] at hready; exact hready.1
      | compromise x => rw [hphase] at hready; exact hready.1
      | commit a => exact (hcommit a hphase).elim
      | ended r => exact (hended r hphase).elim
      | _ => rw [hphase] at hdoomed; exact hdoomed.elim
    have hview : (s.db.under c.writes).sessions=s.db.sessions := by
      rw [hsane.view,hnone]
      rfl
    obtain ⟨request,drawn,phase,writes⟩ := c
    obtain rfl : request=.refresh token := hrequest
    exact hdoomed.advance (hview ▸ hspent) (hview ▸ h.sound) hcommit hended hstep

/-- A refresh with a spent token, through any action. -/
theorem System.Presents.act (hp : s.Presents F i token) (h : s.Inv env)
    (hspent : Spent s.db.sessions (env.hashRefreshToken token) F) (a : Action) :
    (s.act env a).Presents F i token := by
  have hacted := (h.act a).2
  have hlater : ∀ {c : Call}, c.phase.Doomed s.db.sessions F →
      c.phase.Doomed (s.act env a).db.sessions F :=
    fun hc => hc.later (hacted.dead hspent)
  obtain ⟨c,hi,hrequest,hdoomed⟩ := hp
  have hkept : (s.act env a).call i=some c → (s.act env a).Presents F i token :=
    fun hi' => ⟨c,hi',hrequest,hlater hdoomed⟩
  cases a with
  | start j request drawn =>
    refine hkept ?_
    simp only [System.act]
    split
    · exact hi
    · rename_i hj
      have hne : i≠j := by
        intro he
        rw [← he,hi] at hj
        cases hj
      simp only [Function.update_of_ne hne]
      exact hi
  | advance j now =>
    by_cases hj : i=j
    · subst hj
      have hact : s.act env (.advance i now)=s.advance env i now c := by
        simp only [System.act,hi]
      rw [hact]
      exact System.Presents.advance hi hrequest hdoomed h hspent (advanced i now c)
    · refine hkept ?_
      simp only [System.act]
      split
      · exact hi
      · rename_i d hd
        exact ((advanced j now d).call_other hj).trans hi
  | rollBack j =>
    by_cases hj : i=j
    · subst hj
      have hphase : (s.act env (.rollBack i)).call i=some c ∨
          (s.act env (.rollBack i)).call i=
            some {c with phase := .ended (.error .rolledBack), writes := []} := by
        simp only [System.act,hi]
        split
        · exact .inl hi
        · exact .inr (Function.update_self _ _ _)
      cases hphase with
      | inl hsame => exact hkept hsame
      | inr hlost => exact ⟨_,hlost,hrequest,trivial⟩
    · refine hkept ?_
      simp only [System.act]
      split
      · exact hi
      · split
        · exact hi
        · exact (finish_call_other hj _ _ _).trans hi
  | login row =>
    refine hkept ?_
    simp only [System.act]
    split <;> exact hi
  | setUserStatus userId status =>
    refine hkept ?_
    simp only [System.act]
    split <;> exact hi

theorem System.Presents.run (hp : s.Presents F i token) (h : s.Inv env)
    (hspent : Spent s.db.sessions (env.hashRefreshToken token) F) (as : List Action) :
    (s.run env as).Presents F i token := by
  induction as generalizing s with
  | nil => exact hp
  | cons a as ih => exact ih (hp.act h hspent a) (h.act a).1 ((h.act a).2.spent hspent)

end Reuse

namespace System

/-- The call's transaction is committed, with this outcome. -/
def Answered (s : System) (i : ℕ) (a : Answer) : Prop :=
  ∃ c, s.call i=some c ∧ c.phase=.ended (.ok a)

end System

/-- In every reachable state a family has at most one active session; and where a token whose
session is not active is presented, and the call's transaction found its user active, no session
of the family is active from then on. -/
theorem refresh_token_families (env : Env) (users : Table User.id)
    (secrets : Table MfaTotpSecret.id) (as : List Action) :
    (∀ x∈((System.initial users secrets).run env as).db.sessions.rows,
      ∀ y∈((System.initial users secrets).run env as).db.sessions.rows,
      x.familyId=y.familyId → x.status=.ACTIVE → y.status=.ACTIVE → x=y) ∧
    ∀ r∈((System.initial users secrets).run env as).db.sessions.rows, r.status≠.ACTIVE →
      ∀ token, env.hashRefreshToken token=r.tokenHash →
      ∀ i, ((System.initial users secrets).run env as).call i=none →
      ∀ drawn bs a, ((System.initial users secrets).run env
        (as++.start i (.refresh token) drawn::bs)).Answered i a →
      a≠.refreshed .inactiveUser →
      ∀ x∈((System.initial users secrets).run env
        (as++.start i (.refresh token) drawn::bs)).db.sessions.rows,
      x.familyId=r.familyId → x.status≠.ACTIVE := by
  have hinv := (inv_initial env users secrets).run as
  refine ⟨hinv.sound.active,?_⟩
  intro r hr hstatus token htoken i hi drawn bs a hanswered hactive
  generalize hs : (System.initial users secrets).run env as=s at *
  have hrun : (System.initial users secrets).run env (as++.start i (.refresh token) drawn::bs)=
      (s.act env (.start i (.refresh token) drawn)).run env bs := by
    rw [← hs]
    exact List.foldl_append
  rw [hrun] at hanswered ⊢
  have hspent : Spent s.db.sessions (env.hashRefreshToken token) r.familyId :=
    ⟨r,hr,htoken.symm,rfl,hstatus⟩
  have hpresents : (s.act env (.start i (.refresh token) drawn)).Presents r.familyId i token := by
    refine ⟨⟨.refresh token,drawn,.owner,[]⟩,?_,rfl,trivial⟩
    simp only [System.act,hi]
    exact Function.update_self _ _ _
  obtain ⟨hinv',hacted⟩ := hinv.act (.start i (.refresh token) drawn)
  obtain ⟨c,hc,_,hdoomed⟩ := hpresents.run hinv' (hacted.spent hspent) bs
  obtain ⟨c',hc',hphase⟩ := hanswered
  obtain rfl : c=c' := Option.some.inj (hc.symm.trans hc')
  rw [hphase] at hdoomed
  cases a with
  | refreshed x =>
    cases x with
    | inactiveUser => exact (hactive rfl).elim
    | _ => exact hdoomed
  | _ => exact hdoomed

def demoEnv : Env := ⟨id,fun hash password => hash=password,fun _ => none,some,fun _ _ _ => true⟩

def demoUsers : Table User.id := Table.empty.insert ⟨1,.ACTIVE,[],0⟩

/-- A login, and its token renewed once. -/
def renewed : List Action :=
  [.login ⟨1,1,['a'],7,.ACTIVE,100,none⟩,.start 0 (.refresh ['a']) ⟨['b'],2,200,[]⟩]++
    List.replicate 6 (.advance 0 50)

def demoState (as : List Action) : System := (System.initial demoUsers .empty).run demoEnv as

/-- The old token once more. -/
def replayed : List Action :=
  renewed++.start 1 (.refresh ['a']) ⟨['c'],3,300,[]⟩::List.replicate 5 (.advance 1 60)

/-- The session that replaced the old token's ends with it. -/
theorem refresh_token_families_demo : (∃ x∈(demoState renewed).db.sessions.rows,
      x.familyId=7 ∧ x.status=.ACTIVE) ∧
    ∀ x∈(demoState replayed).db.sessions.rows, x.familyId=7 → x.status≠.ACTIVE := by
  refine ⟨by decide +kernel,?_⟩
  exact (refresh_token_families demoEnv demoUsers .empty renewed).2
    ⟨1,1,['a'],7,.ROTATED,100,some 2⟩ (by decide +kernel) (by decide) ['a'] rfl 1 rfl
    ⟨['c'],3,300,[]⟩ (List.replicate 5 (.advance 1 60))
    (.refreshed (.reuseDetected ⟨1,1,['a'],7,.ROTATED,100,some 2⟩)) ⟨_,rfl,rfl⟩ (by decide)

end AardvarkWms.RefreshTokens
