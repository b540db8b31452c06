import XianyuAdmin.Core.SessionAnswers
import XianyuAdmin.Users.AdminSessions

/-!
# Sessions end with what should end them

A session that is not revoked belongs to the present generation of its user, as
long as no login slips in between: as long as a session is created only when its
user has still the generation in which the login was authenticated, and the bulk
update of a password change or a disabling has found every open session of its
user when it is committed.
-/

namespace XianyuAdmin.Users

open Sessions Transition

def Current (database : Database) : Prop :=
  ∀ session ∈ database.adminSessions.rows, session.revokedAt = none →
    session.authenticatedAt = database.generation session.userId

/-- Stored session ids were drawn. -/
def Known (database : Database) : Prop :=
  ∀ session ∈ database.adminSessions.rows, session.sessionId ∈ database.used

def IsOpen (sessionId : String) (database : Database) : Prop :=
  ∃ session, database.session? sessionId = some session ∧ session.revokedAt = none

def IsRevoked (sessionId : String) (database : Database) : Prop :=
  ∃ session, database.session? sessionId = some session ∧ session.revokedAt ≠ none

def SlipsNotIn (database : Database) : Write → Prop
  | .createSession _ session =>
      session.authenticatedAt = database.generation session.userId
  | .updateUser userId _ _ found true =>
      ∀ session ∈ database.adminSessions.rows, session.userId = userId →
        session.revokedAt = none → session.sessionId ∈ found
  | _ => True

variable {database before after : Database} {sessionId : String} {session : AdminSession}
  {write : Write} {security : Security}

theorem mem_of_session? (hsession : database.session? sessionId = some session) :
    session ∈ database.adminSessions.rows ∧ session.sessionId = sessionId := by
  obtain ⟨hmem, hkey⟩ := Table.lookup_eq_some_iff.mp hsession
  refine ⟨hmem, ?_⟩
  simpa [sessionKeys, eq_comm] using hkey

theorem session?_of_mem (hmem : session ∈ database.adminSessions.rows) :
    database.session? session.sessionId = some session :=
  Table.lookup_eq_some_iff.mpr ⟨hmem, by simp [sessionKeys]⟩

inductive Origin (before : Database) (write : Write) (session : AdminSession) : Prop
  | created (now : ℕ) (hwrite : write = .createSession now session)
  | stored (old : AdminSession) (hold : old ∈ before.adminSessions.rows)
      (hid : old.sessionId = session.sessionId) (huser : old.userId = session.userId)
      (hauthenticated : old.authenticatedAt = session.authenticatedAt)
      (hopen : session.revokedAt = none → old.revokedAt = none ∧
        ∀ userId changes now found ends,
          write = .updateUser userId changes now found ends → old.sessionId ∉ found)

theorem origin_of_applyWrite (happly : applyWrite before write = some after)
    (hsession : session ∈ after.adminSessions.rows) : Origin before write session := by
  cases write with
  | recordLogin userId now clientIp loginSource =>
      obtain ⟨user, -, rfl⟩ := Option.map_eq_some_iff.mp happly
      exact .stored session hsession rfl rfl rfl fun hopen =>
        ⟨hopen, fun _ _ _ _ _ hwrite => by cases hwrite⟩
  | createSession now created =>
      rw [applyWrite] at happly
      split at happly
      · cases happly
      · obtain ⟨sessions, hinsert, rfl⟩ := Option.map_eq_some_iff.mp happly
        rw [Table.rows_of_insert? hinsert, List.mem_append, List.mem_singleton] at hsession
        rcases hsession with hold | rfl
        · exact .stored session (Table.mem_delete_iff.mp hold).1 rfl rfl rfl fun hopen =>
            ⟨hopen, fun _ _ _ _ _ hwrite => by cases hwrite⟩
        · exact .created now rfl
  | extendSession sessionId now expiresAt =>
      obtain ⟨_, -, rfl⟩ := Option.map_eq_some_iff.mp happly
      obtain ⟨old, hold, rfl⟩ := List.mem_map.mp hsession
      refine .stored old hold ?_ ?_ ?_ ?_
      · split <;> rfl
      · split <;> rfl
      · split <;> rfl
      · intro hopen
        refine ⟨?_, fun _ _ _ _ _ hwrite => by cases hwrite⟩
        split at hopen <;> exact hopen
  | revokeSession sessionId now =>
      obtain ⟨_, -, rfl⟩ := Option.map_eq_some_iff.mp happly
      obtain ⟨old, hold, rfl⟩ := List.mem_map.mp hsession
      refine .stored old hold ?_ ?_ ?_ ?_
      · split <;> rfl
      · split <;> rfl
      · split <;> rfl
      · intro hopen
        refine ⟨?_, fun _ _ _ _ _ hwrite => by cases hwrite⟩
        split at hopen
        · cases hopen
        · exact hopen
  | updateUser userId changes now found ends =>
      obtain ⟨_, -, rfl⟩ := Option.map_eq_some_iff.mp happly
      obtain ⟨old, hold, rfl⟩ := List.mem_map.mp hsession
      refine .stored old hold ?_ ?_ ?_ ?_
      · split <;> rfl
      · split <;> rfl
      · split <;> rfl
      · intro hopen
        split at hopen
        · cases hopen
        · rename_i hother
          refine ⟨hopen, fun _ _ _ _ _ hwrite => ?_⟩
          cases hwrite
          simpa using hother

theorem generation_of_applyWrite (happly : applyWrite before write = some after) (userId : String) :
    after.generation userId = before.generation userId ∨
      ∃ changes now found, write = .updateUser userId changes now found true := by
  cases write with
  | recordLogin | extendSession | revokeSession =>
      obtain ⟨_, -, rfl⟩ := Option.map_eq_some_iff.mp happly
      exact .inl rfl
  | createSession now created =>
      rw [applyWrite] at happly
      split at happly
      · cases happly
      · obtain ⟨sessions, -, rfl⟩ := Option.map_eq_some_iff.mp happly
        exact .inl rfl
  | updateUser other changes now found ends =>
      obtain ⟨_, -, rfl⟩ := Option.map_eq_some_iff.mp happly
      by_cases hends : ends = true ∧ userId = other
      · obtain ⟨rfl, rfl⟩ := hends
        exact .inr ⟨changes, now, found, rfl⟩
      · exact .inl (if_neg hends)

/-- Drawn ids stay drawn. -/
theorem used_of_applyWrite (happly : applyWrite before write = some after) :
    before.used ⊆ after.used ∧
      ∀ now session, write = .createSession now session → session.sessionId ∈ after.used ∧
        session.sessionId ∉ before.used := by
  cases write with
  | recordLogin | extendSession | revokeSession | updateUser =>
      obtain ⟨_, -, rfl⟩ := Option.map_eq_some_iff.mp happly
      exact ⟨List.Subset.refl _, fun _ _ hwrite => by cases hwrite⟩
  | createSession now created =>
      rw [applyWrite] at happly
      split at happly
      · cases happly
      · rename_i hfresh
        obtain ⟨sessions, -, rfl⟩ := Option.map_eq_some_iff.mp happly
        refine ⟨List.subset_cons_self _ _, fun _ _ hwrite => ?_⟩
        cases hwrite
        exact ⟨List.mem_cons_self, hfresh⟩

theorem known_of_applyWrite (hknown : Known before)
    (happly : applyWrite before write = some after) : Known after := by
  intro session hsession
  obtain ⟨hkept, hdrawn⟩ := used_of_applyWrite happly
  cases origin_of_applyWrite happly hsession with
  | created now hwrite => exact (hdrawn now session hwrite).1
  | stored old hold hid =>
      rw [← hid]
      exact hkept (hknown old hold)

/-- An allowed write keeps the open sessions in the present generation. -/
theorem current_of_applyWrite (hcurrent : Current before) (hallowed : SlipsNotIn before write)
    (happly : applyWrite before write = some after) : Current after := by
  intro session hsession hopen
  cases origin_of_applyWrite happly hsession with
  | created now hwrite =>
      subst hwrite
      rcases generation_of_applyWrite happly session.userId with hsame | ⟨_, _, _, hends⟩
      · rw [hsame]
        exact hallowed
      · cases hends
  | stored old hold hid huser hauthenticated hfrom =>
      obtain ⟨holdOpen, hunfound⟩ := hfrom hopen
      rcases generation_of_applyWrite happly session.userId with hsame | ⟨_, _, _, hends⟩
      · rw [hsame, ← hauthenticated, ← huser]
        exact hcurrent old hold holdOpen
      · subst hends
        exact absurd (hallowed old hold huser holdOpen) (hunfound _ _ _ _ _ rfl)

def NeverOpen (sessionId : String) (database : Database) : Prop :=
  sessionId ∈ database.used ∧ ∀ session ∈ database.adminSessions.rows,
    session.sessionId = sessionId → session.revokedAt ≠ none

theorem neverOpen_of_applyWrite (happly : applyWrite before write = some after)
    (hnever : NeverOpen sessionId before) :
    NeverOpen sessionId after := by
  obtain ⟨hkept, hdrawn⟩ := used_of_applyWrite happly
  refine ⟨hkept hnever.1, fun session hsession hid hopen => ?_⟩
  cases origin_of_applyWrite happly hsession with
  | created now hwrite => exact (hdrawn now session hwrite).2 (hid ▸ hnever.1)
  | stored old hold hsame _ _ hfrom =>
      exact hnever.2 old hold (hsame.trans hid) (hfrom hopen).1

theorem neverOpen_of_isRevoked (hknown : Known database) (hrevoked : IsRevoked sessionId database) :
    NeverOpen sessionId database := by
  obtain ⟨session, hsession, hclosed⟩ := hrevoked
  obtain ⟨hmem, hid⟩ := mem_of_session? hsession
  refine ⟨hid ▸ hknown session hmem, fun other hother hsame => ?_⟩
  have hboth := (session?_of_mem hother).symm.trans ((hsame.trans hid.symm) ▸
    session?_of_mem hmem)
  rwa [Option.some.inj hboth]

theorem not_isOpen_of_neverOpen (hnever : NeverOpen sessionId database) :
    ¬ IsOpen sessionId database := by
  rintro ⟨session, hsession, hopen⟩
  obtain ⟨hmem, hid⟩ := mem_of_session? hsession
  exact hnever.2 session hmem hid hopen

def KeepsLocked (held : List RowLock) (before after : Database) : Prop :=
  ∀ sessionId session, .session sessionId ∈ held →
    before.session? sessionId = some session → after.session? sessionId = some session

theorem KeepsLocked.refl (held : List RowLock) (database : Database) :
    KeepsLocked held database database :=
  fun _ _ _ hsession => hsession

theorem KeepsLocked.trans (held : List RowLock) (first second third : Database)
    (hfirst : KeepsLocked held first second) (hsecond : KeepsLocked held second third) :
    KeepsLocked held first third :=
  fun sessionId session hheld hsession =>
    hsecond sessionId session hheld (hfirst sessionId session hheld hsession)

theorem mem_updateSessions {table : Table AdminSession sessionKeys} {selects : String → Bool}
    {update : AdminSession → AdminSession}
    {hkeys : ∀ session, sessionKeys (update session) = sessionKeys session}
    (hmem : session ∈ table.rows) (hother : selects session.sessionId = false) :
    session ∈ (updateSessions table selects update hkeys).rows :=
  List.mem_map.mpr ⟨session, hmem, if_neg (Bool.eq_false_iff.mp hother)⟩

theorem mem_of_applyWrite (happly : applyWrite before write = some after)
    (hmem : session ∈ before.adminSessions.rows)
    (hfree : .session session.sessionId ∉ touches before write) :
    session ∈ after.adminSessions.rows := by
  cases write with
  | recordLogin userId now clientIp loginSource =>
      obtain ⟨_, -, rfl⟩ := Option.map_eq_some_iff.mp happly
      exact hmem
  | createSession now created =>
      rw [applyWrite] at happly
      split at happly
      · cases happly
      · obtain ⟨sessions, hinsert, rfl⟩ := Option.map_eq_some_iff.mp happly
        have hkept : isPurged now session = false := by
          by_contra hpurged
          exact hfree (List.mem_map.mpr ⟨session, List.mem_filter.mpr
            ⟨hmem, by simpa using hpurged⟩, rfl⟩)
        rw [Table.rows_of_insert? hinsert]
        exact List.mem_append_left _ (Table.mem_delete_iff.mpr ⟨hmem, hkept⟩)
  | extendSession sessionId now expiresAt =>
      obtain ⟨_, -, rfl⟩ := Option.map_eq_some_iff.mp happly
      exact mem_updateSessions hmem (by simpa [touches] using hfree)
  | revokeSession sessionId now =>
      obtain ⟨_, -, rfl⟩ := Option.map_eq_some_iff.mp happly
      exact mem_updateSessions hmem (by simpa [touches] using hfree)
  | updateUser userId changes now found ends =>
      obtain ⟨_, -, rfl⟩ := Option.map_eq_some_iff.mp happly
      exact mem_updateSessions hmem (by simpa [touches] using hfree)

theorem keepsLocked_of_applyWrite {held : List RowLock}
    (happly : applyWrite before write = some after)
    (hfree : ∀ row ∈ held, row ∉ touches before write) : KeepsLocked held before after := by
  intro sessionId session hheld hsession
  obtain ⟨hmem, rfl⟩ := mem_of_session? hsession
  exact session?_of_mem (mem_of_applyWrite happly hmem (hfree _ hheld))

def Accepts (sessionId : String) (answer : Answer) : Prop :=
  ∃ user, answer = .accepted user sessionId

/-- A commit that leads to no such answer, whether it succeeds or not. -/
theorem demands_commit {Looks Commits : Database → Prop} {held : List RowLock} {answer : Answer}
    (hanswer : Accepts sessionId answer → ∀ later, KeepsLocked held database later →
      Commits later) :
    Demands engine KeepsLocked Looks Commits (Accepts sessionId) held database
      (commit write answer) := by
  intro later hrely
  cases engine.apply later write with
  | none => exact fun ⟨_, hrefused⟩ => by cases hrefused
  | some after =>
      exact fun hrefused haccepts => hrefused (hanswer haccepts later hrely)

theorem not_accepts_refused (sessionId : String) : ¬ Accepts sessionId .refused :=
  fun ⟨_, hrefused⟩ => by cases hrefused

theorem refresh_demands (security : Security) (refreshToken : String) (now : ℕ)
    (sessionId : String) (database : Database) :
    Demands engine KeepsLocked (fun _ => False) (IsOpen sessionId) (Accepts sessionId) []
      database (refreshAdminSession security refreshToken now) := by
  unfold refreshAdminSession
  dsimp only
  split
  · exact not_accepts_refused sessionId
  · intro first _ _
    dsimp only
    split
    · exact not_accepts_refused sessionId
    · rename_i seen _
      intro second _ _
      dsimp only
      split
      · exact not_accepts_refused sessionId
      · rename_i session hsession
        split
        · rename_i husable
          intro third hthird _
          have hopen : session.revokedAt = none := by
            simp only [isUsable, Bool.and_eq_true, Option.isNone_iff_eq_none] at husable
            exact husable.1
          have hid := (mem_of_session? hsession).2
          dsimp only
          split
          · exact demands_commit fun haccepts =>
              absurd haccepts (not_accepts_refused sessionId)
          · refine demands_commit fun ⟨_, haccepted⟩ later hlater => ?_
            cases haccepted
            have hheld : RowLock.session seen.sessionId ∈ [RowLock.session seen.sessionId] :=
              List.mem_cons_self
            have hkept := hlater _ _ hheld (hthird _ _ hheld hsession)
            exact ⟨session, hid ▸ hkept, hopen⟩
        · exact not_accepts_refused sessionId

theorem getUser_demands (userId sessionId : String) (now : ℕ) (wanted : String)
    (database : Database) :
    Demands engine KeepsLocked (IsOpen wanted) (fun _ => False) (Accepts wanted) [] database
      (getUserForAdminSession userId sessionId now) := by
  intro later _ hblind
  dsimp only
  split
  · exact not_accepts_refused wanted
  · rename_i session hfound
    split
    · exact not_accepts_refused wanted
    · rintro ⟨_, haccepted⟩
      cases haccepted
      obtain ⟨hsession, husable⟩ := Option.filter_eq_some_iff.mp hfound
      simp only [isUsable, Bool.and_eq_true, Option.isNone_iff_eq_none] at husable
      exact hblind ⟨session, hsession, husable.2.1⟩

abbrev ServiceState := State Database RowLock Write Answer Call

abbrev serviceStep (security : Security) : ServiceState → Label Call → ServiceState → Prop :=
  Sessions.step engine (program security)

/-- There was a moment while the call was carried out when it met a store in `Looks` or
committed to one in `Commits`, and the open sessions belonged to the present generations. -/
def HadMoment (security : Security) (start : ServiceState) (labels : List (Label Call))
    (Looks Commits : Database → Prop) (call : Call) : Prop :=
  ∃ before id after middle, labels = before ++ .advances id :: after ∧
    Run (serviceStep security) start before middle ∧ Current middle.store ∧
      middle.meets engine Looks Commits call id

structure SessionsEnd (security : Security) (start : ServiceState) (labels : List (Label Call))
    (final : ServiceState) : Prop where
  current : Current final.store
  refreshed : ∀ refreshToken now sessionId answer,
    (.refresh refreshToken now, answer) ∈ final.answered → Accepts sessionId answer →
      HadMoment security start labels (fun _ => False) (IsOpen sessionId)
        (.refresh refreshToken now)
  letIn : ∀ userId named now sessionId answer,
    (.getUser userId named now, answer) ∈ final.answered → Accepts sessionId answer →
      HadMoment security start labels (IsOpen sessionId) (fun _ => False)
        (.getUser userId named now)
  revoked : ∀ before after middle sessionId, labels = before ++ after →
    Run (serviceStep security) start before middle →
    Run (serviceStep security) middle after final →
      IsRevoked sessionId middle.store → ¬ IsOpen sessionId final.store

theorem not_isOpen_of_run {start middle final : ServiceState} {before after : List (Label Call)}
    (hknown : Known start.store) (hbefore : Run (serviceStep security) start before middle)
    (hafter : Run (serviceStep security) middle after final)
    (hrevoked : IsRevoked sessionId middle.store) : ¬ IsOpen sessionId final.store := by
  have hknownMiddle : Known middle.store :=
    kept_of_run Known (fun _ _ _ happly hkept => known_of_applyWrite hkept happly) hbefore hknown
  have hnever := neverOpen_of_isRevoked hknownMiddle hrevoked
  exact not_isOpen_of_neverOpen <| kept_of_run (NeverOpen sessionId)
    (fun _ _ _ happly hkept => neverOpen_of_applyWrite happly hkept) hafter hnever

theorem current_of_run {start final : ServiceState} {labels : List (Label Call)}
    (hrun : Run (restrict (serviceStep security) (commitsAllowed SlipsNotIn)) start labels final)
    (hcurrent : Current start.store) (hclosed : start.sessions = []) :
    Current final.store := by
  have hprogram : ∀ call database, Current database →
      Ready engine Current KeepsLocked SlipsNotIn [] database (program security call) :=
    fun call database _ => ready_of_keeps
      (fun _ _ _ hgood hallowed happly => current_of_applyWrite hgood hallowed happly)
      (program security call) [] database
  exact good_of_run KeepsLocked.refl KeepsLocked.trans
    (fun _ _ _ _ happly hfree => keepsLocked_of_applyWrite happly hfree) hprogram hrun
    hcurrent hclosed

theorem hadMoment_of_run {start final : ServiceState} {labels : List (Label Call)}
    {Looks Commits : Database → Prop} {call : Call} {answer : Answer}
    (hdemands : ∀ database, Demands engine KeepsLocked Looks Commits (Accepts sessionId) []
      database (program security call))
    (hrun : Run (restrict (serviceStep security) (commitsAllowed SlipsNotIn)) start labels final)
    (hcurrent : Current start.store) (hclosed : start.sessions = [])
    (hunanswered : start.answered = []) (hanswer : (call, answer) ∈ final.answered)
    (haccepts : Accepts sessionId answer) :
    HadMoment security start labels Looks Commits call := by
  have hwaits : Waits engine KeepsLocked Looks Commits (Accepts sessionId) call start :=
    ⟨by simp [hclosed], by simp [hunanswered]⟩
  obtain ⟨before, id, after, middle, hlabels, hbefore, hmeets⟩ :=
    exists_allowed_moment KeepsLocked.refl KeepsLocked.trans
      (fun _ _ _ _ _ happly hfree => keepsLocked_of_applyWrite happly hfree) hdemands hrun
      hwaits hanswer haccepts
  exact ⟨before, id, after, middle, hlabels, hbefore.forget,
    current_of_run hbefore hcurrent hclosed, hmeets⟩

/-- In every interleaving in which no login slips in between, a session ends with the
generation of its user. -/
theorem sessionsEnd_of_run (security : Security) {start final : ServiceState}
    {labels : List (Label Call)}
    (hrun : Run (restrict (serviceStep security) (commitsAllowed SlipsNotIn)) start labels final)
    (hcurrent : Current start.store) (hknown : Known start.store)
    (hclosed : start.sessions = []) (hunanswered : start.answered = []) :
    SessionsEnd security start labels final where
  current := current_of_run hrun hcurrent hclosed
  refreshed := fun refreshToken now sessionId _ hanswer haccepts =>
    hadMoment_of_run (refresh_demands security refreshToken now sessionId) hrun hcurrent
      hclosed hunanswered hanswer haccepts
  letIn := fun userId named now sessionId _ hanswer haccepts =>
    hadMoment_of_run (getUser_demands userId named now sessionId) hrun hcurrent hclosed
      hunanswered hanswer haccepts
  revoked := by
    intro before after middle sessionId _ hbefore hafter hrevoked
    exact not_isOpen_of_run hknown hbefore hafter hrevoked

def plainSecurity : Security where
  verifyPassword := fun password stored => password = stored
  hashAdminSessionToken := fun token => token
  expiresAfter := 1000

def oneUserState : ServiceState where
  store :=
    { users :=
        { rows := [{ userId := "u1", username := "bob", passwordHash := "old" }]
          unique := List.pairwise_singleton _ _ }
      adminSessions := Table.empty }
  sessions := []
  answered := []

def loginCall : Call := .login "bob" "old" none none 1 "s1" "token"

def requestCall : Call := .getUser "u1" "s1" 3

def passwordCall : Call := .update "u1" { passwordHash := some "new" } 2

def loginLabels : List (Label Call) :=
  [.begins 1 loginCall, .advances 1, .advances 1, .advances 1, .advances 1, .advances 1,
    .begins 3 requestCall, .advances 3, .advances 3]

theorem sessionsEnd_of_login :
    ∃ final, Run (serviceStep plainSecurity) oneUserState loginLabels final ∧
      SessionsEnd plainSecurity oneUserState loginLabels final := by
  have hruns : ∃ final, Run (restrict (serviceStep plainSecurity) (commitsAllowed SlipsNotIn))
      oneUserState loginLabels final := by
    refine ⟨_, .cons ⟨trivial, rfl⟩ (.cons ⟨?_, rfl⟩ (.cons ⟨?_, rfl⟩ (.cons ⟨?_, rfl⟩
      (.cons ⟨?_, rfl⟩ (.cons ⟨?_, rfl⟩ (.cons ⟨trivial, rfl⟩ (.cons ⟨?_, rfl⟩
      (.cons ⟨?_, rfl⟩ (.nil _)))))))))⟩
    all_goals
      intro session write next hsession hrest
      cases hsession
      cases hrest
    · trivial
    · rfl
  obtain ⟨final, hrun⟩ := hruns
  exact ⟨final, hrun.forget, sessionsEnd_of_run plainSecurity hrun
    (fun session hsession => by cases hsession) (fun session hsession => by cases hsession)
    rfl rfl⟩

def overtakenLabels : List (Label Call) :=
  [.begins 1 loginCall, .advances 1, .advances 1,
    .begins 2 passwordCall, .advances 2, .advances 2, .advances 2, .advances 2,
    .advances 1, .advances 1, .advances 1,
    .begins 3 requestCall, .advances 3, .advances 3]

/-- The session of the login with the old password is open, and a request with it is let in. -/
theorem old_password_let_in :
    ∃ final user, Run (serviceStep plainSecurity) oneUserState overtakenLabels final ∧
      (requestCall, .accepted user "s1") ∈ final.answered ∧
      ¬ SessionsEnd plainSecurity oneUserState overtakenLabels final := by
  refine ⟨_, _, run_ofPartial_iff.mpr rfl, List.mem_cons_self, fun hends => ?_⟩
  have hgeneration := hends.current _ List.mem_cons_self rfl
  cases hgeneration

end XianyuAdmin.Users
