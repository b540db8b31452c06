import XianyuAdmin.Core.Python
import XianyuAdmin.Core.Sessions
import XianyuAdmin.Core.Table

/-!
# Users and their admin sessions

A login authenticates a user in one transaction and creates the admin session in
another.  A session lasts until it expires or is revoked, by a logout, by a
password change or by disabling its user.  Instants are microseconds.
-/

namespace XianyuAdmin.Users

open Sessions
open XianyuAdmin.Python

structure User where
  userId : String
  username : String
  passwordHash : String
  role : String := "operator"
  enabled : Bool := true
  updatedAt : ℕ := 0
  lastLoginAt : Option ℕ := none
  lastLoginIp : Option String := none
  lastLoginSource : Option String := none
  deriving DecidableEq, Repr

/-- A row of the admin sessions.  `authenticatedAt` is no column: it is the generation of
the user that the login of the session was authenticated in. -/
structure AdminSession where
  sessionId : String
  userId : String
  refreshTokenHash : String
  createdAt : ℕ
  updatedAt : ℕ
  lastUsedAt : ℕ
  expiresAt : ℕ
  revokedAt : Option ℕ := none
  clientIp : Option String := none
  loginSource : Option String := none
  authenticatedAt : ℕ
  deriving DecidableEq, Repr

inductive UserKey
  | id (userId : String)
  | username (username : String)
  deriving DecidableEq

def userKeys (user : User) : List UserKey := [.id user.userId, .username user.username]

inductive SessionKey
  | id (sessionId : String)
  | token (refreshTokenHash : String)
  deriving DecidableEq

def sessionKeys (session : AdminSession) : List SessionKey :=
  [.id session.sessionId, .token session.refreshTokenHash]

/-- The two tables.  The generation of a user counts the password changes and disablings of
the user that have been committed; `used` are the session ids that were drawn so far. -/
structure Database where
  users : Table User userKeys
  adminSessions : Table AdminSession sessionKeys
  generation : String → ℕ := fun _ => 0
  used : List String := []

namespace Database

def user? (database : Database) (userId : String) : Option User :=
  database.users.lookup (.id userId)

def session? (database : Database) (sessionId : String) : Option AdminSession :=
  database.adminSessions.lookup (.id sessionId)

def sessionOfToken? (database : Database) (refreshTokenHash : String) : Option AdminSession :=
  database.adminSessions.lookup (.token refreshTokenHash)

end Database

/-- The columns that `_update_user_sync` sets. -/
structure UserChanges where
  passwordHash : Option String := none
  role : Option String := none
  enabled : Option Bool := none
  deriving DecidableEq, Repr

def User.write (user : User) (changes : UserChanges) (now : ℕ) : User :=
  { user with
    passwordHash := changes.passwordHash.getD user.passwordHash
    role := changes.role.getD user.role
    enabled := changes.enabled.getD user.enabled
    updatedAt := now }

inductive Write
  | recordLogin (userId : String) (now : ℕ) (clientIp loginSource : Option String)
  | createSession (now : ℕ) (session : AdminSession)
  | extendSession (sessionId : String) (now expiresAt : ℕ)
  | revokeSession (sessionId : String) (now : ℕ)
  /-- The user's columns, and the sessions that the bulk update has found; `ends` if it is
  a password change or a disabling. -/
  | updateUser (userId : String) (changes : UserChanges) (now : ℕ) (found : List String)
      (ends : Bool)
  deriving DecidableEq

def isPurged (now : ℕ) (session : AdminSession) : Bool :=
  session.expiresAt ≤ now ||
    session.revokedAt.any fun revokedAt => revokedAt + seconds (30 * 86400) ≤ now

def AdminSession.revoke (session : AdminSession) (now : ℕ) : AdminSession :=
  { session with revokedAt := some now, updatedAt := now }

def updateSessions (table : Table AdminSession sessionKeys) (selects : String → Bool)
    (update : AdminSession → AdminSession)
    (hkeys : ∀ session, sessionKeys (update session) = sessionKeys session) :
    Table AdminSession sessionKeys :=
  table.map (fun session => if selects session.sessionId then update session else session) (by
    intro session
    by_cases hselected : selects session.sessionId = true
    · rw [if_pos hselected, hkeys]
    · rw [if_neg hselected])

/-- What the database makes of a write; `none` is an error that rolls it back.  `uuid4` draws
no session id twice, so that one that was used before is refused like one that clashes. -/
def applyWrite (database : Database) : Write → Option Database
  | .recordLogin userId now clientIp loginSource =>
      (database.user? userId).map fun _ =>
        { database with
          users := database.users.map (fun user =>
            if user.userId = userId then
              { user with
                lastLoginAt := some now, lastLoginIp := clientIp
                lastLoginSource := loginSource, updatedAt := now }
            else user) (by intro user; split <;> rfl) }
  | .createSession now session =>
      if session.sessionId ∈ database.used then none
      else
        ((database.adminSessions.delete (isPurged now)).insert? session).map fun sessions =>
          { database with
            adminSessions := sessions, used := session.sessionId :: database.used }
  | .extendSession sessionId now expiresAt =>
      (database.session? sessionId).map fun _ =>
        { database with
          adminSessions := updateSessions database.adminSessions (· = sessionId)
            (fun session =>
              { session with lastUsedAt := now, updatedAt := now, expiresAt := expiresAt })
            fun _ => rfl }
  | .revokeSession sessionId now =>
      (database.session? sessionId).map fun _ =>
        { database with
          adminSessions := updateSessions database.adminSessions (· = sessionId)
            (fun session => session.revoke now) fun _ => rfl }
  | .updateUser userId changes now found ends =>
      (database.user? userId).map fun _ =>
        { database with
          users := database.users.map (fun user =>
            if user.userId = userId then user.write changes now else user)
            (by intro user; split <;> rfl)
          adminSessions := updateSessions database.adminSessions (· ∈ found)
            (fun session => session.revoke now) fun _ => rfl
          generation := fun other =>
            if ends ∧ other = userId then database.generation other + 1
            else database.generation other }

inductive RowLock
  | user (userId : String)
  | session (sessionId : String)
  deriving DecidableEq

def touches (database : Database) : Write → List RowLock
  | .recordLogin userId _ _ _ => [.user userId]
  | .createSession now _ =>
      (database.adminSessions.rows.filter (isPurged now)).map fun session =>
        .session session.sessionId
  | .extendSession sessionId _ _ => [.session sessionId]
  | .revokeSession sessionId _ => [.session sessionId]
  | .updateUser userId _ _ found _ => .user userId :: found.map RowLock.session

def engine : Engine Database RowLock Write where
  apply := applyWrite
  touches := touches

/-- What the service is set up with and calls. -/
structure Security where
  verifyPassword : String → String → Bool
  hashAdminSessionToken : String → String
  /-- `settings.admin_session_expires_days`, in microseconds. -/
  expiresAfter : ℕ

inductive Answer
  /-- `None`, `False`, and what a failed write ends in. -/
  | refused
  | accepted (user : User) (sessionId : String)
  | revoked
  | updated (user : User)

abbrev UserTransaction := Transaction Database RowLock Write Answer

variable (security : Security)

def commit (write : Write) (answer : Answer) : UserTransaction :=
  .commits write fun accepted => .ends (if accepted then answer else .refused)

/-- `_create_admin_session_sync`; the session id and the token are new ones. -/
def createAdminSession (userId : String) (clientIp loginSource : Option String) (now : ℕ)
    (sessionId refreshToken : String) (authenticatedAt : ℕ) : UserTransaction :=
  .reads fun database =>
    match database.user? userId with
    | none => .ends .refused
    | some user =>
        if user.enabled then
          commit (.createSession now
            { sessionId := sessionId
              userId := userId
              refreshTokenHash := security.hashAdminSessionToken refreshToken
              createdAt := now
              updatedAt := now
              lastUsedAt := now
              expiresAt := now + security.expiresAfter
              clientIp := clientIp
              loginSource := loginSource
              authenticatedAt := authenticatedAt }) (.accepted user sessionId)
        else .ends .refused

/-- `login`: `_authenticate_user_sync` and, in a transaction of its own,
`_create_admin_session_sync`. -/
def login (username password : String) (clientIp loginSource : Option String) (now : ℕ)
    (sessionId refreshToken : String) : UserTransaction :=
  .reads fun database =>
    match database.users.lookup (.username (strip username)) with
    | none => .ends .refused
    | some user =>
        if user.enabled && security.verifyPassword password user.passwordHash then
          .commits (.recordLogin user.userId now clientIp loginSource) fun accepted =>
            if accepted then
              createAdminSession security user.userId clientIp loginSource now sessionId
                refreshToken (database.generation user.userId)
            else .ends .refused
        else .ends .refused

def isUsable (now : ℕ) (session : AdminSession) : Bool :=
  session.revokedAt.isNone && now < session.expiresAt

def refreshAdminSession (refreshToken : String) (now : ℕ) : UserTransaction :=
  let tokenHash := security.hashAdminSessionToken (strip refreshToken)
  if strip refreshToken = "" then .ends .refused
  else
    .reads fun database =>
      match database.sessionOfToken? tokenHash with
      | none => .ends .refused
      | some seen =>
          .locks (.session seen.sessionId) fun database =>
            match database.session? seen.sessionId with
            | none => .ends .refused
            | some session =>
                if isUsable now session then
                  .reads fun database =>
                    match (database.user? session.userId).filter User.enabled with
                    | none => commit (.revokeSession session.sessionId now) .refused
                    | some user =>
                        commit
                          (.extendSession session.sessionId now (now + security.expiresAfter))
                          (.accepted user session.sessionId)
                else .ends .refused

def revokeAdminSession (refreshToken : String) (now : ℕ) : UserTransaction :=
  if strip refreshToken = "" then .ends .refused
  else
    .reads fun database =>
      match database.sessionOfToken? (security.hashAdminSessionToken (strip refreshToken)) with
      | none => .ends .refused
      | some session =>
          if session.revokedAt.isNone then
            commit (.revokeSession session.sessionId now) .revoked
          else .ends .revoked

/-- `_get_user_for_admin_session_sync`, which reads in one snapshot. -/
def getUserForAdminSession (userId sessionId : String) (now : ℕ) : UserTransaction :=
  .reads fun database =>
    match (database.session? sessionId).filter fun session =>
        session.userId = userId && isUsable now session with
    | none => .ends .refused
    | some _ =>
        match (database.user? userId).filter User.enabled with
        | none => .ends .refused
        | some user => .ends (.accepted user sessionId)

/-- `UserUpdatePayload`; a field that is `none` is not given. -/
structure UserUpdatePayload where
  passwordHash : Option String := none
  role : Option String := none
  enabled : Option Bool := none
  deriving DecidableEq, Repr

def UserUpdatePayload.ends (payload : UserUpdatePayload) : Bool :=
  payload.passwordHash.isSome || payload.enabled = some false

def changed {Value : Type} [DecidableEq Value] (loaded : Value) (new : Option Value) :
    Option Value :=
  new.filter (· ≠ loaded)

def openSessions (database : Database) (userId : String) : List String :=
  (database.adminSessions.rows.filter fun session =>
    session.userId = userId && session.revokedAt.isNone).map AdminSession.sessionId

/-- `_update_user_sync`: the user is loaded, the bulk update finds the open sessions, and the
commit writes both. -/
def updateUser (userId : String) (payload : UserUpdatePayload) (now : ℕ) : UserTransaction :=
  .reads fun database =>
    match database.user? userId with
    | none => .ends .refused
    | some user =>
        let changes : UserChanges :=
          { passwordHash := payload.passwordHash
            role := changed user.role payload.role
            enabled := changed user.enabled payload.enabled }
        if payload.ends then
          .reads fun database =>
            commit
              (.updateUser userId changes now (openSessions database userId) true)
              (.updated (user.write changes now))
        else commit (.updateUser userId changes now [] false) (.updated (user.write changes now))

inductive Call
  | login (username password : String) (clientIp loginSource : Option String) (now : ℕ)
      (sessionId refreshToken : String)
  | refresh (refreshToken : String) (now : ℕ)
  | revoke (refreshToken : String) (now : ℕ)
  | getUser (userId sessionId : String) (now : ℕ)
  | update (userId : String) (payload : UserUpdatePayload) (now : ℕ)

def program : Call → UserTransaction
  | .login username password clientIp loginSource now sessionId refreshToken =>
      login security username password clientIp loginSource now sessionId refreshToken
  | .refresh refreshToken now => refreshAdminSession security refreshToken now
  | .revoke refreshToken now => revokeAdminSession security refreshToken now
  | .getUser userId sessionId now => getUserForAdminSession userId sessionId now
  | .update userId payload now => updateUser userId payload now

end XianyuAdmin.Users
