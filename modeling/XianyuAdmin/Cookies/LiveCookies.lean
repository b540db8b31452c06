import XianyuAdmin.Cookies.AccountCookies
import XianyuAdmin.Core.Transition

/-!
# The cookie of a running session

A session exchanges requests with the platform over one cookie jar, under its credential
lock.  After an exchange it compares the jar with the cookie it expects, applies the new
cookie if it is the account's own, and reports it.  The manager stores what is reported, if
the stored cookie is the expected one, and else lets the session take the stored cookie.
-/

namespace XianyuAdmin.Cookies

open Transition

/-- `text.split("; ")` -/
def splitParts : List Char → List (List Char)
  | [] => [[]]
  | ';' :: ' ' :: rest => [] :: splitParts rest
  | char :: rest =>
      match splitParts rest with
      | [] => [[char]]
      | part :: parts => (char :: part) :: parts

/-- `(part.split("=")[0], "=".join(part.split("=")[1:]))` -/
def cookieOfPart (part : List Char) : String × String :=
  (String.ofList (part.takeWhile (· ≠ '=')), String.ofList ((part.dropWhile (· ≠ '=')).drop 1))

def transCookies (text : String) : CookieMap :=
  Dict.ofEntries ((splitParts text.toList).map cookieOfPart)

/-- `get_session_cookies_str`, of the jar as a dictionary. -/
def sessionCookiesText (jar : CookieMap) : String :=
  String.intercalate "; " (jar.entries.map entryText)

/-- `trans_cookies(cookie).get("unb") == self.myid` -/
def isOwn (myId cookie : String) : Bool :=
  (transCookies cookie).get? "unb" = some myId

/-- The checks of `replace_cookie`. -/
def isReplacement (myId cookie : String) : Bool :=
  isOwn myId cookie && (((transCookies cookie).get? "_m_h5_tk").getD "") ≠ ""

/-- What uses the credentials of a session. -/
inductive Operation
  | getOrderHeadinfo
  | uploadImage
  | runIdentityQuery
  | platformBlacklist
  | getImToken
  | refreshToken
  deriving DecidableEq, Repr

structure Exchange where
  /-- It raises, its response is rejected, or the token in memory makes it needless. -/
  isWithout : Bool := false
  /-- `session.cookies.get_dict()` -/
  jar : CookieMap

/-- What an operation does after its exchange. -/
structure Outcome where
  /-- The new `account.cookie`. -/
  applied : Option String := none
  /-- The cookie for `on_cookie`. -/
  reported : Option String := none

/-- `updated_cookie and updated_cookie != expected_cookie` -/
def isChanged (expected updated : String) : Bool :=
  updated ≠ "" && updated ≠ expected

def ownChange (myId expected updated : String) : Option String :=
  if isChanged expected updated && isOwn myId updated then some updated else none

def reportChanged (myId expected : String) (exchange : Exchange) : Outcome :=
  let updated := sessionCookiesText exchange.jar
  if exchange.isWithout then {}
  else
    { applied := ownChange myId expected updated
      reported := if isChanged expected updated then some updated else none }

def reportApplied (myId expected : String) (exchange : Exchange) : Outcome :=
  let updated := sessionCookiesText exchange.jar
  if exchange.isWithout then {}
  else
    { applied := ownChange myId expected updated
      reported := ownChange myId expected updated }

def getOrderHeadinfo := reportChanged

def uploadImage := reportChanged

def runIdentityQuery := reportApplied

def platformBlacklist := reportApplied

/-- `_get_im_token_locked` -/
def getImToken := reportApplied

/-- `refresh_token`, which raises for an empty jar or another account. -/
def refreshToken (myId expected : String) (exchange : Exchange) : Outcome :=
  let updated := sessionCookiesText exchange.jar
  if exchange.isWithout || updated = "" || !isOwn myId updated then {}
  else
    { applied := some updated
      reported := if updated ≠ expected then some updated else none }

def Operation.outcome (myId expected : String) (exchange : Exchange) : Operation → Outcome
  | .getOrderHeadinfo => Cookies.getOrderHeadinfo myId expected exchange
  | .uploadImage => Cookies.uploadImage myId expected exchange
  | .runIdentityQuery => Cookies.runIdentityQuery myId expected exchange
  | .platformBlacklist => Cookies.platformBlacklist myId expected exchange
  | .getImToken => Cookies.getImToken myId expected exchange
  | .refreshToken => Cookies.refreshToken myId expected exchange

/-- `expected_cookie` is read before the operation waits for the lock. -/
def Operation.readsEarly : Operation → Bool
  | .runIdentityQuery | .platformBlacklist => true
  | .getOrderHeadinfo | .uploadImage | .getImToken | .refreshToken => false

/-- `on_cookie` is called under the lock. -/
def Operation.reportsLocked : Operation → Bool
  | .getImToken => true
  | .getOrderHeadinfo | .uploadImage | .runIdentityQuery | .platformBlacklist | .refreshToken =>
      false

/-- A call of `on_cookie`, with the history of its cookie. -/
structure Report where
  expected : String
  updated : String
  holdsLock : Bool
  appliedOver : Option String
  /-- How many times the live cookie had been replaced by then. -/
  epoch : ℕ

inductive CookieTask
  /-- The operation waits for the lock; it may have read `expected_cookie`. -/
  | waiting (operation : Operation) (expected : Option String)
  | exchanging (operation : Operation) (expected : String)
  /-- `_handle_cookie_refresh` is about to compare. -/
  | reporting (report : Report)
  /-- The stored cookie was another one; the account is read. -/
  | rereading (holdsLock : Bool)
  /-- The task `xianyu-cookie-conflict` waits for the locks. -/
  | replacing (cookie : String)
  | ended

structure CookieState where
  /-- `session.myid` -/
  myId : String
  stored : String
  /-- `session.account.cookie` -/
  live : String
  /-- `session.is_running()`, in the current generation. -/
  running : Bool := true
  /-- Who has the credential lock. -/
  holder : Option ℕ := none
  tasks : List CookieTask := []
  /-- How many times the live cookie has been replaced. -/
  epoch : ℕ := 0

namespace CookieState

def setTask (state : CookieState) (index : ℕ) (task : CookieTask) : CookieState :=
  { state with tasks := state.tasks.set index task }

def release (state : CookieState) (holdsLock : Bool) : CookieState :=
  { state with holder := if holdsLock then none else state.holder }

end CookieState

inductive CookieStep
  | begins (operation : Operation)
  /-- The task gets the credential lock and starts its exchange. -/
  | acquires (index : ℕ)
  | finishes (index : ℕ) (exchange : Exchange)
  /-- `compare_and_set_account_cookie` -/
  | compares (index : ℕ)
  /-- `get_account` after a conflict. -/
  | rereads (index : ℕ)
  /-- `replace_cookie` of the session, or after its exception the restart of the account. -/
  | replaces (index : ℕ) (enabled : Bool)
  | stops
  | drops (index : ℕ)

namespace CookieState

def finish (state : CookieState) (index : ℕ) (operation : Operation) (expected : String)
    (exchange : Exchange) : CookieState :=
  let outcome := operation.outcome state.myId expected exchange
  let changed := { state with live := outcome.applied.getD state.live }
  match outcome.reported with
  | none => (changed.release true).setTask index .ended
  | some updated =>
      (changed.release (!operation.reportsLocked)).setTask index
        (.reporting
          { expected := expected
            updated := updated
            holdsLock := operation.reportsLocked
            appliedOver := outcome.applied.map fun _ => state.live
            epoch := state.epoch })

/-- `compare_and_set_account_cookie` -/
def compare (state : CookieState) (index : ℕ) (report : Report) : CookieState :=
  if state.stored = report.expected then
    ({ state with stored := report.updated }.release report.holdsLock).setTask index .ended
  else state.setTask index (.rereading report.holdsLock)

/-- The handler ends; the maintenance task that it creates takes its place. -/
def reread (state : CookieState) (index : ℕ) (holdsLock : Bool) : CookieState :=
  (state.release holdsLock).setTask index
    (if state.stored = "" then .ended else .replacing state.stored)

/-- `AccountRuntimeManager.replace_cookie`: a cookie that the session does not take makes the
account start anew, if it is enabled. -/
def replace (state : CookieState) (index : ℕ) (cookie : String) (enabled : Bool) : CookieState :=
  if !state.running then state.setTask index .ended
  else if isReplacement state.myId cookie then
    { state with live := cookie, epoch := state.epoch + 1 }.setTask index .ended
  else { state with running := !enabled }.setTask index .ended

def apply (state : CookieState) : CookieStep → Option CookieState
  | .begins operation =>
      let expected := if operation.readsEarly then some state.live else none
      some { state with tasks := state.tasks ++ [.waiting operation expected] }
  | .acquires index =>
      match state.tasks[index]?, state.holder with
      | some (.waiting operation expected), none =>
          some ({ state with holder := some index }.setTask index
            (.exchanging operation (expected.getD state.live)))
      | _, _ => none
  | .finishes index exchange =>
      match state.tasks[index]? with
      | some (.exchanging operation expected) =>
          some (state.finish index operation expected exchange)
      | _ => none
  | .compares index =>
      match state.tasks[index]? with
      | some (.reporting report) => some (state.compare index report)
      | _ => none
  | .rereads index =>
      match state.tasks[index]? with
      | some (.rereading holdsLock) => some (state.reread index holdsLock)
      | _ => none
  | .replaces index enabled =>
      match state.tasks[index]?, state.holder with
      | some (.replacing cookie), none => some (state.replace index cookie enabled)
      | _, _ => none
  | .stops => some { state with running := false }
  | .drops index =>
      match state.tasks[index]?, state.running with
      | some (.reporting report), false =>
          some ((state.release report.holdsLock).setTask index .ended)
      | _, _ => none

end CookieState

/-- The operations of a session and the handlers of its reports. -/
def cookieStep : CookieState → CookieStep → CookieState → Prop :=
  ofPartial CookieState.apply

end XianyuAdmin.Cookies
