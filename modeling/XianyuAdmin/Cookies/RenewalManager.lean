import XianyuAdmin.Cookies.StaleVerdict

/-!
# The renewal manager

`CookieRenewalManager` runs at most one renewal of an account at a time.  A trigger waits
for the manager's lock, remembers the error kind the account shows, and creates the run.
A failure of the platform's authentication that somebody reports triggers a run that is to
confirm it, and so does the keepalive after its recheck.  The steps are the parts between
two awaits; the authentication failures are counted from the last success on.
-/

namespace XianyuAdmin.Cookies

open Transition

/-- The authentication failures since the last successful validation, renewal or login, and
how many of those there were. -/
structure Tally where
  strikes : ℕ := 0
  successes : ℕ := 0
  deriving DecidableEq, Repr

namespace Tally

def strike (tally : Tally) : Tally :=
  { tally with strikes := tally.strikes + 1 }

def succeed (tally : Tally) : Tally where
  strikes := 0
  successes := tally.successes + 1

end Tally

def RunError.isStrike : RunError → Bool
  | .renewal .authExpired _ | .renewal .suspectedExpired _ => true
  | .renewal .proxyFailed _ | .renewal .verificationRequired _ | .renewal .failed _
  | .renewal .interrupted _ | .renewal .cookieConflict _ | .renewal .internalError _
  | .unexpected => false

structure TriggerCall where
  trigger : RenewalTrigger
  errorSource : Option String := none
  /-- How many successes there were when the failure happened that was reported. -/
  strike : Option ℕ := none

/-- The local variables of a coroutine at its await. -/
inductive Stage
  /-- `handle_auth_expired`, before it has read the status. -/
  | reported (source : String) (strike : ℕ)
  | statusRead (source : String) (strike : ℕ) (manualActionRequired : Bool)
  /-- `trigger`, before it has the lock. -/
  | triggers (call : TriggerCall)
  /-- `trigger` reads the status under the lock. -/
  | hasLock (call : TriggerCall)
  | currentRead (call : TriggerCall) (current : Option CookieRenewal)
      (previousStrike : Option ℕ)
  /-- The attempt has begun, and `trigger` publishes it. -/
  | begun (call : TriggerCall) (previous : Option ErrorKind) (previousStrike : Option ℕ)
  | reads (again : Bool)
  | probing (cookie : String) (again : Bool)
  /-- The keepalive records its validation. -/
  | probed (cookie newCookie : String)

/-- A coroutine that is not a renewal run; `keepalive` if it is in `_keepalive_tasks`. -/
structure Coroutine where
  keepalive : Bool
  stage : Stage

/-- The await of `_execute`. -/
inductive RunStage
  | started
  | accountRead (cookie : String)
  /-- The platform is asked. -/
  | statusRead (cookie : String) (trigger : Option RenewalTrigger)
  | applying (trigger : Option RenewalTrigger)
  /-- The failure is recorded. -/
  | raised (trigger : Option RenewalTrigger) (error : RunError) (observed : ℕ)
  | ending

/-- What `trigger` has kept for a run of `_execute`. -/
structure RenewalRun where
  /-- `_previous_error_kinds` -/
  previous : Option ErrorKind
  /-- `_trigger_sources` -/
  errorSource : Option String
  /-- How many successes there were at the failure that was reported to start the run. -/
  strike : Option ℕ
  /-- The same for the failure that `previous` tells of. -/
  previousStrike : Option ℕ

structure RenewalManager where
  account : CookieAccount
  manualCooldown : ℕ := 0
  /-- `_tasks` -/
  run : Option (RenewalRun × RunStage) := none
  coroutines : List Coroutine := []
  tally : Tally := { }
  /-- How many successes there were when the authentication failure was observed that the
  renewal row tells of. -/
  observed : Option ℕ := none

inductive ManagerStep
  /-- A login, a validation, or another writer of the account. -/
  | interfere (call : Interference)
  | calls (trigger : RenewalTrigger)
  /-- `handle_auth_expired` is called. -/
  | reports (source : String)
  | startsKeepalive
  | readsStatus (index : ℕ)
  /-- `handle_auth_expired` calls `trigger` or not. -/
  | decides (index : ℕ)
  | locks (index : ℕ)
  | readsCurrent (index : ℕ)
  | begins (index : ℕ) (attemptId : AttemptId) (now : ℕ)
  /-- The task of the run is created. -/
  | spawns (index : ℕ)
  | readsCookie (index : ℕ) (enabled : Bool)
  /-- The platform answers a keepalive. -/
  | probes (index : ℕ) (result : Except RunError String)
  | records (index : ℕ) (message : String) (now : ℕ)
  /-- A coroutine is cancelled, or the store raises. -/
  | leaves (index : ℕ)
  | runReadsAccount
  | runReadsStatus
  | raises (error : RunError)
  | persists (newCookie : String) (names : List String) (nextAttemptAt now : ℕ)
  | finishes (message : String) (runtimeApplied : Option Bool) (now : ℕ)
  | fails (nextAttemptAt now : ℕ)
  | runEnds
  /-- The process ends, and another one goes on with the store. -/
  | restarts

def Stage.hasManagerLock : Stage → Bool
  | .hasLock _ | .currentRead _ _ _ | .begun _ _ _ => true
  | .reported _ _ | .statusRead _ _ _ | .triggers _ | .reads _ | .probing _ _ | .probed _ _ =>
      false

namespace RenewalManager

def append (manager : RenewalManager) (coroutine : Coroutine) : RenewalManager :=
  { manager with coroutines := manager.coroutines ++ [coroutine] }

def goOn (manager : RenewalManager) (index : ℕ) (coroutine : Coroutine) : RenewalManager :=
  { manager with coroutines := manager.coroutines.set index coroutine }

def leave (manager : RenewalManager) (index : ℕ) : RenewalManager :=
  { manager with coroutines := manager.coroutines.eraseIdx index }

def setRun (manager : RenewalManager) (run : RenewalRun) (stage : RunStage) : RenewalManager :=
  { manager with run := some (run, stage) }

def strike (manager : RenewalManager) : RenewalManager :=
  { manager with tally := manager.tally.strike }

def store (manager : RenewalManager) (account : CookieAccount) (succeeds : Bool) :
    RenewalManager :=
  { manager with
    account := account
    tally := if succeeds then manager.tally.succeed else manager.tally }

def observe (manager : RenewalManager) (observed : Option ℕ) : RenewalManager :=
  { manager with observed := observed }

def locked (manager : RenewalManager) : Bool :=
  manager.coroutines.any (·.stage.hasManagerLock)

def coolingDown (manager : RenewalManager) (trigger : RenewalTrigger)
    (current : Option CookieRenewal) (now : ℕ) : Bool :=
  trigger = .manual && 0 < manager.manualCooldown &&
    (current.bind CookieRenewal.lastSucceededAt).any fun succeededAt =>
      now < succeededAt + manager.manualCooldown

/-- A keepalive's probe raises: `_run_keepalive`, and `_recheck_suspected_keepalive` if it
is the second probe. -/
def probeRaises (manager : RenewalManager) (index : ℕ) (keepalive again : Bool)
    (error : RunError) : RenewalManager :=
  match error, again with
  | .renewal .suspectedExpired _, false =>
      manager.strike.goOn index ⟨keepalive, .reads true⟩
  | .renewal .suspectedExpired _, true | .renewal .authExpired _, _ =>
      manager.strike.goOn index
        ⟨keepalive, .reported "cookie_keepalive" manager.tally.successes⟩
  | _, _ => manager.leave index

def apply (manager : RenewalManager) : ManagerStep → Option RenewalManager
  | .interfere call =>
      some (manager.store (interfere manager.account call).1 (interfere manager.account call).2)
  | .calls trigger => some (manager.append ⟨false, .triggers { trigger := trigger }⟩)
  | .reports source =>
      if source = "im_runtime" then some manager
      else some (manager.strike.append ⟨false, .reported source manager.tally.successes⟩)
  | .startsKeepalive =>
      if manager.run.isNone && manager.coroutines.all (!·.keepalive) then
        some (manager.append ⟨true, .reads false⟩)
      else none
  | .readsStatus index =>
      match manager.coroutines[index]? with
      | some ⟨keepalive, .reported source strike⟩ =>
          some (manager.goOn index
            ⟨keepalive, .statusRead source strike (manualActionRequired manager.account)⟩)
      | _ => none
  | .decides index =>
      match manager.coroutines[index]? with
      | some ⟨keepalive, .statusRead source strike required⟩ =>
          some (if required || manager.run.isSome then manager.leave index
            else manager.goOn index ⟨keepalive, .triggers
              { trigger := .authRecovery, errorSource := some source, strike := some strike }⟩)
      | _ => none
  | .locks index =>
      match manager.coroutines[index]?, manager.locked with
      | some ⟨keepalive, .triggers call⟩, false =>
          some (if manager.run.isSome then manager.leave index
            else manager.goOn index ⟨keepalive, .hasLock call⟩)
      | _, _ => none
  | .readsCurrent index =>
      match manager.coroutines[index]? with
      | some ⟨keepalive, .hasLock call⟩ =>
          some (manager.goOn index
            ⟨keepalive, .currentRead call manager.account.renewal manager.observed⟩)
      | _ => none
  | .begins index attemptId now =>
      match manager.coroutines[index]? with
      | some ⟨keepalive, .currentRead call current previousStrike⟩ =>
          if manager.coolingDown call.trigger current now then some (manager.leave index)
          else (beginCookieRenewal manager.account call.trigger attemptId now).map fun account =>
            (manager.store account false).goOn index
              ⟨keepalive, .begun call (current.bind CookieRenewal.lastErrorKind) previousStrike⟩
      | _ => none
  | .spawns index =>
      match manager.coroutines[index]? with
      | some ⟨_, .begun call previous previousStrike⟩ =>
          let run : RenewalRun :=
            { previous := previous
              errorSource := call.errorSource
              strike := call.strike
              previousStrike := previousStrike }
          some ((manager.leave index).setRun run .started)
      | _ => none
  | .readsCookie index enabled =>
      match manager.coroutines[index]? with
      | some ⟨keepalive, .reads again⟩ =>
          some (if enabled && manager.account.cookie ≠ "" then
              manager.goOn index ⟨keepalive, .probing manager.account.cookie again⟩
            else manager.leave index)
      | _ => none
  | .probes index result =>
      match manager.coroutines[index]?, result with
      | some ⟨keepalive, .probing cookie _⟩, .ok newCookie =>
          some (manager.goOn index ⟨keepalive, .probed cookie newCookie⟩)
      | some ⟨keepalive, .probing _ again⟩, .error error =>
          some (manager.probeRaises index keepalive again error)
      | _, _ => none
  | .records index message now =>
      match manager.coroutines[index]? with
      | some ⟨_, .probed cookie newCookie⟩ =>
          let result := recordCookieValidation manager.account cookie newCookie
            "cookie_keepalive" message now
          some ((manager.store result.1 result.2).leave index)
      | _ => none
  | .leaves index => some (manager.leave index)
  | .runReadsAccount =>
      match manager.run with
      | some (run, .started) => some (manager.setRun run (.accountRead manager.account.cookie))
      | _ => none
  | .runReadsStatus =>
      match manager.run with
      | some (run, .accountRead cookie) =>
          some (manager.setRun run
            (.statusRead cookie (manager.account.renewal.bind CookieRenewal.trigger)))
      | _ => none
  | .raises error =>
      match manager.run with
      | some (run, .statusRead _ trigger) =>
          some ((if error.isStrike then manager.strike else manager).setRun run
            (.raised trigger error manager.tally.successes))
      | some (run, .applying trigger) =>
          if error = .unexpected then
            some (manager.setRun run (.raised trigger .unexpected manager.tally.successes))
          else none
      | _ => none
  | .persists newCookie names nextAttemptAt now =>
      match manager.run with
      | some (run, .statusRead cookie trigger) =>
          let result :=
            persistCookieRenewal manager.account cookie newCookie names nextAttemptAt now
          some ((manager.store result.1 result.2).setRun run
            (if result.2 then .applying trigger else .ending))
      | _ => none
  | .finishes message runtimeApplied now =>
      match manager.run with
      | some (run, .applying _) =>
          some ((manager.store (finishCookieRenewal manager.account message runtimeApplied now)
            true).setRun run .ending)
      | _ => none
  | .fails nextAttemptAt now =>
      match manager.run with
      | some (run, .raised trigger error observed) =>
          let failure :=
            failureOf run.previous trigger error nextAttemptAt run.errorSource
          some (((manager.store (failCookieRenewal manager.account failure now) false).setRun run
            .ending).observe (if error.isStrike then some observed else none))
      | _ => none
  | .runEnds => some { manager with run := none }
  | .restarts => some { manager with run := none, coroutines := [] }

end RenewalManager

def managerStep : RenewalManager → ManagerStep → RenewalManager → Prop :=
  ofPartial RenewalManager.apply

end XianyuAdmin.Cookies
