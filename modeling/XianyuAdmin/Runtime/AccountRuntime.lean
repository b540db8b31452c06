import XianyuAdmin.Core.Transition

/-!
# The runtime of an account

`AccountRuntimeManager` starts and stops the session of an account under the account's lock.
A start works on a record that was read before it waited for the lock.  The watchdog and the
cookie renewal decide on such records too, and the callbacks of a session write the runtime
state as long as the generation of the session is the current one.  The steps are the parts
between two awaits.
-/

namespace XianyuAdmin.Runtime

open Transition

inductive RuntimeState
  | disabled
  | deleting
  | stopped
  | connecting
  | online
  | reconnecting
  | offline
  | authExpired
  | riskBlocked
  | proxyFailed
  | error
  deriving DecidableEq, Repr

/-- `{"auth_expired", "risk_blocked"}` -/
def RuntimeState.needsHuman : RuntimeState → Bool
  | .authExpired | .riskBlocked => true
  | .disabled | .deleting | .stopped | .connecting | .online | .reconnecting | .offline
  | .proxyFailed | .error => false

/-- `AccountRecord`, with the history of its reading. -/
structure AccountRecord where
  enabled : Bool
  hasCookie : Bool
  state : RuntimeState
  disables : ℕ
  /-- How many calls of `stop` had completed. -/
  stops : ℕ

/-- Who reads the record to start the account. -/
inductive Source
  | user
  | restore
  | watchdog
  | renewal
  deriving DecidableEq, Repr

/-- A coroutine that does not have the account's lock yet. -/
inductive Flow
  | read (source : Source) (record : AccountRecord)
  /-- `start` was called, when so many calls of `stop` had completed. -/
  | starts (record : AccountRecord) (force : Bool) (decided : ℕ)
  /-- `stop`, which `prepare_delete` waits for with a timeout. -/
  | stops (bounded : Bool)
  | replaces (markOnline : Bool)

/-- What follows a write of the coroutine that has the lock. -/
inductive Continuation
  /-- The start goes on after "connecting". -/
  | opens (record : AccountRecord)
  | returns
  /-- The call of `stop` completes. -/
  | completes (bounded : Bool)

/-- The await of the coroutine that has the account's lock. -/
inductive Active
  /-- `core.stop_account`, before the state is written. -/
  | disconnecting (state : RuntimeState)
  | writing (next : Continuation)
  /-- `get_account` of a start that finds the session online. -/
  | rechecking
  /-- `core.start_account`, before the session is there. -/
  | opening (record : AccountRecord) (generation : ℕ)
  /-- `core.start_account` waits for the session, and what follows. -/
  | awaitingOnline
  /-- `core.stop_account` of `stop`. -/
  | stopping (bounded : Bool)
  /-- `core.replace_cookie` -/
  | replacing (markOnline : Bool)
  /-- `get_account` after an exception of `core.replace_cookie`. -/
  | rereading
  | restarting (record : AccountRecord)

/-- A `set_runtime_state` that waits for the account's write lock, or has it. -/
inductive StateWrite
  | callback (state : RuntimeState)
  /-- Of the coroutine that has the account's lock. -/
  | active (state : RuntimeState)

def StateWrite.isCallback : StateWrite → Bool
  | .callback _ => true
  | .active _ => false

structure AccountRuntime where
  enabled : Bool
  hasCookie : Bool
  stored : RuntimeState
  /-- `_desired_running` -/
  desired : Bool := false
  /-- `_account_generations` -/
  generation : ℕ := 0
  /-- The generation in the callbacks of the last session. -/
  opened : Option ℕ := none
  /-- `core.is_account_running` -/
  running : Bool := false
  /-- Who has the account's lock. -/
  active : Option Active := none
  waiting : List Flow := []
  writes : List StateWrite := []
  /-- Writes whose callback was cancelled twice: they are with a thread, without the lock. -/
  detached : List RuntimeState := []
  disables : ℕ := 0
  /-- How many calls of `stop` have completed. -/
  stops : ℕ := 0
  /-- A call of `stop` has completed, and no user and no `restore_enabled_accounts` has
  called `start` since. -/
  quiet : Bool := false
  openedDisabled : Bool := false

inductive RuntimeStep
  /-- The account's record is changed. -/
  | updates (enabled hasCookie : Bool)
  | reads (source : Source)
  /-- Who has read the record calls `start` or not; a user may demand the restart. -/
  | decides (index : ℕ) (force : Bool)
  | callsStop
  | preparesDelete
  | callsReplace (markOnline : Bool)
  | locks (index : ℕ) (online : Bool)
  /-- `core.stop_account` returns. -/
  | disconnects
  /-- `get_account` returns for a start that found the session online. -/
  | rechecks (writes : Bool)
  /-- The session is created and started. -/
  | opens
  /-- The session cannot be created. -/
  | openFails (state : RuntimeState)
  /-- The session is online or not in time, or waiting for it raises. -/
  | settles (state : Option RuntimeState)
  /-- `core.replace_cookie` returns. -/
  | replaces (online : Bool)
  /-- `core.replace_cookie` raises. -/
  | replaceRaises
  | rereads
  | restarts (online : Bool)
  /-- The first write of the queue is done. -/
  | commits
  /-- The wait of `prepare_delete` times out for a `stop` with the lock, and what that was
  waiting for may be done. -/
  | timesOut (done : Bool)
  /-- The same for a `stop` without the lock. -/
  | abandons (index : ℕ)
  | reports (generation : ℕ) (state : RuntimeState)
  | cancelsReport (index : ℕ)
  /-- A callback is cancelled twice during its write. -/
  | detaches
  /-- The thread of such a write is done. -/
  | lands (index : ℕ)
  | sessionEnds

namespace AccountRuntime

/-- `get_account`, or the account in `list_accounts`. -/
def record (runtime : AccountRuntime) : AccountRecord where
  enabled := runtime.enabled
  hasCookie := runtime.hasCookie
  state := runtime.stored
  disables := runtime.disables
  stops := runtime.stops

/-- The lock is released. -/
def unlock (runtime : AccountRuntime) : AccountRuntime :=
  { runtime with active := none }

def nextGeneration (runtime : AccountRuntime) : AccountRuntime :=
  { runtime with generation := runtime.generation + 1 }

/-- The coroutine that has the lock calls `set_runtime_state`. -/
def write (runtime : AccountRuntime) (state : RuntimeState) (next : Continuation) :
    AccountRuntime :=
  { runtime with
    writes := runtime.writes ++ [.active state]
    active := some (.writing next) }

def dropWrite (runtime : AccountRuntime) (done : Bool) : AccountRuntime :=
  match runtime.writes, done with
  | .active state :: rest, true => { runtime with writes := rest, stored := state }
  | _, _ => { runtime with writes := runtime.writes.filter (·.isCallback) }

/-- `_start_locked` up to its first await. -/
def startLocked (runtime : AccountRuntime) (record : AccountRecord) (force online : Bool) :
    AccountRuntime :=
  if !record.enabled then
    { runtime.nextGeneration with active := some (.disconnecting .disabled) }
  else if !record.hasCookie then
    { runtime.nextGeneration with active := some (.disconnecting .authExpired) }
  else if !force && record.state.needsHuman then { runtime with desired := false }.unlock
  else if runtime.running && !force then
    if online then { runtime with active := some .rechecking } else runtime.unlock
  else runtime.write .connecting (.opens record)

def decide (runtime : AccountRuntime) (source : Source) (record : AccountRecord) (force : Bool) :
    AccountRuntime :=
  match source with
  | .user =>
      { runtime with
        waiting := runtime.waiting ++ [.starts record force runtime.stops]
        quiet := false }
  | .restore =>
      if record.enabled && !record.state.needsHuman then
        { runtime with
          waiting := runtime.waiting ++ [.starts record false runtime.stops]
          quiet := false }
      else runtime
  | .watchdog =>
      if record.enabled && record.hasCookie && runtime.desired && !runtime.running then
        { runtime with waiting := runtime.waiting ++ [.starts record true runtime.stops] }
      else runtime
  | .renewal =>
      if !record.enabled then runtime
      else if record.state = .authExpired then
        { runtime with waiting := runtime.waiting ++ [.starts record true record.stops] }
      else { runtime with waiting := runtime.waiting ++ [.replaces true] }

def lock (runtime : AccountRuntime) (online : Bool) : Flow → Option AccountRuntime
  | .read _ _ => none
  | .starts record force _ =>
      some ({ runtime with desired := record.enabled && record.hasCookie }.startLocked record
        force online)
  | .stops bounded =>
      some { { runtime with desired := false }.nextGeneration with
        active := some (.stopping bounded) }
  | .replaces markOnline => some { runtime with active := some (.replacing markOnline) }

def afterWrite (runtime : AccountRuntime) : Continuation → AccountRuntime
  | .opens record =>
      { runtime.nextGeneration with
        active := some (.opening record (runtime.generation + 1)) }
  | .returns => runtime.unlock
  | .completes _ => { runtime.unlock with stops := runtime.stops + 1, quiet := true }

/-- `_handle_state` up to its write. -/
def report (runtime : AccountRuntime) (generation : ℕ) (state : RuntimeState) : AccountRuntime :=
  if generation = runtime.generation then
    { runtime with
      desired := runtime.desired && !state.needsHuman
      writes := runtime.writes ++ [.callback state] }
  else runtime

def apply (runtime : AccountRuntime) : RuntimeStep → Option AccountRuntime
  | .updates enabled hasCookie =>
      some { runtime with
        enabled := enabled
        hasCookie := hasCookie
        disables := if enabled then runtime.disables else runtime.disables + 1 }
  | .reads source =>
      some { runtime with waiting := runtime.waiting ++ [.read source runtime.record] }
  | .decides index force =>
      match runtime.waiting[index]? with
      | some (.read source record) =>
          some ({ runtime with waiting := runtime.waiting.eraseIdx index }.decide source record
            force)
      | _ => none
  | .callsStop => some { runtime with waiting := runtime.waiting ++ [.stops false] }
  | .preparesDelete =>
      some { { runtime with desired := false }.nextGeneration with
        waiting := runtime.waiting ++ [.stops true] }
  | .callsReplace markOnline =>
      some { runtime with waiting := runtime.waiting ++ [.replaces markOnline] }
  | .locks index online =>
      match runtime.active, runtime.waiting[index]? with
      | none, some flow =>
          { runtime with waiting := runtime.waiting.eraseIdx index }.lock online flow
      | _, _ => none
  | .disconnects =>
      match runtime.active with
      | some (.disconnecting state) => some ({ runtime with running := false }.write state .returns)
      | some (.stopping bounded) =>
          some ({ runtime with running := false }.write .stopped (.completes bounded))
      | _ => none
  | .rechecks writes =>
      match runtime.active with
      | some .rechecking => some (if writes then runtime.write .online .returns else runtime.unlock)
      | _ => none
  | .opens =>
      match runtime.active with
      | some (.opening _ generation) =>
          some { runtime with
            running := true
            opened := some generation
            active := some .awaitingOnline
            openedDisabled := runtime.openedDisabled || !runtime.enabled }
      | _ => none
  | .openFails state =>
      match runtime.active with
      | some (.opening _ _) => some (runtime.write state .returns)
      | _ => none
  | .settles state =>
      match runtime.active with
      | some .awaitingOnline =>
          some (state.elim runtime.unlock fun state => runtime.write state .returns)
      | _ => none
  | .replaces online =>
      match runtime.active with
      | some (.replacing markOnline) =>
          some (if runtime.running && markOnline && online then runtime.write .online .returns
            else runtime.unlock)
      | _ => none
  | .replaceRaises =>
      match runtime.active, runtime.running with
      | some (.replacing _), true => some { runtime with active := some .rereading }
      | _, _ => none
  | .rereads =>
      match runtime.active with
      | some .rereading => some { runtime with active := some (.restarting runtime.record) }
      | _ => none
  | .restarts online =>
      match runtime.active with
      | some (.restarting record) =>
          some (if record.enabled then runtime.startLocked record true online else runtime.unlock)
      | _ => none
  | .commits =>
      match runtime.writes, runtime.active with
      | .callback state :: rest, _ => some { runtime with writes := rest, stored := state }
      | .active state :: rest, some (.writing next) =>
          some ({ runtime with writes := rest, stored := state }.afterWrite next)
      | _, _ => none
  | .timesOut done =>
      match runtime.active with
      | some (.stopping true) => some { runtime.unlock with running := runtime.running && !done }
      | some (.writing (.completes true)) =>
          some (runtime.dropWrite done).unlock
      | _ => none
  | .abandons index =>
      match runtime.waiting[index]? with
      | some (.stops true) => some { runtime with waiting := runtime.waiting.eraseIdx index }
      | _ => none
  | .reports generation state =>
      if runtime.opened = some generation then some (runtime.report generation state) else none
  | .cancelsReport index =>
      match runtime.writes[index]? with
      | some (.callback _) => some { runtime with writes := runtime.writes.eraseIdx index }
      | _ => none
  | .detaches =>
      match runtime.writes with
      | .callback state :: rest =>
          some { runtime with writes := rest, detached := runtime.detached ++ [state] }
      | _ => none
  | .lands index =>
      match runtime.detached[index]? with
      | some state =>
          some { runtime with stored := state, detached := runtime.detached.eraseIdx index }
      | none => none
  | .sessionEnds => some { runtime with running := false }

end AccountRuntime

def runtimeStep : AccountRuntime → RuntimeStep → AccountRuntime → Prop :=
  ofPartial AccountRuntime.apply

end XianyuAdmin.Runtime
