import XianyuAdmin.Core.Python
import XianyuAdmin.Core.Transition

/-!
# Syncs that share a fetch

Calls of `sync_messages` with one key share a fetch while it is in progress, and its result for
a while after.  The fetch is shielded: it goes on when a caller is cancelled.  The lock guards no
await, so a call runs from one await to the next in one step; what other keys have in the tables
is not touched by it.
-/

namespace XianyuAdmin.Runtime

open XianyuAdmin.Python
open Transition

/-- How a call ends. -/
inductive SyncAnswer (Result Failure : Type)
  | returns (result : Result)
  | raises (failure : Failure)
  /-- A `RuntimeError` of the call itself. -/
  | refused (text : String)
  | cancelled

/-- How a call ends that has awaited a fetch. -/
def SyncAnswer.ofOutcome {Result Failure : Type} : Except Failure Result →
    SyncAnswer Result Failure
  | .ok result => .returns result
  | .error failure => .raises failure

inductive CallPhase (Result Failure : Type)
  /-- `await asyncio.shield(task)`, with the number of the fetch. -/
  | awaits (fetch : ℕ)
  | ended (answer : SyncAnswer Result Failure)

/-- A call; `startedLate` and `started` are not in the code: whether the fetches before the call
had finished long before it, and the fetch that the call itself has started. -/
structure SyncCall (Result Failure : Type) where
  startedLate : Bool
  started : Option ℕ := none
  phase : CallPhase Result Failure

structure SyncTable (Result Failure : Type) where
  now : ℕ := 0
  task : Option ℕ := none
  cache : Option (ℕ × Result) := none
  fetchCount : ℕ := 0
  outcomes : ℕ → Option (Except Failure Result × ℕ) := fun _ => none
  calls : ℕ → Option (SyncCall Result Failure) := fun _ => none

variable {Result Failure : Type}

namespace SyncTable

def IsRunning (table : SyncTable Result Failure) (fetch : ℕ) : Prop :=
  fetch < table.fetchCount ∧ table.outcomes fetch = none

/-- All fetches have finished, and longer ago than `window`. -/
def isLate (window : ℕ) (table : SyncTable Result Failure) : Bool :=
  decide (∀ fetch < table.fetchCount,
    (table.outcomes fetch).any fun outcome => outcome.2 + window < table.now)

def setCall (table : SyncTable Result Failure) (index : ℕ) (call : SyncCall Result Failure) :
    SyncTable Result Failure :=
  { table with calls := Function.update table.calls index (some call) }

/-- `self._message_sync_tasks.pop(key, None)`, if it is this task that is there. -/
def popTask (table : SyncTable Result Failure) (fetch : ℕ) : SyncTable Result Failure :=
  { table with task := if table.task = some fetch then none else table.task }

/-- What a caller does with the outcome of the fetch: a result is kept, the task is removed. -/
def settle (table : SyncTable Result Failure) (fetch : ℕ) :
    Except Failure Result → SyncTable Result Failure
  | .ok result => { table.popTask fetch with cache := some (table.now, result) }
  | .error _ => table.popTask fetch

/-- A call up to its first await.  `pending` is the number of other fetches that the account has
in progress. -/
def call (window : ℕ) (online : Bool) (pending : ℕ) (table : SyncTable Result Failure)
    (index : ℕ) : SyncTable Result Failure :=
  let late := table.isLate window
  let refuse := fun text => table.setCall index
    { startedLate := late, phase := .ended (.refused text) }
  if !online then refuse "闲鱼 IM 当前未在线"
  else
    match table.cache.filter fun cached => table.now - cached.1 ≤ window with
    | some cached =>
        table.setCall index { startedLate := late, phase := .ended (.returns cached.2) }
    | none =>
        match table.task with
        | none =>
            if 8 ≤ pending then refuse "同步请求过多，请稍后重试"
            else
              { table with task := some table.fetchCount, fetchCount := table.fetchCount + 1 }.setCall
                index
                { startedLate := late
                  started := some table.fetchCount
                  phase := .awaits table.fetchCount }
        | some fetch =>
            match table.outcomes fetch with
            | none => table.setCall index { startedLate := late, phase := .awaits fetch }
            | some outcome =>
                (table.settle fetch outcome.1).setCall index
                  { startedLate := late, phase := .ended (.ofOutcome outcome.1) }

def syncMessages (online : Bool) (pending : ℕ) :
    SyncTable Result Failure → ℕ → SyncTable Result Failure :=
  call (seconds 3) online pending

def syncConversations (online : Bool) (pending : ℕ) :
    SyncTable Result Failure → ℕ → SyncTable Result Failure :=
  call (seconds 5) online pending

end SyncTable

inductive SyncAct (Result Failure : Type)
  | calls (index : ℕ) (online : Bool) (pending : ℕ)
  | finishes (fetch : ℕ) (outcome : Except Failure Result)
  | resumes (index : ℕ)
  /-- The caller is resumed with a `CancelledError`. -/
  | cancels (index : ℕ)
  | ticks (duration : ℕ)

/-- The steps of calls with one key; `call` is `syncMessages` or `syncConversations`. -/
inductive SyncStep
    (call : Bool → ℕ → SyncTable Result Failure → ℕ → SyncTable Result Failure) :
    SyncTable Result Failure → SyncAct Result Failure → SyncTable Result Failure → Prop
  | calls {table : SyncTable Result Failure} {index : ℕ} {online : Bool} {pending : ℕ}
      (hfresh : table.calls index = none) :
      SyncStep call table (.calls index online pending) (call online pending table index)
  | finishes {table : SyncTable Result Failure} {fetch : ℕ} {outcome : Except Failure Result}
      (hrunning : table.IsRunning fetch) :
      SyncStep call table (.finishes fetch outcome)
        { table with
          outcomes := Function.update table.outcomes fetch (some (outcome, table.now)) }
  | resumes {table : SyncTable Result Failure} {index fetch instant : ℕ}
      {caller : SyncCall Result Failure} {outcome : Except Failure Result}
      (hcaller : table.calls index = some caller) (hawaits : caller.phase = .awaits fetch)
      (hdone : table.outcomes fetch = some (outcome, instant)) :
      SyncStep call table (.resumes index)
        ((table.settle fetch outcome).setCall index
          { caller with phase := .ended (.ofOutcome outcome) })
  | cancels {table : SyncTable Result Failure} {index fetch : ℕ}
      {caller : SyncCall Result Failure}
      (hcaller : table.calls index = some caller) (hawaits : caller.phase = .awaits fetch) :
      SyncStep call table (.cancels index)
        ((if (table.outcomes fetch).isSome then table.popTask fetch else table).setCall index
          { caller with phase := .ended .cancelled })
  | ticks (table : SyncTable Result Failure) (duration : ℕ) :
      SyncStep call table (.ticks duration) { table with now := table.now + duration }

def SyncTable.IsWoken (table : SyncTable Result Failure) (caller : SyncCall Result Failure) : Prop :=
  ∃ fetch, caller.phase = .awaits fetch ∧ (table.outcomes fetch).isSome

def keepsCallers (table : SyncTable Result Failure) : SyncAct Result Failure → Prop
  | .calls _ online pending => online = true ∧ pending < 8
  | .finishes fetch _ =>
      ∃ index caller, table.calls index = some caller ∧ caller.phase = .awaits fetch
  | .ticks _ => ∀ index caller, table.calls index = some caller → ¬ table.IsWoken caller
  | .resumes _ | .cancels _ => True

structure NeverStale (table : SyncTable Result Failure) : Prop where
  oneRunning : ∀ left right, table.IsRunning left → table.IsRunning right → left = right
  late : ∀ index caller, table.calls index = some caller → caller.startedLate = true →
    ∃ fetch, caller.started = some fetch ∧
      (caller.phase = .awaits fetch ∨ caller.phase = .ended .cancelled ∨
        ∃ outcome, table.outcomes fetch = some outcome ∧
          caller.phase = .ended (.ofOutcome outcome.1))

end XianyuAdmin.Runtime
