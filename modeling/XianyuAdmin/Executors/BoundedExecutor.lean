import XianyuAdmin.Core.Transition

/-!
# The bounded executor

`BoundedExecutor.run` admits a call, hands its callable to a thread pool and waits
for the future of the pool.  The event loop, the threads of the pool and whoever
cancels the waiting coroutine take their steps in any order.  Durations are left
out; they do not decide anything.
-/

namespace XianyuAdmin.Executors

open Transition

/-- What a callable raises; `CancelledError` is caught where a cancellation is. -/
inductive Raised
  | exception (text : String)
  | cancelledError
  /-- `SystemExit`, `KeyboardInterrupt`: no `Exception`. -/
  | baseException (text : String)
  deriving DecidableEq, Repr

/-- How a callable ends. -/
abbrev Finish (Value : Type) := Except Raised Value

/-- Where the callable is. -/
inductive Work (Value : Type)
  | unsubmitted
  /-- `submit` raised; the callable never runs. -/
  | refused
  /-- In the queue of the pool. -/
  | enqueued
  /-- Taken from the queue and cancelled by `shutdown`; it never runs. -/
  | dropped
  /-- A thread has begun with `invoke`, before its first `with self._lock`. -/
  | pickedUp
  | executing
  /-- After the last `with self._lock` of `invoke`. -/
  | counted (finish : Finish Value)
  /-- The pool has set the outcome of its future. -/
  | resolved (finish : Finish Value)

inductive LoopFuture (Value : Type)
  | pending
  | finished (finish : Finish Value)
  | cancelled

/-- How `run` ends. -/
inductive Ending (Value : Type)
  | returned (value : Value)
  | raised (raised : Raised)
  /-- The `RuntimeError` of `submit`. -/
  | refused

/-- Where `run` is, once the call is admitted. -/
inductive Coroutine (Value : Type)
  | submitting
  /-- `return await asyncio.shield(future)`. -/
  | awaiting
  /-- The second `await`, in `except asyncio.CancelledError`. -/
  | handling
  | ended (ending : Ending Value)

/-- One admitted call of `run`. -/
structure Call (Value : Type) where
  /-- `state["queued"]`. -/
  queued : Bool := true
  work : Work Value := .unsubmitted
  future : LoopFuture Value := .pending
  coroutine : Coroutine Value := .submitting

structure Counters where
  queued : ℤ := 0
  active : ℤ := 0
  submitted : ℤ := 0
  completed : ℤ := 0
  failed : ℤ := 0
  rejected : ℤ := 0
  deriving DecidableEq, Repr

structure BoundedExecutor (Value : Type) where
  maxWorkers : ℤ
  maxQueue : ℤ
  counters : Counters := {}
  isShutdown : Bool := false
  calls : List (Call Value) := []

/-- `BoundedExecutor(name, max_workers=..., max_queue=...)`. -/
def BoundedExecutor.new (Value : Type) (maxWorkers maxQueue : ℤ) : BoundedExecutor Value where
  maxWorkers := max 1 maxWorkers
  maxQueue := max 0 maxQueue

def BoundedExecutor.capacity {Value : Type} (executor : BoundedExecutor Value) : ℤ :=
  executor.maxWorkers + executor.maxQueue

variable {Value : Type}

/-- The block that stands in three places: the call is not queued any more. -/
def release (counters : Counters) (call : Call Value) : Counters × Call Value :=
  if call.queued then
    ({ counters with queued := counters.queued - 1 }, { call with queued := false })
  else (counters, call)

inductive Move (Value : Type)
  | submits
  /-- `run_in_executor` raises `RuntimeError`. -/
  | isRefused
  | picksUp
  | starts
  | finishes (finish : Finish Value)
  | resolves
  /-- `shutdown(cancel_futures=True)` cancels the future of the pool. -/
  | drops
  /-- The outcome reaches the future of the event loop. -/
  | delivers
  /-- `release_cancelled`. -/
  | releases
  | cancels
  /-- The coroutine goes on, as the future is done. -/
  | wakes

/-- The first `await` returns or raises. -/
def wakeAwaiting (call : Call Value) : Finish Value → Call Value
  | .ok value => { call with coroutine := .ended (.returned value) }
  | .error .cancelledError => { call with coroutine := .handling }
  | .error raised => { call with coroutine := .ended (.raised raised) }

/-- The handler's `await` returns or raises; what was caught first is raised again. -/
def wakeHandling (call : Call Value) : Finish Value → Call Value
  | .error (.baseException text) =>
      { call with coroutine := .ended (.raised (.baseException text)) }
  | _ => { call with coroutine := .ended (.raised .cancelledError) }

def move? (isShutdown : Bool) (counters : Counters) (call : Call Value) :
    Move Value → Option (Counters × Call Value)
  | .submits =>
      match call.coroutine with
      | .submitting =>
          if isShutdown then none
          else some (counters, { call with work := .enqueued, coroutine := .awaiting })
      | _ => none
  | .isRefused =>
      match call.coroutine with
      | .submitting =>
          let (counters, call) := release counters call
          some (counters, { call with work := .refused, coroutine := .ended .refused })
      | _ => none
  | .picksUp =>
      match call.work with
      | .enqueued => some (counters, { call with work := .pickedUp })
      | _ => none
  | .starts =>
      match call.work with
      | .pickedUp =>
          let (counters, call) := release counters call
          some ({ counters with active := counters.active + 1 },
            { call with work := .executing })
      | _ => none
  | .finishes finish =>
      match call.work with
      | .executing =>
          let failed : ℤ := match finish with
            | .ok _ => 0
            | .error _ => 1
          some
            ({ counters with
                active := counters.active - 1
                completed := counters.completed + 1
                failed := counters.failed + failed },
              { call with work := .counted finish })
      | _ => none
  | .resolves =>
      match call.work with
      | .counted finish => some (counters, { call with work := .resolved finish })
      | _ => none
  | .drops =>
      match call.work with
      | .enqueued =>
          if isShutdown then some (counters, { call with work := .dropped }) else none
      | _ => none
  | .delivers =>
      match call.future, call.work with
      | .pending, .resolved finish => some (counters, { call with future := .finished finish })
      | .pending, .dropped => some (counters, { call with future := .cancelled })
      | _, _ => none
  | .releases =>
      match call.future with
      | .cancelled => some (release counters call)
      | _ => none
  | .cancels =>
      match call.coroutine with
      | .awaiting => some (counters, { call with coroutine := .handling })
      | .handling =>
          some (counters, { call with coroutine := .ended (.raised .cancelledError) })
      | _ => none
  | .wakes =>
      match call.coroutine, call.future with
      | .awaiting, .finished finish => some (counters, wakeAwaiting call finish)
      | .awaiting, .cancelled => some (counters, { call with coroutine := .handling })
      | .handling, .finished finish => some (counters, wakeHandling call finish)
      | .handling, .cancelled =>
          some (counters, { call with coroutine := .ended (.raised .cancelledError) })
      | _, _ => none

inductive Label (Value : Type)
  /-- `run` is called, up to the block that admits or rejects the call. -/
  | runs
  | shutsDown
  | moves (index : ℕ) (move : Move Value)

def apply (executor : BoundedExecutor Value) : Label Value → Option (BoundedExecutor Value)
  | .runs =>
      let counters := executor.counters
      if counters.queued + counters.active ≥ executor.capacity then
        -- `ExecutorSaturatedError`
        some { executor with counters := { counters with rejected := counters.rejected + 1 } }
      else
        some { executor with
          counters :=
            { counters with
              queued := counters.queued + 1
              submitted := counters.submitted + 1 }
          calls := executor.calls ++ [{}] }
  | .shutsDown => some { executor with isShutdown := true }
  | .moves index move =>
      match executor.calls[index]? with
      | none => none
      | some call =>
          (move? executor.isShutdown executor.counters call move).map fun (counters, moved) =>
            { executor with counters := counters, calls := executor.calls.set index moved }

def step : BoundedExecutor Value → Label Value → BoundedExecutor Value → Prop :=
  ofPartial apply

end XianyuAdmin.Executors
