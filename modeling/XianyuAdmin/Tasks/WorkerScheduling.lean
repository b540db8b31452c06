import XianyuAdmin.Core.Transition
import XianyuAdmin.Tasks.BackgroundTask

/-!
# Scheduling in one worker process

The dispatch loop of `run_worker` fetches one task after the other and puts it into
the queue of its account, whose consumer claims and executes the tasks one by one.
A semaphore bounds the executions, another one the tasks that are fetched ahead.
The loop and the consumers take turns at their awaits; whatever they wait for ends
as it likes.
-/

namespace XianyuAdmin.TaskStore

open XianyuAdmin.Python
open XianyuAdmin.Transition

/-- `task.account_id or f"system:\x7btask.task_id\x7d"`. -/
def accountKey (task : BackgroundTask) : String :=
  (orElse task.accountId none).getD ("system:" ++ task.taskId)

inductive ConsumerPhase
  /-- `await queue.get()`. -/
  | waiting
  /-- `async with global_slots`. -/
  | entering (task : BackgroundTask)
  /-- `await store.claim_background_task(...)`. -/
  | claiming (task : BackgroundTask)
  /-- `await _execute_claimed_task(...)`; the claimed row is that of the task, read later. -/
  | executing (task : BackgroundTask)
  /-- `consumer.done()`. -/
  | ended

namespace ConsumerPhase

def task? : ConsumerPhase → Option BackgroundTask
  | .entering task | .claiming task | .executing task => some task
  | .waiting | .ended => none

def holdsSlot : ConsumerPhase → Bool
  | .claiming _ | .executing _ => true
  | _ => false

def isExecuting : ConsumerPhase → Bool
  | .executing _ => true
  | _ => false

def isEnded : ConsumerPhase → Bool
  | .ended => true
  | _ => false

end ConsumerPhase

/-- A task of `_account_consumer` on the queue of `key`. -/
structure Consumer where
  key : String
  phase : ConsumerPhase

def Consumer.taskId? (consumer : Consumer) : Option String :=
  consumer.phase.task?.map BackgroundTask.taskId

inductive Dispatcher
  /-- `await prefetch_slots.acquire()`. -/
  | acquiring
  /-- `await _next_task_id(...)`. -/
  | fetching
  /-- `await store.get_background_task(...)`. -/
  | reading
  /-- `await asyncio.sleep(...)`. -/
  | sleeping
  | stopped (permits : ℕ)

/-- The permit that the loop holds for the task it is fetching. -/
def Dispatcher.permits : Dispatcher → ℕ
  | .fetching | .reading => 1
  | .acquiring | .sleeping => 0
  | .stopped permits => permits

/-- The variables of `run_worker`.  `queued` are the tasks of all account queues in the order
in which they were put; the queue of an account is its part of them.  `consumers` are all
tasks that were started, `registry` is the dictionary of the last one for each account. -/
structure WorkerState where
  concurrency : ℕ
  freeSlots : ℕ
  freePermits : ℕ
  scheduledIds : List String := []
  queued : List BackgroundTask := []
  consumers : List Consumer := []
  registry : String → Option ℕ := fun _ => none
  dispatcher : Dispatcher := .acquiring

/-- `max(concurrency * 4, concurrency)`. -/
def prefetchPermits (concurrency : ℕ) : ℕ := max (concurrency * 4) concurrency

def WorkerState.initial (concurrency : ℕ) : WorkerState where
  concurrency := concurrency
  freeSlots := concurrency
  freePermits := prefetchPermits concurrency

namespace WorkerState

variable (state : WorkerState)

/-- `prefetch_slots.release()` of the dispatch loop. -/
def givesBack (next : Dispatcher) : WorkerState :=
  { state with freePermits := state.freePermits + 1, dispatcher := next }

/-- `consumer is not None and not consumer.done()`. -/
def hasConsumer (key : String) : Bool :=
  (state.registry key).any fun index =>
    (state.consumers[index]?).any fun consumer => !consumer.phase.isEnded

def startConsumer (key : String) : WorkerState :=
  if state.hasConsumer key then state
  else
    { state with
      consumers := state.consumers ++ [{ key := key, phase := .waiting }]
      registry := fun other =>
        if other = key then some state.consumers.length else state.registry other }

/-- The end of the loop's body, from `scheduled_ids.add` on. -/
def schedule (task : BackgroundTask) : WorkerState :=
  let started := state.startConsumer (accountKey task)
  { started with
    scheduledIds := task.taskId :: started.scheduledIds
    queued := started.queued ++ [task]
    dispatcher := .acquiring }

/-- The consumer goes on to another await. -/
def moves (index : ℕ) (consumer : Consumer) (phase : ConsumerPhase) : WorkerState :=
  { state with consumers := state.consumers.set index { consumer with phase := phase } }

/-- The consumer is done with a task: it leaves `global_slots` if it is inside, and the
`finally` clause forgets the task and releases the permit. -/
def finishes (index : ℕ) (consumer : Consumer) (task : BackgroundTask)
    (phase : ConsumerPhase) : WorkerState :=
  { state.moves index consumer phase with
    freeSlots := state.freeSlots + (if consumer.phase.holdsSlot then 1 else 0)
    scheduledIds := state.scheduledIds.erase task.taskId
    freePermits := state.freePermits + 1 }

end WorkerState

inductive ClaimEnd
  | claimed
  | refused
  /-- An `Exception`, which the consumer logs. -/
  | raised

inductive WorkerLabel
  | acquires
  /-- `_next_task_id` returns an id, or none that is true. -/
  | fetches (found : Bool)
  /-- `get_background_task` returns. -/
  | reads (task : Option BackgroundTask)
  | wakes
  | stopsDispatching
  | takes (index : ℕ)
  | enters (index : ℕ)
  | claims (index : ℕ) (claimEnd : ClaimEnd)
  /-- `_execute_claimed_task` returns, or raises an `Exception` that the consumer logs. -/
  | executes (index : ℕ)
  /-- A `CancelledError`, of the consumer or of what it executes, or another `BaseException`
  ends the consumer at its await. -/
  | stopsConsuming (index : ℕ)

def consumerStep (state : WorkerState) (index : ℕ) (consumer : Consumer) :
    WorkerLabel → Option WorkerState
  | .takes _ =>
      match consumer.phase, state.queued.find? (accountKey · = consumer.key) with
      | .waiting, some task =>
          some { state.moves index consumer (.entering task) with
            queued := state.queued.eraseP (accountKey · = consumer.key) }
      | _, _ => none
  | .enters _ =>
      match consumer.phase, state.freeSlots with
      | .entering task, freeSlots + 1 =>
          some { state.moves index consumer (.claiming task) with freeSlots := freeSlots }
      | _, _ => none
  | .claims _ claimEnd =>
      match consumer.phase, claimEnd with
      | .claiming task, .claimed => some (state.moves index consumer (.executing task))
      | .claiming task, _ => some (state.finishes index consumer task .waiting)
      | _, _ => none
  | .executes _ =>
      match consumer.phase with
      | .executing task => some (state.finishes index consumer task .waiting)
      | _ => none
  | .stopsConsuming _ =>
      match consumer.phase.task? with
      | some task => some (state.finishes index consumer task .ended)
      | none => some (state.moves index consumer .ended)
  | _ => none

def workerStep (state : WorkerState) (label : WorkerLabel) : Option WorkerState :=
  match label, state.dispatcher with
  | .acquires, .acquiring =>
      match state.freePermits with
      | 0 => none
      | freePermits + 1 =>
          some { state with freePermits := freePermits, dispatcher := .fetching }
  | .fetches true, .fetching => some { state with dispatcher := .reading }
  | .fetches false, .fetching => some (state.givesBack .sleeping)
  | .wakes, .sleeping => some { state with dispatcher := .acquiring }
  | .reads none, .reading => some (state.givesBack .acquiring)
  | .reads (some task), .reading =>
      if task.status ≠ .pending ∨ task.taskId ∈ state.scheduledIds then
        some (state.givesBack .acquiring)
      else some (state.schedule task)
  | .stopsDispatching, dispatcher =>
      some { state with dispatcher := .stopped dispatcher.permits }
  | .takes index, _ | .enters index, _ | .claims index _, _ | .executes index, _
  | .stopsConsuming index, _ =>
      (state.consumers[index]?).bind fun consumer => consumerStep state index consumer label
  | _, _ => none

end XianyuAdmin.TaskStore
