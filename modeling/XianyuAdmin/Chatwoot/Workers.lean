import XianyuAdmin.Chatwoot.LocalMirror

/-!
# Workers of the Chatwoot tasks

A task is created once for its dedupe key.  Any number of workers execute the
pending tasks; a task whose execution raises is followed by up to three retries,
and one that is cancelled or whose process is gone is not.
-/

namespace XianyuAdmin.Chatwoot

open XianyuAdmin.Coroutine
open XianyuAdmin.Python

/-- What a task is to do. -/
inductive Job
  | webhook (deliveryId : String)
  | localMessage (accountId messagePk revision : String)
  deriving DecidableEq

namespace Job

/-- `dedupe_key` of the task. -/
def dedupeKey : Job → String
  | .webhook deliveryId => "chatwoot-webhook:" ++ deliveryId
  | .localMessage _ messagePk revision => "chatwoot-local:" ++ messagePk ++ ":" ++ revision

/-- The coroutine that executes the task. -/
def program (library : WebhookLibrary) : Job → Routine Members
  | .webhook deliveryId => executeWebhookTask library deliveryId
  | .localMessage accountId messagePk _ => executeLocalMessageTask accountId messagePk

/-- The task of `enqueue_local_message_sync`. -/
def ofMessage (message : LocalMessage) : Job :=
  let revision :=
    if message.recalled then "recalled"
    else if stringOf message.sendStatus = "" then "received"
    else stringOf message.sendStatus
  .localMessage message.accountId message.messagePk revision

end Job

structure Task where
  job : Job
  attempt : ℕ
  deriving DecidableEq

/-- The bound on `_chatwoot_retry`. -/
def maxRetries : ℕ := 3

/-- The bridge, the pending tasks, the dedupe keys of all tasks and what each worker
executes.  `Ghost` is what a development notes of the run. -/
structure Workers (Ghost : Type) where
  bridge : Bridge
  queue : List Task
  created : List String
  running : ℕ → Option Task
  ghost : Ghost

namespace Workers

variable {Ghost : Type}

/-- `create_background_task` for a job. -/
def enqueue (job : Job) (state : Workers Ghost) : Workers Ghost :=
  if job.dedupeKey ∈ state.created then state
  else
    { state with
      created := state.created ++ [job.dedupeKey]
      queue := state.queue ++ [⟨job, 0⟩] }

def claim (thread : ℕ) (task : Task) (state : Workers Ghost) : Option (Workers Ghost) :=
  if task ∈ state.queue then
    some { state with
      queue := state.queue.erase task
      running := Function.update state.running thread (some task) }
  else none

/-- The retry that follows an execution that raised. -/
def retry (ended : Option (Except Failure Members)) (task : Task) : List Task :=
  match ended with
  | some (.error failure) =>
      if failure ≠ .cancelled ∧ task.attempt < maxRetries then [⟨task.job, task.attempt + 1⟩]
      else []
  | some (.ok _) | none => []

def release (thread : ℕ) (ended : Option (Except Failure Members)) (state : Workers Ghost) :
    Workers Ghost :=
  { state with
    queue := state.queue ++ (state.running thread).toList.flatMap (retry ended)
    running := Function.update state.running thread none }

@[simp]
theorem bridge_enqueue (job : Job) (state : Workers Ghost) :
    (state.enqueue job).bridge = state.bridge := by
  unfold enqueue
  split
  · rfl
  · rfl

@[simp]
theorem running_enqueue (job : Job) (state : Workers Ghost) :
    (state.enqueue job).running = state.running := by
  unfold enqueue
  split
  · rfl
  · rfl

@[simp]
theorem ghost_enqueue (job : Job) (state : Workers Ghost) :
    (state.enqueue job).ghost = state.ghost := by
  unfold enqueue
  split
  · rfl
  · rfl

theorem claim_eq_some {thread : ℕ} {task : Task} {state next : Workers Ghost}
    (hclaim : state.claim thread task = some next) :
    next = { state with
      queue := state.queue.erase task
      running := Function.update state.running thread (some task) } := by
  unfold claim at hclaim
  split at hclaim
  · exact (Option.some.inj hclaim).symm
  · cases hclaim

end Workers

end XianyuAdmin.Chatwoot
