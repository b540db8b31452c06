import XianyuAdmin.Core.TableChanges
import XianyuAdmin.Core.Transition
import XianyuAdmin.Tasks.TaskCreation

/-!
# Retries of Chatwoot tasks

`_execute_claimed_task` executes a task that its worker claimed and records how the execution
ended.  A task of one of the Chatwoot types whose execution raised is followed by a new task,
which carries the number of retries so far in its payload.  An execution that was cancelled,
or whose lease ran out, is not retried.
-/

namespace XianyuAdmin.TaskRetries

open XianyuAdmin.Python
open XianyuAdmin.TaskStore
open XianyuAdmin.LeaseFencing
open Function (update)

def chatwootTaskTypes : List String :=
  ["chatwoot.sync_local_message", "chatwoot.process_webhook", "chatwoot.send_account_alert",
    "chatwoot.sync_account_status", "chatwoot.sync_account_metadata"]

/-- `payload[name] = value` -/
def setMember (members : List (String × Json)) (name : String) (value : Json) :
    List (String × Json) :=
  if members.any fun member => member.1 = name then
    members.map fun member => if member.1 = name then (name, value) else member
  else members ++ [(name, value)]

/-- `int(payload.get("_chatwoot_retry") or 0)`, or `none` where that raises; only the worker
writes the member, and never as a float. -/
def retryCount (payload : List (String × Json)) : Option ℤ :=
  match Json.or (Json.get payload "_chatwoot_retry") (.int 0) with
  | .int value => some value
  | .bool value => some (if value then 1 else 0)
  | .str text => (strip text).toInt?
  | .null | .float _ | .arr _ | .obj _ => none

/-- `(5, 15, 45)[retry_count]`; a negative index counts from the end. -/
def retryDelay (count : ℤ) : Option ℕ :=
  if count < -3 then none
  else [5, 15, 45][(if count < 0 then count + 3 else count).toNat]?

/-- `f"chatwoot-retry:{task.task_id}:{retry_count + 1}"` -/
def retryKey (taskId : String) (number : ℤ) : String :=
  "chatwoot-retry:" ++ taskId ++ ":" ++ toString number

/-- `dict(task.payload) if isinstance(task.payload, dict) else {}` -/
def payloadMembers (task : BackgroundTask) : List (String × Json) :=
  (task.payload.getD .null).asObject

def retryRequest (task : BackgroundTask) (now : ℕ) : Option CreatePayload :=
  if task.taskType ∈ chatwootTaskTypes then
    match retryCount (payloadMembers task) with
    | none => none
    | some count =>
        if count < 3 then
          (retryDelay count).map fun delay =>
            { accountId := task.accountId
              taskType := task.taskType
              dedupeKey := some (retryKey task.taskId (count + 1))
              payload :=
                some (.obj (setMember (payloadMembers task) "_chatwoot_retry" (.int (count + 1))))
              runAfter := some (now + seconds delay) }
        else none
  else none

/-- How `execute_task` ends. -/
inductive ExecutionEnd
  | returned
  | raised
  | cancelled
  deriving DecidableEq

/-- The status that `finish` records. -/
def ExecutionEnd.status : ExecutionEnd → String
  | .returned => "success"
  | .raised | .cancelled => "failed"

inductive ExecutionPoint
  | executing
  | finishing (outcome : ExecutionEnd)
  | retrying

/-- `_execute_claimed_task` for the row as it was claimed. -/
structure Execution where
  task : BackgroundTask
  worker : WorkerId
  point : ExecutionPoint

/-- The tasks and the executions in progress.  The lists note the tasks whose execution
started, those whose execution returned, and those whose execution was cancelled, whose
worker crashed or whose lease ran out. -/
structure RetryState where
  tasks : TaskTable := .empty
  executions : ℕ → Option Execution := fun _ => none
  started : List String := []
  succeeded : List String := []
  interrupted : List String := []

inductive RetryLabel
  | create (request : CreatePayload) (taskId : String) (now : ℕ)
  | claim (index : ℕ) (taskId : String) (worker : WorkerId) (leaseSeconds : ℤ) (now : ℕ)
  | renew (index : ℕ) (leaseSeconds : ℤ) (now : ℕ)
  | ends (index : ℕ) (outcome : ExecutionEnd)
  | finishes (index : ℕ) (result : Option Json) (error : Option String) (now : ℕ)
  | retries (index : ℕ) (taskId : String) (now : ℕ)
  | crashes (index : ℕ)
  | sweeps (now : Option ℕ) (clock : ℕ)

structure IsOriginal (dedupeKey : Option String) (payload : Option Json) : Prop where
  key : ∀ key ∈ dedupeKey, key ≠ "" ∧ "chatwoot-retry:".toList.isPrefixOf key.toList = false
  payload : ∀ member ∈ (payload.getD .null).asObject, member.1 ≠ "_chatwoot_retry"

instance (dedupeKey : Option String) (payload : Option Json) :
    Decidable (IsOriginal dedupeKey payload) :=
  decidable_of_iff
    ((∀ key ∈ dedupeKey, key ≠ "" ∧ "chatwoot-retry:".toList.isPrefixOf key.toList = false) ∧
      ∀ member ∈ (payload.getD .null).asObject, member.1 ≠ "_chatwoot_retry")
    ⟨fun ⟨hkey, hpayload⟩ => ⟨hkey, hpayload⟩, fun horiginal => ⟨horiginal.key, horiginal.payload⟩⟩

def IsFresh (tasks : TaskTable) (taskId : String) : Prop :=
  ':' ∉ taskId.toList ∧ ∀ row ∈ tasks.rows, row.taskId ≠ taskId

instance (tasks : TaskTable) (taskId : String) : Decidable (IsFresh tasks taskId) :=
  inferInstanceAs (Decidable (_ ∧ _))

/-- The table after `create_background_task`. -/
def tasksAfter (tasks : TaskTable) : Creation → TaskTable
  | .inserted _ next => next
  | .missingAccount | .existing _ | .collision => tasks

/-- `_fail_stale_background_tasks_sync` -/
def sweepTasks (now : Option ℕ) (clock : ℕ) (tasks : TaskTable) : TaskTable :=
  tasks.write (failStaleBackgroundTask now clock) (taskKeys_of_failStale now clock)

def sweptTasks (now : Option ℕ) (clock : ℕ) (tasks : TaskTable) : List String :=
  (tasks.rows.filter fun row => isStale (now.getD clock) row).map BackgroundTask.taskId

namespace RetryState

/-- `create_background_task` -/
def create (state : RetryState) (accounts : List String) (request : CreatePayload)
    (taskId : String) (now : ℕ) : RetryState :=
  { state with
    tasks := tasksAfter state.tasks
      (createBackgroundTask accounts request taskId now state.tasks) }

def put (state : RetryState) (index : ℕ) (execution : Option Execution) : RetryState :=
  { state with executions := update state.executions index execution }

/-- The end of `execute_task` is noted. -/
def noteEnd (state : RetryState) (taskId : String) : ExecutionEnd → RetryState
  | .returned => { state with succeeded := state.succeeded ++ [taskId] }
  | .cancelled => { state with interrupted := state.interrupted ++ [taskId] }
  | .raised => state

def afterFinish (execution : Execution) : ExecutionEnd → Option Execution
  | .raised => some { execution with point := .retrying }
  | .returned | .cancelled => none

/-- The execution creates the retry, if there is to be one, and is over. -/
def retry (state : RetryState) (accounts : List String) (index : ℕ) (task : BackgroundTask)
    (taskId : String) (now : ℕ) : RetryState :=
  match retryRequest task now with
  | none => state.put index none
  | some request => (state.create accounts request taskId now).put index none

end RetryState

/-- The state after a step, or `none` where the step is not possible. -/
def retryStep (accounts : List String) (state : RetryState) : RetryLabel → Option RetryState
  | .create request taskId now =>
      -- for an account that is not stored, nothing is created
      if IsOriginal request.dedupeKey request.payload ∧
          (∀ accountId ∈ request.accountId, accountId ∈ accounts) ∧ IsFresh state.tasks taskId then
        some (state.create accounts request taskId now)
      else none
  | .claim index taskId worker leaseSeconds now =>
      match state.executions index with
      | some _ => none
      | none =>
          ((state.tasks.lookup (.taskId taskId)).bind
            (claimBackgroundTask (some worker) leaseSeconds now)).map fun claimed =>
              { state.put index (some { task := claimed, worker := worker, point := .executing })
                with
                tasks := onTable state.tasks taskId (.claim worker leaseSeconds now)
                started := state.started ++ [taskId] }
  | .renew index leaseSeconds now =>
      (state.executions index).map fun execution =>
        { state with
          tasks := onTable state.tasks execution.task.taskId
            (.renew execution.worker leaseSeconds now) }
  | .ends index outcome =>
      (state.executions index).bind fun execution =>
        match execution.point with
        | .executing =>
            some ((state.noteEnd execution.task.taskId outcome).put index
              (some { execution with point := .finishing outcome }))
        | _ => none
  | .finishes index result error now =>
      (state.executions index).bind fun execution =>
        match execution.point with
        | .finishing outcome =>
            some { state.put index (RetryState.afterFinish execution outcome) with
              tasks := onTable state.tasks execution.task.taskId
                (.finish execution.worker outcome.status result error now) }
        | _ => none
  | .retries index taskId now =>
      (state.executions index).bind fun execution =>
        match execution.point with
        | .retrying =>
            if IsFresh state.tasks taskId then
              some (state.retry accounts index execution.task taskId now)
            else none
        | _ => none
  | .crashes index =>
      (state.executions index).map fun execution =>
        { state.put index none with
          interrupted := state.interrupted ++ [execution.task.taskId] }
  | .sweeps now clock =>
      some { state with
        tasks := sweepTasks now clock state.tasks
        interrupted := state.interrupted ++ sweptTasks now clock state.tasks }

def IsRetryOf (task : BackgroundTask) (taskId : String) : Prop :=
  ∃ number, task.dedupeKey = some (retryKey taskId number)

/-- The tasks of the chain that begins with `origin`: it, its retry, the retry of that, and
so on. -/
inductive InChain (tasks : TaskTable) (origin : BackgroundTask) : BackgroundTask → Prop
  | origin (hstored : origin ∈ tasks.rows) : InChain tasks origin origin
  | retry {source task : BackgroundTask} (hsource : InChain tasks origin source)
      (hstored : task ∈ tasks.rows) (hretry : IsRetryOf task source.taskId) :
      InChain tasks origin task

end XianyuAdmin.TaskRetries
