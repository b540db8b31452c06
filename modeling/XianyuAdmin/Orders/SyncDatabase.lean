import XianyuAdmin.Tasks.BackgroundTask

/-!
# Order sync runs and their tasks

A synchronisation of one account is recorded twice: as a run, which the order
pages show and `create_run` hands out again while it is active, and as the
background task that is to execute it.  The two rows are linked only by the
dedupe key of the task.  Each function below is one transaction of the
repository or of the task store on a database with both tables.
-/

namespace XianyuAdmin.OrderSync

open XianyuAdmin.Python
open XianyuAdmin.TaskStore

inductive RunStatus
  | pending
  | running
  | success
  | failed
  deriving DecidableEq, Repr

/-- `ACTIVE_RUN_STATUSES`. -/
def RunStatus.isActive : RunStatus → Bool
  | .pending | .running => true
  | .success | .failed => false

/-- A row of `xianyu_order_sync_runs`. -/
structure OrderSyncRun where
  runId : String
  accountId : String
  scope : String
  mode : String
  trigger : String
  status : RunStatus
  totalCount : ℕ
  insertedCount : ℕ
  updatedCount : ℕ
  skippedCount : ℕ
  error : Option String
  createdAt : ℕ
  updatedAt : ℕ
  startedAt : Option ℕ
  finishedAt : Option ℕ

/-- The arguments of `create_and_enqueue_order_sync`. -/
structure SyncRequest where
  accountId : String
  scope : String
  mode : String
  trigger : String

/-- The checks at the head of `_create_run_sync`, `_validate_scope` included. -/
def SyncRequest.isValid (request : SyncRequest) : Bool :=
  (request.scope = "bought" || request.scope = "sold") &&
    (request.mode = "full" || request.mode = "pending") &&
    !(request.scope = "bought" && request.mode ≠ "full")

/-- The row `_create_run_sync` inserts; the counters take their column
defaults. -/
def newRun (request : SyncRequest) (runId : String) (now : ℕ) : OrderSyncRun where
  runId := runId
  accountId := request.accountId
  scope := request.scope
  mode := request.mode
  trigger := request.trigger
  status := .pending
  totalCount := 0
  insertedCount := 0
  updatedCount := 0
  skippedCount := 0
  error := none
  createdAt := now
  updatedAt := now
  startedAt := none
  finishedAt := none

/-- `_start_run_sync` on the row of the run. -/
def startRun (now : ℕ) (row : OrderSyncRun) : OrderSyncRun :=
  if row.status = .pending then
    { row with status := .running, startedAt := some now, updatedAt := now }
  else row

/-- The arguments of `finish_run` besides the id of the run. -/
structure RunResult where
  status : RunStatus
  totalCount : ℕ
  insertedCount : ℕ
  updatedCount : ℕ
  skippedCount : ℕ
  error : Option String

def failedResult (error : String) : RunResult where
  status := .failed
  totalCount := 0
  insertedCount := 0
  updatedCount := 0
  skippedCount := 0
  error := some error

/-- `_finish_run_sync` on the row of the run. -/
def finishRun (result : RunResult) (now : ℕ) (row : OrderSyncRun) : OrderSyncRun :=
  { row with
    status := result.status
    totalCount := result.totalCount
    insertedCount := result.insertedCount
    updatedCount := result.updatedCount
    skippedCount := result.skippedCount
    error := result.error
    finishedAt := some now
    updatedAt := now }

/-- `f"order-sync:{run.run_id}"`. -/
def dedupeKey (runId : String) : String := "order-sync:" ++ runId

@[simp]
theorem dedupeKey_inj {left right : String} :
    dedupeKey left = dedupeKey right ↔ left = right :=
  String.append_right_inj "order-sync:"

/-- The task `create_and_enqueue_order_sync` asks for. -/
def taskRequest (run : OrderSyncRun) : CreatePayload where
  accountId := some run.accountId
  taskType := "order.sync_account"
  dedupeKey := some (dedupeKey run.runId)
  payload := some (.obj
    [("account_id", .str run.accountId), ("scope", .str run.scope),
      ("run_id", .str run.runId)])
  runAfter := none

/-- The run a worker executes for a task: `execute_task` insists that the
account id and the run id are strings. -/
def runIdOf (row : BackgroundTask) : Option String :=
  let payload := (row.payload.getD .null).asObject
  match orElse row.accountId (Json.get payload "account_id").asString?,
      (Json.get payload "run_id").asString? with
  | some _, some runId => some runId
  | _, _ => none

def runKeys (row : OrderSyncRun) : List String := [row.runId]

abbrev RunTable := Table OrderSyncRun runKeys

structure Database where
  accounts : List String
  runs : RunTable
  tasks : TaskTable

namespace Database

/-- The active run `_create_run_sync` returns: the newest of the account and
scope. -/
def activeRun (database : Database) (accountId scope : String) :
    Option OrderSyncRun :=
  (database.runs.rows.filter fun row =>
    row.accountId = accountId && row.scope = scope && row.status.isActive).argmax
      OrderSyncRun.createdAt

def writeRun (database : Database) (runId : String)
    (update : OrderSyncRun → OrderSyncRun)
    (hkeys : ∀ row, (update row).runId = row.runId) : Database :=
  { database with
    runs := database.runs.map
      (fun row => if row.runId = runId then update row else row) (by
        intro row
        split
        · rw [runKeys, runKeys, hkeys]
        · rfl) }

def writeTasks (database : Database)
    (transaction : BackgroundTask → Option BackgroundTask)
    (hkeys : ∀ row next, transaction row = some next → SameKeys row next) :
    Database :=
  { database with
    tasks := database.tasks.write transaction
      fun row next hnext => (hkeys row next hnext).taskKeys_eq }

theorem startRun_runId (now : ℕ) (row : OrderSyncRun) :
    (startRun now row).runId = row.runId := by
  unfold startRun
  split <;> rfl

def startRun (database : Database) (runId : String) (now : ℕ) : Database :=
  database.writeRun runId (OrderSync.startRun now) (startRun_runId now)

def finishRun (database : Database) (runId : String) (result : RunResult)
    (now : ℕ) : Database :=
  database.writeRun runId (OrderSync.finishRun result now) fun _ => rfl

theorem sameKeys_of_onTask {taskId : String}
    {transaction : BackgroundTask → Option BackgroundTask}
    (hkeys : ∀ row next, transaction row = some next → SameKeys row next)
    (row next : BackgroundTask) (hnext : onTask taskId transaction row = some next) :
    SameKeys row next :=
  hkeys row next (onTask_eq_some.mp hnext).2

/-- `_mark_background_task_queued_sync`. -/
def markTaskQueued (database : Database) (taskId : String) (now : ℕ) : Database :=
  database.writeTasks (onTask taskId (markBackgroundTaskQueued now))
    (sameKeys_of_onTask fun _ _ => sameKeys_of_markQueued)

/-- `_finish_background_task_sync` without a worker id. -/
def finishTask (database : Database) (taskId : String) (status : TaskStatus)
    (result : Option Json) (error : Option String) (now : ℕ) : Database :=
  database.writeTasks
    (onTask taskId fun row =>
      some (finishUnfencedTask status result error now row))
    (sameKeys_of_onTask fun row _ hnext =>
      Option.some.inj hnext ▸ sameKeys_finishUnfenced status result error now row)

/-- `_claim_background_task_sync`. -/
def claimTask (database : Database) (taskId : String) (worker : WorkerId)
    (leaseSeconds : ℤ) (now : ℕ) : Database :=
  database.writeTasks
    (onTask taskId (claimBackgroundTask (some worker) leaseSeconds now))
    (sameKeys_of_onTask fun _ _ => sameKeys_of_claim)

/-- `_renew_background_task_lease_sync`. -/
def renewTask (database : Database) (taskId : String) (worker : WorkerId)
    (leaseSeconds : ℤ) (now : ℕ) : Database :=
  database.writeTasks
    (onTask taskId (renewBackgroundTaskLease worker leaseSeconds now))
    (sameKeys_of_onTask fun _ _ => sameKeys_of_renew)

/-- `_finish_background_task_sync` with a worker id. -/
def finishClaimed (database : Database) (taskId : String) (worker : WorkerId)
    (status : TaskStatus) (result : Option Json) (error : Option String)
    (now : ℕ) : Database :=
  database.writeTasks
    (onTask taskId (finishClaimedTask worker status result error now))
    (sameKeys_of_onTask fun _ _ => sameKeys_of_finishClaimed)

/-- `_fail_stale_background_tasks_sync`. -/
def failStaleTasks (database : Database) (now : Option ℕ) (clock : ℕ) : Database :=
  database.writeTasks (failStaleBackgroundTask now clock)
    fun _ _ => sameKeys_of_failStale

end Database

end XianyuAdmin.OrderSync
