import XianyuAdmin.Core.Transition
import XianyuAdmin.Products.OperationRuns
import XianyuAdmin.Tasks.BackgroundTask

/-!
# The protocol of product operation runs

API requests, the scheduler and verification tasks create a run and its task and then
push the task to Redis; workers claim the task, execute the run and finish the task; a
sweeper fails tasks whose lease ran out.  Each call is stopped at an `await`, so the
state of the system is the database together with the point every call has reached.
What the operations do on the platform is left to `OperationRuns`; here an operation is
any number of awaits before the run is finished and after it.
-/

namespace XianyuAdmin.Products

open XianyuAdmin.Python
open XianyuAdmin.TaskStore
open Function

/-- `ACTIVE_RUN_STATUSES` -/
def RunStatus.isActive : RunStatus → Bool
  | .pending | .running => true
  | _ => false

/-- A run with the columns that `_create_run_sync` fills. -/
structure RunRow extends OperationRun where
  trigger : String
  createdAt : ℕ

/-- The arguments of `create_and_enqueue_product_run`; `item_ids` may be missing, which
counts as an empty list. -/
structure RunRequest where
  accountId : String
  operation : RunOperation
  trigger : String
  itemIds : List String := []
  fullSync : Bool := false

def RunOperation.name : RunOperation → String
  | .sync => "sync"
  | .polish => "polish"
  | .offline => "offline"
  | .delete => "delete"

/-- `f"product.\x7boperation\x7d_items" if operation != "sync" else "product.sync_account"` -/
def runTaskType (operation : RunOperation) : String :=
  if operation = .sync then "product.sync_account"
  else "product." ++ operation.name ++ "_items"

/-- `f"product-operation:\x7brun.run_id\x7d"` -/
def runDedupeKey (runId : String) : String := "product-operation:" ++ runId

@[simp]
theorem runDedupeKey_inj {left right : String} :
    runDedupeKey left = runDedupeKey right ↔ left = right :=
  String.append_right_inj "product-operation:"

/-- The row that `_create_run_sync` inserts. -/
def newRunRow (request : RunRequest) (runId : String) (now : ℕ) : RunRow where
  runId := runId
  accountId := request.accountId
  operation := request.operation
  fullSync := request.fullSync
  requestedItemIds := request.itemIds
  updatedAt := now
  trigger := request.trigger
  createdAt := now

def runTaskRequest (request : RunRequest) (runId : String) : CreatePayload where
  accountId := some request.accountId
  taskType := runTaskType request.operation
  dedupeKey := some (runDedupeKey runId)
  payload := some (.obj [("account_id", .str request.accountId), ("run_id", .str runId)])
  runAfter := none

/-- The run that `execute_task` executes for a task; account id and run id have to be
strings. -/
def taskRunId (task : BackgroundTask) : Option String :=
  let payload := (task.payload.getD .null).asObject
  match orElse task.accountId (Json.get payload "account_id").asString?,
      (Json.get payload "run_id").asString? with
  | some _, some runId => some runId
  | _, _ => none

def runRowKeys (row : RunRow) : List String := [row.runId]

structure RunDatabase where
  accounts : List String
  runs : Table RunRow runRowKeys
  tasks : TaskTable

/-- The active run that `_create_run_sync` looks at: the newest of the account and the
operation. -/
def RunDatabase.activeRun (database : RunDatabase) (request : RunRequest) : Option RunRow :=
  (database.runs.rows.filter fun row =>
    row.accountId = request.accountId && row.operation = request.operation &&
      row.status.isActive).argmax RunRow.createdAt

/-- `trigger not in {"manual", "publish"} or same_manual_request` -/
def RunRequest.reuses (request : RunRequest) (active : RunRow) : Bool :=
  (request.trigger ≠ "manual" && request.trigger ≠ "publish") ||
    (request.trigger = "manual" && request.operation = active.operation &&
      active.requestedItemIds.toFinset = request.itemIds.toFinset &&
      active.fullSync = request.fullSync)

abbrev EndSummary := {summary : Summary // summary.status.isActive = false}

inductive RunUpdate
  /-- `_start_run_sync` -/
  | start
  /-- `_finish_run_sync` -/
  | finish (summary : EndSummary)

def RunUpdate.apply (now : ℕ) (row : RunRow) : RunUpdate → RunRow
  | .start => { row with toOperationRun := row.toOperationRun.start now }
  | .finish summary => { row with toOperationRun := row.toOperationRun.finish now summary }

inductive RunTaskOutcome
  | success (result : Option Json)
  | failed (error : String)

inductive TaskUpdate
  | markQueued
  /-- `finish_background_task` without a worker id. -/
  | fail (error : String)
  | claim (worker : WorkerId) (leaseSeconds : ℤ)
  | renew (worker : WorkerId) (leaseSeconds : ℤ)
  | finish (worker : WorkerId) (outcome : RunTaskOutcome)
  | reset

def TaskUpdate.apply (now : ℕ) (row : BackgroundTask) : TaskUpdate → Option BackgroundTask
  | .markQueued => markBackgroundTaskQueued now row
  | .fail error => some (finishUnfencedTask .failed none (some error) now row)
  | .claim worker leaseSeconds => claimBackgroundTask (some worker.1) leaseSeconds now row
  | .renew worker leaseSeconds => renewBackgroundTaskLease worker.1 leaseSeconds now row
  | .finish worker (.success result) =>
      finishClaimedTask worker.1 .success result none now row
  | .finish worker (.failed error) =>
      finishClaimedTask worker.1 .failed none (some error) now row
  | .reset => resetBackgroundTaskForRetry now row

/-- What a transaction commits. -/
inductive RunWrite
  | insertRun (row : RunRow)
  | updateRun (runId : String) (now : ℕ) (update : RunUpdate)
  | insertTask (row : BackgroundTask)
  | updateTask (taskId : String) (now : ℕ) (update : TaskUpdate)
  /-- `_fail_stale_background_tasks_sync` -/
  | sweepTasks (now : Option ℕ) (clock : ℕ)

theorem sameKeys_of_reset {now : ℕ} {row reset : BackgroundTask}
    (hreset : resetBackgroundTaskForRetry now row = some reset) : SameKeys row reset := by
  unfold resetBackgroundTaskForRetry at hreset
  split at hreset
  · cases hreset
    exact ⟨rfl, rfl⟩
  · cases hreset

theorem RunUpdate.runId_apply (now : ℕ) (row : RunRow) (update : RunUpdate) :
    (update.apply now row).runId = row.runId := by
  cases update with
  | start => exact runId_start row.toOperationRun now
  | finish summary => rfl

theorem TaskUpdate.sameKeys_of_apply {now : ℕ} {row next : BackgroundTask} {update : TaskUpdate}
    (hupdate : update.apply now row = some next) : SameKeys row next := by
  cases update with
  | markQueued => exact sameKeys_of_markQueued hupdate
  | fail error =>
      cases hupdate
      exact sameKeys_finishUnfenced _ _ _ _ _
  | claim worker leaseSeconds => exact sameKeys_of_claim hupdate
  | renew worker leaseSeconds => exact sameKeys_of_renew hupdate
  | finish worker outcome =>
      cases outcome <;> exact sameKeys_of_finishClaimed hupdate
  | reset => exact sameKeys_of_reset hupdate

/-- What the database makes of a write; `none` is an `IntegrityError`. -/
def RunDatabase.apply (database : RunDatabase) : RunWrite → Option RunDatabase
  | .insertRun row =>
      if row.accountId ∈ database.accounts then
        (database.runs.insert? row).map fun runs => { database with runs := runs }
      else none
  | .updateRun runId now update =>
      some { database with
        runs := database.runs.map
          (fun row => if row.runId = runId then update.apply now row else row)
          (by intro row; split <;> simp [runRowKeys, RunUpdate.runId_apply]) }
  | .insertTask row =>
      (database.tasks.insert? row).map fun tasks => { database with tasks := tasks }
  | .updateTask taskId now update =>
      some { database with
        tasks := database.tasks.write (onTask taskId (update.apply now))
          fun _ _ hnext =>
            (TaskUpdate.sameKeys_of_apply (onTask_eq_some.mp hnext).2).taskKeys_eq }
  | .sweepTasks now clock =>
      some { database with
        tasks := database.tasks.write (failStaleBackgroundTask now clock)
          (taskKeys_of_failStale now clock) }

inductive AwaitRaised
  /-- `ProductOperationError`; `uncertain` also stands for `verification_required`. -/
  | productOperation (text : String) (uncertain : Bool)
  | exception (className text : String)

def AwaitRaised.text : AwaitRaised → String
  | .productOperation text _ => text
  | .exception _ text => text

def AwaitRaised.className : AwaitRaised → String
  | .productOperation .. => "ProductOperationError"
  | .exception className _ => className

/-- How an `await` comes back: with an exception or without, in the first case possibly
after its transaction was committed, and with what the clock, `uuid4` and the platform
supplied. -/
structure Reply where
  raised : Option AwaitRaised := none
  committed : Bool := false
  now : ℕ := 0
  freshId : String := ""
  /-- Another await of the same part of the coroutine follows. -/
  stays : Bool := false
  summary : EndSummary := ⟨⟨.success, 0, 0, 0, 0, none⟩, rfl⟩
  result : Option Json := none

def Reply.commits (reply : Reply) (write : RunWrite) : Option RunWrite :=
  if reply.raised.isNone || reply.committed then some write else none

/-- The `await` an enqueue call has reached.  The transactions of `create_run` and of
`create_background_task` first look for an existing row and then insert, and other
transactions may commit in between. -/
inductive Enqueuer
  | checkRun (request : RunRequest)
  | insertRun (request : RunRequest)
  | checkTask (request : RunRequest) (run : RunRow)
  | insertTask (request : RunRequest) (run : RunRow)
  | push (request : RunRequest) (run : RunRow) (task : BackgroundTask)
  | markQueued (request : RunRequest) (run : RunRow) (task : BackgroundTask)
  | failTask (request : RunRequest) (run : RunRow) (task : BackgroundTask) (error : String)
  | failRun (request : RunRequest) (run : RunRow) (error : String)

/-- `f"queue unavailable: \x7bexc.__class__.__name__\x7d: \x7bexc\x7d"` -/
def runQueueError (raised : AwaitRaised) : String :=
  "queue unavailable: " ++ raised.className ++ ": " ++ raised.text

def queueFailure (request : RunRequest) (error : String) : EndSummary :=
  ⟨{ status := .failed
     total := request.itemIds.length
     success := 0
     failed := request.itemIds.length
     skipped := 0
     error := some error }, rfl⟩

def pushIfPending (request : RunRequest) (run : RunRow) (task : BackgroundTask) :
    Option Enqueuer :=
  if task.status = .pending ∧ task.queuedAt = none then some (.push request run task)
  else none

/-- What an enqueue call commits at its `await`, and where it goes on if that is accepted;
`none` once it has returned or raised. -/
def enqueueTurn (database : RunDatabase) (reply : Reply) :
    Enqueuer → Option RunWrite × Option Enqueuer
  | .checkRun request =>
      match database.activeRun request with
      | none => (none, some (.insertRun request))
      | some active =>
          if request.reuses active then (none, some (.checkTask request active))
          else (none, some (.insertRun request))
  | .insertRun request =>
      let row := newRunRow request reply.freshId reply.now
      (some (.insertRun row), some (.checkTask request row))
  | .checkTask request run =>
      if request.accountId ≠ "" ∧ request.accountId ∉ database.accounts then
        -- no task: `assert task is not None` fails
        (none, none)
      else
        match database.tasks.lookup (.dedupeKey (runDedupeKey run.runId)) with
        | some task => (none, pushIfPending request run task)
        | none => (none, some (.insertTask request run))
  | .insertTask request run =>
      let row := newTask (runTaskRequest request run.runId) reply.freshId reply.now
      (some (.insertTask row), pushIfPending request run row)
  | .push request run task =>
      match reply.raised with
      | none => (none, some (.markQueued request run task))
      | some raised => (none, some (.failTask request run task (runQueueError raised)))
  | .markQueued request run task =>
      (reply.commits (.updateTask task.taskId reply.now .markQueued),
        reply.raised.map fun raised => .failTask request run task (runQueueError raised))
  | .failTask request run task error =>
      (some (.updateTask task.taskId reply.now (.fail error)),
        some (.failRun request run error))
  | .failRun request run error =>
      (some (.updateRun run.runId reply.now (.finish (queueFailure request error))), none)

/-- The `await` an execution has reached. -/
inductive ExecutionPoint
  | startRun (runId : String)
  | getAccount (run : OperationRun)
  | acquireLock (run : OperationRun)
  /-- In the `try` statement, before the operation finishes the run. -/
  | operating (run : OperationRun)
  | finishing (run : OperationRun) (summary : EndSummary)
  /-- In the `try` statement after that: `complete_polish`, the merge of the cookies. -/
  | merging (run : OperationRun) (outcome : RunTaskOutcome)
  /-- The merge in `except ProductOperationError`. -/
  | mergingError (run : OperationRun) (uncertain : Bool) (error : String)
  | failSync (run : OperationRun) (uncertain reraises : Bool) (error : String)
  | failRun (run : OperationRun) (uncertain reraises : Bool) (error : String)
  /-- What `execute_run` and `execute_task` await once the run is finished. -/
  | returned (outcome : RunTaskOutcome)
  /-- `finish_background_task` of the worker. -/
  | finish (outcome : RunTaskOutcome)

structure Execution where
  taskId : String
  worker : WorkerId
  point : ExecutionPoint

def executionOf (task : BackgroundTask) : ExecutionPoint :=
  match taskRunId task with
  | some runId => .startRun runId
  | none => .finish (.failed (task.taskType ++ " requires account_id and run_id"))

/-- `str(error or f"\x7btask.task_type\x7d failed")` -/
def runFailure (operation : RunOperation) (error : Option String) : RunTaskOutcome :=
  .failed ((orElse error (some (runTaskType operation ++ " failed"))).getD "")

def outcomeOf (operation : RunOperation) (summary : Summary) (result : Option Json) :
    RunTaskOutcome :=
  if summary.status = .failed then runFailure operation summary.error else .success result

def outcomeOfEnded (run : OperationRun) (result : Option Json) : RunTaskOutcome :=
  if run.status = .success ∨ run.status = .partialSuccess then .success result
  else runFailure run.operation run.error

/-- The end of both `except` clauses. -/
def recordPoint (run : OperationRun) (uncertain reraises : Bool) (error : String) :
    ExecutionPoint :=
  if run.operation = .sync then .failSync run uncertain reraises error
  else .failRun run uncertain reraises error

/-- The `except` clause that handles what was raised in the `try` statement. -/
def handlerOf (run : OperationRun) : AwaitRaised → ExecutionPoint
  | .productOperation text uncertain => .mergingError run uncertain text
  | .exception _ text => recordPoint run false true text

/-- The summary of both `except` clauses. -/
def recordedSummary (run : OperationRun) (uncertain : Bool) (error : String) : EndSummary :=
  ⟨failureSummary run (if uncertain then .verificationRequired else .failed) error, by
    cases uncertain <;> rfl⟩

/-- What an execution commits at its `await`, and where it goes on; outside the `try`
statement, and in its handlers, an exception reaches `_execute_claimed_task`. -/
def executeTurn (database : RunDatabase) (reply : Reply) :
    ExecutionPoint → Option RunWrite × ExecutionPoint
  | .startRun runId =>
      let write := reply.commits (.updateRun runId reply.now .start)
      match reply.raised, database.runs.lookup runId with
      | some raised, _ => (write, .finish (.failed raised.text))
      | none, none => (write, .finish (.failed "product operation run not found"))
      | none, some row =>
          let run := row.toOperationRun.start reply.now
          (write,
            if run.status.isActive then .getAccount run
            else .returned (outcomeOfEnded run reply.result))
  | .getAccount run =>
      match reply.raised with
      | some raised => (none, .finish (.failed raised.text))
      | none =>
          if run.accountId ∈ database.accounts then (none, .acquireLock run)
          else (none, .finish (.failed "account not found"))
  | .acquireLock run =>
      (none, reply.raised.elim (.operating run) fun raised => .finish (.failed raised.text))
  | .operating run =>
      (none,
        reply.raised.elim
          (if reply.stays then .operating run else .finishing run reply.summary)
          (handlerOf run))
  | .finishing run summary =>
      (reply.commits (.updateRun run.runId reply.now (.finish summary)),
        reply.raised.elim (.merging run (outcomeOf run.operation summary reply.result))
          (handlerOf run))
  | .merging run outcome =>
      (none,
        reply.raised.elim (if reply.stays then .merging run outcome else .returned outcome)
          (handlerOf run))
  | .mergingError run uncertain error =>
      (none,
        reply.raised.elim (recordPoint run uncertain false error)
          fun raised => .finish (.failed raised.text))
  | .failSync run uncertain reraises error =>
      (none,
        reply.raised.elim (.failRun run uncertain reraises error)
          fun raised => .finish (.failed raised.text))
  | .failRun run uncertain reraises error =>
      let summary := recordedSummary run uncertain error
      (reply.commits (.updateRun run.runId reply.now (.finish summary)),
        reply.raised.elim
          (.returned
            (if reraises then .failed error
              else outcomeOf run.operation summary reply.result))
          fun raised => .finish (.failed raised.text))
  | .returned outcome =>
      (none,
        reply.raised.elim (if reply.stays then .returned outcome else .finish outcome)
          fun raised => .finish (.failed raised.text))
  | .finish outcome => (none, .finish outcome)

inductive RunCall
  | enqueuing (enqueuer : Enqueuer)
  | executing (execution : Execution)

/-- What a call commits at its `await`, and where it goes on. -/
def RunCall.turn (database : RunDatabase) (reply : Reply) :
    RunCall → Option RunWrite × Option RunCall
  | .enqueuing enqueuer =>
      let turn := enqueueTurn database reply enqueuer
      (turn.1, turn.2.map .enqueuing)
  | .executing execution =>
      match execution.point with
      | .finish outcome =>
          (some (.updateTask execution.taskId reply.now (.finish execution.worker outcome)),
            none)
      | point =>
          let turn := executeTurn database reply point
          (turn.1, some (.executing { execution with point := turn.2 }))

/-- `CancelledError` at the `await`: within `execute_task` the shielded `finish` of
`_execute_claimed_task` follows. -/
def RunCall.cancelled : RunCall → Option RunCall
  | .enqueuing _ => none
  | .executing execution =>
      match execution.point with
      | .finish _ => none
      | _ =>
          some (.executing
            { execution with
              point := .finish (.failed "worker stopped while task result may be incomplete") })

structure RunState where
  database : RunDatabase
  calls : ℕ → Option RunCall := fun _ => none
  claims : List String := []

def RunState.initial (accounts : List String) : RunState where
  database := { accounts := accounts, runs := Table.empty, tasks := Table.empty }

inductive RunLabel
  | request (index : ℕ) (request : RunRequest)
  | claim (index : ℕ) (taskId : String) (worker : WorkerId) (leaseSeconds : ℤ) (now : ℕ)
  | renew (index : ℕ) (leaseSeconds : ℤ) (now : ℕ)
  | resume (index : ℕ) (reply : Reply)
  | cancel (index : ℕ)
  /-- The process of a call ends, or an exception leaves it that no handler covers. -/
  | die (index : ℕ)
  | sweep (now : Option ℕ) (clock : ℕ)
  /-- `reset_background_task_for_retry` -/
  | reset (taskId : String) (now : ℕ)

def RunState.put (state : RunState) (index : ℕ) (call : Option RunCall) : RunState :=
  { state with calls := update state.calls index call }

def RunState.commit (state : RunState) (write : RunWrite) : Option RunState :=
  (state.database.apply write).map fun database => { state with database := database }

/-- Ids drawn by `uuid4` are new. -/
def runStep (state : RunState) : RunLabel → Option RunState
  | .request index request =>
      if (state.calls index).isNone then
        some (state.put index (some (.enqueuing (.checkRun request))))
      else none
  | .claim index taskId worker leaseSeconds now =>
      match state.calls index, state.database.tasks.lookup (.taskId taskId) with
      | none, some row =>
          match claimBackgroundTask (some worker.1) leaseSeconds now row with
          | none => none
          | some claimed =>
              (state.commit (.updateTask taskId now (.claim worker leaseSeconds))).map
                fun committed =>
                  { committed.put index
                      (some (.executing
                        { taskId := taskId, worker := worker, point := executionOf claimed }))
                    with claims := (taskRunId claimed).toList ++ state.claims }
      | _, _ => none
  | .renew index leaseSeconds now =>
      match state.calls index with
      | some (.executing execution) =>
          state.commit (.updateTask execution.taskId now (.renew execution.worker leaseSeconds))
      | _ => none
  | .resume index reply =>
      match state.calls index with
      | none => none
      | some call =>
          if state.database.tasks.lookup (.taskId reply.freshId) = none then
            let turn := call.turn state.database reply
            match turn.1 with
            | none => some (state.put index turn.2)
            | some write =>
                match state.commit write with
                | none => some (state.put index none)
                | some committed => some (committed.put index turn.2)
          else none
  | .cancel index => (state.calls index).map fun call => state.put index call.cancelled
  | .die index => some (state.put index none)
  | .sweep now clock => state.commit (.sweepTasks now clock)
  | .reset taskId now => state.commit (.updateTask taskId now .reset)

end XianyuAdmin.Products
