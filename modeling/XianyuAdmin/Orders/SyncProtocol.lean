import XianyuAdmin.Core.Transition
import XianyuAdmin.Orders.SyncDatabase

/-!
# The order sync protocol

API requests and the scheduler create a run and its task and then push the task
to Redis; workers find the task by polling the database or by a Redis message,
claim it, execute the run and finish the task; a sweeper fails tasks whose
lease ran out.  Any number of such calls are in progress at once, each stopped
at an `await`, so the state of the system is the database together with the
point every call has reached.  A step resumes one of them until its next
`await`, or interrupts it there.
-/

namespace XianyuAdmin.OrderSync

open XianyuAdmin.Python
open XianyuAdmin.TaskStore
open Function

/-- An exception an `await` raises: an `OrderSyncError`, or any other one with
its class name. -/
inductive Raised
  | orderSyncError (text : String)
  | exception (className text : String)

/-- `str(exc)`. -/
def Raised.text : Raised → String
  | .orderSyncError text => text
  | .exception _ text => text

/-- `exc.__class__.__name__`. -/
def Raised.className : Raised → String
  | .orderSyncError _ => "OrderSyncError"
  | .exception className _ => className

/-- How an `await` comes back: with an exception or without, in the first case
possibly after its transaction was committed, and with what the clock, `uuid4`
and the platform supplied. -/
structure Reply where
  raised : Option Raised := none
  committed : Bool := false
  now : ℕ := 0
  freshId : String := ""
  totalCount : ℕ := 0
  insertedCount : ℕ := 0
  updatedCount : ℕ := 0
  skippedCount : ℕ := 0
  result : Option Json := none

/-- The `await` an enqueue call has reached.  The transactions of
`create_run` and of `create_background_task` first look for an existing row and
then insert, and other transactions may commit in between. -/
inductive Enqueuer
  | checkRun (request : SyncRequest)
  | insertRun (request : SyncRequest)
  | checkTask (run : OrderSyncRun)
  | insertTask (run : OrderSyncRun)
  | push (run : OrderSyncRun) (task : BackgroundTask)
  | markQueued (run : OrderSyncRun) (task : BackgroundTask)
  | failTask (run : OrderSyncRun) (task : BackgroundTask) (error : String)
  | failRun (run : OrderSyncRun) (task : BackgroundTask) (error : String)

/-- `f"queue unavailable: {exc.__class__.__name__}: {exc}"`. -/
def queueError (raised : Raised) : String :=
  "queue unavailable: " ++ raised.className ++ ": " ++ raised.text

def enqueueIfPending (run : OrderSyncRun) (task : BackgroundTask) :
    Option Enqueuer :=
  if task.status = .pending ∧ task.queuedAt = none then some (.push run task)
  else none

/-- One enqueue call from one `await` to the next; `none` once it has returned
or raised. -/
def enqueueStep (database : Database) (reply : Reply) :
    Enqueuer → Database × Option Enqueuer
  | .checkRun request =>
      if request.isValid then
        match database.activeRun request.accountId request.scope with
        | some run => (database, some (.checkTask run))
        | none =>
            if request.accountId ∈ database.accounts then
              (database, some (.insertRun request))
            else (database, none)
      else (database, none)
  | .insertRun request =>
      let row := newRun request reply.freshId reply.now
      match database.runs.insert? row with
      | some runs => ({ database with runs := runs }, some (.checkTask row))
      | none => (database, none)
  | .checkTask run =>
      if run.accountId ≠ "" ∧ run.accountId ∉ database.accounts then
        -- no task: the assertion of the caller fails
        (database, none)
      else
        match database.tasks.lookup (.dedupeKey (dedupeKey run.runId)) with
        | some task => (database, enqueueIfPending run task)
        | none => (database, some (.insertTask run))
  | .insertTask run =>
      let row := newTask (taskRequest run) reply.freshId reply.now
      match database.tasks.insert? row with
      | some tasks => ({ database with tasks := tasks }, enqueueIfPending run row)
      | none => (database, none)
  | .push run task =>
      match reply.raised with
      | none => (database, some (.markQueued run task))
      | some raised => (database, some (.failTask run task (queueError raised)))
  | .markQueued run task =>
      match reply.raised with
      | none => (database.markTaskQueued task.taskId reply.now, none)
      | some raised =>
          (if reply.committed then database.markTaskQueued task.taskId reply.now
            else database,
            some (.failTask run task (queueError raised)))
  | .failTask run task error =>
      (database.finishTask task.taskId .failed none (some error) reply.now,
        some (.failRun run task error))
  | .failRun run _ error =>
      (database.finishRun run.runId (failedResult error) reply.now, none)

/-- Everything `enqueueStep` can do at each point. -/
inductive EnqueueMove (database : Database) (reply : Reply) :
    Enqueuer → Database → Option Enqueuer → Prop
  | requestRejected {request : SyncRequest} :
      EnqueueMove database reply (.checkRun request) database none
  | runFound {request : SyncRequest} {run : OrderSyncRun}
      (hrun : run ∈ database.runs.rows) :
      EnqueueMove database reply (.checkRun request) database
        (some (.checkTask run))
  | runAbsent {request : SyncRequest}
      (haccount : request.accountId ∈ database.accounts) :
      EnqueueMove database reply (.checkRun request) database
        (some (.insertRun request))
  | runInserted {request : SyncRequest} {runs : RunTable}
      (hinsert : database.runs.insert?
        (newRun request reply.freshId reply.now) = some runs) :
      EnqueueMove database reply (.insertRun request)
        { database with runs := runs }
        (some (.checkTask (newRun request reply.freshId reply.now)))
  | runRefused {request : SyncRequest} :
      EnqueueMove database reply (.insertRun request) database none
  | accountMissing {run : OrderSyncRun}
      (haccount : run.accountId ∉ database.accounts) :
      EnqueueMove database reply (.checkTask run) database none
  | taskFound {run : OrderSyncRun} {task : BackgroundTask}
      (htask : task ∈ database.tasks.rows)
      (hkey : task.dedupeKey = some (dedupeKey run.runId)) :
      EnqueueMove database reply (.checkTask run) database
        (enqueueIfPending run task)
  | taskAbsent {run : OrderSyncRun} :
      EnqueueMove database reply (.checkTask run) database
        (some (.insertTask run))
  | taskInserted {run : OrderSyncRun} {tasks : TaskTable}
      (hinsert : database.tasks.insert?
        (newTask (taskRequest run) reply.freshId reply.now) = some tasks) :
      EnqueueMove database reply (.insertTask run)
        { database with tasks := tasks }
        (enqueueIfPending run
          (newTask (taskRequest run) reply.freshId reply.now))
  | taskRefused {run : OrderSyncRun}
      (hinsert : database.tasks.insert?
        (newTask (taskRequest run) reply.freshId reply.now) = none) :
      EnqueueMove database reply (.insertTask run) database none
  | pushed {run : OrderSyncRun} {task : BackgroundTask} :
      EnqueueMove database reply (.push run task) database
        (some (.markQueued run task))
  | pushFailed {run : OrderSyncRun} {task : BackgroundTask} {error : String} :
      EnqueueMove database reply (.push run task) database
        (some (.failTask run task error))
  | marked {run : OrderSyncRun} {task : BackgroundTask} :
      EnqueueMove database reply (.markQueued run task)
        (database.markTaskQueued task.taskId reply.now) none
  | markFailedAfter {run : OrderSyncRun} {task : BackgroundTask}
      {error : String} :
      EnqueueMove database reply (.markQueued run task)
        (database.markTaskQueued task.taskId reply.now)
        (some (.failTask run task error))
  | markFailed {run : OrderSyncRun} {task : BackgroundTask} {error : String} :
      EnqueueMove database reply (.markQueued run task) database
        (some (.failTask run task error))
  | taskFailed {run : OrderSyncRun} {task : BackgroundTask} {error : String} :
      EnqueueMove database reply (.failTask run task error)
        (database.finishTask task.taskId .failed none (some error) reply.now)
        (some (.failRun run task error))
  | runFailed {run : OrderSyncRun} {task : BackgroundTask} {error : String} :
      EnqueueMove database reply (.failRun run task error)
        (database.finishRun run.runId (failedResult error) reply.now) none

theorem mem_of_activeRun {database : Database} {accountId scope : String}
    {run : OrderSyncRun} (hrun : database.activeRun accountId scope = some run) :
    run ∈ database.runs.rows :=
  List.mem_of_mem_filter (List.argmax_mem hrun)

theorem enqueueStep_move (database : Database) (reply : Reply)
    (point : Enqueuer) :
    EnqueueMove database reply point (enqueueStep database reply point).1
      (enqueueStep database reply point).2 := by
  cases point with
  | checkRun request =>
      simp only [enqueueStep]
      split
      · split
        · rename_i hrun
          exact .runFound (mem_of_activeRun hrun)
        · split
          · rename_i haccount
            exact .runAbsent haccount
          · exact .requestRejected
      · exact .requestRejected
  | insertRun request =>
      simp only [enqueueStep]
      split
      · rename_i hinsert
        exact .runInserted hinsert
      · exact .runRefused
  | checkTask run =>
      simp only [enqueueStep]
      split
      · rename_i haccount
        exact .accountMissing haccount.2
      · split
        · rename_i htask
          obtain ⟨hmem, hkey⟩ := Table.lookup_eq_some_iff.mp htask
          exact .taskFound hmem (dedupeKey_mem_taskKeys.mp hkey)
        · exact .taskAbsent
  | insertTask run =>
      simp only [enqueueStep]
      split
      · rename_i hinsert
        exact .taskInserted hinsert
      · rename_i hinsert
        exact .taskRefused hinsert
  | push run task =>
      simp only [enqueueStep]
      split
      · exact .pushed
      · exact .pushFailed
  | markQueued run task =>
      simp only [enqueueStep]
      split
      · exact .marked
      · split
        · exact .markFailedAfter
        · exact .markFailed
  | failTask run task error => exact .taskFailed
  | failRun run task error => exact .runFailed

/-- The awaits inside the `try` block of `execute_run`. -/
inductive SyncStage
  | acquireLock
  | listOrders
  | mergeCookies
  | applyOrders
  | finishRun
  | releaseLock

inductive TaskOutcome
  | success (result : Option Json)
  | failed (error : String)

/-- The `await` an execution has reached. -/
inductive ExecutionPoint
  | startRun (runId : String)
  | getAccount (run : OrderSyncRun)
  | body (run : OrderSyncRun) (stage : SyncStage)
  | mergeCookies (run : OrderSyncRun) (error : String)
  | failSync (run : OrderSyncRun) (error : String)
  | failRun (run : OrderSyncRun) (error : String)
  | reloadCookie (outcome : TaskOutcome)
  | finish (outcome : TaskOutcome)

structure Execution where
  taskId : String
  worker : WorkerId
  point : ExecutionPoint

/-- `execute_task` up to the first `await` of `execute_run`. -/
def executionOf (row : BackgroundTask) : ExecutionPoint :=
  match runIdOf row with
  | some runId => .startRun runId
  | none =>
      .finish (.failed "order.sync_account requires account_id and run_id")

/-- `str(error or "order synchronization failed")`. -/
def syncFailure (error : Option String) : TaskOutcome :=
  .failed ((orElse error (some "order synchronization failed")).getD "")

/-- `execute_run` on a run that is not `running` after `start_run`: `ok` tells
whether it was successful, and the worker raises when it was not. -/
def outcomeOfEnded (run : OrderSyncRun) (result : Option Json) : TaskOutcome :=
  if run.status = .success then .success result else syncFailure run.error

/-- The next `await` in the `try` block. -/
def nextStage (run : OrderSyncRun) (result : Option Json) :
    SyncStage → ExecutionPoint
  | .acquireLock => .body run .listOrders
  | .listOrders => .body run .mergeCookies
  | .mergeCookies => .body run .applyOrders
  | .applyOrders => .body run .finishRun
  | .finishRun => .body run .releaseLock
  | .releaseLock => .reloadCookie (.success result)

/-- The database after an `await` of the `try` block: only `finish_run` writes
to the two tables. -/
def bodyWrite (database : Database) (reply : Reply) (run : OrderSyncRun) :
    SyncStage → Database
  | .finishRun =>
      if reply.raised.isNone || reply.committed then
        database.finishRun run.runId
          { status := .success
            totalCount := reply.totalCount
            insertedCount := reply.insertedCount
            updatedCount := reply.updatedCount
            skippedCount := reply.skippedCount
            error := none }
          reply.now
      else database
  | .acquireLock | .listOrders | .mergeCookies | .applyOrders | .releaseLock =>
      database

/-- One execution from one `await` to the next, short of the last one.  Outside
the `try` block, and in its handlers, an exception reaches
`_execute_claimed_task`. -/
def executeStep (database : Database) (reply : Reply) :
    ExecutionPoint → Database × ExecutionPoint
  | .startRun runId =>
      match reply.raised with
      | some raised => (database, .finish (.failed raised.text))
      | none =>
          match database.runs.lookup runId with
          | none => (database, .finish (.failed "order sync run not found"))
          | some row =>
              let run := startRun reply.now row
              (database.startRun runId reply.now,
                if run.status = .running then .getAccount run
                else .finish (outcomeOfEnded run reply.result))
  | .getAccount run =>
      match reply.raised with
      | some raised => (database, .finish (.failed raised.text))
      | none =>
          if run.accountId ∈ database.accounts then
            (database, .body run .acquireLock)
          else (database, .finish (.failed "account not found"))
  | .body run stage =>
      (bodyWrite database reply run stage,
        match reply.raised with
        | none => nextStage run reply.result stage
        | some (.orderSyncError text) => .mergeCookies run text
        | some (.exception _ text) => .failSync run text)
  | .mergeCookies run error =>
      match reply.raised with
      | some raised => (database, .finish (.failed raised.text))
      | none => (database, .failSync run error)
  | .failSync run error =>
      match reply.raised with
      | some raised => (database, .finish (.failed raised.text))
      | none => (database, .failRun run error)
  | .failRun run error =>
      match reply.raised with
      | some raised =>
          (if reply.committed then
              database.finishRun run.runId (failedResult error) reply.now
            else database,
            .finish (.failed raised.text))
      | none =>
          (database.finishRun run.runId (failedResult error) reply.now,
            .reloadCookie (syncFailure (some error)))
  | .reloadCookie outcome => (database, .finish outcome)
  | .finish outcome => (database, .finish outcome)

/-- The call of `finish_background_task` that ends an execution. -/
def recordOutcome (database : Database) (execution : Execution)
    (outcome : TaskOutcome) (now : ℕ) : Database :=
  match outcome with
  | .success result =>
      database.finishClaimed execution.taskId execution.worker .success result
        none now
  | .failed error =>
      database.finishClaimed execution.taskId execution.worker .failed none
        (some error) now

structure State where
  database : Database
  enqueuers : ℕ → Option Enqueuer
  executions : ℕ → Option Execution

def initial (accounts : List String) : State where
  database := { accounts := accounts, runs := Table.empty, tasks := Table.empty }
  enqueuers := fun _ => none
  executions := fun _ => none

inductive Label
  | request (call : ℕ) (request : SyncRequest)
  | enqueue (call : ℕ) (reply : Reply)
  | abort (call : ℕ)
  | claim (execution : ℕ) (taskId : String) (worker : WorkerId)
      (leaseSeconds : ℤ) (now : ℕ)
  | renew (execution : ℕ) (leaseSeconds : ℤ) (now : ℕ)
  | execute (execution : ℕ) (reply : Reply)
  /-- `CancelledError` inside an execution: within `execute_task` a shielded
  `finish` follows, during a `finish` nothing does. -/
  | cancel (execution : ℕ)
  | die (execution : ℕ)
  | sweep (now : Option ℕ) (clock : ℕ)

/-- The point a cancelled execution continues at: the shielded `finish` of
`_execute_claimed_task`. -/
def cancelledPoint : ExecutionPoint :=
  .finish (.failed "worker stopped while task result may be incomplete")

/-- `step state label` is the state after `label`, if it is possible in
`state`.  Ids drawn by `uuid4` are new. -/
def step (state : State) : Label → Option State
  | .request call request =>
      match state.enqueuers call with
      | some _ => none
      | none =>
          some { state with
            enqueuers := update state.enqueuers call (some (.checkRun request)) }
  | .enqueue call reply =>
      match state.enqueuers call with
      | none => none
      | some point =>
          if state.database.tasks.lookup (.taskId reply.freshId) = none then
            let result := enqueueStep state.database reply point
            some { state with
              database := result.1
              enqueuers := update state.enqueuers call result.2 }
          else none
  | .abort call =>
      some { state with enqueuers := update state.enqueuers call none }
  | .claim index taskId worker leaseSeconds now =>
      match state.executions index, state.database.tasks.lookup (.taskId taskId) with
      | none, some row =>
          match claimBackgroundTask (some worker.val) leaseSeconds now row with
          | none => none
          | some claimed =>
              some { state with
                database :=
                  state.database.claimTask taskId worker leaseSeconds now
                executions := update state.executions index
                  (some
                    { taskId := taskId
                      worker := worker
                      point := executionOf claimed }) }
      | _, _ => none
  | .renew index leaseSeconds now =>
      match state.executions index with
      | none => none
      | some execution =>
          some { state with
            database := state.database.renewTask execution.taskId
              execution.worker leaseSeconds now }
  | .execute index reply =>
      match state.executions index with
      | none => none
      | some execution =>
          match execution.point with
          | .finish outcome =>
              some { state with
                database :=
                  recordOutcome state.database execution outcome reply.now
                executions := update state.executions index none }
          | point =>
              let result := executeStep state.database reply point
              some { state with
                database := result.1
                executions := update state.executions index
                  (some { execution with point := result.2 }) }
  | .cancel index =>
      match state.executions index with
      | none => none
      | some execution =>
          some { state with
            executions := update state.executions index
              (match execution.point with
              | .finish _ => none
              | _ => some { execution with point := cancelledPoint }) }
  | .die index =>
      some { state with executions := update state.executions index none }
  | .sweep now clock =>
      some { state with database := state.database.failStaleTasks now clock }

/-- Everything one step of the system can do. -/
inductive Move (state : State) : Label → State → Prop
  | requested {call : ℕ} {request : SyncRequest}
      (hcall : state.enqueuers call = none) :
      Move state (.request call request)
        { state with
          enqueuers := update state.enqueuers call (some (.checkRun request)) }
  | enqueued {call : ℕ} {reply : Reply} {point : Enqueuer} {after : Database}
      {continuation : Option Enqueuer}
      (hcall : state.enqueuers call = some point)
      (hfresh : state.database.tasks.lookup (.taskId reply.freshId) = none)
      (hmove : EnqueueMove state.database reply point after continuation) :
      Move state (.enqueue call reply)
        { state with
          database := after
          enqueuers := update state.enqueuers call continuation }
  | aborted {call : ℕ} :
      Move state (.abort call)
        { state with enqueuers := update state.enqueuers call none }
  | claimed {index : ℕ} {taskId : String} {worker : WorkerId}
      {leaseSeconds : ℤ} {now : ℕ} {row : BackgroundTask}
      (hidle : state.executions index = none) :
      Move state (.claim index taskId worker leaseSeconds now)
        { state with
          database := state.database.claimTask taskId worker leaseSeconds now
          executions := update state.executions index
            (some
              { taskId := taskId
                worker := worker
                point := executionOf row }) }
  | renewed {index : ℕ} {leaseSeconds : ℤ} {now : ℕ} {execution : Execution}
      (hexecution : state.executions index = some execution) :
      Move state (.renew index leaseSeconds now)
        { state with
          database := state.database.renewTask execution.taskId
            execution.worker leaseSeconds now }
  | finished {index : ℕ} {reply : Reply} {execution : Execution}
      {outcome : TaskOutcome}
      (hexecution : state.executions index = some execution)
      (hpoint : execution.point = .finish outcome) :
      Move state (.execute index reply)
        { state with
          database := recordOutcome state.database execution outcome reply.now
          executions := update state.executions index none }
  | executed {index : ℕ} {reply : Reply} {execution : Execution}
      (hexecution : state.executions index = some execution) :
      Move state (.execute index reply)
        { state with
          database := (executeStep state.database reply execution.point).1
          executions := update state.executions index
            (some { execution with
              point :=
                (executeStep state.database reply execution.point).2 }) }
  | cancelled {index : ℕ} {execution : Execution}
      (hexecution : state.executions index = some execution) :
      Move state (.cancel index)
        { state with
          executions := update state.executions index
            (some { execution with point := cancelledPoint }) }
  | cancelledLate {index : ℕ} {execution : Execution}
      (hexecution : state.executions index = some execution) :
      Move state (.cancel index)
        { state with executions := update state.executions index none }
  | died {index : ℕ} :
      Move state (.die index)
        { state with executions := update state.executions index none }
  | swept {now : Option ℕ} {clock : ℕ} :
      Move state (.sweep now clock)
        { state with database := state.database.failStaleTasks now clock }

theorem step_move {state next : State} {label : Label}
    (hstep : step state label = some next) : Move state label next := by
  cases label with
  | request call request =>
      simp only [step] at hstep
      split at hstep
      · cases hstep
      · rename_i hcall
        exact Option.some.inj hstep ▸ .requested hcall
  | enqueue call reply =>
      simp only [step] at hstep
      split at hstep
      · cases hstep
      · rename_i hcall
        split at hstep
        · rename_i hfresh
          exact Option.some.inj hstep ▸
            .enqueued hcall hfresh (enqueueStep_move _ _ _)
        · cases hstep
  | abort call => exact Option.some.inj hstep ▸ .aborted
  | claim index taskId worker leaseSeconds now =>
      simp only [step] at hstep
      split at hstep
      · rename_i hidle _
        split at hstep
        · cases hstep
        · exact Option.some.inj hstep ▸ .claimed hidle
      · cases hstep
  | renew index leaseSeconds now =>
      simp only [step] at hstep
      split at hstep
      · cases hstep
      · rename_i hexecution
        exact Option.some.inj hstep ▸ .renewed hexecution
  | execute index reply =>
      simp only [step] at hstep
      split at hstep
      · cases hstep
      · rename_i hexecution
        split at hstep
        · rename_i hpoint
          exact Option.some.inj hstep ▸ .finished hexecution hpoint
        · exact Option.some.inj hstep ▸ .executed hexecution
  | cancel index =>
      simp only [step] at hstep
      split at hstep
      · cases hstep
      · rename_i hexecution
        split at hstep
        · exact Option.some.inj hstep ▸ .cancelledLate hexecution
        · exact Option.some.inj hstep ▸ .cancelled hexecution
  | die index => exact Option.some.inj hstep ▸ .died
  | sweep now clock => exact Option.some.inj hstep ▸ .swept

/-- The call a label resumes or interrupts. -/
inductive Process
  | enqueuer (call : ℕ)
  | execution (index : ℕ)
  deriving DecidableEq

def Label.acting : Label → Option Process
  | .request call _ | .enqueue call _ | .abort call => some (.enqueuer call)
  | .claim index _ _ _ _ | .execute index _ | .cancel index | .die index =>
      some (.execution index)
  | .renew _ _ _ | .sweep _ _ => none

theorem enqueuers_of_not_acting {state next : State} {label : Label}
    (hmove : Move state label next) {call : ℕ}
    (hother : label.acting ≠ some (.enqueuer call)) :
    next.enqueuers call = state.enqueuers call := by
  have hne : ∀ caller, some (Process.enqueuer caller) = label.acting →
      call ≠ caller := by
    rintro caller hacting rfl
    exact hother hacting.symm
  cases hmove with
  | requested | enqueued | aborted => exact update_of_ne (hne _ rfl) _ _
  | claimed | renewed | finished | executed | cancelled | cancelledLate | died
  | swept => rfl

theorem executions_of_not_acting {state next : State} {label : Label}
    (hmove : Move state label next) {index : ℕ}
    (hother : label.acting ≠ some (.execution index)) :
    next.executions index = state.executions index := by
  have hne : ∀ actor, some (Process.execution actor) = label.acting →
      index ≠ actor := by
    rintro actor hacting rfl
    exact hother hacting.symm
  cases hmove with
  | claimed | finished | executed | cancelled | cancelledLate | died =>
      exact update_of_ne (hne _ rfl) _ _
  | requested | enqueued | aborted | renewed | swept => rfl

end XianyuAdmin.OrderSync
