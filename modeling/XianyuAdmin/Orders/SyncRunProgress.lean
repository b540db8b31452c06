import XianyuAdmin.Orders.TaskOwnership

/-!
# Active runs and the tasks that will finish them

`create_run` returns an active run instead of a new one, so a run that stays
active without a task to execute it blocks every later synchronisation.  A call
attends a run from the point on where it alone may be left to end it.  Every
active run has an open task or a call that attends it as long as no such call
is interrupted, and no task is closed, without another one being left.
-/

namespace XianyuAdmin.OrderSync

open XianyuAdmin.TaskStore
open XianyuAdmin.Transition
open Function

def HasTask (database : Database) (runId : String) : Prop :=
  ∃ task ∈ database.tasks.rows, task.dedupeKey = some (dedupeKey runId)

def TaskOpen (database : Database) (runId : String) : Prop :=
  ∃ task ∈ database.tasks.rows, task.dedupeKey = some (dedupeKey runId) ∧
    (task.status = .pending ∨ task.status = .running)

/-- An enqueue call attends its run until the task exists, and again once it
handles a failure. -/
def Enqueuer.Attends (database : Database) (runId : String) : Enqueuer → Prop
  | .checkTask run | .insertTask run =>
      run.runId = runId ∧ ¬ HasTask database runId
  | .failTask run _ _ | .failRun run _ _ => run.runId = runId
  | .checkRun _ | .insertRun _ | .push _ _ | .markQueued _ _ => False

def ExecutionPoint.Attends (runId : String) : ExecutionPoint → Prop
  | .startRun ownId => ownId = runId
  | .body _ .releaseLock => False
  | .getAccount run | .body run _ | .mergeCookies run _ | .failSync run _
  | .failRun run _ => run.runId = runId
  | .reloadCookie _ | .finish _ => False

def Attends (state : State) (runId : String) : Process → Prop
  | .enqueuer call => ∃ point, state.enqueuers call = some point ∧
      point.Attends state.database runId
  | .execution index => ∃ execution, state.executions index = some execution ∧
      execution.point.Attends runId

/-- An exception leaves `execute_run` before its run is finished: it is raised
outside the `try` block or in one of its handlers. -/
def ExecutionPoint.Escapes (reply : Reply) : ExecutionPoint → Prop
  | .startRun _ | .getAccount _ | .mergeCookies _ _ | .failSync _ _ =>
      reply.raised.isSome
  | .failRun _ _ => reply.raised.isSome ∧ reply.committed = false
  | .body _ _ | .reloadCookie _ | .finish _ => False

/-- The step stops a call before it has finished its run. -/
def Interrupts (state : State) (label : Label) : Process → Prop
  | .enqueuer call => label = .abort call
  | .execution index => label = .cancel index ∨ label = .die index ∨
      ∃ reply execution, label = .execute index reply ∧
        state.executions index = some execution ∧ execution.point.Escapes reply

def Closes (state : State) (label : Label) (task : BackgroundTask) : Prop :=
  (∃ index reply execution outcome, label = .execute index reply ∧
      state.executions index = some execution ∧
      execution.point = .finish outcome ∧ task.taskId = execution.taskId ∧
      OwnedBy execution.worker task) ∨
    ∃ now clock, label = .sweep now clock ∧ isStale (now.getD clock) task = true

def KeepsAttended (state : State) (label : Label) : Prop :=
  ∀ run ∈ state.database.runs.rows, run.status.isActive = true →
    (∀ process, Interrupts state label process →
      Attends state run.runId process →
      TaskOpen state.database run.runId ∨
        ∃ other, other ≠ process ∧ Attends state run.runId other) ∧
    (∀ task ∈ state.database.tasks.rows,
      task.dedupeKey = some (dedupeKey run.runId) → Closes state label task →
      ∃ process, Attends state run.runId process)

def RunKept (row next : OrderSyncRun) : Prop :=
  next.runId = row.runId ∧ next.accountId = row.accountId ∧
    (next.status.isActive = true → row.status.isActive = true)

theorem RunKept.refl (row : OrderSyncRun) : RunKept row row := ⟨rfl, rfl, id⟩

theorem runKept_startRun (now : ℕ) (row : OrderSyncRun) :
    RunKept row (startRun now row) := by
  unfold startRun
  split <;> rename_i hpending
  · exact ⟨rfl, rfl, fun _ => by rw [hpending]; rfl⟩
  · exact RunKept.refl row

theorem runKept_finishRun (result : RunResult) (now : ℕ) (row : OrderSyncRun)
    (hended : result.status.isActive = false) :
    RunKept row (finishRun result now row) := by
  refine ⟨rfl, rfl, fun hactive => ?_⟩
  rw [show (finishRun result now row).status = result.status from rfl, hended]
    at hactive
  cases hactive

def RunsFollow (isNew : OrderSyncRun → Prop) (before after : RunTable) : Prop :=
  ∃ update inserted, after.rows = before.rows.map update ++ inserted ∧
    (∀ row, RunKept row (update row)) ∧ ∀ row ∈ inserted, isNew row

variable {isNew : OrderSyncRun → Prop}

theorem RunsFollow.refl (table : RunTable) : RunsFollow isNew table table :=
  ⟨id, [], by simp, RunKept.refl, by simp⟩

theorem runsFollow_writeRun (database : Database) (runId : String)
    (update : OrderSyncRun → OrderSyncRun)
    (hkeys : ∀ row, (update row).runId = row.runId)
    (hkept : ∀ row, RunKept row (update row)) :
    RunsFollow isNew database.runs (database.writeRun runId update hkeys).runs := by
  refine ⟨_, [], (List.append_nil _).symm, fun row => ?_, by simp⟩
  show RunKept row (if row.runId = runId then update row else row)
  split
  · exact hkept row
  · exact RunKept.refl row

theorem runsFollow_startRun (database : Database) (runId : String) (now : ℕ) :
    RunsFollow isNew database.runs (database.startRun runId now).runs :=
  runsFollow_writeRun database runId _ _ (runKept_startRun now)

theorem runsFollow_finishRun (database : Database) (runId : String)
    (result : RunResult) (now : ℕ) (hended : result.status.isActive = false) :
    RunsFollow isNew database.runs
      (database.finishRun runId result now).runs :=
  runsFollow_writeRun database runId _ _
    fun row => runKept_finishRun result now row hended

variable {database : Database} {runId : String} {run : OrderSyncRun} {point : ExecutionPoint}
  {reply : Reply} {process : Process}

/-- After `finish_run` the run is not active. -/
theorem not_active_of_finishRun {result : RunResult} {now : ℕ}
    (hended : result.status.isActive = false)
    (hrun : run ∈ (database.finishRun runId result now).runs.rows) (hid : run.runId = runId) :
    run.status.isActive = false := by
  obtain ⟨row, -, hrow⟩ := List.mem_map.mp hrun
  have hsame : row.runId = runId := by
    rw [← hid, ← hrow]
    split <;> rfl
  rw [if_pos hsame] at hrow
  rw [← hrow]
  exact hended

theorem runsFollow_executeStep (database : Database) (reply : Reply)
    (point : ExecutionPoint) :
    RunsFollow isNew database.runs
      (executeStep database reply point).1.runs := by
  cases point with
  | startRun runId =>
      simp only [executeStep]
      split
      · exact RunsFollow.refl _
      · split
        · exact RunsFollow.refl _
        · exact runsFollow_startRun _ _ _
  | getAccount run =>
      simp only [executeStep]
      split
      · exact RunsFollow.refl _
      · split <;> exact RunsFollow.refl _
  | body run stage =>
      cases stage with
      | finishRun =>
          simp only [executeStep, bodyWrite]
          split
          · exact runsFollow_finishRun _ _ _ _ rfl
          · exact RunsFollow.refl _
      | acquireLock | listOrders | mergeCookies | applyOrders | releaseLock =>
          exact RunsFollow.refl _
  | mergeCookies run error | failSync run error =>
      simp only [executeStep]
      split <;> exact RunsFollow.refl _
  | failRun run error =>
      simp only [executeStep]
      split
      · split
        · exact runsFollow_finishRun _ _ _ _ rfl
        · exact RunsFollow.refl _
      · exact runsFollow_finishRun _ _ _ _ rfl
  | reloadCookie outcome | finish outcome => exact RunsFollow.refl _

def InsertedRun (state next : State) (run : OrderSyncRun) : Prop :=
  ∃ call request, state.enqueuers call = some (.insertRun request) ∧
    next.enqueuers call = some (.checkTask run) ∧
    run.accountId = request.accountId ∧
    next.database.tasks = state.database.tasks ∧
    ∀ row ∈ state.database.runs.rows, row.runId ≠ run.runId

theorem runsFollow_step {state next : State} {label : Label}
    (hmove : Move state label next) :
    RunsFollow (InsertedRun state next) state.database.runs
      next.database.runs := by
  cases hmove with
  | @enqueued call reply point after continuation hcall hfresh hmove =>
      cases hmove with
      | @runInserted request runs hinsert =>
          have hrows := Table.rows_of_insert? hinsert
          refine ⟨id, [newRun request reply.freshId reply.now], ?_,
            RunKept.refl, ?_⟩
          · rw [List.map_id]
            exact hrows
          · intro run hrun
            rw [List.mem_singleton.mp hrun]
            refine ⟨call, request, hcall, update_self _ _ _, rfl, rfl, ?_⟩
            intro row hrow hsame
            exact Table.noClash_of_insert? hinsert row hrow row.runId
              (List.mem_singleton_self _) (List.mem_singleton.mpr hsame)
      | runFailed => exact runsFollow_finishRun _ _ _ _ rfl
      | requestRejected | runFound | runAbsent | runRefused | accountMissing
      | taskFound | taskAbsent | taskInserted | taskRefused | pushed
      | pushFailed | marked | markFailedAfter | markFailed | taskFailed =>
          exact RunsFollow.refl _
  | @finished index reply execution outcome hexecution hpoint =>
      cases outcome <;> exact RunsFollow.refl _
  | executed hexecution => exact runsFollow_executeStep _ _ _
  | requested | aborted | claimed | renewed | cancelled | cancelledLate | died
  | swept => exact RunsFollow.refl _

def KnownRun (database : Database) (run : OrderSyncRun) : Prop :=
  ∃ row ∈ database.runs.rows, row.runId = run.runId ∧
    row.accountId = run.accountId

def KnownTask (database : Database) (run : OrderSyncRun)
    (task : BackgroundTask) : Prop :=
  ∃ row ∈ database.tasks.rows, row.taskId = task.taskId ∧
    row.dedupeKey = some (dedupeKey run.runId)

def Enqueuer.Sound (database : Database) : Enqueuer → Prop
  | .checkRun _ => True
  | .insertRun request => request.accountId ∈ database.accounts
  | .checkTask run | .insertTask run => KnownRun database run
  | .push run task | .markQueued run task | .failTask run task _
  | .failRun run task _ => KnownTask database run task

def ExecutionPoint.Sound (database : Database) : ExecutionPoint → Prop
  | .getAccount run => KnownRun database run
  | .startRun _ | .body _ _ | .mergeCookies _ _ | .failSync _ _ | .failRun _ _
  | .reloadCookie _ | .finish _ => True

theorem executeStep_accounts (database : Database) (reply : Reply)
    (point : ExecutionPoint) :
    (executeStep database reply point).1.accounts = database.accounts := by
  cases point with
  | startRun runId =>
      simp only [executeStep]
      split
      · rfl
      · split <;> rfl
  | getAccount run =>
      simp only [executeStep]
      split
      · rfl
      · split <;> rfl
  | body run stage =>
      cases stage with
      | finishRun =>
          simp only [executeStep, bodyWrite]
          split <;> rfl
      | acquireLock | listOrders | mergeCookies | applyOrders | releaseLock => rfl
  | mergeCookies run error | failSync run error =>
      simp only [executeStep]
      split <;> rfl
  | failRun run error =>
      simp only [executeStep]
      split
      · split <;> rfl
      · rfl
  | reloadCookie outcome | finish outcome => rfl

/-- Accounts stay, and rows keep the ids under which calls know them. -/
structure Grows (before after : Database) : Prop where
  accounts : after.accounts = before.accounts
  knownRun : ∀ run, KnownRun before run → KnownRun after run
  knownTask : ∀ run task, KnownTask before run task → KnownTask after run task

theorem Grows.sound_enqueuer {before after : Database}
    (hgrows : Grows before after) {point : Enqueuer}
    (hsound : point.Sound before) : point.Sound after := by
  cases point with
  | checkRun request => trivial
  | insertRun request =>
      show request.accountId ∈ after.accounts
      rw [hgrows.accounts]
      exact hsound
  | checkTask run | insertTask run => exact hgrows.knownRun run hsound
  | push run task | markQueued run task | failTask run task error
  | failRun run task error => exact hgrows.knownTask run task hsound

theorem Grows.sound_execution {before after : Database} (hgrows : Grows before after)
    (hsound : point.Sound before) : point.Sound after := by
  cases point with
  | getAccount run => exact hgrows.knownRun run hsound
  | startRun | body | mergeCookies | failSync | failRun | reloadCookie
  | finish => trivial

theorem accounts_of_move {state next : State} {label : Label}
    (hmove : Move state label next) :
    next.database.accounts = state.database.accounts := by
  cases hmove with
  | enqueued hcall hfresh hmove => cases hmove <;> rfl
  | @finished index reply execution outcome hexecution hpoint =>
      cases outcome <;> rfl
  | executed hexecution => exact executeStep_accounts _ _ _
  | requested | aborted | claimed | renewed | cancelled | cancelledLate | died
  | swept => rfl

theorem grows_step {state next : State} {label : Label}
    (hmove : Move state label next) :
    Grows state.database next.database where
  accounts := accounts_of_move hmove
  knownRun := by
    rintro run ⟨row, hrow, hid, haccount⟩
    obtain ⟨update, inserted, hrows, hkept, -⟩ := runsFollow_step hmove
    refine ⟨update row, ?_, (hkept row).1.trans hid,
      (hkept row).2.1.trans haccount⟩
    rw [hrows]
    exact List.mem_append_left _ (List.mem_map_of_mem hrow)
  knownTask := by
    rintro run task ⟨row, hrow, hid, hkey⟩
    obtain ⟨update, inserted, hrows, heffect, -⟩ := tasksFollow_step hmove
    have hsame := (heffect row).sameKeys
    refine ⟨update row, ?_, hsame.1.trans hid, hsame.2.trans hkey⟩
    rw [hrows]
    exact List.mem_append_left _ (List.mem_map_of_mem hrow)

theorem enqueueIfPending_eq_some {task : BackgroundTask} {point : Enqueuer}
    (hpoint : enqueueIfPending run task = some point) :
    point = .push run task := by
  unfold enqueueIfPending at hpoint
  split at hpoint
  · exact (Option.some.inj hpoint).symm
  · cases hpoint

/-- An enqueue call knows the rows it goes on with. -/
theorem sound_enqueueMove {before after : Database} {point continuation : Enqueuer}
    (hmove : EnqueueMove before reply point after (some continuation))
    (hsound : point.Sound before) (hgrows : Grows before after) :
    continuation.Sound after := by
  generalize hcontinuation : some continuation = outcome at hmove
  cases hmove with
  | requestRejected | runRefused | accountMissing | taskRefused | marked
  | runFailed => cases hcontinuation
  | runFound hrun =>
      cases hcontinuation
      exact ⟨_, hrun, rfl, rfl⟩
  | runAbsent haccount =>
      cases hcontinuation
      exact haccount
  | runInserted hinsert =>
      cases hcontinuation
      refine ⟨_, ?_, rfl, rfl⟩
      show _ ∈ Table.rows _
      rw [Table.rows_of_insert? hinsert]
      exact List.mem_append_right _ (List.mem_singleton_self _)
  | taskFound htask hkey =>
      rw [enqueueIfPending_eq_some hcontinuation.symm]
      exact ⟨_, htask, rfl, hkey⟩
  | taskAbsent =>
      cases hcontinuation
      exact hsound
  | taskInserted hinsert =>
      rw [enqueueIfPending_eq_some hcontinuation.symm]
      refine ⟨_, ?_, rfl, rfl⟩
      show _ ∈ Table.rows _
      rw [Table.rows_of_insert? hinsert]
      exact List.mem_append_right _ (List.mem_singleton_self _)
  | pushed | pushFailed | markFailed =>
      cases hcontinuation
      exact hsound
  | markFailedAfter | taskFailed =>
      cases hcontinuation
      exact hgrows.knownTask _ _ hsound

theorem startRun_accountId (now : ℕ) (row : OrderSyncRun) :
    (startRun now row).accountId = row.accountId := by
  unfold startRun
  split <;> rfl

/-- An execution knows the run it goes on with. -/
theorem sound_executeStep (hgrows : Grows database (executeStep database reply point).1) :
    (executeStep database reply point).2.Sound
      (executeStep database reply point).1 := by
  cases point with
  | startRun runId =>
      cases hraised : reply.raised with
      | some raised =>
          simp only [executeStep, hraised]
          trivial
      | none =>
          cases hlookup : database.runs.lookup runId with
          | none =>
              simp only [executeStep, hraised, hlookup]
              trivial
          | some row =>
              simp only [executeStep, hraised, hlookup] at hgrows ⊢
              obtain ⟨stored, hstored, hid, haccount⟩ := hgrows.knownRun row
                ⟨row, Table.mem_of_lookup hlookup, rfl, rfl⟩
              split
              · exact ⟨stored, hstored,
                  hid.trans (Database.startRun_runId _ row).symm,
                  haccount.trans (startRun_accountId _ row).symm⟩
              · trivial
  | getAccount run =>
      simp only [executeStep]
      split
      · trivial
      · split <;> trivial
  | body run stage =>
      simp only [executeStep]
      split
      · cases stage <;> trivial
      · trivial
      · trivial
  | mergeCookies run error | failSync run error =>
      simp only [executeStep]
      split <;> trivial
  | failRun run error =>
      simp only [executeStep]
      split <;> trivial
  | reloadCookie outcome | finish outcome => trivial

structure Attended (state : State) : Prop where
  accounts : ∀ run ∈ state.database.runs.rows,
    run.accountId ∈ state.database.accounts
  taskRuns : ∀ task ∈ state.database.tasks.rows,
    ∃ run ∈ state.database.runs.rows,
      task.dedupeKey = some (dedupeKey run.runId)
  enqueuers : ∀ call point, state.enqueuers call = some point →
    point.Sound state.database
  executions : ∀ index execution, state.executions index = some execution →
    execution.point.Sound state.database
  covered : ∀ run ∈ state.database.runs.rows, run.status.isActive = true →
    TaskOpen state.database run.runId ∨
      ∃ process, Attends state run.runId process

theorem attended_initial (accounts : List String) : Attended (initial accounts) where
  accounts := fun _ hrun => nomatch hrun
  taskRuns := fun _ htask => nomatch htask
  enqueuers := fun _ _ hcall => nomatch hcall
  executions := fun _ _ hexecution => nomatch hexecution
  covered := fun _ hrun => nomatch hrun

variable {state next : State} {label : Label}

theorem Attended.accounts_step (hinv : Attended state)
    (hmove : Move state label next) :
    ∀ run ∈ next.database.runs.rows,
      run.accountId ∈ next.database.accounts := by
  obtain ⟨update, inserted, hrows, hkept, hnew⟩ := runsFollow_step hmove
  intro run hrun
  rw [(grows_step hmove).accounts]
  rw [hrows, List.mem_append, List.mem_map] at hrun
  rcases hrun with ⟨row, hrow, rfl⟩ | hinserted
  · rw [(hkept row).2.1]
    exact hinv.accounts row hrow
  · obtain ⟨call, request, hcall, -, haccount, -⟩ := hnew run hinserted
    rw [haccount]
    exact hinv.enqueuers call _ hcall

theorem Attended.taskRuns_step (hinv : Attended state)
    (hmove : Move state label next) :
    ∀ task ∈ next.database.tasks.rows, ∃ run ∈ next.database.runs.rows,
      task.dedupeKey = some (dedupeKey run.runId) := by
  have hgrows := grows_step hmove
  obtain ⟨update, inserted, hrows, heffect, hnew⟩ := tasksFollow_step hmove
  intro task htask
  rw [hrows, List.mem_append, List.mem_map] at htask
  rcases htask with ⟨row, hrow, rfl⟩ | hinserted
  · obtain ⟨run, hrun, hkey⟩ := hinv.taskRuns row hrow
    obtain ⟨kept, hmem, hid, -⟩ := hgrows.knownRun run ⟨run, hrun, rfl, rfl⟩
    refine ⟨kept, hmem, ?_⟩
    rw [(heffect row).sameKeys.2, hkey, hid]
  · obtain ⟨call, run, taskId, now, hcall, rfl⟩ := hnew task hinserted
    obtain ⟨kept, hmem, hid, -⟩ :=
      hgrows.knownRun run (hinv.enqueuers call _ hcall)
    refine ⟨kept, hmem, ?_⟩
    rw [hid]
    rfl

theorem Attended.enqueuers_step (hinv : Attended state)
    (hmove : Move state label next) :
    ∀ call point, next.enqueuers call = some point →
      point.Sound next.database := by
  have hgrows := grows_step hmove
  intro call point hpoint
  by_cases hother : label.acting ≠ some (.enqueuer call)
  · rw [enqueuers_of_not_acting hmove hother] at hpoint
    exact hgrows.sound_enqueuer (hinv.enqueuers call point hpoint)
  · have hacting := not_not.mp hother
    cases hmove with
    | requested hcall =>
        cases hacting
        simp only [update_self, Option.some.injEq] at hpoint
        rw [← hpoint]
        trivial
    | @enqueued _ _ old _ _ hcall hfresh hmove =>
        cases hacting
        simp only [update_self] at hpoint
        rw [hpoint] at hmove
        exact sound_enqueueMove hmove (hinv.enqueuers _ old hcall) hgrows
    | aborted =>
        cases hacting
        simp [update_self] at hpoint
    | claimed | renewed | finished | executed | cancelled | cancelledLate
    | died | swept => cases hacting

theorem Attended.executions_step (hinv : Attended state)
    (hmove : Move state label next) :
    ∀ index execution, next.executions index = some execution →
      execution.point.Sound next.database := by
  have hgrows := grows_step hmove
  intro index execution hexecution
  by_cases hother : label.acting ≠ some (.execution index)
  · rw [executions_of_not_acting hmove hother] at hexecution
    exact hgrows.sound_execution (hinv.executions index execution hexecution)
  · have hacting := not_not.mp hother
    cases hmove with
    | @claimed _ _ _ _ _ row hidle =>
        cases hacting
        simp only [update_self, Option.some.injEq] at hexecution
        rw [← hexecution]
        show (executionOf row).Sound _
        unfold executionOf
        split <;> trivial
    | executed hold =>
        cases hacting
        simp only [update_self, Option.some.injEq] at hexecution
        rw [← hexecution]
        exact sound_executeStep hgrows
    | cancelled =>
        cases hacting
        simp only [update_self, Option.some.injEq] at hexecution
        rw [← hexecution]
        trivial
    | finished | cancelledLate | died =>
        cases hacting
        simp [update_self] at hexecution
    | requested | enqueued | aborted | renewed | swept => cases hacting

/-- A task that appears in a step is `pending`. -/
theorem hasTask_of_move (hmove : Move state label next) (htask : HasTask next.database runId) :
    HasTask state.database runId ∨ TaskOpen next.database runId := by
  obtain ⟨update, inserted, hrows, heffect, hnew⟩ := tasksFollow_step hmove
  obtain ⟨task, hmem, hkey⟩ := htask
  have hcases := hmem
  rw [hrows, List.mem_append, List.mem_map] at hcases
  rcases hcases with ⟨row, hrow, rfl⟩ | hinserted
  · exact .inl ⟨row, hrow, (heffect row).sameKeys.2 ▸ hkey⟩
  · obtain ⟨call, run, taskId, now, -, rfl⟩ := hnew task hinserted
    exact .inr ⟨_, hmem, hkey, .inl rfl⟩

/-- A call that the step does not resume or interrupt attends its run as
before. -/
theorem attends_of_not_acting (hmove : Move state label next)
    (hother : label.acting ≠ some process) (hattends : Attends state runId process) :
    TaskOpen next.database runId ∨ Attends next runId process := by
  cases process with
  | execution index =>
      obtain ⟨execution, hexecution, hpoint⟩ := hattends
      rw [← executions_of_not_acting hmove hother] at hexecution
      exact .inr ⟨execution, hexecution, hpoint⟩
  | enqueuer call =>
      obtain ⟨point, hcall, hpoint⟩ := hattends
      rw [← enqueuers_of_not_acting hmove hother] at hcall
      by_cases hopen : TaskOpen next.database runId
      · exact .inl hopen
      · refine .inr ⟨point, hcall, ?_⟩
        cases point with
        | checkTask run | insertTask run =>
            exact ⟨hpoint.1, fun htask =>
              hpoint.2 ((hasTask_of_move hmove htask).resolve_right hopen)⟩
        | failTask | failRun => exact hpoint
        | checkRun | insertRun | push | markQueued => exact hpoint.elim

theorem isStale_of_failStale {now : Option ℕ} {clock : ℕ}
    {row failed : BackgroundTask}
    (hfail : failStaleBackgroundTask now clock row = some failed) :
    isStale (now.getD clock) row = true := by
  simp only [failStaleBackgroundTask] at hfail
  split at hfail
  · assumption
  · cases hfail

theorem Attended.taskOpen_step (hinv : Attended state) (hmove : Move state label next)
    (hopen : TaskOpen state.database runId) :
    TaskOpen next.database runId ∨
      (∃ task ∈ state.database.tasks.rows,
        task.dedupeKey = some (dedupeKey runId) ∧ Closes state label task) ∨
      ∃ process, Attends next runId process := by
  obtain ⟨update, inserted, hrows, heffect, -⟩ := tasksFollow_step hmove
  obtain ⟨task, htask, hkey, hstatus⟩ := hopen
  have hmem : update task ∈ next.database.tasks.rows := by
    rw [hrows]
    exact List.mem_append_left _ (List.mem_map_of_mem htask)
  have hkeyNext : (update task).dedupeKey = some (dedupeKey runId) := by
    rw [(heffect task).sameKeys.2, hkey]
  have hstill : (update task).status = .pending ∨ (update task).status = .running →
      TaskOpen next.database runId := fun hstatus =>
    ⟨update task, hmem, hkeyNext, hstatus⟩
  have htaskEffect := heffect task
  generalize update task = after at *
  cases htaskEffect with
  | keep => exact .inl (hstill hstatus)
  | queued _ _ hnext =>
      obtain ⟨hpending, hsame, -, -⟩ := markQueued_eq_some hnext
      exact .inl (hstill (.inl (hsame.trans hpending)))
  | claimed _ hnext =>
      obtain ⟨-, -, hrunning, -⟩ := claim_eq_some hnext
      exact .inl (hstill (.inr hrunning))
  | renewed _ hnext =>
      obtain ⟨howned, hsame, -⟩ := renew_eq_some hnext
      exact .inl (hstill (.inr (hsame.trans howned.1)))
  | finished hlabel hexecution hpoint hrow hfinal hnext =>
      obtain ⟨howned, -⟩ := finishClaimed_eq_some hnext
      exact .inr (.inl ⟨task, htask, hkey,
        .inl ⟨_, _, _, _, hlabel, hexecution, hpoint, hrow, howned⟩⟩)
  | swept hlabel hnext =>
      exact .inr (.inl ⟨task, htask, hkey,
        .inr ⟨_, _, hlabel, isStale_of_failStale hnext⟩⟩)
  | @enqueueFailed call reply run held error hlabel hcall hrow =>
      -- the call knows its task by the key of its run
      obtain ⟨stored, hstored, hid, hstoredKey⟩ := hinv.enqueuers call _ hcall
      have hsame : stored = task :=
        Table.eq_of_key hstored htask (taskId_mem_taskKeys.mpr hid)
          (taskId_mem_taskKeys.mpr hrow)
      rw [hsame, hkey, Option.some.injEq, dedupeKey_inj] at hstoredKey
      subst hlabel
      cases hmove with
      | enqueued hpoint hfresh hmove =>
          rw [hcall] at hpoint
          cases hpoint
          cases hmove
          exact .inr (.inr ⟨.enqueuer call, _, update_self _ _ _,
            hstoredKey.symm⟩)

theorem Attended.attends_enqueueMove (hinv : Attended state) {point : Enqueuer} {after : Database}
    {continuation : Option Enqueuer} (hsound : point.Sound state.database)
    (hfresh : state.database.tasks.lookup (.taskId reply.freshId) = none)
    (hmove : EnqueueMove state.database reply point after continuation)
    (hattends : point.Attends state.database runId) (hrun : run ∈ after.runs.rows)
    (hid : run.runId = runId) (hactive : run.status.isActive = true) :
    TaskOpen after runId ∨
      ∃ goesOn, continuation = some goesOn ∧ goesOn.Attends after runId := by
  cases hmove with
  | requestRejected | runFound | runAbsent | runInserted | runRefused | pushed
  | pushFailed | marked | markFailedAfter | markFailed => exact hattends.elim
  | accountMissing hmissing =>
      obtain ⟨row, hrow, -, haccount⟩ := hsound
      exact absurd (haccount ▸ hinv.accounts row hrow) hmissing
  | taskFound htask hkey =>
      obtain ⟨hown, hnone⟩ := hattends
      exact absurd ⟨_, htask, hown ▸ hkey⟩ hnone
  | taskAbsent => exact .inr ⟨_, rfl, hattends⟩
  | @taskInserted own tasks hinsert =>
      refine .inl ⟨newTask (taskRequest own) reply.freshId reply.now, ?_,
        hattends.1 ▸ rfl, .inl rfl⟩
      show _ ∈ Table.rows _
      rw [Table.rows_of_insert? hinsert]
      exact List.mem_append_right _ (List.mem_singleton_self _)
  | @taskRefused own hinsert =>
      -- the id is new and the run has no task, so nothing can clash
      have hfree : ∀ key ∈ taskKeys
          (newTask (taskRequest own) reply.freshId reply.now),
          state.database.tasks.lookup key = none := by
        intro key hkey
        have hcases : key = .taskId reply.freshId ∨
            key = .dedupeKey (dedupeKey own.runId) := by
          simpa [taskKeys, newTask, taskRequest] using hkey
        rcases hcases with rfl | rfl
        · exact hfresh
        · rw [Table.lookup_eq_none_iff]
          intro task htask hclash
          exact hattends.2 ⟨task, htask, hattends.1 ▸
            dedupeKey_mem_taskKeys.mp hclash⟩
      obtain ⟨inserted, hinserted⟩ := Table.exists_insert?_of_fresh hfree
      rw [hinsert] at hinserted
      cases hinserted
  | taskFailed => exact .inr ⟨_, rfl, hattends⟩
  | @runFailed own task error =>
      have hresult : (failedResult error).status.isActive = false := rfl
      have hended := not_active_of_finishRun hresult hrun (hid.trans hattends.symm)
      rw [hactive] at hended
      cases hended

/-- `start_run` on an active run leaves it `running`. -/
theorem status_startRun_of_active {now : ℕ} {row : OrderSyncRun}
    (hactive : (startRun now row).status.isActive = true) :
    (startRun now row).status = .running := by
  unfold startRun at hactive ⊢
  split
  · rfl
  · rename_i hpending
    rw [if_neg hpending] at hactive
    cases hstatus : row.status with
    | pending => exact absurd hstatus hpending
    | running => rfl
    | success | failed =>
        rw [hstatus] at hactive
        cases hactive

theorem eq_of_runId {left right : OrderSyncRun} (hleft : left ∈ database.runs.rows)
    (hright : right ∈ database.runs.rows) (hid : left.runId = right.runId) : left = right :=
  Table.eq_of_key hleft hright (List.mem_singleton_self _)
    (List.mem_singleton.mpr hid)

theorem Attended.attends_executeStep (hinv : Attended state) (hsound : point.Sound state.database)
    (hkept : ¬ point.Escapes reply) (hattends : point.Attends runId)
    (hrun : run ∈ (executeStep state.database reply point).1.runs.rows) (hid : run.runId = runId)
    (hactive : run.status.isActive = true) :
    (executeStep state.database reply point).2.Attends runId := by
  have hended : ∀ result : RunResult, ∀ now ownId,
      result.status.isActive = false → ownId = runId →
      run ∉ (state.database.finishRun ownId result now).runs.rows := by
    intro result now ownId hresult hown hmem
    rw [not_active_of_finishRun hresult hmem (hid.trans hown.symm)] at hactive
    cases hactive
  cases point with
  | startRun ownId =>
      have hraised : reply.raised = none := by
        simpa [ExecutionPoint.Escapes] using hkept
      obtain rfl : ownId = runId := hattends
      cases hlookup : state.database.runs.lookup ownId with
      | none =>
          simp only [executeStep, hraised, hlookup] at hrun
          exact absurd (List.mem_singleton.mpr hid.symm)
            (Table.lookup_eq_none_iff.mp hlookup run hrun)
      | some row =>
          obtain ⟨hrow, hkey⟩ := Table.lookup_eq_some_iff.mp hlookup
          have hrowId : row.runId = ownId := (List.mem_singleton.mp hkey).symm
          simp only [executeStep, hraised, hlookup] at hrun ⊢
          have hstarted : run = startRun reply.now row := by
            obtain ⟨before, hbefore, hafter⟩ := List.mem_map.mp hrun
            have hbeforeId : before.runId = ownId := by
              rw [← hid, ← hafter]
              split
              · exact (Database.startRun_runId _ _).symm
              · rfl
            rw [if_pos hbeforeId] at hafter
            rw [← hafter, eq_of_runId hbefore hrow
              (hbeforeId.trans hrowId.symm)]
          rw [hstarted] at hactive
          rw [if_pos (status_startRun_of_active hactive)]
          exact (Database.startRun_runId _ _).trans hrowId
  | getAccount own =>
      have hraised : reply.raised = none := by
        simpa [ExecutionPoint.Escapes] using hkept
      obtain ⟨row, hrow, -, haccount⟩ := hsound
      have hmem : own.accountId ∈ state.database.accounts :=
        haccount ▸ hinv.accounts row hrow
      simp only [executeStep, hraised, if_pos hmem]
      exact hattends
  | body own stage =>
      cases hraised : reply.raised with
      | some raised =>
          have hown : own.runId = runId := by
            cases stage with
            | releaseLock => exact hattends.elim
            | acquireLock | listOrders | mergeCookies | applyOrders
            | finishRun => exact hattends
          simp only [executeStep, hraised]
          cases raised <;> exact hown
      | none =>
          simp only [executeStep, hraised] at hrun ⊢
          cases stage with
          | acquireLock | listOrders | mergeCookies | applyOrders =>
              exact hattends
          | finishRun =>
              simp only [bodyWrite, hraised, Option.isNone_none, Bool.true_or,
                if_true] at hrun
              exact absurd hrun (hended _ _ _ rfl hattends)
          | releaseLock => exact hattends.elim
  | mergeCookies own error | failSync own error =>
      have hraised : reply.raised = none := by
        simpa [ExecutionPoint.Escapes] using hkept
      simp only [executeStep, hraised]
      exact hattends
  | failRun own error =>
      cases hraised : reply.raised with
      | none =>
          simp only [executeStep, hraised] at hrun
          exact absurd hrun (hended _ _ _ rfl hattends)
      | some raised =>
          have hcommitted : reply.committed = true := by
            simpa [ExecutionPoint.Escapes, hraised] using hkept
          simp only [executeStep, hraised, hcommitted, if_true] at hrun
          exact absurd hrun (hended _ _ _ rfl hattends)
  | reloadCookie outcome | finish outcome => exact hattends.elim

theorem Attended.attends_of_acting (hinv : Attended state) (hmove : Move state label next)
    (hacting : label.acting = some process) (hattends : Attends state run.runId process)
    (hrun : run ∈ next.database.runs.rows) (hactive : run.status.isActive = true) :
    Interrupts state label process ∨ TaskOpen next.database run.runId ∨
      Attends next run.runId process := by
  cases hmove with
  | requested hidle =>
      cases hacting
      obtain ⟨point, hcall, -⟩ := hattends
      rw [hidle] at hcall
      cases hcall
  | @enqueued call reply point after continuation hcall hfresh hmove =>
      cases hacting
      obtain ⟨held, hheld, hpoint⟩ := hattends
      obtain rfl : point = held := Option.some.inj (hcall.symm.trans hheld)
      rcases hinv.attends_enqueueMove (hinv.enqueuers call point hcall) hfresh
        hmove hpoint hrun rfl hactive with hopen | ⟨goesOn, rfl, hgoesOn⟩
      · exact .inr (.inl hopen)
      · exact .inr (.inr ⟨goesOn, update_self _ _ _, hgoesOn⟩)
  | aborted =>
      cases hacting
      exact .inl rfl
  | claimed hidle =>
      cases hacting
      obtain ⟨execution, hexecution, -⟩ := hattends
      rw [hidle] at hexecution
      cases hexecution
  | finished hexecution hpoint =>
      cases hacting
      obtain ⟨held, hheld, hattends⟩ := hattends
      rw [hexecution] at hheld
      rw [← Option.some.inj hheld, hpoint] at hattends
      exact hattends.elim
  | @executed index reply execution hexecution =>
      cases hacting
      obtain ⟨held, hheld, hpoint⟩ := hattends
      obtain rfl : execution = held :=
        Option.some.inj (hexecution.symm.trans hheld)
      by_cases hescapes : execution.point.Escapes reply
      · exact .inl (.inr (.inr ⟨reply, execution, rfl, hexecution, hescapes⟩))
      · exact .inr (.inr ⟨_, update_self _ _ _,
          hinv.attends_executeStep (hinv.executions index execution hexecution)
            hescapes hpoint hrun rfl hactive⟩)
  | cancelled | cancelledLate =>
      cases hacting
      exact .inl (.inl rfl)
  | died =>
      cases hacting
      exact .inl (.inr (.inl rfl))
  | renewed | swept => cases hacting

theorem not_acting_of_closes {task : BackgroundTask} (hcloses : Closes state label task)
    (hattends : Attends state runId process) : label.acting ≠ some process := by
  rcases hcloses with ⟨index, reply, execution, outcome, rfl, hexecution,
    hpoint, -⟩ | ⟨now, clock, rfl, -⟩
  · intro hacting
    cases hacting
    obtain ⟨held, hheld, hattends⟩ := hattends
    rw [hexecution] at hheld
    rw [← Option.some.inj hheld, hpoint] at hattends
    exact hattends
  · exact nofun

theorem Attended.covered_step (hinv : Attended state)
    (hkeeps : KeepsAttended state label) (hmove : Move state label next) :
    ∀ run ∈ next.database.runs.rows, run.status.isActive = true →
      TaskOpen next.database run.runId ∨
        ∃ process, Attends next run.runId process := by
  obtain ⟨update, inserted, hrows, hkept, hnew⟩ := runsFollow_step hmove
  intro run hrun hactive
  have hcases := hrun
  rw [hrows, List.mem_append, List.mem_map] at hcases
  rcases hcases with ⟨before, hbefore, rfl⟩ | hinserted
  · obtain ⟨hid, -, hstays⟩ := hkept before
    obtain ⟨hinterrupted, hclosed⟩ := hkeeps before hbefore (hstays hactive)
    have hother : ∀ process, label.acting ≠ some process →
        Attends state before.runId process →
        TaskOpen next.database before.runId ∨
          ∃ process, Attends next before.runId process := by
      intro process hnot hattends
      rcases attends_of_not_acting hmove hnot hattends with hopen | hattends
      · exact .inl hopen
      · exact .inr ⟨process, hattends⟩
    have hwasOpen : TaskOpen state.database before.runId →
        TaskOpen next.database before.runId ∨
          ∃ process, Attends next before.runId process := by
      intro hopen
      rcases hinv.taskOpen_step hmove hopen with
        hopen | ⟨task, htask, hkey, hcloses⟩ | hattends
      · exact .inl hopen
      · obtain ⟨process, hattends⟩ := hclosed task htask hkey hcloses
        exact hother process (not_acting_of_closes hcloses hattends) hattends
      · exact .inr hattends
    rw [hid]
    rcases hinv.covered before hbefore (hstays hactive) with
      hopen | ⟨process, hattends⟩
    · exact hwasOpen hopen
    · by_cases hacting : label.acting = some process
      · rcases hinv.attends_of_acting hmove hacting (hid ▸ hattends) hrun
          hactive with hinterrupts | hopen | hattendsNext
        · rcases hinterrupted process hinterrupts hattends with
            hopen | ⟨other, hne, hattendsOther⟩
          · exact hwasOpen hopen
          · refine hother other (fun hother => hne ?_) hattendsOther
            exact Option.some.inj (hother.symm.trans hacting)
        · exact .inl (hid ▸ hopen)
        · exact .inr ⟨process, hid ▸ hattendsNext⟩
      · exact hother process hacting hattends
  · -- the run is new: its call goes on, and no task can bear its key
    obtain ⟨call, request, -, hcall, -, htasks, hfresh⟩ := hnew run hinserted
    refine .inr ⟨.enqueuer call, _, hcall, rfl, ?_⟩
    rintro ⟨task, htask, hkey⟩
    rw [htasks] at htask
    obtain ⟨known, hknown, hknownKey⟩ := hinv.taskRuns task htask
    rw [hkey, Option.some.injEq, dedupeKey_inj] at hknownKey
    exact hfresh known hknown hknownKey.symm

theorem Attended.step (hinv : Attended state)
    (hkeeps : KeepsAttended state label) (hmove : Move state label next) :
    Attended next where
  accounts := hinv.accounts_step hmove
  taskRuns := hinv.taskRuns_step hmove
  enqueuers := hinv.enqueuers_step hmove
  executions := hinv.executions_step hmove
  covered := hinv.covered_step hkeeps hmove

def Quiescent (state : State) : Prop :=
  (∀ call, state.enqueuers call = none) ∧
    ∀ index, state.executions index = none

/-- Every active run, and in particular every run that `create_run` would hand
out instead of a new one, has an open task. -/
structure RunsHaveOpenTask (state : State) : Prop where
  active : ∀ run ∈ state.database.runs.rows, run.status.isActive = true →
    TaskOpen state.database run.runId
  handedOut : ∀ accountId scope run,
    state.database.activeRun accountId scope = some run →
    TaskOpen state.database run.runId

theorem isActive_of_activeRun {accountId scope : String}
    (hrun : database.activeRun accountId scope = some run) :
    run.status.isActive = true := by
  have hmem := List.of_mem_filter (List.argmax_mem hrun)
  simp only [Bool.and_eq_true] at hmem
  exact hmem.2

theorem Attended.runsHaveOpenTask (hinv : Attended state) (hquiet : Quiescent state) :
    RunsHaveOpenTask state := by
  have hactive : ∀ run ∈ state.database.runs.rows, run.status.isActive = true →
      TaskOpen state.database run.runId := by
    intro run hmem hactive
    rcases hinv.covered run hmem hactive with hopen | ⟨process, hattends⟩
    · exact hopen
    · cases process with
      | enqueuer call =>
          obtain ⟨point, hcall, -⟩ := hattends
          rw [hquiet.1 call] at hcall
          cases hcall
      | execution index =>
          obtain ⟨execution, hexecution, -⟩ := hattends
          rw [hquiet.2 index] at hexecution
          cases hexecution
  exact ⟨hactive, fun accountId scope run hrun =>
    hactive run (mem_of_activeRun hrun) (isActive_of_activeRun hrun)⟩

/-- In every run of the system whose steps keep active runs attended, no run is
stuck in a quiescent state. -/
theorem quiescent_runs_have_open_task {accounts : List String}
    {labels : List Label} {state : State}
    (hrun : Run (restrict (ofPartial step) KeepsAttended) (initial accounts)
      labels state)
    (hquiet : Quiescent state) : RunsHaveOpenTask state := by
  have hinv : Attended state := by
    apply hrun.invariant Attended
    · intro before label after hbefore hstep
      exact hbefore.step hstep.1 (step_move hstep.2)
    · exact attended_initial accounts
  exact hinv.runsHaveOpenTask hquiet

theorem keepsAttended_enqueue (state : State) (call : ℕ) (reply : Reply) :
    KeepsAttended state (.enqueue call reply) := by
  intro run hrun hactive
  refine ⟨fun process hinterrupts => ?_, fun task htask hkey hcloses => ?_⟩
  · cases process with
    | enqueuer => exact nomatch hinterrupts
    | execution =>
        rcases hinterrupts with hlabel | hlabel | ⟨_, _, hlabel, -⟩ <;>
          cases hlabel
  · rcases hcloses with ⟨_, _, _, _, hlabel, -⟩ | ⟨_, _, hlabel, -⟩ <;>
      cases hlabel

/-- An enqueue call that succeeds leaves a pending run with its task. -/
theorem enqueued_run_has_open_task :
    ∃ state, Quiescent state ∧ state.database.runs.rows ≠ [] ∧
      RunsHaveOpenTask state := by
  obtain ⟨state, hrun, hquiet, hrows⟩ : ∃ state,
      Run (restrict (ofPartial step) KeepsAttended) (initial ["seller"])
        (createLabels ++ [.enqueue 0 {}, .enqueue 0 { now := 1 }]) state ∧
      Quiescent state ∧ state.database.runs.rows ≠ [] := by
    refine ⟨_, .cons ⟨?request, rfl⟩ (.cons ⟨?_, rfl⟩ (.cons ⟨?_, rfl⟩
      (.cons ⟨?_, rfl⟩ (.cons ⟨?_, rfl⟩ (.cons ⟨?_, rfl⟩ (.cons ⟨?_, rfl⟩
      (.nil _))))))), ⟨fun call => by cases call <;> rfl, fun _ => rfl⟩,
      List.cons_ne_nil _ _⟩
    case request => exact fun _ hrun => nomatch hrun
    all_goals exact keepsAttended_enqueue _ _ _
  exact ⟨state, hquiet, hrows, quiescent_runs_have_open_task hrun hquiet⟩

/-- A worker that is stopped while it executes a run fails the task and leaves
the run `running`: nothing will ever finish it. -/
theorem cancelled_execution_leaves_run_active :
    ¬ ∀ accounts labels state, Run (ofPartial step) (initial accounts) labels state →
      Quiescent state → RunsHaveOpenTask state := by
  intro hall
  obtain ⟨state, hrun, hquiet, run, hmem, hrunning, hfailed⟩ : ∃ state,
      runPartial step (initial ["seller"])
        (createLabels ++ [.enqueue 0 {}, .enqueue 0 { now := 1 },
          .claim 0 "task-1" firstWorker 60 2, .execute 0 { now := 3 },
          .cancel 0, .execute 0 { now := 4 }]) = some state ∧
      Quiescent state ∧
      ∃ run ∈ state.database.runs.rows, run.status = .running ∧
        ∀ task ∈ state.database.tasks.rows, task.status = .failed := by
    refine ⟨_, rfl, ⟨fun call => by cases call <;> rfl,
      fun index => by cases index <;> rfl⟩, _, List.mem_singleton_self _, rfl, ?_⟩
    intro task htask
    rw [List.mem_singleton.mp htask]
    rfl
  obtain ⟨task, htask, -, hopen⟩ :=
    (hall _ _ state (run_ofPartial_iff.mpr hrun) hquiet).active run hmem
      (by rw [hrunning]; rfl)
  rw [hfailed task htask] at hopen
  rcases hopen with hstatus | hstatus <;> cases hstatus

end XianyuAdmin.OrderSync
