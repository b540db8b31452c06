import XianyuAdmin.Core.TableChanges
import XianyuAdmin.Products.RunProtocol

/-!
# What the calls of the protocol know of the rows

No transaction changes which run a task is for, or makes an ended run active; only a
claim counts an attempt, and a task that was claimed is not pending again unless it is
reset.  So the task of a run is claimed once, and a task that is known to be failed and
unclaimed stays so.
-/

namespace XianyuAdmin.Products

open XianyuAdmin.TaskStore
open XianyuAdmin.Transition
open Function

structure RunKept (row next : RunRow) : Prop where
  runId : next.runId = row.runId
  accountId : next.accountId = row.accountId
  active : next.status.isActive = true → row.status.isActive = true

theorem RunKept.refl (row : RunRow) : RunKept row row := ⟨rfl, rfl, id⟩

structure TaskKept (row next : BackgroundTask) : Prop where
  keys : SameKeys row next
  runId : taskRunId next = taskRunId row
  attempts : row.attemptCount ≤ next.attemptCount
  pending : next.status = .pending → row.status = .pending ∧
    next.attemptCount = row.attemptCount
  failed : row.status = .failed → next.status = .failed ∧
    next.attemptCount = row.attemptCount

theorem TaskKept.refl (row : BackgroundTask) : TaskKept row row :=
  ⟨⟨rfl, rfl⟩, rfl, le_rfl, fun hpending => ⟨hpending, rfl⟩, fun hfailed => ⟨hfailed, rfl⟩⟩

theorem runKept_apply (now : ℕ) (row : RunRow) (update : RunUpdate) :
    RunKept row (update.apply now row) := by
  cases update with
  | start =>
      have hstart : (row.toOperationRun.start now).accountId = row.accountId ∧
          ((row.toOperationRun.start now).status.isActive = true →
            row.status.isActive = true) := by
        unfold OperationRun.start
        split
        · rename_i hpending
          exact ⟨rfl, fun _ => by rw [hpending]; rfl⟩
        · exact ⟨rfl, id⟩
      exact ⟨runId_start _ _, hstart.1, hstart.2⟩
  | finish summary =>
      refine ⟨rfl, rfl, fun hactive => ?_⟩
      have hended := summary.2
      rw [show (RunUpdate.apply now row (.finish summary)).status = summary.1.status from rfl,
        hended] at hactive
      cases hactive

theorem taskKept_finishClaimed {worker : String} {status : TaskStatus} {result : Option Json}
    {error : Option String} {now : ℕ} {row next : BackgroundTask}
    (hfinal : status.isFinal = true)
    (hfinish : finishClaimedTask worker status result error now row = some next) :
    TaskKept row next := by
  obtain ⟨⟨hrunning, -⟩, hstatus, -, hattempts⟩ := finishClaimed_eq_some hfinish
  have hrunId : taskRunId next = taskRunId row := by
    unfold finishClaimedTask at hfinish
    split at hfinish
    · cases hfinish
      rfl
    · cases hfinish
  refine ⟨sameKeys_of_finishClaimed hfinish, hrunId, hattempts.ge, ?_, ?_⟩
  · intro hpending
    rw [← hstatus, hpending] at hfinal
    cases hfinal
  · intro hfailed
    rw [hrunning] at hfailed
    cases hfailed

theorem taskKept_apply {now : ℕ} {row next : BackgroundTask} {update : TaskUpdate}
    (hreset : update = .reset → row.status ≠ .failed)
    (hupdate : update.apply now row = some next) : TaskKept row next := by
  cases update with
  | markQueued =>
      obtain ⟨-, hstatus, -, hattempts⟩ := markQueued_eq_some hupdate
      refine ⟨sameKeys_of_markQueued hupdate, ?_, hattempts.ge, ?_, ?_⟩
      · simp only [TaskUpdate.apply, markBackgroundTaskQueued] at hupdate
        split at hupdate
        · cases hupdate
          rfl
        · cases hupdate
      · exact fun hpending => ⟨hstatus ▸ hpending, hattempts⟩
      · exact fun hfailed => ⟨hstatus.trans hfailed, hattempts⟩
  | fail error =>
      cases hupdate
      exact ⟨⟨rfl, rfl⟩, rfl, le_rfl, nofun, fun _ => ⟨rfl, rfl⟩⟩
  | claim worker leaseSeconds =>
      obtain ⟨hpending, -, hstatus, -, hattempts⟩ := claim_eq_some hupdate
      refine ⟨sameKeys_of_claim hupdate, ?_, by omega, ?_, ?_⟩
      · simp only [TaskUpdate.apply, claimBackgroundTask] at hupdate
        split at hupdate
        · cases hupdate
          rfl
        · cases hupdate
      · intro hnext
        rw [hstatus] at hnext
        cases hnext
      · intro hfailed
        rw [hpending] at hfailed
        cases hfailed
  | renew worker leaseSeconds =>
      obtain ⟨-, hstatus, -, hattempts⟩ := renew_eq_some hupdate
      refine ⟨sameKeys_of_renew hupdate, ?_, hattempts.ge, ?_, ?_⟩
      · simp only [TaskUpdate.apply, renewBackgroundTaskLease] at hupdate
        split at hupdate
        · cases hupdate
          rfl
        · cases hupdate
      · exact fun hpending => ⟨hstatus ▸ hpending, hattempts⟩
      · exact fun hfailed => ⟨hstatus.trans hfailed, hattempts⟩
  | finish worker outcome =>
      cases outcome with
      | success result => exact taskKept_finishClaimed rfl hupdate
      | failed error => exact taskKept_finishClaimed rfl hupdate
  | reset => exact absurd (reset_eq_some hupdate).1 (hreset rfl)

theorem taskKept_failStale {now : Option ℕ} {clock : ℕ} {row next : BackgroundTask}
    (hfail : failStaleBackgroundTask now clock row = some next) : TaskKept row next := by
  obtain ⟨hrunning, -, hstatus, -, hattempts⟩ := failStale_eq_some hfail
  refine ⟨sameKeys_of_failStale hfail, ?_, hattempts.ge, ?_, ?_⟩
  · simp only [failStaleBackgroundTask] at hfail
    split at hfail
    · cases hfail
      rfl
    · cases hfail
  · intro hpending
    rw [hstatus] at hpending
    cases hpending
  · intro hfailed
    rw [hrunning] at hfailed
    cases hfailed

namespace RunDatabase

def HasRun (database : RunDatabase) (runId accountId : String) : Prop :=
  ∃ row ∈ database.runs.rows, row.runId = runId ∧ row.accountId = accountId

def HasTask (database : RunDatabase) (runId taskId : String) : Prop :=
  ∃ row ∈ database.tasks.rows, row.taskId = taskId ∧ row.dedupeKey = some (runDedupeKey runId)

def Claimed (database : RunDatabase) (runId : String) : Prop :=
  ∃ row ∈ database.tasks.rows, row.dedupeKey = some (runDedupeKey runId) ∧ 0 < row.attemptCount

def Dismissed (database : RunDatabase) (runId : String) : Prop :=
  ∃ row ∈ database.tasks.rows, row.dedupeKey = some (runDedupeKey runId) ∧
    row.status = .failed ∧ row.attemptCount = 0

/-- The database after a call's transaction, if it has one. -/
def after (database : RunDatabase) (write : Option RunWrite) : Option RunDatabase :=
  write.elim (some database) database.apply

end RunDatabase

/-- A task is inserted for a run that is stored, and no failed task is reset. -/
def RunWrite.Fits (database : RunDatabase) : RunWrite → Prop
  | .insertTask row => ∃ request runId taskId now,
      row = newTask (runTaskRequest request runId) taskId now ∧
        database.HasRun runId request.accountId
  | .updateTask taskId _ .reset => ∀ row ∈ database.tasks.rows, row.taskId = taskId →
      row.status ≠ .failed
  | _ => True

structure RunDatabase.Grows (write : Option RunWrite) (before after : RunDatabase) : Prop where
  accounts : after.accounts = before.accounts
  runs : before.runs.Follows RunKept (fun row => write = some (.insertRun row)) after.runs
  tasks : before.tasks.Follows TaskKept (fun row => write = some (.insertTask row)) after.tasks

variable {database changed : RunDatabase}

theorem grows_of_after {write : Option RunWrite} (hfits : ∀ made ∈ write, made.Fits database)
    (hafter : database.after write = some changed) : RunDatabase.Grows write database changed := by
  have hruns : ∀ isNew, database.runs.Follows RunKept isNew database.runs := fun _ =>
    .refl RunKept.refl database.runs
  have htasks : ∀ isNew, database.tasks.Follows TaskKept isNew database.tasks := fun _ =>
    .refl TaskKept.refl database.tasks
  cases write with
  | none =>
      cases hafter
      exact ⟨rfl, hruns _, htasks _⟩
  | some made =>
      cases made with
      | insertRun row =>
          simp only [RunDatabase.after, Option.elim_some, RunDatabase.apply] at hafter
          split at hafter
          · obtain ⟨runs, hinsert, rfl⟩ := Option.map_eq_some_iff.mp hafter
            exact ⟨rfl, Table.follows_insert? RunKept.refl rfl hinsert, htasks _⟩
          · cases hafter
      | updateRun runId now update =>
          cases hafter
          refine ⟨rfl, Table.follows_map rfl fun row _ => ?_, htasks _⟩
          split
          · exact runKept_apply now row update
          · exact RunKept.refl row
      | insertTask row =>
          obtain ⟨tasks, hinsert, rfl⟩ := Option.map_eq_some_iff.mp hafter
          exact ⟨rfl, hruns _, Table.follows_insert? TaskKept.refl rfl hinsert⟩
      | updateTask taskId now update =>
          cases hafter
          refine ⟨rfl, hruns _, Table.follows_write rfl TaskKept.refl fun row hrow next hnext => ?_⟩
          obtain ⟨hid, hupdate⟩ := onTask_eq_some.mp hnext
          refine taskKept_apply ?_ hupdate
          rintro rfl
          exact hfits _ rfl row hrow hid
      | sweepTasks now clock =>
          cases hafter
          exact ⟨rfl, hruns _,
            Table.follows_write rfl TaskKept.refl fun row _ next hnext => taskKept_failStale hnext⟩

variable {write : Option RunWrite}

variable {runId : String} {enqueuer : Enqueuer} {reply : Reply} {point : ExecutionPoint}

theorem RunDatabase.Grows.hasRun (hgrows : RunDatabase.Grows write database changed)
    {accountId : String} (hrun : database.HasRun runId accountId) :
    changed.HasRun runId accountId := by
  obtain ⟨row, hrow, hid, haccount⟩ := hrun
  obtain ⟨next, hnext, hkept⟩ := hgrows.runs.kept row hrow
  exact ⟨next, hnext, hkept.runId.trans hid, hkept.accountId.trans haccount⟩

theorem RunDatabase.Grows.hasTask (hgrows : RunDatabase.Grows write database changed)
    {taskId : String} (htask : database.HasTask runId taskId) :
    changed.HasTask runId taskId := by
  obtain ⟨row, hrow, hid, hkey⟩ := htask
  obtain ⟨next, hnext, hkept⟩ := hgrows.tasks.kept row hrow
  exact ⟨next, hnext, hkept.keys.1.trans hid, hkept.keys.2.trans hkey⟩

theorem RunDatabase.Grows.claimed (hgrows : RunDatabase.Grows write database changed)
    (hclaimed : database.Claimed runId) : changed.Claimed runId := by
  obtain ⟨row, hrow, hkey, hattempts⟩ := hclaimed
  obtain ⟨next, hnext, hkept⟩ := hgrows.tasks.kept row hrow
  exact ⟨next, hnext, hkept.keys.2.trans hkey, hattempts.trans_le hkept.attempts⟩

theorem RunDatabase.Grows.dismissed (hgrows : RunDatabase.Grows write database changed)
    (hdismissed : database.Dismissed runId) : changed.Dismissed runId := by
  obtain ⟨row, hrow, hkey, hfailed, hattempts⟩ := hdismissed
  obtain ⟨next, hnext, hkept⟩ := hgrows.tasks.kept row hrow
  obtain ⟨hnextFailed, hnextAttempts⟩ := hkept.failed hfailed
  exact ⟨next, hnext, hkept.keys.2.trans hkey, hnextFailed, hnextAttempts.trans hattempts⟩

theorem task_eq_of_dedupeKey {left right : BackgroundTask} (hleft : left ∈ database.tasks.rows)
    (hright : right ∈ database.tasks.rows) (hleftKey : left.dedupeKey = some (runDedupeKey runId))
    (hrightKey : right.dedupeKey = some (runDedupeKey runId)) : left = right :=
  Table.eq_of_key hleft hright (dedupeKey_mem_taskKeys.mpr hleftKey)
    (dedupeKey_mem_taskKeys.mpr hrightKey)

theorem RunDatabase.Dismissed.not_claimed (hdismissed : database.Dismissed runId) :
    ¬ database.Claimed runId := by
  rintro ⟨right, hright, hrightKey, hpos⟩
  obtain ⟨left, hleft, hleftKey, -, hzero⟩ := hdismissed
  rw [task_eq_of_dedupeKey hleft hright hleftKey hrightKey] at hzero
  omega

structure RunsStored (database : RunDatabase) : Prop where
  accounts : ∀ run ∈ database.runs.rows, run.accountId ∈ database.accounts
  taskRuns : ∀ task ∈ database.tasks.rows, ∃ run ∈ database.runs.rows,
    task.dedupeKey = some (runDedupeKey run.runId) ∧ taskRunId task = some run.runId
  unclaimed : ∀ task ∈ database.tasks.rows, task.status = .pending → task.attemptCount = 0

theorem taskRunId_newTask (request : RunRequest) (runId taskId : String) (now : ℕ) :
    taskRunId (newTask (runTaskRequest request runId) taskId now) = some runId := by
  simp only [taskRunId, newTask, runTaskRequest]
  by_cases hempty : request.accountId = ""
  · simp [hempty, Python.orElse, Python.truthy, Json.asObject, Json.get, Json.asString?]
  · simp [hempty, Python.orElse, Python.truthy, Json.asObject, Json.get, Json.asString?]

theorem RunsStored.commit (hstored : RunsStored database) (hfits : ∀ made ∈ write, made.Fits database)
    (hafter : database.after write = some changed) : RunsStored changed := by
  have hgrows := grows_of_after hfits hafter
  refine ⟨?_, ?_, ?_⟩
  · intro run hrun
    rw [hgrows.accounts]
    rcases hgrows.runs.origin run hrun with ⟨row, hrow, hkept⟩ | rfl
    · rw [hkept.accountId]
      exact hstored.accounts row hrow
    · simp only [RunDatabase.after, Option.elim_some, RunDatabase.apply] at hafter
      split at hafter
      · assumption
      · cases hafter
  · intro task htask
    rcases hgrows.tasks.origin task htask with ⟨row, hrow, hkept⟩ | rfl
    · obtain ⟨run, hrun, hkey, hid⟩ := hstored.taskRuns row hrow
      obtain ⟨next, hnext, hrunKept⟩ := hgrows.runs.kept run hrun
      refine ⟨next, hnext, ?_, ?_⟩
      · rw [hkept.keys.2, hkey, hrunKept.runId]
      · rw [hkept.runId, hid, hrunKept.runId]
    · obtain ⟨request, runId, taskId, now, rfl, hrun⟩ := hfits _ rfl
      obtain ⟨run, hmem, hid, -⟩ := hgrows.hasRun hrun
      refine ⟨run, hmem, ?_, ?_⟩
      · rw [hid]
        rfl
      · rw [taskRunId_newTask, hid]
  · intro task htask hpending
    rcases hgrows.tasks.origin task htask with ⟨row, hrow, hkept⟩ | rfl
    · obtain ⟨hwasPending, hattempts⟩ := hkept.pending hpending
      exact hattempts.trans (hstored.unclaimed row hrow hwasPending)
    · obtain ⟨request, runId, taskId, now, rfl, -⟩ := hfits _ rfl
      rfl

def Enqueuer.Sound (database : RunDatabase) : Enqueuer → Prop
  | .checkRun _ | .insertRun _ => True
  | .checkTask request run | .insertTask request run =>
      database.HasRun run.runId request.accountId
  | .push _ run task | .markQueued _ run task | .failTask _ run task _ =>
      database.HasTask run.runId task.taskId
  | .failRun _ run _ => database.Dismissed run.runId

def ExecutionPoint.runId? : ExecutionPoint → Option String
  | .startRun runId => some runId
  | .getAccount run | .acquireLock run | .operating run | .finishing run _ | .merging run _
  | .mergingError run _ _ | .failSync run _ _ _ | .failRun run _ _ _ => some run.runId
  | .returned _ | .finish _ => none

def RunCall.Sound (database : RunDatabase) (claims : List String) : RunCall → Prop
  | .enqueuing enqueuer => enqueuer.Sound database
  | .executing execution =>
      (∀ runId, execution.point.runId? = some runId → runId ∈ claims) ∧
        ∀ run, execution.point = .getAccount run → run.accountId ∈ database.accounts

theorem Enqueuer.Sound.grows (hsound : enqueuer.Sound database)
    (hgrows : RunDatabase.Grows write database changed) : enqueuer.Sound changed := by
  cases enqueuer with
  | checkRun | insertRun => trivial
  | checkTask | insertTask => exact hgrows.hasRun hsound
  | push | markQueued | failTask => exact hgrows.hasTask hsound
  | failRun => exact hgrows.dismissed hsound

theorem RunCall.Sound.grows {call : RunCall} {claims claimed : List String}
    (hsound : call.Sound database claims) (hgrows : RunDatabase.Grows write database changed)
    (hclaims : claims ⊆ claimed) : call.Sound changed claimed := by
  cases call with
  | enqueuing enqueuer => exact Enqueuer.Sound.grows hsound hgrows
  | executing execution =>
      refine ⟨fun runId hrun => hclaims (hsound.1 runId hrun), fun run hrun => ?_⟩
      rw [hgrows.accounts]
      exact hsound.2 run hrun

def RunCall.FailsUnclaimed (database : RunDatabase) : RunCall → Prop
  | .enqueuing (.failTask _ _ task _) => ∀ row ∈ database.tasks.rows,
      row.taskId = task.taskId → row.attemptCount = 0
  | _ => True

theorem pushIfPending_eq_some {request : RunRequest} {run : RunRow} {task : BackgroundTask}
    {next : Enqueuer} (hnext : pushIfPending request run task = some next) :
    next = .push request run task := by
  unfold pushIfPending at hnext
  split at hnext
  · exact (Option.some.inj hnext).symm
  · cases hnext

theorem Enqueuer.fits_turn (hsound : enqueuer.Sound database) (reply : Reply) :
    ∀ made ∈ (enqueueTurn database reply enqueuer).1, made.Fits database := by
  intro made hmade
  cases enqueuer with
  | checkRun request =>
      simp only [enqueueTurn] at hmade
      split at hmade
      · cases hmade
      · split at hmade <;> cases hmade
  | insertRun request =>
      cases hmade
      trivial
  | checkTask request run =>
      simp only [enqueueTurn] at hmade
      split at hmade
      · cases hmade
      · split at hmade <;> cases hmade
  | insertTask request run =>
      cases hmade
      exact ⟨_, _, _, _, rfl, hsound⟩
  | push request run task =>
      simp only [enqueueTurn] at hmade
      split at hmade <;> cases hmade
  | markQueued request run task =>
      simp only [enqueueTurn, Reply.commits] at hmade
      split at hmade <;> cases hmade
      trivial
  | failTask request run task error =>
      cases hmade
      trivial
  | failRun request run error =>
      cases hmade
      trivial

theorem mem_of_activeRun {request : RunRequest} {active : RunRow}
    (hactive : database.activeRun request = some active) :
    active ∈ database.runs.rows ∧ active.accountId = request.accountId ∧
      active.status.isActive = true := by
  obtain ⟨hmem, hmeets⟩ := List.mem_filter.mp (List.argmax_mem hactive)
  simp only [Bool.and_eq_true, decide_eq_true_eq] at hmeets
  exact ⟨hmem, hmeets.1.1, hmeets.2⟩

theorem Enqueuer.sound_turn {next : Enqueuer} (hsound : enqueuer.Sound database)
    (hunclaimed : (RunCall.enqueuing enqueuer).FailsUnclaimed database)
    (hafter : database.after (enqueueTurn database reply enqueuer).1 = some changed)
    (hnext : (enqueueTurn database reply enqueuer).2 = some next) : next.Sound changed := by
  have hgrows := grows_of_after (Enqueuer.fits_turn hsound reply) hafter
  cases enqueuer with
  | checkRun request =>
      simp only [enqueueTurn] at hafter hnext
      split at hnext
      · cases hnext
        trivial
      · rename_i active hactive
        split at hnext
        · cases hnext
          obtain ⟨hmem, haccount, -⟩ := mem_of_activeRun hactive
          exact hgrows.hasRun ⟨active, hmem, rfl, haccount⟩
        · cases hnext
          trivial
  | insertRun request =>
      cases hnext
      simp only [enqueueTurn, RunDatabase.after, Option.elim_some, RunDatabase.apply] at hafter
      split at hafter
      · obtain ⟨runs, hinsert, rfl⟩ := Option.map_eq_some_iff.mp hafter
        refine ⟨_, ?_, rfl, rfl⟩
        show _ ∈ Table.rows _
        rw [Table.rows_of_insert? hinsert]
        exact List.mem_append_right _ (List.mem_singleton_self _)
      · cases hafter
  | checkTask request run =>
      simp only [enqueueTurn] at hafter hnext
      split at hnext
      · cases hnext
      · split at hnext
        · rename_i task htask
          obtain ⟨hmem, hkey⟩ := Table.lookup_eq_some_iff.mp htask
          rw [pushIfPending_eq_some hnext]
          exact hgrows.hasTask ⟨task, hmem, rfl, dedupeKey_mem_taskKeys.mp hkey⟩
        · cases hnext
          exact hgrows.hasRun hsound
  | insertTask request run =>
      simp only [enqueueTurn] at hnext
      rw [pushIfPending_eq_some hnext]
      obtain ⟨tasks, hinsert, rfl⟩ := Option.map_eq_some_iff.mp hafter
      refine ⟨_, ?_, rfl, rfl⟩
      show _ ∈ Table.rows _
      rw [Table.rows_of_insert? hinsert]
      exact List.mem_append_right _ (List.mem_singleton_self _)
  | push request run task =>
      have hknown := hgrows.hasTask hsound
      simp only [enqueueTurn] at hnext
      split at hnext <;> cases hnext <;> exact hknown
  | markQueued request run task =>
      obtain ⟨raised, -, rfl⟩ := Option.map_eq_some_iff.mp hnext
      exact hgrows.hasTask hsound
  | failTask request run task error =>
      cases hnext
      cases hafter
      obtain ⟨row, hrow, hid, hkey⟩ := hsound
      have hwritten : onTask task.taskId (TaskUpdate.apply reply.now · (.fail error)) row =
          some (finishUnfencedTask .failed none (some error) reply.now row) :=
        onTask_eq_some.mpr ⟨hid, rfl⟩
      refine ⟨_, List.mem_map_of_mem hrow, ?_⟩
      rw [hwritten]
      exact ⟨hkey, rfl, hunclaimed row hrow hid⟩
  | failRun request run error => cases hnext

theorem ExecutionPoint.runId?_recordPoint (run : OperationRun) (uncertain reraises : Bool)
    (error : String) : (recordPoint run uncertain reraises error).runId? = some run.runId := by
  unfold recordPoint
  split <;> rfl

theorem ExecutionPoint.runId?_handlerOf (run : OperationRun) (raised : AwaitRaised) :
    (handlerOf run raised).runId? = some run.runId := by
  cases raised with
  | productOperation text uncertain => rfl
  | exception className text => exact ExecutionPoint.runId?_recordPoint run _ _ _

theorem runId?_executeTurn (hnext : (executeTurn database reply point).2.runId? = some runId) :
    point.runId? = some runId := by
  cases point with
  | startRun ownId =>
      simp only [executeTurn] at hnext
      split at hnext
      · cases hnext
      · cases hnext
      · rename_i row _ hlookup
        dsimp only at hnext
        split at hnext
        · have hid := (Table.lookup_eq_some_iff.mp hlookup).2
          rw [runRowKeys, List.mem_singleton] at hid
          rw [ExecutionPoint.runId?, runId_start, ← hid] at hnext
          exact hnext
        · cases hnext
  | getAccount run =>
      simp only [executeTurn] at hnext
      split at hnext
      · cases hnext
      · split at hnext
        · exact hnext
        · cases hnext
  | acquireLock run =>
      simp only [executeTurn] at hnext
      cases hraised : reply.raised with
      | none =>
          rw [hraised, Option.elim_none] at hnext
          exact hnext
      | some raised => simp [hraised, ExecutionPoint.runId?] at hnext
  | operating run =>
      simp only [executeTurn] at hnext
      cases hraised : reply.raised with
      | none =>
          rw [hraised, Option.elim_none] at hnext
          split at hnext <;> exact hnext
      | some raised =>
          rw [hraised, Option.elim_some, ExecutionPoint.runId?_handlerOf] at hnext
          exact hnext
  | finishing run summary =>
      simp only [executeTurn] at hnext
      cases hraised : reply.raised with
      | none =>
          rw [hraised, Option.elim_none] at hnext
          exact hnext
      | some raised =>
          rw [hraised, Option.elim_some, ExecutionPoint.runId?_handlerOf] at hnext
          exact hnext
  | merging run outcome =>
      simp only [executeTurn] at hnext
      cases hraised : reply.raised with
      | none =>
          rw [hraised, Option.elim_none] at hnext
          split at hnext
          · exact hnext
          · cases hnext
      | some raised =>
          rw [hraised, Option.elim_some, ExecutionPoint.runId?_handlerOf] at hnext
          exact hnext
  | mergingError run uncertain error =>
      simp only [executeTurn] at hnext
      cases hraised : reply.raised with
      | none =>
          rw [hraised, Option.elim_none, ExecutionPoint.runId?_recordPoint] at hnext
          exact hnext
      | some raised => simp [hraised, ExecutionPoint.runId?] at hnext
  | failSync run uncertain reraises error =>
      simp only [executeTurn] at hnext
      cases hraised : reply.raised with
      | none =>
          rw [hraised, Option.elim_none] at hnext
          exact hnext
      | some raised => simp [hraised, ExecutionPoint.runId?] at hnext
  | failRun run uncertain reraises error =>
      simp only [executeTurn] at hnext
      cases hraised : reply.raised <;> simp [hraised, ExecutionPoint.runId?] at hnext
  | returned outcome =>
      simp only [executeTurn] at hnext
      cases hraised : reply.raised with
      | none =>
          rw [hraised, Option.elim_none] at hnext
          split at hnext <;> cases hnext
      | some raised => simp [hraised, ExecutionPoint.runId?] at hnext
  | finish outcome => cases hnext

theorem accountId_executeTurn (hstored : RunsStored database) {run : OperationRun}
    (hnext : (executeTurn database reply point).2 = .getAccount run) :
    run.accountId ∈ database.accounts := by
  have hrecord : ∀ run' uncertain reraises error,
      recordPoint run' uncertain reraises error ≠ .getAccount run := by
    intro run' uncertain reraises error
    unfold recordPoint
    split <;> exact nofun
  have hhandler : ∀ run' raised, handlerOf run' raised ≠ .getAccount run := by
    intro run' raised
    cases raised with
    | productOperation text uncertain => exact nofun
    | exception className text => exact hrecord _ _ _ _
  cases point with
  | startRun ownId =>
      simp only [executeTurn] at hnext
      split at hnext
      · cases hnext
      · cases hnext
      · rename_i row _ hlookup
        dsimp only at hnext
        split at hnext
        · cases hnext
          have haccount : (row.toOperationRun.start reply.now).accountId = row.accountId :=
            (runKept_apply reply.now row .start).accountId
          rw [haccount]
          exact hstored.accounts row (Table.mem_of_lookup hlookup)
        · cases hnext
  | getAccount own =>
      simp only [executeTurn] at hnext
      split at hnext
      · cases hnext
      · split at hnext <;> cases hnext
  | mergingError own uncertain error =>
      simp only [executeTurn] at hnext
      cases hraised : reply.raised with
      | none => exact absurd (by simpa [hraised] using hnext) (hrecord own uncertain false error)
      | some raised => simp [hraised] at hnext
  | finishing own summary =>
      simp only [executeTurn] at hnext
      cases hraised : reply.raised with
      | none => simp [hraised] at hnext
      | some raised => exact absurd (by simpa [hraised] using hnext) (hhandler own raised)
  | operating own | merging own outcome =>
      simp only [executeTurn] at hnext
      cases hraised : reply.raised with
      | none =>
          rw [hraised, Option.elim_none] at hnext
          split at hnext <;> cases hnext
      | some raised => exact absurd (by simpa [hraised] using hnext) (hhandler own raised)
  | returned outcome =>
      simp only [executeTurn] at hnext
      cases hraised : reply.raised with
      | none =>
          rw [hraised, Option.elim_none] at hnext
          split at hnext <;> cases hnext
      | some raised => simp [hraised] at hnext
  | acquireLock own | failSync own uncertain reraises error
  | failRun own uncertain reraises error =>
      simp only [executeTurn] at hnext
      cases hraised : reply.raised <;> simp [hraised] at hnext
  | finish outcome => cases hnext

theorem updateRun_of_executeTurn {made : RunWrite}
    (hmade : made ∈ (executeTurn database reply point).1) :
    ∃ runId now update, made = .updateRun runId now update := by
  have hcommits : ∀ runId now update, made ∈ reply.commits (.updateRun runId now update) →
      ∃ runId now update, made = .updateRun runId now update := by
    intro runId now update hmade
    unfold Reply.commits at hmade
    split at hmade <;> cases hmade
    exact ⟨_, _, _, rfl⟩
  cases point with
  | startRun runId =>
      simp only [executeTurn] at hmade
      split at hmade <;> exact hcommits _ _ _ hmade
  | finishing run summary | failRun run uncertain reraises error => exact hcommits _ _ _ hmade
  | getAccount run =>
      simp only [executeTurn] at hmade
      split at hmade
      · cases hmade
      · split at hmade <;> cases hmade
  | acquireLock | operating | merging | mergingError | failSync | returned | finish =>
      cases hmade

end XianyuAdmin.Products
