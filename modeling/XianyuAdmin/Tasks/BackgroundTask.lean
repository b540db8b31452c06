import XianyuAdmin.Core.Json
import XianyuAdmin.Core.Table

/-!
# Background task rows

A task row is the source of truth for work that outlives a request: the API
inserts it, a worker claims it under a lease, renews the lease while it runs
and finishes it, and a sweeper fails rows whose lease ran out.  Each store
function below is one transaction on one row; it returns `none` when its
`WHERE` clause matches no row.
-/

namespace XianyuAdmin.TaskStore

open XianyuAdmin.Python

/-- The values of the `status` column. -/
inductive TaskStatus
  | pending
  | running
  | success
  | failed
  | cancelled
  deriving DecidableEq, Repr

/-- The status set accepted by `_finish_background_task_sync`; every other
string is stored as `failed`. -/
def normalizedStatus : String → TaskStatus
  | "pending" => .pending
  | "running" => .running
  | "success" => .success
  | "failed" => .failed
  | "cancelled" => .cancelled
  | _ => .failed

/-- The statuses that stamp `finished_at`. -/
def TaskStatus.isFinal : TaskStatus → Bool
  | .success | .failed | .cancelled => true
  | .pending | .running => false

/-- A row of `xianyu_background_tasks`; JSON columns hold the value that their
text decodes to. -/
structure BackgroundTask where
  taskId : String
  accountId : Option String
  taskType : String
  dedupeKey : Option String
  status : TaskStatus
  payload : Option Json
  result : Option Json
  error : Option String
  workerId : Option String
  leaseExpiresAt : Option ℕ
  runAfter : Option ℕ
  attemptCount : ℕ
  createdAt : ℕ
  updatedAt : ℕ
  queuedAt : Option ℕ
  startedAt : Option ℕ
  finishedAt : Option ℕ

/-- A worker id as `_new_worker_id` makes it: never the empty string, which
`_finish_background_task_sync` would take for a missing id. -/
abbrev WorkerId := {worker : String // worker ≠ ""}

structure CreatePayload where
  accountId : Option String
  taskType : String
  dedupeKey : Option String
  payload : Option Json
  runAfter : Option ℕ

/-- The row `_create_background_task_sync` inserts; `attempt_count` takes its
column default. -/
def newTask (request : CreatePayload) (taskId : String) (now : ℕ) :
    BackgroundTask where
  taskId := taskId
  accountId := request.accountId
  taskType := request.taskType
  dedupeKey := request.dedupeKey
  status := .pending
  payload := request.payload
  result := none
  error := none
  workerId := none
  leaseExpiresAt := none
  runAfter := request.runAfter
  attemptCount := 0
  createdAt := now
  updatedAt := now
  queuedAt := none
  startedAt := none
  finishedAt := none

/-- `max(1, min(int(lease_seconds), 900))`. -/
def boundedLeaseSeconds (leaseSeconds : ℤ) : ℕ :=
  (max 1 (min leaseSeconds 900)).toNat

/-- `run_after IS NULL OR run_after <= now`. -/
def isDue (now : ℕ) (row : BackgroundTask) : Bool :=
  match row.runAfter with
  | none => true
  | some runAfter => runAfter ≤ now

def claimBackgroundTask (workerId : Option String) (leaseSeconds : ℤ)
    (now : ℕ) (row : BackgroundTask) : Option BackgroundTask :=
  if row.status = .pending ∧ isDue now row then
    some
      { row with
        status := .running
        error := none
        workerId := workerId
        leaseExpiresAt :=
          if truthy workerId then
            some (now + seconds (boundedLeaseSeconds leaseSeconds))
          else none
        attemptCount := row.attemptCount + 1
        startedAt := some now
        updatedAt := now }
  else none

def renewBackgroundTaskLease (workerId : String) (leaseSeconds : ℤ)
    (now : ℕ) (row : BackgroundTask) : Option BackgroundTask :=
  if row.status = .running ∧ row.workerId = some workerId then
    some
      { row with
        leaseExpiresAt := some (now + seconds (boundedLeaseSeconds leaseSeconds))
        updatedAt := now }
  else none

/-- `status = 'running' AND lease_expires_at IS NOT NULL AND
lease_expires_at <= checked_at`. -/
def isStale (checkedAt : ℕ) (row : BackgroundTask) : Bool :=
  match row.leaseExpiresAt with
  | none => false
  | some leaseExpiresAt => row.status = .running ∧ leaseExpiresAt ≤ checkedAt

/-- `_fail_stale_background_tasks_sync` as it acts on one row; `now` defaults
to the clock. -/
def failStaleBackgroundTask (now : Option ℕ) (clock : ℕ)
    (row : BackgroundTask) : Option BackgroundTask :=
  let checkedAt := now.getD clock
  if isStale checkedAt row then
    some
      { row with
        status := .failed
        result := none
        error := some
          "worker lease expired; external result is uncertain and was not replayed"
        leaseExpiresAt := none
        finishedAt := some checkedAt
        updatedAt := checkedAt }
  else none

/-- `_finish_background_task_sync` called with a worker id: an update fenced by
the status and the worker id. -/
def finishClaimedTask (workerId : String) (status : TaskStatus)
    (result : Option Json) (error : Option String) (now : ℕ) (row : BackgroundTask) :
    Option BackgroundTask :=
  if row.status = .running ∧ row.workerId = some workerId then
    some
      { row with
        status := status
        result := result
        error := error
        updatedAt := now
        leaseExpiresAt := none
        startedAt := if status = .pending then none else row.startedAt
        finishedAt :=
          if status.isFinal then some now
          else if status = .pending then none
          else row.finishedAt
        workerId := if status = .pending then none else row.workerId }
  else none

/-- `_finish_background_task_sync` called without a worker id: the row is
loaded and written whatever its status. -/
def finishUnfencedTask (status : TaskStatus) (result : Option Json) (error : Option String)
    (now : ℕ) (row : BackgroundTask) : BackgroundTask :=
  { row with
    status := status
    result := result
    error := error
    updatedAt := now
    leaseExpiresAt :=
      if status.isFinal ∨ status = .pending then none else row.leaseExpiresAt
    startedAt := if status = .pending then none else row.startedAt
    finishedAt :=
      if status.isFinal then some now
      else if status = .pending then none
      else row.finishedAt
    workerId := if status = .pending then none else row.workerId }

/-- `_finish_background_task_sync`: the truth value of the worker id selects
the branch. -/
def finishBackgroundTask (status : String) (result : Option Json) (error : Option String)
    (workerId : Option String) (now : ℕ) (row : BackgroundTask) :
    Option BackgroundTask :=
  match workerId with
  | none => some (finishUnfencedTask (normalizedStatus status) result error now row)
  | some worker =>
      if worker = "" then
        some (finishUnfencedTask (normalizedStatus status) result error now row)
      else
        finishClaimedTask worker (normalizedStatus status) result error now row

/-- `_reset_background_task_for_retry_sync`; `none` when the row is not
`failed` and stays as it is. -/
def resetBackgroundTaskForRetry (now : ℕ) (row : BackgroundTask) :
    Option BackgroundTask :=
  if row.status = .failed then
    some
      { row with
        status := .pending
        error := none
        result := none
        queuedAt := none
        startedAt := none
        finishedAt := none
        workerId := none
        leaseExpiresAt := none
        updatedAt := now }
  else none

def markBackgroundTaskQueued (now : ℕ) (row : BackgroundTask) :
    Option BackgroundTask :=
  if row.status = .pending ∧ row.queuedAt = none then
    some { row with queuedAt := some now, updatedAt := now }
  else none

/-- The unique indexes: the primary key and `uq_xianyu_background_tasks_dedupe`. -/
inductive TaskKey
  | taskId (taskId : String)
  | dedupeKey (dedupeKey : String)
  deriving DecidableEq

def taskKeys (row : BackgroundTask) : List TaskKey :=
  .taskId row.taskId :: row.dedupeKey.toList.map .dedupeKey

abbrev TaskTable := Table BackgroundTask taskKeys

variable {row : BackgroundTask} {leaseSeconds : ℤ} {now : ℕ} {workerId : String}

theorem taskId_mem_taskKeys {taskId : String} :
    .taskId taskId ∈ taskKeys row ↔ row.taskId = taskId := by
  simp [taskKeys, eq_comm]

theorem dedupeKey_mem_taskKeys {dedupeKey : String} :
    .dedupeKey dedupeKey ∈ taskKeys row ↔ row.dedupeKey = some dedupeKey := by
  simp [taskKeys]

def SameKeys (row next : BackgroundTask) : Prop :=
  next.taskId = row.taskId ∧ next.dedupeKey = row.dedupeKey

theorem SameKeys.taskKeys_eq {next : BackgroundTask} (hsame : SameKeys row next) :
    taskKeys next = taskKeys row := by
  rw [taskKeys, taskKeys, hsame.1, hsame.2]

def onTask (taskId : String)
    (transaction : BackgroundTask → Option BackgroundTask)
    (row : BackgroundTask) : Option BackgroundTask :=
  if row.taskId = taskId then transaction row else none

theorem onTask_eq_some {taskId : String} {transaction : BackgroundTask → Option BackgroundTask}
    {next : BackgroundTask} :
    onTask taskId transaction row = some next ↔
      row.taskId = taskId ∧ transaction row = some next := by
  simp [onTask]

/-- The row is claimed by `workerId`: the guard shared by the fenced updates. -/
def OwnedBy (workerId : String) (row : BackgroundTask) : Prop :=
  row.status = .running ∧ row.workerId = some workerId

instance (workerId : String) (row : BackgroundTask) :
    Decidable (OwnedBy workerId row) :=
  inferInstanceAs (Decidable (_ ∧ _))

theorem claim_eq_some {workerId : Option String} {claimed : BackgroundTask}
    (hclaim : claimBackgroundTask workerId leaseSeconds now row = some claimed) :
    row.status = .pending ∧ isDue now row ∧ claimed.status = .running ∧
      claimed.workerId = workerId ∧
      claimed.attemptCount = row.attemptCount + 1 := by
  unfold claimBackgroundTask at hclaim
  split at hclaim <;> rename_i hguard
  · obtain rfl := Option.some.inj hclaim
    exact ⟨hguard.1, hguard.2, rfl, rfl, rfl⟩
  · cases hclaim

theorem sameKeys_of_claim {workerId : Option String} {claimed : BackgroundTask}
    (hclaim : claimBackgroundTask workerId leaseSeconds now row = some claimed) :
    SameKeys row claimed := by
  unfold claimBackgroundTask at hclaim
  split at hclaim
  · obtain rfl := Option.some.inj hclaim
    exact ⟨rfl, rfl⟩
  · cases hclaim

theorem renew_eq_some {renewed : BackgroundTask}
    (hrenew : renewBackgroundTaskLease workerId leaseSeconds now row = some renewed) :
    OwnedBy workerId row ∧ renewed.status = row.status ∧
      renewed.workerId = row.workerId ∧
      renewed.attemptCount = row.attemptCount := by
  unfold renewBackgroundTaskLease at hrenew
  split at hrenew <;> rename_i hguard
  · obtain rfl := Option.some.inj hrenew
    exact ⟨hguard, rfl, rfl, rfl⟩
  · cases hrenew

theorem sameKeys_of_renew {renewed : BackgroundTask}
    (hrenew : renewBackgroundTaskLease workerId leaseSeconds now row = some renewed) :
    SameKeys row renewed := by
  unfold renewBackgroundTaskLease at hrenew
  split at hrenew
  · obtain rfl := Option.some.inj hrenew
    exact ⟨rfl, rfl⟩
  · cases hrenew

theorem sameKeys_of_failStale {now : Option ℕ} {clock : ℕ} {failed : BackgroundTask}
    (hfail : failStaleBackgroundTask now clock row = some failed) :
    SameKeys row failed := by
  simp only [failStaleBackgroundTask] at hfail
  split at hfail
  · obtain rfl := Option.some.inj hfail
    exact ⟨rfl, rfl⟩
  · cases hfail

theorem taskKeys_of_failStale (now : Option ℕ) (clock : ℕ) (row failed : BackgroundTask)
    (hfail : failStaleBackgroundTask now clock row = some failed) :
    taskKeys failed = taskKeys row :=
  (sameKeys_of_failStale hfail).taskKeys_eq

theorem failStale_eq_some {now : Option ℕ} {clock : ℕ} {failed : BackgroundTask}
    (hfail : failStaleBackgroundTask now clock row = some failed) :
    row.status = .running ∧
      (∃ lease, row.leaseExpiresAt = some lease ∧ lease ≤ now.getD clock) ∧
      failed.status = .failed ∧ failed.workerId = row.workerId ∧
      failed.attemptCount = row.attemptCount := by
  simp only [failStaleBackgroundTask] at hfail
  split at hfail <;> rename_i hstale
  · obtain rfl := Option.some.inj hfail
    cases hlease : row.leaseExpiresAt with
    | none => simp [isStale, hlease] at hstale
    | some lease =>
        simp only [isStale, hlease, decide_eq_true_eq] at hstale
        exact ⟨hstale.1, ⟨lease, rfl, hstale.2⟩, rfl, rfl, rfl⟩
  · cases hfail

theorem finishClaimed_eq_some {status : TaskStatus} {result : Option Json} {error : Option String}
    {finished : BackgroundTask}
    (hfinish : finishClaimedTask workerId status result error now row = some finished) :
    OwnedBy workerId row ∧ finished.status = status ∧
      finished.workerId = (if status = .pending then none else row.workerId) ∧
      finished.attemptCount = row.attemptCount := by
  unfold finishClaimedTask at hfinish
  split at hfinish <;> rename_i hguard
  · obtain rfl := Option.some.inj hfinish
    exact ⟨hguard, rfl, rfl, rfl⟩
  · cases hfinish

theorem sameKeys_of_finishClaimed {status : TaskStatus} {result : Option Json}
    {error : Option String} {finished : BackgroundTask}
    (hfinish : finishClaimedTask workerId status result error now row = some finished) :
    SameKeys row finished := by
  unfold finishClaimedTask at hfinish
  split at hfinish
  · obtain rfl := Option.some.inj hfinish
    exact ⟨rfl, rfl⟩
  · cases hfinish

theorem sameKeys_finishUnfenced (status : TaskStatus) (result : Option Json)
    (error : Option String) (now : ℕ) (row : BackgroundTask) :
    SameKeys row (finishUnfencedTask status result error now row) := ⟨rfl, rfl⟩

theorem markQueued_eq_some {queued : BackgroundTask}
    (hqueued : markBackgroundTaskQueued now row = some queued) :
    row.status = .pending ∧ queued.status = row.status ∧
      queued.workerId = row.workerId ∧
      queued.attemptCount = row.attemptCount := by
  unfold markBackgroundTaskQueued at hqueued
  split at hqueued <;> rename_i hguard
  · obtain rfl := Option.some.inj hqueued
    exact ⟨hguard.1, rfl, rfl, rfl⟩
  · cases hqueued

theorem sameKeys_of_markQueued {queued : BackgroundTask}
    (hqueued : markBackgroundTaskQueued now row = some queued) :
    SameKeys row queued := by
  unfold markBackgroundTaskQueued at hqueued
  split at hqueued
  · obtain rfl := Option.some.inj hqueued
    exact ⟨rfl, rfl⟩
  · cases hqueued

theorem reset_eq_some {reset : BackgroundTask}
    (hreset : resetBackgroundTaskForRetry now row = some reset) :
    row.status = .failed ∧ reset.status = .pending ∧
      reset.workerId = none ∧ reset.attemptCount = row.attemptCount := by
  unfold resetBackgroundTaskForRetry at hreset
  split at hreset <;> rename_i hguard
  · obtain rfl := Option.some.inj hreset
    exact ⟨hguard, rfl, rfl, rfl⟩
  · cases hreset

end XianyuAdmin.TaskStore
