import XianyuAdmin.Tasks.LeaseFencing

/-!
# Creating background tasks

`create_background_task` takes a validated request.  It returns the row that
already has the request's dedupe key, or inserts a pending row.  No later
transaction on the row changes what was requested.
-/

namespace XianyuAdmin.TaskStore

open XianyuAdmin.Python
open XianyuAdmin.LeaseFencing

def normalizeString (value : Option String) : Option String :=
  value.bind stripOrNone

/-- The bounds on the columns of `BackgroundTaskCreatePayload`. -/
def CreatePayload.InBounds (request : CreatePayload) : Prop :=
  (∀ accountId ∈ request.accountId, accountId.length ≤ 64) ∧
    request.taskType.length ≤ 120 ∧
    ∀ dedupeKey ∈ request.dedupeKey, 8 ≤ dedupeKey.length ∧ dedupeKey.length ≤ 160

instance (request : CreatePayload) : Decidable request.InBounds :=
  inferInstanceAs (Decidable (_ ∧ _))

/-- The constructor of `BackgroundTaskCreatePayload`; `none` is a
`ValidationError`. -/
def CreatePayload.validate (request : CreatePayload) : Option CreatePayload :=
  match stripOrNone request.taskType with
  | none => none
  | some taskType =>
      let normalized :=
        { request with
          accountId := normalizeString request.accountId
          taskType := taskType
          dedupeKey := normalizeString request.dedupeKey }
      if normalized.InBounds then some normalized else none

/-- What `_create_background_task_sync` returns, with the table it leaves. -/
inductive Creation
  /-- `None`: the account does not exist. -/
  | missingAccount
  | existing (row : BackgroundTask)
  | inserted (row : BackgroundTask) (tasks : TaskTable)
  /-- The `IntegrityError` of the commit. -/
  | collision

def existingTask (request : CreatePayload) (tasks : TaskTable) : Option BackgroundTask :=
  if truthy request.dedupeKey then
    request.dedupeKey.bind fun dedupeKey => tasks.lookup (.dedupeKey dedupeKey)
  else none

def createBackgroundTask (accounts : List String) (request : CreatePayload)
    (taskId : String) (now : ℕ) (tasks : TaskTable) : Creation :=
  if truthy request.accountId ∧ ∀ accountId ∈ request.accountId, accountId ∉ accounts then
    .missingAccount
  else
    match existingTask request tasks with
    | some row => .existing row
    | none =>
        let row := newTask request taskId now
        match tasks.insert? row with
        | some tasks => .inserted row tasks
        | none => .collision

variable {taskId : String} {tasks : TaskTable}

theorem inserted_of_create {accounts : List String} {request : CreatePayload} {now : ℕ}
    {next : TaskTable} {row : BackgroundTask}
    (hcreate : createBackgroundTask accounts request taskId now tasks = .inserted row next) :
    row = newTask request taskId now ∧ next.rows = tasks.rows ++ [row] := by
  simp only [createBackgroundTask] at hcreate
  split at hcreate
  · cases hcreate
  · split at hcreate
    · cases hcreate
    · split at hcreate
      · rename_i hinsert
        cases hcreate
        exact ⟨rfl, Table.rows_of_insert? hinsert⟩
      · cases hcreate

theorem create_cases {accounts : List String} {request : CreatePayload} (now : ℕ)
    (haccount : ∀ accountId ∈ request.accountId, accountId ∈ accounts)
    (hdedupe : request.dedupeKey ≠ some "") (htaskId : ∀ row ∈ tasks.rows, row.taskId ≠ taskId) :
    (∃ row ∈ tasks.rows, row.dedupeKey = request.dedupeKey ∧
        createBackgroundTask accounts request taskId now tasks = .existing row) ∨
      ∃ next : TaskTable, next.rows = tasks.rows ++ [newTask request taskId now] ∧
        createBackgroundTask accounts request taskId now tasks =
          .inserted (newTask request taskId now) next := by
  have hpresent : ¬ (truthy request.accountId ∧
      ∀ accountId ∈ request.accountId, accountId ∉ accounts) := by
    rintro ⟨htruthy, habsent⟩
    obtain ⟨accountId, haccountId, -⟩ := exists_of_truthy htruthy
    exact habsent accountId haccountId (haccount accountId haccountId)
  have hexisting : existingTask request tasks =
      request.dedupeKey.bind fun dedupeKey => tasks.lookup (.dedupeKey dedupeKey) := by
    cases hkey : request.dedupeKey with
    | none => simp [existingTask, hkey]
    | some dedupeKey =>
        have hne : dedupeKey ≠ "" := by
          rintro rfl
          exact hdedupe hkey
        rw [existingTask, hkey, if_pos (truthy_some.mpr hne)]
  cases hfound : existingTask request tasks with
  | some row =>
      obtain ⟨dedupeKey, hkey, hlookup⟩ := Option.bind_eq_some_iff.mp (hexisting ▸ hfound)
      have hrow := Table.lookup_eq_some_iff.mp hlookup
      refine .inl ⟨row, hrow.1, ?_, ?_⟩
      · rw [hkey, dedupeKey_mem_taskKeys.mp hrow.2]
      · simp only [createBackgroundTask, if_neg hpresent, hfound]
  | none =>
      have hfresh : ∀ key ∈ taskKeys (newTask request taskId now), tasks.lookup key = none := by
        intro key hkey
        cases key with
        | taskId held =>
            have hheld : taskId = held := taskId_mem_taskKeys.mp hkey
            refine Table.lookup_eq_none_iff.mpr fun row hrow hmem => ?_
            exact htaskId row hrow (hheld ▸ taskId_mem_taskKeys.mp hmem)
        | dedupeKey held =>
            have hheld : request.dedupeKey = some held := dedupeKey_mem_taskKeys.mp hkey
            rwa [hexisting, hheld, Option.bind_some] at hfound
      obtain ⟨next, hinsert⟩ := Table.exists_insert?_of_fresh hfresh
      refine .inr ⟨next, Table.rows_of_insert? hinsert, ?_⟩
      simp only [createBackgroundTask, if_neg hpresent, hfound, hinsert]

def SameRequest (row next : BackgroundTask) : Prop :=
  next.taskId = row.taskId ∧ next.dedupeKey = row.dedupeKey ∧
    next.taskType = row.taskType ∧ next.payload = row.payload

theorem sameRequest_of_attempt {row next : BackgroundTask} {op : TaskOp}
    (haccept : attempt row op = some next) : SameRequest row next := by
  cases op with
  | claim worker leaseSeconds now =>
      simp only [attempt, claimBackgroundTask] at haccept
      split at haccept
      · cases haccept
        exact ⟨rfl, rfl, rfl, rfl⟩
      · cases haccept
  | renew worker leaseSeconds now =>
      simp only [attempt, renewBackgroundTaskLease] at haccept
      split at haccept
      · cases haccept
        exact ⟨rfl, rfl, rfl, rfl⟩
      · cases haccept
  | finish worker status result error now =>
      rw [finish_of_worker] at haccept
      simp only [finishClaimedTask] at haccept
      split at haccept
      · cases haccept
        exact ⟨rfl, rfl, rfl, rfl⟩
      · cases haccept
  | sweep now clock =>
      simp only [attempt, failStaleBackgroundTask] at haccept
      split at haccept
      · cases haccept
        exact ⟨rfl, rfl, rfl, rfl⟩
      · cases haccept
  | reset now =>
      simp only [attempt, resetBackgroundTaskForRetry] at haccept
      split at haccept
      · cases haccept
        exact ⟨rfl, rfl, rfl, rfl⟩
      · cases haccept

def onTable (tasks : TaskTable) (taskId : String) (op : TaskOp) : TaskTable :=
  tasks.write (onTask taskId fun row => attempt row op) fun row next hwrite => by
    have hsame := sameRequest_of_attempt (onTask_eq_some.mp hwrite).2
    rw [taskKeys, taskKeys, hsame.1, hsame.2.1]

def SameRequests (tasks next : TaskTable) : Prop :=
  (∀ row ∈ next.rows, ∃ origin ∈ tasks.rows, SameRequest origin row) ∧
    ∀ row ∈ tasks.rows, ∃ image ∈ next.rows, SameRequest row image

theorem SameRequests.refl (tasks : TaskTable) : SameRequests tasks tasks :=
  ⟨fun row hrow => ⟨row, hrow, rfl, rfl, rfl, rfl⟩,
    fun row hrow => ⟨row, hrow, rfl, rfl, rfl, rfl⟩⟩

theorem sameRequests_write {transaction : BackgroundTask → Option BackgroundTask}
    (hkeys : ∀ row next, onTask taskId transaction row = some next → taskKeys next = taskKeys row)
    (htransaction : ∀ row next, transaction row = some next → SameRequest row next) :
    SameRequests tasks (tasks.write (onTask taskId transaction) hkeys) := by
  have hsame : ∀ row, SameRequest row ((onTask taskId transaction row).getD row) := by
    intro row
    cases hwrite : onTask taskId transaction row with
    | none => exact ⟨rfl, rfl, rfl, rfl⟩
    | some next => exact htransaction row next (onTask_eq_some.mp hwrite).2
  constructor
  · intro next hnext
    obtain ⟨row, hrow, rfl⟩ := List.mem_map.mp hnext
    exact ⟨row, hrow, hsame row⟩
  · intro row hrow
    exact ⟨_, List.mem_map_of_mem hrow, hsame row⟩

theorem sameRequests_onTable (tasks : TaskTable) (taskId : String) (op : TaskOp) :
    SameRequests tasks (onTable tasks taskId op) :=
  sameRequests_write _ fun _ _ haccept => sameRequest_of_attempt haccept

/-- `_mark_background_task_queued_sync` on the table. -/
def markTaskQueued (taskId : String) (now : ℕ) (tasks : TaskTable) : TaskTable :=
  tasks.write (onTask taskId (markBackgroundTaskQueued now)) fun _ _ hwrite =>
    (sameKeys_of_markQueued (onTask_eq_some.mp hwrite).2).taskKeys_eq

theorem sameRequests_markTaskQueued (taskId : String) (now : ℕ) (tasks : TaskTable) :
    SameRequests tasks (markTaskQueued taskId now tasks) := by
  refine sameRequests_write _ fun row next hqueued => ?_
  simp only [markBackgroundTaskQueued] at hqueued
  split at hqueued
  · cases hqueued
    exact ⟨rfl, rfl, rfl, rfl⟩
  · cases hqueued

end XianyuAdmin.TaskStore
