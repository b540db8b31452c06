import XianyuAdmin.Tasks.TaskRetries

/-!
# What the executions of tasks keep

Each task is executed at most once and has at most one retry, whose payload counts one more.
A task whose execution is over was retried, unless the execution returned or was interrupted
or the task counts three retries.
-/

namespace XianyuAdmin.TaskRetries

open XianyuAdmin.Python
open XianyuAdmin.TaskStore
open XianyuAdmin.LeaseFencing
open XianyuAdmin.Transition
open Function (update update_self update_of_ne)

theorem find?_replaced {members : List (String × Json)} {name : String} {value : Json}
    (hmember : ∃ member ∈ members, member.1 = name) :
    (members.map fun member => if member.1 = name then (name, value) else member).find?
      (fun member => member.1 = name) = some (name, value) := by
  induction members with
  | nil => simp at hmember
  | cons member members ih =>
      by_cases hname : member.1 = name
      · simp [hname]
      · have hrest : ∃ other ∈ members, other.1 = name := by
          simpa [hname] using hmember
        simpa [hname] using ih hrest

theorem get_setMember (members : List (String × Json)) (name : String) (value : Json) :
    Json.get (setMember members name value) name = value := by
  by_cases hmember : ∃ member ∈ members, member.1 = name
  · have hany : (members.any fun member => member.1 = name) = true := by simpa using hmember
    rw [setMember, if_pos hany, Json.get, find?_replaced hmember]
    rfl
  · have hany : ¬ (members.any fun member => member.1 = name) = true := by simpa using hmember
    have hnone : members.find? (fun member => member.1 = name) = none :=
      List.find?_eq_none.mpr fun member hstored hname =>
        hmember ⟨member, hstored, of_decide_eq_true hname⟩
    rw [setMember, if_neg hany, Json.get, List.find?_append, hnone]
    simp

def retriesBefore (task : BackgroundTask) : Option ℤ := retryCount (payloadMembers task)

variable {task row : BackgroundTask} {now : ℕ} {request : CreatePayload} {op : TaskOp}
  {execution : Execution} {tasks : TaskTable} {worker : WorkerId}

theorem retriesBefore_of_original (horiginal : IsOriginal task.dedupeKey task.payload) :
    retriesBefore task = some 0 := by
  have hnone : (payloadMembers task).find? (fun member => member.1 = "_chatwoot_retry") = none :=
    List.find?_eq_none.mpr fun member hstored hname =>
      horiginal.payload member hstored (of_decide_eq_true hname)
  rw [retriesBefore, retryCount, Json.get, hnone]
  rfl

/-- `next` is what `retryRequest` makes of `task`. -/
structure Continues (task next : BackgroundTask) : Prop where
  type : task.taskType ∈ chatwootTaskTypes
  sameType : next.taskType = task.taskType
  count : ∃ count, 0 ≤ count ∧ count < 3 ∧ retriesBefore task = some count ∧
    retriesBefore next = some (count + 1) ∧
    next.dedupeKey = some (retryKey task.taskId (count + 1))

theorem retryCount_setMember {members : List (String × Json)} {number : ℤ} (hpos : 0 < number) :
    retryCount (setMember members "_chatwoot_retry" (.int number)) = some number := by
  have htrue : (Json.int number).isTrue = true := by
    simpa [Json.isTrue] using hpos.ne'
  rw [retryCount, get_setMember, Json.or, if_pos htrue]

theorem retryRequest_of_count {count : ℤ} (htype : task.taskType ∈ chatwootTaskTypes)
    (hcount : retriesBefore task = some count) (hnonneg : 0 ≤ count) (hlt : count < 3) (now : ℕ) :
    ∃ delay, retryRequest task now = some
      { accountId := task.accountId
        taskType := task.taskType
        dedupeKey := some (retryKey task.taskId (count + 1))
        payload :=
          some (.obj (setMember (payloadMembers task) "_chatwoot_retry" (.int (count + 1))))
        runAfter := some (now + seconds delay) } := by
  rw [retriesBefore] at hcount
  have hdelay : ∃ delay, retryDelay count = some delay := by
    obtain rfl | rfl | rfl : count = 0 ∨ count = 1 ∨ count = 2 := by omega
    · exact ⟨5, rfl⟩
    · exact ⟨15, rfl⟩
    · exact ⟨45, rfl⟩
  obtain ⟨delay, hdelay⟩ := hdelay
  refine ⟨delay, ?_⟩
  rw [retryRequest, if_pos htype, hcount]
  simp only [if_pos hlt, hdelay, Option.map_some]

theorem retryRequest_eq_some (hrequest : retryRequest task now = some request) :
    task.taskType ∈ chatwootTaskTypes ∧ request.taskType = task.taskType ∧
      request.accountId = task.accountId ∧
      ∃ count, retriesBefore task = some count ∧ count < 3 ∧
        request.dedupeKey = some (retryKey task.taskId (count + 1)) ∧
        request.payload =
          some (.obj (setMember (payloadMembers task) "_chatwoot_retry" (.int (count + 1)))) := by
  rw [retryRequest] at hrequest
  split at hrequest
  · rename_i htype
    split at hrequest
    · cases hrequest
    · rename_i count hcount
      split at hrequest
      · rename_i hlt
        obtain ⟨delay, -, rfl⟩ := Option.map_eq_some_iff.mp hrequest
        exact ⟨htype, rfl, rfl, count, hcount, hlt, rfl, rfl⟩
      · cases hrequest
  · cases hrequest

theorem toList_retryKey (taskId : String) (number : ℤ) :
    (retryKey taskId number).toList =
      "chatwoot-retry:".toList ++ (taskId.toList ++ ':' :: (toString number).toList) := by
  rw [retryKey, String.toList_append, String.toList_append, String.toList_append,
    List.append_assoc, List.append_assoc]
  rfl

theorem takeWhile_of_not_mem {front back : List Char} (hfront : ':' ∉ front) :
    (front ++ ':' :: back).takeWhile (· ≠ ':') = front := by
  induction front with
  | nil => rfl
  | cons char front ih =>
      have hchar : char ≠ ':' := fun hsame => hfront (hsame ▸ List.mem_cons_self)
      have hrest : ':' ∉ front := fun hmem => hfront (List.mem_cons_of_mem _ hmem)
      rw [List.cons_append, List.takeWhile_cons_of_pos (by simpa using hchar), ih hrest]

theorem retryKey_inj {left right : String} {first second : ℤ} (hleft : ':' ∉ left.toList)
    (hright : ':' ∉ right.toList) (hkey : retryKey left first = retryKey right second) :
    left = right := by
  have hlists := congrArg String.toList hkey
  rw [toList_retryKey, toList_retryKey, List.append_cancel_left_eq] at hlists
  have hids := congrArg (List.takeWhile (· ≠ ':')) hlists
  rw [takeWhile_of_not_mem hleft, takeWhile_of_not_mem hright] at hids
  exact String.toList_injective hids

theorem not_isOriginal_retryKey {taskId : String} {number : ℤ} {payload : Option Json} :
    ¬ IsOriginal (some (retryKey taskId number)) payload := by
  intro horiginal
  have hfront := (horiginal.key _ rfl).2
  rw [toList_retryKey] at hfront
  simp at hfront

def SameTask (row next : BackgroundTask) : Prop :=
  SameRequest row next ∧ next.accountId = row.accountId

theorem SameTask.refl (row : BackgroundTask) : SameTask row row := ⟨⟨rfl, rfl, rfl, rfl⟩, rfl⟩

theorem SameTask.taskId {next : BackgroundTask} (hsame : SameTask row next) :
    next.taskId = row.taskId := hsame.1.1

theorem SameTask.trans {next last : BackgroundTask} (hfirst : SameTask row next)
    (hsecond : SameTask next last) : SameTask row last := by
  obtain ⟨⟨hid, hkey, htype, hpayload⟩, haccount⟩ := hfirst
  obtain ⟨⟨hid', hkey', htype', hpayload'⟩, haccount'⟩ := hsecond
  exact ⟨⟨hid'.trans hid, hkey'.trans hkey, htype'.trans htype, hpayload'.trans hpayload⟩,
    haccount'.trans haccount⟩

theorem SameTask.symm {next : BackgroundTask} (hsame : SameTask row next) : SameTask next row := by
  obtain ⟨⟨hid, hkey, htype, hpayload⟩, haccount⟩ := hsame
  exact ⟨⟨hid.symm, hkey.symm, htype.symm, hpayload.symm⟩, haccount.symm⟩

theorem accountId_of_attempt {next : BackgroundTask} (haccept : attempt row op = some next) :
    next.accountId = row.accountId := by
  cases op with
  | claim worker leaseSeconds now =>
      simp only [attempt, claimBackgroundTask] at haccept
      split at haccept <;> cases haccept
      rfl
  | renew worker leaseSeconds now =>
      simp only [attempt, renewBackgroundTaskLease] at haccept
      split at haccept <;> cases haccept
      rfl
  | finish worker status result error now =>
      rw [finish_of_worker] at haccept
      simp only [finishClaimedTask] at haccept
      split at haccept <;> cases haccept
      rfl
  | sweep now clock =>
      simp only [attempt, failStaleBackgroundTask] at haccept
      split at haccept <;> cases haccept
      rfl
  | reset now =>
      simp only [attempt, resetBackgroundTaskForRetry] at haccept
      split at haccept <;> cases haccept
      rfl

theorem sameTask_of_attempt {next : BackgroundTask} (haccept : attempt row op = some next) :
    SameTask row next :=
  ⟨sameRequest_of_attempt haccept, accountId_of_attempt haccept⟩

structure TaskStep (claimed : List String) (row next : BackgroundTask) : Prop where
  same : SameTask row next
  pending : next.status = .pending ↔ row.status = .pending ∧ row.taskId ∉ claimed

theorem TaskStep.refl (row : BackgroundTask) : TaskStep [] row row where
  same := .refl row
  pending := by simp

theorem taskStep_of_running {next : BackgroundTask} {claimed : List String}
    (haccept : attempt row op = some next) (hrunning : row.status = .running)
    (hnext : next.status ≠ .pending) : TaskStep claimed row next where
  same := sameTask_of_attempt haccept
  pending := ⟨fun hpending => absurd hpending hnext, fun hpending => by
    rw [hrunning] at hpending
    cases hpending.1⟩

theorem Continues.congr {next task' next' : BackgroundTask} (hcontinues : Continues task next)
    (htask : SameTask task task') (hnext : SameTask next next') : Continues task' next' := by
  obtain ⟨htype, hsameType, count, hnonneg, hlt, hcount, hnextCount, hkey⟩ := hcontinues
  obtain ⟨⟨hid, -, htaskType, hpayload⟩, -⟩ := htask
  obtain ⟨⟨-, hnextKey, hnextType, hnextPayload⟩, -⟩ := hnext
  refine ⟨htaskType ▸ htype, ?_, count, hnonneg, hlt, ?_, ?_, ?_⟩
  · rw [hnextType, hsameType, htaskType]
  · rw [retriesBefore, payloadMembers, hpayload]
    exact hcount
  · rw [retriesBefore, payloadMembers, hnextPayload]
    exact hnextCount
  · rw [hnextKey, hkey, hid]

def Concluded (state : RetryState) (taskId : String) : Prop :=
  taskId ∈ state.succeeded ∨ taskId ∈ state.interrupted ∨
    ∀ row ∈ state.tasks.rows, row.taskId = taskId → row.taskType ∈ chatwootTaskTypes →
      (∃ next ∈ state.tasks.rows, Continues row next) ∨ retriesBefore row = some 3

def InProgress (state : RetryState) (taskId : String) : Prop :=
  ∃ index execution, state.executions index = some execution ∧ execution.task.taskId = taskId

structure Backed (state : RetryState) (execution : Execution) : Prop where
  row : ∃ row ∈ state.tasks.rows, SameTask row execution.task
  returned : execution.point = .finishing .returned →
    execution.task.taskId ∈ state.succeeded
  cancelled : execution.point = .finishing .cancelled →
    execution.task.taskId ∈ state.interrupted

structure Sound (accounts : List String) (state : RetryState) : Prop where
  accounts : ∀ row ∈ state.tasks.rows, ∀ accountId ∈ row.accountId, accountId ∈ accounts
  ids : ∀ row ∈ state.tasks.rows, ':' ∉ row.taskId.toList
  numbered : ∀ row ∈ state.tasks.rows, IsOriginal row.dedupeKey row.payload ∨
    ∃ source ∈ state.tasks.rows, Continues source row
  once : state.started.Nodup
  begun : ∀ row ∈ state.tasks.rows, row.status = .pending ↔ row.taskId ∉ state.started
  known : ∀ taskId ∈ state.started, ∃ row ∈ state.tasks.rows, row.taskId = taskId
  backed : ∀ index execution, state.executions index = some execution → Backed state execution
  accounted : ∀ taskId ∈ state.started, InProgress state taskId ∨ Concluded state taskId

structure IsNew (accounts : List String) (tasks : TaskTable) (row : BackgroundTask) : Prop where
  pending : row.status = .pending
  account : ∀ accountId ∈ row.accountId, accountId ∈ accounts
  fresh : IsFresh tasks row.taskId
  numbered : IsOriginal row.dedupeKey row.payload ∨ ∃ source ∈ tasks.rows, Continues source row

structure Moves (accounts : List String) (state next : RetryState) (claimed : List String) :
    Prop where
  tasks : state.tasks.Follows (TaskStep claimed) (IsNew accounts state.tasks) next.tasks
  started : next.started = state.started ++ claimed
  nodup : claimed.Nodup
  claims : ∀ taskId ∈ claimed, ∃ row ∈ state.tasks.rows, row.taskId = taskId ∧
    row.status = .pending
  succeeded : state.succeeded ⊆ next.succeeded
  interrupted : state.interrupted ⊆ next.interrupted
  backed : ∀ index execution, next.executions index = some execution →
    state.executions index = some execution ∨ Backed next execution
  accounted : ∀ taskId, InProgress state taskId ∨ taskId ∈ claimed →
    InProgress next taskId ∨ Concluded next taskId

variable {accounts : List String} {state next : RetryState} {claimed : List String}

theorem Moves.backed_mono (hmoves : Moves accounts state next claimed)
    (hbacked : Backed state execution) : Backed next execution where
  row := by
    obtain ⟨row, hrow, hsame⟩ := hbacked.row
    obtain ⟨image, himage, hstep⟩ := hmoves.tasks.kept row hrow
    exact ⟨image, himage, hstep.same.symm.trans hsame⟩
  returned := fun hpoint => hmoves.succeeded (hbacked.returned hpoint)
  cancelled := fun hpoint => hmoves.interrupted (hbacked.cancelled hpoint)

/-- A retry that was there is there after the step. -/
theorem Moves.continues (hmoves : Moves accounts state next claimed) {image : BackgroundTask}
    (hsame : SameTask row image) (hretried : ∃ later ∈ state.tasks.rows, Continues row later) :
    ∃ later ∈ next.tasks.rows, Continues image later := by
  obtain ⟨later, hlater, hcontinues⟩ := hretried
  obtain ⟨laterImage, hlaterImage, hstep⟩ := hmoves.tasks.kept later hlater
  exact ⟨laterImage, hlaterImage, hcontinues.congr hsame hstep.same⟩

theorem retriesBefore_of_same {image : BackgroundTask} (hsame : SameTask row image) :
    retriesBefore image = retriesBefore row := by
  rw [retriesBefore, payloadMembers, hsame.1.2.2.2]
  rfl

theorem Moves.concluded (hmoves : Moves accounts state next claimed) {taskId : String}
    (hknown : ∃ row ∈ state.tasks.rows, row.taskId = taskId)
    (hconcluded : Concluded state taskId) : Concluded next taskId := by
  rcases hconcluded with hsucceeded | hinterrupted | hretried
  · exact .inl (hmoves.succeeded hsucceeded)
  · exact .inr (.inl (hmoves.interrupted hinterrupted))
  · refine .inr (.inr fun image himage hid htype => ?_)
    rcases hmoves.tasks.origin image himage with ⟨row, hrow, hstep⟩ | hnew
    · have hrowId : row.taskId = taskId := hstep.same.taskId ▸ hid
      have hrowType : row.taskType ∈ chatwootTaskTypes := hstep.same.1.2.2.1 ▸ htype
      rcases hretried row hrow hrowId hrowType with hlater | hthree
      · exact .inl (hmoves.continues hstep.same hlater)
      · exact .inr ((retriesBefore_of_same hstep.same).trans hthree)
    · obtain ⟨row, hrow, hrowId⟩ := hknown
      exact absurd (hrowId.trans hid.symm) (hnew.fresh.2 row hrow)

/-- The invariant is kept by every such step. -/
theorem sound_of_moves (hsound : Sound accounts state)
    (hmoves : Moves accounts state next claimed) : Sound accounts next where
  accounts := by
    intro image himage
    rcases hmoves.tasks.origin image himage with ⟨row, hrow, hstep⟩ | hnew
    · rw [hstep.same.2]
      exact hsound.accounts row hrow
    · exact hnew.account
  ids := by
    intro image himage
    rcases hmoves.tasks.origin image himage with ⟨row, hrow, hstep⟩ | hnew
    · rw [hstep.same.taskId]
      exact hsound.ids row hrow
    · exact hnew.fresh.1
  numbered := by
    intro image himage
    have hsources : ∀ row, SameTask row image →
        (∃ source ∈ state.tasks.rows, Continues source row) →
        ∃ source ∈ next.tasks.rows, Continues source image := by
      intro row hsame hsource
      obtain ⟨source, hstored, hcontinues⟩ := hsource
      obtain ⟨sourceImage, hsourceImage, hstep⟩ := hmoves.tasks.kept source hstored
      exact ⟨sourceImage, hsourceImage, hcontinues.congr hstep.same hsame⟩
    rcases hmoves.tasks.origin image himage with ⟨row, hrow, hstep⟩ | hnew
    · rcases hsound.numbered row hrow with horiginal | hsource
      · obtain ⟨⟨-, hkey, -, hpayload⟩, -⟩ := hstep.same
        exact .inl (hkey.symm ▸ hpayload.symm ▸ horiginal)
      · exact .inr (hsources row hstep.same hsource)
    · exact hnew.numbered.imp_right (hsources image (.refl image))
  once := by
    rw [hmoves.started]
    refine List.nodup_append.mpr ⟨hsound.once, hmoves.nodup, ?_⟩
    intro taskId hstarted other hclaimed hsame
    obtain ⟨row, hrow, hid, hpending⟩ := hmoves.claims other hclaimed
    refine (hsound.begun row hrow).mp hpending ?_
    rw [hid, ← hsame]
    exact hstarted
  begun := by
    intro image himage
    rw [hmoves.started, List.mem_append, not_or]
    rcases hmoves.tasks.origin image himage with ⟨row, hrow, hstep⟩ | hnew
    · rw [hstep.pending, hsound.begun row hrow, hstep.same.taskId]
    · refine iff_of_true hnew.pending ⟨fun hstarted => ?_, fun hclaimed => ?_⟩
      · obtain ⟨row, hrow, hid⟩ := hsound.known _ hstarted
        exact hnew.fresh.2 row hrow hid
      · obtain ⟨row, hrow, hid, -⟩ := hmoves.claims _ hclaimed
        exact hnew.fresh.2 row hrow hid
  known := by
    intro taskId hstarted
    have hrow : ∃ row ∈ state.tasks.rows, row.taskId = taskId := by
      rw [hmoves.started, List.mem_append] at hstarted
      rcases hstarted with hstarted | hclaimed
      · exact hsound.known taskId hstarted
      · obtain ⟨row, hrow, hid, -⟩ := hmoves.claims taskId hclaimed
        exact ⟨row, hrow, hid⟩
    obtain ⟨row, hrow, hid⟩ := hrow
    obtain ⟨image, himage, hstep⟩ := hmoves.tasks.kept row hrow
    exact ⟨image, himage, hstep.same.taskId.trans hid⟩
  backed := by
    intro index execution hexecution
    rcases hmoves.backed index execution hexecution with hbefore | hbacked
    · exact hmoves.backed_mono (hsound.backed index execution hbefore)
    · exact hbacked
  accounted := by
    intro taskId hstarted
    rw [hmoves.started, List.mem_append] at hstarted
    rcases hstarted with hstarted | hclaimed
    · rcases hsound.accounted taskId hstarted with hprogress | hconcluded
      · exact hmoves.accounted taskId (.inl hprogress)
      · exact .inr (hmoves.concluded (hsound.known taskId hstarted) hconcluded)
    · exact hmoves.accounted taskId (.inr hclaimed)

theorem follows_onTable (tasks : TaskTable) {taskId : String}
    (hrunning : ∀ row after, attempt row op = some after →
      row.status = .running ∧ after.status ≠ .pending) :
    tasks.Follows (TaskStep []) (IsNew accounts tasks) (onTable tasks taskId op) := by
  refine Table.follows_write (Table.rows_write _ _ _) TaskStep.refl fun row _ after hwrite => ?_
  obtain ⟨-, haccept⟩ := onTask_eq_some.mp hwrite
  obtain ⟨hstatus, hafter⟩ := hrunning row after haccept
  exact taskStep_of_running haccept hstatus hafter

theorem follows_sweep (tasks : TaskTable) (now : Option ℕ) (clock : ℕ) :
    tasks.Follows (TaskStep []) (IsNew accounts tasks) (sweepTasks now clock tasks) := by
  refine Table.follows_write (Table.rows_write _ _ _) TaskStep.refl fun row _ after hfail => ?_
  obtain ⟨hrunning, -, hfailed, -⟩ := failStale_eq_some hfail
  have haccept : attempt row (.sweep now clock) = some after := hfail
  exact taskStep_of_running haccept hrunning (by rw [hfailed]; exact nofun)

theorem follows_claim {taskId : String} {lease : ℤ} {claimedRow : BackgroundTask}
    (hrow : tasks.lookup (.taskId taskId) = some row)
    (hclaim : claimBackgroundTask (some worker) lease now row = some claimedRow) :
    tasks.Follows (TaskStep [taskId]) (IsNew accounts tasks)
      (onTable tasks taskId (.claim worker lease now)) := by
  refine Table.follows_map (Table.rows_write _ _ _) fun stored hstored => ?_
  by_cases hid : stored.taskId = taskId
  · have hsame : stored = row :=
      Table.eq_of_key hstored (Table.mem_of_lookup hrow) (taskId_mem_taskKeys.mpr hid)
        (Table.lookup_eq_some_iff.mp hrow).2
    have hwrite : onTask taskId (fun row => attempt row (.claim worker lease now)) stored =
        some claimedRow := onTask_eq_some.mpr ⟨hid, hsame ▸ hclaim⟩
    rw [hwrite, Option.getD_some, hsame]
    have haccept : attempt row (.claim worker lease now) = some claimedRow := hclaim
    refine ⟨sameTask_of_attempt haccept, ?_⟩
    have hrunning := (claim_eq_some hclaim).2.2.1
    rw [hrunning]
    refine iff_of_false nofun fun hpending => hpending.2 ?_
    rw [← hsame, hid]
    exact List.mem_singleton_self taskId
  · have hwrite : onTask taskId (fun row => attempt row (.claim worker lease now)) stored =
        none := if_neg hid
    rw [hwrite, Option.getD_none]
    refine ⟨.refl stored, (and_iff_left ?_).symm⟩
    exact fun hclaimed => hid (List.mem_singleton.mp hclaimed)

theorem follows_create {taskId : String}
    (hnew : IsNew accounts tasks (newTask request taskId now)) :
    tasks.Follows (TaskStep []) (IsNew accounts tasks)
      (tasksAfter tasks (createBackgroundTask accounts request taskId now tasks)) := by
  cases hcreate : createBackgroundTask accounts request taskId now tasks with
  | inserted row after =>
      obtain ⟨rfl, hrows⟩ := inserted_of_create hcreate
      exact Table.follows_append TaskStep.refl hnew hrows
  | missingAccount => exact .refl TaskStep.refl tasks
  | existing row => exact .refl TaskStep.refl tasks
  | collision => exact .refl TaskStep.refl tasks

theorem moves_put {index : ℕ} {execution : Option Execution}
    (htasks : state.tasks.Follows (TaskStep claimed) (IsNew accounts state.tasks) next.tasks)
    (hexecutions : next.executions = update state.executions index execution)
    (hstarted : next.started = state.started ++ claimed) (hnodup : claimed.Nodup)
    (hclaims : ∀ taskId ∈ claimed, ∃ row ∈ state.tasks.rows, row.taskId = taskId ∧
      row.status = .pending)
    (hsucceeded : state.succeeded ⊆ next.succeeded)
    (hinterrupted : state.interrupted ⊆ next.interrupted)
    (hbacked : ∀ held, execution = some held → Backed next held)
    (hclaimed : ∀ taskId ∈ claimed, InProgress next taskId ∨ Concluded next taskId)
    (hleft : ∀ held, state.executions index = some held →
      InProgress next held.task.taskId ∨ Concluded next held.task.taskId) :
    Moves accounts state next claimed where
  tasks := htasks
  started := hstarted
  nodup := hnodup
  claims := hclaims
  succeeded := hsucceeded
  interrupted := hinterrupted
  backed := by
    intro other held hheld
    rw [hexecutions] at hheld
    by_cases hsame : other = index
    · rw [hsame, update_self] at hheld
      exact .inr (hbacked held hheld)
    · rw [update_of_ne hsame] at hheld
      exact .inl hheld
  accounted := by
    rintro taskId (⟨other, held, hheld, hid⟩ | htaken)
    · by_cases hsame : other = index
      · rw [hsame] at hheld
        exact hid ▸ hleft held hheld
      · refine .inl ⟨other, held, ?_, hid⟩
        rw [hexecutions, update_of_ne hsame]
        exact hheld
    · exact hclaimed taskId htaken

/-- A step that acts on the tables alone. -/
theorem moves_tasks
    (htasks : state.tasks.Follows (TaskStep []) (IsNew accounts state.tasks) next.tasks)
    (hexecutions : next.executions = state.executions) (hstarted : next.started = state.started)
    (hsucceeded : state.succeeded ⊆ next.succeeded)
    (hinterrupted : state.interrupted ⊆ next.interrupted) :
    Moves accounts state next [] where
  tasks := htasks
  started := by rw [hstarted, List.append_nil]
  nodup := .nil
  claims := fun _ hclaimed => absurd hclaimed List.not_mem_nil
  succeeded := hsucceeded
  interrupted := hinterrupted
  backed := fun index execution hexecution => .inl (hexecutions ▸ hexecution)
  accounted := by
    rintro taskId (⟨index, execution, hexecution, hid⟩ | hclaimed)
    · exact .inl ⟨index, execution, hexecutions ▸ hexecution, hid⟩
    · exact absurd hclaimed List.not_mem_nil

theorem task_eq_of_id {left right : BackgroundTask} (hleft : left ∈ tasks.rows)
    (hright : right ∈ tasks.rows) (hid : left.taskId = right.taskId) :
    left = right :=
  Table.eq_of_key hleft hright (taskId_mem_taskKeys.mpr hid) (taskId_mem_taskKeys.mpr rfl)

theorem Sound.exists_count (hsound : Sound accounts state) (hrow : row ∈ state.tasks.rows) :
    ∃ count, retriesBefore row = some count ∧ 0 ≤ count ∧ count ≤ 3 := by
  rcases hsound.numbered row hrow with horiginal | ⟨source, -, hcontinues⟩
  · exact ⟨0, retriesBefore_of_original horiginal, le_rfl, by decide⟩
  · obtain ⟨count, hnonneg, hlt, -, hcount, -⟩ := hcontinues.count
    exact ⟨count + 1, hcount, by omega, by omega⟩

theorem Sound.continues_of_key (hsound : Sound accounts state) {retry : BackgroundTask}
    (hrow : row ∈ state.tasks.rows) (hretry : retry ∈ state.tasks.rows)
    (hkey : IsRetryOf retry row.taskId) : Continues row retry := by
  obtain ⟨number, hkey⟩ := hkey
  rcases hsound.numbered retry hretry with horiginal | ⟨source, hsource, hcontinues⟩
  · rw [hkey] at horiginal
    exact absurd horiginal not_isOriginal_retryKey
  · obtain ⟨count, -, -, -, -, hsourceKey⟩ := hcontinues.count
    have hids : source.taskId = row.taskId :=
      retryKey_inj (hsound.ids source hsource) (hsound.ids row hrow)
        (Option.some.inj (hsourceKey.symm.trans hkey))
    exact task_eq_of_id hsource hrow hids ▸ hcontinues

theorem Sound.continues_newTask (hsound : Sound accounts state) (hrow : row ∈ state.tasks.rows)
    (hsame : SameTask row task) (hrequest : retryRequest task now = some request)
    (taskId : String) : Continues row (newTask request taskId now) := by
  obtain ⟨count, hcount, hnonneg, -⟩ := hsound.exists_count hrow
  obtain ⟨htype, hrequestType, -, held, hheld, hlt, hkey, hpayload⟩ :=
    retryRequest_eq_some hrequest
  rw [retriesBefore_of_same hsame, hcount] at hheld
  cases hheld
  refine ⟨hsame.1.2.2.1 ▸ htype, hrequestType.trans hsame.1.2.2.1, count, hnonneg, hlt, hcount,
    ?_, ?_⟩
  · rw [retriesBefore, payloadMembers, newTask, hpayload]
    exact retryCount_setMember (by omega)
  · rw [← hsame.taskId]
    exact hkey

theorem concluded_retry (hsound : Sound accounts state) (index : ℕ)
    (hbacked : Backed state execution) {taskId : String} (hfresh : IsFresh state.tasks taskId)
    (now : ℕ) :
    state.tasks.Follows (TaskStep []) (IsNew accounts state.tasks)
        (state.retry accounts index execution.task taskId now).tasks ∧
      Concluded (state.retry accounts index execution.task taskId now) execution.task.taskId := by
  obtain ⟨row, hrow, hsame⟩ := hbacked.row
  obtain ⟨count, hcount, hnonneg, hle⟩ := hsound.exists_count hrow
  have hown : ∀ stored ∈ state.tasks.rows, stored.taskId = execution.task.taskId → stored = row :=
    fun stored hstored hid => task_eq_of_id hstored hrow (hid.trans hsame.taskId)
  cases hrequest : retryRequest execution.task now with
  | none =>
      rw [RetryState.retry, hrequest]
      refine ⟨.refl TaskStep.refl _, .inr (.inr fun stored hstored hid htype => ?_)⟩
      obtain rfl := hown stored hstored hid
      -- only a task that counts three retries has no request
      refine .inr (hcount.trans (congrArg some (le_antisymm hle (not_lt.mp fun hlt => ?_))))
      have htaskType : execution.task.taskType ∈ chatwootTaskTypes :=
        hsame.1.2.2.1.symm ▸ htype
      obtain ⟨delay, hmade⟩ := retryRequest_of_count htaskType
        ((retriesBefore_of_same hsame).trans hcount) hnonneg hlt now
      rw [hrequest] at hmade
      cases hmade
  | some request =>
      rw [RetryState.retry, hrequest]
      have hcontinues := hsound.continues_newTask hrow hsame hrequest
      obtain ⟨-, -, haccountId, number, -, -, hrequestKey, -⟩ := retryRequest_eq_some hrequest
      rw [hsame.taskId] at hrequestKey
      have haccount : ∀ accountId ∈ request.accountId, accountId ∈ accounts := by
        rw [haccountId, hsame.2]
        exact hsound.accounts row hrow
      have hnonempty : request.dedupeKey ≠ some "" := by
        rw [hrequestKey]
        intro hempty
        have hlist := congrArg String.toList (Option.some.inj hempty)
        rw [toList_retryKey] at hlist
        cases hlist
      rcases create_cases now haccount hnonempty hfresh.2 with
        ⟨stored, hstored, hkey, hcreate⟩ | ⟨after, hrows, hcreate⟩
      · refine ⟨?_, .inr (.inr fun other hother hid _ => .inl ⟨stored, ?_, ?_⟩)⟩
        · simp only [RetryState.put, RetryState.create, hcreate, tasksAfter]
          exact .refl TaskStep.refl _
        · simpa only [RetryState.put, RetryState.create, hcreate, tasksAfter] using hstored
        · simp only [RetryState.put, RetryState.create, hcreate, tasksAfter] at hother
          obtain rfl := hown other hother hid
          exact hsound.continues_of_key hrow hstored ⟨_, hkey.trans hrequestKey⟩
      · have hnew : IsNew accounts state.tasks (newTask request taskId now) :=
          ⟨rfl, haccount, hfresh, .inr ⟨row, hrow, hcontinues taskId⟩⟩
        refine ⟨?_, .inr (.inr fun other hother hid _ => .inl ⟨newTask request taskId now, ?_, ?_⟩)⟩
        · simp only [RetryState.put, RetryState.create, hcreate, tasksAfter]
          exact Table.follows_append TaskStep.refl hnew hrows
        · simp only [RetryState.put, RetryState.create, hcreate, tasksAfter, hrows]
          exact List.mem_append_right _ List.mem_cons_self
        · simp only [RetryState.put, RetryState.create, hcreate, tasksAfter, hrows] at hother
          rcases List.mem_append.mp hother with hold | hlast
          · obtain rfl := hown other hold hid
            exact hcontinues taskId
          · rw [List.mem_singleton.mp hlast] at hid
            exact absurd (hsame.taskId.symm.trans hid.symm) (hfresh.2 row hrow)

theorem moves_held {index : ℕ} {held : Execution} {execution : Option Execution}
    (hheld : state.executions index = some held)
    (htasks : state.tasks.Follows (TaskStep []) (IsNew accounts state.tasks) next.tasks)
    (hexecutions : next.executions = update state.executions index execution)
    (hstarted : next.started = state.started)
    (hsucceeded : state.succeeded ⊆ next.succeeded)
    (hinterrupted : state.interrupted ⊆ next.interrupted)
    (hbacked : ∀ later, execution = some later → Backed next later)
    (hleft : InProgress next held.task.taskId ∨ Concluded next held.task.taskId) :
    Moves accounts state next [] := by
  refine moves_put htasks hexecutions (by rw [hstarted, List.append_nil]) .nil
    (fun _ hclaimed => absurd hclaimed List.not_mem_nil) hsucceeded hinterrupted hbacked
    (fun _ hclaimed => absurd hclaimed List.not_mem_nil) fun other hother => ?_
  rw [hheld] at hother
  exact Option.some.inj hother ▸ hleft

theorem exists_claimed {taskId : String} {lease : ℤ} {claimedRow : BackgroundTask}
    (hrow : state.tasks.lookup (.taskId taskId) = some row)
    (hclaim : claimBackgroundTask (some worker) lease now row = some claimedRow) :
    claimedRow.taskId = taskId ∧ row.taskId = taskId ∧ SameTask row claimedRow := by
  have hid : row.taskId = taskId := taskId_mem_taskKeys.mp (Table.lookup_eq_some_iff.mp hrow).2
  have haccept : attempt row (.claim worker lease now) = some claimedRow := hclaim
  have hsame := sameTask_of_attempt haccept
  exact ⟨hsame.taskId.trans hid, hid, hsame⟩

theorem status_of_finish {outcome : ExecutionEnd} {result : Option Json} {error : Option String}
    {after : BackgroundTask}
    (haccept : attempt row (.finish worker outcome.status result error now) = some after) :
    row.status = .running ∧ after.status ≠ .pending := by
  rw [finish_of_worker] at haccept
  obtain ⟨howned, hstatus, -⟩ := finishClaimed_eq_some haccept
  refine ⟨howned.1, ?_⟩
  rw [hstatus]
  cases outcome <;> exact nofun

theorem status_of_renew {lease : ℤ} {after : BackgroundTask}
    (haccept : attempt row (.renew worker lease now) = some after) :
    row.status = .running ∧ after.status ≠ .pending := by
  obtain ⟨howned, hstatus, -⟩ := renew_eq_some haccept
  rw [hstatus, howned.1]
  exact ⟨rfl, nofun⟩

theorem moves_retry {index : ℕ} {taskId : String}
    (hheld : state.executions index = some execution)
    (htasks : state.tasks.Follows (TaskStep []) (IsNew accounts state.tasks)
      (state.retry accounts index execution.task taskId now).tasks) (hconcluded :
      Concluded (state.retry accounts index execution.task taskId now) execution.task.taskId) :
    Moves accounts state (state.retry accounts index execution.task taskId now) [] := by
  have hmade : ∃ made : RetryState,
      state.retry accounts index execution.task taskId now = made.put index none ∧
      made.executions = state.executions ∧ made.started = state.started ∧
      made.succeeded = state.succeeded ∧ made.interrupted = state.interrupted := by
    rw [RetryState.retry]
    split
    · exact ⟨state, rfl, rfl, rfl, rfl, rfl⟩
    · exact ⟨_, rfl, rfl, rfl, rfl, rfl⟩
  obtain ⟨made, hretry, hexecutions, hstarted, hsucceeded, hinterrupted⟩ := hmade
  rw [hretry] at htasks hconcluded ⊢
  have hput : (made.put index none).executions = update state.executions index none := by
    rw [RetryState.put, hexecutions]
  exact moves_held hheld htasks hput hstarted
    (fun _ hmem => hsucceeded ▸ hmem) (fun _ hmem => hinterrupted ▸ hmem)
    (fun _ hlater => by cases hlater) (.inr hconcluded)

theorem moves_of_step (hsound : Sound accounts state) {label : RetryLabel}
    (hstep : retryStep accounts state label = some next) :
    ∃ claimed, Moves accounts state next claimed := by
  cases label with
  | create request taskId now =>
      simp only [retryStep] at hstep
      split at hstep
      · rename_i hallowed
        cases hstep
        obtain ⟨horiginal, haccount, hfresh⟩ := hallowed
        have hnew : IsNew accounts state.tasks (newTask request taskId now) :=
          ⟨rfl, haccount, hfresh, .inl horiginal⟩
        exact ⟨[], moves_tasks (follows_create hnew) rfl rfl (List.Subset.refl _)
          (List.Subset.refl _)⟩
      · cases hstep
  | claim index taskId worker leaseSeconds now =>
      simp only [retryStep] at hstep
      split at hstep
      · cases hstep
      · rename_i hidle
        obtain ⟨claimedRow, hclaimed, rfl⟩ := Option.map_eq_some_iff.mp hstep
        obtain ⟨row, hrow, hclaim⟩ := Option.bind_eq_some_iff.mp hclaimed
        obtain ⟨hclaimedId, hid, hsame⟩ := exists_claimed hrow hclaim
        have hfollows : state.tasks.Follows (TaskStep [taskId]) (IsNew accounts state.tasks) _ :=
          follows_claim hrow hclaim
        obtain ⟨image, himage, htask⟩ := hfollows.kept row (Table.mem_of_lookup hrow)
        refine ⟨[taskId], moves_put hfollows rfl rfl (List.nodup_singleton _) ?_
          (List.Subset.refl _) (List.Subset.refl _) ?_ ?_ ?_⟩
        · intro other hother
          rw [List.mem_singleton.mp hother]
          exact ⟨row, Table.mem_of_lookup hrow, hid, (claim_eq_some hclaim).1⟩
        · rintro held ⟨⟩
          exact ⟨⟨image, himage, htask.same.symm.trans hsame⟩, by rintro ⟨⟩, by rintro ⟨⟩⟩
        · intro other hother
          rw [List.mem_singleton.mp hother]
          exact .inl ⟨index, _, update_self _ _ _, hclaimedId⟩
        · intro held hheld
          rw [hidle] at hheld
          cases hheld
  | renew index leaseSeconds now =>
      obtain ⟨execution, -, rfl⟩ := Option.map_eq_some_iff.mp hstep
      exact ⟨[], moves_tasks (follows_onTable _ fun _ _ => status_of_renew) rfl rfl
        (List.Subset.refl _) (List.Subset.refl _)⟩
  | ends index outcome =>
      obtain ⟨execution, hheld, hends⟩ := Option.bind_eq_some_iff.mp hstep
      split at hends
      · cases hends
        obtain ⟨row, hrow, hsame⟩ := (hsound.backed index execution hheld).row
        cases outcome with
        | returned =>
            refine ⟨[], moves_held hheld (.refl TaskStep.refl _) rfl rfl
              (List.subset_append_left _ _) (List.Subset.refl _) ?_
              (.inl ⟨index, _, update_self _ _ _, rfl⟩)⟩
            rintro later ⟨⟩
            exact ⟨⟨row, hrow, hsame⟩,
              fun _ => List.mem_append_right _ List.mem_cons_self, by rintro ⟨⟩⟩
        | raised =>
            refine ⟨[], moves_held hheld (.refl TaskStep.refl _) rfl rfl
              (List.Subset.refl _) (List.Subset.refl _) ?_ (.inl ⟨index, _, update_self _ _ _, rfl⟩)⟩
            rintro later ⟨⟩
            exact ⟨⟨row, hrow, hsame⟩, by rintro ⟨⟩, by rintro ⟨⟩⟩
        | cancelled =>
            refine ⟨[], moves_held hheld (.refl TaskStep.refl _) rfl rfl
              (List.Subset.refl _) (List.subset_append_left _ _) ?_
              (.inl ⟨index, _, update_self _ _ _, rfl⟩)⟩
            rintro later ⟨⟩
            exact ⟨⟨row, hrow, hsame⟩, by rintro ⟨⟩,
              fun _ => List.mem_append_right _ List.mem_cons_self⟩
      · cases hends
  | finishes index result error now =>
      obtain ⟨execution, hheld, hends⟩ := Option.bind_eq_some_iff.mp hstep
      split at hends
      · rename_i outcome hpoint
        cases hends
        have hbacked := hsound.backed index execution hheld
        obtain ⟨row, hrow, hsame⟩ := hbacked.row
        have hfollows : state.tasks.Follows (TaskStep []) (IsNew accounts state.tasks)
            (onTable state.tasks execution.task.taskId
              (.finish execution.worker outcome.status result error now)) :=
          follows_onTable _ fun _ _ => status_of_finish
        obtain ⟨image, himage, htask⟩ := hfollows.kept row hrow
        refine ⟨[], moves_held hheld hfollows rfl rfl (List.Subset.refl _) (List.Subset.refl _)
          ?_ ?_⟩
        · intro later hlater
          cases outcome with
          | raised =>
              cases hlater
              exact ⟨⟨image, himage, htask.same.symm.trans hsame⟩, by rintro ⟨⟩, by rintro ⟨⟩⟩
          | returned => cases hlater
          | cancelled => cases hlater
        · cases outcome with
          | raised => exact .inl ⟨index, _, update_self _ _ _, rfl⟩
          | returned => exact .inr (.inl (hbacked.returned hpoint))
          | cancelled => exact .inr (.inr (.inl (hbacked.cancelled hpoint)))
      · cases hends
  | retries index taskId now =>
      obtain ⟨execution, hheld, hends⟩ := Option.bind_eq_some_iff.mp hstep
      split at hends
      · split at hends
        · rename_i hfresh
          cases hends
          obtain ⟨hfollows, hconcluded⟩ :=
            concluded_retry hsound index (hsound.backed index execution hheld) hfresh now
          exact ⟨[], moves_retry hheld hfollows hconcluded⟩
        · cases hends
      · cases hends
  | crashes index =>
      obtain ⟨execution, hheld, rfl⟩ := Option.map_eq_some_iff.mp hstep
      exact ⟨[], moves_held hheld (.refl TaskStep.refl _) rfl rfl (List.Subset.refl _)
        (List.subset_append_left _ _) (fun _ hlater => by cases hlater)
        (.inr (.inr (.inl (List.mem_append_right _ List.mem_cons_self))))⟩
  | sweeps now clock =>
      cases hstep
      exact ⟨[], moves_tasks (follows_sweep _ _ _) rfl rfl (List.Subset.refl _)
        (List.subset_append_left _ _)⟩

theorem sound_initial (accounts : List String) : Sound accounts {} where
  accounts := fun _ hrow => absurd hrow List.not_mem_nil
  ids := fun _ hrow => absurd hrow List.not_mem_nil
  numbered := fun _ hrow => absurd hrow List.not_mem_nil
  once := .nil
  begun := fun _ hrow => absurd hrow List.not_mem_nil
  known := fun _ hstarted => absurd hstarted List.not_mem_nil
  backed := fun _ _ hexecution => by cases hexecution
  accounted := fun _ hstarted => absurd hstarted List.not_mem_nil

theorem sound_of_run {labels : List RetryLabel}
    (hrun : Run (ofPartial (retryStep accounts)) {} labels state) : Sound accounts state :=
  hrun.invariant (Sound accounts)
    (fun _ _ _ hsound hstep => by
      obtain ⟨claimed, hmoves⟩ := moves_of_step hsound hstep
      exact sound_of_moves hsound hmoves)
    (sound_initial accounts)

end XianyuAdmin.TaskRetries
