import XianyuAdmin.Orders.SyncProtocol

/-!
# Who ends a running order sync task

The finish of a worker and the sweep are fenced by the row, the finish of the
enqueue failure path is not.  The effect of one step on the task table is
described once, as a relation between a row and what becomes of it; what may
end a running row is read off from it.
-/

namespace XianyuAdmin.OrderSync

open XianyuAdmin.TaskStore
open XianyuAdmin.Transition
open Function

/-- `TaskEffect state label row next`: taking `label` in `state` may turn `row`
into `next`. -/
inductive TaskEffect (state : State) (label : Label) (row : BackgroundTask) :
    BackgroundTask → Prop
  | keep : TaskEffect state label row row
  | queued {call : ℕ} {reply : Reply} {run : OrderSyncRun} {task : BackgroundTask}
      {now : ℕ} {next : BackgroundTask} (hlabel : label = .enqueue call reply)
      (hcall : state.enqueuers call = some (.markQueued run task))
      (hnext : markBackgroundTaskQueued now row = some next) :
      TaskEffect state label row next
  | enqueueFailed {call : ℕ} {reply : Reply} {run : OrderSyncRun}
      {task : BackgroundTask} {error : String}
      (hlabel : label = .enqueue call reply)
      (hcall : state.enqueuers call = some (.failTask run task error))
      (hrow : row.taskId = task.taskId) :
      TaskEffect state label row
        (finishUnfencedTask .failed none (some error) reply.now row)
  | claimed {index : ℕ} {taskId : String} {worker : WorkerId} {leaseSeconds : ℤ}
      {now : ℕ} {next : BackgroundTask}
      (hlabel : label = .claim index taskId worker leaseSeconds now)
      (hnext : claimBackgroundTask (some worker.val) leaseSeconds now row =
        some next) : TaskEffect state label row next
  | renewed {index : ℕ} {worker : WorkerId} {leaseSeconds : ℤ} {now : ℕ}
      {next : BackgroundTask} (hlabel : label = .renew index leaseSeconds now)
      (hnext : renewBackgroundTaskLease worker leaseSeconds now row = some next) :
      TaskEffect state label row next
  | finished {index : ℕ} {reply : Reply} {execution : Execution}
      {outcome : TaskOutcome} {status : TaskStatus} {result : Option Json}
      {error : Option String} {next : BackgroundTask}
      (hlabel : label = .execute index reply)
      (hexecution : state.executions index = some execution)
      (hpoint : execution.point = .finish outcome)
      (hrow : row.taskId = execution.taskId)
      (hfinal : status.isFinal = true)
      (hnext : finishClaimedTask execution.worker status result error reply.now
        row = some next) : TaskEffect state label row next
  | swept {now : Option ℕ} {clock : ℕ} {next : BackgroundTask}
      (hlabel : label = .sweep now clock)
      (hnext : failStaleBackgroundTask now clock row = some next) :
      TaskEffect state label row next

variable {state : State} {label : Label} {reply : Reply}

theorem TaskEffect.sameKeys {row next : BackgroundTask}
    (heffect : TaskEffect state label row next) :
    SameKeys row next := by
  cases heffect with
  | keep => exact ⟨rfl, rfl⟩
  | queued _ _ hnext => exact sameKeys_of_markQueued hnext
  | enqueueFailed => exact sameKeys_finishUnfenced _ _ _ _ _
  | claimed _ hnext => exact sameKeys_of_claim hnext
  | renewed _ hnext => exact sameKeys_of_renew hnext
  | finished _ _ _ _ _ hnext => exact sameKeys_of_finishClaimed hnext
  | swept _ hnext => exact sameKeys_of_failStale hnext

theorem TaskEffect.eq_of_failTask {call : ℕ} {run : OrderSyncRun} {task row next : BackgroundTask}
    {error : String} (heffect : TaskEffect state (.enqueue call reply) row next)
    (hcall : state.enqueuers call = some (.failTask run task error))
    (hother : row.taskId ≠ task.taskId) : next = row := by
  cases heffect with
  | keep => rfl
  | queued hlabel hmarking =>
      cases hlabel
      rw [hcall] at hmarking
      cases hmarking
  | enqueueFailed hlabel hfailing hrow =>
      cases hlabel
      rw [hcall] at hfailing
      cases hfailing
      exact absurd hrow hother
  | claimed hlabel => cases hlabel
  | renewed hlabel => cases hlabel
  | finished hlabel => cases hlabel
  | swept hlabel => cases hlabel

def TasksFollow (effect : BackgroundTask → BackgroundTask → Prop)
    (isNew : BackgroundTask → Prop) (before after : TaskTable) : Prop :=
  ∃ update inserted, after.rows = before.rows.map update ++ inserted ∧
    (∀ row, effect row (update row)) ∧ ∀ row ∈ inserted, isNew row

def InsertedTask (state : State) (row : BackgroundTask) : Prop :=
  ∃ call run taskId now, state.enqueuers call = some (.insertTask run) ∧
    row = newTask (taskRequest run) taskId now

variable {effect : BackgroundTask → BackgroundTask → Prop}
variable {isNew : BackgroundTask → Prop}

theorem tasksFollow_refl (hkeep : ∀ row, effect row row) (table : TaskTable) :
    TasksFollow effect isNew table table :=
  ⟨id, [], by simp, hkeep, by simp⟩

theorem tasksFollow_write (hkeep : ∀ row, effect row row)
    {before after : TaskTable}
    {transaction : BackgroundTask → Option BackgroundTask}
    (hrows : after.rows = before.rows.map fun row =>
      (transaction row).getD row)
    (heffect : ∀ row next, transaction row = some next → effect row next) :
    TasksFollow effect isNew before after := by
  refine ⟨fun row => (transaction row).getD row, [], ?_, ?_, by simp⟩
  · rw [hrows, List.append_nil]
  · intro row
    show effect row ((transaction row).getD row)
    cases hnext : transaction row with
    | none => exact hkeep row
    | some next => exact heffect row next hnext

theorem tasksFollow_insert (hkeep : ∀ row, effect row row)
    {table inserted : TaskTable} {row : BackgroundTask} (hnew : isNew row)
    (hinsert : table.insert? row = some inserted) :
    TasksFollow effect isNew table inserted := by
  refine ⟨id, [row], ?_, hkeep, ?_⟩
  · rw [Table.rows_of_insert? hinsert, List.map_id]
  · intro added hadded
    rw [List.mem_singleton.mp hadded]
    exact hnew

theorem tasksFollow_enqueue {call : ℕ} {point : Enqueuer} {after : Database}
    {continuation : Option Enqueuer} (hcall : state.enqueuers call = some point)
    (hmove : EnqueueMove state.database reply point after continuation) :
    TasksFollow (TaskEffect state (.enqueue call reply)) (InsertedTask state)
      state.database.tasks after.tasks := by
  have hkeep : ∀ row, TaskEffect state (.enqueue call reply) row row :=
    fun _ => .keep
  cases hmove with
  | taskInserted hinsert =>
      exact tasksFollow_insert hkeep ⟨call, _, _, _, hcall, rfl⟩ hinsert
  | marked | markFailedAfter =>
      refine tasksFollow_write hkeep rfl ?_
      intro row next hnext
      exact .queued rfl hcall (onTask_eq_some.mp hnext).2
  | taskFailed =>
      refine tasksFollow_write hkeep rfl ?_
      intro row next hnext
      obtain ⟨hrow, hnext⟩ := onTask_eq_some.mp hnext
      rw [← Option.some.inj hnext]
      exact .enqueueFailed rfl hcall hrow
  | requestRejected | runFound | runAbsent | runInserted | runRefused
  | accountMissing | taskFound | taskAbsent | taskRefused | pushed | pushFailed
  | markFailed | runFailed => exact tasksFollow_refl hkeep _

/-- Before its last call an execution does not write to the task table. -/
theorem executeStep_tasks (database : Database) (reply : Reply)
    (point : ExecutionPoint) :
    (executeStep database reply point).1.tasks = database.tasks := by
  cases point with
  | startRun runId =>
      simp only [executeStep]
      split
      · rfl
      · split <;> rfl
  | getAccount run =>
      simp only [executeStep]
      split
      · rfl
      · split <;> rfl
  | body run stage =>
      cases stage with
      | finishRun =>
          simp only [executeStep, bodyWrite]
          split <;> rfl
      | acquireLock | listOrders | mergeCookies | applyOrders | releaseLock => rfl
  | mergeCookies run error | failSync run error =>
      simp only [executeStep]
      split <;> rfl
  | failRun run error =>
      simp only [executeStep]
      split
      · split <;> rfl
      · rfl
  | reloadCookie outcome | finish outcome => rfl

theorem tasksFollow_step {next : State} (hmove : Move state label next) :
    TasksFollow (TaskEffect state label) (InsertedTask state)
      state.database.tasks next.database.tasks := by
  have hkeep : ∀ row, TaskEffect state label row row := fun _ => .keep
  cases hmove with
  | requested | aborted | cancelled | cancelledLate | died =>
      exact tasksFollow_refl hkeep _
  | enqueued hcall hfresh hmove => exact tasksFollow_enqueue hcall hmove
  | claimed hidle =>
      refine tasksFollow_write hkeep rfl ?_
      intro row claimed hclaimed
      exact .claimed rfl (onTask_eq_some.mp hclaimed).2
  | renewed hexecution =>
      refine tasksFollow_write hkeep rfl ?_
      intro row renewed hrenewed
      exact .renewed rfl (onTask_eq_some.mp hrenewed).2
  | @finished index reply execution outcome hexecution hpoint =>
      cases outcome with
      | success result =>
          refine tasksFollow_write hkeep rfl ?_
          intro row finished hfinished
          obtain ⟨hrow, hfinished⟩ := onTask_eq_some.mp hfinished
          exact .finished rfl hexecution hpoint hrow rfl hfinished
      | failed error =>
          refine tasksFollow_write hkeep rfl ?_
          intro row finished hfinished
          obtain ⟨hrow, hfinished⟩ := onTask_eq_some.mp hfinished
          exact .finished rfl hexecution hpoint hrow rfl hfinished
  | executed hexecution =>
      show TasksFollow _ _ _ (executeStep _ _ _).1.tasks
      rw [executeStep_tasks]
      exact tasksFollow_refl hkeep _
  | swept =>
      refine tasksFollow_write hkeep rfl ?_
      intro row swept hswept
      exact .swept rfl hswept

theorem TasksFollow.effect_of_taskId
    (hkeys : ∀ row next, effect row next → SameKeys row next)
    {before after : TaskTable}
    (hfollow : TasksFollow effect isNew before after)
    {row next : BackgroundTask} (hrow : row ∈ before.rows)
    (hnext : next ∈ after.rows) (hid : next.taskId = row.taskId) :
    effect row next := by
  obtain ⟨update, inserted, hrows, heffect, -⟩ := hfollow
  have hmem : update row ∈ after.rows := by
    rw [hrows]
    exact List.mem_append_left _ (List.mem_map_of_mem hrow)
  have hsame : (update row).taskId = next.taskId :=
    (hkeys row _ (heffect row)).1.trans hid.symm
  have heq : update row = next :=
    Table.eq_of_key hmem hnext (taskId_mem_taskKeys.mpr hsame)
      (taskId_mem_taskKeys.mpr rfl)
  exact heq ▸ heffect row

def HasBeenClaimed (row : BackgroundTask) : Prop :=
  row.workerId ≠ none ∨ row.status = .running ∨ row.status = .success

def AttemptsCount (table : TaskTable) : Prop :=
  ∀ row ∈ table.rows, HasBeenClaimed row → 0 < row.attemptCount

theorem TaskEffect.attemptCount_pos {row next : BackgroundTask}
    (heffect : TaskEffect state label row next)
    (hcount : HasBeenClaimed row → 0 < row.attemptCount) (hclaimed : HasBeenClaimed next) :
    0 < next.attemptCount := by
  cases heffect with
  | keep => exact hcount hclaimed
  | queued _ _ hnext =>
      obtain ⟨-, hstatus, hworker, hattempts⟩ := markQueued_eq_some hnext
      rw [HasBeenClaimed, hstatus, hworker] at hclaimed
      rw [hattempts]
      exact hcount hclaimed
  | enqueueFailed =>
      have hworker : row.workerId ≠ none := by
        simpa [HasBeenClaimed, finishUnfencedTask] using hclaimed
      exact hcount (.inl hworker)
  | claimed _ hnext =>
      obtain ⟨-, -, -, -, hattempts⟩ := claim_eq_some hnext
      rw [hattempts]
      exact Nat.succ_pos _
  | renewed _ hnext =>
      obtain ⟨howned, -, -, hattempts⟩ := renew_eq_some hnext
      rw [hattempts]
      exact hcount (.inr (.inl howned.1))
  | finished _ _ _ _ _ hnext =>
      obtain ⟨howned, -, -, hattempts⟩ := finishClaimed_eq_some hnext
      rw [hattempts]
      exact hcount (.inr (.inl howned.1))
  | swept _ hnext =>
      obtain ⟨hrunning, -, -, -, hattempts⟩ := failStale_eq_some hnext
      rw [hattempts]
      exact hcount (.inr (.inl hrunning))

theorem attemptsCount_step {next : State} (hcount : AttemptsCount state.database.tasks)
    (hstep : step state label = some next) :
    AttemptsCount next.database.tasks := by
  obtain ⟨update, inserted, hrows, heffect, hnew⟩ := tasksFollow_step (step_move hstep)
  intro row hrow hclaimed
  rw [hrows, List.mem_append, List.mem_map] at hrow
  rcases hrow with ⟨before, hbefore, rfl⟩ | hinserted
  · exact (heffect before).attemptCount_pos (hcount before hbefore) hclaimed
  · obtain ⟨call, run, taskId, now, -, rfl⟩ := hnew row hinserted
    simp [HasBeenClaimed, newTask] at hclaimed

def FinishedByOwner (state : State) (label : Label) (row : BackgroundTask)
    (worker : String) : Prop :=
  ∃ index reply execution outcome, label = .execute index reply ∧
    state.executions index = some execution ∧
    execution.point = .finish outcome ∧ execution.taskId = row.taskId ∧
    execution.worker.val = worker

def SweptAfterLease (label : Label) (row : BackgroundTask) : Prop :=
  ∃ now clock lease, label = .sweep now clock ∧
    row.leaseExpiresAt = some lease ∧ lease ≤ now.getD clock

structure RespectsOwner (state : State) (label : Label) (next : State) : Prop where
  ended : ∀ row ∈ state.database.tasks.rows, ∀ worker,
    row.status = .running → row.workerId = some worker →
    ∀ after ∈ next.database.tasks.rows, after.taskId = row.taskId →
      after.status ≠ .running →
      FinishedByOwner state label row worker ∨ SweptAfterLease label row
  spared : ∀ call reply run task error, label = .enqueue call reply →
    state.enqueuers call = some (.failTask run task error) →
    ∀ row ∈ state.database.tasks.rows, HasBeenClaimed row →
      row ∈ next.database.tasks.rows

def EnqueueFailsUnclaimed (state : State) (label : Label) : Prop :=
  ∀ call reply run task error, label = .enqueue call reply →
    state.enqueuers call = some (.failTask run task error) →
    ∀ row ∈ state.database.tasks.rows, row.taskId = task.taskId →
      row.attemptCount = 0

theorem respectsOwner_step {next : State} (hcount : AttemptsCount state.database.tasks)
    (hunclaimed : EnqueueFailsUnclaimed state label) (hstep : step state label = some next) :
    RespectsOwner state label next where
  ended := by
    intro row hrow worker hrunning hworker after hafter hid hstopped
    have heffect := (tasksFollow_step (step_move hstep)).effect_of_taskId
      (fun _ _ => TaskEffect.sameKeys) hrow hafter hid
    cases heffect with
    | keep => exact absurd hrunning hstopped
    | queued _ _ hnext =>
        have hpending := (markQueued_eq_some hnext).1
        rw [hrunning] at hpending
        cases hpending
    | enqueueFailed hlabel hcall htask =>
        have hzero := hunclaimed _ _ _ _ _ hlabel hcall row hrow htask
        have hpos := hcount row hrow (.inr (.inl hrunning))
        omega
    | claimed _ hnext =>
        have hpending := (claim_eq_some hnext).1
        rw [hrunning] at hpending
        cases hpending
    | renewed _ hnext =>
        obtain ⟨-, hstatus, -, -⟩ := renew_eq_some hnext
        exact absurd (hstatus.trans hrunning) hstopped
    | finished hlabel hexecution hpoint htask hfinal hnext =>
        obtain ⟨howned, -, -, -⟩ := finishClaimed_eq_some hnext
        have howner := Option.some.inj (howned.2.symm.trans hworker)
        exact .inl ⟨_, _, _, _, hlabel, hexecution, hpoint, htask.symm, howner⟩
    | swept hlabel hnext =>
        obtain ⟨-, ⟨lease, hlease, hexpired⟩, -, -, -⟩ := failStale_eq_some hnext
        exact .inr ⟨_, _, lease, hlabel, hlease, hexpired⟩
  spared := by
    rintro call reply run task error rfl hcall row hrow hclaimed
    have hother : row.taskId ≠ task.taskId := by
      intro htask
      have hzero := hunclaimed _ _ _ _ _ rfl hcall row hrow htask
      have hpos := hcount row hrow hclaimed
      omega
    obtain ⟨update, inserted, hrows, heffect, -⟩ := tasksFollow_step (step_move hstep)
    have hkept : update row = row :=
      (heffect row).eq_of_failTask hcall hother
    have hmem : update row ∈ next.database.tasks.rows := by
      rw [hrows]
      exact List.mem_append_left _ (List.mem_map_of_mem hrow)
    exact hkept ▸ hmem

/-- In every run in which enqueue failures are recorded on unclaimed tasks
only, every step respects the owner of a claimed row. -/
theorem claimed_task_ended_by_owner {accounts : List String}
    {labels : List Label} {state next : State} {label : Label}
    (hrun : Run (restrict (ofPartial step) EnqueueFailsUnclaimed)
      (initial accounts) labels state)
    (hunclaimed : EnqueueFailsUnclaimed state label)
    (hstep : step state label = some next) :
    RespectsOwner state label next := by
  have hcount : AttemptsCount state.database.tasks := by
    apply hrun.forget.invariant fun state => AttemptsCount state.database.tasks
    · intro before label after hbefore hstep
      exact attemptsCount_step hbefore hstep
    · intro row hrow
      cases hrow
  exact respectsOwner_step hcount hunclaimed hstep

def createLabels : List Label :=
  [.request 0
      { accountId := "seller", scope := "sold", mode := "full"
        trigger := "manual" },
    .enqueue 0 {}, .enqueue 0 { freshId := "run-1" }, .enqueue 0 {},
    .enqueue 0 { freshId := "task-1" }]

def firstWorker : WorkerId := ⟨"worker-1", by decide⟩

def redisDown : Reply := { raised := some (.exception "ConnectionError" "refused") }

theorem enqueueFailsUnclaimed_of_point {call : ℕ} {point : Enqueuer}
    (hcall : state.enqueuers call = some point)
    (hpoint : ∀ run task error, point ≠ .failTask run task error) :
    EnqueueFailsUnclaimed state (.enqueue call reply) := by
  intro call' reply' run task error hlabel hfailing
  cases hlabel
  rw [hcall] at hfailing
  exact absurd (Option.some.inj hfailing) (hpoint run task error)

/-- An enqueue call whose push fails before any worker saw the task. -/
theorem unclaimed_failure_respects_owner :
    ∃ state next, step state (.enqueue 0 {}) = some next ∧
      (∃ run task error, state.enqueuers 0 = some (.failTask run task error)) ∧
      RespectsOwner state (.enqueue 0 {}) next := by
  obtain ⟨state, hrun, next, hstep, hcall, hzero⟩ : ∃ state,
      Run (restrict (ofPartial step) EnqueueFailsUnclaimed) (initial ["seller"])
        (createLabels ++ [.enqueue 0 redisDown]) state ∧
      ∃ next, step state (.enqueue 0 {}) = some next ∧
        (∃ run task error, state.enqueuers 0 = some (.failTask run task error)) ∧
        ∀ row ∈ state.database.tasks.rows, row.attemptCount = 0 := by
    refine ⟨_, .cons ⟨?_, rfl⟩ (.cons ⟨?_, rfl⟩ (.cons ⟨?_, rfl⟩
      (.cons ⟨?_, rfl⟩ (.cons ⟨?_, rfl⟩ (.cons ⟨?_, rfl⟩ (.nil _)))))),
      _, rfl, ⟨_, _, _, rfl⟩, ?unclaimed⟩
    case unclaimed =>
      intro row hrow
      rw [List.mem_singleton.mp hrow]
      rfl
    · exact fun _ _ _ _ _ hlabel => nomatch hlabel
    all_goals exact enqueueFailsUnclaimed_of_point rfl (by simp)
  refine ⟨state, next, hstep, hcall,
    claimed_task_ended_by_owner hrun ?_ hstep⟩
  intro call reply run task error _ _ row hrow _
  exact hzero row hrow

/-- A worker that polls the database claims the task before the push fails: the
failure path then ends the running task. -/
theorem enqueue_failure_ends_claimed_task :
    ¬ ∀ accounts labels state label next,
      Run (ofPartial step) (initial accounts) labels state →
      step state label = some next → RespectsOwner state label next := by
  intro hrespects
  obtain ⟨state, hrun, next, hstep, hcall, row, hrow, hrunning, hlost⟩ :
      ∃ state, runPartial step (initial ["seller"])
        (createLabels ++
          [.claim 0 "task-1" firstWorker 60 1, .enqueue 0 redisDown]) =
            some state ∧
      ∃ next, step state (.enqueue 0 {}) = some next ∧
        (∃ run task error, state.enqueuers 0 = some (.failTask run task error)) ∧
        ∃ row ∈ state.database.tasks.rows, row.status = .running ∧
          ∀ after ∈ next.database.tasks.rows, after.status = .failed := by
    refine ⟨_, rfl, _, rfl, ⟨_, _, _, rfl⟩, _, List.mem_singleton_self _, rfl, ?_⟩
    intro after hafter
    rw [List.mem_singleton.mp hafter]
    rfl
  obtain ⟨run, task, error, hcall⟩ := hcall
  have hkept := (hrespects _ _ state (.enqueue 0 {}) next
    (run_ofPartial_iff.mpr hrun) hstep).spared 0 {} run task error rfl hcall row
      hrow (.inr (.inl hrunning))
  have hfailed := hlost row hkept
  rw [hrunning] at hfailed
  cases hfailed

end XianyuAdmin.OrderSync
