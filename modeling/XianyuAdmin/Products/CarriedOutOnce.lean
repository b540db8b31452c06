import XianyuAdmin.Products.RunClaims

/-!
# A run is carried out once and is not left behind

`create_run` returns an active run instead of a new one, so a run that stays active
without a task to execute it blocks the next ones.  Whoever may still end an active run
attends it: its open task, an enqueue call that has not created the task or is recording
a failure, an execution that has not finished the run.
-/

namespace XianyuAdmin.Products

open XianyuAdmin.TaskStore
open XianyuAdmin.Transition
open Function

variable {database changed : RunDatabase} {state next : RunState} {label : RunLabel}

def RunDatabase.TaskOpen (database : RunDatabase) (runId : String) : Prop :=
  ∃ task ∈ database.tasks.rows, task.dedupeKey = some (runDedupeKey runId) ∧
    (task.status = .pending ∨ task.status = .running)

/-- An enqueue call attends its run until the task exists, and again once it handles a
failure. -/
def Enqueuer.Attends (database : RunDatabase) (runId : String) : Enqueuer → Prop
  | .checkTask _ run | .insertTask _ run => run.runId = runId ∧
      ∀ task ∈ database.tasks.rows, task.dedupeKey ≠ some (runDedupeKey runId)
  | .failTask _ run _ _ | .failRun _ run _ => run.runId = runId
  | .checkRun _ | .insertRun _ | .push .. | .markQueued .. => False

/-- The run that an execution has still to finish. -/
def ExecutionPoint.unfinished? : ExecutionPoint → Option String
  | .startRun runId => some runId
  | .getAccount run | .acquireLock run | .operating run | .finishing run _
  | .mergingError run _ _ | .failSync run _ _ _ | .failRun run _ _ _ => some run.runId
  | .merging .. | .returned _ | .finish _ => none

def RunCall.Attends (database : RunDatabase) (runId : String) : RunCall → Prop
  | .enqueuing enqueuer => enqueuer.Attends database runId
  | .executing execution => execution.point.unfinished? = some runId

/-- What may be left to see that a run ends. -/
inductive Guard
  | task
  | call (index : ℕ)
  deriving DecidableEq

def Guard.Attends (state : RunState) (runId : String) : Guard → Prop
  | .task => state.database.TaskOpen runId
  | .call index => ∃ call, state.calls index = some call ∧ call.Attends state.database runId

/-- An exception leaves `execute_run` before the run is finished: it is raised outside the
`try` statement or in one of its handlers. -/
def ExecutionPoint.Escapes (reply : Reply) : ExecutionPoint → Prop
  | .startRun _ | .getAccount _ | .acquireLock _ | .mergingError .. | .failSync .. =>
      reply.raised.isSome = true
  | .failRun .. => reply.raised.isSome = true ∧ reply.committed = false
  | .operating _ | .finishing .. | .merging .. | .returned _ | .finish _ => False

/-- The step ends the task, by its worker or by the sweeper. -/
def Closes (state : RunState) (task : BackgroundTask) : RunLabel → Prop
  | .resume index _ => ∃ execution outcome,
      state.calls index = some (.executing execution) ∧ execution.point = .finish outcome ∧
        task.taskId = execution.taskId ∧ OwnedBy execution.worker.1 task
  | .sweep now clock => isStale (now.getD clock) task = true
  | _ => False

def Guard.IsDropped (state : RunState) (label : RunLabel) (runId : String) : Guard → Prop
  | .task => ∃ task ∈ state.database.tasks.rows,
      task.dedupeKey = some (runDedupeKey runId) ∧ Closes state task label
  | .call index => label = .cancel index ∨ label = .die index ∨
      ∃ reply execution, label = .resume index reply ∧
        state.calls index = some (.executing execution) ∧ execution.point.Escapes reply

def KeepsAttended (state : RunState) (label : RunLabel) : Prop :=
  ∀ run ∈ state.database.runs.rows, run.status.isActive = true → ∀ guard : Guard,
    guard.Attends state run.runId → guard.IsDropped state label run.runId →
    ∃ other : Guard, other.Attends state run.runId ∧ ¬ other.IsDropped state label run.runId

def RunsCovered (state : RunState) : Prop :=
  ∀ run ∈ state.database.runs.rows, run.status.isActive = true →
    ∃ guard : Guard, guard.Attends state run.runId

def RunWrite.Ends (task : BackgroundTask) : RunWrite → Prop
  | .updateTask taskId _ (.fail _) => task.taskId = taskId
  | .updateTask taskId _ (.finish worker _) => task.taskId = taskId ∧ OwnedBy worker.1 task
  | .sweepTasks now clock => isStale (now.getD clock) task = true
  | _ => False

theorem open_of_apply {now : ℕ} {row written : BackgroundTask} {update : TaskUpdate}
    (hopen : row.status = .pending ∨ row.status = .running)
    (hspared : ¬ RunWrite.Ends row (.updateTask row.taskId now update))
    (hupdate : update.apply now row = some written) :
    written.status = .pending ∨ written.status = .running := by
  cases update with
  | markQueued =>
      rw [(markQueued_eq_some hupdate).2.1]
      exact hopen
  | fail error => exact absurd rfl hspared
  | claim worker leaseSeconds => exact .inr (claim_eq_some hupdate).2.2.1
  | renew worker leaseSeconds =>
      rw [(renew_eq_some hupdate).2.1]
      exact hopen
  | finish worker outcome =>
      have howned : OwnedBy worker.1 row := by
        cases outcome <;> exact (finishClaimed_eq_some hupdate).1
      exact absurd ⟨rfl, howned⟩ hspared
  | reset => exact .inl (reset_eq_some hupdate).2.1

variable {runId : String} {enqueuer : Enqueuer} {reply : Reply} {index : ℕ} {call : RunCall}
  {run : RunRow}

theorem taskOpen_after {write : Option RunWrite} (hopen : database.TaskOpen runId)
    (hspared : ∀ made ∈ write, ∀ task ∈ database.tasks.rows,
      task.dedupeKey = some (runDedupeKey runId) → ¬ made.Ends task)
    (hafter : database.after write = some changed) : changed.TaskOpen runId := by
  obtain ⟨task, htask, hkey, hstatus⟩ := hopen
  cases write with
  | none =>
      cases hafter
      exact ⟨task, htask, hkey, hstatus⟩
  | some made =>
      have hmade := hspared made rfl task htask hkey
      cases made with
      | insertRun row =>
          simp only [RunDatabase.after, Option.elim_some, RunDatabase.apply] at hafter
          split at hafter
          · obtain ⟨runs, -, rfl⟩ := Option.map_eq_some_iff.mp hafter
            exact ⟨task, htask, hkey, hstatus⟩
          · cases hafter
      | updateRun runId now update =>
          cases hafter
          exact ⟨task, htask, hkey, hstatus⟩
      | insertTask row =>
          obtain ⟨tasks, hinsert, rfl⟩ := Option.map_eq_some_iff.mp hafter
          refine ⟨task, ?_, hkey, hstatus⟩
          show task ∈ Table.rows _
          rw [Table.rows_of_insert? hinsert]
          exact List.mem_append_left _ htask
      | updateTask taskId now update =>
          cases hafter
          refine ⟨_, List.mem_map_of_mem htask, ?_⟩
          cases hwritten : onTask taskId (TaskUpdate.apply now · update) task with
          | none => exact ⟨hkey, hstatus⟩
          | some written =>
              obtain ⟨rfl, hupdate⟩ := onTask_eq_some.mp hwritten
              rw [Option.getD_some, (TaskUpdate.sameKeys_of_apply hupdate).2]
              exact ⟨hkey, open_of_apply hstatus hmade hupdate⟩
      | sweepTasks now clock =>
          cases hafter
          refine ⟨_, List.mem_map_of_mem htask, ?_⟩
          have hkept : failStaleBackgroundTask now clock task = none := by
            simp only [failStaleBackgroundTask]
            exact if_neg hmade
          rw [hkept]
          exact ⟨hkey, hstatus⟩

/-- The call that a label resumes, starts or stops. -/
def RunLabel.acting : RunLabel → Option ℕ
  | .request index _ | .claim index .. | .resume index _ | .cancel index | .die index =>
      some index
  | .renew .. | .sweep .. | .reset .. => none

/-- The step commits `write` and touches no other call than the acting one. -/
structure Moves (state : RunState) (label : RunLabel) (next : RunState)
    (write : Option RunWrite) : Prop where
  fits : ∀ made ∈ write, made.Fits state.database
  database : state.database.after write = some next.database
  others : ∀ index, label.acting ≠ some index → next.calls index = state.calls index
  ends : ∀ made ∈ write, ∀ task, made.Ends task → Closes state task label ∨
    ∃ index request run held error,
      state.calls index = some (.enqueuing (.failTask request run held error)) ∧
        task.taskId = held.taskId ∧
        next.calls index = some (.enqueuing (.failRun request run error))
  inserts : ∀ row, write = some (.insertRun row) → ∃ index request,
    next.calls index = some (.enqueuing (.checkTask request row))

theorem enqueueTurn_ends {made : RunWrite} {task : BackgroundTask}
    (hmade : made ∈ (enqueueTurn database reply enqueuer).1) (hends : made.Ends task) :
    ∃ request run held error,
      enqueuer = .failTask request run held error ∧ task.taskId = held.taskId := by
  cases enqueuer with
  | checkRun request =>
      simp only [enqueueTurn] at hmade
      split at hmade
      · cases hmade
      · split at hmade <;> cases hmade
  | insertRun request =>
      cases hmade
      exact hends.elim
  | checkTask request run =>
      simp only [enqueueTurn] at hmade
      split at hmade
      · cases hmade
      · split at hmade <;> cases hmade
  | insertTask request run =>
      cases hmade
      exact hends.elim
  | push request run held =>
      simp only [enqueueTurn] at hmade
      split at hmade <;> cases hmade
  | markQueued request run held =>
      simp only [enqueueTurn, Reply.commits] at hmade
      split at hmade <;> cases hmade
      exact hends.elim
  | failTask request run held error =>
      cases hmade
      exact ⟨request, run, held, error, rfl, hends⟩
  | failRun request run error =>
      cases hmade
      exact hends.elim

theorem enqueueTurn_inserts {row : RunRow}
    (hmade : (enqueueTurn database reply enqueuer).1 = some (.insertRun row)) :
    ∃ request, (enqueueTurn database reply enqueuer).2 = some (.checkTask request row) := by
  cases enqueuer with
  | checkRun request =>
      simp only [enqueueTurn] at hmade
      split at hmade
      · cases hmade
      · split at hmade <;> cases hmade
  | insertRun request =>
      cases hmade
      exact ⟨request, rfl⟩
  | checkTask request run =>
      simp only [enqueueTurn] at hmade
      split at hmade
      · cases hmade
      · split at hmade <;> cases hmade
  | push request run held =>
      simp only [enqueueTurn] at hmade
      split at hmade <;> cases hmade
  | markQueued request run held =>
      simp only [enqueueTurn, Reply.commits] at hmade
      split at hmade <;> cases hmade
  | insertTask | failTask | failRun => cases hmade

theorem put_calls_self (state : RunState) (index : ℕ) (call : Option RunCall) :
    (state.put index call).calls index = call := update_self _ _ _

theorem put_calls_of_ne (state : RunState) {other : ℕ} (call : Option RunCall)
    (hother : some index ≠ some other) : (state.put index call).calls other = state.calls other :=
  update_of_ne (fun hsame => hother (congrArg some hsame.symm)) _ _

theorem moves_put (state : RunState) (index : ℕ) (call : Option RunCall)
    (hacting : label.acting = some index) : Moves state label (state.put index call) none where
  fits := by
    intro made hmade
    cases hmade
  database := rfl
  others := by
    intro other hother
    rw [hacting] at hother
    exact put_calls_of_ne state call hother
  ends := by
    intro made hmade
    cases hmade
  inserts := by
    intro row hwrite
    cases hwrite

def RunWrite.insertsRun : RunWrite → Bool
  | .insertRun _ => true
  | _ => false

theorem moves_commit {write : RunWrite} {calls : ℕ → Option RunCall} {claims : List String}
    (hafter : state.database.after (some write) = some changed) (hfits : write.Fits state.database)
    (hothers : ∀ index, label.acting ≠ some index → calls index = state.calls index)
    (hends : ∀ task, write.Ends task → Closes state task label)
    (hinserts : write.insertsRun = false) :
    Moves state label { database := changed, calls := calls, claims := claims } (some write) where
  fits := by
    rintro made ⟨⟩
    exact hfits
  database := hafter
  others := hothers
  ends := by
    rintro made ⟨⟩ task htask
    exact .inl (hends task htask)
  inserts := by
    intro row hwrite
    cases hwrite
    cases hinserts

theorem moves_resume (horderly : Orderly state) (hcall : state.calls index = some call)
    (hafter : state.database.after (call.turn state.database reply).1 = some changed) :
    Moves state (.resume index reply)
      ({ state with database := changed }.put index (call.turn state.database reply).2)
      (call.turn state.database reply).1 := by
  refine ⟨RunCall.fits_turn (horderly.sound index call hcall) reply, hafter, ?_, ?_, ?_⟩
  · intro other hother
    exact put_calls_of_ne _ _ hother
  · intro made hmade task hends
    cases call with
    | enqueuing enqueuer =>
        obtain ⟨request, run, held, error, rfl, hid⟩ := enqueueTurn_ends hmade hends
        exact .inr ⟨index, request, run, held, error, hcall, hid, put_calls_self _ _ _⟩
    | executing execution =>
        by_cases hfinish : ∃ outcome, execution.point = .finish outcome
        · obtain ⟨outcome, hpoint⟩ := hfinish
          rw [turn_of_finish hpoint] at hmade
          cases hmade
          exact .inl ⟨execution, outcome, hcall, hpoint, hends⟩
        · rw [turn_of_ne_finish fun outcome hpoint => hfinish ⟨outcome, hpoint⟩] at hmade
          obtain ⟨runId, now, update, rfl⟩ := updateRun_of_executeTurn hmade
          exact hends.elim
  · intro row hmade
    cases call with
    | enqueuing enqueuer =>
        obtain ⟨request, hnext⟩ := enqueueTurn_inserts hmade
        refine ⟨index, request, ?_⟩
        rw [put_calls_self]
        exact congrArg (Option.map RunCall.enqueuing) hnext
    | executing execution =>
        by_cases hfinish : ∃ outcome, execution.point = .finish outcome
        · obtain ⟨outcome, hpoint⟩ := hfinish
          rw [turn_of_finish hpoint] at hmade
          cases hmade
        · rw [turn_of_ne_finish fun outcome hpoint => hfinish ⟨outcome, hpoint⟩] at hmade
          obtain ⟨runId, now, update, hrow⟩ := updateRun_of_executeTurn hmade
          cases hrow

theorem moves_of_step (horderly : Orderly state) (hresets : ResetsNoFailed state label)
    (hstep : runStep state label = some next) : ∃ write, Moves state label next write := by
  cases label with
  | request index request =>
      simp only [runStep] at hstep
      split at hstep
      · cases hstep
        exact ⟨none, moves_put state index _ rfl⟩
      · cases hstep
  | claim index taskId worker leaseSeconds now =>
      obtain ⟨row, claimed, changed, -, -, -, -, hafter, rfl⟩ := claim_cases hstep
      refine ⟨_, moves_commit hafter trivial ?_ (fun _ hends => hends.elim) rfl⟩
      intro other hother
      exact update_of_ne (fun hsame => hother (congrArg some hsame.symm)) _ _
  | renew index leaseSeconds now =>
      simp only [runStep] at hstep
      split at hstep
      · obtain ⟨changed, hafter, rfl⟩ := commit_eq_some hstep
        exact ⟨_, moves_commit hafter trivial (fun _ _ => rfl) (fun _ hends => hends.elim) rfl⟩
      · cases hstep
  | resume index reply =>
      obtain ⟨call, hcall, -, ⟨changed, hafter, rfl⟩ | ⟨-, rfl⟩⟩ := resume_cases hstep
      · exact ⟨_, moves_resume horderly hcall hafter⟩
      · exact ⟨none, moves_put state index _ rfl⟩
  | cancel index =>
      obtain ⟨call, -, rfl⟩ := Option.map_eq_some_iff.mp hstep
      exact ⟨none, moves_put state index _ rfl⟩
  | die index =>
      cases hstep
      exact ⟨none, moves_put state index _ rfl⟩
  | sweep now clock =>
      obtain ⟨changed, hafter, rfl⟩ := commit_eq_some hstep
      exact ⟨_, moves_commit hafter trivial (fun _ _ => rfl) (fun _ hends => hends) rfl⟩
  | reset taskId now =>
      obtain ⟨changed, hafter, rfl⟩ := commit_eq_some hstep
      exact ⟨_, moves_commit hafter hresets (fun _ _ => rfl) (fun _ hends => hends.elim) rfl⟩

variable {write : Option RunWrite}

theorem Moves.grows (hmoves : Moves state label next write) :
    RunDatabase.Grows write state.database next.database :=
  grows_of_after hmoves.fits hmoves.database

/-- A task that appears in a step is pending. -/
theorem Moves.isOpen_of_new (hmoves : Moves state label next write)
    (hnone : ∀ task ∈ state.database.tasks.rows, task.dedupeKey ≠ some (runDedupeKey runId))
    {task : BackgroundTask} (htask : task ∈ next.database.tasks.rows)
    (hkey : task.dedupeKey = some (runDedupeKey runId)) : next.database.TaskOpen runId := by
  rcases hmoves.grows.tasks.origin task htask with ⟨row, hrow, hkept⟩ | rfl
  · exact absurd (hkept.keys.2.symm.trans hkey) (hnone row hrow)
  · obtain ⟨request, taskRun, taskId, now, rfl, -⟩ := hmoves.fits _ rfl
    exact ⟨_, htask, hkey, .inl rfl⟩

/-- The open task stays open, unless the step closes it or an enqueue call that goes on to
fail the run ended it. -/
theorem Moves.attends_of_task (hmoves : Moves state label next write) (horderly : Orderly state)
    (hopen : state.database.TaskOpen runId) (hkept : ¬ Guard.IsDropped state label runId .task) :
    ∃ guard : Guard, guard.Attends next runId := by
  by_cases hends : ∃ made ∈ write, ∃ task ∈ state.database.tasks.rows,
      task.dedupeKey = some (runDedupeKey runId) ∧ made.Ends task
  · obtain ⟨made, hmade, task, htask, hkey, hends⟩ := hends
    rcases hmoves.ends made hmade task hends with
      hcloses | ⟨index, request, run, held, error, hcall, hid, hnext⟩
    · exact absurd ⟨task, htask, hkey, hcloses⟩ hkept
    · -- the call knows its task by the key of its run
      obtain ⟨stored, hstored, hstoredId, hstoredKey⟩ := horderly.sound index _ hcall
      have hsame : stored = task :=
        Table.eq_of_key hstored htask (taskId_mem_taskKeys.mpr hstoredId)
          (taskId_mem_taskKeys.mpr hid)
      rw [hsame, hkey, Option.some.injEq, runDedupeKey_inj] at hstoredKey
      exact ⟨.call index, _, hnext, hstoredKey.symm⟩
  · refine ⟨.task, taskOpen_after hopen ?_ hmoves.database⟩
    intro made hmade task htask hkey hmadeEnds
    exact hends ⟨made, hmade, task, htask, hkey, hmadeEnds⟩

theorem Moves.attends_of_database (hmoves : Moves state label next write)
    (hcall : next.calls index = some call) (hattends : call.Attends state.database runId) :
    ∃ guard : Guard, guard.Attends next runId := by
  cases call with
  | executing execution => exact ⟨.call index, _, hcall, hattends⟩
  | enqueuing enqueuer =>
      cases enqueuer with
      | checkTask request run | insertTask request run =>
          by_cases htask : ∃ task ∈ next.database.tasks.rows,
              task.dedupeKey = some (runDedupeKey runId)
          · obtain ⟨task, hmem, hkey⟩ := htask
            exact ⟨.task, hmoves.isOpen_of_new hattends.2 hmem hkey⟩
          · refine ⟨.call index, _, hcall, hattends.1, fun task hmem hkey => ?_⟩
            exact htask ⟨task, hmem, hkey⟩
      | failTask | failRun => exact ⟨.call index, _, hcall, hattends⟩
      | checkRun | insertRun | push | markQueued => exact hattends.elim

/-- After `finish_run` the run is not active. -/
theorem not_active_of_finish {now : ℕ} {summary : EndSummary}
    (hafter : database.after (some (.updateRun runId now (.finish summary))) = some changed)
    (hrun : run ∈ changed.runs.rows) (hid : run.runId = runId) :
    run.status.isActive = false := by
  cases hafter
  obtain ⟨row, -, hrow⟩ := List.mem_map.mp hrun
  have hsame : row.runId = runId := by
    rw [← hid, ← hrow]
    split <;> rfl
  rw [if_pos hsame] at hrow
  rw [← hrow]
  exact summary.2

theorem Enqueuer.attends_turn (hstored : RunsStored database) (hsound : enqueuer.Sound database)
    (hattends : enqueuer.Attends database runId)
    (hafter : database.after (enqueueTurn database reply enqueuer).1 = some changed)
    (hrun : run ∈ changed.runs.rows) (hid : run.runId = runId)
    (hactive : run.status.isActive = true) :
    changed.TaskOpen runId ∨ ∃ goesOn, (enqueueTurn database reply enqueuer).2 = some goesOn ∧
      goesOn.Attends changed runId := by
  cases enqueuer with
  | checkRun | insertRun | push | markQueued => exact hattends.elim
  | checkTask request own =>
      obtain ⟨row, hrow, -, haccount⟩ := hsound
      have hstored := hstored.accounts row hrow
      rw [haccount] at hstored
      have hnone : database.tasks.lookup (.dedupeKey (runDedupeKey own.runId)) = none := by
        rw [Table.lookup_eq_none_iff]
        intro task htask hkey
        refine hattends.2 task htask ?_
        rw [← hattends.1]
        exact dedupeKey_mem_taskKeys.mp hkey
      have hturn : enqueueTurn database reply (.checkTask request own) =
          (none, some (.insertTask request own)) := by
        simp only [enqueueTurn, hnone]
        exact if_neg fun hmissing => hmissing.2 hstored
      rw [hturn] at hafter ⊢
      cases hafter
      exact .inr ⟨_, rfl, hattends⟩
  | insertTask request own =>
      obtain ⟨tasks, hinsert, rfl⟩ := Option.map_eq_some_iff.mp hafter
      refine .inl ⟨newTask (runTaskRequest request own.runId) reply.freshId reply.now, ?_, ?_,
        .inl rfl⟩
      · show _ ∈ Table.rows _
        rw [Table.rows_of_insert? hinsert]
        exact List.mem_append_right _ (List.mem_singleton_self _)
      · rw [← hattends.1]
        rfl
  | failTask request own task error => exact .inr ⟨_, rfl, hattends⟩
  | failRun request own error =>
      rw [not_active_of_finish hafter hrun (hid.trans hattends.symm)] at hactive
      cases hactive

theorem Enqueuer.accepted_of_attends
    (hfresh : database.tasks.lookup (.taskId reply.freshId) = none)
    (hattends : enqueuer.Attends database runId) :
    database.after (enqueueTurn database reply enqueuer).1 ≠ none := by
  cases enqueuer with
  | checkRun | insertRun | push | markQueued => exact hattends.elim
  | checkTask request own =>
      simp only [enqueueTurn]
      split
      · exact Option.some_ne_none _
      · split <;> exact Option.some_ne_none _
  | insertTask request own =>
      have hfree : ∀ key ∈ TaskStore.taskKeys
          (newTask (runTaskRequest request own.runId) reply.freshId reply.now),
          database.tasks.lookup key = none := by
        intro key hkey
        have hcases : key = .taskId reply.freshId ∨
            key = .dedupeKey (runDedupeKey own.runId) := by
          simpa [TaskStore.taskKeys, newTask, runTaskRequest] using hkey
        rcases hcases with rfl | rfl
        · exact hfresh
        · rw [Table.lookup_eq_none_iff]
          intro task htask hclash
          refine hattends.2 task htask ?_
          rw [← hattends.1]
          exact dedupeKey_mem_taskKeys.mp hclash
      obtain ⟨tasks, hinsert⟩ := Table.exists_insert?_of_fresh hfree
      simp [enqueueTurn, RunDatabase.after, RunDatabase.apply, hinsert]
  | failTask | failRun => exact Option.some_ne_none _

theorem unfinished?_recordPoint (run : OperationRun) (uncertain reraises : Bool)
    (error : String) : (recordPoint run uncertain reraises error).unfinished? =
      some run.runId := by
  unfold recordPoint
  split <;> rfl

theorem unfinished?_handlerOf (run : OperationRun) (raised : AwaitRaised) :
    (handlerOf run raised).unfinished? = some run.runId := by
  cases raised with
  | productOperation text uncertain => rfl
  | exception className text => exact unfinished?_recordPoint run _ _ _

/-- `start_run` leaves an active run that it finds. -/
theorem status_of_start {now : ℕ} {row : RunRow} (hlookup : database.runs.lookup runId = some row)
    (hafter : database.after (some (.updateRun runId now .start)) = some changed)
    (hrun : run ∈ changed.runs.rows) (hid : run.runId = runId) :
    run.toOperationRun = row.toOperationRun.start now := by
  obtain ⟨hrow, hkey⟩ := Table.lookup_eq_some_iff.mp hlookup
  cases hafter
  obtain ⟨before, hbefore, hwritten⟩ := List.mem_map.mp hrun
  have hsame : before.runId = runId := by
    rw [← hid, ← hwritten]
    split
    · exact (RunUpdate.runId_apply now before .start).symm
    · rfl
  have hbeforeRow : before = row :=
    Table.eq_of_key hbefore hrow (List.mem_singleton.mpr hsame.symm) hkey
  rw [if_pos hsame, hbeforeRow] at hwritten
  rw [← hwritten]
  rfl

theorem unfinished?_executeTurn {point : ExecutionPoint}
    (haccount : ∀ run, point = .getAccount run → run.accountId ∈ database.accounts)
    (hkept : ¬ point.Escapes reply) (hattends : point.unfinished? = some runId)
    (hafter : database.after (executeTurn database reply point).1 = some changed)
    (hrun : run ∈ changed.runs.rows) (hid : run.runId = runId)
    (hactive : run.status.isActive = true) :
    (executeTurn database reply point).2.unfinished? = some runId := by
  have hended : ∀ now summary, database.after (some (.updateRun runId now (.finish summary))) ≠
      some changed := by
    intro now summary hfinished
    rw [not_active_of_finish hfinished hrun hid] at hactive
    cases hactive
  cases point with
  | startRun ownId =>
      cases hattends
      have hraised : reply.raised = none := by
        simpa [ExecutionPoint.Escapes] using hkept
      simp only [executeTurn, Reply.commits, hraised, Option.isNone_none, Bool.true_or,
        if_true] at hafter ⊢
      cases hlookup : database.runs.lookup runId with
      | none =>
          simp only [hlookup] at hafter
          cases hafter
          obtain ⟨before, hbefore, hwritten⟩ := List.mem_map.mp hrun
          have hsame : before.runId = runId := by
            rw [← hid, ← hwritten]
            split
            · exact (RunUpdate.runId_apply _ before .start).symm
            · rfl
          exact absurd (List.mem_singleton.mpr hsame.symm)
            (Table.lookup_eq_none_iff.mp hlookup before hbefore)
      | some row =>
          simp only [hlookup] at hafter ⊢
          have hstatus := status_of_start hlookup hafter hrun hid
          have hrowId := (Table.lookup_eq_some_iff.mp hlookup).2
          rw [runRowKeys, List.mem_singleton] at hrowId
          rw [if_pos (by rw [← hstatus]; exact hactive), ExecutionPoint.unfinished?, runId_start,
            ← hrowId]
  | getAccount own =>
      have hraised : reply.raised = none := by
        simpa [ExecutionPoint.Escapes] using hkept
      simp only [executeTurn, hraised, if_pos (haccount own rfl)]
      exact hattends
  | acquireLock own =>
      have hraised : reply.raised = none := by
        simpa [ExecutionPoint.Escapes] using hkept
      simp only [executeTurn, hraised, Option.elim_none]
      exact hattends
  | operating own =>
      simp only [executeTurn]
      cases hraised : reply.raised with
      | none =>
          rw [Option.elim_none]
          split <;> exact hattends
      | some raised =>
          rw [Option.elim_some, unfinished?_handlerOf]
          exact hattends
  | finishing own summary =>
      cases hattends
      simp only [executeTurn] at hafter ⊢
      cases hraised : reply.raised with
      | none =>
          simp only [Reply.commits, hraised, Option.isNone_none, Bool.true_or, if_true] at hafter
          exact absurd hafter (hended _ _)
      | some raised => rw [Option.elim_some, unfinished?_handlerOf]
  | mergingError own uncertain error =>
      have hraised : reply.raised = none := by
        simpa [ExecutionPoint.Escapes] using hkept
      simp only [executeTurn, hraised, Option.elim_none, unfinished?_recordPoint]
      exact hattends
  | failSync own uncertain reraises error =>
      have hraised : reply.raised = none := by
        simpa [ExecutionPoint.Escapes] using hkept
      simp only [executeTurn, hraised, Option.elim_none]
      exact hattends
  | failRun own uncertain reraises error =>
      cases hattends
      have hcommits : (reply.raised.isNone || reply.committed) = true := by
        cases hraised : reply.raised with
        | none => rfl
        | some raised => simpa [ExecutionPoint.Escapes, hraised] using hkept
      simp only [executeTurn, Reply.commits, hcommits, if_true] at hafter
      exact absurd hafter (hended _ _)
  | merging | returned | finish => cases hattends

theorem Moves.attends_of_call (hmoves : Moves state label next write) (horderly : Orderly state)
    (hstep : runStep state label = some next)
    (hattends : Guard.Attends state run.runId (.call index))
    (hkept : ¬ Guard.IsDropped state label run.runId (.call index))
    (hrun : run ∈ next.database.runs.rows) (hactive : run.status.isActive = true) :
    ∃ guard : Guard, guard.Attends next run.runId := by
  obtain ⟨call, hcall, hattends⟩ := hattends
  by_cases hacting : label.acting = some index
  · cases label with
    | request own request =>
        cases hacting
        simp only [runStep, hcall] at hstep
        cases hstep
    | claim own taskId worker leaseSeconds now =>
        cases hacting
        obtain ⟨row, claimed, changed, hidle, -⟩ := claim_cases hstep
        rw [hidle] at hcall
        cases hcall
    | resume own reply =>
        cases hacting
        obtain ⟨held, hheld, hfresh, hends⟩ := resume_cases hstep
        rw [hcall, Option.some.injEq] at hheld
        subst hheld
        have hsound := horderly.sound _ call hcall
        cases call with
        | enqueuing enqueuer =>
            rcases hends with ⟨changed, hafter, rfl⟩ | ⟨hrefused, -⟩
            · rcases Enqueuer.attends_turn horderly.stored hsound hattends hafter hrun rfl hactive
                with hopen | ⟨goesOn, hgoesOn, hstill⟩
              · exact ⟨.task, hopen⟩
              · refine ⟨.call index, .enqueuing goesOn, ?_, hstill⟩
                rw [put_calls_self]
                exact congrArg (Option.map RunCall.enqueuing) hgoesOn
            · exact absurd hrefused (Enqueuer.accepted_of_attends hfresh hattends)
        | executing execution =>
            have hnotFinish : ∀ outcome, execution.point ≠ .finish outcome := by
              intro outcome hpoint
              rw [RunCall.Attends, hpoint] at hattends
              cases hattends
            rw [turn_of_ne_finish hnotFinish] at hends
            have hescapes : ¬ execution.point.Escapes reply := fun hescapes =>
              hkept (.inr (.inr ⟨reply, execution, rfl, hcall, hescapes⟩))
            rcases hends with ⟨changed, hafter, rfl⟩ | ⟨hrefused, -⟩
            · refine ⟨.call index, _, put_calls_self _ _ _, ?_⟩
              exact unfinished?_executeTurn hsound.2 hescapes hattends hafter hrun
                rfl hactive
            · exfalso
              cases hwrite : (executeTurn state.database reply execution.point).1 with
              | none =>
                  rw [hwrite] at hrefused
                  cases hrefused
              | some made =>
                  obtain ⟨runId, now, update, rfl⟩ := updateRun_of_executeTurn hwrite
                  rw [hwrite] at hrefused
                  cases hrefused
    | cancel own =>
        cases hacting
        exact absurd (.inl rfl) hkept
    | die own =>
        cases hacting
        exact absurd (.inr (.inl rfl)) hkept
    | renew | sweep | reset => cases hacting
  · have hstill := hmoves.others index hacting
    exact hmoves.attends_of_database (hstill.trans hcall) hattends

theorem Moves.attends_of_kept (hmoves : Moves state label next write) (horderly : Orderly state)
    (hstep : runStep state label = some next) {guard : Guard}
    (hattends : guard.Attends state run.runId) (hkept : ¬ guard.IsDropped state label run.runId)
    (hrun : run ∈ next.database.runs.rows) (hactive : run.status.isActive = true) :
    ∃ guard : Guard, guard.Attends next run.runId := by
  cases guard with
  | task => exact hmoves.attends_of_task horderly hattends hkept
  | call index => exact hmoves.attends_of_call horderly hstep hattends hkept hrun hactive

theorem runsCovered_step (horderly : Orderly state) (hcovered : RunsCovered state)
    (hresets : ResetsNoFailed state label) (hkeeps : KeepsAttended state label)
    (hstep : runStep state label = some next) : RunsCovered next := by
  obtain ⟨write, hmoves⟩ := moves_of_step horderly hresets hstep
  intro run hrun hactive
  rcases hmoves.grows.runs.origin run hrun with ⟨row, hrow, hkept⟩ | hinserted
  · have hrowActive := hkept.active hactive
    obtain ⟨guard, hattends⟩ := hcovered row hrow hrowActive
    by_cases hdropped : guard.IsDropped state label row.runId
    · obtain ⟨other, hother, hstays⟩ := hkeeps row hrow hrowActive guard hattends hdropped
      rw [← hkept.runId] at hother hstays
      exact hmoves.attends_of_kept horderly hstep hother hstays hrun hactive
    · rw [← hkept.runId] at hattends hdropped
      exact hmoves.attends_of_kept horderly hstep hattends hdropped hrun hactive
  · -- the run is new: its call goes on, and no task can bear its key
    obtain ⟨index, request, hcall⟩ := hmoves.inserts run hinserted
    subst hinserted
    have hafter := hmoves.database
    simp only [RunDatabase.after, Option.elim_some, RunDatabase.apply] at hafter
    split at hafter
    · obtain ⟨runs, hinsert, hchanged⟩ := Option.map_eq_some_iff.mp hafter
      have htasks : next.database.tasks = state.database.tasks := by rw [← hchanged]
      refine ⟨.call index, _, hcall, rfl, ?_⟩
      intro task htask hkey
      rw [htasks] at htask
      obtain ⟨known, hknown, hknownKey, -⟩ := horderly.stored.taskRuns task htask
      rw [hkey, Option.some.injEq, runDedupeKey_inj] at hknownKey
      exact Table.noClash_of_insert? hinsert known hknown known.runId
        (List.mem_singleton_self _) (List.mem_singleton.mpr hknownKey.symm)
    · cases hafter

def RunState.Quiescent (state : RunState) : Prop := ∀ index, state.calls index = none

/-- What the protocol promises. -/
structure CarriesOutOnce (state : RunState) : Prop where
  once : state.claims.Nodup
  claimed : ∀ index execution runId, state.calls index = some (.executing execution) →
    execution.point.runId? = some runId → runId ∈ state.claims
  spared : ∀ index request run error,
    state.calls index = some (.enqueuing (.failRun request run error)) →
    ∀ other execution, state.calls other = some (.executing execution) →
      execution.point.runId? ≠ some run.runId
  isOpen : state.Quiescent → ∀ run ∈ state.database.runs.rows,
    run.status.isActive = true → state.database.TaskOpen run.runId
  /-- So has the run that `_create_run_sync` would hand out. -/
  handedOut : state.Quiescent → ∀ request run, state.database.activeRun request = some run →
    state.database.TaskOpen run.runId

theorem Orderly.carriesOutOnce (horderly : Orderly state) (hcovered : RunsCovered state) :
    CarriesOutOnce state := by
  have hopen : state.Quiescent → ∀ run ∈ state.database.runs.rows,
      run.status.isActive = true → state.database.TaskOpen run.runId := by
    intro hquiet run hrun hactive
    obtain ⟨guard, hattends⟩ := hcovered run hrun hactive
    cases guard with
    | task => exact hattends
    | call index =>
        obtain ⟨call, hcall, -⟩ := hattends
        rw [hquiet index] at hcall
        cases hcall
  exact
    { once := horderly.once
      claimed := fun index execution runId hcall =>
        (horderly.sound index _ hcall).1 runId
      spared := by
        intro index request run error hfailing other execution hexecuting hrun
        have hdismissed : state.database.Dismissed run.runId := horderly.sound index _ hfailing
        have hmem := (horderly.sound other _ hexecuting).1 run.runId hrun
        exact hdismissed.not_claimed (horderly.claimed run.runId hmem)
      isOpen := hopen
      handedOut := by
        intro hquiet request run hrun
        obtain ⟨hmem, -, hactive⟩ := mem_of_activeRun hrun
        exact hopen hquiet run hmem hactive }

structure RunStepAllowed (state : RunState) (label : RunLabel) : Prop where
  unclaimed : FailsUnclaimed state label
  resets : ResetsNoFailed state label
  attended : KeepsAttended state label

/-- In every run in which enqueue calls fail unclaimed tasks only, no failed task is reset
and active runs are kept attended, runs are carried out once and not left behind. -/
theorem carriesOutOnce_of_run {accounts : List String} {labels : List RunLabel}
    (hrun : Run (restrict (ofPartial runStep) RunStepAllowed) (.initial accounts) labels state) :
    CarriesOutOnce state := by
  have hinvariant := hrun.invariant (fun state => Orderly state ∧ RunsCovered state)
    (fun _ _ _ hboth hstep =>
      ⟨orderly_step hboth.1 hstep.1.unclaimed hstep.1.resets hstep.2,
        runsCovered_step hboth.1 hboth.2 hstep.1.resets hstep.1.attended hstep.2⟩)
    ⟨orderly_initial accounts, by simp [RunsCovered, RunState.initial]⟩
  exact hinvariant.1.carriesOutOnce hinvariant.2

def deletionRequest : RunRequest where
  accountId := "seller"
  operation := .delete
  trigger := "manual"
  itemIds := ["1", "2"]

def deletionWorker : WorkerId := ⟨"product-worker", by decide⟩

def startLabels : List RunLabel :=
  [.request 0 deletionRequest, .resume 0 {}, .resume 0 { freshId := "run-1" }, .resume 0 {},
    .resume 0 { freshId := "task-1" }, .resume 0 {}, .resume 0 {},
    .claim 1 "task-1" deletionWorker 60 1, .resume 1 { now := 2 }]

theorem allowed_of_keeping (hunclaimed : FailsUnclaimed state label)
    (hresets : ResetsNoFailed state label)
    (hkept : ∀ runId guard, ¬ Guard.IsDropped state label runId guard) :
    RunStepAllowed state label where
  unclaimed := hunclaimed
  resets := hresets
  attended := fun _ _ _ guard _ hdropped => absurd hdropped (hkept _ guard)

theorem allowed_request (index : ℕ) (request : RunRequest) :
    RunStepAllowed state (.request index request) := by
  refine allowed_of_keeping trivial trivial fun runId guard hdropped => ?_
  cases guard with
  | task =>
      obtain ⟨_, _, _, hcloses⟩ := hdropped
      exact hcloses
  | call other => rcases hdropped with h | h | ⟨_, _, h, _⟩ <;> cases h

theorem allowed_claim (index : ℕ) (taskId : String) (worker : WorkerId) (leaseSeconds : ℤ)
    (now : ℕ) : RunStepAllowed state (.claim index taskId worker leaseSeconds now) := by
  refine allowed_of_keeping trivial trivial fun runId guard hdropped => ?_
  cases guard with
  | task =>
      obtain ⟨_, _, _, hcloses⟩ := hdropped
      exact hcloses
  | call other => rcases hdropped with h | h | ⟨_, _, h, _⟩ <;> cases h

def RunCall.sparesTask : RunCall → Bool
  | .enqueuing (.failTask ..) => false
  | .enqueuing _ => true
  | .executing execution =>
      match execution.point with
      | .finish _ => false
      | _ => true

theorem allowed_resume (hcall : state.calls index = some call) (hraised : reply.raised = none)
    (hspares : call.sparesTask = true) : RunStepAllowed state (.resume index reply) := by
  refine allowed_of_keeping ?_ trivial fun runId guard hdropped => ?_
  · intro held hheld
    rw [hcall, Option.some.injEq] at hheld
    subst hheld
    cases call with
    | executing execution => trivial
    | enqueuing enqueuer =>
        cases enqueuer with
        | failTask request run task error => cases hspares
        | _ => trivial
  · cases guard with
    | task =>
        obtain ⟨_, _, _, execution, outcome, hheld, hpoint, -⟩ := hdropped
        rw [hcall, Option.some.injEq] at hheld
        rw [hheld, RunCall.sparesTask, hpoint] at hspares
        cases hspares
    | call other =>
        rcases hdropped with h | h | ⟨other, execution, h, -, hescapes⟩
        · cases h
        · cases h
        · cases h
          revert hescapes
          cases execution.point <;> simp [ExecutionPoint.Escapes, hraised]

/-- The execution comes to its last await. -/
def completionLabels : List RunLabel := List.replicate 6 (.resume 1 { now := 3 })

theorem carriesOutOnce_of_deletion :
    ∃ state : RunState, state.claims = ["run-1"] ∧
      state.database.runs.rows.map (·.status) = [.success] ∧ CarriesOutOnce state := by
  obtain ⟨state, hrun, hclaims, hruns⟩ : ∃ state,
      Run (restrict (ofPartial runStep) RunStepAllowed) (.initial ["seller"])
        (startLabels ++ completionLabels) state ∧
      state.claims = ["run-1"] ∧ state.database.runs.rows.map (·.status) = [.success] := by
    refine ⟨_, .cons ⟨allowed_request _ _, rfl⟩ (.cons ⟨?_, rfl⟩ (.cons ⟨?_, rfl⟩
      (.cons ⟨?_, rfl⟩ (.cons ⟨?_, rfl⟩ (.cons ⟨?_, rfl⟩ (.cons ⟨?_, rfl⟩
      (.cons ⟨allowed_claim _ _ _ _ _, rfl⟩ (.cons ⟨?_, rfl⟩ (.cons ⟨?_, rfl⟩ (.cons ⟨?_, rfl⟩
      (.cons ⟨?_, rfl⟩ (.cons ⟨?_, rfl⟩ (.cons ⟨?_, rfl⟩ (.cons ⟨?_, rfl⟩
      (.nil _))))))))))))))), rfl, rfl⟩
    all_goals exact allowed_resume rfl rfl rfl
  exact ⟨state, hclaims, hruns, carriesOutOnce_of_run hrun⟩

/-- A worker that is stopped while it executes a run fails the task and leaves the run
`running`: nothing will ever finish it. -/
theorem stopped_worker_leaves_run :
    ¬ ∀ accounts labels state, Run (ofPartial runStep) (.initial accounts) labels state →
      CarriesOutOnce state := by
  intro hall
  obtain ⟨state, hrun, hquiet, hruns, htasks⟩ : ∃ state,
      runPartial runStep (.initial ["seller"])
        (startLabels ++ [.cancel 1, .resume 1 { now := 3 }]) = some state ∧
      state.Quiescent ∧ state.database.runs.rows.map (·.status) = [.running] ∧
      state.database.tasks.rows.map BackgroundTask.status = [.failed] := by
    refine ⟨_, rfl, ?_, rfl, rfl⟩
    rintro (_ | _ | index) <;> rfl
  obtain ⟨run, hrows, hrunning⟩ := List.map_eq_singleton_iff.mp hruns
  obtain ⟨task, htaskRows, hfailed⟩ := List.map_eq_singleton_iff.mp htasks
  have hopen := (hall _ _ state (run_ofPartial_iff.mpr hrun)).isOpen hquiet run
    (by rw [hrows]; exact List.mem_singleton_self _) (by rw [hrunning]; rfl)
  obtain ⟨other, hother, -, hstatus⟩ := hopen
  rw [htaskRows, List.mem_singleton] at hother
  rw [hother, hfailed] at hstatus
  rcases hstatus with hpending | hrunning
  · cases hpending
  · cases hrunning

end XianyuAdmin.Products
