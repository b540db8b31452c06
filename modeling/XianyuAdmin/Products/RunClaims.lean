import XianyuAdmin.Products.RunsOrderly

/-!
# Each run is claimed once

Every call knows the rows it goes on with: an enqueue call its run and its task, an
execution a run that was claimed.  Since the task of a run is claimed once, so is the
run, and a run whose enqueue call records a failure is executed by nobody, if the call
finds its task unclaimed.
-/

namespace XianyuAdmin.Products

open XianyuAdmin.TaskStore
open XianyuAdmin.Transition
open Function

variable {database changed : RunDatabase} {state next : RunState} {label : RunLabel}

theorem turn_of_finish {execution : Execution} {outcome : RunTaskOutcome}
    (hpoint : execution.point = .finish outcome) (database : RunDatabase) (reply : Reply) :
    (RunCall.executing execution).turn database reply =
      (some (.updateTask execution.taskId reply.now (.finish execution.worker outcome)), none) := by
  simp only [RunCall.turn, hpoint]

theorem turn_of_ne_finish {execution : Execution}
    (hpoint : ∀ outcome, execution.point ≠ .finish outcome) (database : RunDatabase)
    (reply : Reply) :
    (RunCall.executing execution).turn database reply =
      ((executeTurn database reply execution.point).1,
        some (.executing
          { execution with point := (executeTurn database reply execution.point).2 })) := by
  -- `hpoint` rules the first branch out
  simp only [RunCall.turn]

theorem RunCall.fits_turn {call : RunCall} {claims : List String}
    (hsound : call.Sound database claims) (reply : Reply) :
    ∀ made ∈ (call.turn database reply).1, made.Fits database := by
  cases call with
  | enqueuing enqueuer => exact Enqueuer.fits_turn hsound reply
  | executing execution =>
      by_cases hfinish : ∃ outcome, execution.point = .finish outcome
      · obtain ⟨outcome, hpoint⟩ := hfinish
        rw [turn_of_finish hpoint]
        rintro made ⟨⟩
        trivial
      · rw [turn_of_ne_finish fun outcome hpoint => hfinish ⟨outcome, hpoint⟩]
        intro made hmade
        obtain ⟨runId, now, update, rfl⟩ := updateRun_of_executeTurn hmade
        trivial

theorem RunCall.sound_turn {call goesOn : RunCall} {claims : List String} {reply : Reply}
    (hstored : RunsStored database) (hsound : call.Sound database claims)
    (hunclaimed : call.FailsUnclaimed database)
    (hafter : database.after (call.turn database reply).1 = some changed)
    (hnext : (call.turn database reply).2 = some goesOn) : goesOn.Sound changed claims := by
  have hgrows := grows_of_after (RunCall.fits_turn hsound reply) hafter
  cases call with
  | enqueuing enqueuer =>
      obtain ⟨enqueuer, hturn, rfl⟩ := Option.map_eq_some_iff.mp hnext
      exact Enqueuer.sound_turn hsound hunclaimed hafter hturn
  | executing execution =>
      by_cases hfinish : ∃ outcome, execution.point = .finish outcome
      · obtain ⟨outcome, hpoint⟩ := hfinish
        rw [turn_of_finish hpoint] at hnext
        cases hnext
      · rw [turn_of_ne_finish fun outcome hpoint => hfinish ⟨outcome, hpoint⟩] at hnext
        cases hnext
        refine ⟨fun runId hrun => hsound.1 runId (runId?_executeTurn hrun), fun run hrun => ?_⟩
        rw [hgrows.accounts]
        exact accountId_executeTurn hstored hrun

theorem resume_cases {index : ℕ} {reply : Reply}
    (hstep : runStep state (.resume index reply) = some next) :
    ∃ call, state.calls index = some call ∧
      state.database.tasks.lookup (.taskId reply.freshId) = none ∧
      ((∃ changed, state.database.after (call.turn state.database reply).1 = some changed ∧
          next = { state with database := changed }.put index
            (call.turn state.database reply).2) ∨
        (state.database.after (call.turn state.database reply).1 = none ∧
          next = state.put index none)) := by
  simp only [runStep] at hstep
  split at hstep
  · cases hstep
  · rename_i call hcall
    split at hstep
    · rename_i hfresh
      refine ⟨call, hcall, hfresh, ?_⟩
      split at hstep
      · rename_i hwrite
        cases hstep
        refine .inl ⟨state.database, ?_, rfl⟩
        rw [hwrite]
        rfl
      · rename_i write hwrite
        rw [hwrite]
        simp only [RunDatabase.after, Option.elim_some]
        cases happly : state.database.apply write with
        | none =>
            simp only [RunState.commit, happly, Option.map_none] at hstep
            cases hstep
            exact .inr ⟨rfl, rfl⟩
        | some changed =>
            simp only [RunState.commit, happly, Option.map_some] at hstep
            cases hstep
            exact .inl ⟨changed, rfl, rfl⟩
    · cases hstep

theorem commit_eq_some {write : RunWrite} (hcommit : state.commit write = some next) :
    ∃ changed, state.database.after (some write) = some changed ∧
      next = { state with database := changed } := by
  obtain ⟨changed, happly, rfl⟩ := Option.map_eq_some_iff.mp hcommit
  exact ⟨changed, happly, rfl⟩

theorem claim_cases {index : ℕ} {taskId : String} {worker : WorkerId} {leaseSeconds : ℤ}
    {now : ℕ} (hstep : runStep state (.claim index taskId worker leaseSeconds now) = some next) :
    ∃ row claimed changed, state.calls index = none ∧ row ∈ state.database.tasks.rows ∧
      row.taskId = taskId ∧
      claimBackgroundTask (some worker.1) leaseSeconds now row = some claimed ∧
      state.database.after (some (.updateTask taskId now (.claim worker leaseSeconds))) =
        some changed ∧
      next =
        { database := changed
          calls := update state.calls index
            (some (.executing
              { taskId := taskId, worker := worker, point := executionOf claimed }))
          claims := (taskRunId claimed).toList ++ state.claims } := by
  simp only [runStep] at hstep
  split at hstep
  · rename_i row hidle hrow
    split at hstep
    · cases hstep
    · rename_i claimed hclaim
      obtain ⟨committed, hcommit, rfl⟩ := Option.map_eq_some_iff.mp hstep
      obtain ⟨changed, hafter, rfl⟩ := commit_eq_some hcommit
      obtain ⟨hmem, hid⟩ := Table.lookup_eq_some_iff.mp hrow
      exact ⟨row, claimed, changed, hidle, hmem, taskId_mem_taskKeys.mp hid, hclaim, hafter, rfl⟩
  · cases hstep

structure Orderly (state : RunState) : Prop where
  stored : RunsStored state.database
  sound : ∀ index call, state.calls index = some call →
    call.Sound state.database state.claims
  claimed : ∀ runId ∈ state.claims, state.database.Claimed runId
  once : state.claims.Nodup

theorem orderly_initial (accounts : List String) : Orderly (.initial accounts) where
  stored := by constructor <;> simp [RunState.initial]
  sound := by
    intro index call hcall
    cases hcall
  claimed := by simp [RunState.initial]
  once := List.nodup_nil

theorem Orderly.commit (horderly : Orderly state) {write : Option RunWrite}
    (hfits : ∀ made ∈ write, made.Fits state.database)
    (hafter : state.database.after write = some changed) :
    Orderly { state with database := changed } := by
  have hgrows := grows_of_after hfits hafter
  exact
    { stored := horderly.stored.commit hfits hafter
      sound := fun index call hcall =>
        (horderly.sound index call hcall).grows hgrows (List.Subset.refl _)
      claimed := fun runId hrun => hgrows.claimed (horderly.claimed runId hrun)
      once := horderly.once }

theorem Orderly.put (horderly : Orderly state) (index : ℕ) {call : Option RunCall}
    (hsound : ∀ made, call = some made → made.Sound state.database state.claims) :
    Orderly (state.put index call) where
  stored := horderly.stored
  sound := by
    intro other made hmade
    by_cases hother : other = index
    · dsimp only [RunState.put] at hmade
      rw [hother, update_self] at hmade
      exact hsound made hmade
    · dsimp only [RunState.put] at hmade
      rw [update_of_ne hother] at hmade
      exact horderly.sound other made hmade
  claimed := horderly.claimed
  once := horderly.once

theorem Orderly.claim (horderly : Orderly state) {row claimed : BackgroundTask}
    {worker : WorkerId} {leaseSeconds : ℤ} {now index : ℕ}
    (hrow : row ∈ state.database.tasks.rows)
    (hclaim : claimBackgroundTask (some worker.1) leaseSeconds now row = some claimed)
    (hafter : state.database.after
      (some (.updateTask row.taskId now (.claim worker leaseSeconds))) = some changed) :
    Orderly
      { database := changed
        calls := update state.calls index
          (some (.executing
            { taskId := row.taskId, worker := worker, point := executionOf claimed }))
        claims := (taskRunId claimed).toList ++ state.claims } := by
  obtain ⟨run, hrun, hkey, hrunId⟩ := horderly.stored.taskRuns row hrow
  have hupdate : TaskUpdate.apply now row (.claim worker leaseSeconds) = some claimed := hclaim
  have hkept : TaskKept row claimed := by
    refine taskKept_apply ?_ hupdate
    intro hreset
    cases hreset
  have hid : taskRunId claimed = some run.runId := hkept.runId.trans hrunId
  have hfits : ∀ made ∈ some (RunWrite.updateTask row.taskId now (.claim worker leaseSeconds)),
      made.Fits state.database := by
    rintro made ⟨⟩
    trivial
  have hcommitted := horderly.commit hfits hafter
  have hfresh : run.runId ∉ state.claims := by
    intro hmem
    obtain ⟨other, hother, hotherKey, hpos⟩ := horderly.claimed run.runId hmem
    rw [← task_eq_of_dedupeKey hrow hother hkey hotherKey,
      horderly.stored.unclaimed row hrow (claim_eq_some hclaim).1] at hpos
    exact lt_irrefl 0 hpos
  have hclaimed : changed.Claimed run.runId := by
    cases hafter
    have hwritten : onTask row.taskId (TaskUpdate.apply now · (.claim worker leaseSeconds)) row =
        some claimed := onTask_eq_some.mpr ⟨rfl, hclaim⟩
    refine ⟨_, List.mem_map_of_mem hrow, ?_⟩
    rw [hwritten]
    refine ⟨hkept.keys.2.trans hkey, ?_⟩
    rw [Option.getD_some, (claim_eq_some hclaim).2.2.2.2]
    exact Nat.succ_pos _
  have hpoint : executionOf claimed = .startRun run.runId := by
    simp only [executionOf, hid]
  rw [hid, hpoint]
  refine ⟨hcommitted.stored, ?_, ?_, List.nodup_cons.mpr ⟨hfresh, horderly.once⟩⟩
  · intro other call hcall
    by_cases hother : other = index
    · dsimp only at hcall
      rw [hother, update_self] at hcall
      cases hcall
      constructor
      · rintro _ ⟨⟩
        exact List.mem_cons_self
      · intro _ hget
        cases hget
    · dsimp only at hcall
      rw [update_of_ne hother] at hcall
      exact (horderly.sound other call hcall).grows (grows_of_after hfits hafter)
        (List.subset_cons_self _ _)
  · intro runId hmem
    rcases List.mem_cons.mp hmem with rfl | hold
    · exact hclaimed
    · exact hcommitted.claimed runId hold

/-- The call has ended. -/
theorem Orderly.drop (horderly : Orderly state) (index : ℕ) : Orderly (state.put index none) := by
  refine horderly.put index fun made hmade => ?_
  cases hmade

def FailsUnclaimed (state : RunState) : RunLabel → Prop
  | .resume index _ => ∀ call, state.calls index = some call →
      call.FailsUnclaimed state.database
  | _ => True

def ResetsNoFailed (state : RunState) : RunLabel → Prop
  | .reset taskId _ => ∀ row ∈ state.database.tasks.rows, row.taskId = taskId →
      row.status ≠ .failed
  | _ => True

theorem orderly_step (horderly : Orderly state) (hunclaimed : FailsUnclaimed state label)
    (hresets : ResetsNoFailed state label) (hstep : runStep state label = some next) :
    Orderly next := by
  cases label with
  | request index request =>
      simp only [runStep] at hstep
      split at hstep
      · cases hstep
        refine horderly.put index ?_
        rintro _ ⟨⟩
        trivial
      · cases hstep
  | claim index taskId worker leaseSeconds now =>
      obtain ⟨row, claimed, changed, -, hrow, rfl, hclaim, hafter, rfl⟩ := claim_cases hstep
      exact horderly.claim hrow hclaim hafter
  | renew index leaseSeconds now =>
      simp only [runStep] at hstep
      split at hstep
      · obtain ⟨changed, hafter, rfl⟩ := commit_eq_some hstep
        refine horderly.commit ?_ hafter
        rintro made ⟨⟩
        trivial
      · cases hstep
  | resume index reply =>
      obtain ⟨call, hcall, -, ⟨changed, hafter, rfl⟩ | ⟨-, rfl⟩⟩ := resume_cases hstep
      · have hsound := horderly.sound index call hcall
        have hcommitted := horderly.commit (RunCall.fits_turn hsound reply) hafter
        refine hcommitted.put index fun made hmade => ?_
        exact RunCall.sound_turn horderly.stored hsound (hunclaimed call hcall) hafter hmade
      · exact horderly.drop index
  | cancel index =>
      obtain ⟨call, hcall, rfl⟩ := Option.map_eq_some_iff.mp hstep
      refine horderly.put index fun made hmade => ?_
      cases call with
      | enqueuing enqueuer => cases hmade
      | executing execution =>
          simp only [RunCall.cancelled] at hmade
          split at hmade
          · cases hmade
          · cases hmade
            constructor <;> intro _ hpoint <;> cases hpoint
  | die index =>
      cases hstep
      exact horderly.drop index
  | sweep now clock =>
      obtain ⟨changed, hafter, rfl⟩ := commit_eq_some hstep
      refine horderly.commit ?_ hafter
      rintro made ⟨⟩
      trivial
  | reset taskId now =>
      obtain ⟨changed, hafter, rfl⟩ := commit_eq_some hstep
      refine horderly.commit ?_ hafter
      rintro made ⟨⟩
      exact hresets

end XianyuAdmin.Products
