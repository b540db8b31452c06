import XianyuAdmin.Tasks.RetriesSound

/-!
# Chains of retries are bounded

The tasks of a chain count different numbers of retries, and none counts more than three: a
chain has at most four tasks.  It ends with an execution that returned, with its fourth
execution, or with one that was interrupted.
-/

namespace XianyuAdmin.TaskRetries

open XianyuAdmin.TaskStore
open XianyuAdmin.Transition

variable {accounts : List String} {state : RetryState}

section Chains

variable {origin : BackgroundTask}

theorem InChain.stored {task : BackgroundTask} (hchain : InChain state.tasks origin task) :
    task ∈ state.tasks.rows := by
  cases hchain <;> assumption

theorem Sound.continues_of_chain (hsound : Sound accounts state) {source task : BackgroundTask}
    (hsource : InChain state.tasks origin source) (hstored : task ∈ state.tasks.rows)
    (hretry : IsRetryOf task source.taskId) : Continues source task :=
  hsound.continues_of_key hsource.stored hstored hretry

theorem Sound.type_of_chain (hsound : Sound accounts state)
    (htype : origin.taskType ∈ chatwootTaskTypes) {task : BackgroundTask}
    (hchain : InChain state.tasks origin task) : task.taskType ∈ chatwootTaskTypes := by
  induction hchain with
  | origin => exact htype
  | retry hsource hstored hretry ih =>
      exact (hsound.continues_of_chain hsource hstored hretry).sameType ▸ ih

theorem Sound.eq_of_count (hsound : Sound accounts state)
    (horiginal : IsOriginal origin.dedupeKey origin.payload) {left right : BackgroundTask}
    (hleft : InChain state.tasks origin left) (hright : InChain state.tasks origin right)
    (hcount : retriesBefore left = retriesBefore right) : left = right := by
  induction hleft generalizing right with
  | origin hstored =>
      cases hright with
      | origin => rfl
      | retry hsource hstored hretry =>
          obtain ⟨count, hnonneg, -, -, hlater, -⟩ :=
            (hsound.continues_of_chain hsource hstored hretry).count
          rw [retriesBefore_of_original horiginal, hlater, Option.some.injEq] at hcount
          omega
  | retry hsource hstored hretry ih =>
      rename_i source left
      obtain ⟨count, hnonneg, -, hbefore, hlater, hkey⟩ :=
        (hsound.continues_of_chain hsource hstored hretry).count
      cases hright with
      | origin =>
          rw [retriesBefore_of_original horiginal, hlater, Option.some.injEq] at hcount
          omega
      | retry hother hotherStored hotherRetry =>
          obtain ⟨otherCount, -, -, hotherBefore, hotherLater, hotherKey⟩ :=
            (hsound.continues_of_chain hother hotherStored hotherRetry).count
          rw [hlater, hotherLater, Option.some.injEq] at hcount
          have hcounts : count = otherCount := by omega
          have hsources := ih hother (by rw [hbefore, hotherBefore, hcounts])
          rw [← hsources, ← hcounts] at hotherKey
          exact Table.eq_of_key hstored hotherStored (dedupeKey_mem_taskKeys.mpr hkey)
            (dedupeKey_mem_taskKeys.mpr hotherKey)

open Classical in
noncomputable def RetryState.startedIn (state : RetryState) (origin : BackgroundTask) : ℕ :=
  state.started.countP fun taskId =>
    ∃ task, InChain state.tasks origin task ∧ task.taskId = taskId

def RetryState.Quiet (state : RetryState) (origin : BackgroundTask) : Prop :=
  ∀ task, InChain state.tasks origin task →
    task.status ≠ .pending ∧ task.status ≠ .running ∧ ¬ InProgress state task.taskId

/-- At most four executions of a chain are started. -/
theorem Sound.startedIn_le (hsound : Sound accounts state)
    (horiginal : IsOriginal origin.dedupeKey origin.payload) : state.startedIn origin ≤ 4 := by
  classical
  let ids := state.started.filter fun taskId =>
    ∃ task, InChain state.tasks origin task ∧ task.taskId = taskId
  have hcounted : ∀ taskId, taskId ∈ ids → ∃ count : ℤ, (0 ≤ count ∧ count ≤ 3) ∧
      ∃ task, InChain state.tasks origin task ∧ task.taskId = taskId ∧
        retriesBefore task = some count := by
    intro taskId hmem
    obtain ⟨task, hchain, hid⟩ := of_decide_eq_true (List.mem_filter.mp hmem).2
    obtain ⟨count, hcount, hnonneg, hle⟩ := hsound.exists_count hchain.stored
    exact ⟨count, ⟨hnonneg, hle⟩, task, hchain, hid, hcount⟩
  choose! count hbounds task hchain hid hcount using hcounted
  have hinjective : Set.InjOn count ids.toFinset := by
    intro left hleft right hright hsame
    have hleft := List.mem_toFinset.mp hleft
    have hright := List.mem_toFinset.mp hright
    have htasks := hsound.eq_of_count horiginal (hchain left hleft) (hchain right hright)
      (by rw [hcount left hleft, hcount right hright, hsame])
    rw [← hid left hleft, htasks, hid right hright]
  have hmaps : Set.MapsTo count ids.toFinset (Finset.Icc (0 : ℤ) 3) := by
    intro taskId hmem
    exact Finset.mem_Icc.mpr (hbounds taskId (List.mem_toFinset.mp hmem))
  calc state.startedIn origin = ids.length := List.countP_eq_length_filter
    _ = ids.toFinset.card := (List.toFinset_card_of_nodup (hsound.once.filter _)).symm
    _ ≤ (Finset.Icc (0 : ℤ) 3).card := Finset.card_le_card_of_injOn count hmaps hinjective
    _ = 4 := rfl

theorem Sound.exists_of_quiet (hsound : Sound accounts state)
    (hstored : origin ∈ state.tasks.rows) (htype : origin.taskType ∈ chatwootTaskTypes)
    (horiginal : IsOriginal origin.dedupeKey origin.payload) (hquiet : state.Quiet origin)
    (hnone : ∀ task, InChain state.tasks origin task →
      task.taskId ∉ state.succeeded ∧ task.taskId ∉ state.interrupted)
    (count : ℕ) (hle : count ≤ 3) :
    ∃ task, InChain state.tasks origin task ∧ retriesBefore task = some (count : ℤ) := by
  induction count with
  | zero => exact ⟨origin, .origin hstored, retriesBefore_of_original horiginal⟩
  | succ count ih =>
      obtain ⟨task, hchain, hcount⟩ := ih (by omega)
      obtain ⟨hpending, -, hidle⟩ := hquiet task hchain
      have hstarted : task.taskId ∈ state.started := by
        by_contra hnot
        exact hpending ((hsound.begun task hchain.stored).mpr hnot)
      have hconcluded := (hsound.accounted _ hstarted).resolve_left hidle
      have hretried := (hconcluded.resolve_left (hnone task hchain).1).resolve_left
        (hnone task hchain).2
      rcases hretried task hchain.stored rfl (hsound.type_of_chain htype hchain) with
        ⟨next, hnext, hcontinues⟩ | hthree
      · obtain ⟨held, -, -, hheld, hlater, hkey⟩ := hcontinues.count
        rw [hcount, Option.some.injEq] at hheld
        refine ⟨next, .retry hchain hnext ⟨_, hkey⟩, ?_⟩
        rw [hlater, ← hheld]
        rfl
      · rw [hcount, Option.some.injEq] at hthree
        omega

theorem Sound.ends_of_quiet (hsound : Sound accounts state) (hstored : origin ∈ state.tasks.rows)
    (htype : origin.taskType ∈ chatwootTaskTypes)
    (horiginal : IsOriginal origin.dedupeKey origin.payload) (hquiet : state.Quiet origin) :
    state.startedIn origin = 4 ∨ ∃ task, InChain state.tasks origin task ∧
      (task.taskId ∈ state.succeeded ∨ task.taskId ∈ state.interrupted) := by
  classical
  by_cases hsome : ∃ task, InChain state.tasks origin task ∧
      (task.taskId ∈ state.succeeded ∨ task.taskId ∈ state.interrupted)
  · exact .inr hsome
  refine .inl (le_antisymm (hsound.startedIn_le horiginal) ?_)
  have hnone : ∀ task, InChain state.tasks origin task →
      task.taskId ∉ state.succeeded ∧ task.taskId ∉ state.interrupted := fun task hchain =>
    ⟨fun hmem => hsome ⟨task, hchain, .inl hmem⟩, fun hmem => hsome ⟨task, hchain, .inr hmem⟩⟩
  have hcounts : ∀ count : Fin 4, ∃ task, InChain state.tasks origin task ∧
      retriesBefore task = some ((count : ℕ) : ℤ) := fun count =>
    hsound.exists_of_quiet hstored htype horiginal hquiet hnone count (by omega)
  choose task hchain hcount using hcounts
  have hinjective : Function.Injective fun count => (task count).taskId := by
    intro left right hid
    have hsame := task_eq_of_id (hchain left).stored (hchain right).stored hid
    have hboth := (hcount left).symm.trans ((congrArg retriesBefore hsame).trans (hcount right))
    exact Fin.ext (Int.ofNat_inj.mp (Option.some.inj hboth))
  have hsubset : List.ofFn (fun count => (task count).taskId) ⊆
      state.started.filter fun taskId =>
        ∃ task, InChain state.tasks origin task ∧ task.taskId = taskId := by
    intro taskId hmem
    obtain ⟨count, rfl⟩ := (List.mem_ofFn' _ _).mp hmem
    refine List.mem_filter.mpr ⟨?_, decide_eq_true ⟨task count, hchain count, rfl⟩⟩
    by_contra hnot
    exact (hquiet _ (hchain count)).1 ((hsound.begun _ (hchain count).stored).mpr hnot)
  have hlength := ((List.nodup_ofFn.mpr hinjective).subperm hsubset).length_le
  rw [List.length_ofFn] at hlength
  exact hlength.trans_eq List.countP_eq_length_filter.symm

end Chains

/-- In every run, at most four executions are started in the chain of an original Chatwoot
task; and when the chain is over, an execution of it returned or was interrupted, or four were
started. -/
theorem chainEnds_of_run {labels : List RetryLabel} {origin : BackgroundTask}
    (hrun : Run (ofPartial (retryStep accounts)) {} labels state)
    (hstored : origin ∈ state.tasks.rows) (htype : origin.taskType ∈ chatwootTaskTypes)
    (horiginal : IsOriginal origin.dedupeKey origin.payload) :
    state.startedIn origin ≤ 4 ∧
      (state.Quiet origin → state.startedIn origin = 4 ∨ ∃ task,
        InChain state.tasks origin task ∧
          (task.taskId ∈ state.succeeded ∨ task.taskId ∈ state.interrupted)) :=
  ⟨(sound_of_run hrun).startedIn_le horiginal,
    (sound_of_run hrun).ends_of_quiet hstored htype horiginal⟩

def alertRequest : CreatePayload where
  accountId := some "seller"
  taskType := "chatwoot.send_account_alert"
  dedupeKey := some "chatwoot-account-alert:seller:offline:1"
  payload := some (.obj [("state", .str "offline")])
  runAfter := none

def alertWorker : WorkerId := ⟨"alert-worker", by decide⟩

def alertLabels (outcome : ExecutionEnd) : List RetryLabel :=
  [.create alertRequest "1" 0, .claim 0 "1" alertWorker 60 1, .ends 0 outcome,
    .finishes 0 none none 2]

/-- The execution is cancelled: the alert has failed, and nothing retries it. -/
theorem cancelled_alert_not_retried :
    ∃ state origin, Run (ofPartial (retryStep ["seller"])) {} (alertLabels .cancelled) state ∧
      origin ∈ state.tasks.rows ∧ origin.taskType ∈ chatwootTaskTypes ∧
      IsOriginal origin.dedupeKey origin.payload ∧ state.Quiet origin ∧
      state.startedIn origin ≠ 4 ∧
      ∀ task, InChain state.tasks origin task → task.taskId ∉ state.succeeded := by
  obtain ⟨state, hrun, hrows, hstarted, hsucceeded, hexecutions⟩ : ∃ state,
      Run (ofPartial (retryStep ["seller"])) {} (alertLabels .cancelled) state ∧
      state.tasks.rows.map (fun row => (row.taskType, row.dedupeKey, row.payload, row.status)) =
        [(alertRequest.taskType, alertRequest.dedupeKey, alertRequest.payload, .failed)] ∧
      state.started = ["1"] ∧ state.succeeded = [] ∧ ∀ index, state.executions index = none := by
    refine ⟨_, run_ofPartial_iff.mpr rfl, rfl, rfl, rfl, ?_⟩
    rintro (_ | index) <;> rfl
  obtain ⟨origin, hrows, hfields⟩ := List.map_eq_singleton_iff.mp hrows
  obtain ⟨htype, hkey, hpayload, hstatus⟩ : origin.taskType = alertRequest.taskType ∧
      origin.dedupeKey = alertRequest.dedupeKey ∧ origin.payload = alertRequest.payload ∧
      origin.status = .failed := by simpa only [Prod.mk.injEq] using hfields
  refine ⟨state, origin, hrun, ?_, ?_, ?_, ?_, ?_, ?_⟩
  · rw [hrows]
    exact List.mem_singleton_self origin
  · rw [htype]
    decide
  · rw [hkey, hpayload]
    exact ⟨by decide, by decide⟩
  · intro task hchain
    have hmem := hchain.stored
    rw [hrows, List.mem_singleton] at hmem
    rw [hmem, hstatus]
    refine ⟨nofun, nofun, fun ⟨index, execution, hexecution, _⟩ => ?_⟩
    rw [hexecutions index] at hexecution
    cases hexecution
  · have hle : state.startedIn origin ≤ state.started.length := List.countP_le_length
    rw [hstarted] at hle
    exact ne_of_lt (lt_of_le_of_lt hle (by decide))
  · intro task _
    rw [hsucceeded]
    exact List.not_mem_nil

/-- An alert that is delivered. -/
theorem chainEnds_of_delivered : ∃ (state : RetryState) (origin : BackgroundTask),
    state.succeeded = ["1"] ∧
    state.startedIn origin ≤ 4 ∧
      (state.Quiet origin → state.startedIn origin = 4 ∨ ∃ task,
        InChain state.tasks origin task ∧
          (task.taskId ∈ state.succeeded ∨ task.taskId ∈ state.interrupted)) := by
  obtain ⟨state, hrun, hrows, hsucceeded⟩ : ∃ state,
      Run (ofPartial (retryStep ["seller"])) {} (alertLabels .returned) state ∧
      state.tasks.rows.map (fun row => (row.taskType, row.dedupeKey, row.payload)) =
        [(alertRequest.taskType, alertRequest.dedupeKey, alertRequest.payload)] ∧
      state.succeeded = ["1"] :=
    ⟨_, run_ofPartial_iff.mpr rfl, rfl, rfl⟩
  obtain ⟨origin, hrows, hfields⟩ := List.map_eq_singleton_iff.mp hrows
  obtain ⟨htype, hkey, hpayload⟩ : origin.taskType = alertRequest.taskType ∧
      origin.dedupeKey = alertRequest.dedupeKey ∧ origin.payload = alertRequest.payload := by
    simpa only [Prod.mk.injEq] using hfields
  refine ⟨state, origin, hsucceeded, chainEnds_of_run hrun ?_ ?_ ?_⟩
  · rw [hrows]
    exact List.mem_singleton_self origin
  · rw [htype]
    decide
  · rw [hkey, hpayload]
    exact ⟨by decide, by decide⟩

end XianyuAdmin.TaskRetries
