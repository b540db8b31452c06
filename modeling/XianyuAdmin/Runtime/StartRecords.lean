import XianyuAdmin.Runtime.AccountRuntime

/-!
# The records a start works on

A record is read, waits, and is used to start a session.  What is known about it meanwhile:
it is of the past, and as long as the account has not been disabled since, an enabled record
means an enabled account.
-/

namespace XianyuAdmin.Runtime

open Transition

variable {runtime next : AccountRuntime} {record : AccountRecord}

/-- What a record can be compared with: whether the account is enabled, how many times it
has been disabled, and how many stops have completed. -/
structure Facts where
  enabled : Bool
  disables : ℕ
  stops : ℕ

def AccountRuntime.facts (runtime : AccountRuntime) : Facts where
  enabled := runtime.enabled
  disables := runtime.disables
  stops := runtime.stops

structure Faithful (facts : Facts) (record : AccountRecord) : Prop where
  disables : record.disables ≤ facts.disables
  stops : record.stops ≤ facts.stops
  enabled : record.enabled = true → record.disables = facts.disables → facts.enabled = true

def Flow.Known (facts : Facts) : Flow → Prop
  | .read _ record => Faithful facts record
  | .starts record _ decided => Faithful facts record ∧ decided ≤ facts.stops
  | .stops _ | .replaces _ => True

def Active.Known (facts : Facts) : Active → Prop
  | .writing (.opens record) => Faithful facts record ∧ record.enabled = true
  | .opening record _ => Faithful facts record ∧ record.enabled = true
  | .restarting record => Faithful facts record
  | .disconnecting _ | .writing .returns | .writing (.completes _) | .rechecking
  | .awaitingOnline | .stopping _ | .replacing _ | .rereading => True

structure Records (runtime : AccountRuntime) : Prop where
  waiting : ∀ flow ∈ runtime.waiting, flow.Known runtime.facts
  active : ∀ active, runtime.active = some active → active.Known runtime.facts
  openedEnabled : runtime.openedDisabled = false

/-- Time passes: records stay faithful. -/
structure Facts.Past (facts later : Facts) : Prop where
  disables : facts.disables ≤ later.disables
  stops : facts.stops ≤ later.stops
  enabled : facts.enabled = true → facts.disables = later.disables → later.enabled = true

theorem Faithful.later {facts later : Facts} (h : Faithful facts record)
    (hpast : facts.Past later) : Faithful later record where
  disables := h.disables.trans hpast.disables
  stops := h.stops.trans hpast.stops
  enabled := fun henabled heq => by
    have hbetween : record.disables = facts.disables :=
      le_antisymm h.disables (heq ▸ hpast.disables)
    exact hpast.enabled (h.enabled henabled hbetween) (hbetween ▸ heq)

theorem faithful_record (runtime : AccountRuntime) : Faithful runtime.facts runtime.record :=
  ⟨le_rfl, le_rfl, fun henabled _ => henabled⟩

theorem Flow.Known.later {facts later : Facts} {flow : Flow} (h : flow.Known facts)
    (hpast : facts.Past later) : flow.Known later := by
  cases flow with
  | read source record => exact Faithful.later h hpast
  | starts record force decided => exact ⟨h.1.later hpast, h.2.trans hpast.stops⟩
  | stops bounded => trivial
  | replaces markOnline => trivial

theorem Active.Known.later {facts later : Facts} {active : Active} (h : active.Known facts)
    (hpast : facts.Past later) : active.Known later := by
  cases active with
  | writing next =>
      cases next with
      | opens record => exact ⟨h.1.later hpast, h.2⟩
      | returns => trivial
      | completes bounded => trivial
  | opening record generation => exact ⟨h.1.later hpast, h.2⟩
  | restarting record => exact Faithful.later h hpast
  | disconnecting _ | rechecking | awaitingOnline | stopping _ | replacing _ | rereading =>
      trivial

namespace Records

/-- The records in use are the same or fewer, or new ones are known. -/
theorem mono (h : Records runtime) (hpast : runtime.facts.Past next.facts)
    (hwaiting : ∀ flow ∈ next.waiting, flow ∈ runtime.waiting ∨ flow.Known next.facts)
    (hactive : ∀ active, next.active = some active →
      runtime.active = some active ∨ active.Known next.facts)
    (hopened : next.openedDisabled = runtime.openedDisabled) : Records next where
  waiting := fun flow hflow => (hwaiting flow hflow).elim
    (fun hbefore => (h.waiting flow hbefore).later hpast) id
  active := fun active hactive' => (hactive active hactive').elim
    (fun hbefore => (h.active active hbefore).later hpast) id
  openedEnabled := hopened.trans h.openedEnabled

theorem setActive (h : Records runtime) (hfacts : next.facts = runtime.facts)
    (hwaiting : next.waiting = runtime.waiting)
    (hactive : ∀ active, next.active = some active →
      runtime.active = some active ∨ active.Known runtime.facts)
    (hopened : next.openedDisabled = runtime.openedDisabled) : Records next :=
  h.mono (hfacts ▸ ⟨le_rfl, le_rfl, fun henabled _ => henabled⟩)
    (fun _ hflow => .inl (hwaiting ▸ hflow)) (hfacts ▸ hactive) hopened

/-- The coroutine that has the lock goes on, and nobody waits who did not before. -/
theorem setWaiting (h : Records runtime) (hfacts : next.facts = runtime.facts)
    (hwaiting : ∀ flow ∈ next.waiting, flow ∈ runtime.waiting ∨ flow.Known runtime.facts)
    (hactive : next.active = runtime.active)
    (hopened : next.openedDisabled = runtime.openedDisabled) : Records next :=
  h.mono (hfacts ▸ ⟨le_rfl, le_rfl, fun henabled _ => henabled⟩) (hfacts ▸ hwaiting)
    (fun _ hbefore => .inl (hactive ▸ hbefore)) hopened

theorem append (h : Records runtime) {flow : Flow} (hflow : flow.Known runtime.facts) :
    Records { runtime with waiting := runtime.waiting ++ [flow] } :=
  h.setWaiting rfl
    (fun _ hother => (List.mem_append.mp hother).imp_right fun hnew => by
      rw [List.mem_singleton.mp hnew]
      exact hflow) rfl rfl

theorem erase (h : Records runtime) (index : ℕ) :
    Records { runtime with waiting := runtime.waiting.eraseIdx index } :=
  h.setWaiting rfl (fun _ hflow => .inl (List.mem_of_mem_eraseIdx hflow)) rfl rfl

theorem unlock (h : Records runtime) : Records runtime.unlock :=
  h.setActive rfl rfl nofun rfl

theorem write (h : Records runtime) (state : RuntimeState) {continuation : Continuation}
    (hnext : (Active.writing continuation).Known runtime.facts) :
    Records (runtime.write state continuation) :=
  h.setActive rfl rfl (fun active heq => by cases heq; exact .inr hnext) rfl

theorem startLocked (h : Records runtime) (hrecord : Faithful runtime.facts record)
    (force online : Bool) : Records (runtime.startLocked record force online) := by
  unfold AccountRuntime.startLocked
  split_ifs with hdisabled hcookie hneeds hrunning honline
  · exact h.setActive rfl rfl (fun active heq => by cases heq; exact .inr trivial) rfl
  · exact h.setActive rfl rfl (fun active heq => by cases heq; exact .inr trivial) rfl
  · exact h.setActive rfl rfl nofun rfl
  · exact h.setActive rfl rfl (fun active heq => by cases heq; exact .inr trivial) rfl
  · exact h.unlock
  · exact h.write _ ⟨hrecord, by simpa using hdisabled⟩

theorem decide (h : Records runtime) {source : Source} (hrecord : Faithful runtime.facts record)
    (force : Bool) : Records (runtime.decide source record force) := by
  have hstarts : ∀ force, Records
      { runtime with waiting := runtime.waiting ++ [.starts record force runtime.stops] } :=
    fun force => h.append ⟨hrecord, le_rfl⟩
  cases source with
  | user => exact (hstarts force).setActive rfl rfl (fun _ hactive => .inl hactive) rfl
  | restore =>
      simp only [AccountRuntime.decide]
      split_ifs
      · exact (hstarts false).setActive rfl rfl (fun _ hactive => .inl hactive) rfl
      · exact h
  | watchdog =>
      simp only [AccountRuntime.decide]
      split_ifs
      · exact hstarts true
      · exact h
  | renewal =>
      simp only [AccountRuntime.decide]
      split_ifs
      · exact h
      · exact h.append ⟨hrecord, hrecord.stops⟩
      · exact h.append trivial

theorem lock (h : Records runtime) {online : Bool} {flow : Flow}
    (hflow : flow.Known runtime.facts) (hlock : runtime.lock online flow = some next) :
    Records next := by
  cases flow with
  | read source record => cases hlock
  | starts record force decided =>
      cases hlock
      have hdesired : Records { runtime with desired := record.enabled && record.hasCookie } :=
        h.setActive rfl rfl (fun _ hactive => .inl hactive) rfl
      exact hdesired.startLocked hflow.1 force online
  | stops bounded =>
      cases hlock
      exact h.setActive rfl rfl (fun active heq => by cases heq; exact .inr trivial) rfl
  | replaces markOnline =>
      cases hlock
      exact h.setActive rfl rfl (fun active heq => by cases heq; exact .inr trivial) rfl

theorem afterWrite (h : Records runtime) {continuation : Continuation}
    (hactive : runtime.active = some (.writing continuation)) :
    Records (runtime.afterWrite continuation) := by
  cases continuation with
  | opens record =>
      have hknown : (Active.writing (.opens record)).Known runtime.facts := h.active _ hactive
      exact h.setActive rfl rfl (fun active heq => by cases heq; exact .inr hknown) rfl
  | returns => exact h.unlock
  | completes bounded =>
      have hpast : runtime.facts.Past { runtime.facts with stops := runtime.stops + 1 } :=
        ⟨le_rfl, Nat.le_succ _, fun henabled _ => henabled⟩
      exact h.mono hpast (fun _ hflow => .inl hflow) nofun rfl

end Records

theorem records_step {step : RuntimeStep} (h : Records runtime)
    (hopens : step = .opens → ∀ record generation,
      runtime.active = some (.opening record generation) → record.disables = runtime.disables)
    (hstep : runtimeStep runtime step next) : Records next := by
  cases step with
  | updates enabled hasCookie =>
      cases hstep
      refine h.mono ⟨?_, le_rfl, ?_⟩ (fun _ hflow => .inl hflow)
        (fun _ hactive => .inl hactive) rfl
      · show runtime.disables ≤ if enabled then runtime.disables else runtime.disables + 1
        split <;> omega
      · intro _ hsame
        by_contra hdisabled
        simp [AccountRuntime.facts] at hsame hdisabled
        simp [hdisabled] at hsame
  | reads source =>
      cases hstep
      exact h.append (faithful_record runtime)
  | decides index force =>
      simp only [runtimeStep, ofPartial, AccountRuntime.apply] at hstep
      split at hstep
      · rename_i source record hread
        cases hstep
        exact (h.erase index).decide (h.waiting _ (List.mem_of_getElem? hread)) force
      · cases hstep
  | callsStop =>
      cases hstep
      exact h.append trivial
  | preparesDelete =>
      cases hstep
      have happended : Records { runtime with waiting := runtime.waiting ++ [.stops true] } :=
        h.append trivial
      exact happended.setActive rfl rfl (fun _ hactive => .inl hactive) rfl
  | callsReplace markOnline =>
      cases hstep
      exact h.append trivial
  | locks index online =>
      simp only [runtimeStep, ofPartial, AccountRuntime.apply] at hstep
      split at hstep
      · rename_i flow hactive hflow
        exact (h.erase index).lock (h.waiting flow (List.mem_of_getElem? hflow)) hstep
      · cases hstep
  | disconnects =>
      simp only [runtimeStep, ofPartial, AccountRuntime.apply] at hstep
      have hstopped : Records { runtime with running := false } :=
        h.setActive rfl rfl (fun _ hactive => .inl hactive) rfl
      split at hstep
      · cases hstep
        exact hstopped.write _ trivial
      · cases hstep
        exact hstopped.write _ trivial
      · cases hstep
  | rechecks writes =>
      simp only [runtimeStep, ofPartial, AccountRuntime.apply] at hstep
      split at hstep
      · cases hstep
        cases writes with
        | true => exact h.write _ trivial
        | false => exact h.unlock
      · cases hstep
  | opens =>
      simp only [runtimeStep, ofPartial, AccountRuntime.apply] at hstep
      split at hstep
      · rename_i record generation hactive
        cases hstep
        -- the record is enabled, and no disabling came after it
        obtain ⟨hrecord, henabled⟩ := h.active _ hactive
        have hnow : runtime.enabled = true :=
          hrecord.enabled henabled (hopens rfl record generation hactive)
        exact h.setActive rfl rfl (fun active heq => by cases heq; exact .inr trivial)
          (by simp [hnow])
      · cases hstep
  | openFails state =>
      simp only [runtimeStep, ofPartial, AccountRuntime.apply] at hstep
      split at hstep
      · cases hstep
        exact h.write _ trivial
      · cases hstep
  | settles state =>
      simp only [runtimeStep, ofPartial, AccountRuntime.apply] at hstep
      split at hstep
      · cases hstep
        cases state with
        | none => exact h.unlock
        | some state => exact h.write _ trivial
      · cases hstep
  | replaces online =>
      simp only [runtimeStep, ofPartial, AccountRuntime.apply] at hstep
      split at hstep
      · cases hstep
        split
        · exact h.write _ trivial
        · exact h.unlock
      · cases hstep
  | replaceRaises =>
      simp only [runtimeStep, ofPartial, AccountRuntime.apply] at hstep
      split at hstep
      · cases hstep
        exact h.setActive rfl rfl (fun active heq => by cases heq; exact .inr trivial) rfl
      · cases hstep
  | rereads =>
      simp only [runtimeStep, ofPartial, AccountRuntime.apply] at hstep
      split at hstep
      · cases hstep
        exact h.setActive rfl rfl
          (fun active heq => by cases heq; exact .inr (faithful_record runtime)) rfl
      · cases hstep
  | restarts online =>
      simp only [runtimeStep, ofPartial, AccountRuntime.apply] at hstep
      split at hstep
      · rename_i record hactive
        cases hstep
        split
        · exact h.startLocked (h.active _ hactive) true online
        · exact h.unlock
      · cases hstep
  | commits =>
      simp only [runtimeStep, ofPartial, AccountRuntime.apply] at hstep
      split at hstep
      · cases hstep
        exact h.setActive rfl rfl (fun _ hactive => .inl hactive) rfl
      · rename_i state rest continuation hwrites hactive
        cases hstep
        have hcommitted : Records { runtime with writes := rest, stored := state } :=
          h.setActive rfl rfl (fun _ hactive => .inl hactive) rfl
        exact hcommitted.afterWrite hactive
      · cases hstep
  | timesOut done =>
      simp only [runtimeStep, ofPartial, AccountRuntime.apply] at hstep
      split at hstep
      · cases hstep
        exact h.setActive rfl rfl (fun _ hnone => by cases hnone) rfl
      · cases hstep
        unfold AccountRuntime.dropWrite
        split <;> exact h.setActive rfl rfl (fun _ hnone => by cases hnone) rfl
      · cases hstep
  | abandons index =>
      simp only [runtimeStep, ofPartial, AccountRuntime.apply] at hstep
      split at hstep
      · cases hstep
        exact h.erase index
      · cases hstep
  | reports generation state =>
      simp only [runtimeStep, ofPartial, AccountRuntime.apply, AccountRuntime.report] at hstep
      split at hstep
      · cases hstep
        split
        · exact h.setActive rfl rfl (fun _ hactive => .inl hactive) rfl
        · exact h
      · cases hstep
  | cancelsReport index =>
      simp only [runtimeStep, ofPartial, AccountRuntime.apply] at hstep
      split at hstep
      · cases hstep
        exact h.setActive rfl rfl (fun _ hactive => .inl hactive) rfl
      · cases hstep
  | detaches =>
      simp only [runtimeStep, ofPartial, AccountRuntime.apply] at hstep
      split at hstep
      · cases hstep
        exact h.setActive rfl rfl (fun _ hactive => .inl hactive) rfl
      · cases hstep
  | lands index =>
      simp only [runtimeStep, ofPartial, AccountRuntime.apply] at hstep
      split at hstep
      · cases hstep
        exact h.setActive rfl rfl (fun _ hactive => .inl hactive) rfl
      · cases hstep
  | sessionEnds =>
      cases hstep
      exact h.setActive rfl rfl (fun _ hactive => .inl hactive) rfl

end XianyuAdmin.Runtime
