import XianyuAdmin.Runtime.StartRecords
import XianyuAdmin.Runtime.AccountLock

/-!
# A stopped account

A start keeps the record and the intention it was decided with, however long it waits for
the account's lock.  One that was decided before a stop completed and comes after it starts
the stopped account again, and one whose record was read before the account was disabled
starts a disabled account.  Without those, and without a write of the state that was given
up and lands late, the account stays stopped.
-/

namespace XianyuAdmin.Runtime

open Transition

def returnsAtOnce (record : AccountRecord) (force : Bool) : Bool :=
  record.enabled && record.hasCookie && !force && record.state.needsHuman

/-- After a stop no start comes that was decided before it, no session is started with a
record that is older than the last disabling, and no write lands that was given up. -/
def inOrder (runtime : AccountRuntime) : RuntimeStep → Prop
  | .locks index _ =>
      ∀ record force decided, runtime.waiting[index]? = some (.starts record force decided) →
        runtime.quiet = true → decided = runtime.stops ∨ returnsAtOnce record force = true
  | .opens =>
      ∀ record generation, runtime.active = some (.opening record generation) →
        record.disables = runtime.disables
  | .lands index =>
      ∀ state, runtime.detached[index]? = some state → runtime.quiet = true → state = .stopped
  | .updates _ _ | .reads _ | .decides _ _ | .callsStop | .preparesDelete | .callsReplace _
  | .disconnects | .rechecks _ | .openFails _ | .settles _ | .replaces _ | .replaceRaises
  | .rereads | .restarts _ | .commits | .timesOut _ | .abandons _ | .reports _ _
  | .cancelsReport _ | .detaches | .sessionEnds => True

structure StaysStopped (runtime : AccountRuntime) : Prop where
  stopped : runtime.quiet = true → runtime.running = false ∧ runtime.stored = .stopped
  openedEnabled : runtime.openedDisabled = false

variable {runtime next : AccountRuntime} {record : AccountRecord}

/-- The coroutine that has the lock starts nothing. -/
def Active.Idle : Active → Prop
  | .stopping _ | .writing (.completes _) | .replacing _ => True
  | .disconnecting _ | .writing (.opens _) | .writing .returns | .rechecking | .opening _ _
  | .awaitingOnline | .rereading | .restarting _ => False

def Flow.Older (stops : ℕ) : Flow → Prop
  | .read _ record => record.stops = stops → record.state = .stopped
  | .starts _ _ decided => decided ≠ stops
  | .stops _ | .replaces _ => True

structure Quiet (runtime : AccountRuntime) : Prop where
  desired : runtime.desired = false
  running : runtime.running = false
  stored : runtime.stored = .stopped
  superseded : Superseded runtime
  active : ∀ active, runtime.active = some active → active.Idle
  writes : ∀ write ∈ runtime.writes, write = .active .stopped
  waiting : ∀ flow ∈ runtime.waiting, flow.Older runtime.stops

theorem Flow.Known.older {facts : Facts} {flow : Flow} (h : flow.Known facts) :
    flow.Older (facts.stops + 1) := by
  cases flow with
  | read source record =>
      intro hsame
      have hle := h.stops
      omega
  | starts record force decided =>
      intro hsame
      have hle := h.2
      omega
  | stops bounded => trivial
  | replaces markOnline => trivial

namespace Quiet

/-- Only who waits for the lock changes. -/
theorem setWaiting (h : Quiet runtime) {waiting : List Flow}
    (hwaiting : ∀ flow ∈ waiting, flow ∈ runtime.waiting ∨ flow.Older runtime.stops) :
    Quiet { runtime with waiting := waiting } :=
  { h with waiting := fun flow hflow => (hwaiting flow hflow).elim (h.waiting flow) id }

theorem append (h : Quiet runtime) {flow : Flow} (hflow : flow.Older runtime.stops) :
    Quiet { runtime with waiting := runtime.waiting ++ [flow] } :=
  h.setWaiting fun _ hother => (List.mem_append.mp hother).imp_right fun hnew => by
    rw [List.mem_singleton.mp hnew]
    exact hflow

theorem erase (h : Quiet runtime) (index : ℕ) :
    Quiet { runtime with waiting := runtime.waiting.eraseIdx index } :=
  h.setWaiting fun _ hflow => .inl (List.mem_of_mem_eraseIdx hflow)

theorem setActive (h : Quiet runtime) {active : Option Active}
    (hactive : ∀ entered, active = some entered → entered.Idle) :
    Quiet { runtime with active := active } :=
  { h with active := hactive }

theorem nextGeneration (h : Quiet runtime)
    (hopened : ∀ generation, runtime.opened = some generation →
      generation ≤ runtime.generation) : Quiet runtime.nextGeneration :=
  { h with superseded := .of_lt rfl hopened }

/-- Nobody who has read the record starts the account, but a user or a restore. -/
theorem decide (h : Quiet runtime) {source : Source}
    (hrecord : record.stops = runtime.stops → record.state = .stopped) {force : Bool}
    (hquiet : (runtime.decide source record force).quiet = true) :
    Quiet (runtime.decide source record force) := by
  cases source with
  | user => simp [AccountRuntime.decide] at hquiet
  | restore =>
      simp only [AccountRuntime.decide] at hquiet ⊢
      split at hquiet
      · simp at hquiet
      · rw [if_neg ‹_›]
        exact h
  | watchdog =>
      simp only [AccountRuntime.decide]
      rw [if_neg (by simp [h.desired])]
      exact h
  | renewal =>
      simp only [AccountRuntime.decide]
      split_ifs with _ hexpired
      · exact h
      · refine h.append fun hsame => ?_
        rw [hrecord hsame] at hexpired
        cases hexpired
      · exact h.append trivial

theorem lock (h : Quiet runtime)
    (hopened : ∀ generation, runtime.opened = some generation →
      generation ≤ runtime.generation)
    {online : Bool} {flow : Flow}
    (hreturns : ∀ record force decided, flow = .starts record force decided →
      returnsAtOnce record force = true)
    (hlock : runtime.lock online flow = some next) : Quiet next := by
  cases flow with
  | read source record => cases hlock
  | starts record force decided =>
      cases hlock
      have hat := hreturns record force decided rfl
      simp only [returnsAtOnce, Bool.and_eq_true, Bool.not_eq_true'] at hat
      obtain ⟨⟨⟨henabled, hcookie⟩, hforce⟩, hneeds⟩ := hat
      simp only [AccountRuntime.startLocked, henabled, hcookie, hforce, hneeds]
      exact { h with desired := rfl, active := nofun }
  | stops bounded =>
      cases hlock
      exact { h with
        desired := rfl
        superseded := .of_lt rfl hopened
        active := fun active heq => by cases heq; trivial }
  | replaces markOnline =>
      cases hlock
      exact h.setActive fun active heq => by cases heq; trivial

end Quiet

theorem quiet_of_completes (h : Records runtime) {bounded : Bool} {state : RuntimeState}
    {rest : List StateWrite} (hholds : Holds runtime (some (.writing (.completes bounded))))
    (hwrites : runtime.writes = .active state :: rest) :
    Quiet ({ runtime with writes := rest, stored := state }.afterWrite (.completes bounded)) := by
  obtain ⟨hdesired, hsuperseded, hrunning, hends⟩ := hholds
  obtain ⟨rfl, rfl⟩ := (hwrites ▸ hends).done
  exact {
    desired := hdesired
    running := hrunning
    stored := rfl
    superseded := hsuperseded
    active := nofun
    writes := nofun
    waiting := fun flow hflow => (h.waiting flow hflow).older }

theorem startLocked_quiet {force online : Bool} :
    (runtime.startLocked record force online).quiet = runtime.quiet := by
  unfold AccountRuntime.startLocked
  split_ifs <;> rfl

theorem lock_quiet {online : Bool} {flow : Flow} (hlock : runtime.lock online flow = some next) :
    next.quiet = runtime.quiet := by
  cases flow with
  | read source record => cases hlock
  | starts record force decided =>
      cases hlock
      exact startLocked_quiet
  | stops bounded =>
      cases hlock
      rfl
  | replaces markOnline =>
      cases hlock
      rfl

theorem quiet_of_decide {source : Source} {force : Bool}
    (hquiet : (runtime.decide source record force).quiet = true) : runtime.quiet = true := by
  cases source with
  | user => simp [AccountRuntime.decide] at hquiet
  | restore =>
      simp only [AccountRuntime.decide] at hquiet
      split at hquiet
      · cases hquiet
      · exact hquiet
  | watchdog =>
      simp only [AccountRuntime.decide] at hquiet
      split at hquiet <;> exact hquiet
  | renewal =>
      simp only [AccountRuntime.decide] at hquiet
      split_ifs at hquiet <;> exact hquiet

/-- What holds in every state of a run in order. -/
structure Orderly (runtime : AccountRuntime) : Prop where
  records : Records runtime
  sound : Sound runtime
  quiet : runtime.quiet = true → Quiet runtime

theorem quiet_step {step : RuntimeStep} (h : Orderly runtime) (horder : inOrder runtime step)
    (hstep : runtimeStep runtime step next) (hnext : next.quiet = true) : Quiet next := by
  have hholds := h.sound.holds
  cases step with
  | updates enabled hasCookie =>
      cases hstep
      exact { h.quiet hnext with }
  | reads source =>
      cases hstep
      have hquiet := h.quiet hnext
      exact hquiet.append fun _ => hquiet.stored
  | decides index force =>
      simp only [runtimeStep, ofPartial, AccountRuntime.apply] at hstep
      split at hstep
      · rename_i source record hread
        cases hstep
        have hbefore : { runtime with waiting := runtime.waiting.eraseIdx index }.quiet = true :=
          quiet_of_decide hnext
        have hquiet := h.quiet hbefore
        exact (hquiet.erase index).decide (hquiet.waiting _ (List.mem_of_getElem? hread)) hnext
      · cases hstep
  | callsStop =>
      cases hstep
      exact (h.quiet hnext).append trivial
  | preparesDelete =>
      cases hstep
      have happended : Quiet { runtime with waiting := runtime.waiting ++ [.stops true] } :=
        (h.quiet hnext).append trivial
      exact { happended.nextGeneration h.sound.opened with desired := rfl }
  | callsReplace markOnline =>
      cases hstep
      exact (h.quiet hnext).append trivial
  | locks index online =>
      simp only [runtimeStep, ofPartial, AccountRuntime.apply] at hstep
      split at hstep
      · rename_i flow hactive hflow
        have hbefore : runtime.quiet = true := (lock_quiet hstep).symm.trans hnext
        have hquiet := h.quiet hbefore
        refine (hquiet.erase index).lock h.sound.opened ?_ hstep
        rintro record force decided rfl
        -- a start that waits was decided before the stop
        have holder : decided ≠ runtime.stops :=
          hquiet.waiting (.starts record force decided) (List.mem_of_getElem? hflow)
        exact (horder record force decided hflow hbefore).resolve_left holder
      · cases hstep
  | disconnects =>
      simp only [runtimeStep, ofPartial, AccountRuntime.apply] at hstep
      split at hstep
      · rename_i state hactive
        cases hstep
        exact ((h.quiet hnext).active _ hactive).elim
      · rename_i bounded hactive
        cases hstep
        have hquiet := h.quiet hnext
        exact { hquiet with
          running := rfl
          active := fun active heq => by cases heq; trivial
          writes := fun write hwrite => (List.mem_append.mp hwrite).elim (hquiet.writes write)
            List.mem_singleton.mp }
      · cases hstep
  | rechecks writes =>
      simp only [runtimeStep, ofPartial, AccountRuntime.apply] at hstep
      split at hstep
      · rename_i hactive
        cases hstep
        have hbefore : runtime.quiet = true := by cases writes <;> exact hnext
        exact ((h.quiet hbefore).active _ hactive).elim
      · cases hstep
  | opens =>
      simp only [runtimeStep, ofPartial, AccountRuntime.apply] at hstep
      split at hstep
      · rename_i record generation hactive
        cases hstep
        exact ((h.quiet hnext).active _ hactive).elim
      · cases hstep
  | openFails state =>
      simp only [runtimeStep, ofPartial, AccountRuntime.apply] at hstep
      split at hstep
      · rename_i hactive
        cases hstep
        exact ((h.quiet hnext).active _ hactive).elim
      · cases hstep
  | settles state =>
      simp only [runtimeStep, ofPartial, AccountRuntime.apply] at hstep
      split at hstep
      · rename_i hactive
        cases hstep
        have hbefore : runtime.quiet = true := by cases state <;> exact hnext
        exact ((h.quiet hbefore).active _ hactive).elim
      · cases hstep
  | replaces online =>
      simp only [runtimeStep, ofPartial, AccountRuntime.apply] at hstep
      split at hstep
      · rename_i markOnline hactive
        cases hstep
        have hbefore : runtime.quiet = true := by split at hnext <;> exact hnext
        have hquiet := h.quiet hbefore
        rw [if_neg (by simp [hquiet.running])]
        exact hquiet.setActive fun _ hnone => by cases hnone
      · cases hstep
  | replaceRaises =>
      simp only [runtimeStep, ofPartial, AccountRuntime.apply] at hstep
      split at hstep
      · rename_i hactive hrunning
        cases hstep
        exact absurd hrunning (by simp [(h.quiet hnext).running])
      · cases hstep
  | rereads =>
      simp only [runtimeStep, ofPartial, AccountRuntime.apply] at hstep
      split at hstep
      · rename_i hactive
        cases hstep
        exact ((h.quiet hnext).active _ hactive).elim
      · cases hstep
  | restarts online =>
      simp only [runtimeStep, ofPartial, AccountRuntime.apply] at hstep
      split at hstep
      · rename_i record hactive
        cases hstep
        have hbefore : runtime.quiet = true := by
          split at hnext
          · exact startLocked_quiet.symm.trans hnext
          · exact hnext
        exact ((h.quiet hbefore).active _ hactive).elim
      · cases hstep
  | commits =>
      simp only [runtimeStep, ofPartial, AccountRuntime.apply] at hstep
      split at hstep
      · rename_i state rest hwrites
        cases hstep
        have hmem := (h.quiet hnext).writes (.callback state) (hwrites ▸ List.mem_cons_self)
        cases hmem
      · rename_i state rest continuation hwrites hactive
        cases hstep
        rw [hactive] at hholds
        cases continuation with
        | opens record => exact ((h.quiet hnext).active _ hactive).elim
        | returns => exact ((h.quiet hnext).active _ hactive).elim
        | completes bounded => exact quiet_of_completes h.records hholds hwrites
      · cases hstep
  | timesOut done =>
      simp only [runtimeStep, ofPartial, AccountRuntime.apply] at hstep
      split at hstep
      · rename_i hactive
        cases hstep
        have hquiet := h.quiet hnext
        exact { hquiet with
          running := by simp [hquiet.running]
          active := fun _ hnone => by cases hnone }
      · rename_i hactive
        cases hstep
        rw [hactive] at hholds
        obtain ⟨stored, writes, hdrop, -, hsubset, hstored⟩ := hholds.dropWrite done
        rw [hdrop] at hnext ⊢
        have hquiet := h.quiet hnext
        exact { hquiet with
          stored := hstored.elim (·.trans hquiet.stored) fun hmem => by
            cases hquiet.writes _ hmem
            rfl
          active := fun _ hnone => by cases hnone
          writes := fun write hwrite => hquiet.writes write (hsubset write hwrite) }
      · cases hstep
  | abandons index =>
      simp only [runtimeStep, ofPartial, AccountRuntime.apply] at hstep
      split at hstep
      · cases hstep
        exact (h.quiet hnext).erase index
      · cases hstep
  | reports generation state =>
      simp only [runtimeStep, ofPartial, AccountRuntime.apply] at hstep
      split at hstep
      · rename_i hopened
        cases hstep
        have hbefore : runtime.quiet = true := by
          unfold AccountRuntime.report at hnext
          split at hnext <;> exact hnext
        have hquiet := h.quiet hbefore
        have hold : generation ≠ runtime.generation := by
          rintro rfl
          exact hquiet.superseded hopened
        rw [AccountRuntime.report, if_neg hold]
        exact hquiet
      · cases hstep
  | cancelsReport index =>
      simp only [runtimeStep, ofPartial, AccountRuntime.apply] at hstep
      split at hstep
      · rename_i state hcallback
        cases hstep
        cases (h.quiet hnext).writes _ (List.mem_of_getElem? hcallback)
      · cases hstep
  | detaches =>
      simp only [runtimeStep, ofPartial, AccountRuntime.apply] at hstep
      split at hstep
      · rename_i state rest hwrites
        cases hstep
        cases (h.quiet hnext).writes (.callback state) (hwrites ▸ List.mem_cons_self)
      · cases hstep
  | lands index =>
      simp only [runtimeStep, ofPartial, AccountRuntime.apply] at hstep
      split at hstep
      · rename_i state hstate
        cases hstep
        exact { h.quiet hnext with stored := horder state hstate hnext }
      · cases hstep
  | sessionEnds =>
      cases hstep
      exact { h.quiet hnext with running := rfl }

theorem orderly_step {step : RuntimeStep} (h : Orderly runtime)
    (hstep : restrict runtimeStep inOrder runtime step next) : Orderly next where
  records := by
    refine records_step h.records ?_ hstep.2
    rintro rfl
    exact hstep.1
  sound := sound_step h.sound hstep.2
  quiet := quiet_step h hstep.1 hstep.2

/-- In a run in order a stopped account stays stopped, and no session is started for a
disabled account. -/
theorem stopped_stays_stopped {enabled hasCookie : Bool} {stored : RuntimeState}
    {steps : List RuntimeStep} {final : AccountRuntime}
    (hrun : Run (restrict runtimeStep inOrder)
      { enabled := enabled, hasCookie := hasCookie, stored := stored } steps final) :
    StaysStopped final := by
  have horderly : Orderly final := by
    refine hrun.invariant Orderly (fun _ _ _ => orderly_step) ?_
    exact {
      records := ⟨nofun, nofun, rfl⟩
      sound := ⟨nofun, rfl⟩
      quiet := nofun }
  exact {
    stopped := fun hquiet => ⟨(horderly.quiet hquiet).running, (horderly.quiet hquiet).stored⟩
    openedEnabled := horderly.records.openedEnabled }

/-- A session that was online is stopped by the user, and the watchdog and the renewal look
at the account afterwards. -/
theorem user_stop_holds : ∃ final,
    Run (restrict runtimeStep inOrder)
      { enabled := true, hasCookie := true, stored := .stopped }
      [.reads .user, .decides 0 false, .locks 0 false, .commits, .opens, .reports 1 .online,
        .commits, .settles none, .callsStop, .locks 0 false, .disconnects, .commits,
        .reads .watchdog, .reads .renewal, .decides 0 true, .decides 0 true, .locks 0 false,
        .replaces true] final ∧
    final.quiet = true ∧ StaysStopped final := by
  have hruns : ∃ final,
      Run (restrict runtimeStep inOrder)
        { enabled := true, hasCookie := true, stored := .stopped }
        [.reads .user, .decides 0 false, .locks 0 false, .commits, .opens, .reports 1 .online,
          .commits, .settles none, .callsStop, .locks 0 false, .disconnects, .commits,
          .reads .watchdog, .reads .renewal, .decides 0 true, .decides 0 true, .locks 0 false,
          .replaces true] final ∧ final.quiet = true :=
    ⟨_, .cons ⟨trivial, rfl⟩ <| .cons ⟨trivial, rfl⟩ <| .cons ⟨fun _ _ _ _ => nofun, rfl⟩ <|
      .cons ⟨trivial, rfl⟩ <| .cons ⟨fun _ _ hactive => by cases hactive; rfl, rfl⟩ <|
      .cons ⟨trivial, rfl⟩ <| .cons ⟨trivial, rfl⟩ <| .cons ⟨trivial, rfl⟩ <|
      .cons ⟨trivial, rfl⟩ <| .cons ⟨nofun, rfl⟩ <| .cons ⟨trivial, rfl⟩ <|
      .cons ⟨trivial, rfl⟩ <| .cons ⟨trivial, rfl⟩ <| .cons ⟨trivial, rfl⟩ <|
      .cons ⟨trivial, rfl⟩ <| .cons ⟨trivial, rfl⟩ <| .cons ⟨nofun, rfl⟩ <|
      .cons ⟨trivial, rfl⟩ (.nil _), rfl⟩
  obtain ⟨final, hrun, hquiet⟩ := hruns
  exact ⟨final, hrun, hquiet, stopped_stays_stopped hrun⟩

/-- The watchdog decides to restart a session that has ended, and does so after the account
was stopped; and a start that waited for the lock uses a record from before the account was
disabled. -/
theorem late_start_overrides :
    (∃ steps final,
      Run runtimeStep { enabled := true, hasCookie := true, stored := .stopped } steps final ∧
        final.quiet = true ∧ final.running = true ∧ final.stored = .connecting) ∧
    ∃ steps final,
      Run runtimeStep { enabled := true, hasCookie := true, stored := .stopped } steps final ∧
        final.openedDisabled = true := by
  constructor
  · refine ⟨[.reads .user, .decides 0 false, .locks 0 false, .commits, .opens, .settles none,
      .sessionEnds, .reads .watchdog, .decides 0 true, .callsStop, .locks 1 false,
      .disconnects, .commits, .locks 0 false, .commits, .opens], _,
      run_ofPartial_iff.mpr rfl, ?_⟩
    decide
  · refine ⟨[.reads .user, .decides 0 false, .updates false true, .locks 0 false, .commits,
      .opens], _, run_ofPartial_iff.mpr rfl, rfl⟩

end XianyuAdmin.Runtime
