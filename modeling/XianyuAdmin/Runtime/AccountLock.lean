import XianyuAdmin.Runtime.AccountRuntime

/-!
# The account's lock

One coroutine has the account's lock.  It writes the runtime state once at a time, behind
the callbacks that came to the write lock before it, and from the moment a stop has the lock
no callback of the last session comes after it.
-/

namespace XianyuAdmin.Runtime

open Transition

variable {runtime next : AccountRuntime}

def ownWrites (writes : List StateWrite) : List RuntimeState :=
  writes.filterMap fun write => match write with
    | .callback _ => none
    | .active state => some state

@[simp]
theorem ownWrites_nil : ownWrites [] = [] :=
  rfl

@[simp]
theorem ownWrites_append (left right : List StateWrite) :
    ownWrites (left ++ right) = ownWrites left ++ ownWrites right :=
  List.filterMap_append

@[simp]
theorem ownWrites_callback_cons (state : RuntimeState) (rest : List StateWrite) :
    ownWrites (.callback state :: rest) = ownWrites rest :=
  rfl

@[simp]
theorem ownWrites_active_cons (state : RuntimeState) (rest : List StateWrite) :
    ownWrites (.active state :: rest) = state :: ownWrites rest :=
  rfl

theorem ownWrites_callbacks (writes : List StateWrite) :
    ownWrites (writes.filter (·.isCallback)) = [] := by
  induction writes with
  | nil => rfl
  | cons write rest ih =>
      cases write with
      | callback state => simpa [StateWrite.isCallback] using ih
      | active state => simpa [StateWrite.isCallback] using ih

variable {writes rest : List StateWrite} {state : RuntimeState}

/-- A callback's write can go without the others. -/
theorem ownWrites_eraseIdx {index : ℕ} (hcallback : writes[index]? = some (.callback state)) :
    ownWrites (writes.eraseIdx index) = ownWrites writes := by
  induction writes generalizing index with
  | nil => rfl
  | cons write rest ih =>
      cases index with
      | zero =>
          cases hcallback
          rfl
      | succ index =>
          have hrest : ownWrites (rest.eraseIdx index) = ownWrites rest :=
            ih (by simpa using hcallback)
          cases write with
          | callback _ => simpa using hrest
          | active _ => simpa using hrest

def EndsStopped (writes : List StateWrite) : Prop :=
  ∃ before, writes = before ++ [.active .stopped] ∧ ownWrites before = []

theorem EndsStopped.ownWrites (h : EndsStopped writes) : ownWrites writes = [.stopped] := by
  obtain ⟨before, rfl, hbefore⟩ := h
  simp [hbefore]

theorem EndsStopped.tail (h : EndsStopped (.callback state :: rest)) : EndsStopped rest := by
  obtain ⟨before, heq, hbefore⟩ := h
  cases before with
  | nil => simp at heq
  | cons write before =>
      obtain ⟨rfl, rfl⟩ : .callback state = write ∧ rest = before ++ [.active .stopped] := by
        simpa using heq
      exact ⟨before, rfl, by simpa using hbefore⟩

/-- Once it is done, nothing waits for the write lock. -/
theorem EndsStopped.done (h : EndsStopped (.active state :: rest)) :
    state = .stopped ∧ rest = [] := by
  obtain ⟨before, heq, hbefore⟩ := h
  cases before with
  | nil => simpa using heq
  | cons write before =>
      obtain ⟨rfl, -⟩ : .active state = write ∧ rest = before ++ [.active .stopped] := by
        simpa using heq
      simp at hbefore

theorem EndsStopped.eraseIdx {index : ℕ} (h : EndsStopped writes)
    (hcallback : writes[index]? = some (.callback state)) :
    EndsStopped (writes.eraseIdx index) := by
  obtain ⟨before, rfl, hbefore⟩ := h
  have hindex : index < before.length := by
    by_contra hlate
    rw [List.getElem?_append_right (by omega)] at hcallback
    cases hoffset : index - before.length with
    | zero => simp [hoffset] at hcallback
    | succ offset => simp [hoffset] at hcallback
  rw [List.getElem?_append_left hindex] at hcallback
  rw [List.eraseIdx_append_of_lt_length hindex]
  exact ⟨_, rfl, (ownWrites_eraseIdx hcallback).trans hbefore⟩

/-- The callbacks of the last session have an old generation. -/
def Superseded (runtime : AccountRuntime) : Prop :=
  runtime.opened ≠ some runtime.generation

/-- What holds while the coroutine that has the lock waits. -/
def Holds (runtime : AccountRuntime) : Option Active → Prop
  | some (.opening _ generation) =>
      generation ≤ runtime.generation ∧ ownWrites runtime.writes = []
  | some (.stopping _) =>
      runtime.desired = false ∧ Superseded runtime ∧ ownWrites runtime.writes = []
  | some (.writing (.completes _)) =>
      runtime.desired = false ∧ Superseded runtime ∧ runtime.running = false ∧
        EndsStopped runtime.writes
  | some (.writing (.opens _)) | some (.writing .returns) =>
      ∃ state, ownWrites runtime.writes = [state]
  | none | some (.disconnecting _) | some .rechecking | some .awaitingOnline
  | some (.replacing _) | some .rereading | some (.restarting _) =>
      ownWrites runtime.writes = []

structure Sound (runtime : AccountRuntime) : Prop where
  opened : ∀ generation, runtime.opened = some generation → generation ≤ runtime.generation
  holds : Holds runtime runtime.active

theorem Superseded.of_lt {generation : ℕ} (hnext : next.generation = generation + 1)
    (hopened : ∀ opened, next.opened = some opened → opened ≤ generation) :
    Superseded next := by
  intro hsame
  have hle := hopened _ hsame
  omega

/-- The lock stays where it is. -/
theorem Holds.frame {active : Option Active} (h : Holds runtime active)
    (hgeneration : runtime.generation ≤ next.generation)
    (hsuperseded : Superseded runtime → Superseded next)
    (hdesired : runtime.desired = false → next.desired = false)
    (hrunning : runtime.running = false → next.running = false)
    (hown : ownWrites next.writes = ownWrites runtime.writes)
    (hends : Superseded runtime → EndsStopped runtime.writes → EndsStopped next.writes) :
    Holds next active := by
  match active, h with
  | some (.opening _ generation), h => exact ⟨h.1.trans hgeneration, hown.trans h.2⟩
  | some (.stopping _), h => exact ⟨hdesired h.1, hsuperseded h.2.1, hown.trans h.2.2⟩
  | some (.writing (.completes _)), h =>
      exact ⟨hdesired h.1, hsuperseded h.2.1, hrunning h.2.2.1, hends h.2.1 h.2.2.2⟩
  | some (.writing (.opens _)), h => exact h.imp fun _ hone => hown.trans hone
  | some (.writing .returns), h => exact h.imp fun _ hone => hown.trans hone
  | none, h => exact hown.trans h
  | some (.disconnecting _), h => exact hown.trans h
  | some .rechecking, h => exact hown.trans h
  | some .awaitingOnline, h => exact hown.trans h
  | some (.replacing _), h => exact hown.trans h
  | some .rereading, h => exact hown.trans h
  | some (.restarting _), h => exact hown.trans h

/-- The coroutine that has the lock writes once at a time. -/
theorem Holds.ownWrites_rest {continuation : Continuation}
    (h : Holds runtime (some (.writing continuation)))
    (hwrites : runtime.writes = .active state :: rest) : ownWrites rest = [] := by
  cases continuation with
  | completes bounded =>
      have hends : EndsStopped (.active state :: rest) := hwrites ▸ h.2.2.2
      rw [hends.done.2]
      rfl
  | opens record =>
      obtain ⟨_, hone⟩ := h
      rw [hwrites, ownWrites_active_cons] at hone
      exact (List.cons.inj hone).2
  | returns =>
      obtain ⟨_, hone⟩ := h
      rw [hwrites, ownWrites_active_cons] at hone
      exact (List.cons.inj hone).2

/-- What a cancelled write leaves behind. -/
theorem Holds.dropWrite {continuation : Continuation}
    (h : Holds runtime (some (.writing continuation))) (done : Bool) :
    ∃ stored writes, runtime.dropWrite done = { runtime with stored := stored, writes := writes } ∧
      ownWrites writes = [] ∧ (∀ write ∈ writes, write ∈ runtime.writes) ∧
      (stored = runtime.stored ∨ .active stored ∈ runtime.writes) := by
  unfold AccountRuntime.dropWrite
  split
  · rename_i state rest hwrites
    refine ⟨state, rest, rfl, h.ownWrites_rest hwrites, ?_, .inr ?_⟩
    · exact fun write hwrite => hwrites ▸ List.mem_cons_of_mem _ hwrite
    · exact hwrites ▸ List.mem_cons_self
  · exact ⟨_, _, rfl, ownWrites_callbacks _, fun _ hwrite => (List.mem_filter.mp hwrite).1,
      .inl rfl⟩

namespace Sound

theorem frame (h : Sound runtime) (hopened : next.opened = runtime.opened)
    (hgeneration : next.generation = runtime.generation)
    (hactive : next.active = runtime.active)
    (hdesired : runtime.desired = false → next.desired = false)
    (hrunning : runtime.running = false → next.running = false)
    (hown : ownWrites next.writes = ownWrites runtime.writes)
    (hends : Superseded runtime → EndsStopped runtime.writes → EndsStopped next.writes) :
    Sound next where
  opened := by
    rw [hopened, hgeneration]
    exact h.opened
  holds := by
    rw [hactive]
    refine h.holds.frame hgeneration.ge ?_ hdesired hrunning hown hends
    intro hsuperseded
    simpa [Superseded, hopened, hgeneration] using hsuperseded

/-- Nobody has the lock, or who has it says nothing about the state. -/
theorem enter (h : Sound runtime) (hopened : next.opened = runtime.opened)
    (hgeneration : runtime.generation ≤ next.generation) (hholds : Holds next next.active) :
    Sound next where
  opened := fun generation heq => (h.opened generation (hopened ▸ heq)).trans hgeneration
  holds := hholds

theorem startLocked (h : Sound runtime) (hown : ownWrites runtime.writes = [])
    (record : AccountRecord) (force online : Bool) :
    Sound (runtime.startLocked record force online) := by
  unfold AccountRuntime.startLocked
  split_ifs
  · exact h.enter rfl (Nat.le_succ _) hown
  · exact h.enter rfl (Nat.le_succ _) hown
  · exact h.enter rfl le_rfl hown
  · exact h.enter rfl le_rfl hown
  · exact h.enter rfl le_rfl hown
  · refine h.enter rfl le_rfl ⟨.connecting, ?_⟩
    simp [AccountRuntime.write, hown]

/-- Another write than that of a stop. -/
theorem writeReturns (h : Sound runtime) (hown : ownWrites runtime.writes = [])
    (state : RuntimeState) : Sound (runtime.write state .returns) := by
  refine h.enter rfl le_rfl ⟨state, ?_⟩
  simp [AccountRuntime.write, hown]

theorem decide (h : Sound runtime) (source : Source) (record : AccountRecord) (force : Bool) :
    Sound (runtime.decide source record force) := by
  have hkeep : ∀ waiting quiet, Sound { runtime with waiting := waiting, quiet := quiet } :=
    fun _ _ => h.frame rfl rfl rfl id id rfl fun _ => id
  cases source with
  | user => exact hkeep _ false
  | restore =>
      simp only [AccountRuntime.decide]
      split_ifs
      · exact hkeep _ false
      · exact h
  | watchdog =>
      simp only [AccountRuntime.decide]
      split_ifs
      · exact hkeep _ runtime.quiet
      · exact h
  | renewal =>
      simp only [AccountRuntime.decide]
      split_ifs
      · exact h
      · exact hkeep _ runtime.quiet
      · exact hkeep _ runtime.quiet

theorem lock (h : Sound runtime) (hactive : runtime.active = none) {online : Bool} {flow : Flow}
    (hlock : runtime.lock online flow = some next) : Sound next := by
  have hown : ownWrites runtime.writes = [] := by
    have hholds := h.holds
    rwa [hactive] at hholds
  cases flow with
  | read source record => cases hlock
  | starts record force decided =>
      cases hlock
      have hdesired : Sound { runtime with desired := record.enabled && record.hasCookie } := by
        refine h.enter rfl le_rfl ?_
        show Holds _ runtime.active
        rw [hactive]
        exact hown
      exact hdesired.startLocked hown record force online
  | stops bounded =>
      cases hlock
      exact h.enter rfl (Nat.le_succ _) ⟨rfl, .of_lt rfl h.opened, hown⟩
  | replaces markOnline =>
      cases hlock
      exact h.enter rfl le_rfl hown

end Sound

theorem sound_step {step : RuntimeStep} (h : Sound runtime)
    (hstep : runtimeStep runtime step next) : Sound next := by
  have hholds := h.holds
  cases step with
  | updates enabled hasCookie =>
      cases hstep
      exact h.frame rfl rfl rfl id id rfl fun _ => id
  | reads source =>
      cases hstep
      exact h.frame rfl rfl rfl id id rfl fun _ => id
  | decides index force =>
      simp only [runtimeStep, ofPartial, AccountRuntime.apply] at hstep
      split at hstep
      · rename_i source record hread
        cases hstep
        have herased : Sound { runtime with waiting := runtime.waiting.eraseIdx index } :=
          h.frame rfl rfl rfl id id rfl fun _ => id
        exact herased.decide source record force
      · cases hstep
  | callsStop =>
      cases hstep
      exact h.frame rfl rfl rfl id id rfl fun _ => id
  | preparesDelete =>
      cases hstep
      exact h.enter rfl (Nat.le_succ _) (hholds.frame (Nat.le_succ _)
        (fun _ => .of_lt rfl h.opened) (fun _ => rfl) id rfl fun _ => id)
  | callsReplace markOnline =>
      cases hstep
      exact h.frame rfl rfl rfl id id rfl fun _ => id
  | locks index online =>
      simp only [runtimeStep, ofPartial, AccountRuntime.apply] at hstep
      split at hstep
      · rename_i flow hactive hflow
        have herased : Sound { runtime with waiting := runtime.waiting.eraseIdx index } :=
          h.frame rfl rfl rfl id id rfl fun _ => id
        exact herased.lock hactive hstep
      · cases hstep
  | disconnects =>
      simp only [runtimeStep, ofPartial, AccountRuntime.apply] at hstep
      split at hstep
      · rename_i state hactive
        cases hstep
        rw [hactive] at hholds
        have hown : ownWrites runtime.writes = [] := hholds
        refine h.enter rfl le_rfl ⟨state, ?_⟩
        simp [AccountRuntime.write, hown]
      · rename_i bounded hactive
        cases hstep
        rw [hactive] at hholds
        exact h.enter rfl le_rfl ⟨hholds.1, hholds.2.1, rfl, runtime.writes, rfl, hholds.2.2⟩
      · cases hstep
  | rechecks writes =>
      simp only [runtimeStep, ofPartial, AccountRuntime.apply] at hstep
      split at hstep
      · rename_i hactive
        cases hstep
        rw [hactive] at hholds
        cases writes with
        | true => exact h.writeReturns hholds _
        | false => exact h.enter rfl le_rfl hholds
      · cases hstep
  | opens =>
      simp only [runtimeStep, ofPartial, AccountRuntime.apply] at hstep
      split at hstep
      · rename_i record generation hactive
        cases hstep
        rw [hactive] at hholds
        exact ⟨fun _ heq => by cases heq; exact hholds.1, hholds.2⟩
      · cases hstep
  | openFails state =>
      simp only [runtimeStep, ofPartial, AccountRuntime.apply] at hstep
      split at hstep
      · rename_i hactive
        cases hstep
        rw [hactive] at hholds
        exact h.writeReturns hholds.2 _
      · cases hstep
  | settles state =>
      simp only [runtimeStep, ofPartial, AccountRuntime.apply] at hstep
      split at hstep
      · rename_i hactive
        cases hstep
        rw [hactive] at hholds
        cases state with
        | none => exact h.enter rfl le_rfl hholds
        | some state => exact h.writeReturns hholds _
      · cases hstep
  | replaces online =>
      simp only [runtimeStep, ofPartial, AccountRuntime.apply] at hstep
      split at hstep
      · rename_i hactive
        cases hstep
        rw [hactive] at hholds
        split
        · exact h.writeReturns hholds _
        · exact h.enter rfl le_rfl hholds
      · cases hstep
  | replaceRaises =>
      simp only [runtimeStep, ofPartial, AccountRuntime.apply] at hstep
      split at hstep
      · rename_i hactive _
        cases hstep
        rw [hactive] at hholds
        exact h.enter rfl le_rfl hholds
      · cases hstep
  | rereads =>
      simp only [runtimeStep, ofPartial, AccountRuntime.apply] at hstep
      split at hstep
      · rename_i hactive
        cases hstep
        rw [hactive] at hholds
        exact h.enter rfl le_rfl hholds
      · cases hstep
  | restarts online =>
      simp only [runtimeStep, ofPartial, AccountRuntime.apply] at hstep
      split at hstep
      · rename_i record hactive
        cases hstep
        rw [hactive] at hholds
        split
        · exact h.startLocked hholds record true online
        · exact h.enter rfl le_rfl hholds
      · cases hstep
  | commits =>
      simp only [runtimeStep, ofPartial, AccountRuntime.apply] at hstep
      split at hstep
      · rename_i state rest hwrites
        cases hstep
        refine h.frame rfl rfl rfl id id ?_ ?_
        · simp [hwrites]
        · rw [hwrites]
          exact fun _ => EndsStopped.tail
      · rename_i state rest continuation hwrites hactive
        cases hstep
        rw [hactive] at hholds
        have hrest := hholds.ownWrites_rest hwrites
        cases continuation with
        | opens record => exact h.enter rfl (Nat.le_succ _) ⟨le_rfl, hrest⟩
        | returns => exact h.enter rfl le_rfl hrest
        | completes bounded => exact h.enter rfl le_rfl hrest
      · cases hstep
  | timesOut done =>
      simp only [runtimeStep, ofPartial, AccountRuntime.apply] at hstep
      split at hstep
      · rename_i hactive
        cases hstep
        rw [hactive] at hholds
        exact h.enter rfl le_rfl hholds.2.2
      · rename_i hactive
        cases hstep
        rw [hactive] at hholds
        obtain ⟨stored, writes, hdrop, hown, -, -⟩ := hholds.dropWrite done
        rw [hdrop]
        exact h.enter rfl le_rfl hown
      · cases hstep
  | abandons index =>
      simp only [runtimeStep, ofPartial, AccountRuntime.apply] at hstep
      split at hstep
      · cases hstep
        exact h.frame rfl rfl rfl id id rfl fun _ => id
      · cases hstep
  | reports generation state =>
      simp only [runtimeStep, ofPartial, AccountRuntime.apply, AccountRuntime.report] at hstep
      split at hstep
      · rename_i hopened
        cases hstep
        split
        · rename_i hcurrent
          refine h.frame rfl rfl rfl (fun hdesired => by simp [hdesired]) id (by simp) ?_
          intro hsuperseded
          exact absurd (hcurrent ▸ hopened) hsuperseded
        · exact h
      · cases hstep
  | cancelsReport index =>
      simp only [runtimeStep, ofPartial, AccountRuntime.apply] at hstep
      split at hstep
      · rename_i state hcallback
        cases hstep
        exact h.frame rfl rfl rfl id id (ownWrites_eraseIdx hcallback)
          fun _ hends => hends.eraseIdx hcallback
      · cases hstep
  | detaches =>
      simp only [runtimeStep, ofPartial, AccountRuntime.apply] at hstep
      split at hstep
      · rename_i state rest hwrites
        cases hstep
        refine h.frame rfl rfl rfl id id ?_ ?_
        · simp [hwrites]
        · rw [hwrites]
          exact fun _ => EndsStopped.tail
      · cases hstep
  | lands index =>
      simp only [runtimeStep, ofPartial, AccountRuntime.apply] at hstep
      split at hstep
      · cases hstep
        exact h.frame rfl rfl rfl id id rfl fun _ => id
      · cases hstep
  | sessionEnds =>
      cases hstep
      exact h.frame rfl rfl rfl id (fun _ => rfl) rfl fun _ => id

end XianyuAdmin.Runtime
