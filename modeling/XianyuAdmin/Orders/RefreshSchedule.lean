import XianyuAdmin.Core.Dict
import XianyuAdmin.Core.Transition

/-!
# Scheduled refreshes of active orders

A scan picks the orders that are due and starts a task for each of them; a
semaphore of the scan lets some of them run.  A task that settles says when its
order may be picked again.  The scan waits for its tasks, unless the report of a
failure raises: then the others go on on their own.  Times are whole microseconds.
-/

namespace XianyuAdmin.RefreshSchedule

open XianyuAdmin.Transition

/-- `ActiveOrderRefreshScheduler` with the settings its constructor bounds. -/
structure Scheduler where
  refreshSeconds : ℤ
  jitterSeconds : ℤ
  batchSize : ℕ
  concurrency : ℕ
  refresh_ge : 60 ≤ refreshSeconds
  batch_mem : batchSize ∈ Set.Icc 1 50
  concurrency_mem : concurrency ∈ Set.Icc 1 5

/-- `ActiveOrderRefreshScheduler.__init__` -/
def Scheduler.init (refreshSeconds jitterSeconds batchSize concurrency : ℤ) : Scheduler where
  refreshSeconds := max 60 refreshSeconds
  jitterSeconds := max 0 jitterSeconds
  batchSize := (max 1 (min batchSize 50)).toNat
  concurrency := (max 1 (min concurrency 5)).toNat
  refresh_ge := le_max_left _ _
  batch_mem := by
    rw [Set.mem_Icc]
    omega
  concurrency_mem := by
    rw [Set.mem_Icc]
    omega

def seconds (count : ℤ) : ℤ := count * 1000000

/-- An order as the scan loads it; `age` is the time since `last_detail_synced_at`. -/
structure ListedOrder where
  orderPk : String
  age : Option ℤ

/-- Where `_refresh_one` is: with the refresh, the event of a refreshed order, or the record of
a failure. -/
inductive Stage
  | running
  | publishing
  | reporting
  deriving DecidableEq

/-- A task of a scan; once it has the semaphore, it has a time at which it began. -/
structure Task where
  scan : ℕ
  orderPk : String
  started : Option (ℤ × Stage) := none

structure State where
  now : ℤ
  nextAttemptAt : Dict String ℤ := Dict.empty
  scan : ℕ := 0
  scanning : Bool := false
  tasks : List Task := []

def State.initial (now : ℤ) : State := { now }

variable (scheduler : Scheduler)

/-- The loop of `scan_due`. -/
def pickDue (now : ℤ) : List ListedOrder → List String → Dict String ℤ →
    List String × Dict String ℤ
  | [], due, next => (due, next)
  | order :: rest, due, next =>
      if now < (next.get? order.orderPk).getD 0 then pickDue now rest due next
      else
        match order.age.filter (· < seconds scheduler.refreshSeconds) with
        | some age =>
            pickDue now rest due
              (next.set order.orderPk (now + seconds scheduler.refreshSeconds - age))
        | none =>
            if scheduler.batchSize ≤ (due ++ [order.orderPk]).length then
              (due ++ [order.orderPk], next)
            else pickDue now rest (due ++ [order.orderPk]) next

/-- What happens next; `jitter` is drawn by `random.randint`, and the orders are what the store
lists. -/
inductive Event
  | waits (elapsed : ℕ)
  | scans (orders : List ListedOrder)
  | begins (index : ℕ)
  | settles (index : ℕ) (failed : Bool) (jitter : ℤ)
  /-- Where the report of a failure raises, `gather` does. -/
  | ends (index : ℕ) (raised : Bool)
  /-- `shutdown` while the scan waits for its tasks. -/
  | cancels

/-- A task of the scan holds the semaphore. -/
def Task.holds (scan : ℕ) (task : Task) : Bool := task.scan = scan && task.started.isSome

/-- The delay after an attempt, without the jitter. -/
def Scheduler.delay (failed : Bool) : ℤ :=
  if failed then max 180 (scheduler.refreshSeconds * 2) else scheduler.refreshSeconds

def apply (state : State) : Event → Option State
  | .waits elapsed => some { state with now := state.now + elapsed }
  | .scans orders =>
      if state.scanning = false ∧ (orders.map ListedOrder.orderPk).Nodup then
        let picked := pickDue scheduler state.now orders [] state.nextAttemptAt
        some { state with
          nextAttemptAt := picked.2
          scan := state.scan + 1
          scanning := picked.1 ≠ []
          tasks := state.tasks ++ picked.1.map fun orderPk => { scan := state.scan + 1, orderPk } }
      else none
  | .begins index =>
      state.tasks[index]?.bind fun task =>
        if task.started = none ∧
            state.tasks.countP (Task.holds task.scan) < scheduler.concurrency then
          some { state with
            tasks := state.tasks.set index { task with started := some (state.now, .running) } }
        else none
  | .settles index failed jitter =>
      state.tasks[index]?.bind fun task => task.started.bind fun attempt =>
        if (attempt.2 = .running ∨ failed = true ∧ attempt.2 = .publishing) ∧
            0 ≤ jitter ∧ jitter ≤ scheduler.jitterSeconds then
          some { state with
            nextAttemptAt := state.nextAttemptAt.set task.orderPk
              (attempt.1 + seconds (scheduler.delay failed + jitter))
            tasks := state.tasks.set index { task with
              started := some (attempt.1, if failed then .reporting else .publishing) } }
        else none
  | .ends index raised =>
      state.tasks[index]?.bind fun task =>
        let rest := state.tasks.eraseIdx index
        if ∃ attempt ∈ task.started, attempt.2 = .reporting ∨
            raised = false ∧ attempt.2 = .publishing then
          some { state with
            tasks := rest
            scanning := state.scanning && !(raised && task.scan = state.scan) &&
              rest.any fun task => task.scan = state.scan }
        else none
  | .cancels =>
      if state.scanning then
        some { state with
          scanning := false
          tasks := state.tasks.filter fun task => task.scan ≠ state.scan }
      else none

/-- Every step of the scheduler, whatever the store and the platform do. -/
def step : State → Event → State → Prop := ofPartial (apply scheduler)

variable {scheduler} {state next start final : State} {event : Event} {events : List Event}

theorem scans_iff {orders : List ListedOrder} :
    step scheduler state (.scans orders) next ↔
      (state.scanning = false ∧ (orders.map ListedOrder.orderPk).Nodup) ∧ { state with
        nextAttemptAt := (pickDue scheduler state.now orders [] state.nextAttemptAt).2
        scan := state.scan + 1
        scanning := (pickDue scheduler state.now orders [] state.nextAttemptAt).1 ≠ []
        tasks := state.tasks ++ (pickDue scheduler state.now orders [] state.nextAttemptAt).1.map
          fun orderPk => { scan := state.scan + 1, orderPk } } = next := by
  simp only [step, ofPartial, apply, Option.ite_none_right_eq_some, Option.some_inj]

theorem begins_iff {index : ℕ} :
    step scheduler state (.begins index) next ↔
      ∃ task, state.tasks[index]? = some task ∧ (task.started = none ∧
        state.tasks.countP (Task.holds task.scan) < scheduler.concurrency) ∧ { state with
          tasks := state.tasks.set index { task with started := some (state.now, .running) } } =
            next := by
  simp only [step, ofPartial, apply, Option.bind_eq_some_iff, Option.ite_none_right_eq_some,
    Option.some_inj]

/-- An attempt that settles puts its order off by `refresh_seconds` at least. -/
theorem settles_spec {index : ℕ} {failed : Bool} {jitter : ℤ}
    (hstep : step scheduler state (.settles index failed jitter) next) :
    ∃ task startedAt stage after attempt, state.tasks[index]? = some task ∧
      task.started = some (startedAt, stage) ∧
      startedAt + seconds scheduler.refreshSeconds ≤ attempt ∧ { state with
        nextAttemptAt := state.nextAttemptAt.set task.orderPk attempt
        tasks := state.tasks.set index { task with started := some (startedAt, after) } } =
          next := by
  simp only [step, ofPartial, apply, Option.bind_eq_some_iff, Option.ite_none_right_eq_some,
    Option.some_inj] at hstep
  obtain ⟨task, htask, ⟨startedAt, stage⟩, hstarted, ⟨-, hjitter, -⟩, hnext⟩ := hstep
  refine ⟨task, startedAt, stage, _, _, htask, hstarted, ?_, hnext⟩
  have hge := scheduler.refresh_ge
  unfold seconds Scheduler.delay
  split <;> omega

/-- An attempt ends after it has settled. -/
theorem ends_spec {index : ℕ} {raised : Bool}
    (hstep : step scheduler state (.ends index raised) next) :
    ∃ task, state.tasks[index]? = some task ∧ (∀ time, task.started ≠ some (time, .running)) ∧
      { state with
        tasks := state.tasks.eraseIdx index
        scanning := state.scanning && !(raised && task.scan = state.scan) &&
          (state.tasks.eraseIdx index).any fun task => task.scan = state.scan } = next := by
  simp only [step, ofPartial, apply, Option.bind_eq_some_iff, Option.ite_none_right_eq_some,
    Option.some_inj] at hstep
  obtain ⟨task, htask, ⟨attempt, hattempt, hstage⟩, hnext⟩ := hstep
  refine ⟨task, htask, fun time hrunning => ?_, hnext⟩
  rw [hrunning, Option.mem_some_iff] at hattempt
  simp [← hattempt] at hstage

/-- What the loop picks, and the times it sets. -/
theorem pickDue_spec (now : ℤ) (orders : List ListedOrder) (due : List String)
    (times : Dict String ℤ) (hdue : due.length < scheduler.batchSize) :
    ∃ picked : List String, (pickDue scheduler now orders due times).1 = due ++ picked ∧
      picked.Sublist (orders.map ListedOrder.orderPk) ∧
      (due ++ picked).length ≤ scheduler.batchSize ∧
      (∀ orderPk ∈ picked, (times.get? orderPk).getD 0 ≤ now) ∧
      ∀ orderPk, now < (times.get? orderPk).getD 0 →
        (pickDue scheduler now orders due times).2.get? orderPk = times.get? orderPk := by
  induction orders generalizing due times with
  | nil => exact ⟨[], by simp [pickDue], by simp, by simpa using hdue.le, by simp, by simp [pickDue]⟩
  | cons order rest ih =>
      rw [pickDue]
      split
      · obtain ⟨picked, hresult, hsub, hlength, hready, hkept⟩ := ih due times hdue
        exact ⟨picked, hresult, hsub.cons _, hlength, hready, hkept⟩
      · rename_i hready
        split
        · rename_i age hage
          have hlater : now < now + seconds scheduler.refreshSeconds - age := by
            have := (Option.filter_eq_some_iff.mp hage).2
            simp only [decide_eq_true_eq] at this
            omega
          obtain ⟨picked, hresult, hsub, hlength, hpicked, hkept⟩ := ih due
            (times.set order.orderPk (now + seconds scheduler.refreshSeconds - age)) hdue
          refine ⟨picked, hresult, hsub.cons _, hlength, fun orderPk hmem => ?_,
            fun orderPk hwaits => ?_⟩
          · have htime := hpicked orderPk hmem
            rw [Dict.get?_set] at htime
            split at htime
            · rw [Option.getD_some] at htime
              omega
            · exact htime
          · have hother : orderPk ≠ order.orderPk := by
              rintro rfl
              exact hready hwaits
            have hsame := Dict.get?_set times order.orderPk
              (now + seconds scheduler.refreshSeconds - age) orderPk
            rw [if_neg hother] at hsame
            rw [hkept orderPk (by rwa [hsame]), hsame]
        · have hready' : (times.get? order.orderPk).getD 0 ≤ now := not_lt.mp hready
          split
          · refine ⟨[order.orderPk], rfl, ?_, ?_, by simpa using hready', fun _ _ => rfl⟩
            · simp
            · simpa using hdue
          · rename_i hroom
            obtain ⟨picked, hresult, hsub, hlength, hpicked, hkept⟩ :=
              ih (due ++ [order.orderPk]) times (not_le.mp hroom)
            refine ⟨order.orderPk :: picked, by simpa using hresult, by simpa using hsub,
              by simpa using hlength, ?_, hkept⟩
            simpa using ⟨hready', hpicked⟩

def State.keys (state : State) : List (ℕ × String) :=
  state.tasks.map fun task => (task.scan, task.orderPk)

/-- The tasks of one scan are a batch of distinct orders, and few of them run. -/
structure Bounded (scheduler : Scheduler) (state : State) : Prop where
  nodup : state.keys.Nodup
  batch : ∀ scan, state.keys.countP (fun key => key.1 = scan) ≤ scheduler.batchSize
  holding : ∀ scan, state.tasks.countP (Task.holds scan) ≤ scheduler.concurrency
  numbered : ∀ key ∈ state.keys, key.1 ≤ state.scan

section Tasks

variable {tasks : List Task} {index : ℕ} {task : Task} (started : Option (ℤ × Stage))

theorem map_set_started (htask : tasks[index]? = some task) :
    (tasks.set index { task with started }).map (fun task => (task.scan, task.orderPk)) =
      tasks.map fun task => (task.scan, task.orderPk) := by
  obtain ⟨hlt, rfl⟩ := List.getElem?_eq_some_iff.mp htask
  have hsame := List.set_getElem_self hlt
  conv_rhs => rw [← hsame]
  rw [List.map_set, List.map_set]

theorem countP_holds_set (scan : ℕ) (htask : tasks[index]? = some task) :
    (tasks.set index { task with started }).countP (Task.holds scan) +
        (if Task.holds scan task then 1 else 0) =
      tasks.countP (Task.holds scan) +
        if Task.holds scan { task with started } then 1 else 0 := by
  obtain ⟨hlt, hget⟩ := List.getElem?_eq_some_iff.mp htask
  have hpos : Task.holds scan task = true → 0 < tasks.countP (Task.holds scan) := fun hholds =>
    List.countP_pos_iff.mpr ⟨_, List.mem_of_getElem? htask, hholds⟩
  rw [List.countP_set hlt, hget]
  split
  · rename_i hholds
    have := hpos hholds
    omega
  · omega

theorem mem_set_of_ne {other new : Task} (htask : tasks[index]? = some task)
    (hmem : other ∈ tasks) (hne : other ≠ task) : other ∈ tasks.set index new := by
  obtain ⟨position, hposition⟩ := List.getElem?_of_mem hmem
  refine List.mem_of_getElem? (i := position) ?_
  rw [List.getElem?_set_ne, hposition]
  rintro rfl
  rw [htask] at hposition
  cases hposition
  exact hne rfl

end Tasks

theorem Bounded.of_sublist (hbounded : Bounded scheduler state) {tasks : List Task}
    (hsub : tasks.Sublist state.tasks) (scanning : Bool) :
    Bounded scheduler { state with tasks, scanning } where
  nodup := (hsub.map _).nodup hbounded.nodup
  batch scan := ((hsub.map _).countP_le).trans (hbounded.batch scan)
  holding scan := hsub.countP_le.trans (hbounded.holding scan)
  numbered key hkey := hbounded.numbered key ((hsub.map _).subset hkey)

theorem Bounded.of_keys (hbounded : Bounded scheduler state) (hkeys : next.keys = state.keys)
    (hscan : next.scan = state.scan)
    (hholding : ∀ scan, next.tasks.countP (Task.holds scan) ≤ scheduler.concurrency) :
    Bounded scheduler next where
  nodup := hkeys ▸ hbounded.nodup
  batch scan := hkeys ▸ hbounded.batch scan
  holding := hholding
  numbered := hkeys ▸ hscan ▸ hbounded.numbered

theorem Bounded.step (hbounded : Bounded scheduler state)
    (hstep : step scheduler state event next) : Bounded scheduler next := by
  cases event with
  | waits elapsed =>
      cases hstep
      exact ⟨hbounded.nodup, hbounded.batch, hbounded.holding, hbounded.numbered⟩
  | scans orders =>
      obtain ⟨⟨-, hnodup⟩, rfl⟩ := scans_iff.mp hstep
      have hbatch : 0 < scheduler.batchSize := scheduler.batch_mem.1
      obtain ⟨due, hdue, hsub, hlength, -⟩ :=
        pickDue_spec state.now orders [] state.nextAttemptAt hbatch
      rw [List.nil_append] at hdue hlength
      simp only [hdue]
      have hnew : ∀ scan, (due.map fun orderPk => (state.scan + 1, orderPk)).countP
          (fun key => decide (key.1 = scan)) =
            if state.scan + 1 = scan then due.length else 0 := by
        intro scan
        split <;> simp_all [List.countP_map, Function.comp_def]
      have hkeys : state.keys ++ due.map (fun orderPk => (state.scan + 1, orderPk)) =
          (state.tasks ++ due.map fun orderPk =>
            ({ scan := state.scan + 1, orderPk } : Task)).map
              fun task => (task.scan, task.orderPk) := by
        simp [State.keys, Function.comp_def]
      refine ⟨?_, fun scan => ?_, fun scan => ?_, ?_⟩
      · rw [State.keys, ← hkeys, List.nodup_append]
        refine ⟨hbounded.nodup, (hsub.nodup hnodup).map (fun _ _ h => (Prod.mk.inj h).2), ?_⟩
        rintro key hkey other hother rfl
        obtain ⟨orderPk, -, rfl⟩ := List.mem_map.mp hother
        exact absurd (hbounded.numbered _ hkey) (by simp)
      · rw [State.keys, ← hkeys, List.countP_append, hnew]
        split
        · have hold : state.keys.countP (fun key => key.1 = scan) = 0 := by
            rw [List.countP_eq_zero]
            intro key hkey
            have := hbounded.numbered key hkey
            simp only [decide_eq_true_eq]
            omega
          omega
        · exact hbounded.batch scan
      · have hwaiting : (due.map fun orderPk => ({ scan := state.scan + 1, orderPk } : Task)
            ).countP (Task.holds scan) = 0 := by
          simp [List.countP_eq_zero, Task.holds]
        simpa [hwaiting] using hbounded.holding scan
      · intro key hkey
        rw [State.keys, ← hkeys, List.mem_append, List.mem_map] at hkey
        rcases hkey with hkey | ⟨orderPk, -, rfl⟩
        · exact (hbounded.numbered key hkey).trans (Nat.le_succ _)
        · exact le_rfl
  | begins index =>
      obtain ⟨task, htask, ⟨hwaiting, hfree⟩, rfl⟩ := begins_iff.mp hstep
      refine hbounded.of_keys (map_set_started _ htask) rfl fun scan => ?_
      have hcount := countP_holds_set (some (state.now, .running)) scan htask
      have hold := hbounded.holding scan
      by_cases hscan : task.scan = scan
      · subst hscan
        simp [Task.holds, hwaiting] at hcount
        dsimp only
        omega
      · simp [Task.holds, hscan] at hcount
        dsimp only
        omega
  | settles index failed jitter =>
      obtain ⟨task, startedAt, stage, after, attempt, htask, hstarted, -, rfl⟩ :=
        settles_spec hstep
      refine hbounded.of_keys (map_set_started _ htask) rfl fun scan => ?_
      have hcount := countP_holds_set (some (startedAt, after)) scan htask
      simp only [Task.holds, hstarted] at hcount
      exact (Nat.add_right_cancel hcount).le.trans (hbounded.holding scan)
  | ends index raised =>
      obtain ⟨task, -, -, rfl⟩ := ends_spec hstep
      exact hbounded.of_sublist (List.eraseIdx_sublist _ _) _
  | cancels =>
      simp only [RefreshSchedule.step, ofPartial, apply, Option.ite_none_right_eq_some,
        Option.some_inj] at hstep
      obtain ⟨-, rfl⟩ := hstep
      exact hbounded.of_sublist List.filter_sublist _

theorem bounded_of_run {now : ℤ}
    (hrun : Run (step scheduler) (State.initial now) events state) : Bounded scheduler state :=
  hrun.invariant (Bounded scheduler) (fun _ _ _ hbounded hstep => hbounded.step hstep)
    ⟨List.nodup_nil, fun _ => Nat.zero_le _, fun _ => Nat.zero_le _, List.forall_mem_nil _⟩

/-- In every run, whatever fails, is cancelled or goes on on its own: the tasks of a scan are
about distinct orders, they are no more than a batch, and no more than `concurrency` of them
are attempts under way. -/
theorem scan_bounded {now : ℤ} (scan : ℕ)
    (hrun : Run (step scheduler) (State.initial now) events state) :
    ((state.tasks.filter fun task => task.scan = scan).map Task.orderPk).Nodup ∧
      state.tasks.countP (fun task => task.scan = scan) ≤ scheduler.batchSize ∧
      state.tasks.countP (Task.holds scan) ≤ scheduler.concurrency := by
  have hbounded := bounded_of_run hrun
  refine ⟨?_, ?_, hbounded.holding scan⟩
  · have hnodup : ((state.tasks.filter fun task => task.scan = scan).map
        fun task => (task.scan, task.orderPk)).Nodup :=
      (List.filter_sublist.map _).nodup hbounded.nodup
    refine List.Nodup.of_map (fun orderPk => (scan, orderPk)) ?_
    rw [List.map_map]
    refine (List.map_congr_left fun task htask => ?_) ▸ hnodup
    have hscan := (List.mem_filter.mp htask).2
    simp only [decide_eq_true_eq] at hscan
    simp [hscan]
  · have hbatch := hbounded.batch scan
    rw [State.keys, List.countP_map] at hbatch
    exact hbatch

/-- The scheduler is not shut down, and the report of a failure does not raise. -/
def Calm (_ : State) (event : Event) : Prop :=
  event ≠ .cancels ∧ ∀ index, event ≠ .ends index true

/-- No task goes on without its scan. -/
structure Attended (state : State) : Prop where
  current : ∀ task ∈ state.tasks, task.scan = state.scan
  idle : state.scanning = false → state.tasks = []

theorem Attended.set (hattended : Attended state) {index : ℕ} {task : Task}
    (htask : state.tasks[index]? = some task) (started : Option (ℤ × Stage))
    (times : Dict String ℤ) :
    Attended { state with
      nextAttemptAt := times
      tasks := state.tasks.set index { task with started } } where
  current other hmem := by
    rcases List.mem_or_eq_of_mem_set hmem with hold | rfl
    · exact hattended.current other hold
    · exact hattended.current task (List.mem_of_getElem? htask)
  idle hscanning := by simp [hattended.idle hscanning]

theorem Attended.step (hattended : Attended state) (hcalm : Calm state event)
    (hstep : step scheduler state event next) : Attended next := by
  cases event with
  | waits elapsed =>
      cases hstep
      exact ⟨hattended.current, hattended.idle⟩
  | scans orders =>
      obtain ⟨⟨hidle, -⟩, rfl⟩ := scans_iff.mp hstep
      constructor
      · intro task hmem
        rw [hattended.idle hidle, List.nil_append] at hmem
        obtain ⟨orderPk, -, rfl⟩ := List.mem_map.mp hmem
        rfl
      · intro hscanning
        have hnone : (pickDue scheduler state.now orders [] state.nextAttemptAt).1 = [] := by
          simpa using hscanning
        simp [hnone, hattended.idle hidle]
  | begins index =>
      obtain ⟨task, htask, -, rfl⟩ := begins_iff.mp hstep
      exact hattended.set htask _ _
  | settles index failed jitter =>
      obtain ⟨task, startedAt, stage, after, attempt, htask, -, -, rfl⟩ := settles_spec hstep
      exact hattended.set htask _ _
  | ends index raised =>
      obtain ⟨task, -, -, rfl⟩ := ends_spec hstep
      have hraised : raised = false := by simpa using hcalm.2 index
      have hcurrent : ∀ task ∈ state.tasks.eraseIdx index, task.scan = state.scan :=
        fun task hmem => hattended.current task ((List.eraseIdx_sublist _ _).subset hmem)
      refine ⟨hcurrent, fun hidle => ?_⟩
      simp only [hraised, Bool.false_and, Bool.not_false, Bool.and_true] at hidle
      rcases Bool.and_eq_false_iff.mp hidle with hidle | hnone
      · simp [hattended.idle hidle]
      · rw [List.any_eq_false] at hnone
        exact List.eq_nil_iff_forall_not_mem.mpr fun task hmem =>
          hnone task hmem (by simpa using hcurrent task hmem)
  | cancels => exact absurd rfl hcalm.1

/-- The attempt at `orderPk` that began at `began` goes on, or it has set the time before which
no other one may begin, or this time is over. -/
def Rests (orderPk : String) (began delay : ℤ) (state : State) : Prop :=
  began + delay ≤ state.now ∨
    ((∃ task ∈ state.tasks, task.orderPk = orderPk ∧ task.started = some (began, .running)) ∨
      began + delay ≤ (state.nextAttemptAt.get? orderPk).getD 0) ∧
    ∀ task ∈ state.tasks, task.orderPk = orderPk → ∃ stage, task.started = some (began, stage)

theorem Rests.step {orderPk : String} {began : ℤ}
    (hrests : Rests orderPk began (seconds scheduler.refreshSeconds) state)
    (hattended : Attended state) (hcalm : Calm state event)
    (hstep : step scheduler state event next) :
    Rests orderPk began (seconds scheduler.refreshSeconds) next := by
  cases event with
  | waits elapsed =>
      cases hstep
      exact hrests.imp_left fun hover => hover.trans (by simp)
  | scans orders =>
      obtain ⟨⟨hidle, -⟩, rfl⟩ := scans_iff.mp hstep
      have hnone := hattended.idle hidle
      rcases hrests with hover | ⟨⟨task, hmem, -⟩ | htime, -⟩
      · exact .inl hover
      · rw [hnone] at hmem
        cases hmem
      by_cases hready : (state.nextAttemptAt.get? orderPk).getD 0 ≤ state.now
      · exact .inl (htime.trans hready)
      · have hbatch : 0 < scheduler.batchSize := scheduler.batch_mem.1
        obtain ⟨due, hdue, -, -, hpick, hkept⟩ :=
          pickDue_spec state.now orders [] state.nextAttemptAt hbatch
        refine .inr ⟨.inr ?_, fun task hmem horder => ?_⟩
        · rw [hkept orderPk (not_le.mp hready)]
          exact htime
        · rw [hnone, List.nil_append, hdue] at hmem
          obtain ⟨other, hother, rfl⟩ := List.mem_map.mp hmem
          exact absurd (hpick orderPk (horder ▸ hother)) hready
  | begins index =>
      obtain ⟨task, htask, ⟨hwaiting, -⟩, rfl⟩ := begins_iff.mp hstep
      refine hrests.imp_right fun ⟨hwaits, hown⟩ => ⟨hwaits.imp_left ?_, ?_⟩
      · rintro ⟨other, hmem, horder, hrunning⟩
        refine ⟨other, mem_set_of_ne htask hmem ?_, horder, hrunning⟩
        rintro rfl
        rw [hwaiting] at hrunning
        cases hrunning
      · intro other hmem horder
        rcases List.mem_or_eq_of_mem_set hmem with hold | rfl
        · exact hown other hold horder
        · obtain ⟨stage, hstarted⟩ := hown task (List.mem_of_getElem? htask) horder
          rw [hwaiting] at hstarted
          cases hstarted
  | settles index failed jitter =>
      obtain ⟨task, startedAt, stage, after, attempt, htask, hstarted, hattempt, rfl⟩ :=
        settles_spec hstep
      refine hrests.imp_right fun ⟨hwaits, hown⟩ => ?_
      have hmine : task.orderPk = orderPk → startedAt = began := fun horder => by
        obtain ⟨other, hother⟩ := hown task (List.mem_of_getElem? htask) horder
        rw [hstarted] at hother
        cases hother
        rfl
      refine ⟨?_, fun other hmem horder => ?_⟩
      · by_cases hsame : orderPk = task.orderPk
        · rw [hmine hsame.symm] at hattempt
          exact .inr (by simpa [Dict.get?_set, hsame] using hattempt)
        · refine hwaits.imp ?_ fun htime => by simpa [Dict.get?_set, hsame] using htime
          rintro ⟨other, hmem, horder, hrunning⟩
          refine ⟨other, mem_set_of_ne htask hmem ?_, horder, hrunning⟩
          rintro rfl
          exact hsame horder.symm
      · rcases List.mem_or_eq_of_mem_set hmem with hold | rfl
        · exact hown other hold horder
        · exact ⟨after, by rw [hmine horder]⟩
  | ends index raised =>
      obtain ⟨task, htask, hphase, rfl⟩ := ends_spec hstep
      refine hrests.imp_right fun ⟨hwaits, hown⟩ => ⟨hwaits.imp_left ?_, fun other hmem =>
        hown other ((List.eraseIdx_sublist _ _).subset hmem)⟩
      rintro ⟨other, hmem, horder, hrunning⟩
      obtain ⟨position, hposition⟩ := List.getElem?_of_mem hmem
      refine ⟨other, List.mem_eraseIdx_iff_getElem?.mpr ⟨position, ?_, hposition⟩, horder,
        hrunning⟩
      rintro rfl
      rw [htask] at hposition
      cases hposition
      exact hphase _ hrunning
  | cancels => exact absurd rfl hcalm.1

theorem rests_of_begins {index : ℕ} {task : Task} (delay : ℤ)
    (hbounded : Bounded scheduler state) (hattended : Attended state)
    (htask : state.tasks[index]? = some task)
    (hbegins : step scheduler state (.begins index) next) :
    Rests task.orderPk state.now delay next := by
  obtain ⟨begun, hbegun, -, rfl⟩ := begins_iff.mp hbegins
  cases htask.symm.trans hbegun
  obtain ⟨hlt, hget⟩ := List.getElem?_eq_some_iff.mp htask
  refine .inr ⟨.inl ⟨_, List.mem_set hlt _, rfl, rfl⟩, fun other hmem horder => ?_⟩
  obtain ⟨position, hposition⟩ := List.getElem?_of_mem hmem
  rw [List.getElem?_set] at hposition
  split at hposition
  · cases hposition
    exact ⟨_, rfl⟩
  · -- another task at the order would be of the same scan
    rename_i hother
    have hscan : other.scan = task.scan :=
      (hattended.current other (List.mem_of_getElem? hposition)).trans
        (hattended.current task (List.mem_of_getElem? htask)).symm
    have hkey : state.keys[position]? = state.keys[index]? := by
      rw [State.keys, List.getElem?_map, List.getElem?_map, hposition, htask]
      simp [hscan, horder]
    have hposition' : position < state.keys.length := by
      rw [State.keys, List.length_map]
      exact (List.getElem?_eq_some_iff.mp hposition).1
    exact absurd ((List.getElem?_inj hposition' hbounded.nodup).mp hkey).symm hother

/-- In every run in which the scheduler is not shut down and no report of a failure raises, an
order is picked again at the earliest `refresh_seconds` after the last attempt at it began,
whatever the attempts end with and whatever the store lists. -/
theorem attempts_apart {now : ℤ} {first begun later : State} {before after : List Event}
    {index : ℕ} {task : Task}
    (hbefore : Run (restrict (step scheduler) Calm) (State.initial now) before first)
    (htask : first.tasks[index]? = some task)
    (hbegins : step scheduler first (.begins index) begun)
    (hafter : Run (restrict (step scheduler) Calm) begun after later)
    (hpicked : ∃ again ∈ later.tasks, again.orderPk = task.orderPk ∧ again.started = none) :
    first.now + seconds scheduler.refreshSeconds ≤ later.now := by
  have hattended : Attended first :=
    hbefore.invariant Attended (fun _ _ _ h hstep => h.step hstep.1 hstep.2)
      ⟨List.forall_mem_nil _, fun _ => rfl⟩
  have hcalm : Calm first (.begins index) := ⟨by rintro ⟨⟩, by rintro index ⟨⟩⟩
  have hrests := rests_of_begins (seconds scheduler.refreshSeconds) (bounded_of_run hbefore.forget)
    hattended htask hbegins
  have hlater := hafter.invariant (fun state => Attended state ∧
      Rests task.orderPk first.now (seconds scheduler.refreshSeconds) state)
    (fun _ _ _ h hstep => ⟨h.1.step hstep.1 hstep.2, h.2.step h.1 hstep.1 hstep.2⟩)
    ⟨hattended.step hcalm hbegins, hrests⟩
  rcases hlater.2 with hover | ⟨-, hown⟩
  · exact hover
  · obtain ⟨again, hmem, horder, hwaiting⟩ := hpicked
    obtain ⟨stage, hstarted⟩ := hown again hmem horder
    rw [hwaiting] at hstarted
    cases hstarted

/-- The only order of the store, which was never refreshed. -/
def newOrder : ListedOrder := ⟨"order-1", none⟩

def defaults : Scheduler := .init 90 20 10 2

def pickedState : State :=
  { now := 0, scan := 1, scanning := true, tasks := [{ scan := 1, orderPk := "order-1" }] }

theorem run_picked :
    Run (restrict (step defaults) Calm) (State.initial 0) [.scans [newOrder]] pickedState :=
  .cons ⟨⟨by rintro ⟨⟩, by rintro index ⟨⟩⟩, rfl⟩ (.nil _)

/-- The order is refreshed, and is picked again by a scan that comes as soon as it may. -/
theorem picked_again_after_ninety_seconds :
    ∃ later : State, (∃ again ∈ later.tasks, again.orderPk = "order-1" ∧ again.started = none) ∧
      pickedState.now + seconds defaults.refreshSeconds ≤ later.now := by
  have htask : pickedState.tasks[0]? = some { scan := 1, orderPk := "order-1" } := rfl
  have hbegins : step defaults pickedState (.begins 0) { pickedState with
      tasks := [{ scan := 1, orderPk := "order-1", started := some (0, .running) }] } := rfl
  have hrun : ∃ later, Run (restrict (step defaults) Calm) { pickedState with
        tasks := [{ scan := 1, orderPk := "order-1", started := some (0, .running) }] }
      [.settles 0 false 0, .ends 0 false, .waits 90000000, .scans [newOrder]] later ∧
      { scan := 2, orderPk := "order-1" } ∈ later.tasks :=
    ⟨_, .cons ⟨⟨by rintro ⟨⟩, by rintro index ⟨⟩⟩, rfl⟩ (.cons
      ⟨⟨by rintro ⟨⟩, by rintro index ⟨⟩⟩, rfl⟩ (.cons ⟨⟨by rintro ⟨⟩, by rintro index ⟨⟩⟩, rfl⟩
        (.cons ⟨⟨by rintro ⟨⟩, by rintro index ⟨⟩⟩, rfl⟩ (.nil _)))), List.mem_singleton_self _⟩
  obtain ⟨later, hlater, hpicked⟩ := hrun
  exact ⟨later, ⟨_, hpicked, rfl, rfl⟩,
    attempts_apart run_picked htask hbegins hlater ⟨_, hpicked, rfl, rfl⟩⟩

theorem scan_bounded_picked :
    ((pickedState.tasks.filter fun task => task.scan = 1).map Task.orderPk).Nodup ∧
      pickedState.tasks.countP (fun task => task.scan = 1) ≤ defaults.batchSize ∧
      pickedState.tasks.countP (Task.holds 1) ≤ defaults.concurrency :=
  scan_bounded 1 run_picked.forget

end XianyuAdmin.RefreshSchedule
