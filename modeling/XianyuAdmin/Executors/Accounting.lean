import XianyuAdmin.Executors.BoundedExecutor

/-!
# Accounting of the bounded executor

Each admitted call is queued, executing, completed or withdrawn, and the counters
count just that.  `run` waits for its callable until it is cancelled for the second
time; if that does not happen too early, no call ends before its callable does.
-/

namespace XianyuAdmin.Executors

open Transition

variable {Value : Type}

def Call.isExecuting (call : Call Value) : Bool :=
  match call.work with
  | .executing => true
  | _ => false

def Call.isCompleted (call : Call Value) : Bool :=
  match call.work with
  | .counted _ | .resolved _ => true
  | _ => false

/-- Withdrawn before it started: refused by the pool, or cancelled by `shutdown`. -/
def Call.isWithdrawn (call : Call Value) : Bool :=
  match call.work with
  | .refused | .dropped => !call.queued
  | _ => false

def Call.isOver (call : Call Value) : Bool :=
  match call.work with
  | .refused | .dropped | .resolved _ => true
  | _ => false

structure Call.IsConsistent (call : Call Value) : Prop where
  flag : match call.work with
    | .unsubmitted | .enqueued | .pickedUp => call.queued = true
    | .refused | .executing | .counted _ | .resolved _ => call.queued = false
    | .dropped => True
  future : match call.future with
    | .pending => True
    | .finished finish => call.work = .resolved finish
    | .cancelled => call.work = .dropped
  submitting : call.coroutine = .submitting → call.work = .unsubmitted

theorem isConsistent_new : Call.IsConsistent ({} : Call Value) where
  flag := rfl
  future := trivial
  submitting := fun _ => rfl

variable {call : Call Value} {counters : Counters} {executor : BoundedExecutor Value}

theorem Call.IsConsistent.counts_once (hconsistent : call.IsConsistent) :
    call.queued.toNat + call.isExecuting.toNat + call.isCompleted.toNat +
      call.isWithdrawn.toNat = 1 := by
  have hflag := hconsistent.flag
  cases hwork : call.work <;> simp only [hwork] at hflag <;>
    simp [Call.isExecuting, Call.isCompleted, Call.isWithdrawn, hwork, hflag]
  cases call.queued <;> rfl

structure Tallies (counters moved : Counters) (call next : Call Value) : Prop where
  queued : moved.queued - counters.queued = (next.queued.toNat : ℤ) - call.queued.toNat
  active : moved.active - counters.active =
    (next.isExecuting.toNat : ℤ) - call.isExecuting.toNat
  completed : moved.completed - counters.completed =
    (next.isCompleted.toNat : ℤ) - call.isCompleted.toNat
  submitted : moved.submitted = counters.submitted
  load : moved.queued + moved.active ≤ counters.queued + counters.active

variable {next : Call Value} {moved : Counters}

/-- A move that leaves flag and thread alone. -/
theorem Tallies.same (hqueued : next.queued = call.queued)
    (hexecuting : next.isExecuting = call.isExecuting)
    (hcompleted : next.isCompleted = call.isCompleted) :
    Tallies counters counters call next where
  queued := by simp [hqueued]
  active := by simp [hexecuting]
  completed := by simp [hcompleted]
  submitted := rfl
  load := le_rfl

@[simp]
theorem release_work (counters : Counters) (call : Call Value) :
    (release counters call).2.work = call.work := by
  unfold release
  split <;> rfl

@[simp]
theorem release_future (counters : Counters) (call : Call Value) :
    (release counters call).2.future = call.future := by
  unfold release
  split <;> rfl

@[simp]
theorem release_coroutine (counters : Counters) (call : Call Value) :
    (release counters call).2.coroutine = call.coroutine := by
  unfold release
  split <;> rfl

@[simp]
theorem release_queued (counters : Counters) (call : Call Value) :
    (release counters call).2.queued = false := by
  unfold release
  split
  · rfl
  · rename_i hdown
    simpa using hdown

theorem release_counters (counters : Counters) (call : Call Value) :
    (release counters call).1 =
      { counters with queued := counters.queued - call.queued.toNat } := by
  unfold release
  cases call.queued <;> simp

def Call.hasEnded (call : Call Value) : Bool :=
  match call.coroutine with
  | .ended _ => true
  | _ => false

def Call.mayMove (call : Call Value) : Move Value → Prop
  | .cancels => call.coroutine = .handling → call.isOver = true
  | _ => True

structure IsSound (counters moved : Counters) (call next : Call Value) (move : Move Value) :
    Prop where
  tallies : Tallies counters moved call next
  consistent : next.IsConsistent
  waits : (call.hasEnded = true → call.isOver = true) → call.mayMove move →
    next.hasEnded = true → next.isOver = true

theorem Call.IsConsistent.pending (hconsistent : call.IsConsistent)
    (hrunning : call.isOver = false) : call.future = .pending := by
  have hfuture := hconsistent.future
  cases hstate : call.future with
  | pending => rfl
  | finished finish =>
      rw [hstate] at hfuture
      simp [Call.isOver, hfuture] at hrunning
  | cancelled =>
      rw [hstate] at hfuture
      simp [Call.isOver, hfuture] at hrunning

/-- A move of the thread, or of the pool, to which the coroutine pays no heed. -/
theorem isSound_of_work {move : Move Value} (hconsistent : call.IsConsistent)
    (hrunning : call.isOver = false) (hcoroutine : next.coroutine = call.coroutine)
    (hfuture : next.future = call.future) (htallies : Tallies counters moved call next)
    (hsubmitted : call.work ≠ .unsubmitted) (hflag : match next.work with
      | .unsubmitted | .enqueued | .pickedUp => next.queued = true
      | .refused | .executing | .counted _ | .resolved _ => next.queued = false
      | .dropped => True) : IsSound counters moved call next move where
  tallies := htallies
  consistent :=
    { flag := hflag
      future := by
        rw [hfuture, hconsistent.pending hrunning]
        trivial
      submitting := fun hsubmitting =>
        absurd (hconsistent.submitting (hcoroutine ▸ hsubmitting)) hsubmitted }
  waits := by
    intro hwaits _ hended
    have hover := hwaits (by simpa [Call.hasEnded, hcoroutine] using hended)
    rw [hrunning] at hover
    cases hover

/-- A move of the event loop, which leaves flag and thread alone. -/
theorem isSound_of_loop {move : Move Value} (hconsistent : call.IsConsistent)
    (hqueued : next.queued = call.queued) (hwork : next.work = call.work)
    (hfuture : match next.future with
      | .pending => True
      | .finished finish => call.work = .resolved finish
      | .cancelled => call.work = .dropped)
    (hsubmitting : next.coroutine = .submitting → call.coroutine = .submitting)
    (hwaits : (call.hasEnded = true → call.isOver = true) → call.mayMove move →
      next.hasEnded = true → call.isOver = true) : IsSound counters counters call next move where
  tallies := by
    refine .same hqueued ?_ ?_
    · unfold Call.isExecuting
      rw [hwork]
    · unfold Call.isCompleted
      rw [hwork]
  consistent :=
    { flag := by
        rw [hwork, hqueued]
        exact hconsistent.flag
      future := by
        rw [hwork]
        exact hfuture
      submitting := fun hnext => hwork.trans (hconsistent.submitting (hsubmitting hnext)) }
  waits := by
    intro hcall hmay hended
    have hover := hwaits hcall hmay hended
    unfold Call.isOver at hover ⊢
    rwa [hwork]

theorem isSound_of_coroutine {move : Move Value} {coroutine : Coroutine Value}
    (hconsistent : call.IsConsistent) (hover : call.isOver = true)
    (hsubmitted : coroutine ≠ .submitting) :
    IsSound counters counters call { call with coroutine := coroutine } move :=
  isSound_of_loop hconsistent rfl rfl hconsistent.future (fun hnext => absurd hnext hsubmitted)
    fun _ _ _ => hover

theorem isSound_wakeAwaiting {move : Move Value} (hconsistent : call.IsConsistent)
    (hover : call.isOver = true) (finish : Finish Value) :
    IsSound counters counters call (wakeAwaiting call finish) move := by
  rcases finish with raised | value
  · cases raised with
    | exception text => exact isSound_of_coroutine hconsistent hover nofun
    | cancelledError => exact isSound_of_coroutine hconsistent hover nofun
    | baseException text => exact isSound_of_coroutine hconsistent hover nofun
  · exact isSound_of_coroutine hconsistent hover nofun

theorem isSound_wakeHandling {move : Move Value} (hconsistent : call.IsConsistent)
    (hover : call.isOver = true) (finish : Finish Value) :
    IsSound counters counters call (wakeHandling call finish) move := by
  rcases finish with raised | value
  · cases raised with
    | exception text => exact isSound_of_coroutine hconsistent hover nofun
    | cancelledError => exact isSound_of_coroutine hconsistent hover nofun
    | baseException text => exact isSound_of_coroutine hconsistent hover nofun
  · exact isSound_of_coroutine hconsistent hover nofun

theorem Call.IsConsistent.isOver_of_done (hconsistent : call.IsConsistent)
    (hdone : call.future ≠ .pending) : call.isOver = true := by
  by_contra hrunning
  exact hdone (hconsistent.pending (by simpa using hrunning))

theorem isSound_of_move {isShutdown : Bool} {move : Move Value} (hconsistent : call.IsConsistent)
    (hmove : move? isShutdown counters call move = some (moved, next)) :
    IsSound counters moved call next move := by
  have hflag := hconsistent.flag
  have hfuture := hconsistent.future
  cases move with
  | submits =>
      simp only [move?] at hmove
      split at hmove
      · rename_i hcoroutine
        split at hmove
        · cases hmove
        · cases hmove
          have hwork := hconsistent.submitting hcoroutine
          rw [hwork] at hflag
          have hpending := hconsistent.pending (by simp [Call.isOver, hwork])
          exact
            { tallies := .same rfl (by simp [Call.isExecuting, hwork])
                (by simp [Call.isCompleted, hwork])
              consistent := ⟨hflag, by simp [hpending], nofun⟩
              waits := fun _ _ hended => by cases hended }
      · cases hmove
  | isRefused =>
      simp only [move?] at hmove
      split at hmove
      · rename_i hcoroutine
        cases hmove
        have hwork := hconsistent.submitting hcoroutine
        rw [hwork] at hflag
        have hpending := hconsistent.pending (by simp [Call.isOver, hwork])
        exact
          { tallies :=
              { queued := by simp [release_counters, hflag]
                active := by simp [release_counters, Call.isExecuting, hwork]
                completed := by simp [release_counters, Call.isCompleted, hwork]
                submitted := by simp [release_counters]
                load := by simp [release_counters] }
            consistent := ⟨by simp, by simp [hpending], nofun⟩
            waits := fun _ _ _ => rfl }
      · cases hmove
  | picksUp =>
      simp only [move?] at hmove
      split at hmove
      · rename_i hwork
        cases hmove
        rw [hwork] at hflag
        exact isSound_of_work hconsistent (by simp [Call.isOver, hwork]) rfl rfl
          (.same rfl (by simp [Call.isExecuting, hwork]) (by simp [Call.isCompleted, hwork]))
          (by simp [hwork]) hflag
      · cases hmove
  | starts =>
      simp only [move?] at hmove
      split at hmove
      · rename_i hwork
        cases hmove
        rw [hwork] at hflag
        refine isSound_of_work hconsistent (by simp [Call.isOver, hwork]) (by simp) (by simp) ?_
          (by simp [hwork]) (by simp)
        exact
          { queued := by simp [release_counters, hflag]
            active := by simp [release_counters, Call.isExecuting, hwork]
            completed := by simp [release_counters, Call.isCompleted, hwork]
            submitted := by simp [release_counters]
            load := by
              simp only [release_counters, hflag, Bool.toNat_true]
              omega }
      · cases hmove
  | finishes finish =>
      simp only [move?] at hmove
      split at hmove
      · rename_i hwork
        cases hmove
        rw [hwork] at hflag
        refine isSound_of_work hconsistent (by simp [Call.isOver, hwork]) rfl rfl ?_
          (by simp [hwork]) hflag
        exact
          { queued := by simp
            active := by simp [Call.isExecuting, hwork]
            completed := by simp [Call.isCompleted, hwork]
            submitted := rfl
            load := by
              dsimp only
              omega }
      · cases hmove
  | resolves =>
      simp only [move?] at hmove
      split at hmove
      · rename_i hwork
        cases hmove
        rw [hwork] at hflag
        exact isSound_of_work hconsistent (by simp [Call.isOver, hwork]) rfl rfl
          (.same rfl (by simp [Call.isExecuting, hwork]) (by simp [Call.isCompleted, hwork]))
          (by simp [hwork]) hflag
      · cases hmove
  | drops =>
      simp only [move?] at hmove
      split at hmove
      · rename_i hwork
        split at hmove
        · cases hmove
          exact isSound_of_work hconsistent (by simp [Call.isOver, hwork]) rfl rfl
            (.same rfl (by simp [Call.isExecuting, hwork]) (by simp [Call.isCompleted, hwork]))
            (by simp [hwork]) trivial
        · cases hmove
      · cases hmove
  | delivers =>
      simp only [move?] at hmove
      split at hmove
      · rename_i hwork
        cases hmove
        exact isSound_of_loop hconsistent rfl rfl hwork id fun hwaits _ => hwaits
      · rename_i hwork
        cases hmove
        exact isSound_of_loop hconsistent rfl rfl hwork id fun hwaits _ => hwaits
      · cases hmove
  | releases =>
      simp only [move?] at hmove
      split at hmove
      · rename_i hcancelled
        rw [hcancelled] at hfuture
        have hreleased := Option.some.inj hmove
        obtain ⟨hmoved, hnext⟩ : (release counters call).1 = moved ∧
            (release counters call).2 = next := by simp [hreleased]
        subst hmoved hnext
        exact
          { tallies :=
              { queued := by simp [release_counters]
                active := by simp [release_counters, Call.isExecuting, hfuture]
                completed := by simp [release_counters, Call.isCompleted, hfuture]
                submitted := by simp [release_counters]
                load := by simp [release_counters] }
            consistent :=
              { flag := by simp [hfuture]
                future := by simpa [hcancelled] using hfuture
                submitting := by simpa using hconsistent.submitting }
            waits := fun _ _ _ => by simp [Call.isOver, hfuture] }
      · cases hmove
  | cancels =>
      simp only [move?] at hmove
      split at hmove
      · cases hmove
        exact isSound_of_loop hconsistent rfl rfl hfuture nofun fun _ _ hended => by cases hended
      · rename_i hhandling
        cases hmove
        exact isSound_of_loop hconsistent rfl rfl hfuture nofun fun _ hmay _ => hmay hhandling
      · cases hmove
  | wakes =>
      simp only [move?] at hmove
      split at hmove
      · rename_i hfinished
        cases hmove
        exact isSound_wakeAwaiting hconsistent
          (hconsistent.isOver_of_done (by simp [hfinished])) _
      · rename_i hcancelled
        cases hmove
        exact isSound_of_coroutine hconsistent
          (hconsistent.isOver_of_done (by simp [hcancelled])) nofun
      · rename_i hfinished
        cases hmove
        exact isSound_wakeHandling hconsistent
          (hconsistent.isOver_of_done (by simp [hfinished])) _
      · rename_i hcancelled
        cases hmove
        exact isSound_of_coroutine hconsistent
          (hconsistent.isOver_of_done (by simp [hcancelled])) nofun
      · cases hmove

structure Accounted (executor : BoundedExecutor Value) : Prop where
  consistent : ∀ call ∈ executor.calls, call.IsConsistent
  queued : executor.counters.queued = executor.calls.countP Call.queued
  active : executor.counters.active = executor.calls.countP Call.isExecuting
  completed : executor.counters.completed = executor.calls.countP Call.isCompleted
  submitted : executor.counters.submitted = executor.calls.length
  load : executor.counters.queued + executor.counters.active ≤ executor.capacity

def Awaited (executor : BoundedExecutor Value) : Prop :=
  ∀ call ∈ executor.calls, call.hasEnded = true → call.isOver = true

def CancelsOnce (executor : BoundedExecutor Value) : Label Value → Prop
  | .moves index move => ∀ call, executor.calls[index]? = some call → call.mayMove move
  | _ => True

theorem countP_replace {Item : Type} (counts : Item → Bool) {items : List Item} {index : ℕ}
    {item : Item} (hitem : items[index]? = some item) (replacement : Item) :
    ((items.set index replacement).countP counts : ℤ) =
      items.countP counts + ((counts replacement).toNat - (counts item).toNat) := by
  obtain ⟨hindex, rfl⟩ := List.getElem?_eq_some_iff.mp hitem
  have hcounted : (counts items[index]).toNat ≤ items.countP counts := by
    cases hcounts : counts items[index] with
    | false => simp
    | true =>
        exact List.countP_pos_iff.mpr ⟨_, List.getElem_mem hindex, hcounts⟩
  rw [List.countP_set hindex]
  simp only [Bool.toNat, Bool.cond_eq_ite] at hcounted ⊢
  split_ifs at hcounted ⊢ <;> omega

theorem accounted_new (maxWorkers maxQueue : ℤ) :
    Accounted (BoundedExecutor.new Value maxWorkers maxQueue) where
  consistent := by simp [BoundedExecutor.new]
  queued := rfl
  active := rfl
  completed := rfl
  submitted := rfl
  load := by
    simp only [BoundedExecutor.new, BoundedExecutor.capacity]
    omega

theorem Accounted.admit (haccounted : Accounted executor)
    (hroom : executor.counters.queued + executor.counters.active < executor.capacity) :
    Accounted { executor with
      counters :=
        { executor.counters with
          queued := executor.counters.queued + 1
          submitted := executor.counters.submitted + 1 }
      calls := executor.calls ++ [{}] } where
  consistent := by
    intro call hcall
    rcases List.mem_append.mp hcall with hold | hnew
    · exact haccounted.consistent call hold
    · rw [List.mem_singleton.mp hnew]
      exact isConsistent_new
  queued := by simp [haccounted.queued]
  active := by simp [haccounted.active, Call.isExecuting]
  completed := by simp [haccounted.completed, Call.isCompleted]
  submitted := by simp [haccounted.submitted]
  load := by
    simp only [BoundedExecutor.capacity] at hroom ⊢
    omega

theorem Accounted.move (haccounted : Accounted executor) {index : ℕ} {move : Move Value}
    (hcall : executor.calls[index]? = some call)
    (hsound : IsSound executor.counters moved call next move) :
    Accounted { executor with counters := moved, calls := executor.calls.set index next } where
  consistent := by
    intro other hother
    rcases List.mem_or_eq_of_mem_set hother with hold | rfl
    · exact haccounted.consistent other hold
    · exact hsound.consistent
  queued := by
    have htally := hsound.tallies.queued
    have hcount := haccounted.queued
    rw [countP_replace Call.queued hcall]
    dsimp only
    omega
  active := by
    have htally := hsound.tallies.active
    have hcount := haccounted.active
    rw [countP_replace Call.isExecuting hcall]
    dsimp only
    omega
  completed := by
    have htally := hsound.tallies.completed
    have hcount := haccounted.completed
    rw [countP_replace Call.isCompleted hcall]
    dsimp only
    omega
  submitted := by
    rw [List.length_set]
    exact hsound.tallies.submitted.trans haccounted.submitted
  load := hsound.tallies.load.trans haccounted.load

theorem accounted_of_step {next : BoundedExecutor Value} {label : Label Value}
    (haccounted : Accounted executor) (hstep : step executor label next) : Accounted next := by
  cases label with
  | runs =>
      simp only [step, ofPartial, apply] at hstep
      split at hstep
      · cases hstep
        exact ⟨haccounted.consistent, haccounted.queued, haccounted.active,
          haccounted.completed, haccounted.submitted, haccounted.load⟩
      · rename_i hroom
        cases hstep
        exact haccounted.admit (not_le.mp hroom)
  | shutsDown =>
      cases hstep
      exact ⟨haccounted.consistent, haccounted.queued, haccounted.active,
        haccounted.completed, haccounted.submitted, haccounted.load⟩
  | moves index move =>
      simp only [step, ofPartial, apply] at hstep
      split at hstep
      · cases hstep
      · rename_i call hcall
        obtain ⟨⟨moved, next⟩, hmove, rfl⟩ := Option.map_eq_some_iff.mp hstep
        have hconsistent := haccounted.consistent call (List.mem_of_getElem? hcall)
        exact haccounted.move hcall (isSound_of_move hconsistent hmove)

theorem awaited_of_step {next : BoundedExecutor Value} {label : Label Value}
    (haccounted : Accounted executor) (hawaited : Awaited executor)
    (hstep : restrict step CancelsOnce executor label next) : Awaited next := by
  obtain ⟨honce, hstep⟩ := hstep
  cases label with
  | runs =>
      simp only [step, ofPartial, apply] at hstep
      split at hstep
      · cases hstep
        exact hawaited
      · cases hstep
        intro call hcall hended
        rcases List.mem_append.mp hcall with hold | hnew
        · exact hawaited call hold hended
        · rw [List.mem_singleton.mp hnew] at hended
          cases hended
  | shutsDown =>
      cases hstep
      exact hawaited
  | moves index move =>
      simp only [step, ofPartial, apply] at hstep
      split at hstep
      · cases hstep
      · rename_i call hcall
        obtain ⟨⟨moved, next⟩, hmove, rfl⟩ := Option.map_eq_some_iff.mp hstep
        have hmem := List.mem_of_getElem? hcall
        have hsound := isSound_of_move (haccounted.consistent call hmem) hmove
        intro other hother
        rcases List.mem_or_eq_of_mem_set hother with hold | rfl
        · exact hawaited other hold
        · exact hsound.waits (hawaited call hmem) (honce call hcall)

structure KeepsPromises (executor : BoundedExecutor Value) : Prop where
  queued_nonneg : 0 ≤ executor.counters.queued
  active_nonneg : 0 ≤ executor.counters.active
  bounded : executor.counters.queued + executor.counters.active ≤ executor.capacity
  balanced : executor.counters.submitted =
    executor.counters.queued + executor.counters.active + executor.counters.completed +
      executor.calls.countP Call.isWithdrawn
  /-- A call that has ended has no callable that runs, or will run. -/
  awaited : Awaited executor

theorem length_eq_sum {calls : List (Call Value)}
    (hconsistent : ∀ call ∈ calls, call.IsConsistent) :
    calls.length = calls.countP Call.queued + calls.countP Call.isExecuting +
      calls.countP Call.isCompleted + calls.countP Call.isWithdrawn := by
  induction calls with
  | nil => rfl
  | cons call rest ih =>
      have honce := (hconsistent call (by simp)).counts_once
      have hrest := ih fun other hother => hconsistent other (List.mem_cons_of_mem _ hother)
      simp only [List.countP_cons, List.length_cons]
      simp only [Bool.toNat, Bool.cond_eq_ite] at honce
      omega

theorem Accounted.keepsPromises (haccounted : Accounted executor) (hawaited : Awaited executor) :
    KeepsPromises executor where
  queued_nonneg := by
    rw [haccounted.queued]
    exact Int.natCast_nonneg _
  active_nonneg := by
    rw [haccounted.active]
    exact Int.natCast_nonneg _
  bounded := haccounted.load
  balanced := by
    rw [haccounted.submitted, haccounted.queued, haccounted.active, haccounted.completed,
      length_eq_sum haccounted.consistent]
    push_cast
    rfl
  awaited := hawaited

/-- In every run in which no call is cancelled for the second time before its callable
is over, the executor keeps its promises. -/
theorem keepsPromises_of_run {maxWorkers maxQueue : ℤ} {labels : List (Label Value)}
    {executor : BoundedExecutor Value}
    (hrun : Run (restrict step CancelsOnce) (BoundedExecutor.new Value maxWorkers maxQueue)
      labels executor) : KeepsPromises executor := by
  have hinvariant := hrun.invariant (fun executor => Accounted executor ∧ Awaited executor)
    (fun _ _ _ hboth hstep =>
      ⟨accounted_of_step hboth.1 hstep.2, awaited_of_step hboth.1 hboth.2 hstep⟩)
    ⟨accounted_new maxWorkers maxQueue, by simp [Awaited, BoundedExecutor.new]⟩
  exact hinvariant.1.keepsPromises hinvariant.2

def patientLabels : List (Label ℕ) :=
  [.runs, .moves 0 .submits, .moves 0 .picksUp, .moves 0 .starts, .moves 0 .cancels,
    .moves 0 (.finishes (.ok 7)), .moves 0 .resolves, .moves 0 .delivers, .moves 0 .wakes]

theorem keepsPromises_of_patientLabels :
    ∃ executor : BoundedExecutor ℕ, executor.calls.map Call.hasEnded = [true] ∧
      KeepsPromises executor := by
  obtain ⟨executor, hrun, hended⟩ : ∃ executor,
      Run (restrict step CancelsOnce) (BoundedExecutor.new ℕ 1 0) patientLabels executor ∧
        executor.calls.map Call.hasEnded = [true] := by
    refine ⟨_, .cons ⟨trivial, rfl⟩ (.cons ⟨fun _ _ => trivial, rfl⟩
      (.cons ⟨fun _ _ => trivial, rfl⟩ (.cons ⟨fun _ _ => trivial, rfl⟩
        (.cons ⟨?_, rfl⟩ (.cons ⟨fun _ _ => trivial, rfl⟩
          (.cons ⟨fun _ _ => trivial, rfl⟩ (.cons ⟨fun _ _ => trivial, rfl⟩
            (.cons ⟨fun _ _ => trivial, rfl⟩ (.nil _))))))))), rfl⟩
    intro call hcall hhandling
    cases hcall
    cases hhandling
  exact ⟨executor, hended, keepsPromises_of_run hrun⟩

def impatientLabels : List (Label ℕ) :=
  [.runs, .moves 0 .submits, .moves 0 .picksUp, .moves 0 .starts, .moves 0 .cancels,
    .moves 0 .cancels]

theorem ended_while_executing :
    ∃ executor, Run step (BoundedExecutor.new ℕ 1 0) impatientLabels executor ∧
      ∃ call ∈ executor.calls, call.hasEnded = true ∧ call.isExecuting = true := by
  refine ⟨_, run_ofPartial_iff.mpr rfl, _, List.mem_cons_self, rfl, rfl⟩

end XianyuAdmin.Executors
