import XianyuAdmin.Tasks.WorkerScheduling

/-!
# What the schedule of a worker process keeps

The set of scheduled ids lists the queued tasks and those that a consumer has taken,
each of them once, and every one of them holds a permit.  The registry knows every
consumer that has not ended, so that an account has no second one.
-/

namespace XianyuAdmin.TaskStore

open XianyuAdmin.Python
open XianyuAdmin.Transition

variable {index : ℕ} {consumer : Consumer} {task : BackgroundTask} {phase : ConsumerPhase}

theorem split_of_getElem? {Item : Type} {items : List Item} {item : Item}
    (hitem : items[index]? = some item) :
    ∃ left right, items = left ++ item :: right ∧
      ∀ other, items.set index other = left ++ other :: right := by
  obtain ⟨hindex, rfl⟩ := List.getElem?_eq_some_iff.mp hitem
  refine ⟨items.take index, items.drop (index + 1), ?_, fun other => ?_⟩
  · rw [← List.drop_eq_getElem_cons hindex, List.take_append_drop]
  · exact List.set_eq_take_append_cons_drop.trans (if_pos hindex)

theorem perm_cons_eraseP {Item : Type} {items : List Item} {item : Item} {meets : Item → Bool}
    (hfind : items.find? meets = some item) : items.Perm (item :: items.eraseP meets) := by
  obtain ⟨hmeets, left, right, rfl, hleft⟩ := List.find?_eq_some_iff_append.mp hfind
  have herased : (left ++ item :: right).eraseP meets = left ++ right := by
    rw [List.eraseP_append_right _ fun other hother => by simpa using hleft other hother,
      List.eraseP_cons_of_pos hmeets]
  rw [herased]
  exact List.perm_middle

def Registered (consumers : List Consumer) (registry : String → Option ℕ) : Prop :=
  ∀ index consumer, consumers[index]? = some consumer → consumer.phase.isEnded = false →
    registry consumer.key = some index

def Consumer.IsOwn (consumer : Consumer) : Prop :=
  ∀ task, consumer.phase.task? = some task → accountKey task = consumer.key

structure Scheduled (concurrency : ℕ) (state : WorkerState) : Prop where
  permits : state.freePermits + state.scheduledIds.length + state.dispatcher.permits =
    prefetchPermits concurrency
  slots : state.freeSlots + state.consumers.countP (·.phase.holdsSlot) = concurrency
  nodup : state.scheduledIds.Nodup
  tracked : state.scheduledIds.Perm
    (state.queued.map BackgroundTask.taskId ++ state.consumers.filterMap Consumer.taskId?)
  registered : Registered state.consumers state.registry
  own : ∀ consumer ∈ state.consumers, consumer.IsOwn

variable {concurrency : ℕ} {state next : WorkerState}

theorem scheduled_initial (concurrency : ℕ) :
    Scheduled concurrency (WorkerState.initial concurrency) where
  permits := by simp [WorkerState.initial, Dispatcher.permits]
  slots := by simp [WorkerState.initial]
  nodup := List.nodup_nil
  tracked := List.Perm.nil
  registered := by simp [Registered, WorkerState.initial]
  own := by simp [WorkerState.initial]

/-- A step that is about the dispatch loop's permit only. -/
theorem Scheduled.dispatch (hscheduled : Scheduled concurrency state) {freePermits : ℕ}
    {dispatcher : Dispatcher}
    (hpermits : freePermits + dispatcher.permits = state.freePermits + state.dispatcher.permits) :
    Scheduled concurrency
      { state with freePermits := freePermits, dispatcher := dispatcher } where
  permits := by
    have hold := hscheduled.permits
    dsimp only
    omega
  slots := hscheduled.slots
  nodup := hscheduled.nodup
  tracked := hscheduled.tracked
  registered := hscheduled.registered
  own := hscheduled.own

theorem Registered.hasConsumer (hregistered : Registered state.consumers state.registry)
    (hconsumer : state.consumers[index]? = some consumer)
    (halive : consumer.phase.isEnded = false) : state.hasConsumer consumer.key = true := by
  simp [WorkerState.hasConsumer, hregistered index consumer hconsumer halive, hconsumer, halive]

theorem Scheduled.startConsumer (hscheduled : Scheduled concurrency state) (key : String) :
    Scheduled concurrency (state.startConsumer key) := by
  by_cases hhas : state.hasConsumer key = true
  · rwa [WorkerState.startConsumer, if_pos hhas]
  rw [WorkerState.startConsumer, if_neg hhas]
  exact
    { permits := hscheduled.permits
      slots := by simpa [ConsumerPhase.holdsSlot] using hscheduled.slots
      nodup := hscheduled.nodup
      tracked := by
        have hnew : [Consumer.mk key .waiting].filterMap Consumer.taskId? = [] := rfl
        rw [List.filterMap_append, hnew, List.append_nil]
        exact hscheduled.tracked
      registered := by
        intro index consumer hconsumer halive
        dsimp only at hconsumer ⊢
        by_cases hnew : index = state.consumers.length
        · rw [hnew, List.getElem?_concat_length] at hconsumer
          cases hconsumer
          rw [if_pos rfl, hnew]
        · have hold : state.consumers[index]? = some consumer := by
            have hbound := (List.getElem?_eq_some_iff.mp hconsumer).1
            rw [List.length_append, List.length_singleton] at hbound
            rwa [List.getElem?_append_left (by omega)] at hconsumer
          have hkey : consumer.key ≠ key := by
            rintro rfl
            exact hhas (hscheduled.registered.hasConsumer hold halive)
          rw [if_neg hkey]
          exact hscheduled.registered index consumer hold halive
      own := by
        intro consumer hconsumer
        rcases List.mem_append.mp hconsumer with hold | hnew
        · exact hscheduled.own consumer hold
        · rw [List.mem_singleton.mp hnew]
          intro task htask
          cases htask }

@[simp]
theorem startConsumer_freePermits (key : String) :
    (state.startConsumer key).freePermits = state.freePermits := by
  rw [WorkerState.startConsumer]
  split <;> rfl

@[simp]
theorem startConsumer_scheduledIds (key : String) :
    (state.startConsumer key).scheduledIds = state.scheduledIds := by
  rw [WorkerState.startConsumer]
  split <;> rfl

@[simp]
theorem startConsumer_dispatcher (key : String) :
    (state.startConsumer key).dispatcher = state.dispatcher := by
  rw [WorkerState.startConsumer]
  split <;> rfl

theorem Scheduled.schedule (hscheduled : Scheduled concurrency state)
    (hreading : state.dispatcher = .reading) (hnew : task.taskId ∉ state.scheduledIds) :
    Scheduled concurrency (state.schedule task) := by
  have hstarted := hscheduled.startConsumer (accountKey task)
  exact
    { permits := by
        have hpermits := hstarted.permits
        simp only [startConsumer_freePermits, startConsumer_scheduledIds,
          startConsumer_dispatcher, hreading, Dispatcher.permits] at hpermits
        simp only [WorkerState.schedule, startConsumer_freePermits, startConsumer_scheduledIds,
          List.length_cons, Dispatcher.permits]
        omega
      slots := hstarted.slots
      nodup := by
        simpa [WorkerState.schedule, hnew] using hscheduled.nodup
      tracked := by
        have hids := hstarted.tracked.cons task.taskId
        refine hids.trans ?_
        simp only [WorkerState.schedule, List.map_append, List.map_cons, List.map_nil,
          List.append_assoc, List.singleton_append]
        exact List.perm_middle.symm
      registered := hstarted.registered
      own := hstarted.own }

theorem Scheduled.mem_scheduledIds (hscheduled : Scheduled concurrency state)
    (hconsumer : state.consumers[index]? = some consumer)
    (htask : consumer.phase.task? = some task) :
    task.taskId ∈ state.scheduledIds := by
  refine hscheduled.tracked.mem_iff.mpr (List.mem_append_right _ ?_)
  exact List.mem_filterMap.mpr
    ⟨consumer, List.mem_of_getElem? hconsumer, by simp [Consumer.taskId?, htask]⟩

/-- A consumer is replaced by itself at another await; what it gives up and takes is
accounted for in the rest of the state. -/
theorem Scheduled.replace (hscheduled : Scheduled concurrency state)
    (hconsumer : state.consumers[index]? = some consumer)
    (hconsumers : next.consumers = state.consumers.set index { consumer with phase := phase })
    (hregistry : next.registry = state.registry)
    (halive : phase.isEnded = false → consumer.phase.isEnded = false)
    (hown : ∀ task, phase.task? = some task → accountKey task = consumer.key)
    (hpermits : next.freePermits + next.scheduledIds.length + next.dispatcher.permits =
      state.freePermits + state.scheduledIds.length + state.dispatcher.permits)
    (hslots : next.freeSlots + phase.holdsSlot.toNat =
      state.freeSlots + consumer.phase.holdsSlot.toNat) (hnodup : next.scheduledIds.Nodup)
    (htracked : ∀ others : List String,
      state.scheduledIds.Perm (state.queued.map BackgroundTask.taskId ++
        ((consumer.phase.task?.map BackgroundTask.taskId).toList ++ others)) →
      next.scheduledIds.Perm (next.queued.map BackgroundTask.taskId ++
        ((phase.task?.map BackgroundTask.taskId).toList ++ others))) :
    Scheduled concurrency next := by
  obtain ⟨left, right, hsplit, hset⟩ := split_of_getElem? hconsumer
  rw [hset] at hconsumers
  have hids : ∀ replaced : Consumer, ((left ++ replaced :: right).filterMap Consumer.taskId?).Perm
      (replaced.taskId?.toList ++
        (left.filterMap Consumer.taskId? ++ right.filterMap Consumer.taskId?)) := by
    intro replaced
    rw [List.filterMap_append, List.filterMap_cons]
    cases replaced.taskId? with
    | none => simp
    | some taskId => exact List.perm_middle
  refine ⟨hpermits.trans hscheduled.permits, ?_, hnodup, ?_, ?_, ?_⟩
  · have hold := hscheduled.slots
    rw [hsplit] at hold
    rw [hconsumers]
    simp only [List.countP_append, List.countP_cons, Bool.toNat, Bool.cond_eq_ite]
      at hold hslots ⊢
    omega
  · rw [hconsumers]
    refine (htracked _ ?_).trans ((hids { consumer with phase := phase }).symm.append_left _)
    have hold := hscheduled.tracked
    rw [hsplit] at hold
    exact hold.trans ((hids consumer).append_left _)
  · intro other replaced hother hreplaced
    rw [hconsumers, ← hset] at hother
    rw [hregistry]
    rw [List.getElem?_set] at hother
    split at hother
    · rename_i hsame
      split at hother
      · cases hother
        rw [← hsame]
        exact hscheduled.registered index consumer hconsumer (halive hreplaced)
      · cases hother
    · exact hscheduled.registered other replaced hother hreplaced
  · intro other hother
    rw [hconsumers, ← hset] at hother
    rcases List.mem_or_eq_of_mem_set hother with hold | rfl
    · exact hscheduled.own other hold
    · exact hown

theorem Scheduled.moves (hscheduled : Scheduled concurrency state) {freeSlots : ℕ}
    (hconsumer : state.consumers[index]? = some consumer)
    (htask : phase.task? = consumer.phase.task?)
    (halive : phase.isEnded = false → consumer.phase.isEnded = false)
    (hslots : freeSlots + phase.holdsSlot.toNat =
      state.freeSlots + consumer.phase.holdsSlot.toNat) :
    Scheduled concurrency
      { state.moves index consumer phase with freeSlots := freeSlots } := by
  refine hscheduled.replace hconsumer rfl rfl halive ?_ rfl hslots hscheduled.nodup ?_
  · intro task hphase
    exact hscheduled.own consumer (List.mem_of_getElem? hconsumer) task (htask ▸ hphase)
  · intro others hids
    rw [htask]
    exact hids

theorem Scheduled.movesOn (hscheduled : Scheduled concurrency state)
    (hconsumer : state.consumers[index]? = some consumer)
    (htask : phase.task? = consumer.phase.task?)
    (halive : phase.isEnded = false → consumer.phase.isEnded = false)
    (hslot : phase.holdsSlot = consumer.phase.holdsSlot) :
    Scheduled concurrency (state.moves index consumer phase) :=
  hscheduled.moves hconsumer htask halive (by rw [hslot])

theorem Scheduled.takes (hscheduled : Scheduled concurrency state)
    (hconsumer : state.consumers[index]? = some consumer) (hwaiting : consumer.phase = .waiting)
    (hfind : state.queued.find? (accountKey · = consumer.key) = some task) :
    Scheduled concurrency
      { state.moves index consumer (.entering task) with
        queued := state.queued.eraseP (accountKey · = consumer.key) } := by
  refine hscheduled.replace hconsumer rfl rfl ?_ ?_ rfl ?_ hscheduled.nodup ?_
  · intro _
    rw [hwaiting]
    rfl
  · rintro _ ⟨⟩
    simpa using List.find?_some hfind
  · rw [hwaiting]
    rfl
  · intro others hids
    rw [hwaiting] at hids
    have hqueued := (perm_cons_eraseP hfind).map BackgroundTask.taskId
    refine (hids.trans (hqueued.append_right _)).trans ?_
    exact List.perm_middle.symm

/-- What the `finally` clause gives back is what the task has held. -/
theorem Scheduled.finishes (hscheduled : Scheduled concurrency state)
    (hconsumer : state.consumers[index]? = some consumer)
    (htask : consumer.phase.task? = some task) (hidle : phase.task? = none)
    (hfree : phase.holdsSlot = false) :
    Scheduled concurrency (state.finishes index consumer task phase) := by
  have hmem := hscheduled.mem_scheduledIds hconsumer htask
  have halive : consumer.phase.isEnded = false := by
    cases hphase : consumer.phase with
    | ended => simp [hphase, ConsumerPhase.task?] at htask
    | _ => rfl
  refine hscheduled.replace hconsumer rfl rfl (fun _ => halive) ?_ ?_ ?_
    (hscheduled.nodup.erase _) ?_
  · intro other hother
    rw [hidle] at hother
    cases hother
  · have hlength := List.length_erase_of_mem hmem
    have hpos := List.length_pos_of_mem hmem
    simp only [WorkerState.finishes, WorkerState.moves]
    omega
  · simp only [WorkerState.finishes, hfree, Bool.toNat, Bool.cond_eq_ite]
    simp
  · intro others hids
    rw [htask] at hids
    have herased := (hids.trans List.perm_middle).erase task.taskId
    rw [List.erase_cons_head] at herased
    rw [hidle]
    exact herased

theorem scheduled_consumerStep (hscheduled : Scheduled concurrency state) {label : WorkerLabel}
    (hconsumer : state.consumers[index]? = some consumer)
    (hstep : consumerStep state index consumer label = some next) :
    Scheduled concurrency next := by
  cases label with
  | takes _ =>
      simp only [consumerStep] at hstep
      split at hstep
      · rename_i task hwaiting hfind
        cases hstep
        exact hscheduled.takes hconsumer hwaiting hfind
      · cases hstep
  | enters _ =>
      simp only [consumerStep] at hstep
      split at hstep
      · rename_i task freeSlots hentering hslots
        cases hstep
        refine hscheduled.moves hconsumer ?_ ?_ ?_
        · rw [hentering]
          rfl
        · intro _
          rw [hentering]
          rfl
        · rw [hentering, hslots]
          rfl
      · cases hstep
  | claims _ claimEnd =>
      simp only [consumerStep] at hstep
      split at hstep
      · rename_i task hclaiming
        cases hstep
        refine hscheduled.movesOn hconsumer ?_ ?_ ?_
        · rw [hclaiming]
          rfl
        · intro _
          rw [hclaiming]
          rfl
        · rw [hclaiming]
          rfl
      · rename_i task _ hclaiming _
        cases hstep
        exact hscheduled.finishes hconsumer (by rw [hclaiming]; rfl) rfl rfl
      · cases hstep
  | executes _ =>
      simp only [consumerStep] at hstep
      split at hstep
      · rename_i task hexecuting
        cases hstep
        exact hscheduled.finishes hconsumer (by rw [hexecuting]; rfl) rfl rfl
      · cases hstep
  | stopsConsuming _ =>
      simp only [consumerStep] at hstep
      split at hstep
      · rename_i task htask
        cases hstep
        exact hscheduled.finishes hconsumer htask rfl rfl
      · rename_i hidle
        cases hstep
        refine hscheduled.movesOn hconsumer hidle.symm nofun ?_
        cases hphase : consumer.phase <;> simp [hphase, ConsumerPhase.task?] at hidle <;> rfl
  | _ => cases hstep

theorem scheduled_workerStep (hscheduled : Scheduled concurrency state) {label : WorkerLabel}
    (hstep : workerStep state label = some next) : Scheduled concurrency next := by
  have hconsumer : ∀ index, (state.consumers[index]?).bind
      (fun consumer => consumerStep state index consumer label) = some next →
      Scheduled concurrency next := by
    intro index hbind
    obtain ⟨consumer, hconsumer, hmoved⟩ := Option.bind_eq_some_iff.mp hbind
    exact scheduled_consumerStep hscheduled hconsumer hmoved
  unfold workerStep at hstep
  split at hstep
  · rename_i hacquiring
    split at hstep
    · cases hstep
    · rename_i freePermits hfree
      cases hstep
      exact hscheduled.dispatch (by simp [hacquiring, hfree, Dispatcher.permits])
  · rename_i hfetching
    cases hstep
    exact hscheduled.dispatch (by simp [hfetching, Dispatcher.permits])
  · rename_i hfetching
    cases hstep
    exact hscheduled.dispatch (by simp [hfetching, Dispatcher.permits])
  · rename_i hsleeping
    cases hstep
    exact hscheduled.dispatch (by simp [hsleeping, Dispatcher.permits])
  · rename_i hreading
    cases hstep
    exact hscheduled.dispatch (by simp [hreading, Dispatcher.permits])
  · rename_i task hreading
    split at hstep
    · cases hstep
      exact hscheduled.dispatch (by simp [hreading, Dispatcher.permits])
    · rename_i hfresh
      cases hstep
      exact hscheduled.schedule hreading (not_or.mp hfresh).2
  · cases hstep
    exact hscheduled.dispatch rfl
  · exact hconsumer _ hstep
  · exact hconsumer _ hstep
  · exact hconsumer _ hstep
  · exact hconsumer _ hstep
  · exact hconsumer _ hstep
  · cases hstep

/-- What the process promises. -/
structure KeepsSchedule (concurrency : ℕ) (state : WorkerState) : Prop where
  exclusive : ∀ (first second : ℕ) (consumer other : Consumer)
    (task otherTask : BackgroundTask) (account : String),
    state.consumers[first]? = some consumer → state.consumers[second]? = some other →
    consumer.phase = .executing task → other.phase = .executing otherTask →
    orElse task.accountId none = some account →
    orElse otherTask.accountId none = some account → first = second
  bounded : state.consumers.countP (·.phase.isExecuting) ≤ concurrency
  tracked : ∀ taskId, taskId ∈ state.scheduledIds ↔
    taskId ∈ state.queued.map BackgroundTask.taskId ∨
      ∃ consumer ∈ state.consumers, consumer.taskId? = some taskId
  once : (state.queued.map BackgroundTask.taskId ++
    state.consumers.filterMap Consumer.taskId?).Nodup
  /-- The set is one. -/
  nodup : state.scheduledIds.Nodup
  own : ∀ consumer ∈ state.consumers, consumer.IsOwn
  permits : state.freePermits + state.scheduledIds.length + state.dispatcher.permits =
    prefetchPermits concurrency

theorem Scheduled.exclusive (hscheduled : Scheduled concurrency state) {first second : ℕ}
    {other : Consumer} {otherTask : BackgroundTask}
    (hconsumer : state.consumers[first]? = some consumer)
    (hother : state.consumers[second]? = some other)
    (hexecuting : consumer.phase = .executing task)
    (hotherExecuting : other.phase = .executing otherTask)
    (hkey : accountKey task = accountKey otherTask) : first = second := by
  have hown := hscheduled.own consumer (List.mem_of_getElem? hconsumer) task
    (by rw [hexecuting]; rfl)
  have hotherOwn := hscheduled.own other (List.mem_of_getElem? hother) otherTask
    (by rw [hotherExecuting]; rfl)
  have hfirst := hscheduled.registered first consumer hconsumer (by rw [hexecuting]; rfl)
  have hsecond := hscheduled.registered second other hother (by rw [hotherExecuting]; rfl)
  rw [← hotherOwn, ← hkey, hown, hfirst] at hsecond
  exact Option.some.inj hsecond

theorem Scheduled.keepsSchedule (hscheduled : Scheduled concurrency state) :
    KeepsSchedule concurrency state where
  exclusive := by
    intro first second consumer other task otherTask account hconsumer hother hexecuting
      hotherExecuting haccount hotherAccount
    refine hscheduled.exclusive hconsumer hother hexecuting hotherExecuting ?_
    rw [accountKey, accountKey, haccount, hotherAccount]
    rfl
  bounded := by
    have hholds : state.consumers.countP (·.phase.isExecuting) ≤
        state.consumers.countP (·.phase.holdsSlot) := by
      refine List.countP_mono_left fun consumer _ hexecuting => ?_
      cases hphase : consumer.phase <;>
        simp [hphase, ConsumerPhase.isExecuting, ConsumerPhase.holdsSlot] at hexecuting ⊢
    have hslots := hscheduled.slots
    omega
  tracked := by
    intro taskId
    rw [hscheduled.tracked.mem_iff, List.mem_append, List.mem_filterMap]
  once := hscheduled.tracked.nodup hscheduled.nodup
  nodup := hscheduled.nodup
  own := hscheduled.own
  permits := hscheduled.permits

/-- Every interleaving of the dispatch loop and the consumers keeps the schedule. -/
theorem keepsSchedule_of_run {labels : List WorkerLabel}
    (hrun : Run (ofPartial workerStep) (.initial concurrency) labels state) :
    KeepsSchedule concurrency state := by
  have hscheduled := hrun.invariant (Scheduled concurrency)
    (fun _ _ _ hscheduled hstep => scheduled_workerStep hscheduled hstep)
    (scheduled_initial concurrency)
  exact hscheduled.keepsSchedule

def pendingTask (taskId account : String) : BackgroundTask :=
  newTask
    { accountId := some account, taskType := "send_message", dedupeKey := none,
      payload := none, runAfter := none } taskId 0

/-- Two tasks of one account and one of another; the second is found again while the
first is executed. -/
def threeTasks : List WorkerLabel :=
  [.acquires, .fetches true, .reads (some (pendingTask "t1" "a")),
    .takes 0, .acquires, .enters 0, .fetches true, .claims 0 .claimed,
    .reads (some (pendingTask "t2" "a")), .acquires, .fetches true,
    .reads (some (pendingTask "t2" "a")), .acquires, .fetches true,
    .reads (some (pendingTask "t3" "b")), .takes 1, .enters 1, .claims 1 .claimed]

theorem keepsSchedule_of_threeTasks :
    ∃ state, state.consumers.countP (·.phase.isExecuting) = 2 ∧
      state.queued.map BackgroundTask.taskId = ["t2"] ∧ KeepsSchedule 2 state := by
  obtain ⟨state, hrun, hexecuting, hqueued⟩ : ∃ state,
      Run (ofPartial workerStep) (.initial 2) threeTasks state ∧
        state.consumers.countP (·.phase.isExecuting) = 2 ∧
        state.queued.map BackgroundTask.taskId = ["t2"] :=
    ⟨_, run_ofPartial_iff.mpr rfl, rfl, rfl⟩
  exact ⟨state, hexecuting, hqueued, keepsSchedule_of_run hrun⟩

end XianyuAdmin.TaskStore
