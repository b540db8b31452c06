import XianyuAdmin.Pushes.PushQueue
import XianyuAdmin.Pushes.PushTotality

/-!
# Where acknowledged frames are

The platform does not send an acknowledged frame again, so that its events come to the
callback only through the queue and the tasks.  A ledger says of each receipt where its
frame is, and which of its events have been handed over.
-/

namespace XianyuAdmin.Pushes

open Transition

/-- Where an acknowledged frame is. -/
inductive Place
  | queued
  | held (processor : Processor)
  /-- `push_queue_dropped` counts it. -/
  | counted
  /-- On its way from one place to another, within a step. -/
  | carried
  | done

variable (library : PushLibrary) (session : PushSession)

def Stage.outstanding (frame : Members) : Stage → List ChatMessageEvent
  | .parsing => entryEvents library session frame
  | .calling rest => rest

/-- The frame is at its place, and its events are handed over so far. -/
def Accounted (state : PushState) (push : Push) : Place → Prop
  | .queued => push ∈ state.queue ∧ state.handedOf push.receipt = []
  | .held processor =>
      ∃ stage, state.slot processor = .busy push stage ∧
        state.handedOf push.receipt ++ stage.outstanding library session push.frame =
          entryEvents library session push.frame
  | .counted => push.receipt ∈ state.counted ∧ state.handedOf push.receipt = []
  | .carried => state.handedOf push.receipt = []
  | .done => state.handedOf push.receipt = entryEvents library session push.frame

def PushState.acknowledges (state : PushState) (push : Push) : Prop :=
  state.acknowledged[push.receipt]? = some push.frame

structure Ledger (state : PushState) (place : ℕ → Place) : Prop where
  queue : ∀ push ∈ state.queue, place push.receipt = .queued ∧ state.acknowledges push
  slots : ∀ processor push stage, state.slot processor = .busy push stage →
    place push.receipt = .held processor ∧ state.acknowledges push
  counted : ∀ receipt ∈ state.counted,
    place receipt = .counted ∧ receipt < state.acknowledged.length
  queueOnce : (state.queue.map Push.receipt).Nodup
  countedOnce : state.counted.Nodup
  count : state.dropped = state.counted.length
  unknown : ∀ receipt, state.acknowledged.length ≤ receipt → state.handedOf receipt = []
  accounted : ∀ push, state.acknowledges push →
    Accounted library session state push (place push.receipt)

variable {library : PushLibrary} {session : PushSession} {state : PushState}
  {place : ℕ → Place} {push : Push}

namespace Ledger

theorem receipt_ne {left right : ℕ} {there : Place} (hleft : place left = there)
    (hright : place right ≠ there) : left ≠ right := by
  rintro rfl
  exact hright hleft

theorem lt_of_acknowledges (hpush : state.acknowledges push) :
    push.receipt < state.acknowledged.length :=
  (List.getElem?_eq_some_iff.mp hpush).1

theorem acknowledge (h : Ledger library session state place) (frame : Members) :
    Ledger library session (state.acknowledge frame)
      (Function.update place state.acknowledged.length .carried) := by
  have hlength : (state.acknowledge frame).acknowledged.length =
      state.acknowledged.length + 1 := by
    simp [PushState.acknowledge]
  have hafter : ∀ push : Push, state.acknowledges push →
      (state.acknowledge frame).acknowledges push := fun push hpush => by
    have hlt := lt_of_acknowledges hpush
    simpa [PushState.acknowledges, PushState.acknowledge, List.getElem?_append_left hlt] using hpush
  have hsame : ∀ receipt, receipt < state.acknowledged.length →
      Function.update place state.acknowledged.length .carried receipt = place receipt :=
    fun receipt hlt => Function.update_of_ne hlt.ne _ _
  exact
    { queue := fun push hpush => by
        obtain ⟨hplace, hack⟩ := h.queue push hpush
        exact ⟨(hsame _ (lt_of_acknowledges hack)).trans hplace, hafter push hack⟩
      slots := fun processor push stage hslot => by
        obtain ⟨hplace, hack⟩ := h.slots processor push stage hslot
        exact ⟨(hsame _ (lt_of_acknowledges hack)).trans hplace, hafter push hack⟩
      counted := fun receipt hreceipt => by
        obtain ⟨hplace, hlt⟩ := h.counted receipt hreceipt
        exact ⟨(hsame _ hlt).trans hplace, by omega⟩
      queueOnce := h.queueOnce
      countedOnce := h.countedOnce
      count := h.count
      unknown := fun receipt hle => h.unknown receipt (by omega)
      accounted := fun push hpush => by
        rcases Nat.lt_or_ge push.receipt state.acknowledged.length with hlt | hge
        · rw [hsame _ hlt]
          refine h.accounted push ?_
          simpa [PushState.acknowledges, PushState.acknowledge, List.getElem?_append_left hlt]
            using hpush
        · have heq : push.receipt = state.acknowledged.length := by
            have := lt_of_acknowledges hpush
            omega
          rw [heq, Function.update_self]
          exact h.unknown push.receipt hge }

/-- A step that concerns one acknowledged frame takes it to `target`. -/
structure Moves (library : PushLibrary) (session : PushSession) (state next : PushState)
    (push : Push) (target : Place) : Prop where
  acknowledges : state.acknowledges push
  acknowledged : next.acknowledged = state.acknowledged
  queue : ∀ other : Push, other.receipt ≠ push.receipt →
    (other ∈ next.queue ↔ other ∈ state.queue)
  queued : ∀ other ∈ next.queue, other.receipt = push.receipt → other = push ∧ target = .queued
  slots : ∀ processor (other : Push) stage, other.receipt ≠ push.receipt →
    (next.slot processor = .busy other stage ↔ state.slot processor = .busy other stage)
  held : ∀ processor other stage, next.slot processor = .busy other stage →
    other.receipt = push.receipt → other = push ∧ target = .held processor
  counted : ∀ receipt, receipt ≠ push.receipt →
    (receipt ∈ next.counted ↔ receipt ∈ state.counted)
  countedHere : push.receipt ∈ next.counted → target = .counted
  handed : ∀ receipt, receipt ≠ push.receipt → next.handedOf receipt = state.handedOf receipt
  queueOnce : (next.queue.map Push.receipt).Nodup
  countedOnce : next.counted.Nodup
  count : next.dropped = next.counted.length
  accounted : Accounted library session next push target

theorem push_eq {other : Push} (hother : state.acknowledges other)
    (hpush : state.acknowledges push) (heq : other.receipt = push.receipt) : other = push := by
  have hframe : some other.frame = some push.frame := by
    rw [← hother, ← hpush, heq]
  cases other
  cases push
  simp_all

theorem move {next : PushState} {target : Place} (h : Ledger library session state place)
    (hmoves : Moves library session state next push target) :
    Ledger library session next (Function.update place push.receipt target) where
  queue := fun other hother => by
    have hack : next.acknowledges other ↔ state.acknowledges other := by
      rw [PushState.acknowledges, hmoves.acknowledged, PushState.acknowledges]
    by_cases heq : other.receipt = push.receipt
    · obtain ⟨rfl, rfl⟩ := hmoves.queued other hother heq
      exact ⟨Function.update_self _ _ _, hack.mpr hmoves.acknowledges⟩
    · rw [Function.update_of_ne heq, hack]
      exact h.queue other ((hmoves.queue other heq).mp hother)
  slots := fun processor other stage hslot => by
    have hack : next.acknowledges other ↔ state.acknowledges other := by
      rw [PushState.acknowledges, hmoves.acknowledged, PushState.acknowledges]
    by_cases heq : other.receipt = push.receipt
    · obtain ⟨rfl, rfl⟩ := hmoves.held processor other stage hslot heq
      exact ⟨Function.update_self _ _ _, hack.mpr hmoves.acknowledges⟩
    · rw [Function.update_of_ne heq, hack]
      exact h.slots processor other stage ((hmoves.slots processor other stage heq).mp hslot)
  counted := fun receipt hreceipt => by
    rw [hmoves.acknowledged]
    by_cases heq : receipt = push.receipt
    · subst heq
      rw [Function.update_self]
      exact ⟨hmoves.countedHere hreceipt, lt_of_acknowledges hmoves.acknowledges⟩
    · rw [Function.update_of_ne heq]
      exact h.counted receipt ((hmoves.counted receipt heq).mp hreceipt)
  queueOnce := hmoves.queueOnce
  countedOnce := hmoves.countedOnce
  count := hmoves.count
  unknown := fun receipt hle => by
    rw [hmoves.acknowledged] at hle
    rw [hmoves.handed receipt
      (Nat.ne_of_gt ((lt_of_acknowledges hmoves.acknowledges).trans_le hle))]
    exact h.unknown receipt hle
  accounted := fun other hother => by
    rw [PushState.acknowledges, hmoves.acknowledged] at hother
    by_cases heq : other.receipt = push.receipt
    · rw [push_eq hother hmoves.acknowledges heq, Function.update_self]
      exact hmoves.accounted
    · have hbefore := h.accounted other hother
      rw [Function.update_of_ne heq]
      cases hplace : place other.receipt with
      | queued =>
          rw [hplace] at hbefore
          exact ⟨(hmoves.queue other heq).mpr hbefore.1, (hmoves.handed _ heq).trans hbefore.2⟩
      | held processor =>
          rw [hplace] at hbefore
          obtain ⟨stage, hslot, hevents⟩ := hbefore
          refine ⟨stage, (hmoves.slots processor other stage heq).mpr hslot, ?_⟩
          rw [hmoves.handed _ heq, hevents]
      | counted =>
          rw [hplace] at hbefore
          exact ⟨(hmoves.counted _ heq).mpr hbefore.1, (hmoves.handed _ heq).trans hbefore.2⟩
      | carried | done =>
          rw [hplace] at hbefore
          exact (hmoves.handed _ heq).trans hbefore

/-- A frame that is nowhere else is neither in the queue, nor with a task, nor counted. -/
theorem carried_nowhere (h : Ledger library session state place)
    (hcarried : place push.receipt = .carried) :
    (∀ other ∈ state.queue, other.receipt ≠ push.receipt) ∧
      (∀ processor other stage, state.slot processor = .busy other stage →
        other.receipt ≠ push.receipt) ∧
      push.receipt ∉ state.counted := by
  refine ⟨fun other hother => ?_, fun processor other stage hslot => ?_, fun hcounted => ?_⟩
  · exact receipt_ne (h.queue other hother).1 (hcarried.trans_ne nofun)
  · exact receipt_ne (h.slots processor other stage hslot).1 (hcarried.trans_ne nofun)
  · exact absurd ((h.counted _ hcounted).1.symm.trans hcarried) nofun

theorem append (h : Ledger library session state place)
    (hcarried : place push.receipt = .carried) (hack : state.acknowledges push) :
    Ledger library session { state with queue := state.queue ++ [push] }
      (Function.update place push.receipt .queued) := by
  obtain ⟨hqueue, hslots, hcounted⟩ := h.carried_nowhere hcarried
  have hbefore := h.accounted push hack
  rw [hcarried] at hbefore
  exact h.move
    { acknowledges := hack
      acknowledged := rfl
      queue := fun other hne => by
        have hother : other ≠ push := fun heq => hne (congrArg Push.receipt heq)
        simp [hother]
      queued := fun other hother heq => by
        rcases List.mem_append.mp hother with hother | hother
        · exact absurd heq (hqueue other hother)
        · exact ⟨List.mem_singleton.mp hother, rfl⟩
      slots := fun _ _ _ _ => Iff.rfl
      held := fun processor other stage hslot heq =>
        absurd heq (hslots processor other stage hslot)
      counted := fun _ _ => Iff.rfl
      countedHere := fun hmem => absurd hmem hcounted
      handed := fun _ _ => rfl
      queueOnce := by
        rw [List.map_append, List.nodup_append]
        refine ⟨h.queueOnce, List.nodup_singleton _, fun receipt hreceipt other hother => ?_⟩
        obtain ⟨queued, hqueued, rfl⟩ := List.mem_map.mp hreceipt
        obtain rfl : other = push.receipt := by simpa using hother
        exact hqueue queued hqueued
      countedOnce := h.countedOnce
      count := h.count
      accounted := ⟨List.mem_append_right _ (List.mem_singleton_self _), hbefore⟩ }

theorem countDropped (h : Ledger library session state place)
    (hcarried : place push.receipt = .carried) (hack : state.acknowledges push) :
    Ledger library session
      { state with
        dropped := state.dropped + 1
        counted := state.counted ++ [push.receipt] }
      (Function.update place push.receipt .counted) := by
  obtain ⟨hqueue, hslots, hcounted⟩ := h.carried_nowhere hcarried
  have hbefore := h.accounted push hack
  rw [hcarried] at hbefore
  exact h.move
    { acknowledges := hack
      acknowledged := rfl
      queue := fun _ _ => Iff.rfl
      queued := fun other hother heq => absurd heq (hqueue other hother)
      slots := fun _ _ _ _ => Iff.rfl
      held := fun processor other stage hslot heq =>
        absurd heq (hslots processor other stage hslot)
      counted := fun receipt hne => by simp [hne]
      countedHere := fun _ => rfl
      handed := fun _ _ => rfl
      queueOnce := h.queueOnce
      countedOnce := by
        rw [← List.concat_eq_append]
        exact h.countedOnce.concat hcounted
      count := by simp [h.count]
      accounted := ⟨List.mem_append_right _ (List.mem_singleton_self _), hbefore⟩ }

/-- The oldest frame is taken from the queue. -/
theorem pop {rest : List Push} (h : Ledger library session state place)
    (hqueue : state.queue = push :: rest) :
    Ledger library session { state with queue := rest }
      (Function.update place push.receipt .carried) := by
  have hhead : push ∈ state.queue := by
    rw [hqueue]
    exact List.mem_cons_self
  obtain ⟨hqueued, hack⟩ := h.queue push hhead
  have honce := h.queueOnce
  rw [hqueue, List.map_cons, List.nodup_cons] at honce
  have hbefore := h.accounted push hack
  rw [hqueued] at hbefore
  exact h.move
    { acknowledges := hack
      acknowledged := rfl
      queue := fun other hne => by
        have hother : other ≠ push := fun heq => hne (congrArg Push.receipt heq)
        simp [hqueue, hother]
      queued := fun other hother heq =>
        absurd (List.mem_map.mpr ⟨other, hother, heq⟩) honce.1
      slots := fun _ _ _ _ => Iff.rfl
      held := fun processor other stage hslot heq => by
        have hheld := (h.slots processor other stage hslot).1
        rw [heq, hqueued] at hheld
        exact absurd hheld nofun
      counted := fun _ _ => Iff.rfl
      countedHere := fun hmem => absurd ((h.counted _ hmem).1.symm.trans hqueued) nofun
      handed := fun _ _ => rfl
      queueOnce := honce.2
      countedOnce := h.countedOnce
      count := h.count
      accounted := hbefore.2 }

theorem forget (h : Ledger library session state place)
    (hcarried : place push.receipt = .carried) (hack : state.acknowledges push)
    (hevents : entryEvents library session push.frame = []) :
    Ledger library session state (Function.update place push.receipt .done) := by
  obtain ⟨hqueue, hslots, hcounted⟩ := h.carried_nowhere hcarried
  have hbefore := h.accounted push hack
  rw [hcarried] at hbefore
  exact h.move
    { acknowledges := hack
      acknowledged := rfl
      queue := fun _ _ => Iff.rfl
      queued := fun other hother heq => absurd heq (hqueue other hother)
      slots := fun _ _ _ _ => Iff.rfl
      held := fun processor other stage hslot heq =>
        absurd heq (hslots processor other stage hslot)
      counted := fun _ _ => Iff.rfl
      countedHere := fun hmem => absurd hmem hcounted
      handed := fun _ _ => rfl
      queueOnce := h.queueOnce
      countedOnce := h.countedOnce
      count := h.count
      accounted := by
        rw [Accounted, hevents]
        exact hbefore }

/-- The slots are written, and hold the same frames. -/
theorem slots_congr (h : Ledger library session state place) {slot : Processor → Slot}
    (connected pushRunning : Bool)
    (hslot : ∀ processor push stage,
      slot processor = .busy push stage ↔ state.slot processor = .busy push stage) :
    Ledger library session
      { state with connected := connected, pushRunning := pushRunning, slot := slot } place where
  queue := h.queue
  slots := fun processor push stage hbusy =>
    h.slots processor push stage ((hslot processor push stage).mp hbusy)
  counted := h.counted
  queueOnce := h.queueOnce
  countedOnce := h.countedOnce
  count := h.count
  unknown := h.unknown
  accounted := fun push hpush => by
    have hbefore := h.accounted push hpush
    cases hplace : place push.receipt with
    | held processor =>
        rw [hplace] at hbefore
        obtain ⟨stage, hbusy, hevents⟩ := hbefore
        exact ⟨stage, (hslot processor push stage).mpr hbusy, hevents⟩
    | queued | counted | carried | done =>
        rw [hplace] at hbefore
        exact hbefore

variable {processor : Processor} {slot : Slot}

/-- A task that holds no frame goes on to a slot without one. -/
theorem setSlot (h : Ledger library session state place)
    (hold : ∀ push stage, state.slot processor ≠ .busy push stage)
    (hnew : ∀ push stage, slot ≠ .busy push stage) :
    Ledger library session (state.setSlot processor slot) place := by
  refine h.slots_congr state.connected state.pushRunning fun other push stage => ?_
  by_cases heq : other = processor
  · subst heq
    simp [hnew push stage, hold push stage]
  · simp [heq]

/-- The frame of a task changes its stage, or comes to the task or leaves it. -/
theorem putSlot {target : Place} (handed : List (ℕ × ChatMessageEvent))
    (h : Ledger library session state place) (hack : state.acknowledges push)
    (hplace : place push.receipt = .carried ∨ place push.receipt = .held processor)
    (hold : ∀ other stage, state.slot processor = .busy other stage → other = push)
    (hnew : ∀ other stage, slot = .busy other stage → other = push ∧ target = .held processor)
    (hhanded : ∀ receipt, receipt ≠ push.receipt →
      ({ state with handed := handed }.handedOf receipt) = state.handedOf receipt)
    (haccounted : Accounted library session
      ({ state with handed := handed }.setSlot processor slot) push target) :
    Ledger library session ({ state with handed := handed }.setSlot processor slot)
      (Function.update place push.receipt target) := by
  have helsewhere : ∀ there, there ≠ .carried → there ≠ .held processor →
      place push.receipt ≠ there := by
    rintro there hcarried hheld rfl
    exact hplace.elim hcarried hheld
  exact h.move
    { acknowledges := hack
      acknowledged := rfl
      queue := fun _ _ => Iff.rfl
      queued := fun other hother heq =>
        absurd (heq ▸ (h.queue other hother).1) (helsewhere .queued nofun nofun)
      slots := fun other push' stage hne => by
        by_cases heq : other = processor
        · subst heq
          have hleft : slot ≠ .busy push' stage := fun hslot =>
            hne (congrArg Push.receipt (hnew push' stage hslot).1)
          have hright : state.slot other ≠ .busy push' stage := fun hslot =>
            hne (congrArg Push.receipt (hold push' stage hslot))
          simp [PushState.setSlot, hleft, hright]
        · simp [PushState.setSlot, heq]
      held := fun other push' stage hslot hreceipt => by
        by_cases heq : other = processor
        · subst heq
          exact hnew push' stage (by simpa [PushState.setSlot] using hslot)
        · have hbefore : state.slot other = .busy push' stage := by
            simpa [PushState.setSlot, heq] using hslot
          have hheld := (h.slots other push' stage hbefore).1
          rw [hreceipt] at hheld
          exact absurd hheld (helsewhere (.held other) nofun fun hsame => heq (by injection hsame))
      counted := fun _ _ => Iff.rfl
      countedHere := fun hmem => absurd (h.counted _ hmem).1 (helsewhere .counted nofun nofun)
      handed := hhanded
      queueOnce := h.queueOnce
      countedOnce := h.countedOnce
      count := h.count
      accounted := haccounted }

/-- A task begins with a carried frame. -/
theorem hold (h : Ledger library session state place) (hcarried : place push.receipt = .carried)
    (hack : state.acknowledges push)
    (hidle : ∀ other stage, state.slot processor ≠ .busy other stage) :
    Ledger library session (state.setSlot processor (.busy push .parsing))
      (Function.update place push.receipt (.held processor)) := by
  have hbefore := h.accounted push hack
  rw [hcarried] at hbefore
  refine putSlot state.handed h hack (.inl hcarried)
    (fun other stage hslot => absurd hslot (hidle other stage)) ?_ (fun _ _ => rfl) ?_
  · intro other stage hslot
    cases hslot
    exact ⟨rfl, rfl⟩
  · refine ⟨.parsing, Function.update_self _ _ _, ?_⟩
    have hnone : state.handedOf push.receipt = [] := hbefore
    exact congrArg (· ++ entryEvents library session push.frame) hnone

/-- A task is done with a frame whose events have been handed over. -/
theorem release {stage : Stage} (h : Ledger library session state place)
    (hslot : state.slot processor = .busy push stage)
    (hnothing : stage.outstanding library session push.frame = [])
    (hnew : ∀ other stage, slot ≠ .busy other stage) :
    Ledger library session (state.setSlot processor slot)
      (Function.update place push.receipt .done) := by
  obtain ⟨hplace, hack⟩ := h.slots processor push stage hslot
  have hbefore := h.accounted push hack
  rw [hplace] at hbefore
  obtain ⟨other, hother, hevents⟩ := hbefore
  obtain rfl : other = stage := by
    rw [hslot] at hother
    injection hother with _ hstage
    exact hstage.symm
  rw [hnothing, List.append_nil] at hevents
  refine putSlot state.handed h hack (.inr hplace) ?_
    (fun other stage hslot => absurd hslot (hnew other stage)) (fun _ _ => rfl) hevents
  intro other stage hsame
  rw [hslot] at hsame
  cases hsame
  rfl

theorem hand {stage : Stage} {event : ChatMessageEvent} {rest : List ChatMessageEvent}
    (h : Ledger library session state place) (hslot : state.slot processor = .busy push stage)
    (hnext : stage.outstanding library session push.frame = event :: rest) :
    Ledger library session
      ({ state with handed := state.handed ++ [(push.receipt, event)] }.setSlot processor
        (.busy push (.calling rest)))
      (Function.update place push.receipt (.held processor)) := by
  obtain ⟨hplace, hack⟩ := h.slots processor push stage hslot
  have hbefore := h.accounted push hack
  rw [hplace] at hbefore
  obtain ⟨other, hother, hevents⟩ := hbefore
  obtain rfl : other = stage := by
    rw [hslot] at hother
    injection hother with _ hstage
    exact hstage.symm
  refine putSlot _ h hack (.inr hplace) ?_ ?_ ?_ ?_
  · intro other stage hsame
    rw [hslot] at hsame
    cases hsame
    rfl
  · intro other stage hsame
    cases hsame
    exact ⟨rfl, rfl⟩
  · intro receipt hne
    simp [PushState.handedOf, List.filterMap_append, hne.symm]
  · refine ⟨.calling rest, Function.update_self _ _ _, ?_⟩
    calc _ = (state.handedOf push.receipt ++ [event]) ++ rest := by
          simp [PushState.handedOf, PushState.setSlot, Stage.outstanding, List.filterMap_append]
      _ = state.handedOf push.receipt ++ event :: rest := by simp
      _ = entryEvents library session push.frame := by rw [← hnext, hevents]

theorem dropOldest {rest : List Push} (h : Ledger library session state place)
    (hqueue : state.queue = push :: rest) :
    Ledger library session
      { state with
        queue := rest
        dropped := state.dropped + 1
        counted := state.counted ++ [push.receipt] }
      (Function.update place push.receipt .counted) := by
  have hack := (h.queue push (by simp [hqueue])).2
  have hcounted := (h.pop hqueue).countDropped (Function.update_self _ _ _) hack
  rwa [Function.update_idem] at hcounted

end Ledger

variable (library session) in
/-- Every acknowledged frame is where it can stay between two steps. -/
def Books (state : PushState) : Prop :=
  ∃ place, Ledger library session state place ∧ ∀ receipt, place receipt ≠ .carried

variable (library session) in
def Carrying (state : PushState) (push : Push) : Prop :=
  ∃ place, Ledger library session state place ∧ state.acknowledges push ∧
    place push.receipt = .carried ∧
    ∀ receipt, receipt ≠ push.receipt → place receipt ≠ .carried

theorem update_ne_carried {receipt : ℕ} {target : Place}
    (hothers : ∀ other, other ≠ receipt → place other ≠ .carried) (htarget : target ≠ .carried)
    (other : ℕ) : Function.update place receipt target other ≠ .carried := by
  by_cases heq : other = receipt
  · rwa [heq, Function.update_self]
  · rw [Function.update_of_ne heq]
    exact hothers other heq

theorem Books.acknowledge (h : Books library session state) (frame : Members) :
    Carrying library session (state.acknowledge frame)
      { receipt := state.acknowledged.length, frame := frame } := by
  obtain ⟨place, hledger, hplaces⟩ := h
  refine ⟨_, hledger.acknowledge frame, ?_, Function.update_self _ _ _, fun receipt hne => ?_⟩
  · simp [PushState.acknowledges, PushState.acknowledge]
  · rw [Function.update_of_ne hne]
    exact hplaces receipt

theorem Carrying.forget (h : Carrying library session state push)
    (hevents : entryEvents library session push.frame = []) : Books library session state := by
  obtain ⟨place, hledger, hack, hcarried, hothers⟩ := h
  exact ⟨_, hledger.forget hcarried hack hevents, update_ne_carried hothers nofun⟩

theorem Carrying.enqueue (h : Carrying library session state push) :
    Books library session (state.enqueue push) := by
  obtain ⟨place, hledger, hack, hcarried, hothers⟩ := h
  unfold PushState.enqueue
  split
  · exact ⟨_, hledger.append hcarried hack, update_ne_carried hothers nofun⟩
  · cases hqueue : state.queue with
    | nil =>
        have happend := hledger.append hcarried hack
        rw [hqueue] at happend
        exact ⟨_, happend, update_ne_carried hothers nofun⟩
    | cons oldest rest =>
        have hne : push.receipt ≠ oldest.receipt :=
          ((hledger.carried_nowhere hcarried).1 oldest (by simp [hqueue])).symm
        have hdropped := hledger.dropOldest hqueue
        have hstill : Function.update place oldest.receipt .counted push.receipt = .carried := by
          rwa [Function.update_of_ne hne]
        refine ⟨_, hdropped.append hstill hack, update_ne_carried ?_ nofun⟩
        intro receipt hreceipt
        by_cases heq : receipt = oldest.receipt
        · rw [heq, Function.update_self]
          exact nofun
        · rw [Function.update_of_ne heq]
          exact hothers receipt hreceipt

theorem Books.pop {rest : List Push} (h : Books library session state)
    (hqueue : state.queue = push :: rest) :
    Carrying library session { state with queue := rest } push := by
  obtain ⟨place, hledger, hplaces⟩ := h
  refine ⟨_, hledger.pop hqueue, (hledger.queue push (by simp [hqueue])).2,
    Function.update_self _ _ _, fun receipt hne => ?_⟩
  rw [Function.update_of_ne hne]
  exact hplaces receipt

variable {processor : Processor}

theorem Books.setSlot {slot : Slot} (h : Books library session state)
    (hold : ∀ push stage, state.slot processor ≠ .busy push stage)
    (hnew : ∀ push stage, slot ≠ .busy push stage) :
    Books library session (state.setSlot processor slot) := by
  obtain ⟨place, hledger, hplaces⟩ := h
  exact ⟨place, hledger.setSlot hold hnew, hplaces⟩

theorem Books.release {stage : Stage} {slot : Slot} (h : Books library session state)
    (hslot : state.slot processor = .busy push stage)
    (hnothing : stage.outstanding library session push.frame = [])
    (hnew : ∀ other stage, slot ≠ .busy other stage) :
    Books library session (state.setSlot processor slot) := by
  obtain ⟨place, hledger, hplaces⟩ := h
  exact ⟨_, hledger.release hslot hnothing hnew,
    update_ne_carried (fun receipt _ => hplaces receipt) nofun⟩

/-- The loop goes on to its next event. -/
theorem Books.advance {stage : Stage} (h : Books library session state)
    (hslot : state.slot processor = .busy push stage) :
    Books library session
      (state.advance processor push (stage.outstanding library session push.frame)) := by
  cases hevents : stage.outstanding library session push.frame with
  | nil => exact h.release hslot hevents nofun
  | cons event rest =>
      obtain ⟨place, hledger, hplaces⟩ := h
      exact ⟨_, hledger.hand hslot hevents,
        update_ne_carried (fun receipt _ => hplaces receipt) nofun⟩

theorem entryEvents_eq_nil_of_summary {frame : Members} {error : PyError}
    (hsummary : pushFrameSummary frame = .error error) :
    entryEvents library session frame = [] := by
  have hslice : ¬isSliceable (syncEntries frame) = true := by
    rw [← returns_pushFrameSummary_iff, hsummary]
    exact not_returns_error error
  unfold entryEvents entriesOf
  cases hentries : syncEntries frame with
  | arr items | str text => simp [hentries, isSliceable] at hslice
  | obj members =>
      simp only [iterate, Except.toOption, Option.getD_some, List.filterMap_map]
      exact List.filterMap_eq_nil_iff.mpr fun member _ => rfl
  | null | bool _ | int _ | float _ => rfl

theorem Carrying.beginFrame (h : Carrying library session state push)
    (hidle : ∀ other stage, state.slot processor ≠ .busy other stage) :
    Books library session (state.beginFrame processor push) := by
  unfold PushState.beginFrame
  cases hsummary : pushFrameSummary push.frame with
  | error error =>
      exact (h.forget (entryEvents_eq_nil_of_summary hsummary)).setSlot hidle nofun
  | ok summary =>
      obtain ⟨place, hledger, hack, hcarried, hothers⟩ := h
      exact ⟨_, hledger.hold hcarried hack hidle, update_ne_carried hothers nofun⟩

end XianyuAdmin.Pushes
