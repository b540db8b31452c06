import XianyuAdmin.Pushes.PushLedger

/-!
# Acknowledged frames and their events

A connection that is lost takes the frames with it that are in its queue or with its tasks,
and `push_queue_dropped` does not count them.  Without such a loss every event of an
acknowledged frame is handed over once, unless the counter counts the frame.
-/

namespace XianyuAdmin.Pushes

open Transition

variable (library : PushLibrary) (session : PushSession)

/-- Every event of an acknowledged frame has been handed over once, or is still with the
queue or a task, unless `push_queue_dropped` counts the frame. -/
structure NothingLost (state : PushState) : Prop where
  count : state.dropped = state.counted.length
  countedOnce : state.counted.Nodup
  accounted : ∀ push, state.acknowledges push → ∃ place, place ≠ .carried ∧
    Accounted library session state push place
  settled : state.queue = [] → (∀ processor push stage, state.slot processor ≠ .busy push stage) →
    ∀ push, state.acknowledges push → push.receipt ∉ state.counted →
      state.handedOf push.receipt = entryEvents library session push.frame

def keepsEvents (state : PushState) : PushStep → Prop
  | .receives arrival =>
      ∀ frame, acknowledgedFrame library arrival = some frame →
        (arrival.ack = .sent ∧ resolvesPending library arrival.isPending frame = false ∧
          state.hasCallback = true) ∨ entryEvents library session frame = []
  | .parses processor =>
      ∀ push, state.slot processor = .busy push .parsing →
        (∀ entry ∈ entriesOf push.frame, EntryDefined library entry) ∨
          entryEvents library session push.frame = []
  | .ends processor =>
      ∀ push stage, state.slot processor = .busy push stage →
        stage.outstanding library session push.frame = []
  | .cleansUp => ∀ push ∈ state.queue, entryEvents library session push.frame = []
  | .connects | .takes _ | .returns _ | .pushTaskEnds => True

/-- Tasks that are not there hold nothing. -/
structure Tidy (state : PushState) : Prop where
  beyond : ∀ index, pushWorkerCount ≤ index → state.slot (.worker index) = .ended
  stopped : state.pushRunning = false → ∀ index, state.slot (.worker index) = .ended
  disconnected : state.connected = false →
    state.pushRunning = false ∧ state.slot .receiver = .ended

variable {library : PushLibrary} {session : PushSession} {state next : PushState}

variable {processor : Processor} {arrival : Arrival} {push : Push}

theorem Tidy.setSlot (h : Tidy state) {slot : Slot}
    (hlive : state.slot processor ≠ .ended ∨ slot = .ended) :
    Tidy (state.setSlot processor slot) := by
  have hended : ∀ other, state.slot other = .ended →
      (state.setSlot processor slot).slot other = .ended := by
    intro other hother
    by_cases heq : other = processor
    · subst heq
      exact (Function.update_self _ _ _).trans (hlive.resolve_left (not_not_intro hother))
    · exact (Function.update_of_ne heq _ _).trans hother
  exact
    { beyond := fun index hindex => hended _ (h.beyond index hindex)
      stopped := fun hstopped index => hended _ (h.stopped hstopped index)
      disconnected := fun hdisconnected =>
        ⟨(h.disconnected hdisconnected).1, hended _ (h.disconnected hdisconnected).2⟩ }

/-- The tasks are in order, whatever else the state says. -/
theorem Tidy.congr (h : Tidy state) (hslot : next.slot = state.slot)
    (hrunning : next.pushRunning = state.pushRunning) (hconnected : next.connected = state.connected) :
    Tidy next where
  beyond := hslot ▸ h.beyond
  stopped := hslot ▸ hrunning ▸ h.stopped
  disconnected := hslot ▸ hrunning ▸ hconnected ▸ h.disconnected

theorem Tidy.beginFrame (h : Tidy state) (push : Push) (hlive : state.slot processor ≠ .ended) :
    Tidy (state.beginFrame processor push) := by
  unfold PushState.beginFrame
  split
  · exact h.setSlot (.inr rfl)
  · exact h.setSlot (.inl hlive)

theorem Tidy.enqueue (h : Tidy state) (push : Push) : Tidy (state.enqueue push) := by
  unfold PushState.enqueue
  split
  · exact h.congr rfl rfl rfl
  · split <;> exact h.congr rfl rfl rfl

theorem Tidy.advance (h : Tidy state) (push : Push) (events : List ChatMessageEvent)
    (hlive : state.slot processor ≠ .ended) :
    Tidy (state.advance processor push events) := by
  cases events with
  | nil => exact h.setSlot (.inl hlive)
  | cons event rest =>
      have hhanded : Tidy { state with handed := state.handed ++ [(push.receipt, event)] } :=
        h.congr rfl rfl rfl
      exact hhanded.setSlot (.inl hlive)

variable (library session) in
/-- What every step that keeps the events preserves. -/
structure Kept (state : PushState) : Prop where
  tidy : Tidy state
  books : Books library session state

theorem Kept.nothingLost (h : Kept library session state) :
    NothingLost library session state := by
  obtain ⟨place, hledger, hplaces⟩ := h.books
  refine ⟨hledger.count, hledger.countedOnce,
    fun push hpush => ⟨_, hplaces push.receipt, hledger.accounted push hpush⟩, ?_⟩
  intro hqueue hslots push hpush hcounted
  have haccounted := hledger.accounted push hpush
  cases hplace : place push.receipt with
  | queued =>
      rw [hplace, Accounted, hqueue] at haccounted
      exact absurd haccounted.1 List.not_mem_nil
  | held processor =>
      rw [hplace] at haccounted
      obtain ⟨stage, hslot, -⟩ := haccounted
      exact absurd hslot (hslots processor push stage)
  | counted =>
      rw [hplace] at haccounted
      exact absurd haccounted.1 hcounted
  | carried => exact absurd hplace (hplaces push.receipt)
  | done =>
      rw [hplace] at haccounted
      exact haccounted

theorem handleRawMessage_of_none (state : PushState)
    (hnone : acknowledgedFrame library arrival = none) :
    handleRawMessage library (state.receiverOf arrival) arrival.raw arrival.ack.result =
        .ok .ignored ∨
      ∃ error, handleRawMessage library (state.receiverOf arrival) arrival.raw
        arrival.ack.result = .error error := by
  unfold acknowledgedFrame at hnone
  unfold handleRawMessage
  cases hloads : library.loads arrival.raw with
  | error error => exact .inl rfl
  | ok frame =>
      rw [hloads] at hnone
      simp only [PushState.receiverOf]
      cases hack : ackFrame arrival.generatedMid frame with
      | error error => exact .inr ⟨_, rfl⟩
      | ok acknowledgement =>
          simp only [hack] at hnone
          cases hsent : arrival.ack with
          | sent => simp [hsent, AckEnd.isTransmitted] at hnone
          | interrupted interruption transmitted => exact .inr ⟨_, rfl⟩

theorem handleRawMessage_of_some (state : PushState) {frame : Members}
    (hsome : acknowledgedFrame library arrival = some frame) :
    (arrival.ack = .sent ∧
        handleRawMessage library (state.receiverOf arrival) arrival.raw arrival.ack.result =
          .ok (dispatchFrame library (state.receiverOf arrival) frame)) ∨
      (arrival.ack ≠ .sent ∧
        ∃ error, handleRawMessage library (state.receiverOf arrival) arrival.raw
          arrival.ack.result = .error error) := by
  unfold acknowledgedFrame at hsome
  unfold handleRawMessage
  cases hloads : library.loads arrival.raw with
  | error error =>
      rw [hloads] at hsome
      cases hsome
  | ok loaded =>
      rw [hloads] at hsome
      simp only [PushState.receiverOf]
      cases hack : ackFrame arrival.generatedMid loaded with
      | error error =>
          simp only [hack] at hsome
          cases hsome
      | ok acknowledgement =>
          simp only [hack] at hsome
          cases hsent : arrival.ack with
          | sent =>
              simp only [hsent, AckEnd.isTransmitted, if_true, Option.some.injEq] at hsome
              subst hsome
              exact .inl ⟨rfl, rfl⟩
          | interrupted interruption transmitted => exact .inr ⟨nofun, _, rfl⟩

theorem Tidy.dispatch (htidy : Tidy next) (hcarrying : Carrying library session next push)
    (hslot : next.slot .receiver = .waiting)
    (hkeeps : (arrival.ack = .sent ∧ resolvesPending library arrival.isPending push.frame = false ∧
      state.hasCallback = true) ∨ entryEvents library session push.frame = []) :
    Kept library session
      (next.dispatch push.receipt
        (dispatchFrame library (state.receiverOf arrival) push.frame)) := by
  have hidle : ∀ other stage, next.slot .receiver ≠ .busy other stage := by
    rw [hslot]
    exact nofun
  have hlive : next.slot .receiver ≠ .ended := by
    rw [hslot]
    exact nofun
  simp only [PushState.dispatch, dispatchFrame, PushState.receiverOf]
  by_cases hresolves : resolvesPending library arrival.isPending push.frame = true
  · have hevents := hkeeps.resolve_left fun hall => absurd hresolves (by simp [hall.2.1])
    simp only [hresolves, if_true]
    exact ⟨htidy, hcarrying.forget hevents⟩
  · by_cases hcallback : state.hasCallback = true
    · by_cases hrunning : state.pushRunning = true
      · simp only [hresolves, hcallback, hrunning, if_true, Bool.not_true, Bool.false_eq_true,
          if_false]
        exact ⟨htidy.enqueue push, hcarrying.enqueue⟩
      · simp only [hresolves, hcallback, hrunning, Bool.not_true, Bool.false_eq_true, if_false]
        exact ⟨htidy.beginFrame push hlive, hcarrying.beginFrame hidle⟩
    · have hevents := hkeeps.resolve_left fun hall => hcallback hall.2.2
      simp only [hresolves, hcallback, Bool.not_false, Bool.false_eq_true, if_true, if_false]
      exact ⟨htidy, hcarrying.forget hevents⟩

theorem Kept.receive (h : Kept library session state) (hslot : state.slot .receiver = .waiting)
    (hkeeps : keepsEvents library session state (.receives arrival)) :
    Kept library session (state.receive library arrival) := by
  have hidle : ∀ push stage, state.slot .receiver ≠ .busy push stage := by
    rw [hslot]
    exact nofun
  unfold PushState.receive
  cases hacknowledged : acknowledgedFrame library arrival with
  | none =>
      rcases handleRawMessage_of_none state hacknowledged with hhandled | ⟨error, herror⟩
      · rw [hhandled]
        exact h
      · rw [herror]
        exact ⟨h.tidy.setSlot (.inr rfl), h.books.setSlot hidle nofun⟩
  | some frame =>
      have htidy : Tidy (state.acknowledge frame) := h.tidy.congr rfl rfl rfl
      have hcarrying := h.books.acknowledge frame
      have hkeeps := hkeeps frame hacknowledged
      rcases handleRawMessage_of_some state hacknowledged with
        ⟨hsent, hhandled⟩ | ⟨hsent, error, herror⟩
      · rw [hhandled]
        exact htidy.dispatch hcarrying hslot hkeeps
      · have hevents := hkeeps.resolve_left fun hall => hsent hall.1
        rw [herror]
        exact ⟨htidy.setSlot (.inr rfl), (hcarrying.forget hevents).setSlot hidle nofun⟩

theorem Kept.parse (h : Kept library session state)
    (hslot : state.slot processor = .busy push .parsing)
    (hkeeps : keepsEvents library session state (.parses processor)) :
    Kept library session (state.parse library session processor push) := by
  have hlive : state.slot processor ≠ .ended := by
    rw [hslot]
    exact fun hended => by cases hended
  unfold PushState.parse
  cases hparse : parseChatEvents library session push.frame with
  | error error =>
      have hevents : entryEvents library session push.frame = [] := by
        refine (hkeeps push hslot).elim (fun hdefined => ?_) id
        cases hentries : iterate (syncEntries push.frame) with
        | error raised => simp [entryEvents, entriesOf, hentries, Except.toOption]
        | ok entries =>
            have hiterable := (returns_iterate_iff _).mp ⟨entries, hentries⟩
            have hreturns := parseChatEvents_eq_ok_iff.mpr
              ⟨hiterable, hdefined, (rfl : entryEvents library session push.frame = _)⟩
            rw [hparse] at hreturns
            cases hreturns
      exact ⟨h.tidy.setSlot (.inr rfl), h.books.release hslot hevents fun _ _ hidle => by cases hidle⟩
  | ok events =>
      obtain ⟨-, -, rfl⟩ := parseChatEvents_eq_ok_iff.mp hparse
      exact ⟨h.tidy.advance push _ hlive, h.books.advance hslot⟩

theorem Kept.takes (h : Kept library session state) {index : ℕ} {rest : List Push}
    (hslot : state.slot (.worker index) = .waiting) (hqueue : state.queue = push :: rest) :
    Kept library session ({ state with queue := rest }.beginFrame (.worker index) push) := by
  have htidy : Tidy { state with queue := rest } := h.tidy.congr rfl rfl rfl
  refine ⟨htidy.beginFrame push ?_, (h.books.pop hqueue).beginFrame ?_⟩
  · exact fun hended => absurd (hslot.symm.trans hended) nofun
  · exact fun other stage hbusy => absurd (hslot.symm.trans hbusy) nofun

/-- A task ends that has nothing to hand over. -/
theorem Kept.ends (h : Kept library session state)
    (hkeeps : keepsEvents library session state (.ends processor)) :
    Kept library session (state.setSlot processor .ended) := by
  refine ⟨h.tidy.setSlot (.inr rfl), ?_⟩
  cases hslot : state.slot processor with
  | busy push stage => exact h.books.release hslot (hkeeps push stage hslot) nofun
  | waiting | ended =>
      refine h.books.setSlot (fun push stage hbusy => ?_) nofun
      rw [hslot] at hbusy
      cases hbusy

theorem Books.emptyQueue {queue : List Push} (h : Books library session state)
    (hqueue : state.queue = queue)
    (hevents : ∀ push ∈ queue, entryEvents library session push.frame = []) :
    Books library session { state with queue := [] } := by
  induction queue generalizing state with
  | nil =>
      rw [← hqueue]
      exact h
  | cons push rest ih =>
      have hfirst := hevents push List.mem_cons_self
      have hrest : Books library session { state with queue := rest } :=
        (h.pop hqueue).forget hfirst
      have hempty := ih hrest rfl fun other hother => hevents other (List.mem_cons_of_mem _ hother)
      exact hempty

theorem Kept.connects (h : Kept library session state) (hconnected : state.connected = false) :
    Kept library session
      { state with connected := true, pushRunning := true, slot := PushState.freshSlot } := by
  obtain ⟨hstopped, hreceiver⟩ := h.tidy.disconnected hconnected
  have hended : ∀ processor, state.slot processor = .ended := fun processor => by
    cases processor with
    | worker index => exact h.tidy.stopped hstopped index
    | receiver => exact hreceiver
  have hfresh : ∀ processor push stage, PushState.freshSlot processor ≠ .busy push stage := by
    intro processor push stage
    cases processor with
    | worker index =>
        by_cases hindex : index < pushWorkerCount <;> simp [PushState.freshSlot, hindex]
    | receiver => simp [PushState.freshSlot]
  refine ⟨⟨fun index hindex => if_neg (by omega), nofun, nofun⟩, ?_⟩
  obtain ⟨place, hledger, hplaces⟩ := h.books
  refine ⟨place, hledger.slots_congr true true fun processor push stage => ?_, hplaces⟩
  rw [hended processor]
  exact iff_of_false (hfresh processor push stage) nofun

theorem Kept.pushTaskEnds (h : Kept library session state)
    (hended : ∀ index, index < pushWorkerCount → state.slot (.worker index) = .ended) :
    Kept library session { state with pushRunning := false } := by
  have hall : ∀ index, state.slot (.worker index) = .ended := fun index => by
    rcases Nat.lt_or_ge index pushWorkerCount with hlt | hge
    · exact hended index hlt
    · exact h.tidy.beyond index hge
  obtain ⟨place, hledger, hplaces⟩ := h.books
  exact
    ⟨⟨h.tidy.beyond, fun _ => hall, fun hconnected => ⟨rfl, (h.tidy.disconnected hconnected).2⟩⟩,
      place, hledger.slots_congr state.connected false fun _ _ _ => Iff.rfl, hplaces⟩

theorem Kept.cleansUp (h : Kept library session state) (hstopped : state.pushRunning = false)
    (hreceiver : state.slot .receiver = .ended)
    (hkeeps : keepsEvents library session state .cleansUp) :
    Kept library session { state with connected := false, queue := [] } := by
  obtain ⟨place, hledger, hplaces⟩ := h.books.emptyQueue rfl hkeeps
  exact
    ⟨⟨h.tidy.beyond, h.tidy.stopped, fun _ => ⟨hstopped, hreceiver⟩⟩,
      place, hledger.slots_congr false state.pushRunning fun _ _ _ => Iff.rfl, hplaces⟩

theorem kept_step {step : PushStep} (h : Kept library session state)
    (hstep : restrict (pushStep library session) (keepsEvents library session) state step next) :
    Kept library session next := by
  obtain ⟨hkeeps, happly⟩ := hstep
  cases step with
  | connects =>
      simp only [pushStep, ofPartial, PushState.apply] at happly
      split_ifs at happly with hconnected
      cases happly
      exact h.connects (by simpa using hconnected)
  | receives arrival =>
      simp only [pushStep, ofPartial, PushState.apply] at happly
      split at happly
      · rename_i hslot
        cases happly
        exact h.receive hslot hkeeps
      · cases happly
  | takes index =>
      simp only [pushStep, ofPartial, PushState.apply] at happly
      split at happly
      · rename_i push rest hslot hqueue
        cases happly
        exact h.takes hslot hqueue
      · cases happly
  | parses processor =>
      simp only [pushStep, ofPartial, PushState.apply] at happly
      split at happly
      · rename_i push hslot
        cases happly
        exact h.parse hslot hkeeps
      · cases happly
  | returns processor =>
      simp only [pushStep, ofPartial, PushState.apply] at happly
      split at happly
      · rename_i push rest hslot
        cases happly
        have hlive : state.slot processor ≠ .ended := by
          rw [hslot]
          exact fun hended => by cases hended
        exact ⟨h.tidy.advance push rest hlive, h.books.advance hslot⟩
      · cases happly
  | ends processor =>
      cases happly
      exact h.ends hkeeps
  | pushTaskEnds =>
      simp only [pushStep, ofPartial, PushState.apply] at happly
      split_ifs at happly with hended
      cases happly
      refine h.pushTaskEnds fun index hindex => ?_
      have hslot := List.all_eq_true.mp hended index (List.mem_range.mpr hindex)
      cases hworker : state.slot (.worker index) with
      | ended => rfl
      | waiting => simp [hworker] at hslot
      | busy push stage => simp [hworker] at hslot
  | cleansUp =>
      simp only [pushStep, ofPartial, PushState.apply] at happly
      split at happly
      · rename_i hconnected hstopped hreceiver
        cases happly
        exact h.cleansUp hstopped hreceiver hkeeps
      · cases happly

theorem kept_start (hasCallback : Bool) :
    Kept library session { hasCallback := hasCallback } where
  tidy := ⟨fun _ _ => rfl, fun _ _ => rfl, fun _ => ⟨rfl, rfl⟩⟩
  books := by
    refine ⟨fun _ => .done, ?_, fun _ => nofun⟩
    exact
      { queue := nofun
        slots := nofun
        counted := nofun
        queueOnce := List.nodup_nil
        countedOnce := List.nodup_nil
        count := rfl
        unknown := fun _ _ => rfl
        accounted := fun push hpush => by cases hpush }

/-- As long as no task is ended and no queue emptied with frames that have events, and no
acknowledged frame with events goes past the queue, every event of an acknowledged frame
is handed over once, unless the counter counts the frame. -/
theorem nothing_lost_of_keepsEvents (hasCallback : Bool) (steps : List PushStep)
    (final : PushState)
    (hrun : Run (restrict (pushStep library session) (keepsEvents library session))
      { hasCallback := hasCallback } steps final) :
    NothingLost library session final :=
  (hrun.invariant (Kept library session) (fun _ _ _ h hstep => kept_step h hstep)
    (kept_start hasCallback)).nothingLost

def greetingText : String :=
  "\x7b\"body\":\x7b\"syncPushPackage\":\x7b\"data\":[" ++
    "\x7b\"data\":\x7b\"1\":\x7b\"2\":\"chat\",\"10\":\x7b\"reminderContent\":\"hi\"" ++
    "\x7d\x7d\x7d\x7d]\x7d\x7d\x7d"

def greetingFrame : Members :=
  [("body", .obj [("syncPushPackage", .obj [("data", .arr [greetingEntry])])])]

def greetingLibrary : PushLibrary :=
  { nanLibrary with
    loads := fun text =>
      if text = greetingText then .ok (.obj greetingFrame) else .error .jsonDecodeError }

def greetingArrival : Arrival where
  raw := greetingText
  generatedMid := "1 0"
  isPending _ := false
  ack := .sent

def greetingPush : Push where
  receipt := 0
  frame := greetingFrame

def greeted : PushState where
  hasCallback := true
  connected := true
  pushRunning := true
  slot := PushState.freshSlot
  queue := [greetingPush]
  acknowledged := [greetingFrame]

theorem acknowledgedFrame_greeting :
    acknowledgedFrame greetingLibrary greetingArrival = some greetingFrame := by
  simp only [acknowledgedFrame, greetingLibrary, greetingArrival, if_true]
  rfl

theorem run_greeted :
    Run (restrict (pushStep greetingLibrary nanSession) (keepsEvents greetingLibrary nanSession))
      { hasCallback := true } [.connects, .receives greetingArrival] greeted := by
  refine .cons ⟨trivial, rfl⟩ (.cons ⟨?_, ?_⟩ (.nil _))
  · intro frame hframe
    rw [acknowledgedFrame_greeting] at hframe
    cases hframe
    exact .inl ⟨rfl, rfl, rfl⟩
  · simp only [pushStep, ofPartial, PushState.apply, PushState.freshSlot, PushState.receive,
      acknowledgedFrame_greeting, handleRawMessage]
    simp only [greetingLibrary, greetingArrival, if_true]
    rfl

theorem returns_parseEntry_greeting :
    Returns (parseEntry greetingLibrary nanSession greetingEntry) :=
  ⟨_, rfl⟩

/-- A worker hands over the greeting. -/
theorem greeting_handed_over :
    ∃ steps final,
      Run (restrict (pushStep greetingLibrary nanSession) (keepsEvents greetingLibrary nanSession))
        { hasCallback := true } steps final ∧
      NothingLost greetingLibrary nanSession final ∧ final.handed.length = 1 := by
  have hrun : ∃ final, Run (restrict (pushStep greetingLibrary nanSession)
      (keepsEvents greetingLibrary nanSession)) greeted
      [.takes 0, .parses (.worker 0), .returns (.worker 0)] final ∧ final.handed.length = 1 := by
    refine ⟨_, .cons ⟨trivial, rfl⟩ (.cons ⟨?_, rfl⟩ (.cons ⟨trivial, rfl⟩ (.nil _))), rfl⟩
    intro push hslot
    left
    obtain rfl : greetingPush = push := by
      injection hslot with hpush
    intro entry hentry
    obtain rfl : entry = greetingEntry := List.mem_singleton.mp hentry
    exact (returns_parseEntry_iff _).mp returns_parseEntry_greeting
  obtain ⟨final, hrest, hhanded⟩ := hrun
  have hall := run_append_iff.mpr ⟨greeted, run_greeted, hrest⟩
  exact ⟨_, final, hall, nothing_lost_of_keepsEvents true _ final hall, hhanded⟩

/-- The connection is lost while a worker parses the greeting: it was acknowledged, and no
callback gets it, and no counter counts it. -/
theorem lost_connection_loses_greeting :
    ∃ steps final, Run (pushStep greetingLibrary nanSession) { hasCallback := true } steps final ∧
      final.acknowledged = [greetingFrame] ∧
      (entryEvents greetingLibrary nanSession greetingFrame).map (·.content) = ["hi"] ∧
      final.queue = [] ∧ (∀ processor, final.slot processor = .ended) ∧
      final.handed = [] ∧ final.dropped = 0 ∧
      ¬NothingLost greetingLibrary nanSession final := by
  have hrun : ∃ final, Run (pushStep greetingLibrary nanSession) greeted
      [.takes 0, .ends .receiver, .ends (.worker 0), .ends (.worker 1), .ends (.worker 2),
        .ends (.worker 3), .pushTaskEnds, .cleansUp] final ∧
      final.acknowledged = [greetingFrame] ∧ final.queue = [] ∧
      (∀ processor, final.slot processor = .ended) ∧ final.handed = [] ∧ final.counted = [] ∧
      final.dropped = 0 := by
    refine ⟨_, run_ofPartial_iff.mpr rfl, rfl, rfl, fun processor => ?_, rfl, rfl, rfl⟩
    cases processor with
    | receiver => rfl
    | worker index => rcases index with _ | _ | _ | _ | index <;> rfl
  obtain ⟨final, hrest, hacknowledged, hqueue, hslots, hhanded, hcounted, hdropped⟩ := hrun
  have hall := run_append_iff.mpr ⟨greeted, run_greeted.forget, hrest⟩
  have hevents : (entryEvents greetingLibrary nanSession greetingFrame).map (·.content) = ["hi"] :=
    rfl
  refine ⟨_, final, hall, hacknowledged, hevents, hqueue, hslots, hhanded, hdropped, fun hkept => ?_⟩
  have hpush : final.acknowledges greetingPush := by
    rw [PushState.acknowledges, hacknowledged]
    rfl
  have hsettled := hkept.settled hqueue
    (fun processor push stage hbusy => by cases (hslots processor).symm.trans hbusy)
    greetingPush hpush (by simp [hcounted])
  have hnone : final.handedOf greetingPush.receipt = [] := by
    simp [PushState.handedOf, hhanded]
  rw [hnone] at hsettled
  rw [show greetingPush.frame = greetingFrame from rfl] at hsettled
  rw [← hsettled] at hevents
  cases hevents

end XianyuAdmin.Pushes
