import XianyuAdmin.Realtime.RealtimeBroker

/-!
# Realtime events come in order, or a resync is announced

A queue that is full is emptied when the next event comes, and a marker takes the place of what
was in it and of that event.  What a consumer takes out is therefore an account of the events
published to it, in which every run that is missing is announced where it is missing.
-/

namespace XianyuAdmin.Realtime

open AnnouncedGaps Transition

variable {Event : Type}

def offer (event : Event) (waiting : EventQueue Event) : EventQueue Event :=
  if isFull waiting then [.gap] else waiting ++ [.event event]

theorem length_offer_le (event : Event) (waiting : EventQueue Event) :
    (offer event waiting).length ≤ maxsize := by
  unfold offer
  split
  · rw [List.length_singleton, maxsize]
    omega
  · rename_i hroom
    simp only [isFull, decide_eq_true_eq, not_le] at hroom
    simpa only [List.length_append, List.length_singleton] using Nat.succ_le_of_lt hroom

theorem delivers_offer {events : List Event} {taken : List (Item Event)}
    {waiting : EventQueue Event} (h : Delivers events (taken ++ waiting)) (event : Event) :
    Delivers (events ++ [event]) (taken ++ offer event waiting) := by
  unfold offer
  split
  · exact h.overflow event
  · rw [← List.append_assoc]
    exact h.deliver event

theorem exists_deliver (event : Event) (broker : Broker Event) (queue : ℕ) :
    ∃ next, broker.deliver event queue = .ok next ∧ next.created = broker.created ∧
      next.subscribers = broker.subscribers ∧
      next.queues = Function.update broker.queues queue (offer event (broker.queues queue)) := by
  by_cases hfull : isFull (broker.queues queue) = true
  · refine ⟨{ broker with
      queues := Function.update broker.queues queue [.gap]
      resyncRequired := broker.resyncRequired + 1 }, ?_, rfl, rfl, ?_⟩
    · simp only [Broker.deliver, hfull, if_true, putNowait_gap_drain, Except.map]
    · simp only [offer, hfull, if_true]
  · have hroom := Bool.eq_false_iff.mpr hfull
    refine ⟨{ broker with
      queues :=
        Function.update broker.queues queue (broker.queues queue ++ [.event event]) },
      ?_, rfl, rfl, ?_⟩
    · simp only [Broker.deliver, hroom, Bool.false_eq_true, if_false, putNowait_of_room hroom,
        Except.map]
    · simp only [offer, hroom, Bool.false_eq_true, if_false]

theorem exists_publish (event : Event) {subscribers : List ℕ} (hnodup : subscribers.Nodup)
    (broker : Broker Event) :
    ∃ next, broker.publish event subscribers = .ok next ∧ next.created = broker.created ∧
      next.subscribers = broker.subscribers ∧
      next.queues = fun queue =>
        if queue ∈ subscribers then offer event (broker.queues queue) else broker.queues queue := by
  suffices hloop : ∀ start : Broker Event, ∃ next,
      subscribers.foldlM (Broker.deliver event) start = .ok next ∧
        next.created = start.created ∧ next.subscribers = start.subscribers ∧
        next.queues = fun queue =>
          if queue ∈ subscribers then offer event (start.queues queue) else start.queues queue by
    exact hloop { broker with published := broker.published + 1 }
  induction subscribers with
  | nil => exact fun start => ⟨start, rfl, rfl, rfl, by simp⟩
  | cons queue subscribers ih =>
      intro start
      obtain ⟨hqueue, hrest⟩ := List.nodup_cons.mp hnodup
      obtain ⟨middle, hdeliver, hcreated, hsubscribers, hqueues⟩ :=
        exists_deliver event start queue
      obtain ⟨next, hloop, hnextCreated, hnextSubscribers, hnextQueues⟩ := ih hrest middle
      refine ⟨next, ?_, hnextCreated.trans hcreated, hnextSubscribers.trans hsubscribers, ?_⟩
      · rw [List.foldlM_cons, hdeliver]
        exact hloop
      · rw [hnextQueues]
        funext other
        by_cases hother : other = queue
        · subst hother
          simp [hqueue, hqueues]
        · simp [hother, hqueues]

structure Orderly (broker : Broker Event) : Prop where
  nodup : broker.subscribers.Nodup
  created : ∀ queue ∈ broker.subscribers, queue < broker.created
  bounded : ∀ queue, (broker.queues queue).length ≤ maxsize

theorem orderly_new : Orderly (Broker.new Event) where
  nodup := List.nodup_nil
  created := by simp [Broker.new]
  bounded := by simp [Broker.new]

theorem Orderly.exists_publish {broker : Broker Event} (horderly : Orderly broker)
    (event : Event) {subscribers : List ℕ} (horder : subscribers.Perm broker.subscribers) :
    ∃ next, broker.publish event subscribers = .ok next ∧ next.created = broker.created ∧
      next.subscribers = broker.subscribers ∧
      next.queues = fun queue =>
        if queue ∈ broker.subscribers then offer event (broker.queues queue)
        else broker.queues queue := by
  simpa only [horder.mem_iff] using
    Realtime.exists_publish event (horder.nodup_iff.mpr horderly.nodup) broker

theorem Orderly.step {broker next : Broker Event} {act : Act Event} (horderly : Orderly broker)
    (hstep : Step broker act next) : Orderly next := by
  cases hstep with
  | subscribe =>
      refine ⟨?_, ?_, horderly.bounded⟩
      · refine List.nodup_append.mpr ⟨horderly.nodup, List.nodup_singleton _, ?_⟩
        intro queue hqueue other hother
        rw [List.mem_singleton.mp hother]
        exact (horderly.created queue hqueue).ne
      · intro queue hqueue
        rcases List.mem_append.mp hqueue with hold | hnew
        · exact Nat.lt_succ_of_lt (horderly.created queue hold)
        · rw [List.mem_singleton.mp hnew]
          exact Nat.lt_succ_self _
  | unsubscribe queue =>
      exact ⟨horderly.nodup.erase queue,
        fun other hother => horderly.created other (List.mem_of_mem_erase hother),
        horderly.bounded⟩
  | publish horder hpublish =>
      obtain ⟨after, hafter, hcreated, hsubscribers, hqueues⟩ :=
        horderly.exists_publish _ horder
      cases hpublish.symm.trans hafter
      refine ⟨hsubscribers ▸ horderly.nodup, ?_, fun queue => ?_⟩
      · rw [hsubscribers, hcreated]
        exact horderly.created
      · rw [hqueues]
        dsimp only
        split
        · exact length_offer_le _ _
        · exact horderly.bounded queue
  | @take queue item rest hget =>
      refine ⟨horderly.nodup, horderly.created, fun other => ?_⟩
      by_cases hother : other = queue
      · subst hother
        have hlength := horderly.bounded other
        rw [getNowait_eq_ok_iff.mp hget, List.length_cons] at hlength
        simpa only [Function.update_self] using (Nat.le_succ _).trans hlength
      · simpa only [Function.update_of_ne hother] using horderly.bounded other

theorem delivers_of_run {queue : ℕ} {start final : Broker Event} {acts : List (Act Event)}
    (hrun : Run Step start acts final) (horderly : Orderly start) {events : List Event}
    {taken : List (Item Event)} (h : Delivers events (taken ++ start.queues queue)) :
    Delivers (events ++ publishedTo queue (decide (queue ∈ start.subscribers)) acts)
      (taken ++ takenFrom queue acts ++ final.queues queue) := by
  induction hrun generalizing events taken with
  | nil => simpa only [publishedTo, takenFrom, List.append_nil] using h
  | @cons state next final act acts hstep hrest ih =>
      have hnext := horderly.step hstep
      cases hstep with
      | subscribe =>
          have hsubscribed : decide (queue ∈ (Broker.subscribe state).subscribers) =
              (decide (queue ∈ state.subscribers) || decide (state.created = queue)) := by
            simp [Broker.subscribe, eq_comm]
          rw [publishedTo, takenFrom, ← hsubscribed]
          exact ih hnext h
      | unsubscribe other =>
          have hsubscribed : decide (queue ∈ (state.unsubscribe other).subscribers) =
              (decide (queue ∈ state.subscribers) && decide (other ≠ queue)) := by
            simp [Broker.unsubscribe, horderly.nodup.mem_erase_iff, eq_comm, Bool.and_comm]
          rw [publishedTo, takenFrom, ← hsubscribed]
          exact ih hnext h
      | @publish _ event _ horder hpublish =>
          obtain ⟨after, hafter, -, hsubscribers, hqueues⟩ :=
            horderly.exists_publish event horder
          cases hpublish.symm.trans hafter
          rw [publishedTo, takenFrom, ← hsubscribers]
          by_cases hqueue : queue ∈ next.subscribers
          · have hoffered := delivers_offer h event
            have hnextDelivers : Delivers (events ++ [event]) (taken ++ next.queues queue) := by
              simpa only [hqueues, ← hsubscribers, if_pos hqueue] using hoffered
            have hrestDelivers := ih hnext hnextDelivers
            simpa only [hqueue, decide_true, if_true, List.append_assoc,
              List.singleton_append] using hrestDelivers
          · simp only [hqueue, decide_false, Bool.false_eq_true, if_false] at ih ⊢
            exact ih hnext (by simpa only [hqueues, ← hsubscribers, if_neg hqueue] using h)
      | @take other item rest hget =>
          rw [publishedTo, takenFrom]
          by_cases hother : other = queue
          · subst hother
            rw [getNowait_eq_ok_iff.mp hget] at h
            have htaken : Delivers events
                (taken ++ [item] ++ Function.update state.queues other rest other) := by
              simpa only [Function.update_self, List.append_assoc, List.singleton_append] using h
            have hrestDelivers := ih hnext htaken
            simpa only [if_true, List.append_assoc, List.singleton_append] using hrestDelivers
          · rw [if_neg hother]
            exact ih hnext (by simpa only [Function.update_of_ne (Ne.symm hother)] using h)

theorem publishedTo_sublist (queue : ℕ) (subscribed : Bool) (acts : List (Act Event)) :
    (publishedTo queue subscribed acts).Sublist (publishedIn acts) := by
  induction acts generalizing subscribed with
  | nil => exact List.Sublist.refl []
  | cons act acts ih =>
      cases act with
      | publish event =>
          rw [publishedTo, publishedIn]
          split
          · exact (ih subscribed).cons_cons event
          · exact (ih subscribed).cons event
      | subscribe other => exact ih _
      | unsubscribe other => exact ih _
      | take other item => exact ih _

/-- Whatever the calls and the consumers do, `publish` returns, no queue holds more than its
capacity, every consumer gets events in the order of their publication, and what it gets, with
what waits in its queue, is what was published while its queue was subscribed, up to runs that
are announced. -/
theorem events_ordered_or_announced {acts : List (Act Event)} {broker : Broker Event}
    (hrun : Run Step (Broker.new Event) acts broker) :
    (∀ event subscribers, subscribers.Perm broker.subscribers →
      ∃ next, broker.publish event subscribers = .ok next) ∧
    ∀ queue, (broker.queues queue).length ≤ maxsize ∧
      (received (takenFrom queue acts)).Sublist (publishedIn acts) ∧
      Delivers (publishedTo queue false acts) (takenFrom queue acts ++ broker.queues queue) := by
  have horderly : Orderly broker :=
    hrun.invariant Orderly (fun _ _ _ horderly hstep => horderly.step hstep) orderly_new
  refine ⟨fun event subscribers horder => ?_, fun queue => ?_⟩
  · obtain ⟨next, hpublish, -⟩ := horderly.exists_publish event horder
    exact ⟨next, hpublish⟩
  · have hdelivers : Delivers (publishedTo queue false acts)
        (takenFrom queue acts ++ broker.queues queue) := by
      have hnone : Delivers [] ([] ++ (Broker.new Event).queues queue) := .nil
      simpa [Broker.new] using delivers_of_run hrun orderly_new hnone
    refine ⟨horderly.bounded queue, ?_, hdelivers⟩
    obtain ⟨before, after, hevents, htaken, -⟩ := hdelivers.exists_split
    have hfront : before.Sublist (publishedTo queue false acts) := by
      rw [hevents]
      exact List.sublist_append_left before after
    exact (htaken.received_sublist.trans hfront).trans (publishedTo_sublist queue false acts)

/-- A subscriber that gets what is published. -/
theorem events_ordered_or_announced_once :
    ∃ broker : Broker String,
      Run Step (Broker.new String)
        [.subscribe 0, .publish "message", .take 0 (.event "message")] broker ∧
      Delivers ["message"] ([.event "message"] ++ broker.queues 0) := by
  have hrun : Run Step (Broker.new String)
      [.subscribe 0, .publish "message", .take 0 (.event "message")] _ :=
    .cons (.subscribe _) (.cons (.publish (List.Perm.refl [0]) rfl) (.cons (.take rfl) (.nil _)))
  exact ⟨_, hrun, ((events_ordered_or_announced hrun).2 0).2.2⟩

end XianyuAdmin.Realtime
