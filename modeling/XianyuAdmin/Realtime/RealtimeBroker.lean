import XianyuAdmin.Core.AnnouncedGaps
import XianyuAdmin.Core.Transition

/-!
# The realtime broker

`RealtimeBroker.publish` hands an event to the bounded queue of every subscriber.  No method
awaits anything while it holds the lock, and `publish` awaits nothing after it: once a call has
the lock, it runs to its end in one step.  Consumers take from their queues between the calls.
-/

namespace XianyuAdmin.Realtime

open AnnouncedGaps

variable {Event : Type}

/-- What waits in an `asyncio.Queue`; a gap is `{"event": "resync_required"}`. -/
abbrev EventQueue (Event : Type) := List (Item Event)

def maxsize : ℕ := 200

inductive QueueError
  | queueFull
  | queueEmpty
  deriving DecidableEq, Repr

/-- `queue.full()` -/
def isFull (queue : EventQueue Event) : Bool :=
  maxsize ≤ queue.length

/-- `queue.put_nowait(item)` -/
def putNowait (item : Item Event) (queue : EventQueue Event) :
    Except QueueError (EventQueue Event) :=
  if isFull queue then .error .queueFull else .ok (queue ++ [item])

def getNowait : EventQueue Event → Except QueueError (Item Event × EventQueue Event)
  | [] => .error .queueEmpty
  | item :: rest => .ok (item, rest)

/-- `while not queue.empty(): queue.get_nowait()` -/
def drain : EventQueue Event → EventQueue Event
  | [] => []
  | _ :: rest => drain rest

@[simp]
theorem drain_eq_nil (queue : EventQueue Event) : drain queue = [] := by
  induction queue with
  | nil => rfl
  | cons item rest ih => exact ih

theorem getNowait_eq_ok_iff {queue rest : EventQueue Event} {item : Item Event} :
    getNowait queue = .ok (item, rest) ↔ queue = item :: rest := by
  cases queue with
  | nil => simp [getNowait]
  | cons head tail => simp [getNowait]

theorem putNowait_gap_drain (queue : EventQueue Event) :
    putNowait .gap (drain queue) = .ok [.gap] := by
  rw [drain_eq_nil]
  rfl

theorem putNowait_of_room {queue : EventQueue Event} (hroom : isFull queue = false)
    (item : Item Event) : putNowait item queue = .ok (queue ++ [item]) := by
  rw [putNowait, hroom]
  rfl

structure Broker (Event : Type) where
  created : ℕ := 0
  subscribers : List ℕ := []
  queues : ℕ → EventQueue Event := fun _ => []
  published : ℕ := 0
  resyncRequired : ℕ := 0

namespace Broker

/-- `RealtimeBroker()` -/
def new (Event : Type) : Broker Event := { }

/-- `subscribe`; the queue it returns is the one it creates. -/
def subscribe (broker : Broker Event) : Broker Event :=
  { broker with
    created := broker.created + 1
    subscribers := broker.subscribers ++ [broker.created] }

def unsubscribe (broker : Broker Event) (queue : ℕ) : Broker Event :=
  { broker with subscribers := broker.subscribers.erase queue }

/-- One turn of the loop of `publish`. -/
def deliver (event : Event) (broker : Broker Event) (queue : ℕ) :
    Except QueueError (Broker Event) :=
  let waiting := broker.queues queue
  if isFull waiting then
    (putNowait .gap (drain waiting)).map fun next =>
      { broker with
        queues := Function.update broker.queues queue next
        resyncRequired := broker.resyncRequired + 1 }
  else
    (putNowait (.event event) waiting).map fun next =>
      { broker with queues := Function.update broker.queues queue next }

/-- `publish`; `subscribers` is the tuple of the set, in the order in which the set is gone
through. -/
def publish (event : Event) (subscribers : List ℕ) (broker : Broker Event) :
    Except QueueError (Broker Event) :=
  subscribers.foldlM (deliver event) { broker with published := broker.published + 1 }

end Broker

inductive Act (Event : Type)
  | subscribe (queue : ℕ)
  | unsubscribe (queue : ℕ)
  | publish (event : Event)
  | take (queue : ℕ) (item : Item Event)

inductive Step : Broker Event → Act Event → Broker Event → Prop
  | subscribe (broker : Broker Event) :
      Step broker (.subscribe broker.created) broker.subscribe
  | unsubscribe (broker : Broker Event) (queue : ℕ) :
      Step broker (.unsubscribe queue) (broker.unsubscribe queue)
  | publish {broker next : Broker Event} {event : Event} {subscribers : List ℕ}
      (horder : subscribers.Perm broker.subscribers)
      (hpublish : broker.publish event subscribers = .ok next) :
      Step broker (.publish event) next
  | take {broker : Broker Event} {queue : ℕ} {item : Item Event} {rest : EventQueue Event}
      (hget : getNowait (broker.queues queue) = .ok (item, rest)) :
      Step broker (.take queue item)
        { broker with queues := Function.update broker.queues queue rest }

def publishedIn : List (Act Event) → List Event
  | [] => []
  | .publish event :: rest => event :: publishedIn rest
  | .subscribe _ :: rest | .unsubscribe _ :: rest | .take _ _ :: rest => publishedIn rest

def publishedTo (queue : ℕ) : Bool → List (Act Event) → List Event
  | _, [] => []
  | subscribed, .publish event :: rest =>
      if subscribed then event :: publishedTo queue subscribed rest
      else publishedTo queue subscribed rest
  | subscribed, .subscribe other :: rest =>
      publishedTo queue (subscribed || other = queue) rest
  | subscribed, .unsubscribe other :: rest =>
      publishedTo queue (subscribed && other ≠ queue) rest
  | subscribed, .take _ _ :: rest => publishedTo queue subscribed rest

def takenFrom (queue : ℕ) : List (Act Event) → List (Item Event)
  | [] => []
  | .take other item :: rest =>
      if other = queue then item :: takenFrom queue rest else takenFrom queue rest
  | .subscribe _ :: rest | .unsubscribe _ :: rest | .publish _ :: rest => takenFrom queue rest

end XianyuAdmin.Realtime
