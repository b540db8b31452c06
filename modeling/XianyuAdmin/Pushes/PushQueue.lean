import XianyuAdmin.Core.Transition
import XianyuAdmin.Pushes.PushFrames

/-!
# The push queue

The receiver of a connection acknowledges each frame and puts it into a bounded queue, from
which the workers of the push task take it.  A full queue gives up its oldest frame and
counts it.  When the connection is lost, the tasks are cancelled and the queue is emptied.
The steps are the parts between two awaits, of any task in any order.
-/

namespace XianyuAdmin.Pushes

open XianyuAdmin.Orders (Interruption)
open Transition

def pushQueueMaxSize : ℕ := 1000

def pushWorkerCount : ℕ := 4

structure Push where
  receipt : ℕ
  frame : Members

inductive Processor
  | worker (index : ℕ)
  | receiver
  deriving DecidableEq

/-- The await of `_process_push_frame`. -/
inductive Stage
  | parsing
  | calling (rest : List ChatMessageEvent)

/-- What a task does. -/
inductive Slot
  | waiting
  | busy (push : Push) (stage : Stage)
  | ended

structure PushState where
  hasCallback : Bool
  connected : Bool := false
  pushRunning : Bool := false
  slot : Processor → Slot := fun _ => .ended
  queue : List Push := []
  /-- `push_queue_dropped` -/
  dropped : ℕ := 0
  acknowledged : List Members := []
  /-- The receipts of the frames that `push_queue_dropped` counts. -/
  counted : List ℕ := []
  /-- The events that came to `on_message`, with the receipts of their frames. -/
  handed : List (ℕ × ChatMessageEvent) := []

namespace PushState

def setSlot (state : PushState) (processor : Processor) (slot : Slot) : PushState :=
  { state with slot := Function.update state.slot processor slot }

def acknowledge (state : PushState) (frame : Members) : PushState :=
  { state with acknowledged := state.acknowledged ++ [frame] }

/-- The events of one frame that came to `on_message`. -/
def handedOf (state : PushState) (receipt : ℕ) : List ChatMessageEvent :=
  state.handed.filterMap fun entry => if entry.1 = receipt then some entry.2 else none

/-- `put_nowait`, after `get_nowait` of a full queue. -/
def enqueue (state : PushState) (push : Push) : PushState :=
  if state.queue.length < pushQueueMaxSize then { state with queue := state.queue ++ [push] }
  else
    match state.queue with
    | [] => { state with queue := [push] }
    | oldest :: rest =>
        { state with
          queue := rest ++ [push]
          dropped := state.dropped + 1
          counted := state.counted ++ [oldest.receipt] }

/-- The beginning of `_process_push_frame`; an exception of the summary ends the task. -/
def beginFrame (state : PushState) (processor : Processor) (push : Push) : PushState :=
  match pushFrameSummary push.frame with
  | .error _ => state.setSlot processor .ended
  | .ok _ => state.setSlot processor (.busy push .parsing)

/-- The loop of `_process_push_frame` up to its next await. -/
def advance (state : PushState) (processor : Processor) (push : Push) :
    List ChatMessageEvent → PushState
  | [] => state.setSlot processor .waiting
  | event :: rest =>
      { state with handed := state.handed ++ [(push.receipt, event)] }.setSlot processor
        (.busy push (.calling rest))

end PushState

inductive AckEnd
  | sent
  /-- The platform has got it or not. -/
  | interrupted (interruption : Interruption) (transmitted : Bool)

def AckEnd.result : AckEnd → Except Interruption Unit
  | .sent => .ok ()
  | .interrupted interruption _ => .error interruption

def AckEnd.isTransmitted : AckEnd → Bool
  | .sent => true
  | .interrupted _ transmitted => transmitted

/-- A text from the socket. -/
structure Arrival where
  raw : String
  generatedMid : String
  isPending : String → Bool
  ack : AckEnd

inductive PushStep
  | connects
  | receives (arrival : Arrival)
  | takes (index : ℕ)
  | parses (processor : Processor)
  | returns (processor : Processor)
  /-- The task is cancelled, or its socket is closed. -/
  | ends (processor : Processor)
  | pushTaskEnds
  /-- The end of `_cleanup_connection`. -/
  | cleansUp

variable (library : PushLibrary) (session : PushSession)

def acknowledgedFrame (arrival : Arrival) : Option Members :=
  match library.loads arrival.raw with
  | .error _ => none
  | .ok frame =>
      match ackFrame arrival.generatedMid frame with
      | .error _ => none
      | .ok _ => if arrival.ack.isTransmitted then some frame.asObject else none

namespace PushState

def receiverOf (state : PushState) (arrival : Arrival) : Receiver where
  generatedMid := arrival.generatedMid
  isPending := arrival.isPending
  hasCallback := state.hasCallback
  hasWorkers := state.pushRunning

/-- What becomes of a frame that has been acknowledged. -/
def dispatch (state : PushState) (receipt : ℕ) : Handled → PushState
  | .ignored | .resolved => state
  | .queues frame => state.enqueue { receipt := receipt, frame := frame }
  | .processes frame => state.beginFrame .receiver { receipt := receipt, frame := frame }

/-- `_handle_raw_message` -/
def receive (state : PushState) (arrival : Arrival) : PushState :=
  let noted := (acknowledgedFrame library arrival).elim state state.acknowledge
  match handleRawMessage library (state.receiverOf arrival) arrival.raw arrival.ack.result with
  | .error _ => noted.setSlot .receiver .ended
  | .ok handled => noted.dispatch state.acknowledged.length handled

/-- The thread returns the events, or its exception ends the task. -/
def parse (state : PushState) (processor : Processor) (push : Push) : PushState :=
  match parseChatEvents library session push.frame with
  | .error _ => state.setSlot processor .ended
  | .ok events => state.advance processor push events

def freshSlot : Processor → Slot
  | .worker index => if index < pushWorkerCount then .waiting else .ended
  | .receiver => .waiting

def apply (state : PushState) : PushStep → Option PushState
  | .connects =>
      if state.connected then none
      else some { state with connected := true, pushRunning := true, slot := freshSlot }
  | .receives arrival =>
      match state.slot .receiver with
      | .waiting => some (state.receive library arrival)
      | _ => none
  | .takes index =>
      match state.slot (.worker index), state.queue with
      | .waiting, push :: rest =>
          some ({ state with queue := rest }.beginFrame (.worker index) push)
      | _, _ => none
  | .parses processor =>
      match state.slot processor with
      | .busy push .parsing => some (state.parse library session processor push)
      | _ => none
  | .returns processor =>
      match state.slot processor with
      | .busy push (.calling rest) => some (state.advance processor push rest)
      | _ => none
  | .ends processor => some (state.setSlot processor .ended)
  | .pushTaskEnds =>
      if (List.range pushWorkerCount).all fun index =>
          match state.slot (.worker index) with
          | .ended => true
          | _ => false
      then some { state with pushRunning := false }
      else none
  | .cleansUp =>
      match state.connected, state.pushRunning, state.slot .receiver with
      | true, false, .ended => some { state with connected := false, queue := [] }
      | _, _, _ => none

end PushState

def pushStep : PushState → PushStep → PushState → Prop :=
  ofPartial fun state step => state.apply library session step

end XianyuAdmin.Pushes
