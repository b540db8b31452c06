import XianyuAdmin.Core.Returns
import XianyuAdmin.Orders.ActionOutcome
import XianyuAdmin.Pushes.PushPayloads

/-!
# Pushed frames

A frame from the socket is acknowledged, and unless it answers a request its chat events
are parsed in a thread and handed to the callback, by the receiver itself or by a worker of
the push queue.  How the awaits end is given from outside.
-/

namespace XianyuAdmin.Pushes

open XianyuAdmin.Orders (Interruption)
open XianyuAdmin.Python

variable (library : PushLibrary)

def syncEntries (frame : Members) : Json :=
  match Json.get frame "body" with
  | .obj body =>
      match Json.get body "syncPushPackage" with
      | .obj package => if hasKey package "data" then Json.get package "data" else .arr []
      | _ => .arr []
  | _ => .arr []

/-- `entry.get("data") if isinstance(entry, dict) else None` -/
def entryData (entry : Json) : Json :=
  Json.get entry.asObject "data"

/-- `type(value).__name__` -/
def typeName : Json → String
  | .null => "NoneType"
  | .bool _ => "bool"
  | .int _ => "int"
  | .float _ => "float"
  | .str _ => "str"
  | .arr _ => "list"
  | .obj _ => "dict"

/-- One part of `_push_frame_summary`. -/
def summaryPart (entry : Json) : String :=
  match entryData entry with
  | .str data => String.ofList (data.toList.take 8) ++ ":" ++ toString data.length
  | .obj _ => "json"
  | data => typeName data

/-- `entries[:8]`, and `len(entries)`. -/
def firstEntries : Json → Except PyError (List Json × ℕ)
  | .arr items => .ok (items.take 8, items.length)
  | .str text =>
      .ok ((text.toList.take 8).map fun char => .str (String.singleton char), text.length)
  | .obj _ => .error .keyError
  | .null | .bool _ | .int _ | .float _ => .error .typeError

def pushFrameSummary (frame : Members) : Except PyError String :=
  (firstEntries (syncEntries frame)).map fun entries =>
    "entries=" ++ toString entries.2 ++ "[" ++
      ",".intercalate (entries.1.map summaryPart) ++ "]"

def extractSyncPayloads (frame : Members) : Except PyError (List Members) := do
  let entries ← iterate (syncEntries frame)
  collect (fun entry => decodeSyncData library (entryData entry)) entries

def parseChatEvents (session : PushSession) (frame : Members) :
    Except PyError (List ChatMessageEvent) := do
  let payloads ← extractSyncPayloads library frame
  collect (parsePushPayload library session) payloads

def parseEntry (session : PushSession) (entry : Json) :
    Except PyError (Option ChatMessageEvent) := do
  match ← decodeSyncData library (entryData entry) with
  | none => pure none
  | some payload => parsePushPayload library session payload

/-- What the receiver knows when a frame arrives. -/
structure Receiver where
  /-- `upstream.generate_mid()` -/
  generatedMid : String
  /-- A request waits for its answer under the id. -/
  isPending : String → Bool
  /-- `on_message` is set. -/
  hasCallback : Bool
  /-- The push task is running. -/
  hasWorkers : Bool

inductive HandleError
  | raised (error : PyError)
  /-- The acknowledgement could not be sent, or the receiver was cancelled. -/
  | transport (interruption : Interruption)

inductive Handled
  | ignored
  | resolved
  | processes (frame : Members)
  | queues (frame : Members)

/-- `frame.get("headers") or {}` and the reads of it in `_send_ack`. -/
def ackHeaders : Json → Except PyError Members
  | .obj frame =>
      if (Json.get frame "headers").isTrue then
        match Json.get frame "headers" with
        | .obj headers => .ok headers
        | _ => .error .attributeError
      else .ok []
  | _ => .error .attributeError

/-- The frame that `_send_ack` sends. -/
def ackFrame (generatedMid : String) (frame : Json) : Except PyError Json :=
  (ackHeaders frame).map fun headers =>
    let copied := ["app-key", "ua", "dt"].filterMap fun key =>
      if hasKey headers key then some (key, Json.get headers key) else none
    .obj
      [("code", .int 200),
        ("headers", .obj
          ([("mid", (Json.get headers "mid").or (.str generatedMid)),
            ("sid", (Json.get headers "sid").or (.str ""))] ++ copied))]

/-- `_resolve_pending_response` -/
def resolvesPending (isPending : String → Bool) (frame : Members) : Bool :=
  let messageId := Json.get (Json.get frame "headers").asObject "mid"
  messageId.isTrue && isPending (pyStr library messageId)

/-- What `_handle_raw_message` does with a frame that is acknowledged. -/
def dispatchFrame (receiver : Receiver) (frame : Members) : Handled :=
  if resolvesPending library receiver.isPending frame then .resolved
  else if !receiver.hasCallback then .ignored
  else if receiver.hasWorkers then .queues frame
  else .processes frame

/-- `_handle_raw_message`, up to the processing of the frame; `sent` is the end of sending
the acknowledgement. -/
def handleRawMessage (receiver : Receiver) (raw : String) (sent : Except Interruption Unit) :
    Except HandleError Handled :=
  match library.loads raw with
  | .error _ => .ok .ignored
  | .ok frame =>
      match ackFrame receiver.generatedMid frame with
      | .error error => .error (.raised error)
      | .ok _ =>
          match sent with
          | .error interruption => .error (.transport interruption)
          | .ok () => .ok (dispatchFrame library receiver frame.asObject)

inductive CallbackEnd
  | returned
  /-- The exception is logged. -/
  | raised
  | cancelled
  deriving DecidableEq, Repr

/-- How the awaits of `_process_push_frame` end. -/
structure PushWaits where
  parseCancelled : Bool
  callback : ℕ → CallbackEnd

inductive ProcessEnd
  | returned
  | raised (error : PyError)
  | cancelled

/-- The loop of `_process_push_frame`: the events that come to `on_message`. -/
def handEvents (callback : ℕ → CallbackEnd) :
    ℕ → List ChatMessageEvent → List ChatMessageEvent × ProcessEnd
  | _, [] => ([], .returned)
  | index, event :: rest =>
      if callback index = .cancelled then ([event], .cancelled)
      else (event :: (handEvents callback (index + 1) rest).1,
        (handEvents callback (index + 1) rest).2)

/-- `_process_push_frame` with a callback: the events it hands over, and its end. -/
def processPushFrame (session : PushSession) (frame : Members) (waits : PushWaits) :
    List ChatMessageEvent × ProcessEnd :=
  match pushFrameSummary frame with
  | .error error => ([], .raised error)
  | .ok _ =>
      if waits.parseCancelled then ([], .cancelled)
      else
        match parseChatEvents library session frame with
        | .error error => ([], .raised error)
        | .ok events => handEvents waits.callback 0 events

end XianyuAdmin.Pushes
