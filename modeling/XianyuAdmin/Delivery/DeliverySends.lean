import XianyuAdmin.Delivery.DeliveryRecords
import XianyuAdmin.Orders.ActionOutcome

/-!
# How the sending of a delivery ends

`send_delivery_record` claims a record, has the core send its content, stores the message
and writes the outcome into the record.  How the awaits end is given from outside: each of
them may return, raise or be cancelled, and a transaction may be committed although its
await is interrupted.
-/

namespace XianyuAdmin.Delivery

open XianyuAdmin.Orders (Interruption WriteEnd)
open XianyuAdmin.Procedure
open XianyuAdmin.Python

/-- `SendMessageResult`, without the ids of the call. -/
structure SendMessageResult where
  success : Bool
  messageId : Option String := none
  error : Option String := none
  rawPayload : Option Json := none

/-- `isinstance(raw_payload, dict) and "request" in raw_payload` -/
def SendMessageResult.requestWasSubmitted (result : SendMessageResult) : Bool :=
  match result.rawPayload with
  | some (.obj members) => members.any fun member => member.1 = "request"
  | _ => false

/-- How the await of `core.send_text` ends. -/
abbrev SendEnd := Except Interruption SendMessageResult

/-- How `_send_and_wait` ends. -/
inductive RpcEnd
  | response (frame : List (String × Json))
  | timeout
  | interrupted (interruption : Interruption)

section Session

-- `str(value)` of a decoded value
variable (str : Json → String)

/-- `str(value) if value else None` -/
def strOrNone (value : Json) : Option String :=
  if value.isTrue then some (str value) else none

def extractResponseMessageId (frame : List (String × Json)) : Option String :=
  match Json.get frame "body" with
  | .obj body =>
      match (Json.get body "messageId").or (Json.get body "1") with
      | .obj members => strOrNone str ((Json.get members "messageId").or (Json.get members "1"))
      | value => strOrNone str value
  | _ => none

def firstText (members : List (String × Json)) (names : List String) : Option String :=
  names.findSome? fun name => strOrNone str (Json.get members name)

/-- `_response_error`; `repr` is that of the code. -/
def responseError (repr : Json → String) (frame : List (String × Json)) : String :=
  ((firstText str frame ["message", "msg", "error"]).or
    (firstText str (Json.get frame "body").asObject
      ["reason", "developerMessage", "message", "code"])).getD
    ("platform rejected message with code " ++ repr (Json.get frame "code"))

/-- `code = response.get("code", 200 if "body" in response else None)` -/
def responseCode (frame : List (String × Json)) : Json :=
  if frame.any fun member => member.1 = "code" then Json.get frame "code"
  else if frame.any fun member => member.1 = "body" then .int 200
  else .null

/-- `str(code) == "200"` -/
def isAcknowledged (frame : List (String × Json)) : Bool :=
  (responseCode frame).scalarText = some "200"

/-- `_send_custom_message`; `request` is the frame that is sent under the id `mid`. -/
def sendCustomMessage (repr : Json → String) (online : Bool) (mid : String) (request : Json)
    (rpc : RpcEnd) : SendEnd :=
  if !online then .ok { success := false, error := some "websocket is not online" }
  else
    match rpc with
    | .response frame =>
        .ok
          { success := isAcknowledged frame
            messageId := orElse (extractResponseMessageId str frame) (some mid)
            error := if isAcknowledged frame then none else some (responseError str repr frame)
            rawPayload := some (.obj [("request", request), ("response", .obj frame)]) }
    | .timeout =>
        .ok
          { success := false
            messageId := some mid
            error := some "timed out waiting for platform acknowledgement"
            rawPayload := some (.obj [("request", request)]) }
    | .interrupted (.exception _ text) =>
        .ok
          { success := false
            messageId := some mid
            error := some text
            rawPayload := some (.obj [("request", request)]) }
    | .interrupted .cancelled => .error .cancelled

end Session

/-- The awaits of `send_delivery_record`, in their order. -/
structure DeliveryCollaborators where
  found : Except Interruption Unit
  claim : WriteEnd
  claimedAt : ℕ
  foundAgain : Except Interruption Unit
  /-- There is a core. -/
  running : Bool
  sendText : SendEnd
  /-- The core may have written the frame to the socket. -/
  submitted : Bool
  /-- `record_message`, with the `message_pk` of what it returns. -/
  recordMessage : Except Interruption (Option String)
  /-- The one await of `update_delivery_record_after_send` that a call comes to. -/
  update : WriteEnd
  updatedAt : ℕ

/-- `asyncio.shield`: the update goes on when the call that awaits it is cancelled. -/
def shield : WriteEnd → WriteEnd
  | .interrupted _ .cancelled => .interrupted true .cancelled
  | writeEnd => writeEnd

/-- `DeliverySendResultPayload`; the message by its `message_pk`. -/
structure DeliverySendResult where
  success : Bool
  record : DeliveryRecord
  messagePk : Option String := none
  error : Option String := none

abbrev DeliveryProcedure := Procedure DeliveryTable Interruption

section Service

variable (collaborators : DeliveryCollaborators) (accountId recordId : String)

def getDeliveryRecord (records : DeliveryTable) : Option DeliveryRecord :=
  (records.lookup recordId).filter fun record => record.accountId = accountId

def awaitWrite (writeEnd : WriteEnd) (write : DeliveryTable → Option DeliveryTable) :
    DeliveryProcedure (Option DeliveryRecord) := do
  let records ← get
  let written := (write records).getD records
  match writeEnd with
  | .returned =>
      set written
      pure ((write records).bind fun next => next.lookup recordId)
  | .interrupted committed interruption =>
      set (if committed then written else records)
      throw interruption

/-- `update_delivery_record_after_send` -/
def awaitOutcome (writeEnd : WriteEnd) (outcome : SendOutcome) :
    DeliveryProcedure (Option DeliveryRecord) :=
  awaitWrite recordId writeEnd fun records =>
    updateAfterSend records accountId recordId outcome collaborators.updatedAt

/-- The outcome is written, `assert updated is not None`, and the call returns. -/
def finishSend (outcome : SendOutcome) (success : Bool) (messagePk error : Option String) :
    DeliveryProcedure (Option DeliverySendResult) := do
  let updated ← awaitOutcome collaborators accountId recordId collaborators.update outcome
  match updated with
  | none => throw (.exception "AssertionError" "")
  | some record =>
      pure (some
        { success := success, record := record, messagePk := messagePk, error := error })

/-- `record_message`: an `Exception` is logged, and there is no message. -/
def awaitMessage : DeliveryProcedure (Option String) :=
  tryCatch (answer collaborators.recordMessage) fun interruption =>
    match interruption with
    | .exception _ _ => pure none
    | .cancelled => throw .cancelled

def notRunning : String := "account runtime is not running"

/-- The branch without a core. -/
def finishUnsent : DeliveryProcedure (Option DeliverySendResult) := do
  let messagePk ← awaitMessage collaborators
  finishSend collaborators accountId recordId
    { status := "failed", sendMessagePk := messagePk, sendError := some notRunning } false
    messagePk (some notRunning)

/-- `except asyncio.CancelledError` -/
def finishCancelled : DeliveryProcedure (Option DeliverySendResult) := do
  let _ ← awaitOutcome collaborators accountId recordId (shield collaborators.update)
    { status := "uncertain"
      sendError := some "delivery request was interrupted; platform result is uncertain" }
  throw .cancelled

/-- `except Exception` -/
def finishRaised (className text : String) : DeliveryProcedure (Option DeliverySendResult) :=
  finishSend collaborators accountId recordId
    { status := "uncertain", sendError := some (className ++ ": " ++ text) } false none
    (some (className ++ ": " ++ text))

def finalStatus (result : SendMessageResult) : String :=
  if result.success then "sent"
  else if result.requestWasSubmitted then "uncertain"
  else "failed"

/-- What follows when the core has returned. -/
def finishSent (result : SendMessageResult) :
    DeliveryProcedure (Option DeliverySendResult) := do
  let messagePk ← awaitMessage collaborators
  finishSend collaborators accountId recordId
    { status := finalStatus result, sendMessagePk := messagePk, sendError := result.error }
    result.success messagePk result.error

def sendClaimed : DeliveryProcedure (Option DeliverySendResult) :=
  if !collaborators.running then finishUnsent collaborators accountId recordId
  else
    match collaborators.sendText with
    | .ok result => finishSent collaborators accountId recordId result
    | .error .cancelled => finishCancelled collaborators accountId recordId
    | .error (.exception className text) =>
        finishRaised collaborators accountId recordId className text

/-- `state_errors.get(current.status, "delivery record cannot be sent")` -/
def stateError : DeliveryStatus → String
  | .sending => "delivery record is already being sent"
  | .sent => "delivery record was already sent"
  | .uncertain => "delivery result is uncertain and must be verified before retrying"
  | .cancelled => "delivery record was cancelled"
  | .pending | .failed => "delivery record cannot be sent"

def answerUnclaimed : DeliveryProcedure (Option DeliverySendResult) := do
  answer collaborators.foundAgain
  let records ← get
  pure ((getDeliveryRecord accountId recordId records).map fun current =>
    { success := false, record := current, error := some (stateError current.status) })

def sendDeliveryRecord : DeliveryProcedure (Option DeliverySendResult) := do
  answer collaborators.found
  let records ← get
  match getDeliveryRecord accountId recordId records with
  | none => pure none
  | some _ => do
      let claimed ← awaitWrite recordId collaborators.claim fun records =>
        claimDeliveryRecord records accountId recordId collaborators.claimedAt
      match claimed with
      | none => answerUnclaimed collaborators accountId recordId
      | some _ => sendClaimed collaborators accountId recordId

end Service

end XianyuAdmin.Delivery
