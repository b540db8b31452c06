import XianyuAdmin.Messages.MessageStore

/-!
# Sending texts and images

`send_text` and `send_image` store the row of the request, ask the platform, and store
the outcome.  Calls for the same request may run in several processes; every await of a
call may end in an interruption; and meanwhile the platform reports messages, among them
those that were just sent.  The state holds the messages of one account, the calls, and
what went to the platform.
-/

namespace XianyuAdmin.Messages

open XianyuAdmin.Python
open XianyuAdmin.Transition

/-- What is sent: the payload of `send_text`, or the image of `send_image`. -/
inductive Outbound
  | text (receiverUserId text : String)
  | image
  deriving DecidableEq, Repr

/-- What a call reads of the result of `core.send_text` or `core.send_image`; `mediaUrl` is
the text of `raw_payload["media"]["url"]`. -/
structure CoreAnswer where
  success : Bool
  messageId : Option String := none
  error : Option String := none
  rawPayload : Option String := none
  mediaUrl : Option String := none
  deriving DecidableEq, Repr

def coreMissing : CoreAnswer where
  success := false
  error := some "account runtime is not running"

/-- `SendTextResultPayload` or `SendImageResultPayload`. -/
structure SendResult where
  success : Bool
  messageId : Option String := none
  error : Option String := none
  message : Option Message := none
  deriving DecidableEq, Repr

inductive SendError
  /-- The `IntegrityError` of `begin_outbound_*`. -/
  | beginConflict
  /-- The `IntegrityError` of `complete_outbound_*`. -/
  | completionConflict
  /-- What was awaited raised, or the call was cancelled. -/
  | interrupted
  deriving DecidableEq, Repr

/-- Where a call stands. -/
inductive SendPhase
  /-- `send_image` awaits `get_conversation`. -/
  | looks
  /-- The transaction of `begin_outbound_*` has not read yet. -/
  | reads (peerUserId : String)
  | inserts (peerUserId : String)
  /-- The transaction is done, its await is not. -/
  | begun (pending : Option Message) (created : Bool)
  /-- `_after_message_persisted` of the new row. -/
  | announces
  /-- `core.send_text` or `core.send_image` was called. -/
  | sending
  | completes (answer : CoreAnswer)
  /-- The transaction of `complete_outbound_*` is done; its await, or
  `_after_message_persisted`, is not. -/
  | completed (answer : CoreAnswer) (message : Option Message)
  | returned (result : SendResult)
  | raised (error : SendError)
  deriving DecidableEq, Repr

/-- A call of `send_text` or `send_image`; `created` is its local variable. -/
structure SendCall where
  conversationId : String
  clientRequestId : String
  outbound : Outbound
  created : Bool := false
  phase : SendPhase
  deriving DecidableEq, Repr

namespace Outbound

def beginFailure : Outbound → String
  | text _ _ => "failed to create the outbound text record"
  | image => "failed to create the outbound image record"

def inProgress : Outbound → String
  | text _ _ => "text send is already in progress"
  | image => "image send is already in progress"

def start : Outbound → SendPhase
  | text receiverUserId _ => .reads receiverUserId
  | image => .looks

/-- `send_image`, from `get_conversation` to the next await. -/
def afterLook : Option Conversation → SendPhase
  | none => .returned { success := false, error := some "conversation not found" }
  | some conversation =>
      let receiverUserId := strip (conversation.peerUserId.getD "")
      if receiverUserId = "" then
        .returned
          { success := false
            error := some "conversation is missing its receiver user ID" }
      else .reads receiverUserId

/-- From `begin_outbound_*` to the next await. -/
def afterBegin (outbound : Outbound) : Option Message → Bool → SendPhase
  | none, _ => .returned { success := false, error := some outbound.beginFailure }
  | some pending, false =>
      .returned
        { success := pending.sendStatus = some .sent
          messageId := pending.messageId
          error :=
            if pending.sendStatus = some .failed then pending.sendError
            else if pending.sendStatus = some .sent then none
            else some outbound.inProgress
          message := some pending }
  | some _, true => .announces

/-- After the row with the outcome was announced. -/
def afterComplete (answer : CoreAnswer) (message : Option Message) : SendPhase :=
  .returned
    { success := answer.success
      messageId := answer.messageId
      error := answer.error
      message := message }

/-- `begin_outbound_text` or `begin_outbound_image`. -/
def beginIn (outbound : Outbound) (store : MessageStore) (request : OutboundRequest)
    (surroundings : Surroundings) : Option Begun :=
  match outbound with
  | text _ content => beginOutboundText store request content surroundings
  | image => beginOutboundImage store request surroundings

/-- `complete_outbound_text` or `complete_outbound_image`. -/
def completeIn (outbound : Outbound) (store : MessageStore) (clientRequestId : String)
    (answer : CoreAnswer) (now : ℤ) : Option Completed :=
  let result : OutboundResult :=
    { clientRequestId := clientRequestId
      success := answer.success
      messageId := answer.messageId
      error := answer.error
      rawPayload := answer.rawPayload }
  match outbound with
  | text _ _ => completeOutboundText store result now
  | image => completeOutboundImage store result answer.mediaUrl now

end Outbound

/-- What the transaction of `begin_outbound_*` reads. -/
def SendCall.afterRead (call : SendCall) (store : MessageStore) (peerUserId : String) :
    SendPhase :=
  match store.messages.lookup (.clientRequestId call.clientRequestId) with
  | some existing => .begun (some existing) false
  | none =>
      match store.conversations call.conversationId with
      | none => .begun none false
      | some _ => .inserts peerUserId

structure PlatformSend where
  call : ℕ
  clientRequestId : String
  platformId : Option String := none
  returnedId : Option String := none
  deriving DecidableEq, Repr

def PlatformSend.Carries (send : PlatformSend) (messageId : String) : Prop :=
  messageId ≠ "" ∧
    (send.platformId = some messageId ∨ send.returnedId = some messageId)

instance (send : PlatformSend) (messageId : String) : Decidable (send.Carries messageId) :=
  inferInstanceAs (Decidable (_ ∧ _))

structure SendState where
  store : MessageStore
  calls : ℕ → Option SendCall
  /-- The calls of `core.send_text` and `core.send_image`. -/
  sends : List PlatformSend

namespace SendState

def initial (store : MessageStore) : SendState where
  store := { store with messages := Table.empty }
  calls := fun _ => none
  sends := []

variable (state : SendState)

def setCall (id : ℕ) (call : SendCall) : SendState :=
  { state with calls := Function.update state.calls id (some call) }

def setPhase (id : ℕ) (call : SendCall) (phase : SendPhase) : SendState :=
  state.setCall id { call with phase := phase }

def mapSend (id : ℕ) (change : PlatformSend → PlatformSend) : SendState :=
  { state with
    sends := state.sends.map fun send => if send.call = id then change send else send }

/-- The commit of `begin_outbound_*`; it fails when another session has stored the
request since the read. -/
def insert (id : ℕ) (call : SendCall) (peerUserId : String)
    (surroundings : Surroundings) : SendState :=
  let request : OutboundRequest :=
    { conversationId := call.conversationId
      clientRequestId := call.clientRequestId
      peerUserId := peerUserId }
  match call.outbound.beginIn state.store request surroundings with
  | some { store := store, message := some message, created := true } =>
      { state with store := store }.setCall id
        { call with created := true, phase := .begun (some message) true }
  | _ => state.setPhase id call (.raised .beginConflict)

/-- After the new row was announced: the core is called, unless there is none. -/
def send (id : ℕ) (call : SendCall) (running : Bool) : SendState :=
  if running then
    let sent : PlatformSend := { call := id, clientRequestId := call.clientRequestId }
    { state with sends := state.sends ++ [sent] }.setPhase id call .sending
  else state.setPhase id call (.completes coreMissing)

def answer (id : ℕ) (call : SendCall) (answer : CoreAnswer) : SendState :=
  (state.mapSend id fun send => { send with returnedId := answer.messageId }).setPhase id call
    (.completes answer)

/-- The transaction of `complete_outbound_*`. -/
def complete (id : ℕ) (call : SendCall) (answer : CoreAnswer) (now : ℤ) : SendState :=
  match call.outbound.completeIn state.store call.clientRequestId answer now with
  | none => state.setPhase id call (.raised .completionConflict)
  | some completed =>
      { state with store := completed.store }.setPhase id call
        (.completed answer completed.message)

def isFresh (messageId : String) : Bool :=
  messageId ≠ "" && state.sends.all (fun send => !decide (send.Carries messageId)) &&
    state.store.messages.rows.all fun row => row.messageId ≠ some messageId

end SendState

/-- The call awaits something. -/
def SendPhase.isOpen : SendPhase → Bool
  | .returned _ | .raised _ => false
  | _ => true

inductive SendLabel
  | begins (id : ℕ) (conversationId clientRequestId : String) (outbound : Outbound)
  | looks (id : ℕ)
  | reads (id : ℕ)
  | inserts (id : ℕ) (surroundings : Surroundings)
  /-- The await of a transaction returns. -/
  | resumes (id : ℕ)
  /-- The new row was announced; `running` when there is a core. -/
  | sends (id : ℕ) (running : Bool)
  | answers (id : ℕ) (answer : CoreAnswer)
  | completes (id : ℕ) (now : ℤ)
  /-- An await raises or is cancelled.  A transaction whose thread still runs then is one
  that was done before. -/
  | interrupts (id : ℕ)
  | accepts (id : ℕ) (messageId : String)
  /-- `record_message`. -/
  | reports (report : MessageReport) (surroundings : Surroundings)
  | changes (store : MessageStore)

def applyCallStep (state : SendState) (call : SendCall) : SendLabel → Option SendState
  | .looks id =>
      match call.phase with
      | .looks =>
          some (state.setPhase id call
            (Outbound.afterLook (state.store.conversations call.conversationId)))
      | _ => none
  | .reads id =>
      match call.phase with
      | .reads peerUserId =>
          some (state.setPhase id call (call.afterRead state.store peerUserId))
      | _ => none
  | .inserts id surroundings =>
      match call.phase with
      | .inserts peerUserId => some (state.insert id call peerUserId surroundings)
      | _ => none
  | .resumes id =>
      match call.phase with
      | .begun pending created =>
          some (state.setPhase id call (call.outbound.afterBegin pending created))
      | .completed answer message =>
          some (state.setPhase id call (Outbound.afterComplete answer message))
      | _ => none
  | .sends id running =>
      match call.phase with
      | .announces => some (state.send id call running)
      | _ => none
  | .answers id answer =>
      match call.phase with
      | .sending => some (state.answer id call answer)
      | _ => none
  | .completes id now =>
      match call.phase with
      | .completes answer => some (state.complete id call answer now)
      | _ => none
  | .interrupts id =>
      if call.phase.isOpen then some (state.setPhase id call (.raised .interrupted)) else none
  | _ => none

/-- The system of all calls, the platform and the reports. -/
def applySend (library : TextLibrary) (state : SendState) : SendLabel → Option SendState
  | .begins id conversationId clientRequestId outbound =>
      -- without a request id `send_text` takes another branch
      if (state.calls id).isSome ∨ (outbound ≠ .image ∧ clientRequestId = "") then none
      else
        some (state.setCall id
          { conversationId := conversationId
            clientRequestId := clientRequestId
            outbound := outbound
            phase := outbound.start })
  | .accepts id messageId =>
      if state.isFresh messageId then
        some (state.mapSend id fun send =>
          { send with platformId := send.platformId.or (some messageId) })
      else none
  | .reports report surroundings =>
      (recordMessage library state.store report surroundings).map fun recorded =>
        { state with store := recorded.store }
  | .changes store =>
      some { state with store := { store with messages := state.store.messages } }
  | label@(.looks id) | label@(.reads id) | label@(.inserts id _) | label@(.resumes id)
  | label@(.sends id _) | label@(.answers id _) | label@(.completes id _)
  | label@(.interrupts id) =>
      (state.calls id).bind fun call => applyCallStep state call label

def sendStep (library : TextLibrary) : SendState → SendLabel → SendState → Prop :=
  ofPartial (applySend library)

end XianyuAdmin.Messages
