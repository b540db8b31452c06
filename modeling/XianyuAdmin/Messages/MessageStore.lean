import XianyuAdmin.Core.Table
import XianyuAdmin.Core.Transition
import XianyuAdmin.Messages.Conversations

/-!
# The message store of one account

Messages enter the store in two ways.  The platform reports them, once or many
times, with or without its own message id; `_record_message_sync` recognises a
report of a message it has by the id, or else by a hash over the content and the
time.  The admin service sends them itself: `_begin_outbound_*_sync` stores the
row before the platform is asked, `_complete_outbound_*_sync` the outcome.  The
state is the data of an account that exists and has its runtime row; a call that
raises is rolled back and has no result here.
-/

namespace XianyuAdmin.Messages

open XianyuAdmin.Python

inductive SendStatus
  | uploading
  | sending
  | sent
  | failed
  deriving DecidableEq, Repr

/-- A row of `xianyu_messages`. -/
structure Message where
  messagePk : String
  conversationId : String
  messageId : Option String := none
  dedupeKey : Option String := none
  clientRequestId : Option String := none
  direction : Direction
  messageType : MessageType
  content : String
  peerUserId : Option String := none
  peerName : Option String := none
  sendSuccess : Option Bool := none
  sendStatus : Option SendStatus := none
  sendError : Option String := none
  rawPayload : Option String := none
  createdAtMs : ℤ
  receivedAtMs : Option ℤ := none
  deriving DecidableEq, Repr

/-- The unique indexes of `xianyu_messages` within an account. -/
inductive MessageKey
  | messagePk (value : String)
  | messageId (value : String)
  | dedupeKey (value : String)
  | clientRequestId (value : String)
  deriving DecidableEq, Repr

def messageKeys (message : Message) : List MessageKey :=
  .messagePk message.messagePk ::
    ((message.messageId.map .messageId).toList ++
      (message.dedupeKey.map .dedupeKey).toList ++
        (message.clientRequestId.map .clientRequestId).toList)

abbrev MessageTable := Table Message messageKeys

variable {message : Message} {value : String}

@[simp]
theorem messagePk_mem_messageKeys :
    .messagePk value ∈ messageKeys message ↔ message.messagePk = value := by
  simp [messageKeys, eq_comm]

@[simp]
theorem messageId_mem_messageKeys :
    .messageId value ∈ messageKeys message ↔ message.messageId = some value := by
  simp [messageKeys]

@[simp]
theorem dedupeKey_mem_messageKeys :
    .dedupeKey value ∈ messageKeys message ↔ message.dedupeKey = some value := by
  simp [messageKeys]

@[simp]
theorem clientRequestId_mem_messageKeys :
    .clientRequestId value ∈ messageKeys message ↔
      message.clientRequestId = some value := by
  simp [messageKeys]

/-- The columns of `xianyu_runtime_status` the message store writes. -/
structure RuntimeStatus where
  messageCount : ℕ := 0
  lastMessageAt : Option ℤ := none
  deriving DecidableEq, Repr

structure MessageStore where
  messages : MessageTable
  conversations : String → Option Conversation
  readStates : String → String → Option ReadState
  identities : String → Option PeerIdentity
  runtime : RuntimeStatus

namespace MessageStore

def empty : MessageStore where
  messages := Table.empty
  conversations := fun _ => none
  readStates := fun _ _ => none
  identities := fun _ => none
  runtime := { }

/-- `message_count` of a conversation; it starts at zero. -/
def messageCount (store : MessageStore) (conversationId : String) : ℕ :=
  (store.conversations conversationId).elim 0 Conversation.messageCount

/-- `unread_count` of a conversation; it starts at zero. -/
def unreadCount (store : MessageStore) (conversationId : String) : ℕ :=
  (store.conversations conversationId).elim 0 Conversation.unreadCount

def rowCount (store : MessageStore) (conversationId : String) : ℕ :=
  store.messages.rows.countP fun message => message.conversationId = conversationId

end MessageStore

/-- The arguments of `_record_message_sync`; `raw_payload` as it is dumped. -/
structure MessageReport where
  conversationId : String
  direction : String
  messageType : String
  content : String
  messageId : Option String := none
  peerUserId : Option String := none
  peerName : Option String := none
  sendSuccess : Option Bool := none
  sendError : Option String := none
  rawPayload : Option String := none
  createdAtMs : Option ℤ := none
  countUnread : Bool := true
  promoteActivity : Bool := true
  deriving DecidableEq, Repr

/-- What a call takes from its surroundings: the clock, the fresh `uuid4` of the
row it may insert, and the users that are enabled. -/
structure Surroundings where
  now : ℤ
  messagePk : String
  enabledUsers : List String
  deriving DecidableEq, Repr

/-- `_normalize_epoch_milliseconds` for an integer or `None`: a value that can
only be in seconds is converted. -/
def normalizeEpochMilliseconds (value : Option ℤ) : Option ℤ :=
  value.map fun timestamp =>
    if 0 < timestamp.natAbs ∧ timestamp.natAbs < 100000000000 then timestamp * 1000
    else timestamp

/-- `datetime.fromtimestamp` knows the years 1 to 9999. -/
def isInstant (milliseconds : ℤ) : Bool :=
  -62135596800000 ≤ milliseconds && milliseconds < 253402300800000

def messageDedupeKey (library : TextLibrary) (conversationId : String)
    (direction : Direction) (messageType : MessageType) (content : String)
    (peerUserId : Option String) (createdAtMs : ℤ) : Option String :=
  if createdAtMs = 0 then none
  else
    some (library.sha256Hex ("\x1f".intercalate
      [conversationId, direction.text, messageType.name, content,
        peerUserId.getD "", toString createdAtMs]))

/-- The local variables of `_record_message_sync` before the row is searched. -/
structure Incoming where
  report : MessageReport
  direction : Direction
  messageType : MessageType
  platformCreatedAtMs : Option ℤ
  createdAtMs : ℤ
  shouldPromoteActivity : Bool
  sendStatus : Option SendStatus
  peerUserId : Option String
  peerName : Option String
  canonicalPeerName : Option String
  messagePeerName : Option String
  identities : String → Option PeerIdentity
  dedupeKey : Option String

/-- `platform_created_at_ms or now_ms`. -/
def createdAt (platformCreatedAtMs : Option ℤ) (now : ℤ) : ℤ :=
  match platformCreatedAtMs with
  | none => now
  | some timestamp => if timestamp = 0 then now else timestamp

/-- The head of `_record_message_sync`, up to the search for the row. -/
def prepareIncoming (library : TextLibrary) (store : MessageStore)
    (report : MessageReport) (now : ℤ) : Incoming :=
  let platformCreatedAtMs := normalizeEpochMilliseconds report.createdAtMs
  let createdAtMs := createdAt platformCreatedAtMs now
  let direction := normalizeDirection report.direction
  let messageType := normalizeMessageType report.messageType
  let shouldPromoteActivity := report.promoteActivity &&
    (direction ≠ .outbound || report.sendSuccess ≠ some false)
  let sendStatus :=
    if direction = .outbound then
      report.sendSuccess.map fun success => if success then .sent else .failed
    else none
  let peerName := normalizePeerName library report.peerUserId report.peerName
  let cached := store.conversations report.conversationId
  let peerUserId := orElse report.peerUserId (cached.bind Conversation.peerUserId)
  let identity :=
    if truthy peerUserId then store.identities (peerUserId.getD "") else none
  let (canonicalPeerName, merged) :=
    mergePeerIdentity library peerUserId peerName (cached.bind Conversation.peerName)
      "message" createdAtMs identity
  { report := report
    direction := direction
    messageType := messageType
    platformCreatedAtMs := platformCreatedAtMs
    createdAtMs := createdAtMs
    shouldPromoteActivity := shouldPromoteActivity
    sendStatus := sendStatus
    peerUserId := peerUserId
    peerName := peerName
    canonicalPeerName := canonicalPeerName
    messagePeerName := if direction = .inbound then canonicalPeerName else peerName
    identities :=
      if truthy peerUserId then
        Function.update store.identities (peerUserId.getD "") merged
      else store.identities
    dedupeKey :=
      messageDedupeKey library report.conversationId direction messageType report.content
        peerUserId createdAtMs }

/-- The search of `_record_message_sync`: by the id of the platform, or else by
the hash. -/
def findExisting (messages : MessageTable) (messageId dedupeKey : Option String) :
    Option Message :=
  (if truthy messageId then messages.lookup (.messageId (messageId.getD ""))
    else none).or
    (dedupeKey.bind fun key => messages.lookup (.dedupeKey key))

def mergeReport (library : TextLibrary) (incoming : Incoming) (existing : Message) :
    Message :=
  let report := incoming.report
  let upgraded :=
    (existing.messageType = .unknown && incoming.messageType ≠ .unknown) ||
      (existing.messageType = .text && strip existing.content = "[语音]" &&
        incoming.messageType = .audio)
  let peerUserId := orElse incoming.peerUserId existing.peerUserId
  { existing with
    messageId := orElse report.messageId existing.messageId
    messageType := if upgraded then incoming.messageType else existing.messageType
    content := if upgraded then report.content else existing.content
    peerUserId := peerUserId
    peerName := mergePeerName library peerUserId existing.peerName incoming.messagePeerName
    sendSuccess := report.sendSuccess.or existing.sendSuccess
    sendStatus := incoming.sendStatus.or existing.sendStatus
    sendError := orElse report.sendError existing.sendError
    rawPayload := orElse report.rawPayload existing.rawPayload
    createdAtMs :=
      -- the hash of the row keeps the time of the first report
      if incoming.platformCreatedAtMs.any fun timestamp => timestamp ≠ 0 then
        incoming.createdAtMs
      else existing.createdAtMs }

def mergeConversation (incoming : Incoming) (conversation : Conversation) : Conversation :=
  let named :=
    { conversation with
      peerName := orElse incoming.canonicalPeerName conversation.peerName }
  if incoming.direction = .outbound && incoming.report.sendSuccess = some true then
    named.applyWorkState .outbound incoming.messageType incoming.createdAtMs (some true)
  else named

def newMessage (incoming : Incoming) (surroundings : Surroundings) : Message :=
  let report := incoming.report
  { messagePk := surroundings.messagePk
    conversationId := report.conversationId
    messageId := report.messageId
    dedupeKey := incoming.dedupeKey
    direction := incoming.direction
    messageType := incoming.messageType
    content := report.content
    peerUserId := incoming.peerUserId
    peerName := incoming.messagePeerName
    sendSuccess := report.sendSuccess
    sendStatus := incoming.sendStatus
    sendError := report.sendError
    rawPayload := report.rawPayload
    createdAtMs := incoming.createdAtMs
    receivedAtMs := if incoming.shouldPromoteActivity then some surroundings.now else none }

def Incoming.countsUnread (incoming : Incoming) : Bool :=
  incoming.direction = .inbound && incoming.report.countUnread

def advanceConversation (library : TextLibrary) (incoming : Incoming) (now : ℤ)
    (conversation : Conversation) : Conversation :=
  let report := incoming.report
  let peerUserId := orElse incoming.peerUserId conversation.peerUserId
  let named :=
    { conversation with
      peerUserId := peerUserId
      peerName :=
        orElse incoming.canonicalPeerName
          (mergePeerName library peerUserId conversation.peerName incoming.peerName) }
  let shown :=
    if incoming.direction ≠ .outbound || report.sendSuccess ≠ some false then
      named.showMessage incoming.direction incoming.messageType report.content
        incoming.createdAtMs
    else named
  let counted :=
    if incoming.countsUnread then shown.countMessage.countUnread else shown.countMessage
  let worked :=
    counted.applyWorkState incoming.direction incoming.messageType incoming.createdAtMs
      report.sendSuccess
  if incoming.shouldPromoteActivity then
    worked.promote incoming.direction incoming.messageType report.content now
  else worked

/-- The store after a call, and the row the report ended in. -/
structure Recorded where
  store : MessageStore
  message : Message
  inserted : Bool

/-- The duplicate branch of `_record_message_sync`. -/
def recordExisting (library : TextLibrary) (store : MessageStore) (incoming : Incoming)
    (existing : Message) : Option Recorded := do
  let messages ← store.messages.update? fun message =>
    if message.messagePk = existing.messagePk then mergeReport library incoming message
    else message
  pure
    { store :=
        { store with
          messages := messages
          conversations :=
            Function.update store.conversations incoming.report.conversationId
              ((store.conversations incoming.report.conversationId).map
                (mergeConversation incoming))
          identities := incoming.identities }
      message := mergeReport library incoming existing
      inserted := false }

/-- The insert branch of `_record_message_sync`. -/
def recordNew (library : TextLibrary) (store : MessageStore) (incoming : Incoming)
    (surroundings : Surroundings) : Option Recorded := do
  let message := newMessage incoming surroundings
  let messages ← store.messages.insert? message
  let conversationId := incoming.report.conversationId
  let conversation :=
    advanceConversation library incoming surroundings.now
      ((store.conversations conversationId).getD { })
  pure
    { store :=
        { messages := messages
          conversations :=
            Function.update store.conversations conversationId (some conversation)
          readStates :=
            if incoming.countsUnread then
              Function.update store.readStates conversationId
                (incrementReadStates surroundings.enabledUsers conversation.unreadCount
                  (store.readStates conversationId))
            else store.readStates
          identities := incoming.identities
          runtime :=
            { messageCount := store.runtime.messageCount + 1
              lastMessageAt := some incoming.createdAtMs } }
      message := message
      inserted := true }

/-- `_record_message_sync`; `none` when it raises. -/
def recordMessage (library : TextLibrary) (store : MessageStore) (report : MessageReport)
    (surroundings : Surroundings) : Option Recorded := do
  let incoming := prepareIncoming library store report surroundings.now
  guard (incoming.platformCreatedAtMs.all isInstant)
  match findExisting store.messages report.messageId incoming.dedupeKey with
  | some existing => recordExisting library store incoming existing
  | none => recordNew library store incoming surroundings

/-- The arguments the two `_begin_outbound_*_sync` share. -/
structure OutboundRequest where
  conversationId : String
  clientRequestId : String
  peerUserId : String
  deriving DecidableEq, Repr

/-- The store after `_begin_outbound_*_sync` and its two results: the row, and
whether it is new. -/
structure Begun where
  store : MessageStore
  message : Option Message
  created : Bool

/-- The body the two `_begin_outbound_*_sync` share. -/
def beginOutbound (messageType : MessageType) (sendStatus : SendStatus)
    (store : MessageStore) (request : OutboundRequest) (content : String)
    (surroundings : Surroundings) : Option Begun :=
  match store.messages.lookup (.clientRequestId request.clientRequestId) with
  | some existing => some { store := store, message := some existing, created := false }
  | none =>
      match store.conversations request.conversationId with
      | none => some { store := store, message := none, created := false }
      | some conversation => do
          let message : Message :=
            { messagePk := surroundings.messagePk
              conversationId := request.conversationId
              clientRequestId := some request.clientRequestId
              direction := .outbound
              messageType := messageType
              content := content
              peerUserId := some request.peerUserId
              sendStatus := some sendStatus
              createdAtMs := surroundings.now
              receivedAtMs := some surroundings.now }
          let messages ← store.messages.insert? message
          pure
            { store :=
                { store with
                  messages := messages
                  conversations :=
                    Function.update store.conversations request.conversationId
                      (some conversation.countMessage)
                  runtime :=
                    { messageCount := store.runtime.messageCount + 1
                      lastMessageAt := some surroundings.now } }
              message := some message
              created := true }

def beginOutboundText (store : MessageStore) (request : OutboundRequest) (text : String)
    (surroundings : Surroundings) : Option Begun :=
  beginOutbound .text .sending store request text surroundings

def beginOutboundImage (store : MessageStore) (request : OutboundRequest)
    (surroundings : Surroundings) : Option Begun :=
  beginOutbound .image .uploading store request "" surroundings

/-- The arguments the two `_complete_outbound_*_sync` share. -/
structure OutboundResult where
  clientRequestId : String
  success : Bool
  messageId : Option String := none
  error : Option String := none
  rawPayload : Option String := none
  deriving DecidableEq, Repr

def completeRow (result : OutboundResult) (replaceContent : String → String)
    (message : Message) : Message :=
  { message with
    messageId := orElse result.messageId message.messageId
    sendSuccess := some result.success
    sendStatus := some (if result.success then .sent else .failed)
    sendError := result.error
    rawPayload := result.rawPayload
    content := replaceContent message.content }

def completeConversation (messageType : MessageType) (now : ℤ) (message : Message)
    (conversation : Conversation) : Conversation :=
  let shown :=
    conversation.showMessage .outbound messageType message.content message.createdAtMs
  let worked :=
    shown.applyWorkState .outbound messageType message.createdAtMs (some true)
  worked.promote .outbound messageType message.content now

/-- The store after `_complete_outbound_*_sync` and the row it returns. -/
structure Completed where
  store : MessageStore
  message : Option Message

/-- The body the two `_complete_outbound_*_sync` share. -/
def completeOutbound (messageType : MessageType) (replaceContent : String → String)
    (store : MessageStore) (result : OutboundResult) (now : ℤ) : Option Completed :=
  match store.messages.lookup (.clientRequestId result.clientRequestId) with
  | none => some { store := store, message := none }
  | some existing => do
      let messages ← store.messages.update? fun message =>
        if message.messagePk = existing.messagePk then
          completeRow result replaceContent message
        else message
      let message := completeRow result replaceContent existing
      pure
        { store :=
            { store with
              messages := messages
              conversations :=
                if result.success then
                  Function.update store.conversations message.conversationId
                    ((store.conversations message.conversationId).map
                      (completeConversation messageType now message))
                else store.conversations }
          message := some message }

def completeOutboundText (store : MessageStore) (result : OutboundResult) (now : ℤ) :
    Option Completed :=
  completeOutbound .text id store result now

/-- `_complete_outbound_image_sync`; `mediaUrl` is the text of `media["url"]`. -/
def completeOutboundImage (store : MessageStore) (result : OutboundResult)
    (mediaUrl : Option String) (now : ℤ) : Option Completed :=
  let remoteUrl := strip (mediaUrl.getD "")
  completeOutbound .image (fun content => if remoteUrl = "" then content else remoteUrl)
    store result now

/-- The calls that create and complete messages. -/
inductive Call
  | recordMessage (report : MessageReport) (surroundings : Surroundings)
  | beginOutboundText (request : OutboundRequest) (text : String)
      (surroundings : Surroundings)
  | beginOutboundImage (request : OutboundRequest) (surroundings : Surroundings)
  | completeOutboundText (result : OutboundResult) (now : ℤ)
  | completeOutboundImage (result : OutboundResult) (mediaUrl : Option String) (now : ℤ)

def applyCall (library : TextLibrary) (store : MessageStore) : Call → Option MessageStore
  | .recordMessage report surroundings =>
      (recordMessage library store report surroundings).map Recorded.store
  | .beginOutboundText request text surroundings =>
      (beginOutboundText store request text surroundings).map Begun.store
  | .beginOutboundImage request surroundings =>
      (beginOutboundImage store request surroundings).map Begun.store
  | .completeOutboundText result now =>
      (completeOutboundText store result now).map Completed.store
  | .completeOutboundImage result mediaUrl now =>
      (completeOutboundImage store result mediaUrl now).map Completed.store

def step (library : TextLibrary) : MessageStore → Call → MessageStore → Prop :=
  Transition.ofPartial (applyCall library)

end XianyuAdmin.Messages
