import XianyuAdmin.Core.Python

/-!
# Conversations, peers and read states

A conversation row sums up the messages of one chat: the last of them, how many
there are, how many are unread, and whether the buyer waits for an answer.  Next
to it stand the name under which the peer is known and, for each user of the
admin service, how much of the conversation the user has not read.  Instants are
milliseconds since the epoch and may lie before it.
-/

namespace XianyuAdmin.Messages

open XianyuAdmin.Python

inductive Direction
  | inbound
  | outbound
  deriving DecidableEq, Repr

def Direction.text : Direction → String
  | .inbound => "inbound"
  | .outbound => "outbound"

def normalizeDirection (value : String) : Direction :=
  if value = "outbound" then .outbound else .inbound

inductive MessageType
  | text
  | image
  | audio
  | card
  | system
  | unknown
  deriving DecidableEq, Repr

def MessageType.name : MessageType → String
  | .text => "text"
  | .image => "image"
  | .audio => "audio"
  | .card => "card"
  | .system => "system"
  | .unknown => "unknown"

def normalizeMessageType (value : String) : MessageType :=
  if value = "text" then .text
  else if value = "image" then .image
  else if value = "audio" then .audio
  else if value = "card" then .card
  else if value = "system" then .system
  else .unknown

@[simp]
theorem normalizeMessageType_name (messageType : MessageType) :
    normalizeMessageType messageType.name = messageType := by
  cases messageType <;> rfl

@[simp]
theorem normalizeDirection_text (direction : Direction) :
    normalizeDirection direction.text = direction := by
  cases direction <;> rfl

structure TextLibrary where
  /-- `unicodedata.normalize("NFKC", text)`. -/
  nfkc : String → String
  casefold : String → String
  /-- `hashlib.sha256(text.encode("utf-8")).hexdigest()`. -/
  sha256Hex : String → String

def tabulated (digests : List (String × String)) : TextLibrary where
  nfkc := id
  casefold := lower
  sha256Hex := fun text => (digests.lookup text).getD ""

def noticeTitles : List String :=
  ["你有一条新消息", "你有新的消息", "您有一条新消息", "发来一条新消息", "闲鱼新消息",
    "闲鱼消息", "交易消息", "系统消息", "快给ta一个评价吧~", "我完成了评价",
    "卖家人不错?送ta闲鱼小红花", "可以送ta闲鱼小红花吗~", "买家已拍下,待付款",
    "等待您发货", "等待你发货", "我发起了退款申请", "我将「退货退款」修改为「退款」",
    "闲鱼游戏交易安全提醒"]

def normalizePeerName (library : TextLibrary) (peerUserId : Option String) :
    Option String → Option String
  | none => none
  | some value =>
      let name := strip value
      let comparable := library.casefold (strip (library.nfkc name))
      if name = "" then none
      else if comparable ∈ noticeTitles then none
      else if truthy peerUserId &&
          comparable = library.casefold (strip (peerUserId.getD "")) then none
      else some name

def mergePeerName (library : TextLibrary) (peerUserId current candidate : Option String) :
    Option String :=
  orElse (normalizePeerName library peerUserId candidate)
    (normalizePeerName library peerUserId current)

/-- A row of `xianyu_peer_identities`. -/
structure PeerIdentity where
  displayName : String
  source : String
  lastSeenAt : ℤ
  deriving DecidableEq, Repr

/-- `_merge_peer_identity`: the name to show, and the identity row afterwards. -/
def mergePeerIdentity (library : TextLibrary) (peerUserId candidate fallback : Option String)
    (source : String) (observedAt : ℤ) (identity : Option PeerIdentity) :
    Option String × Option PeerIdentity :=
  let normalize := normalizePeerName library peerUserId
  let candidateName := normalize candidate
  let fallbackName := normalize fallback
  let currentName := normalize (identity.map PeerIdentity.displayName)
  if !truthy peerUserId then (orElse candidateName fallbackName, identity)
  else
    let canReplace := identity.elim true fun identity =>
      !truthy currentName || identity.lastSeenAt ≤ observedAt
    let resolvedName :=
      orElse
        (orElse (if truthy candidateName && canReplace then candidateName else currentName)
          fallbackName)
        candidateName
    if !truthy resolvedName then (none, identity)
    else
      match identity with
      | none =>
          (resolvedName,
            some
              { displayName := resolvedName.getD ""
                source := source
                lastSeenAt := observedAt })
      | some identity =>
          if truthy candidateName && canReplace then
            (candidateName,
              some
                { displayName := candidateName.getD ""
                  source := source
                  lastSeenAt := observedAt })
          else (resolvedName, some identity)

/-- A row of `xianyu_conversations`. -/
structure Conversation where
  peerUserId : Option String := none
  peerName : Option String := none
  lastMessageContent : Option String := none
  lastMessageType : MessageType := .unknown
  lastMessageDirection : Option Direction := none
  lastMessageAt : Option ℤ := none
  lastActivityAt : Option ℤ := none
  lastActivityContent : Option String := none
  lastActivityType : Option MessageType := none
  lastActivityDirection : Option Direction := none
  messageCount : ℕ := 0
  unreadCount : ℕ := 0
  needsReply : Bool := false
  lastInboundAt : Option ℤ := none
  lastOutboundAt : Option ℤ := none
  deriving DecidableEq, Repr

def datetimeAtOrAfter (value : ℤ) (reference : Option ℤ) : Bool :=
  reference.all fun reference => reference ≤ value

def MessageType.asksForReply : MessageType → Bool
  | .text | .image | .audio | .unknown => true
  | .card | .system => false

namespace Conversation

/-- `_apply_conversation_work_state`. -/
def applyWorkState (conversation : Conversation) (direction : Direction)
    (messageType : MessageType) (createdAt : ℤ) (sendSuccess : Option Bool) :
    Conversation :=
  match direction with
  | .inbound =>
      if messageType.asksForReply then
        { conversation with
          lastInboundAt :=
            if datetimeAtOrAfter createdAt conversation.lastInboundAt then some createdAt
            else conversation.lastInboundAt
          needsReply :=
            if datetimeAtOrAfter createdAt conversation.lastOutboundAt then true
            else conversation.needsReply }
      else conversation
  | .outbound =>
      if sendSuccess ≠ some false then
        { conversation with
          lastOutboundAt :=
            if datetimeAtOrAfter createdAt conversation.lastOutboundAt then some createdAt
            else conversation.lastOutboundAt
          needsReply :=
            if datetimeAtOrAfter createdAt conversation.lastInboundAt then false
            else conversation.needsReply }
      else conversation

def showMessage (conversation : Conversation) (direction : Direction)
    (messageType : MessageType) (content : String) (createdAt : ℤ) : Conversation :=
  if datetimeAtOrAfter createdAt conversation.lastMessageAt then
    { conversation with
      lastMessageContent := some content
      lastMessageType := messageType
      lastMessageDirection := some direction
      lastMessageAt := some createdAt }
  else conversation

/-- The conversation moves to the top of the list. -/
def promote (conversation : Conversation) (direction : Direction)
    (messageType : MessageType) (content : String) (now : ℤ) : Conversation :=
  { conversation with
    lastActivityAt := some now
    lastActivityContent := some content
    lastActivityType := some messageType
    lastActivityDirection := some direction }

def countMessage (conversation : Conversation) : Conversation :=
  { conversation with messageCount := conversation.messageCount + 1 }

def countUnread (conversation : Conversation) : Conversation :=
  { conversation with unreadCount := conversation.unreadCount + 1 }

section Counters

variable (conversation : Conversation) (direction : Direction) (messageType : MessageType)
  (content : String) (createdAt : ℤ) (sendSuccess : Option Bool)

@[simp]
theorem applyWorkState_messageCount :
    (conversation.applyWorkState direction messageType createdAt sendSuccess).messageCount =
      conversation.messageCount := by
  unfold applyWorkState
  cases direction <;> simp only [] <;> split <;> rfl

@[simp]
theorem applyWorkState_unreadCount :
    (conversation.applyWorkState direction messageType createdAt sendSuccess).unreadCount =
      conversation.unreadCount := by
  unfold applyWorkState
  cases direction <;> simp only [] <;> split <;> rfl

@[simp]
theorem showMessage_messageCount :
    (conversation.showMessage direction messageType content createdAt).messageCount =
      conversation.messageCount := by
  unfold showMessage
  split <;> rfl

@[simp]
theorem showMessage_unreadCount :
    (conversation.showMessage direction messageType content createdAt).unreadCount =
      conversation.unreadCount := by
  unfold showMessage
  split <;> rfl

@[simp]
theorem promote_messageCount :
    (conversation.promote direction messageType content createdAt).messageCount =
      conversation.messageCount := rfl

@[simp]
theorem promote_unreadCount :
    (conversation.promote direction messageType content createdAt).unreadCount =
      conversation.unreadCount := rfl

@[simp]
theorem countMessage_messageCount :
    conversation.countMessage.messageCount = conversation.messageCount + 1 := rfl

@[simp]
theorem countMessage_unreadCount :
    conversation.countMessage.unreadCount = conversation.unreadCount := rfl

@[simp]
theorem countUnread_messageCount :
    conversation.countUnread.messageCount = conversation.messageCount := rfl

@[simp]
theorem countUnread_unreadCount :
    conversation.countUnread.unreadCount = conversation.unreadCount + 1 := rfl

end Counters

end Conversation

/-- A row of `xianyu_conversation_read_states`. -/
structure ReadState where
  unreadCount : ℕ := 0
  lastReadMessageId : Option String := none
  lastReadAt : Option ℤ := none
  deriving DecidableEq, Repr

/-- `_increment_read_states_for_inbound`: the read states of one conversation by
user.  A user without one starts at the count of the conversation. -/
def incrementReadStates (enabledUsers : List String) (unreadCount : ℕ)
    (readStates : String → Option ReadState) : String → Option ReadState :=
  fun userId =>
    if userId ∈ enabledUsers then
      match readStates userId with
      | none => some { unreadCount := if unreadCount = 0 then 1 else unreadCount }
      | some state => some { state with unreadCount := state.unreadCount + 1 }
    else readStates userId

end XianyuAdmin.Messages
