import XianyuAdmin.Cards.ItemLinks
import XianyuAdmin.Messages.MessageStore

/-!
# Summaries of conversations from the platform

`_upsert_conversation_sync` writes one summary into its conversation, the identity of its peer
and the read states; `_upsert_conversations_sync` writes a page of them in one transaction,
with the identities fetched beforehand and only the columns that change.  Both are given here
for a stored account; `updated_at`, the generated ids and the returned payloads are left out.
-/

namespace XianyuAdmin.Messages

open XianyuAdmin.Cards
open XianyuAdmin.Python
open Function (update)

structure SummaryEntry where
  conversationId : String
  peerUserId : Option String := none
  peerName : Option String := none
  itemId : Option String := none
  itemTitle : Option String := none
  itemPrice : Option String := none
  itemImageUrl : Option String := none
  itemUrl : Option String := none
  lastMessageContent : String := ""
  lastMessageType : String := "unknown"
  lastMessageDirection : Option String := none
  lastMessageAtMs : Option ℤ := none
  unreadCount : ℤ := 0
  deriving DecidableEq

/-- A row of `xianyu_conversations` with its item columns. -/
structure ConversationRow extends Conversation where
  item : ItemColumns := ⟨none, none, none, none, none, none, none⟩
  deriving DecidableEq

structure UpsertStore where
  conversations : String → Option ConversationRow
  identities : String → Option PeerIdentity
  readStates : String → String → Option ReadState

namespace UpsertStore

def row (store : UpsertStore) (conversationId : String) : ConversationRow :=
  (store.conversations conversationId).getD {}

/-- `_get_peer_identity` -/
def identity (store : UpsertStore) (peerUserId : Option String) : Option PeerIdentity :=
  if truthy peerUserId then peerUserId.bind store.identities else none

/-- The identity that `_merge_peer_identity` leaves under its key. -/
def putIdentity (store : UpsertStore) (key : String) (identity : Option PeerIdentity) :
    UpsertStore :=
  { store with
    identities := if identity.isSome then update store.identities key identity
      else store.identities }

def putRow (store : UpsertStore) (conversationId : String) (row : ConversationRow) :
    UpsertStore :=
  { store with conversations := update store.conversations conversationId (some row) }

def incrementExistingReadStates (store : UpsertStore) (conversationId : String) (amount : ℕ) :
    UpsertStore :=
  { store with
    readStates := update store.readStates conversationId fun userId =>
      (store.readStates conversationId userId).map fun state =>
        { state with unreadCount := state.unreadCount + amount } }

end UpsertStore

/-- `last_message_at_ms` in milliseconds, unless it is zero. -/
def SummaryEntry.messageTime (entry : SummaryEntry) : Option ℤ :=
  (normalizeEpochMilliseconds entry.lastMessageAtMs).filter fun milliseconds => milliseconds ≠ 0

/-- `observed_at`; `none` is the exception of `datetime.fromtimestamp`. -/
def SummaryEntry.observedAt (entry : SummaryEntry) (now : ℤ) : Option ℤ :=
  match entry.messageTime with
  | none => some now
  | some milliseconds => if isInstant milliseconds then some milliseconds else none

/-- `_apply_authoritative_conversation_summary` -/
def ConversationRow.applyAuthoritativeSummary (row : ConversationRow) (direction : Option String)
    (messageType : MessageType) (createdAt : ℤ) : ConversationRow :=
  if !truthy direction then row
  else
    match normalizeDirection (direction.getD "") with
    | .inbound =>
        if messageType.asksForReply then
          { row with lastInboundAt := some createdAt, needsReply := true }
        else row
    | .outbound => { row with lastOutboundAt := some createdAt, needsReply := false }

/-- `_normalize_direction(direction) if direction else column` -/
def directionOr (direction : Option String) (column : Option Direction) : Option Direction :=
  if truthy direction then some (normalizeDirection (direction.getD "")) else column

def summaryChanged (entry : SummaryEntry) (observedAt : ℤ) (previous : Option ℤ) : Bool :=
  entry.messageTime.isSome && previous ≠ some observedAt

section Single

variable (library : TextLibrary) (links : Links) (now : ℤ)

def SummaryEntry.itemContext (entry : SummaryEntry) (itemId : String) : ParsedItemContext where
  itemId := itemId
  title := entry.itemTitle
  price := entry.itemPrice
  imageUrl := entry.itemImageUrl
  url := entry.itemUrl
  source := "conversation"

/-- The item columns after the summary; `none` is an exception. -/
def applyItem (entry : SummaryEntry) (observedAt : ℤ) (row : ConversationRow) :
    Option ConversationRow :=
  if truthy entry.itemId then
    (applyConversationItemContext links row.item (entry.itemContext (entry.itemId.getD ""))
      observedAt).map fun applied => { row with item := applied.2 }
  else some row

def applyMessage (entry : SummaryEntry) (observedAt : ℤ) (row : ConversationRow) :
    ConversationRow :=
  let shown : ConversationRow :=
    if entry.messageTime.isSome || row.lastMessageAt.isNone then
      { row with
        lastMessageContent := textOr entry.lastMessageContent row.lastMessageContent
        lastMessageType := normalizeMessageType entry.lastMessageType
        lastMessageDirection := directionOr entry.lastMessageDirection row.lastMessageDirection }
    else row
  if entry.messageTime.isSome then
    { shown with lastMessageAt := some observedAt }.applyAuthoritativeSummary
      entry.lastMessageDirection (normalizeMessageType entry.lastMessageType) observedAt
  else shown

def applyActivity (entry : SummaryEntry) (observedAt : ℤ) (previous : Option ℤ)
    (row : ConversationRow) : ConversationRow :=
  if row.lastActivityAt.isNone then
    { row with
      lastActivityAt := some (if entry.messageTime.isSome then observedAt else 0)
      lastActivityContent := textOr entry.lastMessageContent row.lastMessageContent
      lastActivityType := some (normalizeMessageType entry.lastMessageType)
      lastActivityDirection := directionOr entry.lastMessageDirection row.lastMessageDirection }
  else if summaryChanged entry observedAt previous then
    { row with
      lastActivityAt := some observedAt
      lastActivityContent := textOr entry.lastMessageContent row.lastMessageContent
      lastActivityType := some (normalizeMessageType entry.lastMessageType)
      lastActivityDirection := directionOr entry.lastMessageDirection row.lastMessageDirection }
  else row

/-- `_upsert_conversation_sync`; `none` is an exception, which changes nothing. -/
def upsertConversation (store : UpsertStore) (entry : SummaryEntry) : Option UpsertStore :=
  let previous := store.row entry.conversationId
  (entry.observedAt now).bind fun observedAt =>
    let peerUserId := orElse entry.peerUserId previous.peerUserId
    let merged := mergePeerIdentity library peerUserId entry.peerName previous.peerName
      "conversation" observedAt (store.identity peerUserId)
    let named : ConversationRow :=
      { previous with peerUserId := peerUserId, peerName := merged.1 }
    (applyItem links entry observedAt named).map fun withItem =>
      let shown := applyMessage entry observedAt withItem
      let counted : ConversationRow := { shown with unreadCount := entry.unreadCount.toNat }
      let final := applyActivity entry observedAt previous.lastMessageAt counted
      ((store.putIdentity (peerUserId.getD "") merged.2).incrementExistingReadStates
        entry.conversationId (counted.unreadCount - previous.unreadCount)).putRow
          entry.conversationId final

end Single

end XianyuAdmin.Messages
