import XianyuAdmin.Pushes.HistoryMessages

/-!
# Listing conversations

The conversations of an account are listed page by page from the newest on.  The platform answers
a request with a page, with a rate limit, which is tried again, or with another error.
-/

namespace XianyuAdmin.Pushes

open XianyuAdmin.Messages
open XianyuAdmin.Python

variable (library : PushLibrary)

def asBool (value : Json) : Bool :=
  equalsInt value 1 || lower (pyStr library value) = "true"

def firstScalar (members : Members) (keys : List String) : Option String :=
  keys.findSome? fun key =>
    match Json.get members key with
    | .null | .arr _ | .obj _ => none
    | candidate => textOrNone (strip (pyStr library candidate))

structure ConversationSummary where
  accountId : String
  conversationId : String
  peerUserId : Option String
  peerName : Option String
  itemId : Option String
  itemTitle : Option String
  itemPrice : Option String
  itemImageUrl : Option String
  itemUrl : Option String
  lastMessageContent : String
  lastMessageType : MessageType
  lastMessageDirection : Direction
  lastMessageAtMs : Option ℤ
  unreadCount : ℤ
  rawPayload : Members

def lastMessageAtMs (conversation details : Members) : Except PyError (Option ℤ) := do
  let wrapper := Json.get conversation "lastMessage"
  match ← extractCreatedAtMs library (Json.get wrapper.asObject "message").asObject with
  | some instant => pure (some instant)
  | none =>
      match ← extractCreatedAtMs library wrapper.asObject with
      | some instant => pure (some instant)
      | none =>
          asInt library
            ((Json.get conversation "modifyTime").or
              ((Json.get details "modifyTime").or
                ((Json.get conversation "lastMessageTime").or
                  (Json.get details "lastMessageTime"))))

/-- `_parse_conversation_summary`, for a conversation with details. -/
def parseConversationDetails (session : PushSession) (raw conversation details : Members) :
    Except PyError (Option ConversationSummary) :=
  let conversationId := stripGoofish library (Json.get details "cid")
  let first := stripGoofish library (Json.get details "pairFirst")
  let peerId :=
    if first = session.myId then stripGoofish library (Json.get details "pairSecond") else first
  if conversationId = "" ∨ peerId = "" ∨ peerId = "0" then .ok none
  else do
    let lastMessage :=
      (Json.get (Json.get conversation "lastMessage").asObject "message").asObject
    let instant ← lastMessageAtMs library conversation details
    let extension ← asDict library (Json.get lastMessage "extension")
    let senderId := stripGoofish library (Json.get extension "senderUserId")
    let content ← parseHistoryContent library lastMessage
    let detailExtension ← asDict library (Json.get details "extension")
    let itemId := (Json.get detailExtension "itemId").or (Json.get detailExtension "item_id")
    let foundItemId ←
      if strOrEmpty library itemId = "" then
        extractItemId library library.recursionLimit (.obj raw)
      else pure (some (strOrEmpty library itemId))
    let unreadCount ← asInt library (Json.get conversation "redPoint")
    pure (some
      { accountId := session.accountId
        conversationId := conversationId
        peerUserId := some peerId
        peerName := if senderId = peerId then extractPeerName library extension peerId else none
        itemId := foundItemId
        itemTitle := firstScalar library detailExtension ["itemTitle", "title", "subject"]
        itemPrice := firstScalar library detailExtension ["itemPrice", "price", "salePrice"]
        itemImageUrl :=
          firstScalar library detailExtension ["itemPic", "mainPic", "picUrl", "imageUrl"]
        itemUrl := firstScalar library detailExtension ["itemUrl", "jumpUrl", "targetUrl", "url"]
        lastMessageContent := content.2
        lastMessageType := content.1
        lastMessageDirection := session.direction senderId
        lastMessageAtMs := instant
        unreadCount := unreadCount.getD 0
        rawPayload := raw })

def parseConversationSummary (session : PushSession) (raw : Members) :
    Except PyError (Option ConversationSummary) :=
  let found :=
    if hasKey raw "singleChatUserConversation" then Json.get raw "singleChatUserConversation"
    else .obj raw
  match found with
  | .obj conversation =>
      match Json.get conversation "singleChatConversation" with
      | .obj details => parseConversationDetails library session raw conversation details
      | _ => .ok none
  | _ => .ok none

inductive ListingError
  /-- `_send_and_wait` raises. -/
  | request (text : String)
  | runtimeError (text : String)
  | python (error : PyError)
  deriving DecidableEq, Repr

structure ConversationPage where
  items : List ConversationSummary
  hasMore : Bool
  nextCursor : Option ℤ

/-- `response.get("body") if isinstance(response.get("body"), dict) else {}` -/
def responseBody (response : Members) : Members :=
  (Json.get response "body").asObject

/-- `str(last_body.get("code") or "")` -/
def bodyCode (response : Members) : String :=
  strOrEmpty library (Json.get (responseBody response) "code")

/-- The loop of `list_conversations`, which may still make `attempts` requests; `answers` are
what these get. -/
def lastResponse : ℕ → (ℕ → Except String Members) → Except ListingError Members
  | 0, _ => .ok []
  | attempts + 1, answers =>
      match answers 0 with
      | .error text => .error (.request text)
      | .ok response =>
          if bodyCode library response ≠ "400600001" ∨ attempts = 0 then .ok response
          else lastResponse attempts fun attempt => answers (attempt + 1)

/-- The items of a page. -/
def parseConversations (session : PushSession) :
    List Json → Except PyError (List ConversationSummary)
  | [] => .ok []
  | .obj raw :: rest => do
      let parsed ← parseConversationSummary library session raw
      let items ← parseConversations session rest
      pure (parsed.toList ++ items)
  | _ :: rest => parseConversations session rest

def readPage (session : PushSession) (body : Members) : Except PyError ConversationPage := do
  let raws ← iterate (if hasKey body "userConvs" then Json.get body "userConvs" else .arr [])
  let items ← parseConversations library session raws
  let nextCursor ← asInt library (Json.get body "nextCursor")
  pure
    { items := items
      hasMore := asBool library (Json.get body "hasMore")
      nextCursor := nextCursor }

/-- `list_conversations`, from the answers to its requests. -/
def listConversations (session : PushSession) (answers : ℕ → Except String Members) :
    Except ListingError ConversationPage := do
  let response ← lastResponse library 3 answers
  let body := responseBody response
  if hasKey body "reason" then
    let reason := (Json.get body "reason").or (Json.get body "code")
    throw (.runtimeError (if reason.isTrue then pyStr library reason else "IM error"))
  else
    (readPage library session body).mapError .python

/-- `str(response.get("code", 200 if "body" in response else None)) == "200"` -/
def hasSuccessCode (response : Members) : Bool :=
  if hasKey response "code" then pyStr library (Json.get response "code") = "200"
  else hasKey response "body"

def isSuccessful (response : Members) : Bool :=
  hasSuccessCode library response && isObject (Json.get response "body") &&
    bodyCode library response = "" && !hasKey (responseBody response) "reason"

def GivesReason (response : Members) : Prop :=
  isSuccessful library response = false → hasKey (responseBody response) "reason" = true

end XianyuAdmin.Pushes
