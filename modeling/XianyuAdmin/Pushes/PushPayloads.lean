import XianyuAdmin.Core.Json
import XianyuAdmin.Messages.Conversations

/-!
# Chat events in pushed payloads

The platform pushes packages of entries, each of which is a JSON object, or text that
decodes to one.  A chat event is read from an object by many small converters, which look
into text that the other party has written.  Some of them raise.
-/

namespace XianyuAdmin.Pushes

open XianyuAdmin.Messages
open XianyuAdmin.Python

/-- The classes of what the converters raise. -/
inductive PyError
  | attributeError
  | typeError
  | keyError
  | valueError
  | overflowError
  | recursionError
  deriving DecidableEq, Repr

/-- What `json.loads` raises: a `JSONDecodeError`, a `ValueError` for an integer with too
many digits, a `RecursionError` for a value that is nested too deeply. -/
inductive LoadsError
  | jsonDecodeError
  | other (error : PyError)
  deriving DecidableEq, Repr

structure PushLibrary where
  loads : String → Except LoadsError Json
  /-- `base64.b64decode(text + "=" * (-len(text) % 4)).decode("utf-8")`, if it returns. -/
  base64Text : String → Option String
  /-- `upstream.decrypt`, if it returns. -/
  decrypt : String → Option String
  /-- `str(value)` of a value that is not a string. -/
  str : Json → String
  /-- `text.isdigit()` -/
  isDigit : String → Bool
  /-- `int(text)`, or `none` for a `ValueError`. -/
  int : String → Option ℤ
  /-- `int(value)` of a finite float. -/
  truncate : String → ℤ
  /-- `parse_qs(urlparse(text).query)`, or `none` for a `ValueError`. -/
  query : String → Option (List (String × List String))
  /-- `html_to_plain_text` of a string. -/
  plainText : String → String
  texts : TextLibrary
  /-- How deep `_extract_item_id` may call itself. -/
  recursionLimit : ℕ

variable (library : PushLibrary)

abbrev Members := List (String × Json)

/-- `str(value)` -/
def pyStr : Json → String
  | .str text => text
  | value => library.str value

/-- `str(value or "")` -/
def strOrEmpty (value : Json) : String :=
  if value.isTrue then pyStr library value else ""

def textOrNone (text : String) : Option String :=
  if text = "" then none else some text

/-- `name in value` for a `dict`. -/
def hasKey (members : Members) (name : String) : Bool :=
  members.any fun member => member.1 = name

/-- `int(value)` of a float. -/
def intOfFloat (text : String) : Except PyError ℤ :=
  if text = "nan" then .error .valueError
  else if text = "inf" ∨ text = "-inf" then .error .overflowError
  else .ok (library.truncate text)

/-- `value == number` for an integer constant. -/
def equalsInt (value : Json) (number : ℤ) : Bool :=
  match value with
  | .int given => given = number
  | .float text => text = toString number ++ ".0"
  | .bool given => number = if given then 1 else 0
  | _ => false

/-- The items that `for item in value` goes through, as far as they can be objects: a string
and a `dict` yield strings. -/
def iterate : Json → Except PyError (List Json)
  | .arr items => .ok items
  | .str text => .ok (text.toList.map fun char => .str (String.singleton char))
  | .obj members => .ok (members.map fun member => .str member.1)
  | .null | .bool _ | .int _ | .float _ => .error .typeError

def stripGoofish (value : Json) : String :=
  String.ofList ((strOrEmpty library value).toList.takeWhile fun char => char ≠ '@')

def asInt : Json → Except PyError (Option ℤ)
  | .bool value => .ok (some (if value then 1 else 0))
  | .int value => .ok (some value)
  | .float text => (intOfFloat library text).map some
  | .str text =>
      if library.isDigit text then
        (library.int text).elim (.error .valueError) fun number => .ok (some number)
      else .ok none
  | .null | .arr _ | .obj _ => .ok none

/-- The loop of `_decode_json_value` over its candidates. -/
def firstObject : List String → Except PyError (Option Members)
  | [] => .ok none
  | candidate :: rest =>
      match library.loads candidate with
      | .ok (.obj members) => .ok (some members)
      | .ok _ => firstObject rest
      | .error .jsonDecodeError => firstObject rest
      | .error (.other error) => .error error

/-- The candidates of `_decode_json_value`. -/
def candidates (text : String) (base64Allowed : Bool) : List String :=
  text :: if base64Allowed then (library.base64Text text).toList else []

def decodeJsonValue (value : Json) (base64Allowed : Bool) : Except PyError (Option Members) :=
  match value with
  | .obj members => .ok (some members)
  | .str text =>
      if text = "" then .ok none
      else firstObject library (candidates library text base64Allowed)
  | _ => .ok none

/-- `_decode_json_value`, where the caller tests whether the result is true. -/
def decodeNonEmpty (value : Json) : Except PyError (Option Members) :=
  (decodeJsonValue library value true).map fun decoded =>
    decoded.filter fun members => !members.isEmpty

def asDict (value : Json) : Except PyError Members :=
  (decodeJsonValue library value false).map fun decoded => decoded.getD []

def decodeSyncData (data : Json) : Except PyError (Option Members) :=
  match data with
  | .obj members => .ok (some members)
  | .str text => do
      let decoded ← decodeJsonValue library data true
      match decoded with
      | some members => pure (some members)
      | none =>
          match library.decrypt text with
          | none => pure none
          | some decrypted => decodeJsonValue library (.str decrypted) false
  | _ => .ok none

/-- `int(decoded.get("contentType"))`, with the handler for `TypeError` and `ValueError`. -/
def contentTypeInt (value : Json) : Except PyError (Option ℤ) :=
  match value with
  | .bool given => .ok (some (if given then 1 else 0))
  | .int given => .ok (some given)
  | .float text =>
      match intOfFloat library text with
      | .ok number => .ok (some number)
      | .error .valueError => .ok none
      | .error error => .error error
  | .str text => .ok (library.int text)
  | .null | .arr _ | .obj _ => .ok none

def htmlToPlainText : Json → String
  | .str text => if strip text = "" then "" else library.plainText text
  | _ => ""

def textCardContent (decoded : Members) (contentType : Option ℤ) : Option String :=
  match Json.get decoded "textCard" with
  | .obj textCard =>
      if contentType ≠ some 6 then none
      else
        let title := htmlToPlainText library (Json.get textCard "title")
        let body := htmlToPlainText library
          ((Json.get textCard "content").or (Json.get textCard "memo"))
        if title ≠ "" ∧ body ≠ "" ∧ title ≠ body then some (title ++ "\n" ++ body)
        else if title ≠ "" then some title
        else if body ≠ "" then some body
        else some "[平台通知]"
  | _ => none

def parseTextCardContent (decoded : Members) : Except PyError (Option String) :=
  (contentTypeInt library (Json.get decoded "contentType")).map
    (textCardContent library decoded)

/-- The text of `_interpret_content`, if the content is a text. -/
def plainContent (decoded : Members) : Option String :=
  match Json.get decoded "text" with
  | .obj text =>
      match Json.get text "text" with
      | .null => none
      | value => some (strOrEmpty library value)
  | .str text => some text
  | _ => none

/-- `image.get("pics", [])` -/
def imagePics (decoded : Members) : Except PyError (List Json) :=
  match Json.get decoded "image" with
  | .obj image => if hasKey image "pics" then iterate (Json.get image "pics") else .ok []
  | _ => .ok []

def imageUrls (decoded : Members) (pics : List Json) : List String :=
  let urls := pics.filterMap fun pic =>
    match pic with
    | .obj members =>
        if (Json.get members "url").isTrue then some (pyStr library (Json.get members "url"))
        else none
    | _ => none
  let picUrl := Json.get decoded "picUrl"
  if picUrl.isTrue then urls ++ [pyStr library picUrl] else urls

/-- `audio.get("duration") if isinstance(audio, dict) else None` -/
def audioDuration (audio : Json) : Json :=
  Json.get audio.asObject "duration"

def isObject : Json → Bool
  | .obj _ => true
  | _ => false

def isAudio (decoded : Members) : Bool :=
  isObject (Json.get decoded "audio") || equalsInt (Json.get decoded "contentType") 3

/-- The end of `_interpret_content`. -/
def interpretOther (decoded fallback : Members) : MessageType × String :=
  let title := (Json.get decoded "title").or (Json.get decoded "template")
  let summary := (Json.get fallback "summary").or (Json.get fallback "degrade")
  if title.isTrue then (.card, pyStr library title)
  else if summary.isTrue then (.text, pyStr library summary)
  else
    let contentType :=
      if hasKey decoded "contentType" then pyStr library (Json.get decoded "contentType") else ""
    (.unknown, "[未知消息类型:" ++ contentType ++ "]")

/-- `_interpret_content` after the pictures. -/
def interpretMedia (decoded fallback : Members) (urls : List String) :
    Except PyError (MessageType × String) :=
  if urls ≠ [] ∨ equalsInt (Json.get decoded "contentType") 2 = true then
    .ok (.image, if urls = [] then "[图片]" else "\n".intercalate urls.eraseDups)
  else if isAudio decoded then
    (asInt library (audioDuration (Json.get decoded "audio"))).map fun duration =>
      (.audio, duration.elim "[语音]" fun seconds => "[语音 " ++ toString seconds ++ "秒]")
  else .ok (interpretOther library decoded fallback)

def interpretContent (decoded fallback : Members) :
    Except PyError (MessageType × String) := do
  match ← parseTextCardContent library decoded with
  | some textCard => pure (.system, textCard)
  | none =>
      match plainContent library decoded with
      | some text => pure (.text, text)
      | none => do
          let pics ← imagePics decoded
          interpretMedia library decoded fallback (imageUrls library decoded pics)

/-- `message_content.get("3", {}) if isinstance(message_content, dict) else {}` -/
def nestedContent (messageNode : Members) : Json :=
  match Json.get messageNode "6" with
  | .obj content => if hasKey content "3" then Json.get content "3" else .obj []
  | _ => .obj []

/-- `_parse_push_content`, for decoded content that is not empty. -/
def interpretPushed (decoded nested metadata : Members) :
    Except PyError (MessageType × String) :=
  (interpretContent library decoded nested).map fun interpreted =>
    if interpreted.1 ≠ .unknown then interpreted
    else
      let fallback := strOrEmpty library
        ((Json.get nested "2").or (Json.get metadata "reminderContent"))
      (interpreted.1, if fallback = "" then interpreted.2 else fallback)

/-- What `_parse_push_content` returns when no content was decoded. -/
def reminderContent (metadata : Members) : MessageType × String :=
  let reminder := strOrEmpty library (Json.get metadata "reminderContent")
  if reminder = "[图片]" then (.image, reminder)
  else if reminder = "[语音]" then (.audio, reminder)
  else (if reminder = "" then .unknown else .text, reminder)

def parsePushContent (messageNode metadata : Members) :
    Except PyError (MessageType × String) :=
  match nestedContent messageNode with
  | .obj nested => do
      match ← decodeNonEmpty library (Json.get nested "5") with
      | some decoded => interpretPushed library decoded nested metadata
      | none =>
          if (Json.get nested "2").isTrue then
            pure (.card, pyStr library (Json.get nested "2"))
          else
            match ← decodeNonEmpty library (Json.get nested "1") with
            | some decoded => interpretPushed library decoded nested metadata
            | none => pure (reminderContent library metadata)
  | _ => .ok (reminderContent library metadata)

structure ChatMediaAttachment where
  attachmentType : String
  remoteUrl : String
  mimeType : Option String := none
  sizeBytes : Option ℤ := none
  durationSeconds : Option ℤ := none
  deriving DecidableEq, Repr

def audioAttachment (decoded : Option Members) : Except PyError (Option ChatMediaAttachment) :=
  match Json.get (decoded.getD []) "audio" with
  | .obj audio =>
      let url := strip (strOrEmpty library (Json.get audio "url"))
      if url = "" then .ok none
      else do
        let sizeBytes ← asInt library ((Json.get audio "sizeBytes").or (Json.get audio "size"))
        let durationSeconds ← asInt library (Json.get audio "duration")
        pure (some
          { attachmentType := "audio"
            remoteUrl := url
            mimeType := some "audio/amr"
            sizeBytes := sizeBytes
            durationSeconds := durationSeconds })
  | _ => .ok none

/-- The loop of `_parse_push_attachments`. -/
def firstAttachment (nested : Members) :
    List String → Except PyError (List ChatMediaAttachment)
  | [] => .ok []
  | key :: rest => do
      let decoded ← decodeJsonValue library (Json.get nested key) true
      match ← audioAttachment library decoded with
      | some attachment => pure [attachment]
      | none => firstAttachment nested rest

def parsePushAttachments (messageNode : Members) :
    Except PyError (List ChatMediaAttachment) :=
  match nestedContent messageNode with
  | .obj nested => firstAttachment library nested ["5", "1"]
  | _ => .ok []

/-- The loop of `_message_id_from_meta`. -/
def firstMessageId (metadata : Members) : List String → Except PyError (Option String)
  | [] => .ok none
  | key :: rest => do
      let nested ← asDict library (Json.get metadata key)
      if (Json.get nested "messageId").isTrue then
        pure (some (pyStr library (Json.get nested "messageId")))
      else firstMessageId metadata rest

def messageIdFromMeta (metadata : Members) : Except PyError (Option String) :=
  firstMessageId library metadata ["bizTag", "extJson"]

def extractPushMessageId (messageNode metadata : Members) : Except PyError (Option String) :=
  let value := (Json.get messageNode "3").or (Json.get metadata "messageId")
  if value.isTrue then .ok (some (pyStr library value))
  else (messageIdFromMeta library metadata).map fun messageId => messageId.bind textOrNone

def systemMessageId (payload metadata : Members) : Except PyError (Option String) :=
  let value := Json.get payload "3"
  if value.isTrue then .ok (textOrNone (pyStr library value))
  else (messageIdFromMeta library metadata).map fun messageId => messageId.bind textOrNone

/-- The loop of `_extract_created_at_ms`. -/
def firstInt (messageNode : Members) : List String → Except PyError (Option ℤ)
  | [] => .ok none
  | key :: rest => do
      match ← asInt library (Json.get messageNode key) with
      | some value => pure (some value)
      | none => firstInt messageNode rest

def extractCreatedAtMs (messageNode : Members) : Except PyError (Option ℤ) :=
  firstInt library messageNode ["5", "createAt", "createdAt", "time", "timestamp"]

def itemIdOfUrl (text : String) : Option String :=
  if contains "item" (lower text) && (contains "?" text || contains "&" text) then
    let lowered := ((library.query text).getD []).reverse.map fun entry =>
      (lower entry.1, entry.2)
    ["itemid", "item_id", "auctionid"].findSome? fun key =>
      ((lowered.lookup key).bind List.head?).bind textOrNone
  else none

/-- The loop of `_extract_item_id` over a list. -/
def firstItemId (extract : Json → Except PyError (Option String)) :
    List Json → Except PyError (Option String)
  | [] => .ok none
  | value :: rest => do
      match (← extract value).bind textOrNone with
      | some itemId => pure (some itemId)
      | none => firstItemId extract rest

/-- The loop of `_extract_item_id` over a `dict`. -/
def firstMemberItemId (extract : Json → Except PyError (Option String)) :
    Members → Except PyError (Option String)
  | [] => .ok none
  | (key, value) :: rest =>
      if (key = "itemId" || key = "item_id") && value.isTrue then
        .ok (some (pyStr library value))
      else do
        match (← extract value).bind textOrNone with
        | some itemId => pure (some itemId)
        | none => firstMemberItemId extract rest

/-- `_extract_item_id`, which may still call itself `depth` deep. -/
def extractItemId : ℕ → Json → Except PyError (Option String)
  | 0, _ => .error .recursionError
  | depth + 1, .obj members => firstMemberItemId library (extractItemId depth) members
  | depth + 1, .arr items => firstItemId (extractItemId depth) items
  | depth + 1, .str text =>
      match itemIdOfUrl library (strip text) with
      | some itemId => .ok (some itemId)
      | none => do
          match ← decodeJsonValue library (.str (strip text)) true with
          | some decoded => extractItemId depth (.obj decoded)
          | none => pure none
  | _ + 1, _ => .ok none

structure ChatMessageEvent where
  accountId : String
  conversationId : String
  messageId : Option String
  peerUserId : Option String
  peerName : Option String
  direction : Direction
  messageType : MessageType
  content : String
  rawPayload : Members
  itemId : Option String
  createdAtMs : Option ℤ
  attachments : List ChatMediaAttachment := []

def extractPeerName (metadata : Members) (peerUserId : String) : Option String :=
  ["senderNick", "reminderTitle"].findSome? fun key =>
    match Json.get metadata key with
    | .null => none
    | value => normalizePeerName library.texts (some peerUserId) (some (pyStr library value))

structure PushSession where
  accountId : String
  myId : String

def PushSession.direction (session : PushSession) (senderId : String) : Direction :=
  if senderId = session.myId then .outbound else .inbound

/-- The branch of `_parse_push_payload` for a chat message. -/
def parseChatMessage (session : PushSession) (payload messageNode : Members) :
    Except PyError (Option ChatMessageEvent) :=
  let conversationId := stripGoofish library (Json.get messageNode "2")
  if conversationId = "" then .ok none
  else do
    let metadata := (Json.get messageNode "10").asObject
    let senderId := stripGoofish library (Json.get metadata "senderUserId")
    let direction := session.direction senderId
    let content ← parsePushContent library messageNode metadata
    let peerId :=
      if direction = .inbound then senderId
      else stripGoofish library
        ((Json.get metadata "receiverUserId").or (Json.get metadata "receiverId"))
    let messageId ← extractPushMessageId library messageNode metadata
    let itemId ← extractItemId library library.recursionLimit (.obj payload)
    let createdAtMs ← extractCreatedAtMs library messageNode
    let attachments ← parsePushAttachments library messageNode
    pure (some
      { accountId := session.accountId
        conversationId := conversationId
        messageId := messageId
        peerUserId := textOrNone peerId
        peerName := if direction = .inbound then extractPeerName library metadata peerId else none
        direction := direction
        messageType := content.1
        content := content.2
        rawPayload := payload
        itemId := itemId
        createdAtMs := createdAtMs
        attachments := attachments })

/-- The branch of `_parse_push_payload` for a system message. -/
def parseSystemMessage (session : PushSession) (payload metadata : Members) :
    Except PyError (Option ChatMessageEvent) :=
  let conversationId := stripGoofish library (Json.get payload "2")
  if conversationId = "" then .ok none
  else do
    let senderId := stripGoofish library (Json.get metadata "senderUserId")
    let direction := session.direction senderId
    let reminder := strOrEmpty library (Json.get metadata "reminderContent")
    let messageId ← systemMessageId library payload metadata
    let itemId ← extractItemId library library.recursionLimit (.obj payload)
    let createdAtMs ← extractCreatedAtMs library payload
    pure (some
      { accountId := session.accountId
        conversationId := conversationId
        messageId := messageId
        peerUserId := if direction = .inbound then some senderId else none
        peerName :=
          if direction = .inbound then extractPeerName library metadata senderId else none
        direction := direction
        messageType := .system
        content :=
          if (Json.get metadata "reminderContent").isTrue then reminder else "[系统消息]"
        rawPayload := payload
        itemId := itemId
        createdAtMs := createdAtMs })

def parsePushPayload (session : PushSession) (payload : Members) :
    Except PyError (Option ChatMessageEvent) :=
  match Json.get payload "1", Json.get payload "4" with
  | .obj messageNode, _ => parseChatMessage library session payload messageNode
  | .str _, .obj metadata => parseSystemMessage library session payload metadata
  | _, _ => .ok none

end XianyuAdmin.Pushes
