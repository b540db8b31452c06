import XianyuAdmin.Core.Json

/-!
# Webhook bodies

Chatwoot posts a JSON object for every event.  Depending on the event, the
message, the conversation and the inbox are nested in it or are the object
itself, and ids come as numbers or as text.
-/

namespace XianyuAdmin.Chatwoot

open XianyuAdmin.Python

abbrev Bytes := List UInt8

/-- How `int(value)` fails: with a `TypeError` or `ValueError`, which its callers
catch, or with the `OverflowError` of an infinite float. -/
inductive IntError
  | notAnInteger
  | overflow
  deriving DecidableEq

structure WebhookLibrary where
  /-- `json.loads` of a body; the error says whether it is a `UnicodeDecodeError` or
  `JSONDecodeError`, or another exception. -/
  loads : Bytes → Except Bool Json
  /-- `raw.decode("utf-8")`, if it returns. -/
  decode : Bytes → Option String
  /-- `text.encode()` -/
  encode : String → Bytes
  /-- `hashlib.sha256(raw).hexdigest()` -/
  sha256 : Bytes → String
  /-- `hmac.new(key, message, hashlib.sha256).hexdigest()` -/
  hmacSha256 : Bytes → Bytes → String
  /-- `text.isdigit()` -/
  isDigit : String → Bool
  /-- `int(value)` -/
  int : Json → Except IntError ℤ
  /-- `str(value)` of a value that is not a string. -/
  str : Json → String
  /-- `decrypt_sensitive` of a stored value. -/
  decrypt : String → Option String
  /-- `json.loads` of a stored payload, if it returns. -/
  loadsText : String → Option Json
  /-- `_chatwoot_epoch_seconds`, which parses numbers and ISO dates; the outer `none` is
  an exception that it does not catch. -/
  epochSeconds : Json → Option (Option ℤ)
  /-- `datetime.fromtimestamp(seconds, UTC)` returns. -/
  isTimestamp : ℤ → Bool
  /-- `PurePosixPath(urlsplit(url).path).suffix`, if it returns. -/
  urlSuffix : String → Option String

variable (library : WebhookLibrary)

abbrev Members := List (String × Json)

def string (value : Json) : String :=
  if value.isTrue then
    match value with
    | .str text => strip text
    | value => strip (library.str value)
  else ""

/-- `_string` of an optional string. -/
def stringOf (value : Option String) : String :=
  strip (value.getD "")

def remoteId (value : Json) : Option String :=
  if string library value = "" then none else some (string library value)

/-- `isinstance(value, dict)` -/
def isObject : Json → Bool
  | .obj _ => true
  | _ => false

/-- `value is True or _string(value).lower() == "true"` -/
def isTrueValue (value : Json) : Bool :=
  match value with
  | .bool true => true
  | value => lower (string library value) = "true"

def eventMessage (payload : Members) : Members :=
  let nested := Json.get payload "message"
  if isObject nested then nested.asObject else payload

def eventConversation (payload : Members) : Members :=
  let nested := Json.get payload "conversation"
  if isObject nested then nested.asObject
  else (Json.get (eventMessage payload) "conversation").asObject

def extractChatwootConversationId (payload : Members) : Option String :=
  let conversation := eventConversation payload
  remoteId library
    (((Json.get conversation "id").or (Json.get conversation "display_id")).or
      (Json.get payload "conversation_id"))

def extractChatwootMessageId (payload : Members) : Option String :=
  remoteId library (Json.get (eventMessage payload) "id")

/-- The loop over candidate ids: the first one that is a positive integer.  `none` is the
exception that the loop does not catch. -/
def firstPositive : List Json → Option (Option ℤ)
  | [] => some none
  | candidate :: candidates =>
      match library.int candidate with
      | .error .notAnInteger => firstPositive candidates
      | .error .overflow => none
      | .ok id => if 0 < id then some (some id) else firstPositive candidates

def inboxObjectId (container : Json) : List Json :=
  if isObject container then [Json.get container.asObject "id"] else []

def extractChatwootInboxId (payload : Members) : Option (Option ℤ) :=
  let message := eventMessage payload
  let conversation := eventConversation payload
  firstPositive library
    ([Json.get payload "inbox_id", Json.get message "inbox_id",
        Json.get conversation "inbox_id"] ++
      inboxObjectId (Json.get payload "inbox") ++
      inboxObjectId (Json.get message "inbox") ++
      inboxObjectId (Json.get conversation "inbox"))

def extractChatwootAccountId (payload : Members) : Option (Option ℤ) :=
  let conversation := eventConversation payload
  firstPositive library
    [Json.get (Json.get payload "account").asObject "id", Json.get payload "account_id",
      Json.get (Json.get conversation "account").asObject "id",
      Json.get conversation "account_id"]

def messageIsOutgoing (value : Json) : Bool :=
  lower (string library value) ∈ ["1", "outgoing"]

def messageIsPrivate (message : Members) : Bool :=
  isTrueValue library (Json.get message "private")

def messageWasDeleted (message : Members) : Bool :=
  isTrueValue library (Json.get (Json.get message "content_attributes").asObject "deleted")

/-- The dictionaries that `for attachment in message.get("attachments") or []` goes through;
`none` is the `TypeError` of a value that cannot be iterated. -/
def attachments (message : Members) : Option (List Members) :=
  let value := Json.get message "attachments"
  if value.isTrue then
    match value with
    | .arr items => some (items.filterMap fun item =>
        if isObject item then some item.asObject else none)
    | .str _ | .obj _ => some []
    | .null | .bool _ | .int _ | .float _ => none
  else some []

/-- `_extract_attachment_urls` over the attachments. -/
def attachmentUrls : List Members → List String → List String
  | [], urls => urls
  | attachment :: rest, urls =>
      let fileType := lower (string library (Json.get attachment "file_type"))
      if fileType ≠ "" ∧ fileType ∉ ["image", "file"] then attachmentUrls rest urls
      else
        let url := string library
          (((Json.get attachment "data_url").or (Json.get attachment "file_url")).or
            (Json.get attachment "download_url"))
        if url ≠ "" ∧ url ∉ urls then attachmentUrls rest (urls ++ [url])
        else attachmentUrls rest urls

def audioFileExtensions : List String :=
  [".aac", ".amr", ".flac", ".m4a", ".mp3", ".oga", ".ogg", ".opus", ".wav", ".wave",
    ".webm"]

/-- The loop of `_attachment_is_audio` over the fields that may hold a file name. -/
def hasAudioName (attachment : Members) : List String → Option Bool
  | [] => some false
  | field :: fields =>
      let value := string library (Json.get attachment field)
      if value = "" then hasAudioName attachment fields
      else
        match library.urlSuffix value with
        | none => none
        | some suffix =>
            if lower suffix ∈ audioFileExtensions then some true
            else hasAudioName attachment fields

/-- `_attachment_is_audio`; `none` is an exception that it raises. -/
def attachmentIsAudio (attachment : Members) : Option Bool :=
  let fileType := lower (string library (Json.get attachment "file_type"))
  let mimeType := lower (string library
    ((Json.get attachment "content_type").or (Json.get attachment "mime_type")))
  if fileType ∈ ["audio", "voice"] ∨ "audio/".toList.isPrefixOf mimeType.toList then some true
  else
    hasAudioName library attachment
      ["file_name", "filename", "data_url", "file_url", "download_url", "source_url"]

/-- The loop of `_has_audio_attachment`. -/
def anyAudio : List Members → Option Bool
  | [] => some false
  | attachment :: rest =>
      match attachmentIsAudio library attachment with
      | none => none
      | some true => some true
      | some false => anyAudio rest

structure ReadSnapshot where
  chatwootConversationId : String
  unreadCount : ℤ
  seenAt : ℤ
  deriving DecidableEq

/-- `"unread_count" in conversation` and the like. -/
def hasMember (members : Members) (name : String) : Bool :=
  members.any fun member => member.1 = name

/-- `max(seen_values)` -/
def latestSeen : List ℤ → Option ℤ
  | [] => none
  | value :: values => some (values.foldl max value)

/-- `_chatwoot_read_snapshot`; the outer `none` is an exception. -/
def chatwootReadSnapshot (payload : Members) : Option (Option ReadSnapshot) :=
  let nested := eventConversation payload
  let conversation :=
    if nested.isEmpty ∧ (hasMember payload "unread_count" ∨
        hasMember payload "agent_last_seen_at" ∨ hasMember payload "assignee_last_seen_at") then
      payload
    else nested
  if hasMember conversation "unread_count" then
    match library.int (Json.get conversation "unread_count") with
    | .error .notAnInteger => some none
    | .error .overflow => none
    | .ok count => do
        let agent ← library.epochSeconds (Json.get conversation "agent_last_seen_at")
        let assignee ← library.epochSeconds (Json.get conversation "assignee_last_seen_at")
        match latestSeen (agent.toList ++ assignee.toList) with
        | none => some none
        | some seenAt =>
            match remoteId library
                (((Json.get conversation "id").or (Json.get conversation "display_id")).or
                  (Json.get payload "conversation_id")) with
            | none => some none
            | some chatwootConversationId =>
                if library.isTimestamp seenAt then
                  some (some ⟨chatwootConversationId, max 0 count, seenAt⟩)
                else none
  else some none

def webhookMaxAgeSeconds : ℤ := 300

/-- `str.startswith("sha256=")` and the slice behind it. -/
def withoutSha256 (signature : String) : String :=
  if "sha256=".toList.isPrefixOf signature.toList then
    String.ofList (signature.toList.drop 7)
  else signature

/-- `text.isascii()`: `hmac.compare_digest` raises on other strings. -/
def isAscii (text : String) : Bool :=
  text.toList.all fun char => char.val < 128

/-- `verify_chatwoot_signature`; `none` is an exception that it raises: a timestamp whose
digits are not decimal, or a signature that is not ASCII. -/
def verifyChatwootSignature (secret : String) (rawBody : Bytes)
    (signature timestamp : Option String) (now : ℤ) : Option Bool :=
  let normalized := withoutSha256 (stringOf signature)
  match timestamp with
  | none => some false
  | some timestamp =>
      if normalized = "" ∨ timestamp = "" ∨ library.isDigit timestamp = false then some false
      else
        match library.int (.str timestamp) with
        | .error _ => none
        | .ok sent =>
            if webhookMaxAgeSeconds < |now - sent| then some false
            else
              let expected := library.hmacSha256 (library.encode secret)
                (library.encode (timestamp ++ ".") ++ rawBody)
              if isAscii normalized then some (normalized = expected) else none

end XianyuAdmin.Chatwoot
