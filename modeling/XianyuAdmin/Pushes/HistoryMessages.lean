import XianyuAdmin.Core.Returns
import XianyuAdmin.Messages.MessageStore
import XianyuAdmin.Pushes.PushPayloads

/-!
# Messages in the history

The platform pushes a message in one layout and lists it in the history of its conversation in
another.  Both are parsed to an event, and an event without a message id is known again by what
it says.
-/

namespace XianyuAdmin.Pushes

open XianyuAdmin.Messages
open XianyuAdmin.Python

variable (library : PushLibrary)

def customContent (message : Members) : Members :=
  (Json.get (Json.get message "content").asObject "custom").asObject

def parseHistoryContent (message : Members) : Except PyError (MessageType × String) := do
  let custom := customContent message
  match ← decodeNonEmpty library (Json.get custom "data") with
  | some decoded => interpretContent library decoded custom
  | none =>
      let summary := strOrEmpty library
        ((Json.get custom "summary").or (Json.get custom "degrade"))
      pure (if summary = "" then (.system, "[系统消息]") else (.text, summary))

def parseHistoryAttachments (message : Members) : Except PyError (List ChatMediaAttachment) := do
  let decoded ← decodeJsonValue library (Json.get (customContent message) "data") true
  let attachment ← audioAttachment library decoded
  pure attachment.toList

def parseHistoryMessage (session : PushSession) (model : Members) (conversationId : String) :
    Except PyError (Option ChatMessageEvent) :=
  match Json.get model "message" with
  | .obj message => do
      let extension ← asDict library (Json.get message "extension")
      let senderId := stripGoofish library (Json.get extension "senderUserId")
      let direction := session.direction senderId
      let content ← parseHistoryContent library message
      let peerId :=
        if direction = .inbound then senderId
        else stripGoofish library
          ((Json.get extension "receiverUserId").or (Json.get extension "receiverId"))
      let messageId := strOrEmpty library
        ((Json.get message "messageId").or (Json.get model "messageId"))
      let itemId ← extractItemId library library.recursionLimit (.obj model)
      let createdAtMs ← asInt library ((Json.get message "createAt").or (Json.get message "time"))
      let attachments ← parseHistoryAttachments library message
      pure (some
        { accountId := session.accountId
          conversationId := stripGoofish library (.str conversationId)
          messageId := textOrNone messageId
          peerUserId := textOrNone peerId
          peerName :=
            if direction = .inbound then extractPeerName library extension peerId else none
          direction := direction
          messageType := content.1
          content := content.2
          rawPayload := model
          itemId := itemId
          createdAtMs := createdAtMs
          attachments := attachments })
  | _ => .ok none

/-- `_message_dedupe_key` of an event. -/
def ChatMessageEvent.dedupeKey (event : ChatMessageEvent) : Option String :=
  event.createdAtMs.bind fun createdAtMs =>
    messageDedupeKey library.texts event.conversationId event.direction event.messageType
      event.content event.peerUserId createdAtMs

structure WireMessage where
  conversationId : String
  messageId : Json
  senderId : Json
  receiverId : Json
  time : Json
  encoded : Json
  summary : String

def WireMessage.metadata (message : WireMessage) : Members :=
  [("senderUserId", message.senderId), ("receiverUserId", message.receiverId),
    ("reminderContent", .str message.summary)]

def WireMessage.nested (message : WireMessage) : Members :=
  [("5", message.encoded), ("2", .str message.summary)]

def WireMessage.node (message : WireMessage) : Members :=
  [("2", .str message.conversationId), ("3", message.messageId), ("5", message.time),
    ("6", .obj [("3", .obj message.nested)]), ("10", .obj message.metadata)]

def WireMessage.push (message : WireMessage) : Members :=
  [("1", .obj message.node)]

def WireMessage.extension (message : WireMessage) : Members :=
  [("senderUserId", message.senderId), ("receiverUserId", message.receiverId)]

def WireMessage.custom (message : WireMessage) : Members :=
  [("data", message.encoded), ("summary", .str message.summary)]

def WireMessage.listed (message : WireMessage) : Members :=
  [("messageId", message.messageId), ("createAt", message.time),
    ("extension", .obj message.extension), ("content", .obj [("custom", .obj message.custom)])]

def WireMessage.history (message : WireMessage) : Members :=
  [("message", .obj message.listed)]

/-- The user at the other end. -/
def WireMessage.peerId (library : PushLibrary) (session : PushSession) (message : WireMessage) :
    String :=
  if session.direction (stripGoofish library message.senderId) = .inbound then
    stripGoofish library message.senderId
  else stripGoofish library (message.receiverId.or .null)

structure Agree (pushed replayed : ChatMessageEvent) : Prop where
  direction : pushed.direction = replayed.direction
  messageId : pushed.messageId = replayed.messageId
  messageType : pushed.messageType = replayed.messageType
  content : pushed.content = replayed.content
  peerUserId : pushed.peerUserId = replayed.peerUserId
  createdAtMs : pushed.createdAtMs = replayed.createdAtMs
  attachments : pushed.attachments = replayed.attachments
  dedupeKey : pushed.dedupeKey library = replayed.dedupeKey library

/-- `_interpret_content` finds what the content is, without its summary. -/
def IsRecognised (decoded : Members) : Prop :=
  parseTextCardContent library decoded ≠ .ok none ∨
    (plainContent library decoded).isSome ∨
    (∃ pics, imagePics decoded = .ok pics ∧ imageUrls library decoded pics ≠ []) ∨
    equalsInt (Json.get decoded "contentType") 2 = true ∨
    isAudio decoded = true ∨
    ((Json.get decoded "title").or (Json.get decoded "template")).isTrue = true

section Layouts

variable {library} {session : PushSession} {message : WireMessage} {decoded : Members}

def IsMedia (decoded : Members) (urls : List String) : Prop :=
  urls ≠ [] ∨ equalsInt (Json.get decoded "contentType") 2 = true ∨ isAudio decoded = true ∨
    ((Json.get decoded "title").or (Json.get decoded "template")).isTrue = true

theorem interpretMedia_eq {fallback : Members} {urls : List String}
    {interpreted : MessageType × String}
    (hinterpreted : interpretMedia library decoded fallback urls = .ok interpreted) :
    (IsMedia decoded urls ∧ interpreted.1 ≠ .unknown ∧
        ∀ other, interpretMedia library decoded other urls = .ok interpreted) ∨
      (¬ IsMedia decoded urls ∧ ∀ other, interpretMedia library decoded other urls =
        .ok (interpretOther library decoded other)) := by
  unfold interpretMedia at hinterpreted ⊢
  by_cases himage : urls ≠ [] ∨ equalsInt (Json.get decoded "contentType") 2 = true
  · simp only [if_pos himage] at hinterpreted ⊢
    cases hinterpreted
    exact .inl ⟨himage.imp_right .inl, nofun, fun _ => rfl⟩
  · simp only [if_neg himage] at hinterpreted ⊢
    by_cases haudio : isAudio decoded = true
    · simp only [if_pos haudio] at hinterpreted ⊢
      obtain ⟨duration, hduration, rfl⟩ := map_eq_ok_iff.mp hinterpreted
      exact .inl ⟨.inr (.inr (.inl haudio)), nofun, fun _ => hinterpreted⟩
    · simp only [if_neg haudio] at hinterpreted ⊢
      cases hinterpreted
      by_cases htitle : ((Json.get decoded "title").or (Json.get decoded "template")).isTrue = true
      · refine .inl ⟨.inr (.inr (.inr htitle)), ?_, fun other => ?_⟩
        · simp [interpretOther, htitle]
        · simp [interpretOther, htitle]
      · refine .inr ⟨?_, fun _ => trivial⟩
        rw [IsMedia, ← or_assoc, or_assoc]
        tauto

theorem interpretContent_eq {fallback : Members} {interpreted : MessageType × String}
    (hinterpreted : interpretContent library decoded fallback = .ok interpreted) :
    (IsRecognised library decoded ∧ interpreted.1 ≠ .unknown ∧
        ∀ other, interpretContent library decoded other = .ok interpreted) ∨
      (¬ IsRecognised library decoded ∧ ∀ other, interpretContent library decoded other =
        .ok (interpretOther library decoded other)) := by
  unfold interpretContent at hinterpreted ⊢
  cases htextCard : parseTextCardContent library decoded with
  | error error =>
      rw [htextCard] at hinterpreted
      cases hinterpreted
  | ok textCard =>
      rw [htextCard] at hinterpreted
      cases textCard with
      | some text =>
          cases hinterpreted
          exact .inl ⟨.inl (by simp [htextCard]), nofun, fun _ => rfl⟩
      | none =>
          cases hplain : plainContent library decoded with
          | some text =>
              simp only [hplain] at hinterpreted
              cases hinterpreted
              exact .inl ⟨.inr (.inl (by simp [hplain])), nofun, fun _ => rfl⟩
          | none =>
              simp only [hplain] at hinterpreted ⊢
              cases hpics : imagePics decoded with
              | error error =>
                  rw [hpics] at hinterpreted
                  cases hinterpreted
              | ok pics =>
                  rw [hpics] at hinterpreted
                  have hrecognised : IsRecognised library decoded ↔
                      IsMedia decoded (imageUrls library decoded pics) := by
                    simp [IsRecognised, IsMedia, htextCard, hplain, hpics]
                  rw [hrecognised]
                  exact interpretMedia_eq hinterpreted

theorem parsePushPayload_push {pushed : ChatMessageEvent}
    (hpushed : parsePushPayload library session message.push = .ok (some pushed)) :
    pushed.conversationId = stripGoofish library (.str message.conversationId) ∧
      pushed.direction = session.direction (stripGoofish library message.senderId) ∧
      pushed.peerUserId = textOrNone (message.peerId library session) ∧
      parsePushContent library message.node message.metadata =
        .ok (pushed.messageType, pushed.content) ∧
      extractPushMessageId library message.node message.metadata = .ok pushed.messageId ∧
      extractCreatedAtMs library message.node = .ok pushed.createdAtMs ∧
      parsePushAttachments library message.node = .ok pushed.attachments := by
  have hnode : Json.get message.push "1" = .obj message.node := by
    simp [WireMessage.push, Json.get]
  have hcid : Json.get message.node "2" = .str message.conversationId := by
    simp [WireMessage.node, Json.get]
  have hmetadata : Json.get message.node "10" = .obj message.metadata := by
    simp [WireMessage.node, Json.get]
  have hsender : Json.get message.metadata "senderUserId" = message.senderId := by
    simp [WireMessage.metadata, Json.get]
  have hreceiver : (Json.get message.metadata "receiverUserId").or
      (Json.get message.metadata "receiverId") = message.receiverId.or .null := by
    simp [WireMessage.metadata, Json.get]
  rw [parsePushPayload, hnode] at hpushed
  dsimp only at hpushed
  unfold parseChatMessage at hpushed
  simp only [hcid, hmetadata, Json.asObject, hsender, hreceiver] at hpushed
  split at hpushed
  · cases hpushed
  · obtain ⟨content, hcontent, hpushed⟩ := head_of_bind_eq_ok hpushed
    obtain ⟨messageId, hmessageId, hpushed⟩ := head_of_bind_eq_ok hpushed
    obtain ⟨itemId, -, hpushed⟩ := head_of_bind_eq_ok hpushed
    obtain ⟨createdAtMs, hcreatedAtMs, hpushed⟩ := head_of_bind_eq_ok hpushed
    obtain ⟨attachments, hattachments, hpushed⟩ := head_of_bind_eq_ok hpushed
    cases hpushed
    exact ⟨rfl, rfl, by rw [WireMessage.peerId], hcontent, hmessageId, hcreatedAtMs, hattachments⟩

theorem parseHistoryMessage_history {replayed : ChatMessageEvent}
    (hreplayed : parseHistoryMessage library session message.history message.conversationId =
      .ok (some replayed)) :
    replayed.conversationId = stripGoofish library (.str message.conversationId) ∧
      replayed.direction = session.direction (stripGoofish library message.senderId) ∧
      replayed.peerUserId = textOrNone (message.peerId library session) ∧
      parseHistoryContent library message.listed =
        .ok (replayed.messageType, replayed.content) ∧
      replayed.messageId = textOrNone (strOrEmpty library (message.messageId.or .null)) ∧
      asInt library (message.time.or .null) = .ok replayed.createdAtMs ∧
      parseHistoryAttachments library message.listed = .ok replayed.attachments := by
  have hlisted : Json.get message.history "message" = .obj message.listed := by
    simp [WireMessage.history, Json.get]
  have hextension : Json.get message.listed "extension" = .obj message.extension := by
    simp [WireMessage.listed, Json.get]
  have hsender : Json.get message.extension "senderUserId" = message.senderId := by
    simp [WireMessage.extension, Json.get]
  have hreceiver : (Json.get message.extension "receiverUserId").or
      (Json.get message.extension "receiverId") = message.receiverId.or .null := by
    simp [WireMessage.extension, Json.get]
  have hmessageId : (Json.get message.listed "messageId").or
      (Json.get message.history "messageId") = message.messageId.or .null := by
    simp [WireMessage.listed, WireMessage.history, Json.get]
  have htime : (Json.get message.listed "createAt").or (Json.get message.listed "time") =
      message.time.or .null := by
    simp [WireMessage.listed, Json.get]
  rw [parseHistoryMessage, hlisted] at hreplayed
  dsimp only at hreplayed
  rw [hextension] at hreplayed
  obtain ⟨extension, hextension, hreplayed⟩ := head_of_bind_eq_ok hreplayed
  cases hextension
  simp only [hsender, hreceiver, hmessageId, htime, Option.getD_some] at hreplayed
  obtain ⟨content, hcontent, hreplayed⟩ := head_of_bind_eq_ok hreplayed
  obtain ⟨itemId, -, hreplayed⟩ := head_of_bind_eq_ok hreplayed
  obtain ⟨createdAtMs, hcreatedAtMs, hreplayed⟩ := head_of_bind_eq_ok hreplayed
  obtain ⟨attachments, hattachments, hreplayed⟩ := head_of_bind_eq_ok hreplayed
  cases hreplayed
  exact ⟨rfl, rfl, by rw [WireMessage.peerId], hcontent, rfl, hcreatedAtMs, hattachments⟩

theorem strOrEmpty_str (text : String) : strOrEmpty library (.str text) = text := by
  by_cases htext : text = ""
  · simp [strOrEmpty, Json.isTrue, htext]
  · simp [strOrEmpty, Json.isTrue, htext, pyStr]

theorem strOrEmpty_summary :
    strOrEmpty library ((Json.get message.nested "2").or
      (Json.get message.metadata "reminderContent")) = message.summary := by
  have hsummary : (Json.get message.nested "2").or
      (Json.get message.metadata "reminderContent") = .str message.summary := by
    simp [WireMessage.nested, WireMessage.metadata, Json.get, Json.or]
  rw [hsummary, strOrEmpty_str]

theorem decodeNonEmpty_encoded
    (hdecoded : decodeJsonValue library message.encoded true = .ok (some decoded)) :
    decodeNonEmpty library message.encoded =
      .ok (if decoded = [] then none else some decoded) := by
  rw [decodeNonEmpty, hdecoded, Except.map]
  cases decoded <;> rfl

theorem parsePushContent_empty
    (hdecoded : decodeJsonValue library message.encoded true = .ok (some [])) :
    parsePushContent library message.node message.metadata =
      .ok (if message.summary = "" then (.unknown, "") else (.card, message.summary)) := by
  have hnested : nestedContent message.node = .obj message.nested := by
    simp [nestedContent, WireMessage.node, Json.get, hasKey]
  have hencoded : Json.get message.nested "5" = message.encoded := by
    simp [WireMessage.nested, Json.get]
  have hsummary : Json.get message.nested "2" = .str message.summary := by
    simp [WireMessage.nested, Json.get]
  have hother : Json.get message.nested "1" = .null := by
    simp [WireMessage.nested, Json.get]
  have hreminder : Json.get message.metadata "reminderContent" = .str message.summary := by
    simp [WireMessage.metadata, Json.get]
  rw [parsePushContent, hnested]
  dsimp only
  rw [hencoded, decodeNonEmpty_encoded hdecoded, hsummary, hother]
  by_cases hempty : message.summary = ""
  · simp [Json.isTrue, hempty, reminderContent, hreminder, strOrEmpty_str]
    rfl
  · simp [Json.isTrue, hempty, pyStr]
    rfl

theorem parsePushContent_nonEmpty
    (hdecoded : decodeJsonValue library message.encoded true = .ok (some decoded))
    (hnonEmpty : decoded ≠ []) :
    parsePushContent library message.node message.metadata =
      (interpretContent library decoded message.nested).map fun interpreted =>
        if interpreted.1 ≠ .unknown then interpreted
        else (interpreted.1, if message.summary = "" then interpreted.2 else message.summary) := by
  have hnested : nestedContent message.node = .obj message.nested := by
    simp [nestedContent, WireMessage.node, Json.get, hasKey]
  have hencoded : Json.get message.nested "5" = message.encoded := by
    simp [WireMessage.nested, Json.get]
  rw [parsePushContent, hnested]
  dsimp only
  rw [hencoded, decodeNonEmpty_encoded hdecoded, if_neg hnonEmpty]
  simp only [bind, Except.bind, interpretPushed, strOrEmpty_summary]

theorem parseHistoryContent_listed
    (hdecoded : decodeJsonValue library message.encoded true = .ok (some decoded)) :
    parseHistoryContent library message.listed =
      if decoded = [] then
        .ok (if message.summary = "" then (.system, "[系统消息]") else (.text, message.summary))
      else interpretContent library decoded message.custom := by
  have hcustom : customContent message.listed = message.custom := by
    simp [customContent, WireMessage.listed, Json.get, Json.asObject]
  have hencoded : Json.get message.custom "data" = message.encoded := by
    simp [WireMessage.custom, Json.get]
  have hsummary : strOrEmpty library ((Json.get message.custom "summary").or
      (Json.get message.custom "degrade")) = message.summary := by
    have hvalue : Json.get message.custom "summary" = .str message.summary := by
      simp [WireMessage.custom, Json.get]
    have hnone : Json.get message.custom "degrade" = .null := by
      simp [WireMessage.custom, Json.get]
    rw [hvalue, hnone]
    by_cases hempty : message.summary = ""
    · simp [Json.or, Json.isTrue, hempty, strOrEmpty]
    · simp [Json.or, Json.isTrue, hempty, strOrEmpty_str]
  rw [parseHistoryContent]
  dsimp only
  rw [hcustom, hencoded, decodeNonEmpty_encoded hdecoded, hsummary]
  split <;> rfl

/-- A content that is not recognised is pushed as unknown, and listed as its summary. -/
theorem interpretOther_eq (htitle : ((Json.get decoded "title").or
      (Json.get decoded "template")).isTrue = false) :
    ∃ text, interpretOther library decoded message.nested = (.unknown, text) ∧
      interpretOther library decoded message.custom =
        if message.summary = "" then (.unknown, text) else (.text, message.summary) := by
  have hnested : ((Json.get message.nested "summary").or
      (Json.get message.nested "degrade")).isTrue = false := by
    simp [WireMessage.nested, Json.get, Json.or, Json.isTrue]
  have hcustom : (Json.get message.custom "summary").or (Json.get message.custom "degrade") =
      (Json.str message.summary).or .null := by
    simp [WireMessage.custom, Json.get]
  refine ⟨"[未知消息类型:" ++ (if hasKey decoded "contentType" then
    pyStr library (Json.get decoded "contentType") else "") ++ "]", ?_, ?_⟩
  · rw [interpretOther]
    simp only [htitle, hnested, Bool.false_eq_true, if_false]
  · rw [interpretOther]
    simp only [htitle, hcustom, Bool.false_eq_true, if_false]
    by_cases hempty : message.summary = ""
    · simp [hempty, Json.or, Json.isTrue]
    · simp [hempty, Json.or, Json.isTrue, pyStr]

theorem content_agrees_iff {pushed replayed : MessageType × String}
    (hdecoded : decodeJsonValue library message.encoded true = .ok (some decoded))
    (hpushed : parsePushContent library message.node message.metadata = .ok pushed)
    (hreplayed : parseHistoryContent library message.listed = .ok replayed) :
    pushed = replayed ↔
      decoded ≠ [] ∧ (message.summary = "" ∨ IsRecognised library decoded) := by
  rw [parseHistoryContent_listed hdecoded] at hreplayed
  by_cases hempty : decoded = []
  · subst hempty
    rw [parsePushContent_empty hdecoded] at hpushed
    rw [if_pos rfl] at hreplayed
    cases hpushed
    cases hreplayed
    refine iff_of_false ?_ (by simp)
    split <;> simp
  · rw [parsePushContent_nonEmpty hdecoded hempty] at hpushed
    rw [if_neg hempty] at hreplayed
    obtain ⟨interpreted, hinterpreted, rfl⟩ := map_eq_ok_iff.mp hpushed
    rcases interpretContent_eq hinterpreted with
      ⟨hrecognised, hknown, hany⟩ | ⟨hunrecognised, hany⟩
    · rw [hany message.custom] at hreplayed
      cases hreplayed
      exact iff_of_true (by simp [hknown]) ⟨hempty, .inr hrecognised⟩
    · have htitle : ((Json.get decoded "title").or (Json.get decoded "template")).isTrue =
          false := by
        rw [← Bool.not_eq_true]
        exact fun htitle => hunrecognised (.inr (.inr (.inr (.inr (.inr htitle)))))
      obtain ⟨text, hnested, hcustom⟩ := interpretOther_eq htitle
      rw [hany message.nested, hnested] at hinterpreted
      rw [hany message.custom, hcustom] at hreplayed
      cases hinterpreted
      cases hreplayed
      by_cases hsummary : message.summary = ""
      · simp [hsummary, hempty]
      · simp [hsummary, hempty, hunrecognised]

theorem time_agrees_iff {pushed replayed : Option ℤ}
    (hpushed : extractCreatedAtMs library message.node = .ok pushed)
    (hreplayed : asInt library (message.time.or .null) = .ok replayed) :
    pushed = replayed ↔ message.time.isTrue = true ∨ asInt library message.time = .ok none := by
  have htime : Json.get message.node "5" = message.time := by
    simp [WireMessage.node, Json.get]
  have hothers : firstInt library message.node ["createAt", "createdAt", "time", "timestamp"] =
      .ok none := by
    simp [firstInt, WireMessage.node, Json.get, asInt]
    rfl
  have hread : asInt library message.time = .ok pushed := by
    rw [extractCreatedAtMs, firstInt, htime] at hpushed
    obtain ⟨value, hvalue, hpushed⟩ := head_of_bind_eq_ok hpushed
    cases value with
    | none =>
        dsimp only at hpushed
        rw [hothers] at hpushed
        cases hpushed
        exact hvalue
    | some value =>
        cases hpushed
        exact hvalue
  rw [hread, Except.ok.injEq]
  by_cases htrue : message.time.isTrue = true
  · rw [Json.or, if_pos htrue, hread] at hreplayed
    cases hreplayed
    simp [htrue]
  · rw [Json.or, if_neg htrue] at hreplayed
    cases hreplayed
    simp [htrue]

theorem messageId_agrees {pushed : Option String} (hprints : ∀ value, library.str value ≠ "")
    (hpushed : extractPushMessageId library message.node message.metadata = .ok pushed) :
    pushed = textOrNone (strOrEmpty library (message.messageId.or .null)) := by
  have hvalue : (Json.get message.node "3").or (Json.get message.metadata "messageId") =
      message.messageId.or .null := by
    simp [WireMessage.node, WireMessage.metadata, Json.get]
  have hnone : messageIdFromMeta library message.metadata = .ok none := by
    simp [messageIdFromMeta, firstMessageId, WireMessage.metadata, Json.get, asDict,
      decodeJsonValue]
    rfl
  rw [extractPushMessageId, hvalue] at hpushed
  by_cases htrue : (message.messageId.or .null).isTrue = true
  · simp only [if_pos htrue] at hpushed
    cases hpushed
    rw [strOrEmpty, if_pos htrue, textOrNone, if_neg]
    cases hcase : message.messageId.or .null with
    | str text => simpa [hcase, Json.isTrue, pyStr] using htrue
    | _ => exact hprints _
  · simp only [if_neg htrue] at hpushed
    rw [hnone] at hpushed
    cases hpushed
    rw [strOrEmpty, if_neg htrue]
    rfl

theorem attachments_agree {pushed replayed : List ChatMediaAttachment}
    (hdecoded : decodeJsonValue library message.encoded true = .ok (some decoded))
    (hpushed : parsePushAttachments library message.node = .ok pushed)
    (hreplayed : parseHistoryAttachments library message.listed = .ok replayed) :
    pushed = replayed := by
  have hnested : nestedContent message.node = .obj message.nested := by
    simp [nestedContent, WireMessage.node, Json.get, hasKey]
  have hencoded : Json.get message.nested "5" = message.encoded := by
    simp [WireMessage.nested, Json.get]
  have hother : Json.get message.nested "1" = .null := by
    simp [WireMessage.nested, Json.get]
  have hdata : Json.get (customContent message.listed) "data" = message.encoded := by
    simp [customContent, WireMessage.listed, WireMessage.custom, Json.get, Json.asObject]
  have hnone : firstAttachment library message.nested ["1"] = .ok [] := by
    rw [firstAttachment, hother]
    rfl
  rw [parseHistoryAttachments, hdata] at hreplayed
  rw [parsePushAttachments, hnested] at hpushed
  dsimp only at hpushed
  rw [firstAttachment, hencoded] at hpushed
  rw [hdecoded] at hpushed hreplayed
  obtain ⟨_, ⟨⟩, hreplayed⟩ := head_of_bind_eq_ok hreplayed
  obtain ⟨_, ⟨⟩, hpushed⟩ := head_of_bind_eq_ok hpushed
  obtain ⟨attachment, hattachment, hreplayed⟩ := head_of_bind_eq_ok hreplayed
  obtain ⟨found, hfound, hpushed⟩ := head_of_bind_eq_ok hpushed
  cases hattachment.symm.trans hfound
  cases attachment with
  | none =>
      rw [hnone] at hpushed
      cases hpushed
      cases hreplayed
      rfl
  | some attachment =>
      cases hpushed
      cases hreplayed
      rfl

end Layouts

/-- A message that is pushed and listed is told alike by both if its time is not taken for none,
its content is not empty, and the content is recognised or has no summary. -/
theorem push_agrees_with_history_iff (library : PushLibrary) (session : PushSession)
    (message : WireMessage) (decoded : Members) (pushed replayed : ChatMessageEvent)
    (hprints : ∀ value, library.str value ≠ "")
    (hdecoded : decodeJsonValue library message.encoded true = .ok (some decoded))
    (hpushed : parsePushPayload library session message.push = .ok (some pushed))
    (hreplayed : parseHistoryMessage library session message.history message.conversationId =
      .ok (some replayed)) :
    Agree library pushed replayed ↔
      (message.time.isTrue = true ∨ asInt library message.time = .ok none) ∧ decoded ≠ [] ∧
        (message.summary = "" ∨ IsRecognised library decoded) := by
  obtain ⟨hcid, hdirection, hpeer, hcontent, hmessageId, htime, hattachments⟩ :=
    parsePushPayload_push hpushed
  obtain ⟨hcid', hdirection', hpeer', hcontent', hmessageId', htime', hattachments'⟩ :=
    parseHistoryMessage_history hreplayed
  rw [← time_agrees_iff htime htime', ← content_agrees_iff hdecoded hcontent hcontent',
    Prod.mk.injEq]
  constructor
  · intro h
    exact ⟨h.createdAtMs, h.messageType, h.content⟩
  · rintro ⟨hcreatedAtMs, hmessageType, hcontents⟩
    have hdirections := hdirection.trans hdirection'.symm
    have hpeers := hpeer.trans hpeer'.symm
    exact
      { direction := hdirections
        messageId := (messageId_agrees hprints hmessageId).trans hmessageId'.symm
        messageType := hmessageType
        content := hcontents
        peerUserId := hpeers
        createdAtMs := hcreatedAtMs
        attachments := attachments_agree hdecoded hattachments hattachments'
        dedupeKey := by
          rw [ChatMessageEvent.dedupeKey, ChatMessageEvent.dedupeKey, hcid, hcid', hdirections,
            hmessageType, hcontents, hpeers, hcreatedAtMs] }

def cardText : String := "\x7b\"unsupported\": 1\x7d"

def shortText : String := "\x7b\"text\": \"hi\"\x7d"

def wireLibrary : PushLibrary where
  loads text :=
    if text = cardText then .ok (.obj [("unsupported", .int 1)])
    else if text = shortText then .ok (.obj [("text", .str "hi")])
    else .error .jsonDecodeError
  base64Text _ := none
  decrypt _ := none
  str
    | .int 1 => "1"
    | _ => "None"
  isDigit _ := false
  int _ := none
  truncate _ := 0
  query _ := some []
  plainText := id
  texts := tabulated []
  recursionLimit := 900

def wireSession : PushSession where
  accountId := "account"
  myId := "2200"

/-- A message of another user with the content in `encoded`. -/
def wireMessage (encoded : String) : WireMessage where
  conversationId := "chat"
  messageId := .null
  senderId := .str "3300@goofish"
  receiverId := .str "2200@goofish"
  time := .int 1700000000000
  encoded := .str encoded
  summary := "[card]"

/-- A message whose content is a text is told alike. -/
theorem greeting_agrees :
    ∃ pushed replayed,
      parsePushPayload wireLibrary wireSession (wireMessage shortText).push =
        .ok (some pushed) ∧
      parseHistoryMessage wireLibrary wireSession (wireMessage shortText).history "chat" =
        .ok (some replayed) ∧
      Agree wireLibrary pushed replayed := by
  refine ⟨_, _, rfl, rfl, ?_⟩
  refine (push_agrees_with_history_iff wireLibrary wireSession (wireMessage shortText)
    [("text", .str "hi")] _ _ ?_ rfl rfl rfl).mpr ⟨.inl rfl, nofun, .inr (.inr (.inl rfl))⟩
  intro value
  simp only [wireLibrary]
  split <;> decide

/-- A message whose content is not recognised is pushed as unknown and listed as a text. -/
theorem unrecognised_message_differs :
    ∃ pushed replayed,
      parsePushPayload wireLibrary wireSession (wireMessage cardText).push = .ok (some pushed) ∧
      parseHistoryMessage wireLibrary wireSession (wireMessage cardText).history "chat" =
        .ok (some replayed) ∧
      pushed.messageType = .unknown ∧ replayed.messageType = .text ∧
      pushed.content = "[card]" ∧ replayed.content = "[card]" ∧
      ¬ Agree wireLibrary pushed replayed := by
  refine ⟨_, _, rfl, rfl, rfl, rfl, rfl, rfl, fun hagree => ?_⟩
  exact absurd hagree.messageType nofun

end XianyuAdmin.Pushes
