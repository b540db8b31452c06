import XianyuAdmin.Chatwoot.Bridge

/-!
# Executing a webhook

`execute_webhook_task` first reconciles what agents have read and then acts on
the event: it takes over the status of a conversation, recalls the local
messages of a message that was deleted in Chatwoot, or forwards a new message of
an agent to Xianyu.  Whatever it raises is written to the delivery.
-/

namespace XianyuAdmin.Chatwoot

open XianyuAdmin.Coroutine
open XianyuAdmin.Python

variable (library : WebhookLibrary)

abbrev getWebhook (deliveryId : String) : Routine (Option WebhookView) :=
  call (.getWebhook deliveryId)

abbrev finishWebhookOf (deliveryId status : String) (error : Option String) : Routine Unit :=
  call (.finishWebhook deliveryId status error)

abbrev getConfig (accountId : Option String) : Routine (Option ConfigView) :=
  call (.getConfig accountId)

abbrev conversationMapByRemoteGlobal (chatwootConversationId : String) :
    Routine (Option ConversationMap) :=
  call (.getConversationMapByRemoteGlobal chatwootConversationId)

abbrev messageMapsByRemoteGlobal (chatwootMessageId : String) : Routine (List MessageMap) :=
  call (.findMessageMapsByRemoteGlobal chatwootMessageId)

abbrev recordMap (record : MessageMap) : Routine Unit :=
  call (.recordMessageMap record)

abbrev runtimeCommand (command : Command) : Routine Members :=
  call (.runtimeCommand command)

abbrev setManualTakeover (accountId conversationId mode : String) : Routine Unit :=
  call (.setManualTakeover accountId conversationId mode)

/-- `except Exception`: everything but a cancellation is handled. -/
def exceptException {Value : Type} (body : Routine Value) (handler : Failure → Routine Value) :
    Routine Value :=
  tryCatch body fun failure =>
    if failure = .cancelled then throw failure else handler failure

def orError {Value : Type} (value : Option Value) : Routine Value :=
  match value with
  | some value => pure value
  | none => throw (.exception "")

@[simp]
theorem orError_some_bind {Value Other : Type} (value : Value)
    (next : Value → Routine Other) : orError (some value) >>= next = next value := rfl

@[simp]
theorem orError_none_bind {Value Other : Type} (next : Value → Routine Other) :
    orError none >>= next = throw (.exception "") := rfl

def cutText (count : ℕ) (text : String) : String :=
  String.ofList (text.toList.take count)

def skipped (reason : String) : Members :=
  [("ok", .bool true), ("skipped", .bool true), ("reason", .str reason)]

/-- `_sync_chatwoot_read_snapshot` as the webhook task calls it; the events are given by
their users. -/
def syncChatwootReadSnapshot (payload : Members) : Routine (List String) := do
  match ← orError (chatwootReadSnapshot library payload) with
  | none => pure []
  | some snapshot => do
      match ← conversationMapByRemoteGlobal snapshot.chatwootConversationId with
      | none => pure []
      | some mapping => do
          let config ← getConfig (some mapping.accountId)
          if config.any ConfigView.enabled then
            call (.recordReadSyncObservation snapshot.chatwootConversationId
              snapshot.seenAt false)
            if snapshot.unreadCount ≠ 0 then pure []
            else
              match ← call (.getLastInboundAt mapping.accountId mapping.conversationId) with
              | none => pure []
              | some lastInboundAt =>
                  if snapshot.seenAt < lastInboundAt then pure []
                  else
                    let (covered, users) ← call (.markConversationReadShared
                      mapping.accountId mapping.conversationId snapshot.seenAt)
                    call (.recordReadSyncObservation snapshot.chatwootConversationId
                      snapshot.seenAt covered)
                    pure (if covered then users else [])
          else pure []

/-- `await read_notifier(event)` for every event. -/
def notifyReads : List String → Routine Unit
  | [] => pure ()
  | user :: users => do
      call (.notifyRead user)
      notifyReads users

def readEvents (payload : Members) : Routine (List String) := do
  let events ← exceptException (syncChatwootReadSnapshot library payload) fun _ => pure []
  exceptException (notifyReads events) fun _ => pure ()
  pure events

def handleConversationStatus (payload : Members) : Routine Members := do
  let status := lower (string library
    ((Json.get (eventConversation payload) "status").or (Json.get payload "status")))
  match extractChatwootConversationId library payload with
  | none => pure [("ok", .bool true), ("skipped", .bool true)]
  | some remoteConversationId =>
      if status = "" then pure [("ok", .bool true), ("skipped", .bool true)]
      else
        match ← conversationMapByRemoteGlobal remoteConversationId with
        | none =>
            pure [("ok", .bool true), ("status", .str status), ("mapped", .bool false)]
        | some mapping => do
            let config ← getConfig (some mapping.accountId)
            if config.any ConfigView.enabled then
              call (.updateConversationStatus mapping.accountId remoteConversationId status)
              if status = "resolved" then
                setManualTakeover mapping.accountId mapping.conversationId "auto"
              pure [("ok", .bool true), ("status", .str status), ("mapped", .bool true)]
            else pure (skipped "account Chat disabled")

/-- One entry of `recall_results`. -/
structure RecallOutcome where
  messagePk : String
  success : Bool
  snapshotPending : Bool
  error : String
  deriving DecidableEq

structure RecallProgress where
  results : List RecallOutcome
  statusConfig : Option ConfigView
  contexts : List LocalMessage
  snapshotRequired : Bool

/-- `item.get("message_pk") and item.get("chatwoot_conversation_id")` -/
def isMappedMessage (item : MessageMap) : Bool :=
  truthy item.messagePk && truthy item.chatwootConversationId

def notConfirmed : String := "闲鱼平台未确认撤回"

/-- `_string(error) or "闲鱼平台未确认撤回"` -/
def orNotConfirmed (error : String) : String :=
  if strip error = "" then notConfirmed else strip error

/-- `record_message_map` for a message of the deleted remote message. -/
def recallRecord (item : MessageMap) (remoteMessageId state : String) (error : Option String) :
    MessageMap where
  accountId := strip item.accountId
  messagePk := stripOrNone (item.messagePk.getD "")
  chatwootMessageId := some remoteMessageId
  chatwootConversationId := stripOrNone (item.chatwootConversationId.getD "")
  origin := if strip item.origin = "" then "chatwoot" else strip item.origin
  state := state
  error := error

def issueRecall (item : MessageMap) (config : Option ConfigView) : Routine RecallOutcome := do
  let accountId := strip item.accountId
  let messagePk := stringOf item.messagePk
  if config.any ConfigView.enabled then
    let mapping ← call (.getConversationMapByRemote accountId
      (stringOf item.chatwootConversationId))
    let conversationId := stringOf (mapping.map ConversationMap.conversationId)
    if conversationId = "" then
      pure ⟨messagePk, false, true, "没有找到对应的闲鱼会话映射"⟩
    else
      exceptException
        (do
          let answer ← runtimeCommand (.recall accountId conversationId messagePk)
          pure ⟨messagePk, (Json.get answer "success").isTrue, true,
            string library (Json.get answer "error")⟩)
        fun failure => pure ⟨messagePk, false, true, cutText 1000 failure.text⟩
  else pure ⟨messagePk, false, true, "该闲鱼账户的 Chat 同步已关闭"⟩

def recallItem (remoteMessageId : String) (progress : RecallProgress) (item : MessageMap) :
    Routine RecallProgress := do
  let accountId := strip item.accountId
  let messagePk := stringOf item.messagePk
  let itemState := strip item.state
  let context ← call (.getLocalMessageContext accountId messagePk)
  let config ← getConfig (some accountId)
  let seen : RecallProgress :=
    { progress with
      contexts := progress.contexts ++ context.toList
      statusConfig := progress.statusConfig.orElse fun _ => config }
  if itemState = "recalled" then
    pure { seen with results := seen.results ++ [⟨messagePk, true, false, ""⟩] }
  else if itemState = "recall_failed" then
    pure { seen with
      results := seen.results ++
        [⟨messagePk, false, false, orNotConfirmed (item.error.getD "")⟩] }
  else if itemState ∈ ["recall_snapshot_pending", "gateway_recalled_note_pending"] then
    pure { seen with
      results := seen.results ++ [⟨messagePk, true, true, ""⟩]
      snapshotRequired := true }
  else if itemState = "recall_failed_snapshot_pending" then
    pure { seen with
      results := seen.results ++
        [⟨messagePk, false, true, orNotConfirmed (item.error.getD "")⟩]
      snapshotRequired := true }
  else
    let outcome ← issueRecall library item config
    recordMap (recallRecord item remoteMessageId
      (if outcome.success then "recall_snapshot_pending" else "recall_failed_snapshot_pending")
      (if outcome.success then none else some (orNotConfirmed outcome.error)))
    pure { seen with results := seen.results ++ [outcome], snapshotRequired := true }

def recallItems (remoteMessageId : String) :
    List MessageMap → RecallProgress → Routine RecallProgress
  | [], progress => pure progress
  | item :: items, progress => do
      let progress ← recallItem library remoteMessageId progress item
      recallItems remoteMessageId items progress

def settleItems (remoteMessageId : String) (results : List RecallOutcome) :
    List MessageMap → Routine Unit
  | [] => pure ()
  | item :: items => do
      match results.reverse.find? fun outcome => outcome.messagePk = stringOf item.messagePk with
      | none => pure ()
      | some outcome =>
          if outcome.snapshotPending then
            recordMap (recallRecord item remoteMessageId
              (if outcome.success then "recalled" else "recall_failed")
              (if outcome.success then none else some (orNotConfirmed outcome.error)))
      settleItems remoteMessageId results items

def chatwootRecallSnapshotExists (config : ConfigView)
    (chatwootConversationId chatwootMessageId : String) : Routine Bool := do
  if config.hasCredentials then
    let messages ← call (.listChatwootMessages chatwootConversationId)
    pure (messages.any fun message =>
      message.isPrivate && decide (message.deletedSourceId = some chatwootMessageId))
  else throw (.integrationError "读取 Chatwoot 消息需要服务账号令牌与平台账户 ID")

def downloadAll : List String → Routine (List Download)
  | [] => pure []
  | url :: urls => do
      let file ← call (.download url)
      let files ← downloadAll urls
      pure (file :: files)

def snapshotImageUrls (contexts : List LocalMessage) : List String :=
  (contexts.flatMap LocalMessage.imageUrls).reverse.dedup.reverse

def createPrivateRecallSnapshot (config : ConfigView)
    (chatwootConversationId chatwootMessageId : String) (contexts : List LocalMessage) :
    Routine Unit := do
  if config.hasCredentials then
    let _ ← downloadAll (snapshotImageUrls contexts)
    call (.postPrivateNote chatwootConversationId (some chatwootMessageId))
  else throw (.integrationError "恢复已删除原消息需要 Chatwoot 服务账号令牌与平台账户 ID")

/-- `"; ".join(...)` over the failures. -/
def recallError (results : List RecallOutcome) : String :=
  cutText 1000 ("; ".intercalate
    ((results.filter fun outcome => !outcome.success).map fun outcome =>
      orNotConfirmed outcome.error))

def markDeleted (remoteMessageId : String) : List MessageMap → ℕ → Routine ℕ
  | [], deleted => pure deleted
  | item :: items, deleted => do
      let config ← getConfig (some (strip item.accountId))
      if config.any ConfigView.enabled then
        recordMap (recallRecord item remoteMessageId "remote_deleted" none)
        markDeleted remoteMessageId items (deleted + 1)
      else markDeleted remoteMessageId items deleted

def recallMapped (platformConfig : ConfigView) (remoteMessageId : String)
    (remoteConversationId : Option String) (mapped : List MessageMap) : Routine Members := do
  let progress ← recallItems library remoteMessageId mapped ⟨[], none, [], false⟩
  let results := progress.results
  let succeeded := !results.isEmpty && results.all RecallOutcome.success
  let snapshotCreated ←
    if progress.snapshotRequired then
      match remoteConversationId with
      | none =>
          throw (.integrationError "Chatwoot 删除事件缺少会话 ID，无法恢复原消息快照")
      | some remoteConversationId => do
          let statusConfig := progress.statusConfig.getD platformConfig
          let snapshotExists ← chatwootRecallSnapshotExists statusConfig remoteConversationId
            remoteMessageId
          if snapshotExists then pure ()
          else
            createPrivateRecallSnapshot statusConfig remoteConversationId remoteMessageId
              progress.contexts
          settleItems remoteMessageId results mapped
          pure (!snapshotExists)
    else pure false
  let answer : Members :=
    [("ok", .bool succeeded), ("remote_deleted", .int mapped.length),
      ("platform_recall", .bool true), ("private_snapshot_created", .bool snapshotCreated),
      ("recalled_messages", .int (results.countP RecallOutcome.success)),
      ("failed_messages", .int (results.countP fun outcome => !outcome.success))]
  pure (if succeeded then answer else answer ++ [("error", .str (recallError results))])

/-- The branch of `message_updated`. -/
def handleMessageUpdated (platformConfig : ConfigView) (payload : Members) : Routine Members := do
  let message := eventMessage payload
  match extractChatwootMessageId library payload with
  | none => pure [("ok", .bool true), ("skipped", .bool true)]
  | some remoteMessageId =>
      if messageWasDeleted library message then
        let maps ← messageMapsByRemoteGlobal remoteMessageId
        let mapped := maps.filter isMappedMessage
        if messageIsOutgoing library (Json.get message "message_type") ∧
            messageIsPrivate library message = false ∧ mapped ≠ [] then
          recallMapped library platformConfig remoteMessageId
            (extractChatwootConversationId library payload) mapped
        else
          let deleted ← markDeleted remoteMessageId mapped 0
          pure [("ok", .bool true), ("remote_deleted", .int deleted),
            ("platform_recall", .bool false)]
      else pure (skipped "message update is not a delete request")

/-- What one of the commands is to send. -/
inductive Piece
  | text (content : String)
  | image (index : ℕ) (url : String)
  deriving DecidableEq

/-- `client_request_id` of a piece. -/
def requestId (remoteMessageId : String) : Piece → String
  | .text _ => cutText 64 ("cw-" ++ remoteMessageId ++ "-text")
  | .image index _ => cutText 64 ("cw-" ++ remoteMessageId ++ "-image-" ++ toString index)

def piecesOf (content : String) (urls : List String) : List Piece :=
  (if content = "" then [] else [.text content]) ++
    urls.zipIdx.map fun entry => .image entry.2 entry.1

def pieceCommand (mapping : ConversationMap) (remoteMessageId : String) : Piece → Command
  | .text content =>
      .text mapping.accountId mapping.conversationId mapping.peerUserId content
        (requestId remoteMessageId (.text content))
  | .image index url =>
      .image mapping.accountId mapping.conversationId
        (requestId remoteMessageId (.image index url)) ⟨url⟩

def sendPiece (mapping : ConversationMap) (remoteMessageId : String) (piece : Piece) :
    Routine Members := do
  match piece with
  | .text _ => runtimeCommand (pieceCommand mapping remoteMessageId piece)
  | .image _ url => do
      let _ ← call (.download url)
      runtimeCommand (pieceCommand mapping remoteMessageId piece)

def sendPieces (mapping : ConversationMap) (remoteMessageId : String) :
    List Piece → Routine (List Members)
  | [] => pure []
  | piece :: pieces => do
      let answer ← sendPiece mapping remoteMessageId piece
      let answers ← sendPieces mapping remoteMessageId pieces
      pure (answer :: answers)

/-- `piece.get("success")` -/
def succeeded (answer : Members) : Bool := (Json.get answer "success").isTrue

def localMessagePk (answer : Members) : Option String :=
  remoteId library (Json.get (Json.get answer "message").asObject "message_pk")

def pieceRecord (accountId remoteMessageId remoteConversationId messagePk : String)
    (answer : Members) : MessageMap where
  accountId := accountId
  messagePk := some messagePk
  chatwootMessageId := some remoteMessageId
  chatwootConversationId := some remoteConversationId
  origin := "chatwoot"
  state := if succeeded answer then "synced" else "failed"
  error :=
    let error := string library (Json.get answer "error")
    if error = "" then none else some error

def recordPieces (accountId remoteMessageId remoteConversationId : String) :
    List Members → Routine Unit
  | [] => pure ()
  | answer :: answers => do
      match localMessagePk library answer with
      | none => pure ()
      | some messagePk =>
          recordMap (pieceRecord library accountId remoteMessageId remoteConversationId messagePk
            answer)
      recordPieces accountId remoteMessageId remoteConversationId answers

/-- The text of the exception over the pieces that failed. -/
def sendError (answers : List Members) : String :=
  "; ".intercalate ((answers.filter fun answer => !succeeded answer).map fun answer =>
    let error := string library (Json.get answer "error")
    if error = "" then "闲鱼发送失败" else error)

def audioUnsupported : String :=
  "当前闲鱼通道仅支持从 Chatwoot 发送文字和图片；语音仅支持接收和播放，本条未发送"

def refuseAudio (deliveryId accountId remoteMessageId remoteConversationId : String)
    (config : ConfigView) : Routine Members := do
  recordMap ⟨accountId, none, some remoteMessageId, some remoteConversationId, "chatwoot",
    "audio_unsupported", some audioUnsupported⟩
  let (noteCreated, noteError) ← exceptException
    (do
      if config.hasCredentials then
        call (.postPrivateNote remoteConversationId none)
        pure (true, "")
      else pure (false, ""))
    fun failure => pure (false, cutText 1000 failure.text)
  finishWebhookOf deliveryId "ignored" none
  pure (skipped audioUnsupported ++ [("private_note_created", .bool noteCreated)] ++
    if noteError = "" then [] else [("private_note_error", .str noteError)])

def forwardPieces (mapping : ConversationMap) (remoteMessageId remoteConversationId : String)
    (pieces : List Piece) : Routine Members := do
  let answers ← sendPieces mapping remoteMessageId pieces
  if answers.isEmpty then pure (skipped "empty message")
  else
    recordPieces library mapping.accountId remoteMessageId remoteConversationId answers
    if answers.any fun answer => !succeeded answer then
      throw (.integrationError (sendError library answers))
    else
      setManualTakeover mapping.accountId mapping.conversationId "permanent"
      pure [("ok", .bool true), ("pieces", .int answers.length)]

/-- What a branch leaves to `execute_webhook_task`: its answer, or an answer with which the
delivery is finished already. -/
inductive Handled
  | answer (members : Members)
  | finished (members : Members)

/-- The branch of `message_created`. -/
def handleMessageCreated (deliveryId : String) (payload : Members) : Routine Handled := do
  let message := eventMessage payload
  if messageIsOutgoing library (Json.get message "message_type") ∧
      messageIsPrivate library message = false then
    match extractChatwootConversationId library payload,
        extractChatwootMessageId library payload with
    | some remoteConversationId, some remoteMessageId => do
        let existing ← messageMapsByRemoteGlobal remoteMessageId
        if existing ≠ [] then pure (.answer (skipped "already forwarded"))
        else
          match ← conversationMapByRemoteGlobal remoteConversationId with
          | none => throw (.integrationError "Chatwoot 会话尚未映射到闲鱼会话")
          | some mapping => do
              match ← getConfig (some mapping.accountId) with
              | none =>
                  finishWebhookOf deliveryId "ignored" none
                  pure (.finished (skipped "account Chat disabled"))
              | some config =>
                  if config.enabled then
                    let files ← orError (attachments message)
                    if ← orError (anyAudio library files) then
                      let answer ← refuseAudio deliveryId mapping.accountId remoteMessageId
                        remoteConversationId config
                      pure (.finished answer)
                    else
                      let answer ← forwardPieces library mapping remoteMessageId
                        remoteConversationId
                        (piecesOf (string library (Json.get message "content"))
                          (attachmentUrls library files []))
                      pure (.answer answer)
                  else
                    finishWebhookOf deliveryId "ignored" none
                    pure (.finished (skipped "account Chat disabled"))
    | _, _ => throw (.integrationError "Chatwoot 消息缺少会话或消息 ID")
  else pure (.answer (skipped "not a public agent message"))

def dispatchEvent (deliveryId : String) (platformConfig : ConfigView) (view : WebhookView) :
    Routine Handled :=
  if view.eventName ∈
      ["conversation_status_changed", "conversation_updated", "conversation_created"] then do
    let answer ← handleConversationStatus library view.payload
    pure (.answer answer)
  else if view.eventName = "message_updated" then do
    let answer ← handleMessageUpdated library platformConfig view.payload
    pure (.answer answer)
  else if view.eventName = "message_created" then
    handleMessageCreated library deliveryId view.payload
  else pure (.answer (skipped "unsupported event"))

/-- `result["read_synced_users"] = len(read_events)` -/
def withReadCount (events : List String) : Handled → Handled
  | .finished members => .finished members
  | .answer members =>
      .answer (if events.isEmpty then members
        else members ++ [("read_synced_users", .int events.length)])

/-- The body of the `try`. -/
def handleEvent (deliveryId : String) (platformConfig : ConfigView) (view : WebhookView) :
    Routine Handled := do
  let events ← readEvents library view.payload
  let handled ← dispatchEvent library deliveryId platformConfig view
  pure (withReadCount events handled)

def executeWebhookTask (deliveryId : String) : Routine Members := do
  match ← getWebhook deliveryId with
  | none => throw (.integrationError "Webhook 投递记录不存在")
  | some view => do
      let platformConfig ← getConfig none
      match platformConfig.filter ConfigView.enabled with
      | none =>
          finishWebhookOf deliveryId "ignored" (some "platform config disabled")
          pure (skipped "platform config disabled")
      | some platformConfig => do
          let handled ← exceptException (handleEvent library deliveryId platformConfig view)
            fun failure => do
              finishWebhookOf deliveryId "failed" (some (cutText 1000 failure.text))
              call (.setComponentHealth "webhook" "error" (some (cutText 1000 failure.text)))
              throw failure
          match handled with
          | .finished members => pure members
          | .answer members =>
              finishWebhookOf deliveryId "success" none
              call (.setComponentHealth "webhook" "ready" none)
              pure members

end XianyuAdmin.Chatwoot
