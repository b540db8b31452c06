import XianyuAdmin.Chatwoot.WebhookOperations

/-!
# Mirroring a local message

`execute_local_message_task` copies a message of Xianyu into Chatwoot, unless a
map of the message says that it was copied or forwarded before.  For a message
that was recalled on Xianyu it leaves a private snapshot beside the copy.
-/

namespace XianyuAdmin.Chatwoot

open XianyuAdmin.Coroutine
open XianyuAdmin.Python

def recallHintUnsupported : String :=
  "同步闲鱼撤回提示需要 Chatwoot 服务账号令牌与平台账户 ID"

def localRecallRecord (accountId messagePk state : String) (error : Option String)
    (mapped : MessageMap) : MessageMap where
  accountId := accountId
  messagePk := some messagePk
  chatwootMessageId := mapped.chatwootMessageId
  chatwootConversationId := mapped.chatwootConversationId
  origin := if mapped.origin = "" then "xianyu" else mapped.origin
  state := state
  error := error

def mirrorRecall (accountId messagePk : String) (config : ConfigView) (context : LocalMessage)
    (mapped : Option MessageMap) : Routine Members := do
  match mapped.filter fun row => truthy row.chatwootMessageId with
  | none => pure (skipped "message not mirrored")
  | some mapped =>
      if mapped.state = "recalled" then pure (skipped "recall already mirrored")
      else if config.hasCredentials then
        let chatwootConversationId := stringOf mapped.chatwootConversationId
        let chatwootMessageId := stringOf mapped.chatwootMessageId
        let snapshotExists ← chatwootRecallSnapshotExists config chatwootConversationId
          chatwootMessageId
        if snapshotExists then pure ()
        else
          createPrivateRecallSnapshot config chatwootConversationId chatwootMessageId [context]
        recordMap (localRecallRecord accountId messagePk "recalled" none mapped)
        pure [("ok", .bool true), ("action", .str "recalled"),
          ("representation", .str "private_snapshot"),
          ("private_snapshot_created", .bool !snapshotExists)]
      else
        recordMap (localRecallRecord accountId messagePk "recall_unsupported"
          (some recallHintUnsupported) mapped)
        pure (skipped recallHintUnsupported)

def outboundSyncUnsupported : String :=
  "本地发出的消息要同步到 Chatwoot，需要服务账号令牌与平台账户 ID"

def LocalMessage.isMirrorable (context : LocalMessage) : Bool :=
  !context.recalled &&
    !(context.direction = "outbound" && context.sendStatus ≠ some "sent")

def mirrorRecord (accountId messagePk chatwootConversationId state : String)
    (chatwootMessageId error : Option String) : MessageMap where
  accountId := accountId
  messagePk := some messagePk
  chatwootMessageId := chatwootMessageId
  chatwootConversationId := some chatwootConversationId
  origin := "xianyu"
  state := state
  error := error

def createCopy (accountId messagePk chatwootConversationId : String) (files : ℕ) :
    Routine Members := do
  let answered ← call (.createMessage accountId messagePk chatwootConversationId)
  match stripOrNone (answered.getD "") with
  | none => throw (.integrationError "Chatwoot 创建消息后未返回消息 ID")
  | some chatwootMessageId => do
      recordMap (mirrorRecord accountId messagePk chatwootConversationId "synced"
        (some chatwootMessageId) none)
      call (.setComponentHealth "push" "ready" none)
      pure [("ok", .bool true), ("chatwoot_message_id", .str chatwootMessageId),
        ("attachments", .int files)]

def managedConfig (accountId : String) (config : ConfigView) : Routine ConfigView :=
  if config.hasCredentials then call (.ensureManagedAccountInbox accountId) else pure config

def mirrorMessage (accountId messagePk : String) (config : ConfigView) (context : LocalMessage) :
    Routine Members := do
  let config ← managedConfig accountId config
  let mapping ← call (.ensureRemoteConversation accountId context.conversationId)
  let images ← downloadAll context.imageUrls
  let audios ← downloadAll context.audioUrls
  let files := images.length + audios.length
  if context.direction = "inbound" then
    createCopy accountId messagePk mapping.chatwootConversationId files
  else if config.hasCredentials then
    createCopy accountId messagePk mapping.chatwootConversationId files
  else
    recordMap (mirrorRecord accountId messagePk mapping.chatwootConversationId
      "outbound_sync_unsupported" none (some outboundSyncUnsupported))
    pure (skipped outboundSyncUnsupported)

def mirrorContext (accountId messagePk : String) (config : ConfigView) (context : LocalMessage)
    (mapped : Option MessageMap) : Routine Members :=
  if context.recalled then mirrorRecall accountId messagePk config context mapped
  else if mapped.isSome then pure (skipped "already mirrored")
  else if context.direction = "outbound" ∧ context.sendStatus ≠ some "sent" then
    pure (skipped "outbound message not acknowledged")
  else mirrorMessage accountId messagePk config context

def executeLocalMessageTask (accountId messagePk : String) : Routine Members := do
  let config ← getConfig (some accountId)
  match config.filter ConfigView.enabled with
  | none => pure (skipped "Chat disabled")
  | some config => do
      match ← call (.getLocalMessageContext accountId messagePk) with
      | none => pure (skipped "message context unavailable")
      | some context => do
          let mapped ← call (.findMessageMapByLocal accountId messagePk)
          mirrorContext accountId messagePk config context mapped

theorem uses_mirrorRecall (accountId messagePk : String) (config : ConfigView)
    (context : LocalMessage) (mapped : Option MessageMap) :
    Uses Op.IsRecall (mirrorRecall accountId messagePk config context mapped) := by
  unfold mirrorRecall
  dsimp only
  split
  · exact uses_pure _
  split
  · exact uses_pure _
  split
  · refine Uses.bind ((uses_chatwootRecallSnapshotExists _ _ _).mono fun _ => Op.IsSnapshot.isRecall) ?_
    intro snapshotExists
    split
    · exact Uses.bind (uses_perform trivial) fun _ => uses_pure _
    · refine Uses.bind ((uses_createPrivateRecallSnapshot _ _ _ _).mono fun _ => Op.IsSnapshot.isRecall) ?_
      intro _
      exact Uses.bind (uses_perform trivial) fun _ => uses_pure _
  · exact Uses.bind (uses_perform trivial) fun _ => uses_pure _

end XianyuAdmin.Chatwoot
