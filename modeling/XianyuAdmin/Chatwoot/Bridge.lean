import XianyuAdmin.Chatwoot.ChatwootRecords
import XianyuAdmin.Core.Coroutine

/-!
# The state between Xianyu and Chatwoot

The tasks of the integration are coroutines.  Each of their awaits is one
operation: a transaction of the repository or the store, a command to the
account runtime, or a request to Chatwoot.  What an operation does to the state
is a function of the answer the outside gives, and any operation may raise,
before its effect or after it.
-/

namespace XianyuAdmin.Chatwoot

open XianyuAdmin.Python

/-- A row of `xianyu_chatwoot_messages`. -/
structure MessageMap where
  accountId : String
  messagePk : Option String
  chatwootMessageId : Option String
  chatwootConversationId : Option String
  origin : String
  state : String
  error : Option String
  deriving DecidableEq

/-- `uq_xianyu_chatwoot_message_local`; a `NULL` column is not indexed. -/
def messageMapKeys (row : MessageMap) : List (String × String) :=
  row.messagePk.toList.map fun messagePk => (row.accountId, messagePk)

abbrev MessageTable := Table MessageMap messageMapKeys

def findMessageMapsByRemoteGlobal (chatwootMessageId : String) (maps : MessageTable) :
    List MessageMap :=
  maps.rows.filter fun row => row.chatwootMessageId = some chatwootMessageId

def findMessageMapByLocal (accountId messagePk : String) (maps : MessageTable) :
    Option MessageMap :=
  maps.lookup (accountId, messagePk)

def orText (left right : Option String) : Option String :=
  if truthy left then left else right

/-- The row after `_record_message_map_sync` has found it; `origin` stays. -/
def recordedOver (record row : MessageMap) : MessageMap :=
  { row with
    chatwootMessageId := orText record.chatwootMessageId row.chatwootMessageId
    chatwootConversationId := orText record.chatwootConversationId row.chatwootConversationId
    state := record.state
    error := record.error }

/-- `_record_message_map_sync`; `none` is an `IntegrityError`. -/
def recordMessageMap (record : MessageMap) (maps : MessageTable) : Option MessageTable :=
  let found :=
    if truthy record.messagePk then
      record.messagePk.bind fun messagePk => maps.lookup (record.accountId, messagePk)
    else none
  match found with
  | none => maps.insert? record
  | some _ =>
      some (maps.map (fun row =>
        if row.accountId = record.accountId ∧ row.messagePk = record.messagePk then
          recordedOver record row
        else row) (by
          intro row
          split
          · rfl
          · rfl))

/-- What `get_config` returns. -/
structure ConfigView where
  enabled : Bool
  platformEnabled : Bool
  accountAlertsEnabled : Bool
  offlineAlertDelaySeconds : ℤ
  accountState : Option String
  baseUrl : String
  chatwootAccountId : Option ℤ
  apiAccessToken : Option String
  inboxIdentifier : Option String
  alertConversationId : Option String
  lastAlertState : Option String

/-- `token and chatwoot_account_id`: the service may use the account API. -/
def ConfigView.hasCredentials (config : ConfigView) : Bool :=
  truthy config.apiAccessToken && config.chatwootAccountId.any fun id => id ≠ 0

/-- `_get_config_sync` -/
def getConfigView (accountId : Option String) (settings : Settings) : Option ConfigView :=
  match settings.config with
  | none => none
  | some row =>
      let account :=
        if truthy accountId then accountId.bind fun id => settings.accounts.lookup id else none
      if truthy accountId ∧ account = none then none
      else
        let binding :=
          if truthy accountId then
            accountId.bind fun id => settings.bindings.lookup (.accountId id)
          else none
        some
          { enabled := row.enabled &&
              (account.elim true fun account => account.enabled && account.chatEnabled)
            platformEnabled := row.enabled
            accountAlertsEnabled := row.accountAlertsEnabled
            offlineAlertDelaySeconds := max 30
              (min (if row.offlineAlertDelaySeconds = 0 then 120
                else row.offlineAlertDelaySeconds) 3600)
            accountState := account.bind Account.accountState
            baseUrl := row.baseUrl
            chatwootAccountId := row.chatwootAccountId
            apiAccessToken := row.apiAccessToken
            inboxIdentifier := binding.map InboxBinding.inboxIdentifier
            alertConversationId := binding.bind InboxBinding.alertConversationId
            lastAlertState := binding.bind InboxBinding.lastAlertState }

/-- A row of `xianyu_messages` as far as the mirror decides by it. -/
structure LocalMessage where
  accountId : String
  messagePk : String
  conversationId : String
  direction : String
  sendStatus : Option String
  recalled : Bool
  hasPeer : Bool
  /-- `_context_image_urls` of the message. -/
  imageUrls : List String
  /-- `_context_audio_urls` of the message. -/
  audioUrls : List String
  deriving DecidableEq

def localMessageKeys (row : LocalMessage) : List (String × String) :=
  [(row.accountId, row.messagePk)]

abbrev LocalMessageTable := Table LocalMessage localMessageKeys

structure Download where
  url : String
  deriving DecidableEq

structure RemoteMessage where
  messageId : String
  chatwootConversationId : String
  isPrivate : Bool
  /-- `content_attributes.xianyu_deleted_source_message_id` -/
  deletedSourceId : Option String
  mirrors : Option (String × String)
  deriving DecidableEq

/-- The commands of `runtime_command`. -/
inductive Command
  | text (accountId conversationId receiverUserId text clientRequestId : String)
  | image (accountId conversationId clientRequestId : String) (image : Download)
  | recall (accountId conversationId messagePk : String)
  deriving DecidableEq

def Command.clientRequestId : Command → Option String
  | .text _ _ _ _ clientRequestId => some clientRequestId
  | .image _ _ clientRequestId _ => some clientRequestId
  | .recall _ _ _ => none

def Command.accountId : Command → String
  | .text accountId _ _ _ _ => accountId
  | .image accountId _ _ _ => accountId
  | .recall accountId _ _ => accountId

def Command.isSend : Command → Bool
  | .text _ _ _ _ _ => true
  | .image _ _ _ _ => true
  | .recall _ _ _ => false

/-- What `get_webhook` returns. -/
structure WebhookView where
  eventName : String
  payload : Members

/-- What a task raises. -/
inductive Failure
  | integrationError (message : String)
  | exception (text : String)
  /-- `asyncio.CancelledError`, which `except Exception` lets pass. -/
  | cancelled
  deriving DecidableEq

/-- `str(exc)` -/
def Failure.text : Failure → String
  | .integrationError message => message
  | .exception text => text
  | .cancelled => ""

/-- The awaits of the tasks. -/
inductive Op
  | getWebhook (deliveryId : String)
  | finishWebhook (deliveryId status : String) (error : Option String)
  | setComponentHealth (component status : String) (error : Option String)
  | getConfig (accountId : Option String)
  | getConversationMapByRemoteGlobal (chatwootConversationId : String)
  | getConversationMapByRemote (accountId chatwootConversationId : String)
  | recordReadSyncObservation (chatwootConversationId : String) (seenAt : ℤ) (synced : Bool)
  | getLastInboundAt (accountId conversationId : String)
  | markConversationReadShared (accountId conversationId : String) (readThrough : ℤ)
  | notifyRead (userId : String)
  | updateConversationStatus (accountId chatwootConversationId status : String)
  | setManualTakeover (accountId conversationId mode : String)
  | findMessageMapsByRemoteGlobal (chatwootMessageId : String)
  | findMessageMapByLocal (accountId messagePk : String)
  | getLocalMessageContext (accountId messagePk : String)
  | recordMessageMap (record : MessageMap)
  | runtimeCommand (command : Command)
  | download (url : String)
  | listChatwootMessages (chatwootConversationId : String)
  | postPrivateNote (chatwootConversationId : String) (deletedSourceId : Option String)
  | ensureManagedAccountInbox (accountId : String)
  | ensureRemoteConversation (accountId conversationId : String)
  | createMessage (accountId messagePk chatwootConversationId : String)

/-- The operation creates a message in Chatwoot. -/
def Op.creates : Op → Bool
  | .postPrivateNote _ _ => true
  | .createMessage _ _ _ => true
  | _ => false

/-- What an operation returns. -/
@[reducible]
def Answer : Op → Type
  | .getWebhook _ => Option WebhookView
  | .getConfig _ => Option ConfigView
  | .getConversationMapByRemoteGlobal _ => Option ConversationMap
  | .getConversationMapByRemote _ _ => Option ConversationMap
  | .getLastInboundAt _ _ => Option ℤ
  | .markConversationReadShared _ _ _ => Bool × List String
  | .findMessageMapsByRemoteGlobal _ => List MessageMap
  | .findMessageMapByLocal _ _ => Option MessageMap
  | .getLocalMessageContext _ _ => Option LocalMessage
  | .runtimeCommand _ => Members
  | .download _ => Download
  | .listChatwootMessages _ => List RemoteMessage
  | .ensureManagedAccountInbox _ => ConfigView
  | .ensureRemoteConversation _ _ => ConversationMap
  | .createMessage _ _ _ => Option String
  | .finishWebhook _ _ _ => Unit
  | .setComponentHealth _ _ _ => Unit
  | .recordReadSyncObservation _ _ _ => Unit
  | .notifyRead _ => Unit
  | .updateConversationStatus _ _ _ => Unit
  | .setManualTakeover _ _ _ => Unit
  | .recordMessageMap _ => Unit
  | .postPrivateNote _ _ => Unit

abbrev Routine := Coroutine Op Answer Failure

/-- One await. -/
abbrev call (op : Op) : Routine (Answer op) := Coroutine.perform op

/-- What the tasks have done outside the tables above, in order. -/
inductive Effect
  | submitted (command : Command)
  | carriedOut (command : Command) (answer : Members)
  | readObserved (chatwootConversationId : String)
  | readMarked (accountId conversationId : String)
  | statusUpdated (accountId chatwootConversationId status : String)
  | takeover (accountId conversationId mode : String)
  | mapped (record : MessageMap)
  | posted (message : RemoteMessage)

structure Bridge where
  settings : Settings
  events : EventTable
  maps : MessageTable
  messages : LocalMessageTable
  remote : List RemoteMessage
  requests : List (String × Members)
  log : List Effect

/-- How the outside lets an operation end. -/
structure Env where
  raised : Option Failure := none
  committed : Bool := false
  /-- The answer of the runtime to a command that it carries out, and the local message
  that it stores with it. -/
  members : Members := []
  stored : Option LocalMessage := none
  messageId : String := ""
  responseId : Option String := none
  page : List RemoteMessage := []
  settings : Option Settings := none
  covered : Bool := false
  users : List String := []
  lastInboundAt : Option ℤ := none

namespace Bridge

/-- `state` with one more effect. -/
def note (effect : Effect) (state : Bridge) : Bridge :=
  { state with log := state.log ++ [effect] }

def answerOf (clientRequestId : Option String) (state : Bridge) : Option Members :=
  clientRequestId.bind fun id =>
    (state.requests.find? fun request => request.1 = id).map Prod.snd

def carryOut (command : Command) (env : Env) (state : Bridge) : Bridge :=
  { state with
    requests := state.requests ++
      command.clientRequestId.toList.map fun id => (id, env.members)
    messages :=
      match env.stored with
      | none => state.messages
      | some message => (state.messages.insert? message).getD state.messages
    log := state.log ++ [.carriedOut command env.members] }

/-- `runtime_command`: a request id that was answered before is answered the same and not
carried out again. -/
def command (command : Command) (env : Env) (state : Bridge) : Members × Bridge :=
  let submitted := state.note (.submitted command)
  match state.answerOf command.clientRequestId with
  | some answer => (answer, submitted)
  | none => (env.members, submitted.carryOut command env)

theorem command_cases {command : Command} {env : Env} {state after : Bridge} {answer : Members}
    (hcommand : state.command command env = (answer, after)) :
    (state.answerOf command.clientRequestId = some answer ∧
        after = state.note (.submitted command)) ∨
      (state.answerOf command.clientRequestId = none ∧ answer = env.members ∧
        after = (state.note (.submitted command)).carryOut command env) := by
  unfold Bridge.command at hcommand
  cases hanswer : state.answerOf command.clientRequestId with
  | some earlier =>
      rw [hanswer] at hcommand
      cases hcommand
      exact .inl ⟨rfl, rfl⟩
  | none =>
      rw [hanswer] at hcommand
      cases hcommand
      exact .inr ⟨rfl, rfl, rfl⟩

def post (message : RemoteMessage) (state : Bridge) : Bridge :=
  { state with
    remote := state.remote ++ [message]
    log := state.log ++ [.posted message] }

end Bridge

def webhookView (loads : String → Option Json) (row : WebhookEvent) : WebhookView where
  eventName := row.eventName
  payload := ((loads row.payload).getD .null).asObject

/-- What an operation returns and the state it leaves, if the outside lets it end as in
`env`. -/
def effect (loads : String → Option Json) (env : Env) (state : Bridge) :
    (op : Op) → Option (Answer op × Bridge)
  | .getWebhook deliveryId =>
      some ((state.events.lookup deliveryId).map (webhookView loads), state)
  | .finishWebhook deliveryId status error =>
      some ((), { state with events := finishWebhook deliveryId status error state.events })
  | .setComponentHealth _ _ _ => some ((), state)
  | .getConfig accountId => some (getConfigView accountId state.settings, state)
  | .getConversationMapByRemoteGlobal chatwootConversationId =>
      some (getConversationMapByRemoteGlobal chatwootConversationId
        state.settings.conversationMaps, state)
  | .getConversationMapByRemote accountId chatwootConversationId =>
      some ((getConversationMapByRemoteGlobal chatwootConversationId
        state.settings.conversationMaps).filter fun row => row.accountId = accountId, state)
  | .recordReadSyncObservation chatwootConversationId _ _ =>
      some ((), state.note (.readObserved chatwootConversationId))
  | .getLastInboundAt _ _ => some (env.lastInboundAt, state)
  | .markConversationReadShared accountId conversationId _ =>
      some ((env.covered, env.users), state.note (.readMarked accountId conversationId))
  | .notifyRead _ => some ((), state)
  | .updateConversationStatus accountId chatwootConversationId status =>
      some ((), state.note (.statusUpdated accountId chatwootConversationId status))
  | .setManualTakeover accountId conversationId mode =>
      some ((), state.note (.takeover accountId conversationId mode))
  | .findMessageMapsByRemoteGlobal chatwootMessageId =>
      some (findMessageMapsByRemoteGlobal chatwootMessageId state.maps, state)
  | .findMessageMapByLocal accountId messagePk =>
      some (findMessageMapByLocal accountId messagePk state.maps, state)
  | .getLocalMessageContext accountId messagePk =>
      some ((state.messages.lookup (accountId, messagePk)).filter LocalMessage.hasPeer, state)
  | .recordMessageMap record =>
      (recordMessageMap record state.maps).map fun maps =>
        ((), { state with maps := maps, log := state.log ++ [.mapped record] })
  | .runtimeCommand command => some (state.command command env)
  | .download url => some (⟨url⟩, state)
  | .listChatwootMessages _ =>
      if env.page ⊆ state.remote then some (env.page, state) else none
  | .postPrivateNote chatwootConversationId deletedSourceId =>
      some ((), state.post ⟨env.messageId, chatwootConversationId, true, deletedSourceId, none⟩)
  | .ensureManagedAccountInbox accountId =>
      let settings := env.settings.getD state.settings
      (getConfigView (some accountId) settings).map fun config =>
        (config, { state with settings := settings })
  | .ensureRemoteConversation accountId conversationId =>
      let settings := env.settings.getD state.settings
      (settings.conversationMaps.lookup (.localPair accountId conversationId)).map fun row =>
        (row, { state with settings := settings })
  | .createMessage accountId messagePk chatwootConversationId =>
      some (env.responseId, state.post
        ⟨env.messageId, chatwootConversationId, false, none, some (accountId, messagePk)⟩)

/-- The operation ends as the outside says. -/
def performOp (loads : String → Option Json) (op : Op) (env : Env) (state : Bridge) :
    Option (Except Failure (Answer op) × Bridge) :=
  match env.raised with
  | none => (effect loads env state op).map fun (value, after) => (.ok value, after)
  | some failure =>
      if env.committed then
        (effect loads env state op).map fun (_, after) => (.error failure, after)
      else some (.error failure, state)

theorem performOp_cases {loads : String → Option Json} {op : Op} {env : Env}
    {before after : Bridge} {answer : Except Failure (Answer op)}
    (hperform : performOp loads op env before = some (answer, after)) :
    (∃ value, answer = .ok value ∧ env.raised = none ∧
        effect loads env before op = some (value, after)) ∨
      ∃ failure, answer = .error failure ∧ env.raised = some failure ∧
        (after = before ∨ ∃ value, effect loads env before op = some (value, after)) := by
  unfold performOp at hperform
  split at hperform
  · rename_i hraised
    obtain ⟨⟨value, after⟩, heffect, hend⟩ := Option.map_eq_some_iff.mp hperform
    cases hend
    exact .inl ⟨value, rfl, hraised, heffect⟩
  · rename_i failure hraised
    split at hperform
    · obtain ⟨⟨value, after⟩, heffect, hend⟩ := Option.map_eq_some_iff.mp hperform
      cases hend
      exact .inr ⟨failure, rfl, hraised, .inr ⟨value, heffect⟩⟩
    · cases hperform
      exact .inr ⟨failure, rfl, hraised, .inl rfl⟩

/-- What an operation leaves as it is. -/
structure Frame (op : Op) (before after : Bridge) : Prop where
  events : (∀ deliveryId status error, op ≠ .finishWebhook deliveryId status error) →
    after.events = before.events
  maps : (∀ record, op ≠ .recordMessageMap record) → after.maps = before.maps
  remote : op.creates = false → after.remote = before.remote

theorem Frame.of_eq {op : Op} {before after : Bridge} (hevents : after.events = before.events)
    (hmaps : after.maps = before.maps) (hremote : after.remote = before.remote) :
    Frame op before after :=
  ⟨fun _ => hevents, fun _ => hmaps, fun _ => hremote⟩

theorem frame_effect {loads : String → Option Json} {env : Env} {before after : Bridge}
    {op : Op} {value : Answer op}
    (heffect : effect loads env before op = some (value, after)) : Frame op before after := by
  cases op with
  | finishWebhook deliveryId status error =>
      cases heffect
      exact ⟨fun hother => (hother _ _ _ rfl).elim, fun _ => rfl, fun _ => rfl⟩
  | recordMessageMap record =>
      obtain ⟨maps, -, hafter⟩ := Option.map_eq_some_iff.mp heffect
      cases hafter
      exact ⟨fun _ => rfl, fun hother => (hother _ rfl).elim, fun _ => rfl⟩
  | postPrivateNote chatwootConversationId deletedSourceId =>
      cases heffect
      exact ⟨fun _ => rfl, fun _ => rfl, fun hother => by cases hother⟩
  | createMessage accountId messagePk chatwootConversationId =>
      cases heffect
      exact ⟨fun _ => rfl, fun _ => rfl, fun hother => by cases hother⟩
  | runtimeCommand command =>
      rcases Bridge.command_cases (Option.some.inj heffect) with ⟨-, rfl⟩ | ⟨-, -, rfl⟩
      · exact .of_eq rfl rfl rfl
      · exact .of_eq rfl rfl rfl
  | listChatwootMessages chatwootConversationId =>
      simp only [effect] at heffect
      split at heffect
      · cases heffect
        exact .of_eq rfl rfl rfl
      · cases heffect
  | ensureManagedAccountInbox accountId =>
      obtain ⟨config, -, hafter⟩ := Option.map_eq_some_iff.mp heffect
      cases hafter
      exact .of_eq rfl rfl rfl
  | ensureRemoteConversation accountId conversationId =>
      obtain ⟨row, -, hafter⟩ := Option.map_eq_some_iff.mp heffect
      cases hafter
      exact .of_eq rfl rfl rfl
  | _ => cases heffect; exact .of_eq rfl rfl rfl

end XianyuAdmin.Chatwoot
