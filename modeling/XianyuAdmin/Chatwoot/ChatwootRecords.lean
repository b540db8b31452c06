import XianyuAdmin.Chatwoot.WebhookPayloads
import XianyuAdmin.Core.Table

/-!
# The records of the Chatwoot integration

One row configures the platform, one binding per account names its managed
inbox and the secret of its webhooks, conversation maps pair the conversations
of both sides, and every accepted webhook is stored under its delivery id.
-/

namespace XianyuAdmin.Chatwoot

open XianyuAdmin.Python

/-- The row of `xianyu_chatwoot_config`; the token is as `decrypt_sensitive` reads it. -/
structure ChatwootConfig where
  enabled : Bool
  accountAlertsEnabled : Bool
  offlineAlertDelaySeconds : ℤ
  baseUrl : String
  chatwootAccountId : Option ℤ
  apiAccessToken : Option String

/-- The columns of `xianyu_accounts` and of its runtime row that the integration reads. -/
structure Account where
  accountId : String
  enabled : Bool
  chatEnabled : Bool
  /-- `runtime.state`, if there is a runtime row. -/
  accountState : Option String
  deriving DecidableEq

def accountKeys (row : Account) : List String := [row.accountId]

/-- A row of `xianyu_chatwoot_inbox_bindings`. -/
structure InboxBinding where
  accountId : String
  chatwootInboxId : ℤ
  inboxIdentifier : String
  webhookSecretEncrypted : String
  alertConversationId : Option String
  lastAlertState : Option String
  deriving DecidableEq

inductive BindingKey
  | accountId (accountId : String)
  | inboxId (chatwootInboxId : ℤ)
  | identifier (inboxIdentifier : String)
  deriving DecidableEq

def bindingKeys (row : InboxBinding) : List BindingKey :=
  [.accountId row.accountId, .inboxId row.chatwootInboxId, .identifier row.inboxIdentifier]

/-- A row of `xianyu_chatwoot_conversations`. -/
structure ConversationMap where
  accountId : String
  conversationId : String
  peerUserId : String
  sourceId : String
  chatwootConversationId : String
  chatwootInboxId : Option ℤ
  inboxIdentifier : Option String
  deriving DecidableEq

inductive ConversationKey
  | localPair (accountId conversationId : String)
  | remote (chatwootConversationId : String)
  deriving DecidableEq

def conversationKeys (row : ConversationMap) : List ConversationKey :=
  [.localPair row.accountId row.conversationId, .remote row.chatwootConversationId]

/-- A row of `xianyu_chatwoot_webhook_events`. -/
structure WebhookEvent where
  deliveryId : String
  eventName : String
  payloadSha256 : String
  payload : String
  status : String
  error : Option String
  deriving DecidableEq

def eventKeys (row : WebhookEvent) : List String := [row.deliveryId]

abbrev AccountTable := Table Account accountKeys

abbrev BindingTable := Table InboxBinding bindingKeys

abbrev ConversationTable := Table ConversationMap conversationKeys

abbrev EventTable := Table WebhookEvent eventKeys

/-- What administrators, the account pages and the mirror write.  A conversation map
belongs to a stored account, whose id `create_background_task` accepts as it is. -/
structure Settings where
  config : Option ChatwootConfig
  accounts : AccountTable
  bindings : BindingTable
  conversationMaps : ConversationTable
  accountIds : ∀ row ∈ accounts.rows, row.accountId ≠ "" ∧
    strip row.accountId = row.accountId ∧ row.accountId.length ≤ 64
  owned : ∀ row ∈ conversationMaps.rows,
    ∃ account ∈ accounts.rows, account.accountId = row.accountId

namespace Settings

/-- Nothing has been configured yet. -/
def empty : Settings where
  config := none
  accounts := .empty
  bindings := .empty
  conversationMaps := .empty
  accountIds := by
    intro row hrow
    cases hrow
  owned := by
    intro row hrow
    cases hrow

def ofOneMap (token : Option String) (peerId remoteId : String) : Settings where
  config := some ⟨true, false, 120, "https://chatwoot.example", some 1, token⟩
  accounts := .singleton ⟨"a", true, true, none⟩
  bindings := .empty
  conversationMaps := .singleton ⟨"a", "c", peerId, "source", remoteId, none, none⟩
  accountIds := by decide
  owned := by
    intro row hrow
    cases List.mem_singleton.mp hrow
    exact ⟨_, List.mem_singleton_self _, rfl⟩

/-- `enabled` of the platform configuration. -/
def enabled (settings : Settings) : Bool :=
  settings.config.elim false ChatwootConfig.enabled

def accountList (settings : Settings) : List String :=
  settings.accounts.rows.map Account.accountId

end Settings

def getConfigSecret (library : WebhookLibrary) (inboxId : ℤ) (bindings : BindingTable) :
    Option String :=
  (bindings.lookup (.inboxId inboxId)).bind fun binding =>
    library.decrypt binding.webhookSecretEncrypted

def getConversationMapByRemoteGlobal (chatwootConversationId : String)
    (maps : ConversationTable) : Option ConversationMap :=
  maps.lookup (.remote chatwootConversationId)

/-- The row `_record_webhook_sync` adds. -/
def newWebhookEvent (deliveryId eventName payloadSha256 payload : String) : WebhookEvent where
  deliveryId := deliveryId
  eventName := String.ofList (eventName.toList.take 80)
  payloadSha256 := payloadSha256
  payload := payload
  status := "pending"
  error := none

/-- `_record_webhook_sync`: `none` is the `UnicodeDecodeError` of the body, `some none` the
answer `False`. -/
def recordWebhook (library : WebhookLibrary) (deliveryId eventName payloadSha256 : String)
    (rawPayload : Bytes) (events : EventTable) : Option (Option EventTable) :=
  match events.lookup deliveryId with
  | some _ => some none
  | none =>
      match library.decode rawPayload with
      | none => none
      | some payload =>
          some (events.insert? (newWebhookEvent deliveryId eventName payloadSha256 payload))

def finishWebhook (deliveryId status : String) (error : Option String) (events : EventTable) :
    EventTable :=
  events.map (fun row =>
    if row.deliveryId = deliveryId then { row with status := status, error := error } else row)
    (by
      intro row
      split
      · rfl
      · rfl)

@[simp]
theorem mem_eventKeys {row : WebhookEvent} {deliveryId : String} :
    deliveryId ∈ eventKeys row ↔ row.deliveryId = deliveryId := by
  simp [eventKeys, eq_comm]

theorem lookup_finishWebhook_isSome (deliveryId status : String) (error : Option String)
    (events : EventTable) (key : String) :
    ((finishWebhook deliveryId status error events).lookup key).isSome =
      (events.lookup key).isSome := by
  rw [finishWebhook, Table.lookup_map, Option.isSome_map]

/-- A delivery is found stored, or its body cannot be decoded, or it is stored under its id
and the others stay. -/
theorem recordWebhook_cases (library : WebhookLibrary)
    (deliveryId eventName payloadSha256 : String) (rawPayload : Bytes) (events : EventTable) :
    (recordWebhook library deliveryId eventName payloadSha256 rawPayload events = some none ∧
        (events.lookup deliveryId).isSome) ∨
      recordWebhook library deliveryId eventName payloadSha256 rawPayload events = none ∨
      ∃ next, recordWebhook library deliveryId eventName payloadSha256 rawPayload events =
          some (some next) ∧
        (library.decode rawPayload).isSome ∧ events.lookup deliveryId = none ∧
        ∀ key, (next.lookup key).isSome =
          (decide (key = deliveryId) || (events.lookup key).isSome) := by
  unfold recordWebhook
  cases hstored : events.lookup deliveryId with
  | some row => exact .inl ⟨rfl, rfl⟩
  | none =>
      cases hdecode : library.decode rawPayload with
      | none => exact .inr (.inl rfl)
      | some payload =>
          have hfresh : ∀ key ∈ eventKeys
              (newWebhookEvent deliveryId eventName payloadSha256 payload),
              events.lookup key = none := by
            intro key hkey
            rw [← mem_eventKeys.mp hkey]
            exact hstored
          obtain ⟨next, hinsert⟩ := Table.exists_insert?_of_fresh hfresh
          refine .inr (.inr ⟨next, congrArg some hinsert, rfl, rfl, fun key => ?_⟩)
          rw [Table.lookup_of_insert? hinsert key]
          by_cases hkey : key = deliveryId
          · simp [newWebhookEvent, hkey]
          · simp [newWebhookEvent, hkey, Ne.symm hkey]

end XianyuAdmin.Chatwoot
