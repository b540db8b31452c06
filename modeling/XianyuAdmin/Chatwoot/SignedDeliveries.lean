import XianyuAdmin.Chatwoot.AcceptedWebhooks
import XianyuAdmin.Chatwoot.Workers

/-!
# Signed deliveries

A delivery is verified with the secret of the inbox that its body names, and the
inbox belongs to an account.  What its task acts on is found by the ids in the
body, over all accounts and whatever installation the maps were recorded for.
Here every map keeps the installation under which it first appeared, and every
stored delivery the account that signed it.
-/

namespace XianyuAdmin.Chatwoot.SignedWebhooks

open XianyuAdmin.Coroutine
open XianyuAdmin.Procedure
open XianyuAdmin.Python
open XianyuAdmin.Transition

variable (library : WebhookLibrary)

/-- The Chatwoot installation that is configured, by its address and account. -/
abbrev Installation := Option (String × Option ℤ)

def installationOf (settings : Settings) : Installation :=
  settings.config.map fun config => (config.baseUrl, config.chatwootAccountId)

structure ConversationPair where
  accountId : String
  conversationId : String
  chatwootConversationId : String
  deriving DecidableEq

def pairOf (row : ConversationMap) : ConversationPair :=
  ⟨row.accountId, row.conversationId, row.chatwootConversationId⟩

structure MessagePair where
  accountId : String
  messagePk : Option String
  chatwootMessageId : Option String
  deriving DecidableEq

def messagePairOf (row : MessageMap) : MessagePair :=
  ⟨row.accountId, row.messagePk, row.chatwootMessageId⟩

def noteNew {Pair : Type} [DecidableEq Pair] (installation : Installation) (pairs : List Pair)
    (known : List (Pair × Installation)) : List (Pair × Installation) :=
  known ++ ((pairs.filter fun pair => pair ∉ known.map Prod.fst).map fun pair =>
    (pair, installation))

/-- What is noted of a run: the account that signed a stored delivery and the installation
it was accepted for, the installation of every map, and the deliveries whose task has
performed an operation beyond them. -/
structure Notes where
  signed : String → Option (String × Installation)
  conversations : List (ConversationPair × Installation)
  messages : List (MessagePair × Installation)
  strayed : List String

abbrev State := Workers Notes

def knows {Pair : Type} (installation : Installation) (fits : Pair → Bool)
    (known : List (Pair × Installation)) : Bool :=
  known.any fun entry => decide (entry.2 = installation) && fits entry.1

def overwritten (record : MessageMap) (maps : MessageTable) : Option MessageMap :=
  if truthy record.messagePk then
    record.messagePk.bind fun messagePk => maps.lookup (record.accountId, messagePk)
  else none

def concerns (accountId : String) (installation : Installation) (notes : Notes)
    (maps : MessageTable) : Op → Bool
  | .recordReadSyncObservation chatwootConversationId _ _ =>
      knows installation (fun pair => pair.accountId = accountId ∧
        pair.chatwootConversationId = chatwootConversationId) notes.conversations
  | .markConversationReadShared account conversationId _
  | .setManualTakeover account conversationId _
  | .runtimeCommand (.text account conversationId _ _ _)
  | .runtimeCommand (.image account conversationId _ _) =>
      account = accountId && knows installation (fun pair => pair.accountId = accountId ∧
        pair.conversationId = conversationId) notes.conversations
  | .runtimeCommand (.recall account conversationId messagePk) =>
      account = accountId &&
        knows installation (fun pair => pair.accountId = accountId ∧
          stringOf pair.conversationId = conversationId) notes.conversations &&
        knows installation (fun pair => pair.accountId = accountId ∧
          stringOf pair.messagePk = messagePk) notes.messages
  | .updateConversationStatus account chatwootConversationId _ =>
      account = accountId && knows installation (fun pair => pair.accountId = accountId ∧
        pair.chatwootConversationId = chatwootConversationId) notes.conversations
  | .recordMessageMap record =>
      record.accountId = accountId && (overwritten record maps).all fun row =>
        knows installation (fun pair => pair = messagePairOf row) notes.messages
  | _ => true

def Handles (thread : ℕ) (deliveryId : String) (accountId : String)
    (installation : Installation) (state : State) : Prop :=
  (state.running thread).map Task.job = some (.webhook deliveryId) ∧
    state.ghost.signed deliveryId = some (accountId, installation)

/-- The delivery whose task goes beyond its account and installation with the operation. -/
def strays (thread : ℕ) (op : Op) (state : State) : List String :=
  match (state.running thread).map Task.job with
  | some (.webhook deliveryId) =>
      match state.ghost.signed deliveryId with
      | some (accountId, installation) =>
          if concerns accountId installation state.ghost state.bridge.maps op then []
          else [deliveryId]
      | none => [deliveryId]
  | some (.localMessage _ _ _) | none => []

def observe (state : State) : State :=
  let installation := installationOf state.bridge.settings
  { state with
    ghost := { state.ghost with
      conversations := noteNew installation
        (state.bridge.settings.conversationMaps.rows.map pairOf) state.ghost.conversations
      messages := noteNew installation (state.bridge.maps.rows.map messagePairOf)
        state.ghost.messages } }

/-- The account whose inbox is named by the body, if its secret verifies the signature. -/
def signer (delivery : Delivery) (settings : Settings) : Option String :=
  match parseBody library delivery.rawBody with
  | .error _ => none
  | .ok parsed =>
      match (extractChatwootInboxId library parsed).join with
      | none => none
      | some inboxId =>
          match settings.bindings.lookup (.inboxId inboxId) with
          | none => none
          | some binding =>
              match library.decrypt binding.webhookSecretEncrypted with
              | none => none
              | some secret =>
                  if verifyChatwootSignature library secret delivery.rawBody delivery.signature
                      delivery.timestamp delivery.clock = some true then some binding.accountId
                  else none

/-- The deliveries that `accept_chatwoot_webhook` leaves stored. -/
def acceptedEvents (delivery : Delivery) (settings : Settings) (events : EventTable) :
    EventTable :=
  (AcceptedWebhooks.accept library delivery ⟨settings, events, .empty⟩).2.events

def noteSigner (delivery : Delivery) (state : State) : String → Option (String × Installation) :=
  let settings := state.bridge.settings
  let deliveryId := recordKey (delivery.deliveryId library)
  if (state.bridge.events.lookup deliveryId).isNone ∧
      ((acceptedEvents library delivery settings state.bridge.events).lookup deliveryId).isSome
  then
    Function.update state.ghost.signed deliveryId
      ((signer library delivery settings).map fun accountId =>
        (accountId, installationOf settings))
  else state.ghost.signed

/-- What happens beside the tasks. -/
inductive Change
  /-- The platform, the accounts or the maps of conversations are edited. -/
  | configure (settings : Settings)
  | record (message : LocalMessage)
  | revise (accountId messagePk : String)
  | write (message : RemoteMessage)
  | accept (delivery : Delivery)

/-- The outside of the tasks.  An inbox is bound to a stored account. -/
def outside (state : State) : Change → Option State
  | .configure settings =>
      some (observe { state with bridge := { state.bridge with settings := settings } })
  | .record message =>
      (state.bridge.messages.insert? message).map fun messages =>
        { state with bridge := { state.bridge with messages := messages } }
  | .revise accountId messagePk =>
      (state.bridge.messages.lookup (accountId, messagePk)).map fun message =>
        state.enqueue (Job.ofMessage message)
  | .write message => some { state with bridge := state.bridge.post message }
  | .accept delivery =>
      if ∀ accountId ∈ signer library delivery state.bridge.settings,
          accountId ∈ state.bridge.settings.accountList then
        some (Workers.enqueue (.webhook (recordKey (delivery.deliveryId library)))
          { state with
            bridge := { state.bridge with
              events := acceptedEvents library delivery state.bridge.settings
                state.bridge.events }
            ghost := { state.ghost with signed := noteSigner library delivery state } })
      else none

/-- Workers on both kinds of tasks, and deliveries. -/
def machine : Machine State Op Answer Failure Members Task Env Change where
  program task := task.job.program library
  start thread task state :=
    match task.job with
    | .webhook deliveryId =>
        if (state.bridge.events.lookup deliveryId).isSome then state.claim thread task else none
    | .localMessage _ _ _ => state.claim thread task
  perform thread op env state :=
    (performOp library.loadsText op env state.bridge).map fun (answer, bridge) =>
      (answer,
        observe { state with
          bridge := bridge
          ghost := { state.ghost with
            strayed := state.ghost.strayed ++ strays thread op state } })
  leave thread ended state := state.release thread ended
  outside change state := outside library state change

/-- Nothing has been accepted yet. -/
def start (settings : Settings) : State :=
  observe
    { bridge :=
        { settings := settings
          events := .empty
          maps := .empty
          messages := .empty
          remote := []
          requests := []
          log := [] }
      queue := []
      created := []
      running := fun _ => none
      ghost := ⟨fun _ => none, [], [], []⟩ }

structure Confined (state : State) : Prop where
  signed : ∀ deliveryId, (state.bridge.events.lookup deliveryId).isSome →
    (state.ghost.signed deliveryId).isSome
  confined : state.ghost.strayed = []

/-- The ids of a delivery lead to maps of its signer that were recorded for its
installation, and what it records is written over no map of another installation. -/
def Allowed (thread : ℕ) (op : Op) (env : Env) (state : State) : Prop :=
  ∀ deliveryId accountId installation, Handles thread deliveryId accountId installation state →
    match op with
    | .getConversationMapByRemoteGlobal chatwootConversationId =>
        env.raised = none →
          ∀ row ∈ getConversationMapByRemoteGlobal chatwootConversationId
              state.bridge.settings.conversationMaps,
            row.accountId = accountId ∧ (pairOf row, installation) ∈ state.ghost.conversations
    | .getConversationMapByRemote account chatwootConversationId =>
        env.raised = none →
          ∀ row ∈ getConversationMapByRemoteGlobal chatwootConversationId
              state.bridge.settings.conversationMaps,
            row.accountId = account → (pairOf row, installation) ∈ state.ghost.conversations
    | .findMessageMapsByRemoteGlobal chatwootMessageId =>
        env.raised = none →
          ∀ row ∈ findMessageMapsByRemoteGlobal chatwootMessageId state.bridge.maps,
            row.accountId = accountId ∧
              (messagePairOf row, installation) ∈ state.ghost.messages
    | .recordMessageMap record =>
        ∀ row ∈ overwritten record state.bridge.maps,
          (messagePairOf row, installation) ∈ state.ghost.messages
    | _ => True

end XianyuAdmin.Chatwoot.SignedWebhooks
