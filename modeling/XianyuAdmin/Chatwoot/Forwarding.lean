import XianyuAdmin.Chatwoot.WebhookOperations

/-!
# Forwarding an agent's message

A public message of an agent is sent to Xianyu piece by piece, first its text
and then its attachments.  An attempt that raises is retried, and a retry that
finds a map of the message takes it for forwarded.  The runtime carries a
command out once for each request id and answers a repeated one as before.
-/

namespace XianyuAdmin.Chatwoot.ForwardedMessages

open XianyuAdmin.Coroutine
open XianyuAdmin.Python
open XianyuAdmin.Transition

structure AgentMessage where
  deliveryId : String
  text : String
  payload : Members
  accountId : String
  conversationId : String

variable (library : WebhookLibrary) (message : AgentMessage)

structure AgentMessage.IsPublic : Prop where
  loads : library.loadsText message.text = some (.obj message.payload)
  outgoing : messageIsOutgoing library
    (Json.get (eventMessage message.payload) "message_type") = true
  notPrivate : messageIsPrivate library (eventMessage message.payload) = false
  silent : ∀ files, attachments (eventMessage message.payload) = some files →
    anyAudio library files ≠ some true

def AgentMessage.pieces : List Piece :=
  piecesOf (string library (Json.get (eventMessage message.payload) "content"))
    (((attachments (eventMessage message.payload)).map fun files =>
      attachmentUrls library files []).getD [])

/-- The bridge, and the attempts at the delivery: how many there were, the one in
progress, and whether another one may follow. -/
structure State where
  bridge : Bridge
  attempts : ℕ
  active : Option ℕ
  retryable : Bool

/-- What other parts of the service do in the meantime; `requests` are those answered to
others. -/
structure Change where
  settings : Settings
  events : EventTable
  maps : MessageTable
  messages : LocalMessageTable
  remote : List RemoteMessage
  requests : List (String × Members)

def IsTarget (row : ConversationMap) : Prop :=
  row.accountId = message.accountId ∧ row.conversationId = message.conversationId

instance (row : ConversationMap) : Decidable (IsTarget message row) :=
  inferInstanceAs (Decidable (_ ∧ _))

def MapsTo (settings : Settings) : Prop :=
  ∀ remoteConversationId ∈ extractChatwootConversationId library message.payload,
    ∀ row ∈ settings.conversationMaps.lookup (.remote remoteConversationId),
      IsTarget message row

instance (settings : Settings) : Decidable (MapsTo library message settings) :=
  inferInstanceAs (Decidable (∀ remoteConversationId ∈ _, ∀ row ∈ _, _))

def IsForeign (state : State) (change : Change) : Prop :=
  MapsTo library message change.settings ∧
    change.events.lookup message.deliveryId = state.bridge.events.lookup message.deliveryId ∧
    ∀ request ∈ change.requests,
      ∀ remoteMessageId ∈ extractChatwootMessageId library message.payload,
        ∀ piece ∈ message.pieces library, request.1 ≠ requestId remoteMessageId piece

instance (state : State) (change : Change) : Decidable (IsForeign library message state change) :=
  inferInstanceAs (Decidable (_ ∧ _ ∧ ∀ request ∈ _, ∀ remoteMessageId ∈ _, ∀ piece ∈ _, _))

def machine : Machine State Op Answer Failure Members Unit Env Change where
  program _ := executeWebhookTask library message.deliveryId
  start thread _ state :=
    if state.active = none ∧ state.retryable ∧ state.attempts < 4 then
      some { state with
        attempts := state.attempts + 1, active := some thread, retryable := false }
    else none
  perform _ op env state :=
    (performOp library.loadsText op env state.bridge).map fun (answer, bridge) =>
      (answer, { state with bridge := bridge })
  leave thread ended state :=
    if state.active = some thread then
      { state with
        active := none
        retryable :=
          match ended with
          | some (.error failure) => failure ≠ .cancelled
          | some (.ok _) | none => false }
    else state
  outside change state :=
    if IsForeign library message state change then
      some { state with
        bridge := { state.bridge with
          settings := change.settings
          events := change.events
          maps := change.maps
          messages := change.messages
          remote := change.remote
          requests := state.bridge.requests ++ change.requests } }
    else none

/-- Nothing was done for the delivery yet. -/
structure Untouched (state : State) : Prop where
  stored : ∃ row, state.bridge.events.lookup message.deliveryId = some row ∧
    row.eventName = "message_created" ∧ row.payload = message.text ∧ row.status = "pending"
  mapsTo : MapsTo library message state.bridge.settings
  log : state.bridge.log = []
  requests : ∀ remoteMessageId ∈ extractChatwootMessageId library message.payload,
    ∀ piece ∈ message.pieces library,
      state.bridge.answerOf (some (requestId remoteMessageId piece)) = none

/-- The piece was sent to the Xianyu conversation, and the runtime gave `answer`. -/
def Carried (state : State) (piece : Piece) (answer : Members) : Prop :=
  ∃ remoteMessageId mapping,
    extractChatwootMessageId library message.payload = some remoteMessageId ∧
      IsTarget message mapping ∧
      Effect.carriedOut (pieceCommand mapping remoteMessageId piece) answer ∈ state.bridge.log

def AllSent (state : State) : Prop :=
  ∀ piece ∈ message.pieces library, ∃ answer,
    Carried library message state piece answer ∧ succeeded answer = true

def TakenOver (state : State) : Prop :=
  Effect.takeover message.accountId message.conversationId "permanent" ∈ state.bridge.log

def EndedAsSuccess (state : State) : Prop :=
  ∃ row, state.bridge.events.lookup message.deliveryId = some row ∧ row.status = "success"

def SamePiece : Command → Command → Prop
  | .text _ _ _ _ _, .text _ _ _ _ _ => True
  | .image _ _ _ left, .image _ _ _ right => left = right
  | .text _ _ _ _ _, _ | .image _ _ _ _, _ | .recall _ _ _, _ => False

structure Forwarded (state : State) : Prop where
  complete : EndedAsSuccess message state →
    AllSent library message state ∧ TakenOver message state
  once : ∀ left right, Effect.submitted left ∈ state.bridge.log →
    Effect.submitted right ∈ state.bridge.log → SamePiece left right →
    left.clientRequestId = right.clientRequestId

/-- An attempt reads the maps of the message and finds one only after an attempt that got
to set the manual takeover. -/
def Allowed (op : Op) (env : Env) (state : State) : Prop :=
  match op with
  | .findMessageMapsByRemoteGlobal chatwootMessageId =>
      env.raised = none →
        findMessageMapsByRemoteGlobal chatwootMessageId state.bridge.maps ≠ [] →
        TakenOver message state
  | _ => True

def Effect.IsWork : Effect → Prop
  | .submitted _ | .carriedOut _ _ | .takeover _ _ _ => True
  | .readObserved _ | .readMarked _ _ | .statusUpdated _ _ _ | .mapped _ | .posted _ => False

/-- What `after` says of the work is what `before` says. -/
structure Calm (before after : Bridge) : Prop where
  events : after.events.lookup message.deliveryId = before.events.lookup message.deliveryId
  requests : ∀ remoteMessageId ∈ extractChatwootMessageId library message.payload,
    ∀ piece ∈ message.pieces library,
      after.answerOf (some (requestId remoteMessageId piece)) =
        before.answerOf (some (requestId remoteMessageId piece))
  log : ∀ effect, Effect.IsWork effect → (effect ∈ after.log ↔ effect ∈ before.log)

/-- What holds at every point of every attempt. -/
structure Sound (state : State) : Prop where
  mapsTo : MapsTo library message state.bridge.settings
  stored : ∃ row, state.bridge.events.lookup message.deliveryId = some row ∧
    row.eventName = "message_created" ∧ row.payload = message.text
  submitted : ∀ command, Effect.submitted command ∈ state.bridge.log →
    ∃ mapping remoteMessageId, ∃ piece ∈ message.pieces library,
      extractChatwootMessageId library message.payload = some remoteMessageId ∧
        command = pieceCommand mapping remoteMessageId piece
  answered : ∀ remoteMessageId ∈ extractChatwootMessageId library message.payload,
    ∀ piece ∈ message.pieces library, ∀ answer,
      state.bridge.answerOf (some (requestId remoteMessageId piece)) = some answer →
      Carried library message state piece answer
  takenOver : TakenOver message state → AllSent library message state
  complete : EndedAsSuccess message state →
    AllSent library message state ∧ TakenOver message state

/-- The attempts, undisturbed by the rest of the service. -/
def discipline : Machine.Discipline State Op Answer Failure Members Unit Env Change where
  invariant := Sound library message
  rely thread before after := before.active = some thread →
    after.active = some thread ∧ Calm library message before.bridge after.bridge
  allowed _ op env state := Allowed message op env state
  mayCrash _ _ := True
  mayStart _ _ _ := True
  mayChange _ _ := True

section Calm

variable {library message}

theorem Calm.refl (bridge : Bridge) : Calm library message bridge bridge :=
  ⟨rfl, fun _ _ _ _ => rfl, fun _ _ => Iff.rfl⟩

theorem Calm.trans {first second third : Bridge} (hfirst : Calm library message first second)
    (hsecond : Calm library message second third) : Calm library message first third :=
  ⟨hsecond.events.trans hfirst.events,
    fun id hid piece hpiece =>
      (hsecond.requests id hid piece hpiece).trans (hfirst.requests id hid piece hpiece),
    fun effect hwork => (hsecond.log effect hwork).trans (hfirst.log effect hwork)⟩

def Grown (before after : Bridge) : Prop :=
  ∀ effect, Effect.IsWork effect → effect ∈ before.log → effect ∈ after.log

theorem Calm.grown {before after : Bridge} (hcalm : Calm library message before after) : Grown before after :=
  fun effect hwork => (hcalm.log effect hwork).mpr

theorem Grown.trans {first second third : Bridge} (hfirst : Grown first second)
    (hsecond : Grown second third) : Grown first third :=
  fun effect hwork heffect => hsecond effect hwork (hfirst effect hwork heffect)

/-- One more effect that is none of the work, with whatever else is no part of it. -/
theorem calm_of_log {before after : Bridge} {effect : Effect} (hrest : ¬ Effect.IsWork effect)
    (hevents : after.events = before.events) (hrequests : after.requests = before.requests)
    (hlog : after.log = before.log ++ [effect]) : Calm library message before after where
  events := congrArg (fun events : EventTable => events.lookup message.deliveryId) hevents
  requests _ _ _ _ := by simp only [Bridge.answerOf, hrequests]
  log other hwork := by
    have hne : other ≠ effect := by
      rintro rfl
      exact hrest hwork
    simp [hlog, hne]

theorem carried_calm {state : State} {bridge : Bridge} (hcalm : Calm library message state.bridge bridge)
    {piece : Piece} {answer : Members} :
    Carried library message { state with bridge := bridge } piece answer ↔
      Carried library message state piece answer := by
  simp only [Carried, hcalm.log (.carriedOut _ _) trivial]

theorem answerOf_append_others {bridge other : Bridge} {requests : List (String × Members)}
    (hothers : ∀ request ∈ requests,
      ∀ remoteMessageId ∈ extractChatwootMessageId library message.payload,
        ∀ piece ∈ message.pieces library, request.1 ≠ requestId remoteMessageId piece)
    (hrequests : other.requests = bridge.requests ++ requests) :
    ∀ remoteMessageId ∈ extractChatwootMessageId library message.payload,
      ∀ piece ∈ message.pieces library,
        other.answerOf (some (requestId remoteMessageId piece)) =
          bridge.answerOf (some (requestId remoteMessageId piece)) := by
  intro remoteMessageId hid piece hpiece
  have hnone : requests.find? (fun request =>
      request.1 = requestId remoteMessageId piece) = none := by
    simpa using fun request hrequest => hothers request hrequest remoteMessageId hid piece hpiece
  simp only [Bridge.answerOf, Option.bind_some, hrequests, List.find?_append, hnone,
    Option.or_none]

theorem Sound.calm {state : State} (hsound : Sound library message state) {bridge : Bridge}
    (hcalm : Calm library message state.bridge bridge) (hmaps : MapsTo library message bridge.settings) :
    Sound library message { state with bridge := bridge } where
  mapsTo := hmaps
  stored := by
    simp only [hcalm.events]
    exact hsound.stored
  submitted command hcommand :=
    hsound.submitted command ((hcalm.log (.submitted command) trivial).mp hcommand)
  answered remoteMessageId hid piece hpiece answer hanswer := by
    refine (carried_calm hcalm).mpr (hsound.answered remoteMessageId hid piece hpiece answer ?_)
    rwa [← hcalm.requests remoteMessageId hid piece hpiece]
  takenOver htaken := by
    simp only [AllSent, carried_calm hcalm]
    exact hsound.takenOver ((hcalm.log (.takeover _ _ _) trivial).mp htaken)
  complete hended := by
    simp only [AllSent, carried_calm hcalm, TakenOver, hcalm.log (.takeover _ _ _) trivial]
    refine hsound.complete ?_
    simpa only [EndedAsSuccess, hcalm.events] using hended

/-- The invariant is about the bridge alone. -/
theorem Sound.of_bridge {state other : State} (hsound : Sound library message state)
    (hbridge : other.bridge = state.bridge) : Sound library message other := by
  obtain ⟨bridge, attempts, active, retryable⟩ := other
  cases hbridge
  exact ⟨hsound.mapsTo, hsound.stored, hsound.submitted, hsound.answered, hsound.takenOver,
    hsound.complete⟩

/-- The operations that leave the work as it is. -/
def IsCalm : Op → Prop
  | .finishWebhook _ _ _ | .runtimeCommand _ | .setManualTakeover _ _ _
  | .ensureManagedAccountInbox _ | .ensureRemoteConversation _ _ => False
  | _ => True

theorem calm_effect {loads : String → Option Json} {env : Env} {before after : Bridge} {op : Op}
    {value : Answer op} (hcalm : IsCalm op)
    (heffect : effect loads env before op = some (value, after)) :
    Calm library message before after ∧ after.settings = before.settings := by
  cases op with
  | getWebhook => cases heffect; exact ⟨.refl _, rfl⟩
  | setComponentHealth => cases heffect; exact ⟨.refl _, rfl⟩
  | getConfig => cases heffect; exact ⟨.refl _, rfl⟩
  | getConversationMapByRemoteGlobal => cases heffect; exact ⟨.refl _, rfl⟩
  | getConversationMapByRemote => cases heffect; exact ⟨.refl _, rfl⟩
  | recordReadSyncObservation => cases heffect; exact ⟨calm_of_log id rfl rfl rfl, rfl⟩
  | getLastInboundAt => cases heffect; exact ⟨.refl _, rfl⟩
  | markConversationReadShared => cases heffect; exact ⟨calm_of_log id rfl rfl rfl, rfl⟩
  | notifyRead => cases heffect; exact ⟨.refl _, rfl⟩
  | updateConversationStatus => cases heffect; exact ⟨calm_of_log id rfl rfl rfl, rfl⟩
  | findMessageMapsByRemoteGlobal => cases heffect; exact ⟨.refl _, rfl⟩
  | findMessageMapByLocal => cases heffect; exact ⟨.refl _, rfl⟩
  | getLocalMessageContext => cases heffect; exact ⟨.refl _, rfl⟩
  | recordMessageMap record =>
      obtain ⟨maps, -, hafter⟩ := Option.map_eq_some_iff.mp heffect
      cases hafter
      exact ⟨calm_of_log id rfl rfl rfl, rfl⟩
  | download => cases heffect; exact ⟨.refl _, rfl⟩
  | listChatwootMessages =>
      simp only [effect] at heffect
      split at heffect
      · cases heffect
        exact ⟨.refl _, rfl⟩
      · cases heffect
  | postPrivateNote =>
      cases heffect
      exact ⟨calm_of_log id rfl rfl rfl, rfl⟩
  | createMessage =>
      cases heffect
      exact ⟨calm_of_log id rfl rfl rfl, rfl⟩
  | finishWebhook => exact hcalm.elim
  | runtimeCommand => exact hcalm.elim
  | setManualTakeover => exact hcalm.elim
  | ensureManagedAccountInbox => exact hcalm.elim
  | ensureRemoteConversation => exact hcalm.elim

theorem calm_performOp {env : Env} {before after : Bridge} {op : Op}
    {answer : Except Failure (Answer op)} (hcalm : IsCalm op)
    (hperform : performOp library.loadsText op env before = some (answer, after)) :
    Calm library message before after ∧ after.settings = before.settings := by
  rcases performOp_cases hperform with
    ⟨value, -, -, heffect⟩ | ⟨failure, -, -, rfl | ⟨value, heffect⟩⟩
  · exact calm_effect hcalm heffect
  · exact ⟨.refl _, rfl⟩
  · exact calm_effect hcalm heffect

end Calm

end XianyuAdmin.Chatwoot.ForwardedMessages
