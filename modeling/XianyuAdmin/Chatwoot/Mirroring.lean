import XianyuAdmin.Chatwoot.Workers

/-!
# Mirroring between Xianyu and Chatwoot

A copy of a Xianyu message in Chatwoot is a message of Chatwoot, for which a
webhook comes back, and a message that was forwarded to Xianyu is a local
message, for which a mirror task is created.  Only the maps keep the two apart,
and they are written after the message was created on the other side.
-/

namespace XianyuAdmin.Chatwoot.MirroredOnce

open XianyuAdmin.Coroutine
open XianyuAdmin.Python
open XianyuAdmin.Transition

/-- What is noted of a run: the message that a mirror task has read and, once it has found
no map of it, is about to copy; the local messages that forwarding has stored; and the
Chatwoot messages of which a piece was submitted. -/
structure Notes where
  contexts : ℕ → Option LocalMessage
  windows : ℕ → Option (String × String)
  forwarded : List (String × String)
  sources : List String

abbrev State := Workers Notes

variable (library : WebhookLibrary)

def messageOf (events : EventTable) (deliveryId : String) : Option String :=
  (events.lookup deliveryId).bind fun row =>
    extractChatwootMessageId library (webhookView library.loadsText row).payload

def handledMessage (thread : ℕ) (state : State) : Option String :=
  match (state.running thread).map Task.job with
  | some (.webhook deliveryId) => messageOf library state.bridge.events deliveryId
  | some (.localMessage _ _ _) | none => none

def handledEvent (thread : ℕ) (state : State) : Option String :=
  match (state.running thread).map Task.job with
  | some (.webhook deliveryId) =>
      (state.bridge.events.lookup deliveryId).map WebhookEvent.eventName
  | some (.localMessage _ _ _) | none => none

def storedBy (env : Env) (before after : Bridge) : List (String × String) :=
  (env.stored.map fun message => (message.accountId, message.messagePk)).toList.filter fun key =>
    (before.messages.lookup key).isNone && (after.messages.lookup key).isSome

def valueOf {Value : Type} : Except Failure Value → Option Value
  | .ok value => some value
  | .error _ => none

def windowOf (context : Option LocalMessage) (key : String × String)
    (answer : Except Failure (Option MessageMap)) : Option (String × String) :=
  if valueOf answer = some none ∧ context.any LocalMessage.isMirrorable then some key else none

def note (thread : ℕ) (env : Env) (state : State) (after : Bridge) :
    (op : Op) → Except Failure (Answer op) → Notes
  | .getLocalMessageContext _ _, answer =>
      { state.ghost with
        contexts := Function.update state.ghost.contexts thread (valueOf answer).join }
  | .findMessageMapByLocal accountId messagePk, answer =>
      { state.ghost with
        windows := Function.update state.ghost.windows thread
          (windowOf (state.ghost.contexts thread) (accountId, messagePk) answer) }
  | .createMessage _ _ _, _ =>
      { state.ghost with windows := Function.update state.ghost.windows thread none }
  | .runtimeCommand command, _ =>
      if command.isSend then
        { state.ghost with
          forwarded := state.ghost.forwarded ++ storedBy env state.bridge after
          sources := state.ghost.sources ++ (handledMessage library thread state).toList }
      else state.ghost
  | _, _ => state.ghost

/-- What happens beside the tasks. -/
inductive Change
  | configure (settings : Settings)
  | record (message : LocalMessage)
  | revise (accountId messagePk : String)
  | write (message : RemoteMessage)
  | accept (event : WebhookEvent)

def storeMessage (message : LocalMessage) (messages : LocalMessageTable) :
    Option LocalMessageTable :=
  let key := (message.accountId, message.messagePk)
  match messages.lookup key with
  | none => messages.insert? message
  | some _ =>
      some (messages.map (fun row =>
        if (row.accountId, row.messagePk) = key then message else row) (by
          intro row
          split
          · rename_i hkey
            simp only [localMessageKeys]
            rw [hkey]
          · rfl))

def IsNew (messageId : String) (bridge : Bridge) : Prop :=
  messageId ∉ bridge.remote.map RemoteMessage.messageId

instance (messageId : String) (bridge : Bridge) : Decidable (IsNew messageId bridge) :=
  inferInstanceAs (Decidable (¬ _))

def outside (state : State) : Change → Option State
  | .configure settings =>
      some { state with bridge := { state.bridge with settings := settings } }
  | .record message =>
      (storeMessage message state.bridge.messages).map fun messages =>
        { state with bridge := { state.bridge with messages := messages } }
  | .revise accountId messagePk =>
      (state.bridge.messages.lookup (accountId, messagePk)).map fun message =>
        state.enqueue (Job.ofMessage message)
  | .write message =>
      if message.mirrors = none ∧ IsNew message.messageId state.bridge then
        some { state with bridge := state.bridge.post message }
      else none
  | .accept event =>
      let message := extractChatwootMessageId library (webhookView library.loadsText event).payload
      if ∀ messageId ∈ message, ¬ IsNew messageId state.bridge then
        (state.bridge.events.insert? event).map fun events =>
          Workers.enqueue (.webhook event.deliveryId)
            { state with bridge := { state.bridge with events := events } }
      else none

def Numbered (op : Op) (env : Env) (bridge : Bridge) : Prop :=
  op.creates → IsNew env.messageId bridge

instance (op : Op) (env : Env) (bridge : Bridge) : Decidable (Numbered op env bridge) :=
  inferInstanceAs (Decidable (_ → _))

/-- Workers on both kinds of tasks, Xianyu and Chatwoot. -/
def machine : Machine State Op Answer Failure Members Task Env Change where
  program task := task.job.program library
  start thread task state := state.claim thread task
  perform thread op env state :=
    if Numbered op env state.bridge then
      (performOp library.loadsText op env state.bridge).map fun (answer, bridge) =>
        (answer,
          { state with
            bridge := bridge, ghost := note library thread env state bridge op answer })
    else none
  leave thread ended state :=
    { state.release thread ended with
      ghost := { state.ghost with
        contexts := Function.update state.ghost.contexts thread none
        windows := Function.update state.ghost.windows thread none } }
  outside change state := outside library state change

/-- Nothing has been mirrored yet. -/
def start (settings : Settings) : State where
  bridge :=
    { settings := settings
      events := .empty
      maps := .empty
      messages := .empty
      remote := []
      requests := []
      log := [] }
  queue := []
  created := []
  running := fun _ => none
  ghost := ⟨fun _ => none, fun _ => none, [], []⟩

def copies (bridge : Bridge) : List (String × String) :=
  bridge.remote.filterMap RemoteMessage.mirrors

structure Mirrored (state : State) : Prop where
  once : ∀ key, (copies state.bridge).count key ≤ 1
  neverBack : ∀ messageId ∈ state.ghost.sources, ∀ message ∈ state.bridge.remote,
    message.messageId = messageId → message.mirrors = none
  notAgain : ∀ key ∈ state.ghost.forwarded, key ∉ copies state.bridge

/-- A task that finds no map is the first one to see the message: a message to be copied
was not copied before, was not forwarded and is not being copied, and a message to be
forwarded is no copy. -/
def Allowed (thread : ℕ) (op : Op) (env : Env) (state : State) : Prop :=
  match op with
  | .findMessageMapByLocal accountId messagePk =>
      env.raised = none → findMessageMapByLocal accountId messagePk state.bridge.maps = none →
        (state.ghost.contexts thread).any LocalMessage.isMirrorable →
        (accountId, messagePk) ∉ copies state.bridge ∧
          (accountId, messagePk) ∉ state.ghost.forwarded ∧
          ∀ other, state.ghost.windows other ≠ some (accountId, messagePk)
  | .findMessageMapsByRemoteGlobal messageId =>
      handledEvent thread state = some "message_created" → env.raised = none → findMessageMapsByRemoteGlobal messageId state.bridge.maps = [] →
        ∀ message ∈ state.bridge.remote, message.messageId = messageId → message.mirrors = none
  | _ => True

def IsOriginal (messageId : String) (bridge : Bridge) : Prop :=
  ∃ message ∈ bridge.remote, message.messageId = messageId ∧ message.mirrors = none

structure Sound (state : State) : Prop where
  numbered : (state.bridge.remote.map RemoteMessage.messageId).Nodup
  once : (copies state.bridge).Nodup
  copied : ∀ key ∈ copies state.bridge, (state.bridge.messages.lookup key).isSome
  window : ∀ thread key, state.ghost.windows thread = some key →
    key ∉ copies state.bridge ∧ key ∉ state.ghost.forwarded ∧
      (state.bridge.messages.lookup key).isSome
  apart : ∀ thread other key, state.ghost.windows thread = some key →
    state.ghost.windows other = some key → thread = other
  forwarded : ∀ key ∈ state.ghost.forwarded, key ∉ copies state.bridge
  sources : ∀ messageId ∈ state.ghost.sources, IsOriginal messageId state.bridge
  known : ∀ row ∈ state.bridge.events.rows,
    ∀ messageId ∈ extractChatwootMessageId library (webhookView library.loadsText row).payload,
      ¬ IsNew messageId state.bridge

/-- What is stored stays stored. -/
structure Follows (before after : Bridge) : Prop where
  events : ∀ deliveryId row, before.events.lookup deliveryId = some row →
    ∃ later, after.events.lookup deliveryId = some later ∧
      later.eventName = row.eventName ∧ later.payload = row.payload
  remote : before.remote ⊆ after.remote
  messages : ∀ key, (before.messages.lookup key).isSome → (after.messages.lookup key).isSome

structure Quiet (before after : Bridge) : Prop where
  follows : Follows before after
  numbered : (before.remote.map RemoteMessage.messageId).Nodup →
    (after.remote.map RemoteMessage.messageId).Nodup
  copies : copies after = copies before
  payloads : ∀ later ∈ after.events.rows, ∃ row ∈ before.events.rows,
    later.payload = row.payload

structure Stays (thread : ℕ) (before after : State) : Prop where
  running : after.running thread = before.running thread
  window : after.ghost.windows thread = before.ghost.windows thread
  follows : Follows before.bridge after.bridge

def discipline : Machine.Discipline State Op Answer Failure Members Task Env Change where
  invariant := Sound library
  rely thread before after := Stays thread before after ∧
    after.ghost.contexts thread = before.ghost.contexts thread
  allowed thread op env state := Allowed thread op env state
  mayCrash _ _ := True
  mayStart _ _ _ := True
  mayChange _ _ := True

variable {library}

theorem Follows.refl (bridge : Bridge) : Follows bridge bridge where
  events _ row hrow := ⟨row, hrow, rfl, rfl⟩
  remote := List.Subset.refl _
  messages _ hkey := hkey

theorem Follows.trans {first second third : Bridge} (hfirst : Follows first second)
    (hsecond : Follows second third) : Follows first third where
  events deliveryId row hrow := by
    obtain ⟨middle, hmiddle, hname, hpayload⟩ := hfirst.events deliveryId row hrow
    obtain ⟨later, hlater, hname', hpayload'⟩ := hsecond.events deliveryId middle hmiddle
    exact ⟨later, hlater, hname'.trans hname, hpayload'.trans hpayload⟩
  remote _ hmessage := hsecond.remote (hfirst.remote hmessage)
  messages key hkey := hsecond.messages key (hfirst.messages key hkey)

theorem Stays.refl (thread : ℕ) (state : State) : Stays thread state state :=
  ⟨rfl, rfl, .refl _⟩

variable {thread : ℕ} {after : Bridge} {loads : String → Option Json} {state : State} {env : Env}
  {op : Op}

theorem Stays.trans {first second third : State} (hfirst : Stays thread first second)
    (hsecond : Stays thread second third) :
    Stays thread first third :=
  ⟨hsecond.running.trans hfirst.running, hsecond.window.trans hfirst.window,
    hfirst.follows.trans hsecond.follows⟩

variable {before : Bridge} {answer : Except Failure (Answer op)}

theorem IsOriginal.follows {messageId : String} (horiginal : IsOriginal messageId before)
    (hfollows : Follows before after) :
    IsOriginal messageId after := by
  obtain ⟨message, hmessage, hid, hmirrors⟩ := horiginal
  exact ⟨message, hfollows.remote hmessage, hid, hmirrors⟩

theorem not_isNew_follows {messageId : String} (hknown : ¬ IsNew messageId before)
    (hfollows : Follows before after) :
    ¬ IsNew messageId after := by
  simp only [IsNew, not_not, List.mem_map] at hknown ⊢
  obtain ⟨message, hmessage, hid⟩ := hknown
  exact ⟨message, hfollows.remote hmessage, hid⟩

theorem payload_webhookView {left right : WebhookEvent} (hpayload : left.payload = right.payload) :
    (webhookView loads left).payload = (webhookView loads right).payload := by
  simp only [webhookView, hpayload]

/-- The property follows from the invariant. -/
theorem Sound.mirrored (hsound : Sound library state) : Mirrored state where
  once key := List.nodup_iff_count_le_one.mp hsound.once key
  neverBack messageId hsource message hmessage hid := by
    obtain ⟨original, horiginal, hsame, hmirrors⟩ := hsound.sources messageId hsource
    have heq : message = original :=
      List.inj_on_of_nodup_map hsound.numbered hmessage horiginal (hid.trans hsame.symm)
    rw [heq, hmirrors]
  notAgain := hsound.forwarded

/-- A quiet change keeps the invariant. -/
theorem Sound.quiet {after : State} (hsound : Sound library state)
    (hquiet : Quiet state.bridge after.bridge)
    (hwindows : after.ghost.windows = state.ghost.windows)
    (hforwarded : after.ghost.forwarded = state.ghost.forwarded)
    (hsources : after.ghost.sources = state.ghost.sources) : Sound library after where
  numbered := hquiet.numbered hsound.numbered
  once := hquiet.copies ▸ hsound.once
  copied key hkey := hquiet.follows.messages key (hsound.copied key (hquiet.copies ▸ hkey))
  window thread key hwindow := by
    rw [hquiet.copies, hforwarded]
    have hkept := hsound.window thread key (hwindows ▸ hwindow)
    exact ⟨hkept.1, hkept.2.1, hquiet.follows.messages key hkept.2.2⟩
  apart := by
    rw [hwindows]
    exact hsound.apart
  forwarded := by
    rw [hforwarded, hquiet.copies]
    exact hsound.forwarded
  sources messageId hsource :=
    (hsound.sources messageId (hsources ▸ hsource)).follows hquiet.follows
  known later hlater messageId hid := by
    obtain ⟨row, hrow, hpayload⟩ := hquiet.payloads later hlater
    rw [payload_webhookView hpayload] at hid
    exact not_isNew_follows (hsound.known row hrow messageId hid) hquiet.follows

theorem Quiet.refl (bridge : Bridge) : Quiet bridge bridge where
  follows := .refl bridge
  numbered := id
  copies := rfl
  payloads later hlater := ⟨later, hlater, rfl⟩

/-- A change of tables that are none of the mirror's. -/
theorem quiet_of_eq (hevents : after.events = before.events)
    (hremote : after.remote = before.remote) (hmessages : after.messages = before.messages) :
    Quiet before after where
  follows :=
    { events := fun _ row hrow => ⟨row, hevents ▸ hrow, rfl, rfl⟩
      remote := hremote ▸ List.Subset.refl _
      messages := fun _ hkey => hmessages ▸ hkey }
  numbered := hremote ▸ id
  copies := by rw [MirroredOnce.copies, MirroredOnce.copies, hremote]
  payloads later hlater := ⟨later, hevents ▸ hlater, rfl⟩

theorem quiet_finishWebhook (deliveryId status : String) (error : Option String)
    (bridge : Bridge) :
    Quiet bridge { bridge with events := finishWebhook deliveryId status error bridge.events } where
  follows :=
    { events := fun key row hrow => by
        simp only [finishWebhook, Table.lookup_map, hrow, Option.map_some, Option.some.injEq,
          exists_eq_left']
        split
        · exact ⟨rfl, rfl⟩
        · exact ⟨rfl, rfl⟩
      remote := List.Subset.refl _
      messages := fun _ hkey => hkey }
  numbered := id
  copies := rfl
  payloads later hlater := by
    simp only [finishWebhook, Table.rows_map, List.mem_map] at hlater
    obtain ⟨row, hrow, rfl⟩ := hlater
    refine ⟨row, hrow, ?_⟩
    split
    · rfl
    · rfl

theorem quiet_post {message : RemoteMessage} {bridge : Bridge} (hmirrors : message.mirrors = none)
    (hnew : IsNew message.messageId bridge) : Quiet bridge (bridge.post message) where
  follows :=
    { events := fun _ row hrow => ⟨row, hrow, rfl, rfl⟩
      remote := List.subset_append_left _ _
      messages := fun _ hkey => hkey }
  numbered hnodup := by
    simp only [Bridge.post, List.map_append, List.map_cons, List.map_nil]
    exact List.nodup_append.mpr ⟨hnodup, List.nodup_singleton _, fun other hother id hid => by
      rw [List.mem_singleton.mp hid]
      rintro rfl
      exact hnew hother⟩
  copies := by simp [MirroredOnce.copies, Bridge.post, hmirrors]
  payloads later hlater := ⟨later, hlater, rfl⟩

theorem isSome_carryOut {command : Command} {bridge : Bridge} {key : String × String}
    (hkey : (bridge.messages.lookup key).isSome) :
    ((bridge.carryOut command env).messages.lookup key).isSome := by
  unfold Bridge.carryOut
  dsimp only
  split
  · exact hkey
  · rename_i message _
    cases hinsert : bridge.messages.insert? message with
    | none => exact hkey
    | some messages =>
        rw [Option.getD_some, Table.lookup_of_insert? hinsert]
        split
        · rfl
        · exact hkey

theorem quiet_command {command : Command} {answer : Members}
    (hcommand : before.command command env = (answer, after)) :
    Quiet before after := by
  rcases Bridge.command_cases hcommand with ⟨-, rfl⟩ | ⟨-, -, rfl⟩
  · exact quiet_of_eq rfl rfl rfl
  · exact
      { follows :=
          { events := fun _ row hrow => ⟨row, hrow, rfl, rfl⟩
            remote := List.Subset.refl _
            messages := fun _ hkey => isSome_carryOut hkey }
        numbered := id
        copies := rfl
        payloads := fun later hlater => ⟨later, hlater, rfl⟩ }

theorem quiet_effect {value : Answer op} (hop : ∀ accountId messagePk chatwootConversationId,
      op ≠ .createMessage accountId messagePk chatwootConversationId)
    (hnumbered : Numbered op env before)
    (heffect : effect loads env before op = some (value, after)) : Quiet before after := by
  cases op with
  | getWebhook => cases heffect; exact .refl _
  | finishWebhook => cases heffect; exact quiet_finishWebhook _ _ _ _
  | setComponentHealth => cases heffect; exact .refl _
  | getConfig => cases heffect; exact .refl _
  | getConversationMapByRemoteGlobal => cases heffect; exact .refl _
  | getConversationMapByRemote => cases heffect; exact .refl _
  | recordReadSyncObservation => cases heffect; exact quiet_of_eq rfl rfl rfl
  | getLastInboundAt => cases heffect; exact .refl _
  | markConversationReadShared => cases heffect; exact quiet_of_eq rfl rfl rfl
  | notifyRead => cases heffect; exact .refl _
  | updateConversationStatus => cases heffect; exact quiet_of_eq rfl rfl rfl
  | setManualTakeover => cases heffect; exact quiet_of_eq rfl rfl rfl
  | findMessageMapsByRemoteGlobal => cases heffect; exact .refl _
  | findMessageMapByLocal => cases heffect; exact .refl _
  | getLocalMessageContext => cases heffect; exact .refl _
  | recordMessageMap record =>
      obtain ⟨maps, -, hafter⟩ := Option.map_eq_some_iff.mp heffect
      cases hafter
      exact quiet_of_eq rfl rfl rfl
  | runtimeCommand command => exact quiet_command (Option.some.inj heffect)
  | download => cases heffect; exact .refl _
  | listChatwootMessages =>
      simp only [effect] at heffect
      split at heffect
      · cases heffect
        exact .refl _
      · cases heffect
  | postPrivateNote => cases heffect; exact quiet_post rfl (hnumbered rfl)
  | ensureManagedAccountInbox =>
      obtain ⟨config, -, hafter⟩ := Option.map_eq_some_iff.mp heffect
      cases hafter
      exact quiet_of_eq rfl rfl rfl
  | ensureRemoteConversation =>
      obtain ⟨row, -, hafter⟩ := Option.map_eq_some_iff.mp heffect
      cases hafter
      exact quiet_of_eq rfl rfl rfl
  | createMessage => exact absurd rfl (hop _ _ _)

theorem quiet_performOp (hop : ∀ accountId messagePk chatwootConversationId,
      op ≠ .createMessage accountId messagePk chatwootConversationId)
    (hnumbered : Numbered op env before)
    (hperform : performOp loads op env before = some (answer, after)) : Quiet before after := by
  rcases performOp_cases hperform with
    ⟨value, -, -, heffect⟩ | ⟨failure, -, -, rfl | ⟨value, heffect⟩⟩
  · exact quiet_effect hop hnumbered heffect
  · exact .refl _
  · exact quiet_effect hop hnumbered heffect

/-- The operations of which nothing is noted but what was read. -/
def IsPlain : Op → Prop
  | .findMessageMapByLocal _ _ | .createMessage _ _ _ => False
  | .runtimeCommand command => command.isSend = false
  | _ => True

theorem perform_eq_some {after : State}
    (hperform : (machine library).perform thread op env state = some (answer, after)) :
    Numbered op env state.bridge ∧
      performOp library.loadsText op env state.bridge = some (answer, after.bridge) ∧
      after = { state with
        bridge := after.bridge
        ghost := note library thread env state after.bridge op answer } := by
  simp only [machine] at hperform
  split at hperform
  · rename_i hnumbered
    obtain ⟨⟨reply, bridge⟩, hop, hafter⟩ := Option.map_eq_some_iff.mp hperform
    cases hafter
    exact ⟨hnumbered, hop, rfl⟩
  · cases hperform

structure Notes.Follows (thread : ℕ) (before after : Notes) : Prop where
  windows : ∀ other, other ≠ thread → after.windows other = before.windows other
  contexts : ∀ other, other ≠ thread → after.contexts other = before.contexts other

theorem follows_note :
    Notes.Follows thread state.ghost (note library thread env state after op answer) := by
  unfold note
  split
  · exact ⟨fun _ _ => rfl, fun other hother => Function.update_of_ne hother _ _⟩
  · exact ⟨fun other hother => Function.update_of_ne hother _ _, fun _ _ => rfl⟩
  · exact ⟨fun other hother => Function.update_of_ne hother _ _, fun _ _ => rfl⟩
  · split
    · exact ⟨fun _ _ => rfl, fun _ _ => rfl⟩
    · exact ⟨fun _ _ => rfl, fun _ _ => rfl⟩
  · exact ⟨fun _ _ => rfl, fun _ _ => rfl⟩

theorem note_plain (thread : ℕ) (env : Env) (state : State) (after : Bridge)
    (answer : Except Failure (Answer op)) (hop : IsPlain op) :
    (note library thread env state after op answer).windows = state.ghost.windows ∧
      (note library thread env state after op answer).forwarded = state.ghost.forwarded ∧
      (note library thread env state after op answer).sources = state.ghost.sources := by
  unfold note
  split
  · exact ⟨rfl, rfl, rfl⟩
  · exact hop.elim
  · exact hop.elim
  · rename_i command _
    have hrecall : command.isSend = false := hop
    rw [if_neg (by simp [hrecall])]
    exact ⟨rfl, rfl, rfl⟩
  · exact ⟨rfl, rfl, rfl⟩

end XianyuAdmin.Chatwoot.MirroredOnce
