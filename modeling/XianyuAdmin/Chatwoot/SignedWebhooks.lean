import XianyuAdmin.Chatwoot.SignedDeliveries

/-!
# Webhooks act on the inbox that signed them

Only a delivery that the secret of its inbox verifies is stored, so every task
has a signer.  What its ids lead to decides whom it acts on: as long as they
lead to maps of the signer and of the configured installation, every operation
of the task concerns these alone.
-/

namespace XianyuAdmin.Chatwoot.SignedWebhooks

open XianyuAdmin.Coroutine
open XianyuAdmin.Procedure
open XianyuAdmin.Python
open XianyuAdmin.Transition

variable {library : WebhookLibrary}

variable {delivery : Delivery} {thread : ℕ} {state : State} {env : Env} {op : Op}
  {deliveryId accountId : String} {installation : Installation} {mapping : ConversationMap}

theorem signer_of_verified {world : World}
    (hverified : Ends (verifyDelivery library delivery) ⟨world, 0⟩
      (fun _ _ => True) (fun _ _ => False)) :
    (signer library delivery world.settings).isSome := by
  simp only [verifyDelivery, ends_bind, ends_answer] at hverified
  cases hparsed : parseBody library delivery.rawBody with
  | error failure => simp [hparsed] at hverified
  | ok parsed =>
      simp only [hparsed, ends_orRaise] at hverified
      cases hinbox : extractChatwootInboxId library parsed with
      | none => simp [hinbox] at hverified
      | some inbox =>
          simp only [hinbox] at hverified
          cases inbox with
          | none => exact (ends_throw.mp hverified).elim
          | some inboxId =>
              simp only [ends_bind, ends_query] at hverified
              split at hverified
              swap
              · exact hverified.elim
              split at hverified
              swap
              · exact (ends_throw.mp hverified).elim
              rename_i hsecret
              simp only [ends_bind, ends_orRaise] at hverified
              split at hverified
              swap
              · exact hverified.elim
              rename_i verified hverify
              split at hverified
              swap
              · exact (ends_throw.mp hverified).elim
              rename_i hgenuine
              subst hgenuine
              simp only [getConfigSecret] at hsecret hverify
              cases hbinding : world.settings.bindings.lookup (.inboxId inboxId) with
              | none => simp [hbinding] at hsecret
              | some binding =>
                  cases hdecrypt : library.decrypt binding.webhookSecretEncrypted with
                  | none => simp [hbinding, hdecrypt] at hsecret
                  | some secret =>
                      simp only [hbinding, hdecrypt, Option.bind_some, Option.getD_some]
                        at hverify
                      simp [signer, hparsed, hinbox, hbinding, hdecrypt, hverify]

/-- A run that gets to the record stores at most the delivery. -/
theorem lookup_of_acceptEnd {world next : World} {answered : Bool}
    (hend : AcceptEnd library delivery world answered next) (deliveryId : String) :
    (next.events.lookup deliveryId).isSome = (world.events.lookup deliveryId).isSome ∨
      deliveryId = recordKey (delivery.deliveryId library) ∧
        (next.events.lookup deliveryId).isSome := by
  have hrecorded : ∀ {events : EventTable}, Recorded library delivery world events →
      (events.lookup deliveryId).isSome = (world.events.lookup deliveryId).isSome ∨
        deliveryId = recordKey (delivery.deliveryId library) ∧
          (events.lookup deliveryId).isSome := by
    intro events hrecord
    have hlookup := hrecord.2.2 deliveryId
    by_cases hsame : deliveryId = recordKey (delivery.deliveryId library)
    · rw [decide_eq_true hsame, Bool.true_or] at hlookup
      exact .inr ⟨hsame, hlookup⟩
    · rw [decide_eq_false hsame, Bool.false_or] at hlookup
      exact .inl hlookup
  cases hend with
  | rejected => exact .inl rfl
  | duplicate => exact .inl rfl
  | recorded hrecord => exact hrecorded hrecord
  | found hrecord => exact hrecorded hrecord
  | created hrecord => exact hrecorded hrecord

theorem lookup_acceptedEvents (delivery : Delivery) (settings : Settings) (events : EventTable)
    (deliveryId : String) :
    ((acceptedEvents library delivery settings events).lookup deliveryId).isSome =
        (events.lookup deliveryId).isSome ∨
      deliveryId = recordKey (delivery.deliveryId library) ∧
        ((acceptedEvents library delivery settings events).lookup deliveryId).isSome ∧
        (signer library delivery settings).isSome := by
  by_cases hreaches : ReachesRecord library delivery ⟨settings, events, .empty⟩
  · have hend : AcceptEnd library delivery ⟨settings, events, .empty⟩ _
        (AcceptedWebhooks.accept library delivery ⟨settings, events, .empty⟩).2 :=
      AcceptedWebhooks.acceptEnd_accept fun _ hrow => by cases hrow
    rcases lookup_of_acceptEnd hend deliveryId with hsame | ⟨hid, hstored⟩
    · exact .inl hsame
    · exact .inr ⟨hid, hstored, signer_of_verified hreaches.2⟩
  · have hsame := (AcceptedWebhooks.accept_of_not_reachesRecord hreaches).2
    exact .inl (by rw [acceptedEvents, hsame])

structure Sound (state : State) : Prop where
  signed : ∀ deliveryId, (state.bridge.events.lookup deliveryId).isSome =
    (state.ghost.signed deliveryId).isSome
  stripped : ∀ deliveryId accountId installation,
    state.ghost.signed deliveryId = some (accountId, installation) → strip accountId = accountId
  confined : state.ghost.strayed = []

structure Stays (thread : ℕ) (before after : State) : Prop where
  running : after.running thread = before.running thread
  signed : ∀ deliveryId signed, before.ghost.signed deliveryId = some signed →
    after.ghost.signed deliveryId = some signed
  conversations : before.ghost.conversations ⊆ after.ghost.conversations
  messages : before.ghost.messages ⊆ after.ghost.messages

def discipline : Machine.Discipline State Op Answer Failure Members Task Env Change where
  invariant := Sound
  rely := Stays
  allowed := Allowed
  mayCrash _ _ := True
  mayStart _ _ _ := True
  mayChange _ _ := True

theorem Stays.refl (thread : ℕ) (state : State) : Stays thread state state :=
  ⟨rfl, fun _ _ hsigned => hsigned, List.Subset.refl _, List.Subset.refl _⟩

theorem Stays.trans {first second third : State} (hfirst : Stays thread first second)
    (hsecond : Stays thread second third) :
    Stays thread first third where
  running := hsecond.running.trans hfirst.running
  signed deliveryId signed hsigned :=
    hsecond.signed deliveryId signed (hfirst.signed deliveryId signed hsigned)
  conversations _ hentry := hsecond.conversations (hfirst.conversations hentry)
  messages _ hentry := hsecond.messages (hfirst.messages hentry)

theorem Sound.confinedState (hsound : Sound state) : Confined state where
  signed deliveryId hstored := hsound.signed deliveryId ▸ hstored
  confined := hsound.confined

theorem subset_noteNew {Pair : Type} [DecidableEq Pair] (installation : Installation)
    (pairs : List Pair) (known : List (Pair × Installation)) :
    known ⊆ noteNew installation pairs known :=
  List.subset_append_left _ _

/-- Noting the maps changes nothing else. -/
theorem Sound.observe (hsound : Sound state) : Sound (observe state) :=
  ⟨hsound.signed, hsound.stripped, hsound.confined⟩

theorem stays_observe (thread : ℕ) (state : State) : Stays thread state (observe state) :=
  ⟨rfl, fun _ _ hsigned => hsigned, subset_noteNew _ _ _, subset_noteNew _ _ _⟩

/-- No operation stores or removes a delivery. -/
theorem events_effect {loads : String → Option Json} {before after : Bridge} {value : Answer op}
    (heffect : effect loads env before op = some (value, after)) (deliveryId : String) :
    (after.events.lookup deliveryId).isSome = (before.events.lookup deliveryId).isSome := by
  by_cases hfinish : ∃ finished status error, op = .finishWebhook finished status error
  · obtain ⟨finished, status, error, rfl⟩ := hfinish
    cases heffect
    exact lookup_finishWebhook_isSome _ _ _ _ _
  · rw [(frame_effect heffect).events fun finished status error hop =>
      hfinish ⟨finished, status, error, hop⟩]

theorem events_performOp {loads : String → Option Json} {before after : Bridge}
    {answer : Except Failure (Answer op)}
    (hperform : performOp loads op env before = some (answer, after)) (deliveryId : String) :
    (after.events.lookup deliveryId).isSome = (before.events.lookup deliveryId).isSome := by
  rcases performOp_cases hperform with
    ⟨value, -, -, heffect⟩ | ⟨failure, -, -, rfl | ⟨value, heffect⟩⟩
  · exact events_effect heffect deliveryId
  · rfl
  · exact events_effect heffect deliveryId

/-- An operation that does not stray keeps the invariant, and everybody can rely on it. -/
theorem sound_perform {before after : State} {answer : Except Failure (Answer op)}
    (hsound : Sound before) (hfits : strays thread op before = [])
    (hperform : (machine library).perform thread op env before = some (answer, after)) :
    Sound after ∧ (∀ other, Stays other before after) ∧
      performOp library.loadsText op env before.bridge = some (answer, after.bridge) := by
  obtain ⟨⟨reply, bridge⟩, hop, hafter⟩ := Option.map_eq_some_iff.mp hperform
  cases hafter
  have hperformed : Sound { before with
      bridge := bridge
      ghost := { before.ghost with
        strayed := before.ghost.strayed ++ strays thread op before } } :=
    { signed := fun deliveryId =>
        (events_performOp hop deliveryId).trans (hsound.signed deliveryId)
      stripped := hsound.stripped
      confined := by
        dsimp only
        rw [hsound.confined, hfits, List.append_nil] }
  exact ⟨hperformed.observe,
    fun _ => ⟨rfl, fun _ _ hsigned => hsigned, subset_noteNew _ _ _, subset_noteNew _ _ _⟩, hop⟩

abbrev Secures (library : WebhookLibrary) {Value : Type} (thread : ℕ)
    (returns : Value → State → Prop) (raises : Failure → State → Prop)
    (coroutine : Routine Value) (state : State) : Prop :=
  Secure ((machine library).contract discipline thread) returns raises coroutine state

structure Acts (thread : ℕ) (deliveryId accountId : String) (installation : Installation)
    (state : State) : Prop where
  handles : Handles thread deliveryId accountId installation state
  stripped : strip accountId = accountId

def Owns (accountId : String) (installation : Installation) (mapping : ConversationMap)
    (state : State) : Prop :=
  mapping.accountId = accountId ∧ (pairOf mapping, installation) ∈ state.ghost.conversations

def OwnsMessages (accountId : String) (installation : Installation) (items : List MessageMap)
    (state : State) : Prop :=
  ∀ item ∈ items, item.accountId = accountId ∧
    (messagePairOf item, installation) ∈ state.ghost.messages

theorem Acts.stays {before after : State} (hstays : Stays thread before after)
    (hacts : Acts thread deliveryId accountId installation before) :
    Acts thread deliveryId accountId installation after :=
  ⟨⟨hstays.running ▸ hacts.handles.1, hstays.signed _ _ hacts.handles.2⟩, hacts.stripped⟩

theorem Owns.stays {before after : State} (hstays : Stays thread before after)
    (howns : Owns accountId installation mapping before) :
    Owns accountId installation mapping after :=
  ⟨howns.1, hstays.conversations howns.2⟩

theorem OwnsMessages.stays {items : List MessageMap} {before after : State}
    (hstays : Stays thread before after)
    (howns : OwnsMessages accountId installation items before) :
    OwnsMessages accountId installation items after :=
  fun item hitem => ⟨(howns item hitem).1, hstays.messages (howns item hitem).2⟩

theorem knows_of_mem {Pair : Type} {fits : Pair → Bool} {known : List (Pair × Installation)}
    {pair : Pair} (hpair : (pair, installation) ∈ known) (hfits : fits pair = true) :
    knows installation fits known = true := by
  simp only [knows, List.any_eq_true, Bool.and_eq_true, decide_eq_true_eq]
  exact ⟨_, hpair, rfl, hfits⟩

theorem strays_of_concerns (hacts : Acts thread deliveryId accountId installation state)
    (hconcerns : concerns accountId installation state.ghost state.bridge.maps op = true) :
    strays thread op state = [] := by
  simp only [strays, hacts.handles.1, hacts.handles.2, hconcerns, if_true]

/-- One operation of a task. -/
theorem secures_call {returns : Answer op → State → Prop} {raises : Failure → State → Prop}
    (hacts : Acts thread deliveryId accountId installation state)
    (hconcerns : ∀ before (env : Env), Stays thread state before →
      Acts thread deliveryId accountId installation before → Allowed thread op env before →
      concerns accountId installation before.ghost before.bridge.maps op = true)
    (hreturns : ∀ before (env : Env) value after, Stays thread state before →
      Acts thread deliveryId accountId installation before → Stays thread before after →
      Allowed thread op env before → env.raised = none →
      effect library.loadsText env before.bridge op = some (value, after.bridge) →
      Sound after → Acts thread deliveryId accountId installation after → returns value after)
    (hraises : ∀ failure after, Stays thread state after → Sound after →
      Acts thread deliveryId accountId installation after → raises failure after) :
    Secures library thread returns raises (call op) state := by
  rw [Secures, secure_perform]
  rintro before ⟨hrely, hsound⟩ answer after ⟨env, hallowed, hperform⟩
  have hbefore := hacts.stays hrely
  have hfits := strays_of_concerns hbefore (hconcerns before env hrely hbefore hallowed)
  have hdone := sound_perform hsound hfits hperform
  have hown := hdone.2.1 thread
  refine ⟨⟨hdone.1, fun other _ => hdone.2.1 other⟩, ?_⟩
  rcases performOp_cases hdone.2.2 with ⟨value, rfl, hraised, heffect⟩ | ⟨failure, rfl, -, -⟩
  · exact hreturns before env value after hrely hbefore hown hallowed hraised heffect hdone.1
      (hbefore.stays hown)
  · exact hraises failure after (hrely.trans hown) hdone.1 (hbefore.stays hown)

theorem secures_part {Value : Type} {coroutine : Routine Value} {allowed : Op → Prop}
    {fact : State → Prop} (huses : Uses allowed coroutine)
    (hstable : ∀ before after, Stays thread before after → fact before → fact after)
    (hconcerns : ∀ op, allowed op → ∀ before (env : Env),
      Acts thread deliveryId accountId installation before → fact before →
      Allowed thread op env before →
      concerns accountId installation before.ghost before.bridge.maps op = true)
    (hsound : Sound state) (hacts : Acts thread deliveryId accountId installation state)
    (hfact : fact state) :
    Secures library thread
      (fun _ after => Sound after ∧ Acts thread deliveryId accountId installation after ∧
        fact after)
      (fun _ after => Sound after ∧ Acts thread deliveryId accountId installation after ∧
        fact after) coroutine state := by
  refine huses.secure ?_ ?_ ⟨hsound, hacts, hfact⟩
  · rintro before after ⟨-, hown, hbefore⟩ ⟨hrely, hafter⟩
    exact ⟨hafter, hown.stays hrely, hstable before after hrely hbefore⟩
  · rintro op hop before answer after ⟨hsound', hown, hbefore⟩ ⟨env, hallowed, hperform⟩
    have hfits := strays_of_concerns hown (hconcerns op hop before env hown hbefore hallowed)
    have hdone := sound_perform hsound' hfits hperform
    have hstays := hdone.2.1 thread
    exact ⟨⟨hdone.1, fun other _ => hdone.2.1 other⟩, hdone.1, hown.stays hstays,
      hstable before after hstays hbefore⟩

/-- The operations that concern nothing but maps that are looked up. -/
def IsMute : Op → Prop
  | .recordReadSyncObservation _ _ _ | .markConversationReadShared _ _ _
  | .setManualTakeover _ _ _ | .runtimeCommand _ | .updateConversationStatus _ _ _
  | .recordMessageMap _ => False
  | _ => True

def IsAbout (mapping : ConversationMap) : Op → Prop
  | .recordReadSyncObservation chatwootConversationId _ _ =>
      mapping.chatwootConversationId = chatwootConversationId
  | .markConversationReadShared accountId conversationId _
  | .setManualTakeover accountId conversationId _
  | .runtimeCommand (.text accountId conversationId _ _ _)
  | .runtimeCommand (.image accountId conversationId _ _) =>
      mapping.accountId = accountId ∧ mapping.conversationId = conversationId
  | .updateConversationStatus accountId chatwootConversationId _ =>
      mapping.accountId = accountId ∧ mapping.chatwootConversationId = chatwootConversationId
  | .recordMessageMap record => mapping.accountId = record.accountId
  | .runtimeCommand (.recall _ _ _) => False
  | _ => True

theorem concerns_of_isMute (hop : IsMute op) (accountId : String) (installation : Installation)
    (notes : Notes) (maps : MessageTable) :
    concerns accountId installation notes maps op = true := by
  cases op <;> first | rfl | exact hop.elim

theorem concerns_record {record : MessageMap}
    (hacts : Acts thread deliveryId accountId installation state)
    (hallowed : Allowed thread (.recordMessageMap record) env state)
    (haccount : record.accountId = accountId) :
    concerns accountId installation state.ghost state.bridge.maps (.recordMessageMap record) =
      true := by
  have hrows := hallowed deliveryId accountId installation hacts.handles
  simp only [concerns, haccount, decide_true, Bool.true_and, Option.all_eq_true]
  intro row hrow
  exact knows_of_mem (hrows row hrow) (by simp)

theorem concerns_of_isAbout (hop : IsAbout mapping op)
    (hacts : Acts thread deliveryId accountId installation state)
    (howns : Owns accountId installation mapping state) (hallowed : Allowed thread op env state) :
    concerns accountId installation state.ghost state.bridge.maps op = true := by
  obtain ⟨rfl, hpair⟩ := howns
  have hknows : ∀ fits : ConversationPair → Bool, fits (pairOf mapping) = true →
      knows installation fits state.ghost.conversations = true :=
    fun fits hfits => knows_of_mem hpair hfits
  cases op with
  | recordReadSyncObservation =>
      simp only [concerns]
      exact hknows _ (decide_eq_true ⟨rfl, hop⟩)
  | markConversationReadShared =>
      simp only [concerns, Bool.and_eq_true, decide_eq_true_eq]
      exact ⟨hop.1.symm, hknows _ (decide_eq_true ⟨rfl, hop.2⟩)⟩
  | setManualTakeover =>
      simp only [concerns, Bool.and_eq_true, decide_eq_true_eq]
      exact ⟨hop.1.symm, hknows _ (decide_eq_true ⟨rfl, hop.2⟩)⟩
  | updateConversationStatus =>
      simp only [concerns, Bool.and_eq_true, decide_eq_true_eq]
      exact ⟨hop.1.symm, hknows _ (decide_eq_true ⟨rfl, hop.2⟩)⟩
  | runtimeCommand command =>
      cases command
      · simp only [concerns, Bool.and_eq_true, decide_eq_true_eq]
        exact ⟨hop.1.symm, hknows _ (decide_eq_true ⟨rfl, hop.2⟩)⟩
      · simp only [concerns, Bool.and_eq_true, decide_eq_true_eq]
        exact ⟨hop.1.symm, hknows _ (decide_eq_true ⟨rfl, hop.2⟩)⟩
      · exact hop.elim
  | recordMessageMap record => exact concerns_record hacts hallowed hop.symm
  | _ => rfl

section Parts

variable {thread : ℕ} {deliveryId accountId : String} {installation : Installation}
  {state : State}

def Kept (thread : ℕ) (deliveryId accountId : String) (installation : Installation)
    (state : State) : Prop :=
  Sound state ∧ Acts thread deliveryId accountId installation state

abbrev Keeps (library : WebhookLibrary) {Value : Type} (thread : ℕ)
    (deliveryId accountId : String) (installation : Installation) (part : Routine Value)
    (state : State) : Prop :=
  Secures library thread (fun _ => Kept thread deliveryId accountId installation)
    (fun _ => Kept thread deliveryId accountId installation) part state

theorem keeps_mute {Value : Type} {part : Routine Value} (huses : Uses IsMute part)
    (hkept : Kept thread deliveryId accountId installation state) :
    Keeps library thread deliveryId accountId installation part state := by
  refine (secures_part huses (fun _ _ (_ : Stays thread _ _) (_ : True) => trivial)
    (fun op hop _ _ _ _ _ => concerns_of_isMute hop _ _ _ _) hkept.1 hkept.2 trivial).mono
    ?_ ?_
  · exact fun _ _ hafter => ⟨hafter.1, hafter.2.1⟩
  · exact fun _ _ hafter => ⟨hafter.1, hafter.2.1⟩

theorem keeps_about {Value : Type} {part : Routine Value} (mapping : ConversationMap)
    (huses : Uses (IsAbout mapping) part)
    (hkept : Kept thread deliveryId accountId installation state)
    (howns : Owns accountId installation mapping state) :
    Keeps library thread deliveryId accountId installation part state := by
  refine (secures_part huses (fun _ _ (hstays : Stays thread _ _) hfact => Owns.stays hstays hfact)
    (fun op hop _ _ hacts hfact hallowed => concerns_of_isAbout hop hacts hfact hallowed)
    hkept.1 hkept.2 howns).mono ?_ ?_
  · exact fun _ _ hafter => ⟨hafter.1, hafter.2.1⟩
  · exact fun _ _ hafter => ⟨hafter.1, hafter.2.1⟩

theorem keeps_bind {Value Other : Type} {first : Routine Other} {next : Other → Routine Value}
    (hfirst : Keeps library thread deliveryId accountId installation first state)
    (hnext : ∀ value after, Kept thread deliveryId accountId installation after →
      Keeps library thread deliveryId accountId installation (next value) after) :
    Keeps library thread deliveryId accountId installation (first >>= next) state := by
  rw [Keeps, Secures, secure_bind]
  exact hfirst.mono hnext fun _ _ hafter => hafter

theorem keeps_exceptException {Value : Type} {body : Routine Value}
    {handler : Failure → Routine Value}
    (hbody : Keeps library thread deliveryId accountId installation body state)
    (hhandler : ∀ failure after, Kept thread deliveryId accountId installation after →
      Keeps library thread deliveryId accountId installation (handler failure) after) :
    Keeps library thread deliveryId accountId installation (exceptException body handler)
      state := by
  rw [Keeps, Secures, exceptException, secure_tryCatch]
  refine hbody.mono (fun _ _ hafter => hafter) fun failure after hafter => ?_
  split
  · exact hafter
  · exact hhandler failure after hafter

theorem secures_conversationMap (chatwootConversationId : String)
    (hkept : Kept thread deliveryId accountId installation state) :
    Secures library thread
      (fun mapping after => Kept thread deliveryId accountId installation after ∧
        ∀ row, mapping = some row → Owns accountId installation row after ∧
          row.chatwootConversationId = chatwootConversationId)
      (fun _ => Kept thread deliveryId accountId installation)
      (conversationMapByRemoteGlobal chatwootConversationId) state := by
  refine secures_call hkept.2 (fun _ _ _ _ _ => rfl) ?_ fun _ _ _ hsound hacts => ⟨hsound, hacts⟩
  intro before env value after _ hbefore hstays hallowed hraised heffect hsound hacts
  refine ⟨⟨hsound, hacts⟩, fun row hrow => ?_⟩
  have hfound := (Prod.mk.inj (Option.some.inj heffect)).1
  rw [hrow] at hfound
  have hown := hallowed deliveryId accountId installation hbefore.handles hraised row hfound
  refine ⟨Owns.stays hstays hown, ?_⟩
  have hkey := (Table.lookup_eq_some_iff.mp hfound).2
  simpa [conversationKeys, eq_comm] using hkey

theorem secures_messageMaps (chatwootMessageId : String)
    (hkept : Kept thread deliveryId accountId installation state) :
    Secures library thread
      (fun items after => Kept thread deliveryId accountId installation after ∧
        OwnsMessages accountId installation items after)
      (fun _ => Kept thread deliveryId accountId installation)
      (messageMapsByRemoteGlobal chatwootMessageId) state := by
  refine secures_call hkept.2 (fun _ _ _ _ _ => rfl) ?_ fun _ _ _ hsound hacts => ⟨hsound, hacts⟩
  intro before env value after _ hbefore hstays hallowed hraised heffect hsound hacts
  refine ⟨⟨hsound, hacts⟩, OwnsMessages.stays hstays ?_⟩
  have hfound := (Prod.mk.inj (Option.some.inj heffect)).1
  rw [← hfound]
  exact hallowed deliveryId accountId installation hbefore.handles hraised

theorem keeps_readEvents (payload : Members)
    (hkept : Kept thread deliveryId accountId installation state) :
    Keeps library thread deliveryId accountId installation (readEvents library payload)
      state := by
  have hnotify : ∀ events, Uses IsMute (notifyReads events) := by
    intro events
    induction events with
    | nil => exact uses_pure _
    | cons user events ih => exact Uses.bind (uses_perform trivial) fun _ => ih
  have hsync : Keeps library thread deliveryId accountId installation
      (syncChatwootReadSnapshot library payload) state := by
    unfold syncChatwootReadSnapshot
    cases chatwootReadSnapshot library payload with
    | none => exact hkept
    | some found =>
        rw [orError_some_bind]
        cases found with
        | none => exact hkept
        | some snapshot =>
            dsimp only
            rw [Keeps, Secures, secure_bind]
            refine (secures_conversationMap _ hkept).mono ?_ fun _ _ hafter => hafter
            rintro mapped looked ⟨hlooked, hmapped⟩
            cases mapped with
            | none => exact hlooked
            | some mapping =>
                have hown := hmapped mapping rfl
                refine keeps_about mapping ?_ hlooked hown.1
                refine Uses.bind (uses_perform trivial) fun config => ?_
                split
                swap
                · exact uses_pure _
                refine Uses.bind (uses_perform hown.2) fun _ => ?_
                split
                · exact uses_pure _
                refine Uses.bind (uses_perform trivial) fun lastInboundAt => ?_
                split
                · exact uses_pure _
                split
                · exact uses_pure _
                refine Uses.bind (uses_perform ⟨rfl, rfl⟩) fun covered => ?_
                exact Uses.bind (uses_perform hown.2) fun _ => uses_pure _
  refine keeps_bind (keeps_exceptException hsync fun _ _ hafter => hafter) ?_
  intro events read hread
  refine keeps_bind (keeps_exceptException (keeps_mute (hnotify events) hread)
    fun _ _ hafter => hafter) fun _ _ hafter => hafter

theorem keeps_handleConversationStatus (payload : Members)
    (hkept : Kept thread deliveryId accountId installation state) :
    Keeps library thread deliveryId accountId installation
      (handleConversationStatus library payload) state := by
  unfold handleConversationStatus
  dsimp only
  split
  · exact hkept
  split
  · exact hkept
  rw [Keeps, Secures, secure_bind]
  refine (secures_conversationMap _ hkept).mono ?_ fun _ _ hafter => hafter
  rintro mapped looked ⟨hlooked, hmapped⟩
  cases mapped with
  | none => exact hlooked
  | some mapping =>
      have hown := hmapped mapping rfl
      refine keeps_about mapping ?_ hlooked hown.1
      refine Uses.bind (uses_perform trivial) fun config => ?_
      split
      · refine Uses.bind (uses_perform ⟨rfl, hown.2⟩) fun _ => ?_
        split
        · exact Uses.bind (uses_perform ⟨rfl, rfl⟩) fun _ => uses_pure _
        · exact uses_pure _
      · exact uses_pure _

end Parts

inductive IsOf (items : List MessageMap) : Op → Prop
  | mute {op : Op} (hmute : IsMute op) : IsOf items op
  | record {item record : MessageMap} (hitem : item ∈ items)
      (haccount : record.accountId = strip item.accountId) : IsOf items (.recordMessageMap record)

theorem isOf_of_isSnapshot {items : List MessageMap} (hop : op.IsSnapshot) : IsOf items op :=
  .mute (by cases op <;> first | exact hop | exact hop.elim)

section Recalls

variable {thread : ℕ} {deliveryId accountId : String} {installation : Installation}
  {state : State} {items : List MessageMap}

def KeptMaps (thread : ℕ) (deliveryId accountId : String) (installation : Installation)
    (items : List MessageMap) (state : State) : Prop :=
  Kept thread deliveryId accountId installation state ∧
    OwnsMessages accountId installation items state

abbrev KeepsMaps (library : WebhookLibrary) {Value : Type} (thread : ℕ)
    (deliveryId accountId : String) (installation : Installation) (items : List MessageMap)
    (part : Routine Value) (state : State) : Prop :=
  Secures library thread (fun _ => KeptMaps thread deliveryId accountId installation items)
    (fun _ => KeptMaps thread deliveryId accountId installation items) part state

theorem keepsMaps_bind {Value Other : Type} {first : Routine Other}
    {next : Other → Routine Value}
    (hfirst : KeepsMaps library thread deliveryId accountId installation items first state)
    (hnext : ∀ value after, KeptMaps thread deliveryId accountId installation items after →
      KeepsMaps library thread deliveryId accountId installation items (next value) after) :
    KeepsMaps library thread deliveryId accountId installation items (first >>= next) state := by
  rw [KeepsMaps, Secures, secure_bind]
  exact hfirst.mono hnext fun _ _ hafter => hafter

theorem keepsMaps_of {Value : Type} {part : Routine Value} (huses : Uses (IsOf items) part)
    (hkept : KeptMaps thread deliveryId accountId installation items state) :
    KeepsMaps library thread deliveryId accountId installation items part state := by
  refine (secures_part huses
    (fun _ _ (hstays : Stays thread _ _) hfact => OwnsMessages.stays hstays hfact) ?_
    hkept.1.1 hkept.1.2 hkept.2).mono ?_ ?_
  · intro op hop before env hacts howns hallowed
    cases hop with
    | mute hmute => exact concerns_of_isMute hmute _ _ _ _
    | record hitem haccount =>
        refine concerns_record hacts hallowed ?_
        rw [haccount, (howns _ hitem).1, hacts.stripped]
  · exact fun _ _ hafter => ⟨⟨hafter.1, hafter.2.1⟩, hafter.2.2⟩
  · exact fun _ _ hafter => ⟨⟨hafter.1, hafter.2.1⟩, hafter.2.2⟩

theorem keepsMaps_issueRecall {item : MessageMap} (hitem : item ∈ items)
    (config : Option ConfigView)
    (hkept : KeptMaps thread deliveryId accountId installation items state) :
    KeepsMaps library thread deliveryId accountId installation items
      (issueRecall library item config) state := by
  have haccount : strip item.accountId = accountId := by
    rw [(hkept.2 item hitem).1, hkept.1.2.stripped]
  unfold issueRecall
  dsimp only
  split
  swap
  · exact hkept
  rw [KeepsMaps, Secures, secure_bind]
  have hlooked : Secures library thread
      (fun mapping after => KeptMaps thread deliveryId accountId installation items after ∧
        ∀ row, mapping = some row → Owns accountId installation row after)
      (fun _ => KeptMaps thread deliveryId accountId installation items)
      (call (.getConversationMapByRemote (strip item.accountId)
        (stringOf item.chatwootConversationId))) state := by
    refine secures_call hkept.1.2 (fun _ _ _ _ _ => rfl) ?_ ?_
    · intro before env value after hrely hbefore hstays hallowed hraised heffect hsound hacts
      refine ⟨⟨⟨hsound, hacts⟩, (hkept.2.stays hrely).stays hstays⟩, fun row hrow => ?_⟩
      have hfound := (Prod.mk.inj (Option.some.inj heffect)).1
      rw [hrow] at hfound
      obtain ⟨hglobal, hsame⟩ := Option.filter_eq_some_iff.mp hfound
      refine Owns.stays hstays ⟨(of_decide_eq_true hsame).trans haccount, ?_⟩
      exact hallowed deliveryId accountId installation hbefore.handles hraised row hglobal
        (of_decide_eq_true hsame)
    · exact fun _ _ hrely hsound hacts => ⟨⟨hsound, hacts⟩, hkept.2.stays hrely⟩
  refine hlooked.mono ?_ fun _ _ hafter => hafter
  rintro mapping looked ⟨hkept', hmapping⟩
  split
  · exact hkept'
  rename_i hconversation
  cases mapping with
  | none => exact (hconversation rfl).elim
  | some row =>
      have hrow := hmapping row rfl
      have hcommand : KeepsMaps library thread deliveryId accountId installation items
          (runtimeCommand (.recall (strip item.accountId)
            (stringOf ((some row).map ConversationMap.conversationId))
            (stringOf item.messagePk))) looked := by
        refine secures_call hkept'.1.2 ?_ ?_ ?_
        · intro before env hrely hbefore hallowed
          have hown := hrow.stays hrely
          have hmessage := hkept'.2.stays hrely item hitem
          simp only [concerns, haccount, decide_true, Bool.true_and, Bool.and_eq_true]
          exact ⟨knows_of_mem hown.2 (decide_eq_true ⟨hown.1, rfl⟩),
            knows_of_mem hmessage.2 (decide_eq_true ⟨hmessage.1, rfl⟩)⟩
        · intro before env value after hrely hbefore hstays hallowed hraised heffect hsound hacts
          exact ⟨⟨hsound, hacts⟩, (hkept'.2.stays hrely).stays hstays⟩
        · exact fun _ _ hrely hsound hacts => ⟨⟨hsound, hacts⟩, hkept'.2.stays hrely⟩
      rw [exceptException, secure_tryCatch, secure_bind]
      refine hcommand.mono (fun _ _ hafter => hafter) fun failure after hafter => ?_
      split
      · exact hafter
      · exact hafter

theorem keepsMaps_recallItem (remoteMessageId : String) (progress : RecallProgress)
    {item : MessageMap} (hitem : item ∈ items)
    (hkept : KeptMaps thread deliveryId accountId installation items state) :
    KeepsMaps library thread deliveryId accountId installation items
      (recallItem library remoteMessageId progress item) state := by
  unfold recallItem
  refine keepsMaps_bind (keepsMaps_of (uses_perform (.mute trivial)) hkept) ?_
  intro context read hread
  refine keepsMaps_bind (keepsMaps_of (uses_perform (.mute trivial)) hread) ?_
  intro config configured hconfigured
  dsimp only
  split
  · exact hconfigured
  split
  · exact hconfigured
  split
  · exact hconfigured
  split
  · exact hconfigured
  refine keepsMaps_bind (keepsMaps_issueRecall hitem config hconfigured) ?_
  intro outcome issued hissued
  exact keepsMaps_of (Uses.bind (uses_perform (.record hitem rfl)) fun _ => uses_pure _) hissued

variable {rest : List MessageMap}

theorem keepsMaps_recallItems (remoteMessageId : String) (hrest : rest ⊆ items)
    (progress : RecallProgress)
    (hkept : KeptMaps thread deliveryId accountId installation items state) :
    KeepsMaps library thread deliveryId accountId installation items
      (recallItems library remoteMessageId rest progress) state := by
  induction rest generalizing progress state with
  | nil => exact hkept
  | cons item rest ih =>
      have hsplit := List.cons_subset.mp hrest
      exact keepsMaps_bind (keepsMaps_recallItem remoteMessageId progress hsplit.1 hkept)
        fun next after hafter => ih hsplit.2 next hafter

theorem isOf_settleItems (remoteMessageId : String) (results : List RecallOutcome)
    (hrest : rest ⊆ items) :
    Uses (IsOf items) (settleItems remoteMessageId results rest) := by
  induction rest with
  | nil => exact uses_pure _
  | cons item rest ih =>
      have hsplit := List.cons_subset.mp hrest
      unfold settleItems
      dsimp only
      split
      · exact ih hsplit.2
      · split
        · exact Uses.bind (uses_perform (.record hsplit.1 rfl)) fun _ => ih hsplit.2
        · exact ih hsplit.2

theorem isOf_markDeleted (remoteMessageId : String) (hrest : rest ⊆ items) (deleted : ℕ) :
    Uses (IsOf items) (markDeleted remoteMessageId rest deleted) := by
  induction rest generalizing deleted with
  | nil => exact uses_pure _
  | cons item rest ih =>
      have hsplit := List.cons_subset.mp hrest
      unfold markDeleted
      refine Uses.bind (uses_perform (.mute trivial)) fun config => ?_
      split
      · exact Uses.bind (uses_perform (.record hsplit.1 rfl)) fun _ => ih hsplit.2 _
      · exact ih hsplit.2 _

theorem keepsMaps_recallMapped (platformConfig : ConfigView) (remoteMessageId : String)
    (remoteConversationId : Option String)
    (hkept : KeptMaps thread deliveryId accountId installation items state) :
    KeepsMaps library thread deliveryId accountId installation items
      (recallMapped library platformConfig remoteMessageId remoteConversationId items) state := by
  unfold recallMapped
  refine keepsMaps_bind (keepsMaps_recallItems remoteMessageId (List.Subset.refl _) _ hkept) ?_
  intro progress recalled hrecalled
  refine keepsMaps_of ?_ hrecalled
  dsimp only
  split
  · split
    · exact Uses.bind (uses_throw _) fun _ => uses_pure _
    · refine Uses.bind ((uses_chatwootRecallSnapshotExists _ _ _).mono fun _ => isOf_of_isSnapshot)
        fun snapshotExists => ?_
      split
      · exact Uses.bind (isOf_settleItems _ _ (List.Subset.refl _)) fun _ => uses_pure _
      · refine Uses.bind ((uses_createPrivateRecallSnapshot _ _ _ _).mono
          fun _ => isOf_of_isSnapshot) fun _ => ?_
        exact Uses.bind (isOf_settleItems _ _ (List.Subset.refl _)) fun _ => uses_pure _
  · exact uses_pure _

theorem keeps_handleMessageUpdated (platformConfig : ConfigView) (payload : Members)
    (hkept : Kept thread deliveryId accountId installation state) :
    Keeps library thread deliveryId accountId installation
      (handleMessageUpdated library platformConfig payload) state := by
  unfold handleMessageUpdated
  dsimp only
  split
  · exact hkept
  split
  swap
  · exact hkept
  rw [Keeps, Secures, secure_bind]
  refine (secures_messageMaps _ hkept).mono ?_ fun _ _ hafter => hafter
  rintro maps looked ⟨hlooked, hmaps⟩
  have hmapped : KeptMaps thread deliveryId accountId installation
      (maps.filter isMappedMessage) looked :=
    ⟨hlooked, fun item hitem => hmaps item (List.mem_filter.mp hitem).1⟩
  split
  · exact (keepsMaps_recallMapped _ _ _ hmapped).mono (fun _ _ hafter => hafter.1)
      fun _ _ hafter => hafter.1
  · exact (keepsMaps_of (Uses.bind (isOf_markDeleted _ (List.Subset.refl _) _)
      fun _ => uses_pure _) hmapped).mono (fun _ _ hafter => hafter.1) fun _ _ hafter => hafter.1

end Recalls

theorem isAbout_of_forwards {remoteMessageId remoteConversationId : String}
    (hop : op.Forwards library mapping remoteMessageId remoteConversationId) :
    IsAbout mapping op := by
  cases hop with
  | send piece => cases piece <;> exact ⟨rfl, rfl⟩
  | download url => trivial
  | record messagePk answer => rfl
  | takeover => exact ⟨rfl, rfl⟩

theorem isAbout_of_refuses {remoteMessageId remoteConversationId : String}
    (hop : op.Refuses deliveryId mapping.accountId remoteMessageId remoteConversationId) :
    IsAbout mapping op := by
  cases hop with
  | record => rfl
  | note => trivial
  | finish => trivial

section Created

variable {thread : ℕ} {deliveryId accountId : String} {installation : Installation}
  {state : State}

theorem keeps_handleMessageCreated (payload : Members)
    (hkept : Kept thread deliveryId accountId installation state) :
    Keeps library thread deliveryId accountId installation
      (handleMessageCreated library deliveryId payload) state := by
  unfold handleMessageCreated
  dsimp only
  split
  swap
  · exact hkept
  split
  swap
  · exact hkept
  refine keeps_bind (keeps_mute (uses_perform trivial) hkept) ?_
  intro existing found hfound
  split
  · exact hfound
  rw [Keeps, Secures, secure_bind]
  refine (secures_conversationMap _ hfound).mono ?_ fun _ _ hafter => hafter
  rintro mapped looked ⟨hlooked, hmapped⟩
  cases mapped with
  | none => exact hlooked
  | some mapping =>
      refine keeps_about mapping ?_ hlooked (hmapped mapping rfl).1
      refine Uses.bind (uses_perform trivial) fun config => ?_
      split
      · exact Uses.bind (uses_perform trivial) fun _ => uses_pure _
      split
      swap
      · exact Uses.bind (uses_perform trivial) fun _ => uses_pure _
      refine (uses_orError _).bind fun files => (uses_orError _).bind fun audio => ?_
      split
      · exact ((refuses_refuseAudio _ _ _ _ _).mono fun _ => isAbout_of_refuses).bind
          fun _ => uses_pure _
      · exact ((forwards_forwardPieces mapping _ _ _).mono fun _ => isAbout_of_forwards).bind
          fun _ => uses_pure _

theorem keeps_handleEvent (platformConfig : ConfigView) (view : WebhookView)
    (hkept : Kept thread deliveryId accountId installation state) :
    Keeps library thread deliveryId accountId installation
      (handleEvent library deliveryId platformConfig view) state := by
  refine secure_handleEvent (keeps_readEvents view.payload hkept) fun after hafter => ?_
  unfold dispatchEvent
  split
  · exact keeps_bind (keeps_handleConversationStatus view.payload hafter) fun _ _ hend => hend
  split
  · exact keeps_bind (keeps_handleMessageUpdated platformConfig view.payload hafter)
      fun _ _ hend => hend
  split
  · exact keeps_handleMessageCreated view.payload hafter
  · exact hafter

theorem keeps_executeWebhookTask
    (hkept : Kept thread deliveryId accountId installation state) :
    Keeps library thread deliveryId accountId installation
      (executeWebhookTask library deliveryId) state := by
  have hmute : ∀ {Value : Type} {part : Routine Value} {state : State}, Uses Op.IsFrame part →
      Kept thread deliveryId accountId installation state →
      Keeps library thread deliveryId accountId installation part state :=
    fun huses hkept => keeps_mute (huses.mono fun op hop => by
      cases op <;> first | exact hop | exact hop.elim) hkept
  have hget : Uses IsMute (getWebhook deliveryId) := uses_perform trivial
  have hconfig : Uses IsMute (getConfig none) := uses_perform trivial
  refine secure_executeWebhookTask (Kept thread deliveryId accountId installation)
    (fun _ => Kept thread deliveryId accountId installation)
    ((keeps_mute hget hkept).mono (fun _ _ hafter => ⟨hafter, fun _ _ => hafter⟩)
      fun _ _ hafter => hafter) hmute ?_ (fun _ _ hread => hread) ?_
  · exact fun view after hread => keeps_mute hconfig hread
  · exact fun view platformConfig after hread => keeps_handleEvent platformConfig view hread

end Created

theorem sound_start (settings : Settings) : Sound (start settings) :=
  Sound.observe ⟨fun _ => rfl, (fun _ _ _ hsigned => by cases hsigned), rfl⟩

theorem leaves_harmlessly (hsound : Sound state) (ended : Option (Except Failure Members)) :
    Machine.Harmless discipline thread state ((machine library).leave thread ended state) :=
  ⟨⟨hsound.signed, hsound.stripped, hsound.confined⟩, fun _ hother =>
    ⟨Function.update_of_ne hother _ _, fun _ _ hsigned => hsigned, List.Subset.refl _,
      List.Subset.refl _⟩⟩

/-- A mirror task handles no delivery. -/
theorem secures_executeLocalMessageTask {messagePk revision : String} (hsound : Sound state)
    (hrunning : (state.running thread).map Task.job =
      some (.localMessage accountId messagePk revision)) :
    Secures library thread (fun _ => Sound) (fun _ => Sound)
      (executeLocalMessageTask accountId messagePk) state := by
  have huses : ∀ coroutine : Routine Members, Uses (fun _ => True) coroutine := by
    intro coroutine
    induction coroutine with
    | returned value => exact uses_pure value
    | raised failure => exact uses_throw failure
    | await op resume ih => exact ⟨trivial, ih⟩
  let mirrors (state : State) : Prop := Sound state ∧
    (state.running thread).map Task.job = some (.localMessage accountId messagePk revision)
  have hmirrors : Secures library thread (fun _ => mirrors) (fun _ => mirrors)
      (executeLocalMessageTask accountId messagePk) state := by
    refine (huses _).secure ?_ ?_ ⟨hsound, hrunning⟩
    · rintro before after ⟨-, hjob⟩ ⟨hstays, hafter⟩
      exact ⟨hafter, hstays.running ▸ hjob⟩
    · rintro op - before answer after ⟨hbefore, hjob⟩ ⟨env, -, hperform⟩
      have hfits : strays thread op before = [] := by simp only [strays, hjob]
      have hdone := sound_perform hbefore hfits hperform
      exact ⟨⟨hdone.1, fun other _ => hdone.2.1 other⟩, hdone.1, (hdone.2.1 thread).running ▸ hjob⟩
  exact hmirrors.mono (fun _ _ hafter => hafter.1) fun _ _ hafter => hafter.1

theorem sound_accept (hsound : Sound state)
    (hstored : ∀ accountId ∈ signer library delivery state.bridge.settings,
      accountId ∈ state.bridge.settings.accountList) :
    Sound { state with
      bridge := { state.bridge with
        events := acceptedEvents library delivery state.bridge.settings state.bridge.events }
      ghost := { state.ghost with signed := noteSigner library delivery state } } ∧
    ∀ deliveryId signed, state.ghost.signed deliveryId = some signed →
      noteSigner library delivery state deliveryId = some signed := by
  have hlookup : ∀ deliveryId,
      ((acceptedEvents library delivery state.bridge.settings state.bridge.events).lookup
        deliveryId).isSome = (state.bridge.events.lookup deliveryId).isSome ∨
      deliveryId = recordKey (delivery.deliveryId library) ∧
        ((acceptedEvents library delivery state.bridge.settings state.bridge.events).lookup
          deliveryId).isSome ∧
        (signer library delivery state.bridge.settings).isSome :=
    lookup_acceptedEvents delivery state.bridge.settings state.bridge.events
  by_cases hnew : (state.bridge.events.lookup (recordKey (delivery.deliveryId library))).isNone ∧
      ((acceptedEvents library delivery state.bridge.settings state.bridge.events).lookup
        (recordKey (delivery.deliveryId library))).isSome
  · have hnote : noteSigner library delivery state = Function.update state.ghost.signed
        (recordKey (delivery.deliveryId library))
        ((signer library delivery state.bridge.settings).map fun accountId =>
          (accountId, installationOf state.bridge.settings)) := if_pos hnew
    have hunsigned : state.ghost.signed (recordKey (delivery.deliveryId library)) = none := by
      rw [← Option.isNone_iff_eq_none, ← Option.not_isSome, ← hsound.signed, Option.not_isSome]
      exact hnew.1
    rw [hnote]
    refine ⟨⟨fun deliveryId => ?_, fun deliveryId accountId installation hsigned => ?_,
      hsound.confined⟩, fun deliveryId signed hsigned => ?_⟩
    · by_cases hkey : deliveryId = recordKey (delivery.deliveryId library)
      · subst hkey
        dsimp only
        rw [Function.update_self, Option.isSome_map, hnew.2]
        rcases hlookup (recordKey (delivery.deliveryId library)) with hsame | ⟨-, -, hsigner⟩
        · rw [hsame, ← Option.not_isNone, hnew.1] at hnew
          cases hnew.2
        · exact hsigner.symm
      · dsimp only
        rw [Function.update_of_ne hkey, ← hsound.signed]
        rcases hlookup deliveryId with hsame | ⟨hsame, -⟩
        · exact hsame
        · exact (hkey hsame).elim
    · by_cases hkey : deliveryId = recordKey (delivery.deliveryId library)
      · subst hkey
        dsimp only at hsigned
        rw [Function.update_self, Option.map_eq_some_iff] at hsigned
        obtain ⟨account, hsigner, hpair⟩ := hsigned
        cases hpair
        obtain ⟨row, hrow, rfl⟩ := List.mem_map.mp (hstored _ hsigner)
        exact (state.bridge.settings.accountIds row hrow).2.1
      · dsimp only at hsigned
        rw [Function.update_of_ne hkey] at hsigned
        exact hsound.stripped deliveryId accountId installation hsigned
    · have hkey : deliveryId ≠ recordKey (delivery.deliveryId library) := by
        rintro rfl
        rw [hunsigned] at hsigned
        cases hsigned
      rw [Function.update_of_ne hkey, hsigned]
  · have hnote : noteSigner library delivery state = state.ghost.signed := if_neg hnew
    rw [hnote]
    refine ⟨⟨fun deliveryId => ?_, hsound.stripped, hsound.confined⟩, fun _ _ hsigned => hsigned⟩
    rw [← hsound.signed deliveryId]
    rcases hlookup deliveryId with hsame | ⟨rfl, hthere, -⟩
    · exact hsame
    · rw [hthere, eq_comm, ← Option.not_isNone]
      simpa only [hthere, and_true, Bool.not_eq_true', Bool.not_eq_true] using hnew

theorem sound_outside {next : State} {change : Change} (hsound : Sound state)
    (hchange : outside library state change = some next) :
    Sound next ∧ ∀ thread, Stays thread state next := by
  have hplain : ∀ bridge : Bridge, bridge.events = state.bridge.events →
      Sound { state with bridge := bridge } ∧
        ∀ thread, Stays thread state { state with bridge := bridge } := by
    intro bridge hevents
    refine ⟨⟨fun deliveryId => ?_, hsound.stripped, hsound.confined⟩, fun _ => ?_⟩
    · dsimp only
      rw [hevents]
      exact hsound.signed deliveryId
    · exact ⟨rfl, fun _ _ hsigned => hsigned, List.Subset.refl _, List.Subset.refl _⟩
  have henqueue : ∀ (job : Job) {after : State}, Sound after →
      (∀ thread, Stays thread state after) →
      Sound (after.enqueue job) ∧ ∀ thread, Stays thread state (after.enqueue job) := by
    intro job after hafter hstays
    refine ⟨⟨?_, ?_, ?_⟩, fun thread => ⟨?_, ?_, ?_, ?_⟩⟩ <;>
      simp only [Workers.bridge_enqueue, Workers.running_enqueue, Workers.ghost_enqueue]
    · exact hafter.signed
    · exact hafter.stripped
    · exact hafter.confined
    · exact (hstays thread).running
    · exact (hstays thread).signed
    · exact (hstays thread).conversations
    · exact (hstays thread).messages
  cases change with
  | configure settings =>
      cases hchange
      have hset := hplain { state.bridge with settings := settings } rfl
      exact ⟨hset.1.observe, fun thread => (hset.2 thread).trans (stays_observe thread _)⟩
  | record message =>
      obtain ⟨messages, -, rfl⟩ := Option.map_eq_some_iff.mp hchange
      exact hplain _ rfl
  | revise accountId messagePk =>
      obtain ⟨message, -, rfl⟩ := Option.map_eq_some_iff.mp hchange
      exact henqueue _ hsound fun thread => Stays.refl thread state
  | write message =>
      cases hchange
      exact hplain _ rfl
  | accept delivery =>
      simp only [outside] at hchange
      split at hchange
      swap
      · cases hchange
      rename_i hstored
      cases hchange
      have haccepted := sound_accept hsound hstored
      exact henqueue _ haccepted.1 fun _ => ⟨rfl, haccepted.2, List.Subset.refl _,
        List.Subset.refl _⟩

theorem start_machine (thread : ℕ) (task : Task) (state : State) :
    (machine library).start thread task state =
      match task.job with
      | .webhook deliveryId =>
          if (state.bridge.events.lookup deliveryId).isSome then state.claim thread task else none
      | .localMessage _ _ _ => state.claim thread task := rfl

theorem machine_sound : (machine library).Sound discipline where
  refl := Stays.refl
  trans _ _ _ _ := Stays.trans
  start thread task state next hsound _ hstart := by
    have hclaimed : ∀ {next : State}, state.claim thread task = some next →
        Machine.Harmless discipline thread state next ∧ next.running thread = some task ∧
          next.bridge = state.bridge ∧ next.ghost = state.ghost := by
      intro next hclaim
      have hnext := Workers.claim_eq_some hclaim
      subst hnext
      exact ⟨⟨⟨hsound.signed, hsound.stripped, hsound.confined⟩, fun other hother =>
        ⟨Function.update_of_ne hother _ _, fun _ _ hsigned => hsigned, List.Subset.refl _,
          List.Subset.refl _⟩⟩, Function.update_self _ _ _, rfl, rfl⟩
    rw [start_machine] at hstart
    cases hjob : task.job with
    | localMessage accountId messagePk revision =>
        rw [hjob] at hstart
        obtain ⟨hharmless, hrunning, -⟩ := hclaimed hstart
        refine ⟨hharmless, ?_⟩
        have hsecure : Secures library thread (fun _ => Sound) (fun _ => Sound)
            (executeLocalMessageTask accountId messagePk) next :=
          secures_executeLocalMessageTask hharmless.1 (by rw [hrunning, Option.map_some, hjob])
        change Machine.Secured _ _ _ (task.job.program library) next
        rw [hjob]
        exact hsecure.mono (fun _ _ hafter => leaves_harmlessly hafter _)
          fun _ _ hafter => leaves_harmlessly hafter _
    | webhook deliveryId =>
        rw [hjob] at hstart
        dsimp only at hstart
        split at hstart
        swap
        · cases hstart
        rename_i hstored
        obtain ⟨hharmless, hrunning, -, hghost⟩ := hclaimed hstart
        refine ⟨hharmless, ?_⟩
        rw [hsound.signed, Option.isSome_iff_exists] at hstored
        obtain ⟨⟨accountId, installation⟩, hsigned⟩ := hstored
        have hkept : Kept thread deliveryId accountId installation next :=
          ⟨hharmless.1, ⟨by rw [hrunning, Option.map_some, hjob], hghost ▸ hsigned⟩,
            hsound.stripped deliveryId accountId installation hsigned⟩
        change Machine.Secured _ _ _ (task.job.program library) next
        rw [hjob]
        exact (keeps_executeWebhookTask hkept).mono
          (fun _ _ hafter => leaves_harmlessly hafter.1 _)
          fun _ _ hafter => leaves_harmlessly hafter.1 _
  crash thread state hsound _ := leaves_harmlessly hsound none
  outside change state next hsound _ hchange := sound_outside hsound hchange

/-- In every run whose deliveries lead only to maps of their signers and of the installation
they were accepted for, no task goes beyond these. -/
theorem confined_of_run {settings : Settings} {turns : List (Turn Task Env Change)}
    {final : Threads State Op Answer Failure Members}
    (hrun : Run
      (restrict (ofPartial (machine library).apply) (Machine.Keeps discipline))
      (Machine.idle (start settings)) turns final) :
    Confined final.state :=
  (Machine.invariant_of_run machine_sound (sound_start settings) hrun).confinedState

def sampleText : String :=
  "\x7b\"event\":\"conversation_updated\",\"inbox_id\":7,\"conversation\":\x7b\"id\":3,\"status\":\"resolved\"\x7d\x7d"

def sampleBody : Bytes := sampleText.toList.map fun char => UInt8.ofNat char.toNat

def samplePayload : Json :=
  .obj [("event", .str "conversation_updated"), ("inbox_id", .int 7),
    ("conversation", .obj [("id", .int 3), ("status", .str "resolved")])]

def sampleSignature : String :=
  "3e52aedd6eeb1cc73a9374a12a7d99e4aa8fb252f60e75d7bc8657c88414e9d7"

def sampleLibrary : WebhookLibrary where
  loads raw := if raw = sampleBody then .ok samplePayload else .error true
  decode raw := if raw = sampleBody then some sampleText else none
  encode text := text.toList.map fun char => UInt8.ofNat char.toNat
  sha256 _ := "0548f6a57fdbfb2c2540c30b7b58f77ca439dd0de15f6faa8a39126654c78562"
  hmacSha256 _ _ := sampleSignature
  isDigit text := text = "100"
  int
    | .int value => .ok value
    | .str "100" => .ok 100
    | _ => .error .notAnInteger
  str := Json.dumps
  decrypt text := some text
  loadsText text := if text = sampleText then some samplePayload else none
  epochSeconds _ := some none
  isTimestamp _ := true
  urlSuffix _ := some ""

def sampleSettings (owner : String) (howner : owner = "a" ∨ owner = "b") : Settings where
  config := some ⟨true, false, 120, "https://chatwoot.example", some 1, some "token"⟩
  accounts := ⟨[⟨"a", true, true, none⟩, ⟨"b", true, true, none⟩], by decide⟩
  bindings := ⟨[⟨"a", 7, "first", "secret", none, none⟩, ⟨"b", 8, "second", "other", none, none⟩],
    by decide⟩
  conversationMaps :=
    ⟨[⟨owner, "c", "peer", "source", "3", none, none⟩], List.pairwise_singleton _ _⟩
  accountIds := by decide
  owned := by
    intro row hrow
    cases List.mem_singleton.mp hrow
    rcases howner with rfl | rfl
    · exact ⟨_, List.mem_cons_self, rfl⟩
    · exact ⟨_, List.mem_cons_of_mem _ List.mem_cons_self, rfl⟩

def sampleDelivery : Delivery where
  rawBody := sampleBody
  signature := some ("sha256=" ++ sampleSignature)
  timestamp := some "100"
  deliveryHeader := some "d-1"
  clock := 100
  now := 0
  taskId := "t-1"
  queued := some true
  limit := none
  crashes := false

def sampleTurns : List (Turn Task Env Change) :=
  [.outside (.accept sampleDelivery), .start 0 ⟨.webhook "d-1", 0⟩, .resume 0 {},
    .resume 0 {}, .resume 0 {}, .resume 0 {}, .resume 0 {}]

/-- The body is signed by the inbox of one account and names a conversation of the other. -/
theorem strays_to_other_account :
    ∃ final, Run (ofPartial (machine sampleLibrary).apply)
        (Machine.idle (start (sampleSettings "b" (.inr rfl)))) sampleTurns final ∧
      ¬ Confined final.state := by
  refine ⟨_, run_ofPartial_iff.mpr rfl, fun hconfined => ?_⟩
  exact absurd hconfined.confined (by decide)

/-- A conversation of the signer's account is updated and taken over. -/
theorem confined_to_signer :
    ∃ final, Run (restrict (ofPartial (machine sampleLibrary).apply) (Machine.Keeps discipline))
        (Machine.idle (start (sampleSettings "a" (.inl rfl))))
        (sampleTurns ++ [.resume 0 {}]) final ∧
      final.state.bridge.log = [.statusUpdated "a" "3" "resolved", .takeover "a" "c" "auto"] ∧
      Confined final.state := by
  have hruns : ∃ final,
      Run (restrict (ofPartial (machine sampleLibrary).apply) (Machine.Keeps discipline))
        (Machine.idle (start (sampleSettings "a" (.inl rfl))))
        (sampleTurns ++ [.resume 0 {}]) final ∧
      final.state.bridge.log =
        [.statusUpdated "a" "3" "resolved", .takeover "a" "c" "auto"] := by
    refine ⟨_, .cons ⟨trivial, rfl⟩ (.cons ⟨trivial, rfl⟩ (.cons ⟨?_, rfl⟩ (.cons ⟨?_, rfl⟩
      (.cons ⟨?_, rfl⟩ (.cons ⟨?_, rfl⟩ (.cons ⟨?_, rfl⟩ (.cons ⟨?_, rfl⟩ (.nil _)))))))), rfl⟩
    all_goals
      intro op resume hrunning
      cases hrunning
      intro deliveryId accountId installation hhandles
      obtain ⟨hjob, hsigned⟩ := hhandles
      cases hjob
    case refine_3 =>
      cases hsigned
      intro _ row hrow
      cases hrow
      exact ⟨rfl, List.mem_singleton_self _⟩
    all_goals exact trivial
  obtain ⟨final, hrun, hlog⟩ := hruns
  exact ⟨final, hrun, hlog, confined_of_run hrun⟩

end XianyuAdmin.Chatwoot.SignedWebhooks
