import XianyuAdmin.Chatwoot.Forwarding

/-!
# Messages are forwarded completely

An attempt finishes the delivery as a success after it has sent every piece and
taken the conversation over, or because it has found maps of the message.  When
maps are found only after a takeover, a success means a complete message.
-/

namespace XianyuAdmin.Chatwoot.ForwardedMessages

open XianyuAdmin.Coroutine
open XianyuAdmin.Python
open XianyuAdmin.Transition

variable (library : WebhookLibrary) (message : AgentMessage)

def At (thread : ℕ) (state : State) : Prop :=
  state.active = some thread ∧ Sound library message state

abbrev Secures {Value : Type} (thread : ℕ) (returns : Value → State → Prop)
    (raises : Failure → State → Prop) (coroutine : Routine Value) (state : State) : Prop :=
  Secure ((machine library message).contract (discipline library message) thread) returns raises
    coroutine state

def Peaceful {Value : Type} (coroutine : Routine Value) : Prop :=
  ∀ thread state, At library message thread state →
    Secures library message thread
      (fun _ after => At library message thread after ∧ Calm library message state.bridge after.bridge)
      (fun _ after => At library message thread after ∧ Calm library message state.bridge after.bridge)
      coroutine state

section Rules

variable {library message}

/-- One operation of the attempt, which the rest of the service disturbs only calmly. -/
theorem secures_call {thread : ℕ} {op : Op} {state : State}
    {returns : Answer op → State → Prop} {raises : Failure → State → Prop}
    (hactive : state.active = some thread)
    (hkeeps : ∀ env before value bridge, At library message thread before →
      Calm library message state.bridge before.bridge →
      effect library.loadsText env before.bridge op = some (value, bridge) →
      Sound library message { before with bridge := bridge })
    (hreturns : ∀ env before value bridge, At library message thread before →
      Calm library message state.bridge before.bridge → env.raised = none → Allowed message op env before →
      effect library.loadsText env before.bridge op = some (value, bridge) →
      Sound library message { before with bridge := bridge } →
      returns value { before with bridge := bridge })
    (hraises : ∀ env before failure bridge, At library message thread before →
      Calm library message state.bridge before.bridge →
      (bridge = before.bridge ∨
        ∃ value, effect library.loadsText env before.bridge op = some (value, bridge)) →
      Sound library message { before with bridge := bridge } →
      raises failure { before with bridge := bridge }) :
    Secures library message thread returns raises (call op) state := by
  rw [Secures, secure_perform]
  rintro before ⟨hrely, hsound⟩ answer after ⟨env, hallowed, hperform⟩
  have hbefore := hrely hactive
  have hat : At library message thread before := ⟨hbefore.1, hsound⟩
  obtain ⟨⟨reply, bridge⟩, hop, hafter⟩ := Option.map_eq_some_iff.mp hperform
  obtain ⟨rfl, rfl⟩ := Prod.mk.inj hafter
  have hothers : ∀ other, other ≠ thread →
      (discipline library message).rely other before { before with bridge := bridge } := by
    intro other hother hactiveOther
    exact absurd (Option.some.inj (hactiveOther.symm.trans hbefore.1)) hother
  rcases performOp_cases hop with
    ⟨value, rfl, hraised, heffect⟩ | ⟨failure, rfl, -, hleft⟩
  · have hkept := hkeeps env before value bridge hat hbefore.2 heffect
    exact ⟨⟨hkept, hothers⟩,
      hreturns env before value bridge hat hbefore.2 hraised hallowed heffect hkept⟩
  · have hkept : Sound library message { before with bridge := bridge } := by
      rcases hleft with rfl | ⟨value, heffect⟩
      · exact hsound
      · exact hkeeps env before value bridge hat hbefore.2 heffect
    exact ⟨⟨hkept, hothers⟩, hraises env before failure bridge hat hbefore.2 hleft hkept⟩

theorem peaceful_of_uses {Value : Type} {coroutine : Routine Value}
    (huses : Uses IsCalm coroutine) : Peaceful library message coroutine := by
  intro thread state hat
  refine huses.secure ?_ ?_ ⟨hat, .refl _⟩
  · rintro before after ⟨hbefore, hcalm⟩ ⟨hrely, hsound⟩
    have hafter := hrely hbefore.1
    exact ⟨⟨hafter.1, hsound⟩, hcalm.trans hafter.2⟩
  · rintro op hop before answer after ⟨hbefore, hcalm⟩ ⟨env, -, hperform⟩
    obtain ⟨⟨reply, bridge⟩, hop', hafter⟩ := Option.map_eq_some_iff.mp hperform
    cases hafter
    have hkept : Calm library message before.bridge bridge ∧
        bridge.settings = before.bridge.settings := calm_performOp hop hop'
    have hsound := hbefore.2.calm hkept.1 (hkept.2 ▸ hbefore.2.mapsTo)
    refine ⟨⟨hsound, fun other hother hactive => ?_⟩, ⟨hbefore.1, hsound⟩, hcalm.trans hkept.1⟩
    exact absurd (Option.some.inj (hactive.symm.trans hbefore.1)) hother

theorem peaceful_call {op : Op} (hcalm : IsCalm op) : Peaceful library message (call op) :=
  peaceful_of_uses (uses_perform hcalm)

theorem peaceful_readEvents (payload : Members) :
    Peaceful library message (readEvents library payload) := by
  refine peaceful_of_uses ((uses_readEvents payload).mono fun op hop => ?_)
  cases op <;> trivial

theorem peaceful_recordPieces (accountId remoteMessageId remoteConversationId : String)
    (answers : List Members) :
    Peaceful library message
      (recordPieces library accountId remoteMessageId remoteConversationId answers) := by
  refine peaceful_of_uses ((uses_recordPieces _ _ _ answers).mono fun op hop => ?_)
  cases op <;> trivial

end Rules

section Commands

variable {library message}

variable {state : State} {piece : Piece} {bridge : Bridge} {remoteMessageId : String}
  {mapping : ConversationMap} {thread : ℕ}

theorem Carried.grow {after : State} {answer : Members}
    (hcarried : Carried library message state piece answer)
    (hgrown : Grown state.bridge after.bridge) : Carried library message after piece answer := by
  obtain ⟨remoteMessageId, mapping, hid, htarget, hmem⟩ := hcarried
  exact ⟨remoteMessageId, mapping, hid, htarget, hgrown _ trivial hmem⟩

theorem AllSent.grow {after : State} (hsent : AllSent library message state)
    (hgrown : Grown state.bridge after.bridge) : AllSent library message after := by
  intro piece hpiece
  obtain ⟨answer, hcarried, hsucceeded⟩ := hsent piece hpiece
  exact ⟨answer, hcarried.grow hgrown, hsucceeded⟩

theorem TakenOver.grow {after : State} (htaken : TakenOver message state)
    (hgrown : Grown state.bridge after.bridge) : TakenOver message after :=
  hgrown _ trivial htaken

/-- More of the work is done, and no takeover. -/
theorem Sound.grow (hsound : Sound library message state)
    (hsettings : bridge.settings = state.bridge.settings)
    (hevents : bridge.events = state.bridge.events) (hgrown : Grown state.bridge bridge)
    (htakeover : TakenOver message { state with bridge := bridge } → TakenOver message state)
    (hsubmitted : ∀ command, Effect.submitted command ∈ bridge.log →
      ∃ mapping remoteMessageId, ∃ piece ∈ message.pieces library,
        extractChatwootMessageId library message.payload = some remoteMessageId ∧
          command = pieceCommand mapping remoteMessageId piece)
    (hanswered : ∀ remoteMessageId ∈ extractChatwootMessageId library message.payload,
      ∀ piece ∈ message.pieces library, ∀ answer,
        bridge.answerOf (some (requestId remoteMessageId piece)) = some answer →
        Carried library message { state with bridge := bridge } piece answer) :
    Sound library message { state with bridge := bridge } where
  mapsTo := hsettings ▸ hsound.mapsTo
  stored := by
    simp only [hevents]
    exact hsound.stored
  submitted := hsubmitted
  answered := hanswered
  takenOver htaken := (hsound.takenOver (htakeover htaken)).grow hgrown
  complete hended := by
    have hcomplete := hsound.complete (by simpa only [EndedAsSuccess, hevents] using hended)
    exact ⟨hcomplete.1.grow hgrown, hcomplete.2.grow hgrown⟩

theorem clientRequestId_pieceCommand (mapping : ConversationMap) (remoteMessageId : String)
    (piece : Piece) : (pieceCommand mapping remoteMessageId piece).clientRequestId =
      some (requestId remoteMessageId piece) := by
  cases piece with
  | text content => rfl
  | image index url => rfl

theorem answerOf_carryOut {command : Command} {clientRequestId : String} {env : Env}
    (hcommand : command.clientRequestId = some clientRequestId)
    (hfresh : bridge.answerOf (some clientRequestId) = none) (other : String) :
    (bridge.carryOut command env).answerOf (some other) =
      if other = clientRequestId then some env.members else bridge.answerOf (some other) := by
  simp only [Bridge.answerOf, Bridge.carryOut, Option.bind_some, hcommand, Option.toList_some,
    List.map_cons, List.map_nil, List.find?_append] at hfresh ⊢
  by_cases hother : other = clientRequestId
  · have hnone : bridge.requests.find? (fun request => request.1 = clientRequestId) = none := by
      simpa using hfresh
    simp [hother, hnone]
  · have hne : ¬ clientRequestId = other := fun hsame => hother hsame.symm
    simp [hother, hne]

theorem sound_command (hsound : Sound library message state) {env : Env} {answer : Members}
    (hid : extractChatwootMessageId library message.payload = some remoteMessageId)
    (hids : ((message.pieces library).map (requestId remoteMessageId)).Nodup)
    (htarget : IsTarget message mapping) (hpiece : piece ∈ message.pieces library)
    (hcommand : state.bridge.command (pieceCommand mapping remoteMessageId piece) env =
      (answer, bridge)) :
    Sound library message { state with bridge := bridge } ∧
      Carried library message { state with bridge := bridge } piece answer ∧
      Grown state.bridge bridge := by
  have hkey := clientRequestId_pieceCommand mapping remoteMessageId piece
  have hown : ∃ mapping' remoteMessageId', ∃ piece' ∈ message.pieces library,
      extractChatwootMessageId library message.payload = some remoteMessageId' ∧
        pieceCommand mapping remoteMessageId piece =
          pieceCommand mapping' remoteMessageId' piece' :=
    ⟨mapping, remoteMessageId, piece, hpiece, hid, rfl⟩
  rcases Bridge.command_cases hcommand with ⟨hanswer, rfl⟩ | ⟨hfresh, rfl, rfl⟩
  · rw [hkey] at hanswer
    have hgrown : Grown state.bridge
        (state.bridge.note (.submitted (pieceCommand mapping remoteMessageId piece))) :=
      fun _ _ => List.mem_append_left _
    have hcarried := hsound.answered remoteMessageId hid piece hpiece answer hanswer
    refine ⟨hsound.grow rfl rfl hgrown ?_ ?_ ?_, hcarried.grow hgrown, hgrown⟩
    · intro htaken
      simpa [TakenOver, Bridge.note] using htaken
    · intro command hmem
      rcases List.mem_append.mp hmem with hold | hnew
      · exact hsound.submitted command hold
      · cases List.mem_singleton.mp hnew
        exact hown
    · intro other hother piece' hpiece' answer' hanswer'
      exact (hsound.answered other hother piece' hpiece' answer' hanswer').grow hgrown
  · rw [hkey] at hfresh
    have hgrown : Grown state.bridge
        ((state.bridge.note (.submitted (pieceCommand mapping remoteMessageId piece))).carryOut
          (pieceCommand mapping remoteMessageId piece) env) :=
      fun _ _ heffect => List.mem_append_left _ (List.mem_append_left _ heffect)
    have hcarried : Carried library message
        { state with
          bridge := (state.bridge.note
            (.submitted (pieceCommand mapping remoteMessageId piece))).carryOut
              (pieceCommand mapping remoteMessageId piece) env }
        piece env.members :=
      ⟨remoteMessageId, mapping, hid, htarget,
        List.mem_append_right _ (List.mem_singleton_self _)⟩
    refine ⟨hsound.grow rfl rfl hgrown ?_ ?_ ?_, hcarried, hgrown⟩
    · intro htaken
      simpa [TakenOver, Bridge.note, Bridge.carryOut] using htaken
    · intro command hmem
      rcases List.mem_append.mp hmem with hmem | hnew
      · rcases List.mem_append.mp hmem with hold | hnew
        · exact hsound.submitted command hold
        · cases List.mem_singleton.mp hnew
          exact hown
      · cases List.mem_singleton.mp hnew
    · intro other hother piece' hpiece' answer' hanswer'
      have hsame : other = remoteMessageId := by
        rw [Option.mem_def, hid] at hother
        exact (Option.some.inj hother).symm
      subst hsame
      have hnoted : (state.bridge.note
          (.submitted (pieceCommand mapping other piece))).answerOf
            (some (requestId other piece)) = none := hfresh
      rw [answerOf_carryOut hkey hnoted] at hanswer'
      split at hanswer'
      · rename_i hrequest
        have hpieces : piece' = piece :=
          List.inj_on_of_nodup_map hids hpiece' hpiece hrequest
        cases hanswer'
        exact hpieces ▸ hcarried
      · exact (hsound.answered other hid piece' hpiece' answer' hanswer').grow hgrown

theorem secures_runtimeCommand (hat : At library message thread state)
    (hid : extractChatwootMessageId library message.payload = some remoteMessageId)
    (hids : ((message.pieces library).map (requestId remoteMessageId)).Nodup)
    (htarget : IsTarget message mapping) (hpiece : piece ∈ message.pieces library) :
    Secures library message thread
      (fun answer after => At library message thread after ∧
        Carried library message after piece answer ∧ Grown state.bridge after.bridge)
      (fun _ after => At library message thread after)
      (runtimeCommand (pieceCommand mapping remoteMessageId piece)) state := by
  have hcommands : ∀ env before value bridge, At library message thread before →
      effect library.loadsText env before.bridge
        (.runtimeCommand (pieceCommand mapping remoteMessageId piece)) = some (value, bridge) →
      Sound library message { before with bridge := bridge } ∧
        Carried library message { before with bridge := bridge } piece value ∧
        Grown before.bridge bridge :=
    fun env before value bridge hbefore heffect =>
      sound_command hbefore.2 hid hids htarget hpiece (Option.some.inj heffect)
  refine secures_call hat.1 ?_ ?_ ?_
  · intro env before value bridge hbefore _ heffect
    exact (hcommands env before value bridge hbefore heffect).1
  · intro env before value bridge hbefore hcalm _ _ heffect hsound
    have hdone := hcommands env before value bridge hbefore heffect
    exact ⟨⟨hbefore.1, hsound⟩, hdone.2.1, hcalm.grown.trans hdone.2.2⟩
  · intro env before failure bridge hbefore _ _ hsound
    exact ⟨hbefore.1, hsound⟩

theorem secures_sendPiece (hat : At library message thread state)
    (hid : extractChatwootMessageId library message.payload = some remoteMessageId)
    (hids : ((message.pieces library).map (requestId remoteMessageId)).Nodup)
    (htarget : IsTarget message mapping) (hpiece : piece ∈ message.pieces library) :
    Secures library message thread
      (fun answer after => At library message thread after ∧
        Carried library message after piece answer ∧ Grown state.bridge after.bridge)
      (fun _ after => At library message thread after)
      (sendPiece mapping remoteMessageId piece) state := by
  cases piece with
  | text content => exact secures_runtimeCommand hat hid hids htarget hpiece
  | image index url =>
      have hdownload : Peaceful library message (call (.download url)) := peaceful_call trivial
      rw [sendPiece, Secures, secure_bind]
      refine (hdownload thread state hat).mono ?_ fun _ _ hafter => hafter.1
      rintro file middle ⟨hmiddle, hcalm⟩
      refine (secures_runtimeCommand hmiddle hid hids htarget hpiece).mono ?_
        fun _ _ hafter => hafter
      rintro answer after ⟨hafter, hcarried, hgrown⟩
      exact ⟨hafter, hcarried, hcalm.grown.trans hgrown⟩

theorem secures_sendPieces
    (hid : extractChatwootMessageId library message.payload = some remoteMessageId)
    (hids : ((message.pieces library).map (requestId remoteMessageId)).Nodup)
    (htarget : IsTarget message mapping) {pieces : List Piece}
    (hpieces : ∀ piece ∈ pieces, piece ∈ message.pieces library)
    (hat : At library message thread state) :
    Secures library message thread
      (fun answers after => At library message thread after ∧
        List.Forall₂ (Carried library message after) pieces answers ∧
        Grown state.bridge after.bridge)
      (fun _ after => At library message thread after)
      (sendPieces mapping remoteMessageId pieces) state := by
  induction pieces generalizing state with
  | nil => exact ⟨hat, .nil, fun _ _ heffect => heffect⟩
  | cons piece pieces ih =>
      rw [sendPieces, Secures, secure_bind]
      refine (secures_sendPiece hat hid hids htarget (hpieces piece (by simp))).mono ?_
        fun _ _ hafter => hafter
      rintro answer middle ⟨hmiddle, hcarried, hfirst⟩
      rw [secure_bind]
      refine (ih (fun piece hpiece => hpieces piece (by simp [hpiece])) hmiddle).mono ?_
        fun _ _ hafter => hafter
      rintro answers after ⟨hafter, hrest, hsecond⟩
      exact ⟨hafter, .cons (hcarried.grow hsecond) hrest, hfirst.trans hsecond⟩

theorem allSent_of_answers {answers : List Members}
    (hcarried : List.Forall₂ (Carried library message state) (message.pieces library) answers)
    (hsucceeded : ∀ answer ∈ answers, succeeded answer = true) :
    AllSent library message state := by
  intro piece hpiece
  obtain ⟨index, hindex, hget⟩ := List.getElem_of_mem hpiece
  have hlength := hcarried.length_eq
  have hbound : index < answers.length := hlength ▸ hindex
  have hanswer := hcarried.get hindex hbound
  simp only [List.get_eq_getElem, hget] at hanswer
  exact ⟨answers[index], hanswer, hsucceeded _ (List.getElem_mem hbound)⟩

end Commands

section Attempt

variable {library message}

variable {state : State} {thread : ℕ}

theorem Sound.finish (hsound : Sound library message state) {deliveryId status : String}
    {error : Option String}
    (hstatus : status = "success" → AllSent library message state ∧ TakenOver message state) :
    Sound library message
      { state with
        bridge := { state.bridge with
          events := Chatwoot.finishWebhook deliveryId status error state.bridge.events } } where
  mapsTo := hsound.mapsTo
  stored := by
    obtain ⟨row, hlookup, hname, hpayload⟩ := hsound.stored
    simp only [Chatwoot.finishWebhook, Table.lookup_map, hlookup, Option.map_some,
      Option.some.injEq, exists_eq_left']
    split
    · exact ⟨hname, hpayload⟩
    · exact ⟨hname, hpayload⟩
  submitted := hsound.submitted
  answered := hsound.answered
  takenOver := hsound.takenOver
  complete := by
    rintro ⟨row, hlookup, hsuccess⟩
    obtain ⟨stored, hstored, -⟩ := hsound.stored
    simp only [Chatwoot.finishWebhook, Table.lookup_map, hstored, Option.map_some,
      Option.some.injEq] at hlookup
    subst hlookup
    split at hsuccess
    · exact hstatus hsuccess
    · exact hsound.complete ⟨stored, hstored, hsuccess⟩

theorem secures_finishWebhook {deliveryId status : String} {error : Option String}
    (hat : At library message thread state)
    (hstatus : status = "success" → AllSent library message state ∧ TakenOver message state) :
    Secures library message thread (fun _ after => At library message thread after)
      (fun _ after => At library message thread after)
      (finishWebhookOf deliveryId status error) state := by
  refine secures_call hat.1 ?_ ?_ ?_
  · intro env before value bridge hbefore hcalm heffect
    cases heffect
    refine hbefore.2.finish fun hsuccess => ?_
    have hdone := hstatus hsuccess
    exact ⟨hdone.1.grow hcalm.grown, hdone.2.grow hcalm.grown⟩
  · intro env before value bridge hbefore _ _ _ _ hsound
    exact ⟨hbefore.1, hsound⟩
  · intro env before failure bridge hbefore _ _ hsound
    exact ⟨hbefore.1, hsound⟩

/-- The takeover that follows the pieces. -/
theorem secures_setManualTakeover {mapping : ConversationMap}
    (hat : At library message thread state) (htarget : IsTarget message mapping)
    (hsent : AllSent library message state) :
    Secures library message thread
      (fun _ after => At library message thread after ∧
        AllSent library message after ∧ TakenOver message after)
      (fun _ after => At library message thread after)
      (setManualTakeover mapping.accountId mapping.conversationId "permanent") state := by
  have hgrown : ∀ bridge : Bridge, Grown bridge
      (bridge.note (.takeover mapping.accountId mapping.conversationId "permanent")) :=
    fun _ _ _ => List.mem_append_left _
  refine secures_call hat.1 ?_ ?_ ?_
  · intro env before value bridge hbefore hcalm heffect
    cases heffect
    have hbeforeSent : AllSent library message before := hsent.grow hcalm.grown
    exact
      { mapsTo := hbefore.2.mapsTo
        stored := hbefore.2.stored
        submitted := fun command hmem => hbefore.2.submitted command (by
          simpa [Bridge.note] using hmem)
        answered := fun id hid piece hpiece answer hanswer =>
          (hbefore.2.answered id hid piece hpiece answer hanswer).grow (hgrown _)
        takenOver := fun _ => hbeforeSent.grow (hgrown _)
        complete := fun hended =>
          ⟨hbeforeSent.grow (hgrown _), (hbefore.2.complete hended).2.grow (hgrown _)⟩ }
  · intro env before value bridge hbefore hcalm _ _ heffect hsound
    cases heffect
    refine ⟨⟨hbefore.1, hsound⟩, (hsent.grow hcalm.grown).grow (hgrown _), ?_⟩
    simp [TakenOver, Bridge.note, htarget.1, htarget.2]
  · intro env before failure bridge hbefore _ _ hsound
    exact ⟨hbefore.1, hsound⟩

theorem secures_conversationMap {remoteConversationId : String}
    (hat : At library message thread state)
    (hid : extractChatwootConversationId library message.payload = some remoteConversationId) :
    Secures library message thread
      (fun mapping after => At library message thread after ∧
        ∀ row, mapping = some row → IsTarget message row)
      (fun _ after => At library message thread after)
      (conversationMapByRemoteGlobal remoteConversationId) state := by
  refine secures_call hat.1 ?_ ?_ ?_
  · intro env before value bridge hbefore _ heffect
    cases heffect
    exact hbefore.2
  · intro env before value bridge hbefore _ _ _ heffect hsound
    cases heffect
    exact ⟨⟨hbefore.1, hsound⟩, hbefore.2.mapsTo remoteConversationId hid⟩
  · intro env before failure bridge hbefore _ _ hsound
    exact ⟨hbefore.1, hsound⟩

theorem secures_messageMaps {remoteMessageId : String} (hat : At library message thread state) :
    Secures library message thread
      (fun existing after => At library message thread after ∧
        (existing ≠ [] → AllSent library message after ∧ TakenOver message after))
      (fun _ after => At library message thread after)
      (messageMapsByRemoteGlobal remoteMessageId) state := by
  refine secures_call hat.1 ?_ ?_ ?_
  · intro env before value bridge hbefore _ heffect
    cases heffect
    exact hbefore.2
  · intro env before value bridge hbefore _ hraised hallowed heffect hsound
    cases heffect
    refine ⟨⟨hbefore.1, hsound⟩, fun hfound => ?_⟩
    have htaken : TakenOver message before := hallowed hraised hfound
    exact ⟨hbefore.2.takenOver htaken, htaken⟩
  · intro env before failure bridge hbefore _ _ hsound
    exact ⟨hbefore.1, hsound⟩

/-- The delivery, read again. -/
theorem secures_getWebhook (hat : At library message thread state)
    (hloads : library.loadsText message.text = some (.obj message.payload)) :
    Secures library message thread
      (fun view after => At library message thread after ∧
        ∀ stored, view = some stored →
          stored.eventName = "message_created" ∧ stored.payload = message.payload)
      (fun _ after => At library message thread after)
      (getWebhook message.deliveryId) state := by
  refine secures_call hat.1 ?_ ?_ ?_
  · intro env before value bridge hbefore _ heffect
    cases heffect
    exact hbefore.2
  · intro env before value bridge hbefore _ _ _ heffect hsound
    cases heffect
    refine ⟨⟨hbefore.1, hsound⟩, fun stored hview => ?_⟩
    obtain ⟨row, hlookup, hname, hpayload⟩ := hbefore.2.stored
    simp only [hlookup, Option.map_some, Option.some.injEq] at hview
    subst hview
    exact ⟨hname, by simp [webhookView, hpayload, hloads, Json.asObject]⟩
  · intro env before failure bridge hbefore _ _ hsound
    exact ⟨hbefore.1, hsound⟩

/-- What a branch leaves behind: it goes on to finish the delivery as a success only when
everything was done. -/
def Handles (library : WebhookLibrary) (message : AgentMessage) (thread : ℕ)
    (handled : Handled) (state : State) : Prop :=
  At library message thread state ∧ ∀ members, handled = .answer members →
    AllSent library message state ∧ TakenOver message state

theorem secures_forwardPieces {remoteMessageId : String} {mapping : ConversationMap}
    (remoteConversationId : String) (hat : At library message thread state)
    (hid : extractChatwootMessageId library message.payload = some remoteMessageId)
    (hids : ((message.pieces library).map (requestId remoteMessageId)).Nodup)
    (hpieces : message.pieces library ≠ []) (htarget : IsTarget message mapping) :
    Secures library message thread
      (fun _ after => At library message thread after ∧
        AllSent library message after ∧ TakenOver message after)
      (fun _ after => At library message thread after)
      (forwardPieces library mapping remoteMessageId remoteConversationId
        (message.pieces library)) state := by
  rw [forwardPieces, Secures, secure_bind]
  refine (secures_sendPieces hid hids htarget (fun _ hpiece => hpiece) hat).mono ?_
    fun _ _ hafter => hafter
  rintro answers middle ⟨hmiddle, hcarried, -⟩
  have hsome : answers.isEmpty = false := by
    have hlength := hcarried.length_eq
    have hpositive := List.length_pos_iff.mpr hpieces
    rw [List.isEmpty_eq_false_iff, ← List.length_pos_iff]
    omega
  rw [hsome, if_neg Bool.false_ne_true, secure_bind]
  refine (peaceful_recordPieces _ _ _ _ thread middle hmiddle).mono ?_
    fun _ _ hafter => hafter.1
  rintro - recorded ⟨hrecorded, hcalm⟩
  split
  · exact hrecorded
  · rename_i hnone
    have hsent : AllSent library message recorded := by
      refine allSent_of_answers (hcarried.imp fun _ _ hpiece => hpiece.grow hcalm.grown) ?_
      intro answer hanswer
      simp only [List.any_eq_true, not_exists, not_and, Bool.not_eq_true', Bool.not_eq_false]
        at hnone
      exact hnone answer hanswer
    rw [secure_bind]
    exact (secures_setManualTakeover hrecorded htarget hsent).mono (fun _ _ hafter => hafter)
      fun _ _ hafter => hafter

theorem secures_handleMessageCreated (hpublic : message.IsPublic library)
    (hpieces : message.pieces library ≠ [])
    (hids : ∀ remoteMessageId ∈ extractChatwootMessageId library message.payload,
      ((message.pieces library).map (requestId remoteMessageId)).Nodup)
    (hat : At library message thread state) (deliveryId : String) :
    Secures library message thread (Handles library message thread)
      (fun _ after => At library message thread after)
      (handleMessageCreated library deliveryId message.payload) state := by
  unfold handleMessageCreated
  simp only [hpublic.outgoing, hpublic.notPrivate, and_self, if_true]
  split
  swap
  · exact hat
  rename_i remoteConversationId remoteMessageId hconversation hmessage
  rw [Secures, secure_bind]
  refine (secures_messageMaps hat).mono ?_ fun _ _ hafter => hafter
  rintro existing found ⟨hfound, hdone⟩
  split
  · rename_i hexisting
    exact ⟨hfound, fun _ _ => hdone hexisting⟩
  rw [secure_bind]
  refine (secures_conversationMap hfound hconversation).mono ?_ fun _ _ hafter => hafter
  rintro mapped looked ⟨hlooked, hmapped⟩
  cases mapped with
  | none => exact hlooked
  | some mapping =>
      have hconfig : Peaceful library message (getConfig (some mapping.accountId)) :=
        peaceful_call trivial
      have hignored : ∀ after, At library message thread after →
          Secures library message thread
            (Handles library message thread)
            (fun _ after => At library message thread after)
            (do
              finishWebhookOf deliveryId "ignored" none
              pure (.finished (skipped "account Chat disabled"))) after := by
        intro after hafter
        rw [Secures, secure_bind]
        refine (secures_finishWebhook hafter (by simp)).mono ?_ fun _ _ hended => hended
        exact fun _ ended hended => ⟨hended, by simp⟩
      dsimp only
      rw [secure_bind]
      refine (hconfig thread looked hlooked).mono ?_ fun _ _ hafter => hafter.1
      rintro config configured ⟨hconfigured, -⟩
      cases config with
      | none => exact hignored configured hconfigured
      | some config =>
          dsimp only
          split
          swap
          · exact hignored configured hconfigured
          cases hfiles : attachments (eventMessage message.payload) with
          | none => exact hconfigured
          | some files =>
              have hsilent := hpublic.silent files hfiles
              rw [orError_some_bind]
              cases haudio : anyAudio library files with
              | none => exact hconfigured
              | some audio =>
                  have hquiet : audio = false := by
                    cases audio with
                    | false => rfl
                    | true => exact absurd haudio hsilent
                  subst hquiet
                  rw [orError_some_bind, if_neg Bool.false_ne_true, secure_bind]
                  have hforward := secures_forwardPieces remoteConversationId hconfigured
                    hmessage (hids remoteMessageId hmessage) hpieces (hmapped mapping rfl)
                  rw [AgentMessage.pieces, hfiles] at hforward
                  refine hforward.mono ?_ fun _ _ hafter => hafter
                  exact fun _ after hafter => ⟨hafter.1, fun _ _ => hafter.2⟩

theorem secures_handleEvent (hpublic : message.IsPublic library)
    (hpieces : message.pieces library ≠ [])
    (hids : ∀ remoteMessageId ∈ extractChatwootMessageId library message.payload,
      ((message.pieces library).map (requestId remoteMessageId)).Nodup)
    (hat : At library message thread state) (deliveryId : String) (platformConfig : ConfigView)
    {view : WebhookView} (hname : view.eventName = "message_created")
    (hpayload : view.payload = message.payload) :
    Secures library message thread (Handles library message thread)
      (fun _ after => At library message thread after)
      (handleEvent library deliveryId platformConfig view) state := by
  rw [handleEvent, Secures, secure_bind]
  refine (peaceful_readEvents _ thread state hat).mono ?_ fun _ _ hafter => hafter.1
  rintro events read ⟨hread, -⟩
  rw [dispatchEvent, if_neg (by simp [hname]), if_neg (by simp [hname]), if_pos hname, hpayload,
    secure_bind]
  refine (secures_handleMessageCreated hpublic hpieces hids hread deliveryId).mono ?_
    fun _ _ hafter => hafter
  rintro handled after ⟨hafter, hdone⟩
  cases handled with
  | finished members => exact ⟨hafter, by simp [withReadCount]⟩
  | answer members => exact ⟨hafter, fun _ _ => hdone members rfl⟩

/-- An attempt, from its start to its end, keeps to the invariant. -/
theorem secures_executeWebhookTask (hpublic : message.IsPublic library)
    (hpieces : message.pieces library ≠ [])
    (hids : ∀ remoteMessageId ∈ extractChatwootMessageId library message.payload,
      ((message.pieces library).map (requestId remoteMessageId)).Nodup)
    (hat : At library message thread state) :
    Secures library message thread (fun _ after => At library message thread after)
      (fun _ after => At library message thread after)
      (executeWebhookTask library message.deliveryId) state := by
  rw [executeWebhookTask, Secures, secure_bind]
  refine (secures_getWebhook hat hpublic.loads).mono ?_ fun _ _ hafter => hafter
  rintro found read ⟨hread, hview⟩
  cases found with
  | none => exact hread
  | some view =>
      have hstored := hview view rfl
      have hconfig : Peaceful library message (getConfig none) := peaceful_call trivial
      dsimp only
      rw [secure_bind]
      refine (hconfig thread read hread).mono ?_ fun _ _ hafter => hafter.1
      rintro config configured ⟨hconfigured, -⟩
      split
      · rw [secure_bind]
        refine (secures_finishWebhook hconfigured (by simp)).mono ?_ fun _ _ hafter => hafter
        exact fun _ _ hended => hended
      · rename_i platformConfig _
        rw [secure_bind, exceptException, secure_tryCatch]
        refine (secures_handleEvent hpublic hpieces hids hconfigured message.deliveryId
          platformConfig hstored.1 hstored.2).mono ?_ ?_
        · rintro handled after ⟨hafter, hdone⟩
          cases handled with
          | finished members => exact hafter
          | answer members =>
              dsimp only
              rw [secure_bind]
              refine (secures_finishWebhook hafter fun _ => hdone members rfl).mono ?_
                fun _ _ hended => hended
              intro _ finished hfinished
              have hready : Peaceful library message
                (call (.setComponentHealth "webhook" "ready" none)) := peaceful_call trivial
              rw [secure_bind]
              exact (hready thread finished hfinished).mono (fun _ _ hended => hended.1)
                fun _ _ hended => hended.1
        · intro failure after hafter
          split
          · exact hafter
          · have herror : Peaceful library message
                (call (.setComponentHealth "webhook" "error"
                  (some (cutText 1000 failure.text)))) := peaceful_call trivial
            rw [secure_bind]
            refine (secures_finishWebhook hafter (by simp)).mono ?_ fun _ _ hended => hended
            intro _ finished hfinished
            rw [secure_bind]
            exact (herror thread finished hfinished).mono (fun _ _ hended => hended.1)
              fun _ _ hended => hended.1

end Attempt

section Attempts

variable {library message}

variable {state : State}

/-- A delivery for which nothing was done is sound. -/
theorem Untouched.sound (huntouched : Untouched library message state) :
    Sound library message state where
  mapsTo := huntouched.mapsTo
  stored := by
    obtain ⟨row, hlookup, hname, hpayload, -⟩ := huntouched.stored
    exact ⟨row, hlookup, hname, hpayload⟩
  submitted command hcommand := by simp [huntouched.log] at hcommand
  answered remoteMessageId hid piece hpiece answer hanswer := by
    simp [huntouched.requests remoteMessageId hid piece hpiece] at hanswer
  takenOver htaken := by simp [TakenOver, huntouched.log] at htaken
  complete := by
    rintro ⟨row, hlookup, hsuccess⟩
    obtain ⟨stored, hstored, -, -, hpending⟩ := huntouched.stored
    rw [hstored, Option.some.injEq] at hlookup
    simp [← hlookup, hpending] at hsuccess

theorem leaves_harmlessly {thread : ℕ} (hsound : Sound library message state)
    (ended : Option (Except Failure Members)) :
    Machine.Harmless (discipline library message) thread state
      ((machine library message).leave thread ended state) := by
  simp only [machine]
  split
  · rename_i hactive
    refine ⟨hsound.of_bridge rfl, fun other hother hactiveOther => ?_⟩
    exact absurd (Option.some.inj (hactiveOther.symm.trans hactive)) hother
  · exact ⟨hsound, fun other _ hactive => ⟨hactive, .refl _⟩⟩

theorem machine_sound (hpublic : message.IsPublic library)
    (hpieces : message.pieces library ≠ [])
    (hids : ∀ remoteMessageId ∈ extractChatwootMessageId library message.payload,
      ((message.pieces library).map (requestId remoteMessageId)).Nodup) :
    (machine library message).Sound (discipline library message) where
  refl _ state hactive := ⟨hactive, .refl _⟩
  trans _ first second third hfirst hsecond hactive := by
    have hmiddle := hfirst hactive
    have hlast := hsecond hmiddle.1
    exact ⟨hlast.1, hmiddle.2.trans hlast.2⟩
  start thread job state next hsound _ hstart := by
    simp only [machine] at hstart
    split at hstart
    · rename_i hfree
      cases hstart
      have hnext : Sound library message
          { state with
            attempts := state.attempts + 1, active := some thread, retryable := false } :=
        hsound.of_bridge rfl
      refine ⟨⟨hnext, fun other _ hactive => ?_⟩, ?_⟩
      · rw [hfree.1] at hactive
        cases hactive
      · refine (secures_executeWebhookTask hpublic hpieces hids ⟨rfl, hnext⟩).mono ?_ ?_
        · exact fun _ after hafter => leaves_harmlessly hafter.2 _
        · exact fun _ after hafter => leaves_harmlessly hafter.2 _
    · cases hstart
  crash thread state hsound _ := leaves_harmlessly hsound none
  outside change state next hsound _ hchange := by
    simp only [machine] at hchange
    split at hchange
    · rename_i hforeign
      cases hchange
      have hcalm : Calm library message state.bridge
          { state.bridge with
            settings := change.settings
            events := change.events
            maps := change.maps
            messages := change.messages
            remote := change.remote
            requests := state.bridge.requests ++ change.requests } :=
        ⟨hforeign.2.1, answerOf_append_others hforeign.2.2 rfl, fun _ _ => Iff.rfl⟩
      exact ⟨hsound.calm hcalm hforeign.1, fun thread hactive => ⟨hactive, hcalm⟩⟩
    · cases hchange

theorem image_mem_pieces {index : ℕ} {url : String}
    (hpiece : Piece.image index url ∈ message.pieces library) :
    (((attachments (eventMessage message.payload)).map fun files =>
      attachmentUrls library files []).getD [])[index]? = some url := by
  simp only [AgentMessage.pieces, piecesOf, List.mem_append, List.mem_map, Piece.image.injEq]
    at hpiece
  rcases hpiece with htext | ⟨entry, hentry, rfl, rfl⟩
  · split at htext
    · simp at htext
    · simp at htext
  · exact List.mk_mem_zipIdx_iff_getElem?.mp hentry

theorem nodup_attachmentUrls (files : List Members) {urls : List String} (hurls : urls.Nodup) :
    (attachmentUrls library files urls).Nodup := by
  fun_induction attachmentUrls library files urls with
  | case1 urls => exact hurls
  | case2 urls attachment rest _ _ ih => exact ih hurls
  | case3 urls attachment rest _ _ url hnew ih =>
      exact ih (List.nodup_append.mpr ⟨hurls, List.nodup_singleton _, by
        intro other hother url' hurl'
        rw [List.mem_singleton.mp hurl']
        rintro rfl
        exact hnew.2 hother⟩)
  | case4 urls attachment rest _ _ _ _ ih => exact ih hurls

theorem index_of_url {index other : ℕ} {url : String}
    (hpiece : Piece.image index url ∈ message.pieces library)
    (hother : Piece.image other url ∈ message.pieces library) : index = other := by
  have hleft := image_mem_pieces hpiece
  have hright := image_mem_pieces hother
  have hnodup : (((attachments (eventMessage message.payload)).map fun files =>
      attachmentUrls library files []).getD []).Nodup := by
    cases attachments (eventMessage message.payload) with
    | none => exact List.nodup_nil
    | some files => exact nodup_attachmentUrls files List.nodup_nil
  obtain ⟨hbound, -⟩ := List.getElem?_eq_some_iff.mp hleft
  exact (List.getElem?_inj hbound hnodup).mp (hleft.trans hright.symm)

theorem Sound.once (hsound : Sound library message state) {left right : Command}
    (hleft : Effect.submitted left ∈ state.bridge.log)
    (hright : Effect.submitted right ∈ state.bridge.log) (hsame : SamePiece left right) :
    left.clientRequestId = right.clientRequestId := by
  obtain ⟨mapping, remoteMessageId, piece, hpiece, hid, rfl⟩ := hsound.submitted left hleft
  obtain ⟨mapping', remoteMessageId', piece', hpiece', hid', rfl⟩ :=
    hsound.submitted right hright
  have hids : remoteMessageId = remoteMessageId' := Option.some.inj (hid.symm.trans hid')
  subst hids
  rw [clientRequestId_pieceCommand, clientRequestId_pieceCommand]
  cases piece with
  | text content =>
      cases piece' with
      | text content' => rfl
      | image index' url' => exact hsame.elim
  | image index url =>
      cases piece' with
      | text content' => exact hsame.elim
      | image index' url' =>
          cases hsame
          rw [index_of_url hpiece hpiece']

/-- A message with a piece, whose request ids are distinct, is forwarded completely and once,
as long as no attempt finds maps of an earlier one that did not get to the takeover. -/
theorem forwarded_of_run {start : State} {turns : List (Turn Unit Env Change)}
    {final : Threads State Op Answer Failure Members} (hpublic : message.IsPublic library)
    (hpieces : message.pieces library ≠ [])
    (hids : ∀ remoteMessageId ∈ extractChatwootMessageId library message.payload,
      ((message.pieces library).map (requestId remoteMessageId)).Nodup)
    (huntouched : Untouched library message start)
    (hrun : Run
      (restrict (ofPartial (machine library message).apply)
        (Machine.Keeps (discipline library message)))
      (Machine.idle start) turns final) :
    Forwarded library message final.state := by
  have hsound : Sound library message final.state :=
    Machine.invariant_of_run (machine_sound hpublic hpieces hids) huntouched.sound hrun
  exact ⟨hsound.complete, fun left right => hsound.once⟩

end Attempts

/-- A text with one image. -/
def samplePayload : Members :=
  [("id", .str "9"), ("message_type", .str "outgoing"), ("content", .str "hi"),
    ("attachments", .arr [.obj [("data_url", .str "u")]]),
    ("conversation", .obj [("id", .str "3")])]

def sampleMessage : AgentMessage := ⟨"d", "m", samplePayload, "a", "c"⟩

def sampleLibrary : WebhookLibrary where
  loads _ := .error true
  decode _ := none
  encode _ := []
  sha256 _ := ""
  hmacSha256 _ _ := ""
  isDigit _ := false
  int _ := .error .notAnInteger
  str := Json.dumps
  decrypt _ := none
  loadsText text := if text = "m" then some (.obj samplePayload) else none
  epochSeconds _ := some none
  isTimestamp _ := true
  urlSuffix _ := some ""

def sampleSettings : Settings := .ofOneMap (some "token") "peer" "3"

def sampleStart : State where
  bridge :=
    { settings := sampleSettings
      events := ⟨[⟨"d", "message_created", "", "m", "pending", none⟩],
        List.pairwise_singleton _ _⟩
      maps := .empty
      messages := .empty
      remote := []
      requests := []
      log := [] }
  attempts := 0
  active := none
  retryable := true

def sampleAnswer (success : Bool) (messagePk : String) : Env :=
  { members := [("success", .bool success),
      ("message", .obj [("message_pk", .str messagePk)])] }

def sampleAttempt (sent : Bool) : List (Turn Unit Env Change) :=
  [.start 0 (), .resume 0 {}, .resume 0 {}, .resume 0 {}, .resume 0 {}, .resume 0 {},
    .resume 0 (sampleAnswer true "p1"), .resume 0 {}, .resume 0 (sampleAnswer sent "p2"),
    .resume 0 {}, .resume 0 {}, .resume 0 {}, .resume 0 {}]

theorem untouched_sampleStart : Untouched sampleLibrary sampleMessage sampleStart where
  stored := ⟨_, rfl, rfl, rfl, rfl⟩
  mapsTo := by decide
  log := rfl
  requests _ _ _ _ := rfl

theorem sampleMessage_isPublic : sampleMessage.IsPublic sampleLibrary where
  loads := rfl
  outgoing := by decide
  notPrivate := by decide
  silent files hfiles := by
    cases hfiles
    decide

/-- The image fails, the retry finds the map of the text, and the delivery ends as a
success. -/
theorem partial_after_retry :
    ∃ final, Run (ofPartial (machine sampleLibrary sampleMessage).apply)
        (Machine.idle sampleStart)
        (sampleAttempt false ++
          [.start 1 (), .resume 1 {}, .resume 1 {}, .resume 1 {}, .resume 1 {}, .resume 1 {}])
        final ∧
      sampleMessage.IsPublic sampleLibrary ∧
      Untouched sampleLibrary sampleMessage sampleStart ∧
      ¬ Forwarded sampleLibrary sampleMessage final.state := by
  refine ⟨_, run_ofPartial_iff.mpr rfl, sampleMessage_isPublic, untouched_sampleStart, ?_⟩
  intro hforwarded
  obtain ⟨answer, ⟨remoteMessageId, mapping, -, -, hcarried⟩, hsucceeded⟩ :=
    (hforwarded.complete ⟨_, rfl, rfl⟩).1 (.image 0 "u") (by decide)
  have hanswer : answer = (sampleAnswer false "p2").members := by
    change _ ∈ [_, _, _, _, _, _] at hcarried
    simp only [pieceCommand, List.mem_cons, List.not_mem_nil, reduceCtorEq, false_or, or_false,
      Effect.carriedOut.injEq, Command.image.injEq, false_and] at hcarried
    exact hcarried.2
  rw [hanswer] at hsucceeded
  exact absurd hsucceeded (by decide)

/-- Both pieces are sent in one attempt, and the message is forwarded. -/
theorem forwarded_in_one_attempt :
    ∃ final, Run
        (restrict (ofPartial (machine sampleLibrary sampleMessage).apply)
          (Machine.Keeps (discipline sampleLibrary sampleMessage)))
        (Machine.idle sampleStart) (sampleAttempt true ++ [.resume 0 {}]) final ∧
      EndedAsSuccess sampleMessage final.state ∧
      Forwarded sampleLibrary sampleMessage final.state := by
  have hruns : ∃ final, Run
        (restrict (ofPartial (machine sampleLibrary sampleMessage).apply)
          (Machine.Keeps (discipline sampleLibrary sampleMessage)))
        (Machine.idle sampleStart) (sampleAttempt true ++ [.resume 0 {}]) final ∧
      EndedAsSuccess sampleMessage final.state := by
    refine ⟨_, .cons ⟨trivial, rfl⟩ (.cons ⟨?_, rfl⟩ (.cons ⟨?_, rfl⟩ (.cons ⟨?_, rfl⟩
      (.cons ⟨?_, rfl⟩ (.cons ⟨?_, rfl⟩ (.cons ⟨?_, rfl⟩ (.cons ⟨?_, rfl⟩ (.cons ⟨?_, rfl⟩
      (.cons ⟨?_, rfl⟩ (.cons ⟨?_, rfl⟩ (.cons ⟨?_, rfl⟩ (.cons ⟨?_, rfl⟩ (.cons ⟨?_, rfl⟩
      (.nil _)))))))))))))), ⟨_, rfl, rfl⟩⟩
    all_goals
      intro op resume hrunning
      cases hrunning
      first
        | exact trivial
        | exact fun _ hfound => absurd rfl hfound
  obtain ⟨final, hrun, hsuccess⟩ := hruns
  refine ⟨final, hrun, hsuccess, forwarded_of_run sampleMessage_isPublic (by decide) ?_
    untouched_sampleStart hrun⟩
  decide

end XianyuAdmin.Chatwoot.ForwardedMessages
