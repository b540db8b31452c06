import XianyuAdmin.Messages.SendsOnce

/-!
# Sends that end truthfully

The row of a request is stored without an id of the platform.  Until the outcome of the
sending is stored, only the call that inserted the row will settle it, and a report of the
message is not recognised.  In runs that respect this, no request goes to the platform
twice, no row is left pending, and every message has one row.
-/

namespace XianyuAdmin.Messages

open XianyuAdmin.Python
open XianyuAdmin.Transition

variable {library : TextLibrary} {state next : SendState}

/-- The call is not interrupted while its row awaits the outcome, no row has the id that the
core returns, and the platform's report of a message that was sent comes when the row of its
request has the id. -/
def sendUndisturbed (state : SendState) : SendLabel → Prop
  | .answers id answer =>
      ∀ messageId, messageId ≠ "" → answer.messageId = some messageId →
        (∀ send ∈ state.sends, send.call ≠ id → ¬send.Carries messageId) ∧
          ∀ row ∈ state.store.messages.rows, row.messageId ≠ some messageId
  | .interrupts id =>
      ∀ call, state.calls id = some call → call.phase.awaitsOutcome = false
  | .reports report _ =>
      ∀ send ∈ state.sends, ∀ messageId, send.Carries messageId →
        report.messageId = some messageId →
          ∃ row ∈ state.store.messages.rows,
            row.clientRequestId = some send.clientRequestId ∧ row.messageId = some messageId
  | _ => True

structure SendsSettled (state : SendState) : Prop where
  owned : ∀ row ∈ state.store.messages.rows, row.isPending = true →
    ∃ id call, state.calls id = some call ∧ call.phase.awaitsOutcome = true ∧
      row.clientRequestId = some call.clientRequestId
  ids : ∀ send ∈ state.sends, ∀ messageId, send.Carries messageId →
    ∀ row ∈ state.store.messages.rows, row.messageId = some messageId →
      row.clientRequestId = some send.clientRequestId
  apart : ∀ left ∈ state.sends, ∀ right ∈ state.sends, ∀ messageId,
    left.Carries messageId → right.Carries messageId → left.call = right.call
  named : ∀ send ∈ state.sends, send.platformId ≠ some ""
  sending : ∀ id call, state.calls id = some call → call.phase = .sending →
    ∃ send ∈ state.sends, send.call = id
  returned : ∀ id call answer, state.calls id = some call →
    call.phase = .completes answer → ∀ messageId, answer.messageId = some messageId →
      ∃ send ∈ state.sends, send.call = id ∧ send.returnedId = some messageId
  accepted : ∀ id call, state.calls id = some call →
    call.phase ≠ .raised .completionConflict

variable {id : ℕ} {call : SendCall} {messageId : String}

theorem SendsSettled.setPhase (hsettled : SendsSettled state) {phase : SendPhase}
    (hcall : state.calls id = some call)
    (howned : ∀ row ∈ state.store.messages.rows, row.isPending = true →
      row.clientRequestId = some call.clientRequestId →
      call.phase.awaitsOutcome = true → phase.awaitsOutcome = true)
    (hsending : phase = .sending → ∃ send ∈ state.sends, send.call = id)
    (hreturned : ∀ answer, phase = .completes answer → ∀ messageId,
      answer.messageId = some messageId →
      ∃ send ∈ state.sends, send.call = id ∧ send.returnedId = some messageId)
    (haccepted : phase ≠ .raised .completionConflict) :
    SendsSettled (state.setPhase id call phase) where
  owned row hrow hpending := by
    obtain ⟨owner, old, hold, hawaits, hrequest⟩ := hsettled.owned row hrow hpending
    obtain ⟨found, hfound, hfoundRequest, -, hphase⟩ := call_in_setPhase phase hcall hold
    refine ⟨owner, found, hfound, ?_, hfoundRequest ▸ hrequest⟩
    rcases hphase with ⟨-, rfl, rfl⟩ | ⟨-, rfl⟩
    · exact howned row hrow hpending hrequest hawaits
    · exact hawaits
  ids := hsettled.ids
  apart := hsettled.apart
  named := hsettled.named
  sending other found hfound hphase := by
    obtain ⟨old, hold, -, -, ⟨rfl, rfl⟩ | ⟨-, rfl⟩⟩ := call_of_setPhase hcall hfound
    · exact hsending hphase
    · exact hsettled.sending other found hold hphase
  returned other found answer hfound hphase := by
    obtain ⟨old, hold, -, -, ⟨rfl, rfl⟩ | ⟨-, rfl⟩⟩ := call_of_setPhase hcall hfound
    · exact hreturned answer hphase
    · exact hsettled.returned other found answer hold hphase
  accepted other found hfound := by
    obtain ⟨old, hold, -, -, ⟨rfl, rfl⟩ | ⟨-, rfl⟩⟩ := call_of_setPhase hcall hfound
    · exact haccepted
    · exact hsettled.accepted other found hold

theorem SendsSettled.withStore (hsettled : SendsSettled state) {store : MessageStore}
    {Gains : Message → String → Prop}
    (hfollows : RowsFollow state.store store (fun _ => False) Gains)
    (hgains : ∀ send ∈ state.sends, ∀ messageId, send.Carries messageId →
      ∀ later, Gains later messageId →
        later.clientRequestId = some send.clientRequestId) :
    SendsSettled { state with store := store } where
  owned later hlater hpending := by
    obtain hstarts | ⟨row, hrow, hrowPending, hrequest⟩ :=
      hfollows.pending later hlater hpending
    · exact hstarts.elim
    · rw [← hrequest]
      exact hsettled.owned row hrow hrowPending
  ids send hsend messageId hcarries later hlater hheld := by
    obtain hgained | ⟨row, hrow, hrowHeld, hrequest⟩ :=
      hfollows.ids later hlater messageId hheld
    · exact hgains send hsend messageId hcarries later hgained
    · rw [← hrequest]
      exact hsettled.ids send hsend messageId hcarries row hrow hrowHeld
  apart := hsettled.apart
  named := hsettled.named
  sending := hsettled.sending
  returned := hsettled.returned
  accepted := hsettled.accepted

theorem SendsSettled.mapSend (hsettled : SendsSettled state)
    {change : PlatformSend → PlatformSend} (Gains : String → Prop)
    (hcall : ∀ send, (change send).call = send.call)
    (hrequest : ∀ send, (change send).clientRequestId = send.clientRequestId)
    (hcarries : ∀ send messageId, (change send).Carries messageId →
      send.Carries messageId ∨ Gains messageId) (hfree : ∀ messageId, Gains messageId →
      (∀ send ∈ state.sends, send.call ≠ id → ¬send.Carries messageId) ∧
        ∀ row ∈ state.store.messages.rows, row.messageId ≠ some messageId)
    (hnamed : ∀ send, send.platformId ≠ some "" → (change send).platformId ≠ some "")
    (hreturned : ∀ call answer, state.calls id = some call → call.phase = .completes answer →
      ∀ send, (change send).returnedId = send.returnedId) :
    SendsSettled (state.mapSend id change) := by
  have hold : ∀ send ∈ (state.mapSend id change).sends, ∃ old ∈ state.sends,
      send.call = old.call ∧ send.clientRequestId = old.clientRequestId ∧
        (old.call = id ∧ send = change old ∨ old.call ≠ id ∧ send = old) := by
    intro send hsend
    obtain ⟨old, hold, rfl⟩ := List.mem_map.mp hsend
    by_cases hid : old.call = id
    · rw [if_pos hid]
      exact ⟨old, hold, hcall old, hrequest old, .inl ⟨hid, rfl⟩⟩
    · rw [if_neg hid]
      exact ⟨old, hold, rfl, rfl, .inr ⟨hid, rfl⟩⟩
  have hnew : ∀ old ∈ state.sends, ∃ send ∈ (state.mapSend id change).sends,
      send.call = old.call ∧
        (old.call = id ∧ send = change old ∨ old.call ≠ id ∧ send = old) := by
    intro old hold
    refine ⟨_, List.mem_map_of_mem hold, ?_⟩
    by_cases hid : old.call = id
    · rw [if_pos hid]
      exact ⟨hcall old, .inl ⟨hid, rfl⟩⟩
    · rw [if_neg hid]
      exact ⟨rfl, .inr ⟨hid, rfl⟩⟩
  refine ⟨hsettled.owned, fun send hsend messageId hcarried row hrow hheld => ?_,
    fun left hleft right hright messageId hleftCarries hrightCarries => ?_,
    fun send hsend => ?_, fun other call hother hphase => ?_,
    fun other call answer hother hphase messageId hid => ?_, hsettled.accepted⟩
  · obtain ⟨old, hstored, -, hsame, ⟨-, rfl⟩ | ⟨-, rfl⟩⟩ := hold send hsend
    · rw [hsame]
      rcases hcarries old messageId hcarried with hcarried | hgained
      · exact hsettled.ids old hstored messageId hcarried row hrow hheld
      · exact absurd hheld ((hfree messageId hgained).2 row hrow)
    · exact hsettled.ids send hstored messageId hcarried row hrow hheld
  · obtain ⟨first, hfirst, hfirstCall, -, hfirstIs⟩ := hold left hleft
    obtain ⟨second, hsecond, hsecondCall, -, hsecondIs⟩ := hold right hright
    rw [hfirstCall, hsecondCall]
    rcases hfirstIs with ⟨hfirstId, rfl⟩ | ⟨hfirstId, rfl⟩
    · rcases hsecondIs with ⟨hsecondId, -⟩ | ⟨hsecondId, rfl⟩
      · exact hfirstId.trans hsecondId.symm
      · rcases hcarries first messageId hleftCarries with hcarried | hgained
        · exact hsettled.apart first hfirst right hsecond messageId hcarried hrightCarries
        · exact absurd hrightCarries ((hfree messageId hgained).1 right hsecond hsecondId)
    · rcases hsecondIs with ⟨-, rfl⟩ | ⟨-, rfl⟩
      · rcases hcarries second messageId hrightCarries with hcarried | hgained
        · exact hsettled.apart left hfirst second hsecond messageId hleftCarries hcarried
        · exact absurd hleftCarries ((hfree messageId hgained).1 left hfirst hfirstId)
      · exact hsettled.apart left hfirst right hsecond messageId hleftCarries hrightCarries
  · obtain ⟨old, hstored, -, -, ⟨-, rfl⟩ | ⟨-, rfl⟩⟩ := hold send hsend
    · exact hnamed old (hsettled.named old hstored)
    · exact hsettled.named send hstored
  · obtain ⟨old, hstored, rfl⟩ := hsettled.sending other call hother hphase
    obtain ⟨send, hsend, hsame, -⟩ := hnew old hstored
    exact ⟨send, hsend, hsame⟩
  · obtain ⟨old, hstored, rfl, hheld⟩ :=
      hsettled.returned other call answer hother hphase messageId hid
    obtain ⟨send, hsend, hsame, ⟨hcalled, rfl⟩ | ⟨-, rfl⟩⟩ := hnew old hstored
    · rw [hcalled] at hother
      exact ⟨change old, hsend, hsame, (hreturned call answer hother hphase old).trans hheld⟩
    · exact ⟨send, hsend, rfl, hheld⟩

theorem SendsSettled.insert (hsettled : SendsSettled state) {peerUserId : String}
    {surroundings : Surroundings} {store : MessageStore} {message : Message}
    (hcall : state.calls id = some call) (hphase : call.phase = .inserts peerUserId)
    (hbegin : call.outbound.beginIn state.store (call.request peerUserId) surroundings =
      some { store := store, message := some message, created := true }) :
    SendsSettled ({ state with store := store }.setCall id
      { call with created := true, phase := .begun (some message) true }) := by
  have hfollows := follows_of_beginIn hbegin
  refine ⟨fun later hlater hpending => ?_, fun send hsend messageId hcarries later hlater hheld =>
    ?_, hsettled.apart, hsettled.named, fun other found hfound hother => ?_,
    fun other found answer hfound hother => ?_, fun other found hfound => ?_⟩
  · obtain hstarts | ⟨row, hrow, hrowPending, hrequest⟩ :=
      hfollows.pending later hlater hpending
    · exact ⟨id, { call with created := true, phase := .begun (some message) true },
        by simp, rfl, hstarts⟩
    · obtain ⟨owner, old, hold, hawaits, howned⟩ := hsettled.owned row hrow hrowPending
      refine ⟨owner, old, ?_, hawaits, hrequest ▸ howned⟩
      rw [calls_setCall, if_neg]
      · exact hold
      · intro hid
        rw [hid, hcall] at hold
        cases hold
        rw [hphase] at hawaits
        cases hawaits
  · obtain hgained | ⟨row, hrow, hrowHeld, hrequest⟩ :=
      hfollows.ids later hlater messageId hheld
    · exact hgained.elim
    · rw [← hrequest]
      exact hsettled.ids send hsend messageId hcarries row hrow hrowHeld
  · rw [calls_setCall] at hfound
    split at hfound
    · cases hfound
      cases hother
    · exact hsettled.sending other found hfound hother
  · rw [calls_setCall] at hfound
    split at hfound
    · cases hfound
      cases hother
    · exact hsettled.returned other found answer hfound hother
  · rw [calls_setCall] at hfound
    split at hfound
    · cases hfound
      simp
    · exact hsettled.accepted other found hfound

theorem SendsSettled.setCall (hsettled : SendsSettled state) (hnew : state.calls id = none)
    (hphase : call.phase = .looks ∨ ∃ peerUserId, call.phase = .reads peerUserId) :
    SendsSettled (state.setCall id call) where
  owned row hrow hpending := by
    obtain ⟨owner, old, hold, hrest⟩ := hsettled.owned row hrow hpending
    refine ⟨owner, old, ?_, hrest⟩
    rw [calls_setCall, if_neg]
    · exact hold
    · intro hid
      rw [hid, hnew] at hold
      cases hold
  ids := hsettled.ids
  apart := hsettled.apart
  named := hsettled.named
  sending other found hfound hother := by
    rw [calls_setCall] at hfound
    split at hfound
    · cases hfound
      rcases hphase with hlooks | ⟨peerUserId, hreads⟩ <;> simp_all
    · exact hsettled.sending other found hfound hother
  returned other found answer hfound hother := by
    rw [calls_setCall] at hfound
    split at hfound
    · cases hfound
      rcases hphase with hlooks | ⟨peerUserId, hreads⟩ <;> simp_all
    · exact hsettled.returned other found answer hfound hother
  accepted other found hfound := by
    rw [calls_setCall] at hfound
    split at hfound
    · cases hfound
      rcases hphase with hlooks | ⟨peerUserId, hreads⟩ <;> simp_all
    · exact hsettled.accepted other found hfound

/-- A call comes to the core. -/
theorem SendsSettled.send (hsettled : SendsSettled state) (hcall : state.calls id = some call) :
    SendsSettled (state.send id call true) := by
  let sent : PlatformSend := { call := id, clientRequestId := call.clientRequestId }
  have hnone : ∀ messageId, ¬sent.Carries messageId := by
    intro messageId hcarries
    simp [PlatformSend.Carries, sent] at hcarries
  have hold : ∀ send ∈ state.sends ++ [sent], ∀ messageId, send.Carries messageId →
      send ∈ state.sends := by
    intro send hsend messageId hcarries
    rcases List.mem_append.mp hsend with hold | hnew
    · exact hold
    · rw [List.mem_singleton.mp hnew] at hcarries
      exact absurd hcarries (hnone messageId)
  have happended : SendsSettled { state with sends := state.sends ++ [sent] } := by
    refine ⟨hsettled.owned, fun send hsend messageId hcarries => ?_,
      fun left hleft right hright messageId hleftCarries hrightCarries => ?_,
      fun send hsend => ?_, fun other found hfound hphase => ?_,
      fun other found answer hfound hphase messageId hid => ?_, hsettled.accepted⟩
    · exact hsettled.ids send (hold send hsend messageId hcarries) messageId hcarries
    · exact hsettled.apart left (hold left hleft messageId hleftCarries) right
        (hold right hright messageId hrightCarries) messageId hleftCarries hrightCarries
    · rcases List.mem_append.mp hsend with hstored | hnew
      · exact hsettled.named send hstored
      · rw [List.mem_singleton.mp hnew]
        simp [sent]
    · obtain ⟨send, hsend, hsame⟩ := hsettled.sending other found hfound hphase
      exact ⟨send, List.mem_append_left _ hsend, hsame⟩
    · obtain ⟨send, hsend, hsame⟩ :=
        hsettled.returned other found answer hfound hphase messageId hid
      exact ⟨send, List.mem_append_left _ hsend, hsame⟩
  have hsent : ∃ send ∈ state.sends ++ [sent], send.call = id :=
    ⟨sent, List.mem_append_right _ (List.mem_singleton.mpr rfl), rfl⟩
  exact happended.setPhase hcall (fun _ _ _ _ _ => rfl) (fun _ => hsent)
    (fun _ h => by cases h) (by simp)

theorem exists_send_of_returned (hsettled : SendsSettled state) (honce : SendsOnce state)
    {answer : CoreAnswer} (hcall : state.calls id = some call)
    (hphase : call.phase = .completes answer) (hid : messageId ≠ "")
    (hreturned : answer.messageId = some messageId) :
    ∃ send ∈ state.sends, send.call = id ∧ send.Carries messageId ∧
      send.clientRequestId = call.clientRequestId := by
  obtain ⟨send, hsend, hsame, hheld⟩ :=
    hsettled.returned id call answer hcall hphase messageId hreturned
  obtain ⟨found, hfound, -, hrequest, -⟩ := honce.sent send hsend
  rw [hsame, hcall] at hfound
  cases hfound
  exact ⟨send, hsend, hsame, ⟨hid, .inr hheld⟩, hrequest.symm⟩

theorem SendsSettled.complete (hsettled : SendsSettled state) (honce : SendsOnce state)
    {answer : CoreAnswer} (now : ℤ) (hcall : state.calls id = some call)
    (hphase : call.phase = .completes answer) :
    SendsSettled (state.complete id call answer now) := by
  have hfree : ∀ messageId, messageId ≠ "" → answer.messageId = some messageId →
      ∀ row ∈ state.store.messages.rows, row.messageId = some messageId →
        row.clientRequestId = some call.clientRequestId := by
    intro messageId hid hreturned row hrow hheld
    obtain ⟨send, hsend, -, hcarries, hrequest⟩ :=
      exists_send_of_returned hsettled honce hcall hphase hid hreturned
    rw [← hrequest]
    exact hsettled.ids send hsend messageId hcarries row hrow hheld
  obtain ⟨completed, hcomplete⟩ := exists_completeIn now hfree
  obtain ⟨hfollows, hdone⟩ := follows_of_completeIn hcomplete
  have hstored : SendsSettled { state with store := completed.store } := by
    refine hsettled.withStore hfollows ?_
    rintro send hsend messageId hcarries later ⟨hlater, hid, hreturned⟩
    obtain ⟨own, hown, hownCall, hownCarries, -⟩ :=
      exists_send_of_returned hsettled honce hcall hphase hid hreturned
    have hsame := hsettled.apart send hsend own hown messageId hcarries hownCarries
    obtain ⟨found, hfound, -, hrequest, -⟩ := honce.sent send hsend
    rw [hsame, hownCall, hcall] at hfound
    cases hfound
    rw [hlater, hrequest]
  have hcompleted : state.complete id call answer now =
      SendState.setPhase { state with store := completed.store } id call
        (.completed answer completed.message) := by
    unfold SendState.complete
    rw [hcomplete]
  rw [hcompleted]
  refine hstored.setPhase hcall (fun row hrow hpending hrequest _ => ?_) (fun h => by cases h)
    (fun _ h => by cases h) (by simp)
  rw [hdone row hrow hrequest] at hpending
  cases hpending

theorem SendsSettled.answer (hsettled : SendsSettled state) {answer : CoreAnswer}
    (hcall : state.calls id = some call) (hphase : call.phase = .sending)
    (hallowed : sendUndisturbed state (.answers id answer)) :
    SendsSettled (state.answer id call answer) := by
  have hcarries : ∀ (send : PlatformSend) messageId,
      ({ send with returnedId := answer.messageId } : PlatformSend).Carries messageId →
        send.Carries messageId ∨ messageId ≠ "" ∧ answer.messageId = some messageId := by
    rintro send messageId ⟨hid, hplatform | hreturned⟩
    · exact .inl ⟨hid, .inl hplatform⟩
    · exact .inr ⟨hid, hreturned⟩
  have hmapped : SendsSettled (state.mapSend id fun send =>
      { send with returnedId := answer.messageId }) := by
    refine hsettled.mapSend (fun messageId => messageId ≠ "" ∧ answer.messageId = some messageId)
      (fun _ => rfl) (fun _ => rfl) hcarries
      (fun messageId hgained => hallowed messageId hgained.1 hgained.2) (fun _ hnamed => hnamed)
      fun found other hfound hother => ?_
    rw [hcall] at hfound
    cases hfound
    rw [hphase] at hother
    cases hother
  obtain ⟨send, hsend, rfl⟩ := hsettled.sending id call hcall hphase
  have hanswered : { send with returnedId := answer.messageId } ∈
      (state.mapSend send.call fun send => { send with returnedId := answer.messageId }).sends :=
    List.mem_map.mpr ⟨send, hsend, if_pos rfl⟩
  refine hmapped.setPhase hcall (fun _ _ _ _ _ => rfl) (fun h => by cases h)
    (fun given hgiven messageId hid => ?_) (by simp)
  cases hgiven
  exact ⟨_, hanswered, rfl, hid⟩

theorem SendsSettled.accept (hsettled : SendsSettled state) (id : ℕ)
    (hfresh : state.isFresh messageId = true) :
    SendsSettled (state.mapSend id fun send =>
      { send with platformId := send.platformId.or (some messageId) }) := by
  have hfreshAll : (messageId ≠ "" ∧ ∀ send ∈ state.sends, ¬send.Carries messageId) ∧
      ∀ row ∈ state.store.messages.rows, row.messageId ≠ some messageId := by
    simpa [SendState.isFresh] using hfresh
  obtain ⟨⟨hne, hsends⟩, hrows⟩ := hfreshAll
  refine hsettled.mapSend (fun other => other = messageId) (fun _ => rfl) (fun _ => rfl)
    (fun send other hcarries => ?_) (fun other hgained => ?_) (fun send hnamed => ?_)
    fun _ _ _ _ _ => rfl
  · obtain ⟨hid, hplatform | hreturned⟩ := hcarries
    · rcases Option.or_eq_some_iff.mp hplatform with hheld | ⟨-, hnew⟩
      · exact .inl ⟨hid, .inl hheld⟩
      · exact .inr (Option.some.inj hnew).symm
    · exact .inl ⟨hid, .inr hreturned⟩
  · rw [hgained]
    exact ⟨fun send hsend _ => hsends send hsend, hrows⟩
  · intro hempty
    rcases Option.or_eq_some_iff.mp hempty with hheld | ⟨-, hnew⟩
    · exact hnamed hheld
    · exact hne (Option.some.inj hnew)

theorem SendsSettled.step (hsettled : SendsSettled state) (honce : SendsOnce state)
    {label : SendLabel}
    (hstep : restrict (sendStep library) sendUndisturbed state label next) :
    SendsSettled next := by
  obtain ⟨hallowed, htaken⟩ := hstep
  cases sendEffect_of_step htaken with
  | opens _ id call hnew hfits hcreated hphase => exact hsettled.setCall hnew hphase
  | moves _ id call phase hcall hmoves =>
      refine hsettled.setPhase hcall (fun _ _ _ _ => hmoves.awaits) (fun hsending => ?_)
        (fun answer hanswer messageId hid => ?_) hmoves.accepted
      · exact absurd hsending hmoves.rests
      · rw [hmoves.answer answer hanswer] at hid
        cases hid
  | inserts _ id call peerUserId surroundings store message hcall hphase hbegin =>
      exact hsettled.insert hcall hphase hbegin
  | sends _ id call hcall hphase => exact hsettled.send hcall
  | answers id call answer hcall hphase => exact hsettled.answer hcall hphase hallowed
  | completes _ id call answer now hcall hphase =>
      exact hsettled.complete honce now hcall hphase
  | interrupts id call hcall =>
      refine hsettled.setPhase hcall (fun _ _ _ _ hawaits => ?_) (fun h => by cases h)
        (fun _ h => by cases h) (by simp)
      rw [hallowed call hcall] at hawaits
      cases hawaits
  | accepts id messageId hfresh => exact hsettled.accept id hfresh
  | reports report surroundings recorded hrecord =>
      refine hsettled.withStore (follows_of_recordMessage hrecord)
        fun send hsend messageId hcarries later hnew => ?_
      obtain ⟨row, hrow, -, hheld⟩ := hallowed send hsend messageId hcarries hnew.1
      exact absurd hheld (hnew.2 hcarries.1 row hrow)
  | changes store =>
      have hfollows : RowsFollow state.store { store with messages := state.store.messages }
          (fun _ => False) fun _ _ => False := .of_rows rfl
      exact hsettled.withStore hfollows fun _ _ _ _ _ h => h.elim

structure EndsTruthfully (state : SendState) : Prop where
  once : (state.sends.map PlatformSend.clientRequestId).Nodup
  completes : ∀ id call, state.calls id = some call →
    call.phase ≠ .raised .completionConflict
  settled : ∀ row ∈ state.store.messages.rows, ∀ request,
    row.clientRequestId = some request →
    (∀ id call, state.calls id = some call → call.clientRequestId = request →
      call.phase.isOpen = false) →
    row.isPending = false
  oneRow : ∀ send ∈ state.sends, ∀ messageId, send.platformId = some messageId →
    ∃! row, row ∈ state.store.messages.rows ∧
      (row.clientRequestId = some send.clientRequestId ∨ row.messageId = some messageId)

theorem SendsSettled.oneRow (hsettled : SendsSettled state) (honce : SendsOnce state)
    {send : PlatformSend} (hsend : send ∈ state.sends)
    (hplatform : send.platformId = some messageId) :
    ∃! row, row ∈ state.store.messages.rows ∧
      (row.clientRequestId = some send.clientRequestId ∨ row.messageId = some messageId) := by
  have hid : messageId ≠ "" := by
    rintro rfl
    exact hsettled.named send hsend hplatform
  obtain ⟨call, hcall, hcreated, hrequest, -⟩ := honce.sent send hsend
  obtain ⟨row, hrow, hrowRequest⟩ := honce.stored send.call call hcall hcreated
  rw [hrequest] at hrowRequest
  refine ⟨row, ⟨hrow, .inl hrowRequest⟩, ?_⟩
  rintro other ⟨hother, hstands⟩
  have hotherRequest : other.clientRequestId = some send.clientRequestId :=
    hstands.elim (fun hsame => hsame)
      (hsettled.ids send hsend messageId ⟨hid, .inl hplatform⟩ other hother)
  exact Table.eq_of_key hother hrow (clientRequestId_mem_messageKeys.mpr hotherRequest)
    (clientRequestId_mem_messageKeys.mpr hrowRequest)

theorem SendPhase.isOpen_of_awaitsOutcome {phase : SendPhase}
    (hawaits : phase.awaitsOutcome = true) : phase.isOpen = true := by
  cases phase <;> first | rfl | cases hawaits

theorem SendsSettled.endsTruthfully (hsettled : SendsSettled state)
    (honce : SendsOnce state) : EndsTruthfully state where
  once := honce.nodup
  completes := hsettled.accepted
  settled := by
    intro row hrow request hrequest hended
    by_contra hpending
    obtain ⟨id, call, hcall, hawaits, howned⟩ :=
      hsettled.owned row hrow (Bool.eq_true_of_not_eq_false hpending)
    have hsame : call.clientRequestId = request := by
      rw [hrequest] at howned
      exact (Option.some.inj howned).symm
    have hclosed := hended id call hcall hsame
    rw [SendPhase.isOpen_of_awaitsOutcome hawaits] at hclosed
    cases hclosed
  oneRow := fun _ hsend _ hplatform => hsettled.oneRow honce hsend hplatform

theorem sendsSettled_initial (store : MessageStore) : SendsSettled (.initial store) where
  owned _ hrow := by cases hrow
  ids _ hsend := by cases hsend
  apart _ hsend := by cases hsend
  named _ hsend := by cases hsend
  sending _ _ hcall := by cases hcall
  returned _ _ _ hcall := by cases hcall
  accepted _ _ hcall := by cases hcall

/-- Whatever calls, processes, the platform and its reports do: the sends end truthfully, if
no call is interrupted before it has stored its outcome, and no message is reported before
its row has its id. -/
theorem sends_end_truthfully {start : MessageStore} {labels : List SendLabel}
    {final : SendState}
    (hrun : Run (restrict (sendStep library) sendUndisturbed) (.initial start) labels final) :
    EndsTruthfully final := by
  have hboth := hrun.invariant (fun state => SendsOnce state ∧ SendsSettled state)
    (fun _ _ _ hstate hstep =>
      ⟨hstate.1.step hstep.2, hstate.2.step hstate.1 hstep⟩)
    ⟨sendsOnce_initial start, sendsSettled_initial start⟩
  exact hboth.2.endsTruthfully hboth.1

def chatStore : MessageStore :=
  { MessageStore.empty with
    conversations :=
      Function.update (fun _ => none) "chat" (some { peerUserId := some "buyer" }) }

def echo : MessageReport where
  conversationId := "chat"
  direction := "outbound"
  messageType := "text"
  content := "好的"
  messageId := some "m-1"
  sendSuccess := some true
  createdAtMs := some 1700000000400

def echoLibrary : TextLibrary :=
  tabulated
    [("chat\x1foutbound\x1ftext\x1f好的\x1fbuyer\x1f1700000000400",
        "7a04d0e4c91a98d4e9a0b89cca0de6ceecfeed72a5122fafa4057bcca6208d63")]

def echoSurroundings (messagePk : String) : Surroundings where
  now := 1700000000500
  messagePk := messagePk
  enabledUsers := []

def acceptedLabels : List SendLabel :=
  [.begins 0 "chat" "request-1" (.text "buyer" "好的"), .reads 0,
    .inserts 0 (echoSurroundings "row-1"), .resumes 0, .sends 0 true, .accepts 0 "m-1"]

def acknowledged : CoreAnswer where
  success := true
  messageId := some "m-1"

/-- The acknowledgement comes before the echo. -/
theorem acknowledged_send_ends_truthfully :
    ∃ final, EndsTruthfully final ∧
      final.store.messages.rows.map Message.messageId = [some "m-1"] ∧
      final.store.messages.rows.map Message.sendStatus = [some .sent] := by
  refine ⟨_, sends_end_truthfully
    (.cons ⟨trivial, rfl⟩ (.cons ⟨trivial, rfl⟩ (.cons ⟨trivial, rfl⟩ (.cons ⟨trivial, rfl⟩
      (.cons ⟨trivial, rfl⟩ (.cons ⟨trivial, rfl⟩ (.cons ⟨?_, rfl⟩ (.cons ⟨trivial, rfl⟩
        (.cons ⟨trivial, rfl⟩ (.cons ⟨?_, rfl⟩ (.nil _)))))))))) :
      Run (restrict (sendStep echoLibrary) sendUndisturbed) (.initial chatStore)
        (acceptedLabels ++ [.answers 0 acknowledged, .completes 0 1700000000600, .resumes 0,
          .reports echo (echoSurroundings "row-2")]) _), ?_, ?_⟩
  · intro messageId hid hreturned
    constructor
    · intro send hsend hother
      rw [List.mem_singleton.mp hsend] at hother
      exact absurd rfl hother
    · intro row hrow
      rw [List.mem_singleton.mp hrow]
      nofun
  · intro send hsend messageId hcarries hgiven
    rw [List.mem_singleton.mp hsend]
    exact ⟨_, List.mem_singleton.mpr rfl, rfl, hgiven⟩
  · rfl
  · rfl

/-- The echo overtakes the acknowledgement: it is stored as a message of its own, and the
completion fails. -/
theorem echo_overtakes_acknowledgement :
    ¬ ∀ (library : TextLibrary) (start : MessageStore) (labels : List SendLabel)
      (final : SendState), Run (sendStep library) (.initial start) labels final →
        EndsTruthfully final := by
  intro hclaim
  have hends := hclaim echoLibrary chatStore
    (acceptedLabels ++ [.reports echo (echoSurroundings "row-2"), .answers 0 acknowledged,
      .completes 0 1700000000600]) _ (run_ofPartial_iff.mpr rfl)
  exact hends.completes 0 _ rfl rfl

end XianyuAdmin.Messages
