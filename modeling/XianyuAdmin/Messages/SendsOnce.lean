import XianyuAdmin.Messages.OutboundRows

/-!
# What a request sends

A step lets one call go on, or changes the store, or tells something of a message that was
sent.  Whatever the steps are, one call inserts the row of a request, and only this call
sends it, once.
-/

namespace XianyuAdmin.Messages

open XianyuAdmin.Python
open XianyuAdmin.Transition

variable {library : TextLibrary} {state next : SendState}

/-- The call has not come to the core. -/
@[simp]
def SendPhase.beforeSend : SendPhase → Bool
  | .looks | .reads _ | .inserts _ | .begun _ _ | .announces => true
  | _ => false

@[simp]
def SendPhase.awaitsOutcome : SendPhase → Bool
  | .begun (some _) true | .announces | .sending | .completes _ => true
  | _ => false

/-- The value of `created` in a phase. -/
@[simp]
def SendCall.Fits (call : SendCall) : Prop :=
  match call.phase with
  | .looks | .reads _ | .inserts _ => call.created = false
  | .begun _ created => call.created = created
  | .announces | .sending | .completes _ | .completed _ _ => call.created = true
  | .returned _ | .raised _ => True

structure Moves (call : SendCall) (phase : SendPhase) : Prop where
  fits : call.Fits → ({ call with phase := phase } : SendCall).Fits
  late : call.phase.beforeSend = false → phase.beforeSend = false
  awaits : call.phase.awaitsOutcome = true → phase.awaitsOutcome = true
  answer : ∀ answer, phase = .completes answer → answer.messageId = none
  rests : phase ≠ .sending
  accepted : phase ≠ .raised .completionConflict

variable {call : SendCall} {peerUserId : String} {id : ℕ}

theorem moves_afterLook (hphase : call.phase = .looks) (conversation : Option Conversation) :
    Moves call (Outbound.afterLook conversation) := by
  have hcases : (∃ result, Outbound.afterLook conversation = .returned result) ∨
      ∃ peerUserId, Outbound.afterLook conversation = .reads peerUserId := by
    unfold Outbound.afterLook
    split
    · exact .inl ⟨_, rfl⟩
    · dsimp only
      split
      · exact .inl ⟨_, rfl⟩
      · exact .inr ⟨_, rfl⟩
  rcases hcases with ⟨result, hafter⟩ | ⟨peerUserId, hafter⟩
  · rw [hafter]
    constructor <;> simp [hphase]
  · rw [hafter]
    constructor <;> simp [hphase]

theorem moves_afterRead (hphase : call.phase = .reads peerUserId) (store : MessageStore) :
    Moves call (call.afterRead store peerUserId) := by
  unfold SendCall.afterRead
  split
  · constructor <;> simp [hphase]
  · split
    · constructor <;> simp [hphase]
    · constructor <;> simp [hphase]

theorem moves_afterBegin {pending : Option Message} {created : Bool}
    (hphase : call.phase = .begun pending created) :
    Moves call (call.outbound.afterBegin pending created) := by
  unfold Outbound.afterBegin
  split
  · constructor <;> simp [hphase]
  · constructor <;> simp [hphase]
  · constructor <;> simp [hphase]

theorem moves_afterComplete {answer : CoreAnswer} {message : Option Message}
    (hphase : call.phase = .completed answer message) :
    Moves call (Outbound.afterComplete answer message) := by
  unfold Outbound.afterComplete
  constructor <;> simp [hphase]

theorem moves_coreMissing (hphase : call.phase = .announces) :
    Moves call (.completes coreMissing) := by
  constructor <;> simp [hphase, coreMissing]

theorem moves_beginConflict (hphase : call.phase = .inserts peerUserId) :
    Moves call (.raised .beginConflict) := by
  constructor <;> simp [hphase]

def SendCall.request (call : SendCall) (peerUserId : String) : OutboundRequest where
  conversationId := call.conversationId
  clientRequestId := call.clientRequestId
  peerUserId := peerUserId

inductive SendEffect (library : TextLibrary) (state : SendState) :
    SendLabel → SendState → Prop
  | opens (label : SendLabel) (id : ℕ) (call : SendCall) (hnew : state.calls id = none)
      (hfits : call.Fits) (hcreated : call.created = false)
      (hphase : call.phase = .looks ∨ ∃ peerUserId, call.phase = .reads peerUserId) :
      SendEffect library state label (state.setCall id call)
  | moves (label : SendLabel) (id : ℕ) (call : SendCall) (phase : SendPhase)
      (hcall : state.calls id = some call) (hmoves : Moves call phase) :
      SendEffect library state label (state.setPhase id call phase)
  | inserts (label : SendLabel) (id : ℕ) (call : SendCall) (peerUserId : String)
      (surroundings : Surroundings) (store : MessageStore) (message : Message)
      (hcall : state.calls id = some call) (hphase : call.phase = .inserts peerUserId)
      (hbegin : call.outbound.beginIn state.store (call.request peerUserId) surroundings =
        some { store := store, message := some message, created := true }) :
      SendEffect library state label
        ({ state with store := store }.setCall id
          { call with created := true, phase := .begun (some message) true })
  | sends (label : SendLabel) (id : ℕ) (call : SendCall)
      (hcall : state.calls id = some call) (hphase : call.phase = .announces) :
      SendEffect library state label (state.send id call true)
  | answers (id : ℕ) (call : SendCall) (answer : CoreAnswer)
      (hcall : state.calls id = some call) (hphase : call.phase = .sending) :
      SendEffect library state (.answers id answer) (state.answer id call answer)
  | completes (label : SendLabel) (id : ℕ) (call : SendCall) (answer : CoreAnswer) (now : ℤ)
      (hcall : state.calls id = some call) (hphase : call.phase = .completes answer) :
      SendEffect library state label (state.complete id call answer now)
  | interrupts (id : ℕ) (call : SendCall) (hcall : state.calls id = some call) :
      SendEffect library state (.interrupts id)
        (state.setPhase id call (.raised .interrupted))
  | accepts (id : ℕ) (messageId : String) (hfresh : state.isFresh messageId = true) :
      SendEffect library state (.accepts id messageId)
        (state.mapSend id fun send =>
          { send with platformId := send.platformId.or (some messageId) })
  | reports (report : MessageReport) (surroundings : Surroundings) (recorded : Recorded)
      (hrecord : recordMessage library state.store report surroundings = some recorded) :
      SendEffect library state (.reports report surroundings)
        { state with store := recorded.store }
  | changes (store : MessageStore) :
      SendEffect library state (.changes store)
        { state with store := { store with messages := state.store.messages } }

theorem sendEffect_of_step {label : SendLabel}
    (hstep : sendStep library state label next) : SendEffect library state label next := by
  cases label with
  | begins id conversationId clientRequestId outbound =>
      simp only [sendStep, ofPartial, applySend] at hstep
      split at hstep
      · cases hstep
      · rename_i hnew
        cases hstep
        have hnone : state.calls id = none := by
          simpa using (not_or.mp hnew).1
        cases outbound with
        | text receiverUserId content =>
            exact .opens _ id _ hnone rfl rfl (.inr ⟨receiverUserId, rfl⟩)
        | image => exact .opens _ id _ hnone rfl rfl (.inl rfl)
  | looks id =>
      obtain ⟨call, hcall, hlook⟩ := Option.bind_eq_some_iff.mp hstep
      simp only [applyCallStep] at hlook
      split at hlook
      · rename_i hphase
        cases hlook
        exact .moves _ id call _ hcall (moves_afterLook hphase _)
      · cases hlook
  | reads id =>
      obtain ⟨call, hcall, hread⟩ := Option.bind_eq_some_iff.mp hstep
      simp only [applyCallStep] at hread
      split at hread
      · rename_i peerUserId hphase
        cases hread
        exact .moves _ id call _ hcall (moves_afterRead hphase _)
      · cases hread
  | inserts id surroundings =>
      obtain ⟨call, hcall, hinsert⟩ := Option.bind_eq_some_iff.mp hstep
      simp only [applyCallStep] at hinsert
      split at hinsert
      · rename_i peerUserId hphase
        cases hinsert
        unfold SendState.insert
        dsimp only
        split
        · rename_i store message hbegin
          exact .inserts _ id call peerUserId surroundings store message hcall hphase hbegin
        · exact .moves _ id call _ hcall (moves_beginConflict hphase)
      · cases hinsert
  | resumes id =>
      obtain ⟨call, hcall, hresume⟩ := Option.bind_eq_some_iff.mp hstep
      simp only [applyCallStep] at hresume
      split at hresume
      · rename_i pending created hphase
        cases hresume
        exact .moves _ id call _ hcall (moves_afterBegin hphase)
      · rename_i answer message hphase
        cases hresume
        exact .moves _ id call _ hcall (moves_afterComplete hphase)
      · cases hresume
  | sends id running =>
      obtain ⟨call, hcall, hsend⟩ := Option.bind_eq_some_iff.mp hstep
      simp only [applyCallStep] at hsend
      split at hsend
      · rename_i hphase
        cases hsend
        cases running with
        | true => exact .sends _ id call hcall hphase
        | false => exact .moves _ id call _ hcall (moves_coreMissing hphase)
      · cases hsend
  | answers id answer =>
      obtain ⟨call, hcall, hanswer⟩ := Option.bind_eq_some_iff.mp hstep
      simp only [applyCallStep] at hanswer
      split at hanswer
      · rename_i hphase
        cases hanswer
        exact .answers id call answer hcall hphase
      · cases hanswer
  | completes id now =>
      obtain ⟨call, hcall, hcomplete⟩ := Option.bind_eq_some_iff.mp hstep
      simp only [applyCallStep] at hcomplete
      split at hcomplete
      · rename_i answer hphase
        cases hcomplete
        exact .completes _ id call answer now hcall hphase
      · cases hcomplete
  | interrupts id =>
      obtain ⟨call, hcall, hinterrupt⟩ := Option.bind_eq_some_iff.mp hstep
      simp only [applyCallStep] at hinterrupt
      split at hinterrupt
      · cases hinterrupt
        exact .interrupts id call hcall
      · cases hinterrupt
  | accepts id messageId =>
      simp only [sendStep, ofPartial, applySend] at hstep
      split at hstep
      · rename_i hfresh
        cases hstep
        exact .accepts id messageId hfresh
      · cases hstep
  | reports report surroundings =>
      obtain ⟨recorded, hrecord, rfl⟩ := Option.map_eq_some_iff.mp hstep
      exact .reports report surroundings recorded hrecord
  | changes store =>
      cases hstep
      exact .changes store

structure SendsOnce (state : SendState) : Prop where
  fits : ∀ id call, state.calls id = some call → call.Fits
  stored : ∀ id call, state.calls id = some call → call.created = true →
    ∃ row ∈ state.store.messages.rows, row.clientRequestId = some call.clientRequestId
  creators : ∀ left right first second, state.calls left = some first →
    state.calls right = some second → first.created = true → second.created = true →
    first.clientRequestId = second.clientRequestId → left = right
  sent : ∀ send ∈ state.sends, ∃ call, state.calls send.call = some call ∧
    call.created = true ∧ call.clientRequestId = send.clientRequestId ∧
    call.phase.beforeSend = false
  apart : (state.sends.map PlatformSend.call).Nodup

@[simp]
theorem calls_setCall (id : ℕ) (call : SendCall) (other : ℕ) :
    (state.setCall id call).calls other = if other = id then some call else state.calls other := by
  simp [SendState.setCall, Function.update_apply]

theorem call_of_setPhase {other : ℕ} {found : SendCall} {phase : SendPhase}
    (hcall : state.calls id = some call)
    (hfound : (state.setPhase id call phase).calls other = some found) :
    ∃ old, state.calls other = some old ∧ found.clientRequestId = old.clientRequestId ∧
      found.created = old.created ∧
      (other = id ∧ found = { call with phase := phase } ∨ other ≠ id ∧ found = old) := by
  rw [SendState.setPhase, calls_setCall] at hfound
  by_cases hid : other = id
  · rw [if_pos hid] at hfound
    cases hfound
    exact ⟨call, hid ▸ hcall, rfl, rfl, .inl ⟨hid, rfl⟩⟩
  · rw [if_neg hid] at hfound
    exact ⟨found, hfound, rfl, rfl, .inr ⟨hid, rfl⟩⟩

theorem call_in_setPhase {other : ℕ} {old : SendCall} (phase : SendPhase)
    (hcall : state.calls id = some call) (hold : state.calls other = some old) :
    ∃ found, (state.setPhase id call phase).calls other = some found ∧
      found.clientRequestId = old.clientRequestId ∧ found.created = old.created ∧
      (other = id ∧ old = call ∧ found = { call with phase := phase } ∨
        other ≠ id ∧ found = old) := by
  rw [SendState.setPhase, calls_setCall]
  by_cases hid : other = id
  · rw [if_pos hid]
    have hsame : old = call := by
      rw [hid, hcall] at hold
      exact (Option.some.inj hold).symm
    subst hsame
    exact ⟨_, rfl, rfl, rfl, .inl ⟨hid, rfl, rfl⟩⟩
  · rw [if_neg hid]
    exact ⟨old, hold, rfl, rfl, .inr ⟨hid, rfl⟩⟩

/-- A call goes on; the rows of the requests stay, and the same was sent. -/
theorem SendsOnce.setPhase (honce : SendsOnce state) {phase : SendPhase}
    (hcall : state.calls id = some call) (hfits : ({ call with phase := phase } : SendCall).Fits)
    (hlate : call.phase.beforeSend = false → phase.beforeSend = false) :
    SendsOnce (state.setPhase id call phase) where
  fits other found hfound := by
    obtain ⟨old, hold, -, -, ⟨-, rfl⟩ | ⟨-, rfl⟩⟩ := call_of_setPhase hcall hfound
    · exact hfits
    · exact honce.fits other found hold
  stored other found hfound hcreated := by
    obtain ⟨old, hold, hrequest, hsame, -⟩ := call_of_setPhase hcall hfound
    rw [hrequest]
    exact honce.stored other old hold (hsame ▸ hcreated)
  creators left right first second hfirst hsecond hfirstCreated hsecondCreated hrequest := by
    obtain ⟨before, hbefore, hbeforeRequest, hbeforeCreated, -⟩ :=
      call_of_setPhase hcall hfirst
    obtain ⟨after, hafter, hafterRequest, hafterCreated, -⟩ := call_of_setPhase hcall hsecond
    exact honce.creators left right before after hbefore hafter
      (hbeforeCreated ▸ hfirstCreated) (hafterCreated ▸ hsecondCreated)
      (hbeforeRequest ▸ hafterRequest ▸ hrequest)
  sent send hsend := by
    obtain ⟨old, hold, hcreated, hrequest, hbefore⟩ := honce.sent send hsend
    obtain ⟨found, hfound, hfoundRequest, hfoundCreated, hphase⟩ :=
      call_in_setPhase phase hcall hold
    refine ⟨found, hfound, hfoundCreated ▸ hcreated, hfoundRequest.trans hrequest, ?_⟩
    rcases hphase with ⟨-, rfl, rfl⟩ | ⟨-, rfl⟩
    · exact hlate hbefore
    · exact hbefore
  apart := honce.apart

theorem SendsOnce.withStore (honce : SendsOnce state) {store : MessageStore}
    {Starts : Message → Prop} {Gains : Message → String → Prop}
    (hfollows : RowsFollow state.store store Starts Gains) :
    SendsOnce { state with store := store } where
  fits := honce.fits
  stored id call hcall hcreated := by
    obtain ⟨row, hrow, hrequest⟩ := honce.stored id call hcall hcreated
    obtain ⟨later, hlater, hsame⟩ := hfollows.requests row hrow
    exact ⟨later, hlater, hsame.trans hrequest⟩
  creators := honce.creators
  sent := honce.sent
  apart := honce.apart

theorem SendsOnce.mapSend (honce : SendsOnce state) (id : ℕ)
    {change : PlatformSend → PlatformSend} (hcall : ∀ send, (change send).call = send.call)
    (hrequest : ∀ send, (change send).clientRequestId = send.clientRequestId) :
    SendsOnce (state.mapSend id change) where
  fits := honce.fits
  stored := honce.stored
  creators := honce.creators
  sent send hsend := by
    obtain ⟨old, hold, rfl⟩ := List.mem_map.mp hsend
    have hsame : (if old.call = id then change old else old).call = old.call ∧
        (if old.call = id then change old else old).clientRequestId =
          old.clientRequestId := by
      split
      · exact ⟨hcall old, hrequest old⟩
      · exact ⟨rfl, rfl⟩
    rw [hsame.1, hsame.2]
    exact honce.sent old hold
  apart := by
    have hmap : (state.mapSend id change).sends.map PlatformSend.call =
        state.sends.map PlatformSend.call := by
      simp only [SendState.mapSend, List.map_map]
      refine List.map_congr_left fun send _ => ?_
      simp only [Function.comp_apply]
      split
      · exact hcall send
      · rfl
    rw [hmap]
    exact honce.apart

/-- A call that has not inserted a row is added, or takes the place of one. -/
theorem SendsOnce.setCall (honce : SendsOnce state) (hnew : state.calls id = none)
    (hfits : call.Fits) (hcreated : call.created = false) :
    SendsOnce (state.setCall id call) where
  fits other found hfound := by
    rw [calls_setCall] at hfound
    split at hfound
    · cases hfound
      exact hfits
    · exact honce.fits other found hfound
  stored other found hfound hfoundCreated := by
    rw [calls_setCall] at hfound
    split at hfound
    · cases hfound
      rw [hcreated] at hfoundCreated
      cases hfoundCreated
    · exact honce.stored other found hfound hfoundCreated
  creators left right first second hfirst hsecond hfirstCreated hsecondCreated hrequest := by
    rw [calls_setCall] at hfirst hsecond
    split at hfirst
    · cases hfirst
      rw [hcreated] at hfirstCreated
      cases hfirstCreated
    · split at hsecond
      · cases hsecond
        rw [hcreated] at hsecondCreated
        cases hsecondCreated
      · exact honce.creators left right first second hfirst hsecond hfirstCreated
          hsecondCreated hrequest
  sent send hsend := by
    obtain ⟨call, hcall, hrest⟩ := honce.sent send hsend
    refine ⟨call, ?_, hrest⟩
    rw [calls_setCall, if_neg, hcall]
    intro hsame
    rw [hsame, hnew] at hcall
    cases hcall
  apart := honce.apart

theorem SendsOnce.insert (honce : SendsOnce state) {surroundings : Surroundings}
    {store : MessageStore} {message : Message} (hcall : state.calls id = some call)
    (hphase : call.phase = .inserts peerUserId)
    (hbegin : call.outbound.beginIn state.store (call.request peerUserId) surroundings =
      some { store := store, message := some message, created := true }) :
    SendsOnce ({ state with store := store }.setCall id
      { call with created := true, phase := .begun (some message) true }) := by
  obtain ⟨hfree, hrows, hrequest, -⟩ := inserted_of_beginIn hbegin
  have hkept := honce.withStore (follows_of_beginIn hbegin)
  have hfirst : ∀ other old, state.calls other = some old → old.created = true →
      old.clientRequestId ≠ call.clientRequestId := by
    intro other old hold hcreated hsame
    obtain ⟨row, hrow, hrowRequest⟩ := honce.stored other old hold hcreated
    exact hfree row hrow (hrowRequest.trans (congrArg some hsame))
  refine ⟨fun other found hfound => ?_, fun other found hfound hcreated => ?_,
    fun left right first second hleft hright hleftCreated hrightCreated hsame => ?_,
    fun send hsend => ?_, honce.apart⟩
  · rw [calls_setCall] at hfound
    split at hfound
    · cases hfound
      exact rfl
    · exact honce.fits other found hfound
  · rw [calls_setCall] at hfound
    split at hfound
    · cases hfound
      exact ⟨message, hrows ▸ List.mem_append_right _ (List.mem_singleton.mpr rfl), hrequest⟩
    · exact hkept.stored other found hfound hcreated
  · rw [calls_setCall] at hleft hright
    split at hleft
    · cases hleft
      split at hright
      · rename_i hleftId hrightId
        exact hleftId.trans hrightId.symm
      · exact absurd hsame.symm (hfirst right second hright hrightCreated)
    · split at hright
      · cases hright
        exact absurd hsame (hfirst left first hleft hleftCreated)
      · exact honce.creators left right first second hleft hright hleftCreated hrightCreated
          hsame
  · obtain ⟨old, hold, hcreated, holdRequest, hlate⟩ := honce.sent send hsend
    refine ⟨old, ?_, hcreated, holdRequest, hlate⟩
    rw [calls_setCall, if_neg]
    · exact hold
    · intro hid
      rw [hid, hcall] at hold
      cases hold
      rw [hphase] at hlate
      cases hlate

/-- A call comes to the core. -/
theorem SendsOnce.send (honce : SendsOnce state) (hcall : state.calls id = some call)
    (hphase : call.phase = .announces) :
    SendsOnce (state.send id call true) := by
  have hcreated : call.created = true := by
    simpa [hphase] using honce.fits id call hcall
  have hnone : ∀ send ∈ state.sends, send.call ≠ id := by
    intro send hsend hid
    obtain ⟨found, hfound, -, -, hlate⟩ := honce.sent send hsend
    rw [hid, hcall] at hfound
    cases hfound
    rw [hphase] at hlate
    cases hlate
  have hmoved : SendsOnce (state.setPhase id call .sending) :=
    honce.setPhase hcall hcreated fun _ => rfl
  refine ⟨hmoved.fits, hmoved.stored, hmoved.creators, fun send hsend => ?_, ?_⟩
  · rcases List.mem_append.mp hsend with hold | hnew
    · exact hmoved.sent send hold
    · obtain rfl := List.mem_singleton.mp hnew
      exact ⟨{ call with phase := .sending }, by simp [SendState.send, SendState.setPhase],
        hcreated, rfl, rfl⟩
  · have hcalls : (state.send id call true).sends.map PlatformSend.call =
        state.sends.map PlatformSend.call ++ [id] := by
      simp [SendState.send, SendState.setPhase, SendState.setCall]
    rw [hcalls, List.nodup_append]
    refine ⟨honce.apart, List.nodup_singleton _, fun other hother found hfound => ?_⟩
    obtain ⟨send, hsend, rfl⟩ := List.mem_map.mp hother
    rw [List.mem_singleton.mp hfound]
    exact hnone send hsend

theorem SendsOnce.complete (honce : SendsOnce state) {answer : CoreAnswer} (now : ℤ)
    (hcall : state.calls id = some call) (hphase : call.phase = .completes answer) :
    SendsOnce (state.complete id call answer now) := by
  unfold SendState.complete
  split
  · exact honce.setPhase hcall trivial fun _ => rfl
  · rename_i completed hcomplete
    have hcreated : call.created = true := by
      simpa [hphase] using honce.fits id call hcall
    exact (honce.withStore (follows_of_completeIn hcomplete).1).setPhase hcall hcreated
      fun _ => rfl

theorem SendsOnce.step (honce : SendsOnce state) {label : SendLabel}
    (hstep : sendStep library state label next) : SendsOnce next := by
  cases sendEffect_of_step hstep with
  | opens _ id call hnew hfits hcreated hphase =>
      exact honce.setCall hnew hfits hcreated
  | moves _ id call phase hcall hmoves =>
      exact honce.setPhase hcall (hmoves.fits (honce.fits id call hcall)) hmoves.late
  | inserts _ id call peerUserId surroundings store message hcall hphase hbegin =>
      exact honce.insert hcall hphase hbegin
  | sends _ id call hcall hphase => exact honce.send hcall hphase
  | answers id call answer hcall hphase =>
      have hmapped : SendsOnce (state.mapSend id fun send =>
          { send with returnedId := answer.messageId }) :=
        honce.mapSend id (fun _ => rfl) fun _ => rfl
      have hfits : ({ call with phase := .completes answer } : SendCall).Fits := by
        simpa [hphase] using honce.fits id call hcall
      exact hmapped.setPhase hcall hfits fun _ => rfl
  | completes _ id call answer now hcall hphase => exact honce.complete now hcall hphase
  | interrupts id call hcall => exact honce.setPhase hcall trivial fun _ => rfl
  | accepts id messageId hfresh => exact honce.mapSend id (fun _ => rfl) fun _ => rfl
  | reports report surroundings recorded hrecord =>
      exact honce.withStore (follows_of_recordMessage hrecord)
  | changes store =>
      have hfollows : RowsFollow state.store { store with messages := state.store.messages }
          (fun _ => False) fun _ _ => False := .of_rows rfl
      exact honce.withStore hfollows

theorem sendsOnce_initial (store : MessageStore) : SendsOnce (.initial store) where
  fits _ _ hcall := by cases hcall
  stored _ _ hcall := by cases hcall
  creators _ _ _ _ hcall := by cases hcall
  sent _ hsend := by cases hsend
  apart := List.nodup_nil

/-- No request goes to the platform twice, whatever happens. -/
theorem SendsOnce.nodup (honce : SendsOnce state) :
    (state.sends.map PlatformSend.clientRequestId).Nodup := by
  refine List.Nodup.map_on (fun left hleft right hright hsame => ?_) honce.apart.of_map
  obtain ⟨first, hfirst, hfirstCreated, hfirstRequest, -⟩ := honce.sent left hleft
  obtain ⟨second, hsecond, hsecondCreated, hsecondRequest, -⟩ := honce.sent right hright
  have hcall := honce.creators _ _ first second hfirst hsecond hfirstCreated hsecondCreated
    (hfirstRequest.trans (hsame.trans hsecondRequest.symm))
  exact List.inj_on_of_nodup_map honce.apart hleft hright hcall

end XianyuAdmin.Messages
