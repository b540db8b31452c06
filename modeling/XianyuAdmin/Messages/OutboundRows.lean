import XianyuAdmin.Messages.CallEffects
import XianyuAdmin.Messages.OutboundSends

/-!
# What reports and sends do to the rows

A call of the store keeps the rows of the requests.  A report leaves no row pending that
was not, and gives a row only an id that no row has; the begin of a request inserts a
pending row without an id; its completion settles the row and gives it the id that the
core returned.
-/

namespace XianyuAdmin.Messages

open XianyuAdmin.Python

def Message.isPending (message : Message) : Bool :=
  message.sendStatus = some .uploading || message.sendStatus = some .sending

structure RowsFollow (store next : MessageStore) (Starts : Message → Prop)
    (Gains : Message → String → Prop) : Prop where
  requests : ∀ row ∈ store.messages.rows,
    ∃ later ∈ next.messages.rows, later.clientRequestId = row.clientRequestId
  pending : ∀ later ∈ next.messages.rows, later.isPending = true →
    Starts later ∨ ∃ row ∈ store.messages.rows,
      row.isPending = true ∧ row.clientRequestId = later.clientRequestId
  ids : ∀ later ∈ next.messages.rows, ∀ messageId, later.messageId = some messageId →
    Gains later messageId ∨ ∃ row ∈ store.messages.rows,
      row.messageId = some messageId ∧ row.clientRequestId = later.clientRequestId

variable {library : TextLibrary} {store next : MessageStore} {Starts : Message → Prop}
  {Gains : Message → String → Prop}

theorem RowsFollow.of_rows (hrows : next.messages.rows = store.messages.rows) :
    RowsFollow store next Starts Gains where
  requests row hrow := ⟨row, hrows ▸ hrow, rfl⟩
  pending later hlater hpending := .inr ⟨later, hrows ▸ hlater, hpending, rfl⟩
  ids later hlater _ hid := .inr ⟨later, hrows ▸ hlater, hid, rfl⟩

variable {message : Message} {report : MessageReport} {surroundings : Surroundings}
  {outbound : Outbound}

theorem RowsFollow.of_append (hrows : next.messages.rows = store.messages.rows ++ [message])
    (hstarts : message.isPending = true → Starts message)
    (hgains : ∀ messageId, message.messageId = some messageId → Gains message messageId) :
    RowsFollow store next Starts Gains where
  requests row hrow := ⟨row, hrows ▸ List.mem_append_left _ hrow, rfl⟩
  pending later hlater hpending := by
    rw [hrows, List.mem_append, List.mem_singleton] at hlater
    rcases hlater with hold | rfl
    · exact .inr ⟨later, hold, hpending, rfl⟩
    · exact .inl (hstarts hpending)
  ids later hlater messageId hid := by
    rw [hrows, List.mem_append, List.mem_singleton] at hlater
    rcases hlater with hold | rfl
    · exact .inr ⟨later, hold, hid, rfl⟩
    · exact .inl (hgains messageId hid)

theorem RowsFollow.of_map {update : Message → Message}
    (hrows : next.messages.rows = store.messages.rows.map update)
    (hrequest : ∀ row, (update row).clientRequestId = row.clientRequestId)
    (hpending : ∀ row, (update row).isPending = true → row.isPending = true)
    (hgains : ∀ row ∈ store.messages.rows, ∀ messageId,
      (update row).messageId = some messageId →
        Gains (update row) messageId ∨ row.messageId = some messageId) :
    RowsFollow store next Starts Gains where
  requests row hrow :=
    ⟨update row, hrows ▸ List.mem_map_of_mem hrow, hrequest row⟩
  pending later hlater hlaterPending := by
    rw [hrows] at hlater
    obtain ⟨row, hrow, rfl⟩ := List.mem_map.mp hlater
    exact .inr ⟨row, hrow, hpending row hlaterPending, (hrequest row).symm⟩
  ids later hlater messageId hid := by
    rw [hrows] at hlater
    obtain ⟨row, hrow, rfl⟩ := List.mem_map.mp hlater
    exact (hgains row hrow messageId hid).imp_right fun hold =>
      ⟨row, hrow, hold, (hrequest row).symm⟩

theorem sendStatus_prepareIncoming {now : ℤ} {sendStatus : SendStatus}
    (hstatus : (prepareIncoming library store report now).sendStatus = some sendStatus) :
    sendStatus = .sent ∨ sendStatus = .failed := by
  have hsome : (report.sendSuccess.map fun success =>
      if success then SendStatus.sent else SendStatus.failed) = some sendStatus := by
    simp only [prepareIncoming] at hstatus
    split at hstatus
    · exact hstatus
    · cases hstatus
  obtain ⟨success, -, rfl⟩ := Option.map_eq_some_iff.mp hsome
  cases success with
  | true => exact .inl rfl
  | false => exact .inr rfl

theorem isPending_iff :
    message.isPending = true ↔
      message.sendStatus = some .uploading ∨ message.sendStatus = some .sending := by
  simp [Message.isPending]

theorem isPending_newMessage (report : MessageReport) (surroundings : Surroundings) :
    (newMessage (prepareIncoming library store report surroundings.now)
      surroundings).isPending = false := by
  have hstatus : (newMessage (prepareIncoming library store report surroundings.now)
      surroundings).sendStatus =
      (prepareIncoming library store report surroundings.now).sendStatus := rfl
  unfold Message.isPending
  rw [hstatus]
  cases hincoming : (prepareIncoming library store report surroundings.now).sendStatus with
  | none => rfl
  | some sendStatus => rcases sendStatus_prepareIncoming hincoming with rfl | rfl <;> rfl

theorem isPending_mergeReport {now : ℤ} {existing : Message}
    (hpending : (mergeReport library (prepareIncoming library store report now)
      existing).isPending = true) : existing.isPending = true := by
  have hor : (mergeReport library (prepareIncoming library store report now)
      existing).sendStatus =
      (prepareIncoming library store report now).sendStatus.or existing.sendStatus := rfl
  rw [isPending_iff, hor] at hpending
  rw [isPending_iff]
  cases hincoming : (prepareIncoming library store report now).sendStatus with
  | none => simpa [hincoming] using hpending
  | some sendStatus =>
      rw [hincoming] at hpending
      rcases sendStatus_prepareIncoming hincoming with rfl | rfl <;> simp at hpending

def IsNewId (store : MessageStore) (given : Option String) (messageId : String) : Prop :=
  given = some messageId ∧
    (messageId ≠ "" → ∀ row ∈ store.messages.rows, row.messageId ≠ some messageId)

/-- What the search does not find is not there. -/
theorem isNewId_of_findExisting {messageId : String} {given dedupeKey : Option String}
    (hgiven : given = some messageId)
    (hother : ∀ existing, findExisting store.messages given dedupeKey = some existing →
      existing.messageId ≠ some messageId) : IsNewId store given messageId := by
  refine ⟨hgiven, fun hid row hrow hheld => ?_⟩
  have hlookup : store.messages.lookup (.messageId messageId) = some row :=
    Table.lookup_eq_some_iff.mpr ⟨hrow, messageId_mem_messageKeys.mpr hheld⟩
  have hfound : findExisting store.messages given dedupeKey = some row := by
    rw [findExisting, hgiven, if_pos (truthy_some.mpr hid), Option.getD_some, hlookup]
    rfl
  exact hother row hfound hheld

theorem follows_of_recordMessage {recorded : Recorded}
    (hrecord : recordMessage library store report surroundings = some recorded) :
    RowsFollow store recorded.store (fun _ => False)
      fun _ messageId => IsNewId store report.messageId messageId := by
  obtain ⟨_, -, hbranch⟩ := Option.bind_eq_some_iff.mp hrecord
  split at hbranch
  next existing hfound =>
    obtain ⟨messages, hupdate, hrecorded⟩ := Option.bind_eq_some_iff.mp hbranch
    rw [← Option.some.inj hrecorded]
    refine .of_map (Table.rows_of_update? hupdate) (fun row => ?_) (fun row hpending => ?_)
      fun row hrow messageId hid => ?_
    · split <;> rfl
    · split at hpending
      · exact isPending_mergeReport hpending
      · exact hpending
    · split at hid
      · rename_i hsame
        have hrowIs : row = existing :=
          Table.eq_of_key hrow (mem_of_findExisting hfound)
            (messagePk_mem_messageKeys.mpr hsame) (messagePk_mem_messageKeys.mpr rfl)
        by_cases hheld : row.messageId = some messageId
        · exact .inr hheld
        · left
          have hor : orElse report.messageId row.messageId = some messageId := hid
          have hgiven : report.messageId = some messageId := by
            unfold orElse at hor
            split at hor
            · exact hor
            · exact absurd hor hheld
          have hother : ∀ found, findExisting store.messages report.messageId
              (prepareIncoming library store report surroundings.now).dedupeKey = some found →
              found.messageId ≠ some messageId := by
            intro found hfoundAgain
            rw [hfound] at hfoundAgain
            rwa [← Option.some.inj hfoundAgain, ← hrowIs]
          exact isNewId_of_findExisting hgiven hother
      · exact .inr hid
  next hnone =>
    obtain ⟨messages, hinsert, hrecorded⟩ := Option.bind_eq_some_iff.mp hbranch
    rw [← Option.some.inj hrecorded]
    refine .of_append (Table.rows_of_insert? hinsert) (fun hpending => ?_)
      fun messageId hid => ?_
    · rw [isPending_newMessage] at hpending
      cases hpending
    · exact isNewId_of_findExisting hid fun found hfound => by
        rw [hnone] at hfound
        cases hfound

theorem Outbound.exists_beginIn_eq (outbound : Outbound) :
    ∃ messageType sendStatus content, ∀ (store : MessageStore) (request : OutboundRequest)
      (surroundings : Surroundings),
      outbound.beginIn store request surroundings =
        beginOutbound messageType sendStatus store request content surroundings := by
  cases outbound with
  | text _ content => exact ⟨_, _, _, fun _ _ _ => rfl⟩
  | image => exact ⟨_, _, _, fun _ _ _ => rfl⟩

theorem inserted_of_beginIn {request : OutboundRequest}
    (hbegin : outbound.beginIn store request surroundings =
      some { store := next, message := some message, created := true }) :
    (∀ row ∈ store.messages.rows, row.clientRequestId ≠ some request.clientRequestId) ∧
      next.messages.rows = store.messages.rows ++ [message] ∧
      message.clientRequestId = some request.clientRequestId ∧ message.messageId = none := by
  obtain ⟨messageType, sendStatus, content, heq⟩ := outbound.exists_beginIn_eq
  rw [heq] at hbegin
  unfold beginOutbound at hbegin
  split at hbegin
  · cases hbegin
  · rename_i hlookup
    split at hbegin
    · cases hbegin
    · obtain ⟨messages, hinsert, hbegun⟩ := Option.bind_eq_some_iff.mp hbegin
      have hrows := Table.rows_of_insert? hinsert
      have hfree : ∀ row ∈ store.messages.rows,
          row.clientRequestId ≠ some request.clientRequestId := by
        intro row hrow
        have hkey := Table.lookup_eq_none_iff.mp hlookup row hrow
        rwa [clientRequestId_mem_messageKeys] at hkey
      cases hbegun
      exact ⟨hfree, hrows, rfl, rfl⟩

theorem follows_of_beginIn {request : OutboundRequest}
    (hbegin : outbound.beginIn store request surroundings =
      some { store := next, message := some message, created := true }) :
    RowsFollow store next
      (fun later => later.clientRequestId = some request.clientRequestId)
      fun _ _ => False := by
  obtain ⟨-, hrows, hrequest, hid⟩ := inserted_of_beginIn hbegin
  refine .of_append hrows (fun _ => hrequest) fun messageId hheld => ?_
  rw [hid] at hheld
  cases hheld

/-- What a completion is called with. -/
def resultOf (clientRequestId : String) (answer : CoreAnswer) : OutboundResult where
  clientRequestId := clientRequestId
  success := answer.success
  messageId := answer.messageId
  error := answer.error
  rawPayload := answer.rawPayload

theorem Outbound.exists_completeIn_eq (outbound : Outbound) (answer : CoreAnswer) :
    ∃ messageType replaceContent, ∀ (store : MessageStore) (clientRequestId : String)
      (now : ℤ),
      outbound.completeIn store clientRequestId answer now =
        completeOutbound messageType replaceContent store
          (resultOf clientRequestId answer) now := by
  cases outbound with
  | text _ _ => exact ⟨_, _, fun _ _ _ => rfl⟩
  | image => exact ⟨_, _, fun _ _ _ => rfl⟩

def IsReturnedId (clientRequestId : String) (answer : CoreAnswer) (later : Message)
    (messageId : String) : Prop :=
  later.clientRequestId = some clientRequestId ∧ messageId ≠ "" ∧
    answer.messageId = some messageId

theorem isPending_completeRow (result : OutboundResult) (replaceContent : String → String)
    (message : Message) : (completeRow result replaceContent message).isPending = false := by
  unfold Message.isPending completeRow
  cases result.success <;> rfl

theorem follows_of_completeIn {clientRequestId : String} {answer : CoreAnswer} {now : ℤ}
    {completed : Completed}
    (hcomplete : outbound.completeIn store clientRequestId answer now = some completed) :
    RowsFollow store completed.store (fun _ => False) (IsReturnedId clientRequestId answer) ∧
      ∀ row ∈ completed.store.messages.rows, row.clientRequestId = some clientRequestId →
        row.isPending = false := by
  obtain ⟨messageType, replaceContent, heq⟩ := outbound.exists_completeIn_eq answer
  rw [heq] at hcomplete
  unfold completeOutbound at hcomplete
  split at hcomplete
  · rename_i hlookup
    cases hcomplete
    refine ⟨.of_rows rfl, fun row hrow hrequest => ?_⟩
    have hkey := Table.lookup_eq_none_iff.mp hlookup row hrow
    exact absurd (clientRequestId_mem_messageKeys.mpr hrequest) hkey
  · rename_i existing hlookup
    obtain ⟨hexisting, hkey⟩ := Table.lookup_eq_some_iff.mp hlookup
    have hexistingRequest : existing.clientRequestId = some clientRequestId :=
      clientRequestId_mem_messageKeys.mp hkey
    obtain ⟨messages, hupdate, hcompleted⟩ := Option.bind_eq_some_iff.mp hcomplete
    have hrows := Table.rows_of_update? hupdate
    rw [← Option.some.inj hcompleted]
    refine ⟨.of_map hrows (fun row => ?_) (fun row hpending => ?_)
      fun row hrow messageId hid => ?_, fun later hlater hrequest => ?_⟩
    · split <;> rfl
    · split at hpending
      · rw [isPending_completeRow] at hpending
        cases hpending
      · exact hpending
    · split at hid
      · rename_i hsame
        have hrowIs : row = existing :=
          Table.eq_of_key hrow hexisting (messagePk_mem_messageKeys.mpr hsame)
            (messagePk_mem_messageKeys.mpr rfl)
        have hor : orElse answer.messageId row.messageId = some messageId := hid
        unfold orElse at hor
        split at hor
        · rename_i htruthy
          left
          rw [if_pos hsame]
          refine ⟨hrowIs ▸ hexistingRequest, ?_, hor⟩
          rw [hor] at htruthy
          exact truthy_some.mp htruthy
        · exact .inr hor
      · exact .inr hid
    · have hlaterRow : later ∈ store.messages.rows.map fun message =>
          if message.messagePk = existing.messagePk then
            completeRow (resultOf clientRequestId answer) replaceContent message
          else message := hrows ▸ hlater
      obtain ⟨row, hrow, rfl⟩ := List.mem_map.mp hlaterRow
      by_cases hsame : row.messagePk = existing.messagePk
      · rw [if_pos hsame]
        exact isPending_completeRow _ _ _
      · rw [if_neg hsame] at hrequest
        have hrowIs : row = existing :=
          Table.eq_of_key hrow hexisting (clientRequestId_mem_messageKeys.mpr hrequest) hkey
        exact absurd (congrArg Message.messagePk hrowIs) hsame

theorem messageKeys_completeRow {existing : Message} {result : OutboundResult}
    {replaceContent : String → String} {key : MessageKey}
    (hexisting : existing ∈ store.messages.rows)
    (hrequest : existing.clientRequestId = some result.clientRequestId)
    (hfree : ∀ messageId, messageId ≠ "" → result.messageId = some messageId →
      ∀ row ∈ store.messages.rows, row.messageId = some messageId →
        row.clientRequestId = some result.clientRequestId)
    (hkey : key ∈ messageKeys (completeRow result replaceContent existing)) :
    key ∈ messageKeys existing ∨ store.messages.lookup key = none := by
  cases key with
  | messageId value =>
      have hor : orElse result.messageId existing.messageId = some value :=
        messageId_mem_messageKeys.mp hkey
      unfold orElse at hor
      split at hor
      · rename_i htruthy
        have hid : value ≠ "" := truthy_some.mp (hor ▸ htruthy)
        cases hlookup : store.messages.lookup (.messageId value) with
        | none => exact .inr rfl
        | some stored =>
            obtain ⟨hstored, hheld⟩ := Table.lookup_eq_some_iff.mp hlookup
            have hstoredRequest := hfree value hid hor stored hstored
              (messageId_mem_messageKeys.mp hheld)
            have hsame : stored = existing :=
              Table.eq_of_key hstored hexisting
                (clientRequestId_mem_messageKeys.mpr hstoredRequest)
                (clientRequestId_mem_messageKeys.mpr hrequest)
            exact .inl (hsame ▸ hheld)
      · exact .inl (messageId_mem_messageKeys.mpr hor)
  | messagePk value => exact .inl (by simpa [completeRow] using hkey)
  | dedupeKey value => exact .inl (by simpa [completeRow] using hkey)
  | clientRequestId value => exact .inl (by simpa [completeRow] using hkey)

theorem exists_completeIn {clientRequestId : String} {answer : CoreAnswer} (now : ℤ)
    (hfree : ∀ messageId, messageId ≠ "" → answer.messageId = some messageId →
      ∀ row ∈ store.messages.rows, row.messageId = some messageId →
        row.clientRequestId = some clientRequestId) :
    ∃ completed, outbound.completeIn store clientRequestId answer now = some completed := by
  obtain ⟨messageType, replaceContent, heq⟩ := outbound.exists_completeIn_eq answer
  rw [heq]
  unfold completeOutbound
  cases hlookup : store.messages.lookup
      (.clientRequestId (resultOf clientRequestId answer).clientRequestId) with
  | none => exact ⟨_, rfl⟩
  | some existing =>
      obtain ⟨hexisting, hkey⟩ := Table.lookup_eq_some_iff.mp hlookup
      have hrequest := clientRequestId_mem_messageKeys.mp hkey
      have hfits : ∃ messages, (store.messages.update? fun message =>
          if message.messagePk = existing.messagePk then
            completeRow (resultOf clientRequestId answer) replaceContent message
          else message) = some messages := by
        apply Table.exists_update?_of_fresh (messagePk_mem_messageKeys.mpr rfl :
          MessageKey.messagePk existing.messagePk ∈ messageKeys existing)
        intro row hrow key hrowKey
        by_cases hsame : row.messagePk = existing.messagePk
        · have hrowIs : row = existing :=
            Table.eq_of_key hrow hexisting (messagePk_mem_messageKeys.mpr hsame)
              (messagePk_mem_messageKeys.mpr rfl)
          rw [if_pos hsame, hrowIs] at hrowKey
          rw [hrowIs]
          exact (messageKeys_completeRow hexisting hrequest hfree hrowKey).imp_right
            fun hnone => ⟨rfl, hnone⟩
        · rw [if_neg hsame] at hrowKey
          exact .inl hrowKey
      obtain ⟨messages, hupdate⟩ := hfits
      exact ⟨_, Option.bind_eq_some_iff.mpr ⟨messages, hupdate, rfl⟩⟩

end XianyuAdmin.Messages
