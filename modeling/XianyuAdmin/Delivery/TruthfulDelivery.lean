import XianyuAdmin.Delivery.DeliverySends

/-!
# Deliveries that end truthfully

A claimed record leaves `sending` when the outcome is written, and what is written is
truthful.  The outcome is written unless storing the message is cancelled, or the update
ends without its commit.
-/

namespace XianyuAdmin.Delivery

open XianyuAdmin.Orders (Interruption WriteEnd)
open XianyuAdmin.Procedure
open XianyuAdmin.Python

variable {collaborators : DeliveryCollaborators} {accountId recordId : String}
  {records : DeliveryTable}

def MaySubmit (collaborators : DeliveryCollaborators) : Prop :=
  collaborators.running = true ∧ collaborators.submitted = true

def Acknowledged (collaborators : DeliveryCollaborators) : Prop :=
  collaborators.running = true ∧
    ∃ result, collaborators.sendText = .ok result ∧ result.success = true

def CarriesRequest (collaborators : DeliveryCollaborators) : Prop :=
  ∀ result, collaborators.sendText = .ok result → MaySubmit collaborators →
    result.requestWasSubmitted = true

/-- The record is not left in `sending`; it is sent only if that was acknowledged, and
failed only if nothing was submitted. -/
def EndsTruthfully (collaborators : DeliveryCollaborators) (accountId recordId : String)
    (records : DeliveryTable) : Prop :=
  ∃ record, getDeliveryRecord accountId recordId records = some record ∧
    record.status ≠ .sending ∧
    (record.status = .sent → Acknowledged collaborators) ∧
    (record.status = .failed → ¬MaySubmit collaborators)

/-- The call comes to `record_message`. -/
def DeliveryCollaborators.storesMessage (collaborators : DeliveryCollaborators) : Prop :=
  collaborators.running = true → ∃ result, collaborators.sendText = .ok result

def DeliveryCollaborators.writeEnd (collaborators : DeliveryCollaborators) : WriteEnd :=
  match collaborators.sendText with
  | .error .cancelled =>
      if collaborators.running then shield collaborators.update else collaborators.update
  | _ => collaborators.update

structure WritesOutcome (collaborators : DeliveryCollaborators) : Prop where
  message : collaborators.storesMessage → collaborators.recordMessage ≠ .error .cancelled
  update : collaborators.writeEnd.takesEffect = true

def DeliveryCollaborators.writtenStatus (collaborators : DeliveryCollaborators) :
    DeliveryStatus :=
  if !collaborators.running then .failed
  else
    match collaborators.sendText with
    | .ok result => normalizedSendStatus (finalStatus result)
    | .error _ => .uncertain

def StatusIs (accountId recordId : String) (status : DeliveryStatus)
    (records : DeliveryTable) : Prop :=
  ∃ record, getDeliveryRecord accountId recordId records = some record ∧
    record.status = status

theorem getDeliveryRecord_eq_some_iff {record : DeliveryRecord} :
    getDeliveryRecord accountId recordId records = some record ↔
      record ∈ records.rows ∧ record.recordId = recordId ∧ record.accountId = accountId := by
  unfold getDeliveryRecord
  rw [Option.filter_eq_some_iff, Table.lookup_eq_some_iff]
  simp [recordKeys, eq_comm, and_assoc]

theorem isSending_of_statusIs (hsending : StatusIs accountId recordId .sending records) :
    records.rows.any (isSending accountId recordId) = true := by
  obtain ⟨record, hrecord, hstatus⟩ := hsending
  obtain ⟨hstored, hid, haccount⟩ := getDeliveryRecord_eq_some_iff.mp hrecord
  exact List.any_eq_true.mpr ⟨record, hstored, by simp [isSending, hid, haccount, hstatus]⟩

theorem exists_updateAfterSend (hsending : StatusIs accountId recordId .sending records)
    (outcome : SendOutcome) (now : ℕ) :
    ∃ next, updateAfterSend records accountId recordId outcome now = some next ∧
      (next.lookup recordId).isSome = true ∧
      StatusIs accountId recordId (normalizedSendStatus outcome.status) next := by
  have hany := isSending_of_statusIs hsending
  obtain ⟨record, hrecord, hstatus⟩ := hsending
  obtain ⟨hlookup, haccount⟩ := Option.filter_eq_some_iff.mp hrecord
  obtain ⟨-, hid, -⟩ := getDeliveryRecord_eq_some_iff.mp hrecord
  have haccountIs : record.accountId = accountId := by simpa using haccount
  have hmeets : isSending accountId recordId record = true := by
    simp [isSending, hid, haccountIs, hstatus]
  refine ⟨_, if_pos hany, ?_⟩
  have hupdated : ∀ hkeys, (records.write (fun record =>
      if isSending accountId recordId record then some (afterSend outcome now record)
      else none) hkeys).lookup recordId = some (afterSend outcome now record) := by
    intro hkeys
    rw [Table.write, Table.lookup_map, hlookup]
    simp [hmeets]
  refine ⟨by rw [hupdated]; rfl, afterSend outcome now record, ?_, rfl⟩
  unfold getDeliveryRecord
  rw [hupdated]
  simp [Option.filter, afterSend, haccountIs]

def statusAfter (writeEnd : WriteEnd) (status : DeliveryStatus) : DeliveryStatus :=
  if writeEnd.takesEffect then status else .sending

theorem awaitOutcome_ends (hsending : StatusIs accountId recordId .sending records)
    (writeEnd : WriteEnd) (outcome : SendOutcome) :
    Ends (awaitOutcome collaborators accountId recordId writeEnd outcome) records
      (fun updated next => updated.isSome = true ∧
        StatusIs accountId recordId
          (statusAfter writeEnd (normalizedSendStatus outcome.status)) next)
      (fun _ next => StatusIs accountId recordId
        (statusAfter writeEnd (normalizedSendStatus outcome.status)) next) := by
  obtain ⟨next, hupdate, hsome, hstatus⟩ :=
    exists_updateAfterSend hsending outcome collaborators.updatedAt
  simp only [awaitOutcome, awaitWrite, ends_bind, ends_get, hupdate, Option.getD_some,
    Option.bind_some]
  cases writeEnd with
  | returned =>
      simp only [ends_bind, ends_set, ends_pure]
      exact ⟨hsome, hstatus⟩
  | interrupted committed interruption =>
      simp only [ends_bind, ends_set, ends_throw]
      cases committed with
      | true => exact hstatus
      | false => exact hsending

theorem finishSend_ends (hsending : StatusIs accountId recordId .sending records)
    (outcome : SendOutcome) (success : Bool) (messagePk error : Option String) :
    Ends (finishSend collaborators accountId recordId outcome success messagePk error) records
      (fun _ => StatusIs accountId recordId
        (statusAfter collaborators.update (normalizedSendStatus outcome.status)))
      (fun _ => StatusIs accountId recordId
        (statusAfter collaborators.update (normalizedSendStatus outcome.status))) := by
  simp only [finishSend, ends_bind]
  apply (awaitOutcome_ends hsending collaborators.update outcome).mono
  · rintro updated next ⟨-, hstatus⟩
    cases updated with
    | none => exact hstatus
    | some record => exact hstatus
  · exact fun _ _ hstatus => hstatus

theorem finishCancelled_ends (hsending : StatusIs accountId recordId .sending records) :
    Ends (finishCancelled collaborators accountId recordId) records
      (fun _ => StatusIs accountId recordId
        (statusAfter (shield collaborators.update) .uncertain))
      (fun _ => StatusIs accountId recordId
        (statusAfter (shield collaborators.update) .uncertain)) := by
  simp only [finishCancelled, ends_bind]
  apply (awaitOutcome_ends hsending _ _).mono
  · exact fun _ _ hends => hends.2
  · exact fun _ _ hends => hends

/-- Only a cancellation leaves `record_message`. -/
theorem awaitMessage_ends :
    Ends (awaitMessage collaborators) records
      (fun _ next => collaborators.recordMessage ≠ .error .cancelled ∧ next = records)
      (fun _ next => collaborators.recordMessage = .error .cancelled ∧ next = records) := by
  simp only [awaitMessage, ends_tryCatch, ends_answer]
  cases hmessage : collaborators.recordMessage with
  | ok messagePk => simp
  | error interruption =>
      cases interruption with
      | exception className text => simp
      | cancelled => simp

def statusAfterMessage (collaborators : DeliveryCollaborators) (status : DeliveryStatus) :
    DeliveryStatus :=
  match collaborators.recordMessage with
  | .error .cancelled => .sending
  | _ => statusAfter collaborators.update status

theorem statusAfterMessage_of_ne (hmessage : collaborators.recordMessage ≠ .error .cancelled)
    (status : DeliveryStatus) :
    statusAfterMessage collaborators status = statusAfter collaborators.update status := by
  unfold statusAfterMessage
  split
  · rename_i hcancelled
    exact absurd hcancelled hmessage
  · rfl

theorem finishAfterMessage_ends (hsending : StatusIs accountId recordId .sending records)
    {finish : Option String → DeliveryProcedure (Option DeliverySendResult)}
    {status : DeliveryStatus}
    (hfinish : ∀ messagePk, Ends (finish messagePk) records
      (fun _ => StatusIs accountId recordId (statusAfter collaborators.update status))
      (fun _ => StatusIs accountId recordId (statusAfter collaborators.update status))) :
    Ends (awaitMessage collaborators >>= finish) records
      (fun _ => StatusIs accountId recordId (statusAfterMessage collaborators status))
      (fun _ => StatusIs accountId recordId (statusAfterMessage collaborators status)) := by
  rw [ends_bind]
  refine Ends.mono awaitMessage_ends ?_ ?_
  · rintro messagePk next ⟨hmessage, rfl⟩
    rw [statusAfterMessage_of_ne hmessage]
    exact hfinish messagePk
  · rintro interruption next ⟨hcancelled, rfl⟩
    have hleft : statusAfterMessage collaborators status = .sending := by
      simp only [statusAfterMessage, hcancelled]
    rw [hleft]
    exact hsending

def DeliveryCollaborators.leftStatus (collaborators : DeliveryCollaborators) :
    DeliveryStatus :=
  if !collaborators.running then statusAfterMessage collaborators .failed
  else
    match collaborators.sendText with
    | .ok result =>
        statusAfterMessage collaborators (normalizedSendStatus (finalStatus result))
    | .error .cancelled => statusAfter (shield collaborators.update) .uncertain
    | .error (.exception _ _) => statusAfter collaborators.update .uncertain

theorem sendClaimed_ends (hsending : StatusIs accountId recordId .sending records) :
    Ends (sendClaimed collaborators accountId recordId) records
      (fun _ => StatusIs accountId recordId collaborators.leftStatus)
      (fun _ => StatusIs accountId recordId collaborators.leftStatus) := by
  unfold sendClaimed DeliveryCollaborators.leftStatus
  cases collaborators.running with
  | false => exact finishAfterMessage_ends hsending fun _ => finishSend_ends hsending _ _ _ _
  | true =>
      cases collaborators.sendText with
      | ok result =>
          exact finishAfterMessage_ends hsending fun _ => finishSend_ends hsending _ _ _ _
      | error interruption =>
          cases interruption with
          | cancelled => exact finishCancelled_ends hsending
          | exception className text => exact finishSend_ends hsending _ _ _ _

/-- A claimed record was there, and is in `sending`. -/
theorem statusIs_of_claim {claimedRecords : DeliveryTable} {now : ℕ}
    (hclaim : claimDeliveryRecord records accountId recordId now = some claimedRecords) :
    (∃ record, getDeliveryRecord accountId recordId records = some record) ∧
      (claimedRecords.lookup recordId).isSome = true ∧
      StatusIs accountId recordId .sending claimedRecords := by
  unfold claimDeliveryRecord at hclaim
  split at hclaim
  · rename_i hany
    obtain ⟨record, hstored, hclaimable⟩ := List.any_eq_true.mp hany
    have hmeets : record.recordId = recordId ∧ record.accountId = accountId := by
      simp only [isClaimable, Bool.and_eq_true, decide_eq_true_eq] at hclaimable
      exact hclaimable.1
    have hrecord := getDeliveryRecord_eq_some_iff.mpr ⟨hstored, hmeets.1, hmeets.2⟩
    have hlookup := (Option.filter_eq_some_iff.mp hrecord).1
    have hwritten : claimedRecords.lookup recordId = some (claimed now record) := by
      rw [← Option.some.inj hclaim, Table.write, Table.lookup_map, hlookup]
      simp [hclaimable]
    refine ⟨⟨record, hrecord⟩, by rw [hwritten]; rfl, claimed now record, ?_, rfl⟩
    unfold getDeliveryRecord
    rw [hwritten]
    simp [Option.filter, claimed, hmeets.2]
  · cases hclaim

theorem sendDeliveryRecord_ends {claimedRecords : DeliveryTable}
    (hfound : collaborators.found = .ok ()) (hclaim : collaborators.claim = .returned)
    (hclaimed : claimDeliveryRecord records accountId recordId collaborators.claimedAt =
      some claimedRecords) :
    Ends (sendDeliveryRecord collaborators accountId recordId) records
      (fun _ => StatusIs accountId recordId collaborators.leftStatus)
      (fun _ => StatusIs accountId recordId collaborators.leftStatus) := by
  obtain ⟨⟨record, hrecord⟩, hsome, hsending⟩ := statusIs_of_claim hclaimed
  obtain ⟨found, hlookup⟩ := Option.isSome_iff_exists.mp hsome
  simp only [sendDeliveryRecord, awaitWrite, ends_bind, ends_answer, ends_get, hfound, hrecord,
    hclaim, hclaimed, ends_set, ends_pure, Option.getD_some, Option.bind_some, hlookup]
  exact sendClaimed_ends hsending

theorem statusAfter_cases (writeEnd : WriteEnd) (status : DeliveryStatus) :
    (writeEnd.takesEffect = true ∧ statusAfter writeEnd status = status) ∨
      (writeEnd.takesEffect = false ∧ statusAfter writeEnd status = .sending) := by
  unfold statusAfter
  cases writeEnd.takesEffect <;> simp

theorem statusAfterMessage_cases (collaborators : DeliveryCollaborators)
    (status : DeliveryStatus) :
    ((collaborators.recordMessage ≠ .error .cancelled ∧
        collaborators.update.takesEffect = true) ∧
          statusAfterMessage collaborators status = status) ∨
      (¬(collaborators.recordMessage ≠ .error .cancelled ∧
        collaborators.update.takesEffect = true) ∧
          statusAfterMessage collaborators status = .sending) := by
  by_cases hmessage : collaborators.recordMessage = .error .cancelled
  · exact .inr ⟨fun h => h.1 hmessage, by simp only [statusAfterMessage, hmessage]⟩
  · rw [statusAfterMessage_of_ne hmessage]
    rcases statusAfter_cases collaborators.update status with ⟨htakes, hstatus⟩ | ⟨hfails, hstatus⟩
    · exact .inl ⟨⟨hmessage, htakes⟩, hstatus⟩
    · refine .inr ⟨fun htakes => ?_, hstatus⟩
      rw [hfails] at htakes
      cases htakes.2

theorem writesOutcome_iff :
    WritesOutcome collaborators ↔
      (collaborators.storesMessage → collaborators.recordMessage ≠ .error .cancelled) ∧
        collaborators.writeEnd.takesEffect = true :=
  ⟨fun h => ⟨h.message, h.update⟩, fun h => ⟨h.1, h.2⟩⟩

theorem leftStatus_cases (collaborators : DeliveryCollaborators) :
    (WritesOutcome collaborators ∧ collaborators.leftStatus = collaborators.writtenStatus) ∨
      (¬WritesOutcome collaborators ∧ collaborators.leftStatus = .sending) := by
  rw [writesOutcome_iff]
  unfold DeliveryCollaborators.leftStatus DeliveryCollaborators.writtenStatus
    DeliveryCollaborators.storesMessage DeliveryCollaborators.writeEnd
  cases hrunning : collaborators.running with
  | false =>
      have hmessage := statusAfterMessage_cases collaborators .failed
      cases collaborators.sendText with
      | ok result => simpa using hmessage
      | error interruption => cases interruption <;> simpa using hmessage
  | true =>
      cases collaborators.sendText with
      | ok result =>
          simpa using statusAfterMessage_cases collaborators
            (normalizedSendStatus (finalStatus result))
      | error interruption =>
          cases interruption with
          | cancelled =>
              simpa using statusAfter_cases (shield collaborators.update) .uncertain
          | exception className text =>
              simpa using statusAfter_cases collaborators.update .uncertain

theorem truthful_writtenStatus (hcarries : CarriesRequest collaborators) :
    collaborators.writtenStatus ≠ .sending ∧
      (collaborators.writtenStatus = .sent → Acknowledged collaborators) ∧
      (collaborators.writtenStatus = .failed → ¬MaySubmit collaborators) := by
  unfold DeliveryCollaborators.writtenStatus
  cases hrunning : collaborators.running with
  | false => simp [MaySubmit, hrunning]
  | true =>
      cases hsend : collaborators.sendText with
      | error interruption => simp
      | ok result =>
          have hrequest := hcarries result hsend
          simp only [Bool.not_true, Bool.false_eq_true, if_false, finalStatus]
          cases hsuccess : result.success with
          | true =>
              have hacknowledged : Acknowledged collaborators :=
                ⟨hrunning, result, hsend, hsuccess⟩
              simp [normalizedSendStatus, hacknowledged]
          | false =>
              cases hsubmitted : result.requestWasSubmitted with
              | true => simp [normalizedSendStatus]
              | false =>
                  have hnone : ¬MaySubmit collaborators := fun hmay => by
                    rw [hrequest hmay] at hsubmitted
                    cases hsubmitted
                  simp [normalizedSendStatus, hnone]

/-- After a claim, the record ends truthfully exactly when storing the message is not
cancelled and the transaction of the update is committed. -/
theorem delivery_truthful_iff {claimedRecords : DeliveryTable}
    (hfound : collaborators.found = .ok ()) (hclaim : collaborators.claim = .returned)
    (hclaimed : claimDeliveryRecord records accountId recordId collaborators.claimedAt =
      some claimedRecords)
    (hcarries : CarriesRequest collaborators) :
    EndsTruthfully collaborators accountId recordId
        (after (sendDeliveryRecord collaborators accountId recordId) records) ↔
      WritesOutcome collaborators := by
  obtain ⟨record, hrecord, hstatus⟩ :=
    ends_after.mp (sendDeliveryRecord_ends hfound hclaim hclaimed)
  rcases leftStatus_cases collaborators with ⟨hwrites, hleft⟩ | ⟨hfails, hleft⟩
  · refine iff_of_true ⟨record, hrecord, ?_⟩ hwrites
    rw [hstatus, hleft]
    exact truthful_writtenStatus hcarries
  · refine iff_of_false ?_ hfails
    rintro ⟨other, hother, hsending, -⟩
    rw [hrecord] at hother
    cases hother
    exact hsending (hstatus.trans hleft)

def pendingRecord : DeliveryRecord where
  recordId := "d1"
  accountId := "a1"
  conversationId := "chat"
  receiverUserId := "buyer"
  content := "CODE-1"
  createdAt := 0
  updatedAt := 0

def pendingRecords : DeliveryTable where
  rows := [pendingRecord]
  unique := List.pairwise_singleton _ _

def acknowledgedSend (recordMessage : Except Interruption (Option String)) :
    DeliveryCollaborators where
  found := .ok ()
  claim := .returned
  claimedAt := 1
  foundAgain := .ok ()
  running := true
  sendText := .ok
    { success := true
      messageId := some "m-1"
      rawPayload := some (.obj [("request", .obj []), ("response", .obj [("code", .int 200)])]) }
  submitted := true
  recordMessage := recordMessage
  update := .returned
  updatedAt := 2

theorem acknowledgedSend_carriesRequest (recordMessage : Except Interruption (Option String)) :
    CarriesRequest (acknowledgedSend recordMessage) := by
  intro result hresult _
  cases hresult
  rfl

/-- The message is stored, and the record ends truthfully. -/
theorem stored_send_truthful :
    EndsTruthfully (acknowledgedSend (.ok (some "row-1"))) "a1" "d1"
      (after (sendDeliveryRecord (acknowledgedSend (.ok (some "row-1"))) "a1" "d1")
        pendingRecords) :=
  (delivery_truthful_iff rfl rfl rfl (acknowledgedSend_carriesRequest _)).mpr
    ⟨fun _ => nofun, rfl⟩

/-- The call is cancelled while it stores the message: the card code was sent, and the
record stays in `sending`. -/
theorem cancelled_message_leaves_sending :
    ¬ ∀ (collaborators : DeliveryCollaborators) (accountId recordId : String)
      (records claimedRecords : DeliveryTable), collaborators.found = .ok () →
        collaborators.claim = .returned →
        claimDeliveryRecord records accountId recordId collaborators.claimedAt =
          some claimedRecords →
        CarriesRequest collaborators →
        EndsTruthfully collaborators accountId recordId
          (after (sendDeliveryRecord collaborators accountId recordId) records) := by
  intro hclaim
  obtain ⟨record, hrecord, hstatus, -⟩ :=
    hclaim (acknowledgedSend (.error .cancelled)) "a1" "d1" pendingRecords _ rfl rfl rfl
      (acknowledgedSend_carriesRequest _)
  have hsending : getDeliveryRecord "a1" "d1"
      (after (sendDeliveryRecord (acknowledgedSend (.error .cancelled)) "a1" "d1")
        pendingRecords) = some (claimed 1 pendingRecord) := rfl
  rw [hsending] at hrecord
  cases hrecord
  exact hstatus rfl

theorem sendCustomMessage_carriesRequest (str repr : Json → String) {online : Bool}
    {mid : String} {request : Json} {rpc : RpcEnd} {result : SendMessageResult}
    (hsend : sendCustomMessage str repr online mid request rpc = .ok result) :
    (online = true → result.requestWasSubmitted = true) ∧
      (result.success = true → ∃ frame, rpc = .response frame ∧ isAcknowledged frame = true) := by
  unfold sendCustomMessage at hsend
  cases online with
  | false =>
      cases hsend
      simp
  | true =>
      simp only [Bool.not_true, Bool.false_eq_true, if_false] at hsend
      split at hsend
      · rename_i frame
        cases hsend
        exact ⟨fun _ => rfl, fun hsuccess => ⟨frame, rfl, hsuccess⟩⟩
      · cases hsend
        exact ⟨fun _ => rfl, fun hsuccess => by cases hsuccess⟩
      · cases hsend
        exact ⟨fun _ => rfl, fun hsuccess => by cases hsuccess⟩
      · cases hsend

/-- With the session of the account as the core, nothing has to be assumed of the result. -/
theorem carriesRequest_of_session (str repr : Json → String) {online : Bool} {mid : String}
    {request : Json} {rpc : RpcEnd}
    (hsend : collaborators.sendText = sendCustomMessage str repr online mid request rpc)
    (hsubmitted : collaborators.submitted = true → online = true) :
    CarriesRequest collaborators := by
  intro result hresult hmay
  exact (sendCustomMessage_carriesRequest str repr (hsend ▸ hresult)).1 (hsubmitted hmay.2)

end XianyuAdmin.Delivery
