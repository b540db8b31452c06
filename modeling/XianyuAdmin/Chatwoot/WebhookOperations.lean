import XianyuAdmin.Chatwoot.WebhookExecution

/-!
# The operations of a webhook task

Which operations each part of `execute_webhook_task` performs, whatever their
answers are.  A part that performs only operations that leave something in
place leaves it in place as a whole.
-/

namespace XianyuAdmin.Chatwoot

open XianyuAdmin.Coroutine
open XianyuAdmin.Python

variable {library : WebhookLibrary} {allowed : Op → Prop}

def Op.IsRead : Op → Prop
  | .getConversationMapByRemoteGlobal _ | .getConfig _ | .recordReadSyncObservation _ _ _
  | .getLastInboundAt _ _ | .markConversationReadShared _ _ _ | .notifyRead _ => True
  | _ => False

/-- The operations of a conversation event. -/
def Op.IsStatus : Op → Prop
  | .getConversationMapByRemoteGlobal _ | .getConfig _ | .updateConversationStatus _ _ _ => True
  | .setManualTakeover _ _ mode => mode = "auto"
  | _ => False

/-- The operations of a deleted message. -/
def Op.IsRecall : Op → Prop
  | .findMessageMapsByRemoteGlobal _ | .getLocalMessageContext _ _ | .getConfig _
  | .getConversationMapByRemote _ _ | .runtimeCommand (.recall _ _ _) | .recordMessageMap _
  | .listChatwootMessages _ | .download _ | .postPrivateNote _ _ => True
  | _ => False

def Op.IsSnapshot : Op → Prop
  | .listChatwootMessages _ | .download _ | .postPrivateNote _ _ => True
  | _ => False

theorem Op.IsSnapshot.isRecall {op : Op} (hop : op.IsSnapshot) : op.IsRecall := by
  cases op <;> first | exact hop | exact hop.elim

def Op.IsRecord : Op → Prop
  | .recordMessageMap _ => True
  | _ => False

def Op.IsForward : Op → Prop
  | .runtimeCommand (.text _ _ _ _ _) | .runtimeCommand (.image _ _ _ _) | .download _
  | .recordMessageMap _ | .setManualTakeover _ _ _ => True
  | _ => False

inductive Op.Forwards (library : WebhookLibrary) (mapping : ConversationMap)
    (remoteMessageId remoteConversationId : String) : Op → Prop
  | send (piece : Piece) : Forwards library mapping remoteMessageId remoteConversationId
      (.runtimeCommand (pieceCommand mapping remoteMessageId piece))
  | download (url : String) :
      Forwards library mapping remoteMessageId remoteConversationId (.download url)
  | record (messagePk : String) (answer : Members) :
      Forwards library mapping remoteMessageId remoteConversationId
        (.recordMessageMap (pieceRecord library mapping.accountId remoteMessageId
          remoteConversationId messagePk answer))
  | takeover : Forwards library mapping remoteMessageId remoteConversationId
      (.setManualTakeover mapping.accountId mapping.conversationId "permanent")

inductive Op.Refuses (deliveryId accountId remoteMessageId remoteConversationId : String) :
    Op → Prop
  | record : Refuses deliveryId accountId remoteMessageId remoteConversationId
      (.recordMessageMap ⟨accountId, none, some remoteMessageId, some remoteConversationId,
        "chatwoot", "audio_unsupported", some audioUnsupported⟩)
  | note : Refuses deliveryId accountId remoteMessageId remoteConversationId
      (.postPrivateNote remoteConversationId none)
  | finish : Refuses deliveryId accountId remoteMessageId remoteConversationId
      (.finishWebhook deliveryId "ignored" none)

/-- The operations of a message that is not forwarded for its audio. -/
def Op.IsRefusal : Op → Prop
  | .recordMessageMap _ | .postPrivateNote _ _ | .finishWebhook _ _ _ => True
  | _ => False

/-- The operations of a webhook task around its event. -/
def Op.IsFrame : Op → Prop
  | .getConfig _ | .finishWebhook _ _ _ | .setComponentHealth _ _ _ => True
  | _ => False

theorem uses_exceptException {Value : Type} {body : Routine Value}
    {handler : Failure → Routine Value} (hbody : Uses allowed body)
    (hhandler : ∀ failure, Uses allowed (handler failure)) :
    Uses allowed (exceptException body handler) := by
  refine Uses.tryCatch hbody fun failure => ?_
  split
  · exact uses_throw failure
  · exact hhandler failure

theorem uses_orError {Value : Type} (value : Option Value) :
    Uses allowed (orError value) := by
  cases value with
  | none => exact uses_throw _
  | some value => exact uses_pure value

theorem uses_syncChatwootReadSnapshot (payload : Members) :
    Uses Op.IsRead (syncChatwootReadSnapshot library payload) := by
  unfold syncChatwootReadSnapshot
  refine (uses_orError _).bind fun snapshot => ?_
  split
  · exact uses_pure _
  refine Uses.bind (uses_perform trivial) fun mapping => ?_
  split
  · exact uses_pure _
  refine Uses.bind (uses_perform trivial) fun config => ?_
  split
  swap
  · exact uses_pure _
  refine Uses.bind (uses_perform trivial) fun _ => ?_
  split
  · exact uses_pure _
  refine Uses.bind (uses_perform trivial) fun lastInboundAt => ?_
  split
  · exact uses_pure _
  split
  · exact uses_pure _
  refine Uses.bind (uses_perform trivial) fun covered => ?_
  exact Uses.bind (uses_perform trivial) fun _ => uses_pure _

theorem uses_notifyReads (users : List String) : Uses Op.IsRead (notifyReads users) := by
  induction users with
  | nil => exact uses_pure _
  | cons user users ih => exact Uses.bind (uses_perform trivial) fun _ => ih

theorem uses_readEvents (payload : Members) :
    Uses Op.IsRead (readEvents library payload) := by
  refine Uses.bind ?_ fun events => Uses.bind ?_ fun _ => uses_pure events
  · exact uses_exceptException (uses_syncChatwootReadSnapshot payload) fun _ => uses_pure _
  · exact uses_exceptException (uses_notifyReads events) fun _ => uses_pure _

theorem uses_handleConversationStatus (payload : Members) :
    Uses Op.IsStatus (handleConversationStatus library payload) := by
  unfold handleConversationStatus
  dsimp only
  split
  · exact uses_pure _
  split
  · exact uses_pure _
  refine Uses.bind (uses_perform trivial) fun mapping => ?_
  split
  · exact uses_pure _
  refine Uses.bind (uses_perform trivial) fun config => ?_
  split
  · refine Uses.bind (uses_perform trivial) fun _ => ?_
    split
    · exact Uses.bind (uses_perform rfl) fun _ => uses_pure _
    · exact uses_pure _
  · exact uses_pure _

theorem uses_issueRecall (item : MessageMap) (config : Option ConfigView) :
    Uses Op.IsRecall (issueRecall library item config) := by
  unfold issueRecall
  dsimp only
  split
  swap
  · exact uses_pure _
  refine Uses.bind (uses_perform trivial) fun mapping => ?_
  split
  · exact uses_pure _
  refine uses_exceptException ?_ fun failure => uses_pure _
  exact Uses.bind (uses_perform trivial) fun _ => uses_pure _

theorem uses_recallItem (remoteMessageId : String) (progress : RecallProgress)
    (item : MessageMap) :
    Uses Op.IsRecall (recallItem library remoteMessageId progress item) := by
  unfold recallItem
  refine Uses.bind (uses_perform trivial) fun context => ?_
  refine Uses.bind (uses_perform trivial) fun config => ?_
  dsimp only
  split
  · exact uses_pure _
  split
  · exact uses_pure _
  split
  · exact uses_pure _
  split
  · exact uses_pure _
  refine Uses.bind (uses_issueRecall item config) fun outcome => ?_
  exact Uses.bind (uses_perform trivial) fun _ => uses_pure _

theorem uses_recallItems (remoteMessageId : String) (items : List MessageMap)
    (progress : RecallProgress) :
    Uses Op.IsRecall (recallItems library remoteMessageId items progress) := by
  induction items generalizing progress with
  | nil => exact uses_pure _
  | cons item items ih =>
      exact Uses.bind (uses_recallItem remoteMessageId progress item) fun progress => ih progress

theorem uses_settleItems (remoteMessageId : String) (results : List RecallOutcome)
    (items : List MessageMap) :
    Uses Op.IsRecall (settleItems remoteMessageId results items) := by
  induction items with
  | nil => exact uses_pure _
  | cons item items ih =>
      unfold settleItems
      dsimp only
      split
      · exact ih
      · split
        · exact Uses.bind (uses_perform trivial) fun _ => ih
        · exact ih

theorem uses_chatwootRecallSnapshotExists (config : ConfigView)
    (chatwootConversationId chatwootMessageId : String) :
    Uses Op.IsSnapshot
      (chatwootRecallSnapshotExists config chatwootConversationId chatwootMessageId) := by
  unfold chatwootRecallSnapshotExists
  split
  · exact Uses.bind (uses_perform trivial) fun _ => uses_pure _
  · exact uses_throw _

theorem uses_downloadAll (urls : List String) : Uses Op.IsSnapshot (downloadAll urls) := by
  induction urls with
  | nil => exact uses_pure _
  | cons url urls ih =>
      exact Uses.bind (uses_perform trivial) fun _ => Uses.bind ih fun _ => uses_pure _

theorem uses_createPrivateRecallSnapshot (config : ConfigView)
    (chatwootConversationId chatwootMessageId : String) (contexts : List LocalMessage) :
    Uses Op.IsSnapshot
      (createPrivateRecallSnapshot config chatwootConversationId chatwootMessageId contexts) := by
  unfold createPrivateRecallSnapshot
  split
  · exact Uses.bind (uses_downloadAll _) fun _ => uses_perform trivial
  · exact uses_throw _

theorem uses_markDeleted (remoteMessageId : String) (items : List MessageMap) (deleted : ℕ) :
    Uses Op.IsRecall (markDeleted remoteMessageId items deleted) := by
  induction items generalizing deleted with
  | nil => exact uses_pure _
  | cons item items ih =>
      unfold markDeleted
      refine Uses.bind (uses_perform trivial) fun config => ?_
      split
      · exact Uses.bind (uses_perform trivial) fun _ => ih _
      · exact ih _

theorem uses_recallMapped (platformConfig : ConfigView) (remoteMessageId : String)
    (remoteConversationId : Option String) (mapped : List MessageMap) :
    Uses Op.IsRecall
      (recallMapped library platformConfig remoteMessageId remoteConversationId mapped) := by
  unfold recallMapped
  refine (uses_recallItems remoteMessageId mapped _).bind fun progress => ?_
  dsimp only
  split
  · split
    · exact Uses.bind (uses_throw _) fun _ => uses_pure _
    · refine Uses.bind ((uses_chatwootRecallSnapshotExists _ _ _).mono fun _ => Op.IsSnapshot.isRecall) ?_
      intro snapshotExists
      split
      · exact Uses.bind (uses_settleItems _ _ _) fun _ => uses_pure _
      · refine Uses.bind ((uses_createPrivateRecallSnapshot _ _ _ _).mono fun _ => Op.IsSnapshot.isRecall) ?_
        intro _
        exact Uses.bind (uses_settleItems _ _ _) fun _ => uses_pure _
  · exact uses_pure _

theorem uses_handleMessageUpdated (platformConfig : ConfigView) (payload : Members) :
    Uses Op.IsRecall (handleMessageUpdated library platformConfig payload) := by
  unfold handleMessageUpdated
  dsimp only
  split
  · exact uses_pure _
  split
  swap
  · exact uses_pure _
  refine Uses.bind (uses_perform trivial) fun maps => ?_
  split
  · exact uses_recallMapped _ _ _ _
  · exact Uses.bind (uses_markDeleted _ _ _) fun _ => uses_pure _

theorem forwards_recordPieces (mapping : ConversationMap)
    (remoteMessageId remoteConversationId : String) (answers : List Members) :
    Uses (Op.Forwards library mapping remoteMessageId remoteConversationId)
      (recordPieces library mapping.accountId remoteMessageId remoteConversationId answers) := by
  induction answers with
  | nil => exact uses_pure _
  | cons answer answers ih =>
      unfold recordPieces
      dsimp only
      split
      · exact ih
      · exact Uses.bind (uses_perform (.record _ answer)) fun _ => ih

theorem forwards_sendPieces (mapping : ConversationMap)
    (remoteMessageId remoteConversationId : String) (pieces : List Piece) :
    Uses (Op.Forwards library mapping remoteMessageId remoteConversationId)
      (sendPieces mapping remoteMessageId pieces) := by
  induction pieces with
  | nil => exact uses_pure _
  | cons piece pieces ih =>
      unfold sendPieces
      refine Uses.bind ?_ fun answer => Uses.bind ih fun answers => uses_pure _
      cases piece with
      | text content => exact uses_perform (.send (.text content))
      | image index url =>
          refine Uses.bind (uses_perform (.download url)) fun _ => ?_
          exact uses_perform (.send (.image index url))

theorem forwards_forwardPieces (mapping : ConversationMap)
    (remoteMessageId remoteConversationId : String) (pieces : List Piece) :
    Uses (Op.Forwards library mapping remoteMessageId remoteConversationId)
      (forwardPieces library mapping remoteMessageId remoteConversationId pieces) := by
  unfold forwardPieces
  refine (forwards_sendPieces mapping remoteMessageId remoteConversationId pieces).bind ?_
  intro answers
  split
  · exact uses_pure _
  refine (forwards_recordPieces mapping _ _ answers).bind fun _ => ?_
  split
  · exact uses_throw _
  · exact Uses.bind (uses_perform .takeover) fun _ => uses_pure _

theorem refuses_refuseAudio (deliveryId accountId remoteMessageId remoteConversationId : String)
    (config : ConfigView) :
    Uses (Op.Refuses deliveryId accountId remoteMessageId remoteConversationId)
      (refuseAudio deliveryId accountId remoteMessageId remoteConversationId config) := by
  unfold refuseAudio
  refine Uses.bind (uses_perform .record) fun _ => ?_
  refine Uses.bind (uses_exceptException ?_ fun failure => uses_pure _) fun note => ?_
  · split
    · exact Uses.bind (uses_perform .note) fun _ => uses_pure _
    · exact uses_pure _
  · exact Uses.bind (uses_perform .finish) fun _ => uses_pure _

theorem uses_recordPieces (accountId remoteMessageId remoteConversationId : String)
    (answers : List Members) :
    Uses Op.IsRecord
      (recordPieces library accountId remoteMessageId remoteConversationId answers) := by
  induction answers with
  | nil => exact uses_pure _
  | cons answer answers ih =>
      unfold recordPieces
      dsimp only
      split
      · exact ih
      · exact Uses.bind (uses_perform trivial) fun _ => ih

theorem uses_forwardPieces (mapping : ConversationMap)
    (remoteMessageId remoteConversationId : String) (pieces : List Piece) :
    Uses Op.IsForward
      (forwardPieces library mapping remoteMessageId remoteConversationId pieces) := by
  refine (forwards_forwardPieces mapping _ _ pieces).mono fun op hop => ?_
  cases hop with
  | send piece => cases piece <;> trivial
  | download url => trivial
  | record messagePk answer => trivial
  | takeover => trivial

theorem uses_refuseAudio (deliveryId accountId remoteMessageId remoteConversationId : String)
    (config : ConfigView) :
    Uses Op.IsRefusal
      (refuseAudio deliveryId accountId remoteMessageId remoteConversationId config) :=
  (refuses_refuseAudio deliveryId accountId remoteMessageId remoteConversationId config).mono
    fun _ hop => by cases hop <;> trivial

section Frame

variable {State : Type} {contract : Contract State Op Answer Failure} {deliveryId : String}

/-- A task keeps `kept` if reading its delivery does, if what it has read stays so, and if
the branch of its event keeps it. -/
theorem secure_executeWebhookTask (kept : State → Prop) (reads : WebhookView → State → Prop)
    {state : State} (hget : Secure contract
      (fun found after => kept after ∧ ∀ view, found = some view → reads view after)
      (fun _ => kept) (getWebhook deliveryId) state)
    (hkept : ∀ {Value : Type} {part : Routine Value} {state}, Uses Op.IsFrame part →
      kept state → Secure contract (fun _ => kept) (fun _ => kept) part state)
    (hreads : ∀ view state, reads view state → Secure contract
      (fun _ => reads view) (fun _ => kept) (getConfig none) state)
    (hview : ∀ view state, reads view state → kept state)
    (hevent : ∀ view platformConfig state, reads view state →
      Secure contract (fun _ => kept) (fun _ => kept)
        (handleEvent library deliveryId platformConfig view) state) :
    Secure contract (fun _ => kept) (fun _ => kept) (executeWebhookTask library deliveryId)
      state := by
  have hhandler : ∀ failure, Uses Op.IsFrame (do
      finishWebhookOf deliveryId "failed" (some (cutText 1000 failure.text))
      call (.setComponentHealth "webhook" "error" (some (cutText 1000 failure.text)))
      throw failure : Routine Handled) :=
    fun failure => Uses.bind (uses_perform trivial) fun _ =>
      Uses.bind (uses_perform trivial) fun _ => uses_throw _
  rw [executeWebhookTask, secure_bind]
  refine hget.mono ?_ fun _ _ hafter => hafter
  rintro found read ⟨hread, hfound⟩
  cases found with
  | none => exact hread
  | some view =>
      dsimp only
      rw [secure_bind]
      refine (hreads view read (hfound view rfl)).mono ?_ fun _ _ hafter => hafter
      intro config configured hconfigured
      split
      · exact hkept (Uses.bind (uses_perform trivial) fun _ => uses_pure _)
          (hview view configured hconfigured)
      · rename_i platformConfig _
        have hhandled : Secure contract (fun _ => kept) (fun _ => kept)
            (exceptException (handleEvent library deliveryId platformConfig view) fun failure => do
              finishWebhookOf deliveryId "failed" (some (cutText 1000 failure.text))
              call (.setComponentHealth "webhook" "error" (some (cutText 1000 failure.text)))
              throw failure) configured := by
          rw [exceptException, secure_tryCatch]
          refine (hevent view platformConfig configured hconfigured).mono
            (fun _ _ hafter => hafter) ?_
          intro failure after hafter
          split
          · exact hafter
          · exact hkept (hhandler failure) hafter
        rw [secure_bind]
        refine hhandled.mono ?_ fun _ _ hafter => hafter
        intro handled after hafter
        cases handled with
        | finished members => exact hafter
        | answer members =>
            exact hkept (Uses.bind (uses_perform trivial) fun _ =>
              Uses.bind (uses_perform trivial) fun _ => uses_pure _) hafter

theorem secure_handleEvent {kept reads : State → Prop} {platformConfig : ConfigView}
    {view : WebhookView} {state : State}
    (hreads : Secure contract (fun _ => reads) (fun _ => kept)
      (readEvents library view.payload) state)
    (hbranch : ∀ after, reads after → Secure contract (fun _ => kept) (fun _ => kept)
      (dispatchEvent library deliveryId platformConfig view) after) :
    Secure contract (fun _ => kept) (fun _ => kept)
      (handleEvent library deliveryId platformConfig view) state := by
  rw [handleEvent, secure_bind]
  refine hreads.mono ?_ fun _ _ hafter => hafter
  intro events read hread
  rw [secure_bind]
  exact (hbranch read hread).mono (fun _ _ hafter => hafter) fun _ _ hafter => hafter

end Frame

end XianyuAdmin.Chatwoot
