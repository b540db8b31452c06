import XianyuAdmin.Core.Latest
import XianyuAdmin.Messages.CallEffects

/-!
# Summaries of conversations

A conversation row shows the latest message, the latest inbound and outbound
ones, and whether the last of these waits for an answer.  `_record_message_sync`
keeps the row up to date message by message, as they arrive;
`_reconcile_conversation_summaries_sync` recomputes it from the stored rows in
the order of their times.  What both are after is stated once, over the set of
rows, and each is compared with it.
-/

namespace XianyuAdmin.Messages

open XianyuAdmin.Python
open XianyuAdmin.Transition

variable {library : TextLibrary} {start store next final : MessageStore}
  {rows : List Message} {conversation : Conversation} {message : Message}

/-- The local dictionary of `_reconcile_conversation_summaries_sync`. -/
structure SummaryState where
  latest : Option Message := none
  lastInboundAt : Option ℤ := none
  lastOutboundAt : Option ℤ := none
  lastActionDirection : Option Direction := none
  latestReceived : Option Message := none
  deriving DecidableEq, Repr

def countsInbound (message : Message) : Bool :=
  message.direction = .inbound &&
    (message.messageType = .text || message.messageType = .image ||
      message.messageType = .unknown)

/-- The body of the loop over the messages. -/
def SummaryState.observe (state : SummaryState) (message : Message) : SummaryState where
  latest := some message
  latestReceived :=
    if message.receivedAtMs.any fun receivedAt =>
        datetimeAtOrAfter receivedAt (state.latestReceived.bind Message.receivedAtMs) then
      some message
    else state.latestReceived
  lastInboundAt :=
    if countsInbound message then some message.createdAtMs else state.lastInboundAt
  lastOutboundAt :=
    if message.direction = .outbound then some message.createdAtMs
    else state.lastOutboundAt
  lastActionDirection :=
    if countsInbound message then some .inbound
    else if message.direction = .outbound then some .outbound
    else state.lastActionDirection

def isShown (message : Message) : Bool :=
  message.direction ≠ .outbound || message.sendSuccess ≠ some false

/-- `ORDER BY created_at_ms, message_pk`. -/
def comesBefore (left right : Message) : Prop :=
  left.createdAtMs < right.createdAtMs ∨
    left.createdAtMs = right.createdAtMs ∧ left.messagePk ≤ right.messagePk

instance : DecidableRel comesBefore := fun left right =>
  inferInstanceAs (Decidable (left.createdAtMs < right.createdAtMs ∨
    left.createdAtMs = right.createdAtMs ∧ left.messagePk ≤ right.messagePk))

def orderedMessages (messages : List Message) (conversationId : String) : List Message :=
  ((messages.filter fun message => message.conversationId = conversationId).filter
    isShown).insertionSort comesBefore

/-- The values `_reconcile_conversation_summaries_sync` gives a conversation row. -/
def reconciled (state : SummaryState) (conversation : Conversation) : Conversation :=
  match state.latest with
  | some latest =>
      let received := state.latestReceived.filter fun received =>
        received.receivedAtMs.any fun receivedAt =>
          datetimeAtOrAfter receivedAt (some latest.createdAtMs)
      let activity := received.getD latest
      { conversation with
        lastMessageContent := some latest.content
        lastMessageType := latest.messageType
        lastMessageDirection := some latest.direction
        lastMessageAt := some latest.createdAtMs
        lastInboundAt := state.lastInboundAt
        lastOutboundAt := state.lastOutboundAt
        needsReply := state.lastActionDirection = some .inbound
        lastActivityAt :=
          (received.bind Message.receivedAtMs).or (some latest.createdAtMs)
        lastActivityContent := some activity.content
        lastActivityType := some activity.messageType
        lastActivityDirection := some activity.direction }
  | none =>
      { conversation with
        lastActivityAt := conversation.lastMessageAt.or (some 0)
        lastActivityContent := conversation.lastMessageContent
        lastActivityType := some conversation.lastMessageType
        lastActivityDirection := conversation.lastMessageDirection }

/-- `_reconcile_conversation_summaries_sync` on one conversation row. -/
def reconcileConversation (messages : List Message) (conversationId : String)
    (conversation : Conversation) : Conversation :=
  reconciled
    ((orderedMessages messages conversationId).foldl SummaryState.observe { }) conversation

/-- `_reconcile_conversation_summaries_sync` for the account, or for one of its
conversations. -/
def reconcileConversationSummaries (store : MessageStore) (conversationId : Option String) :
    MessageStore :=
  { store with
    conversations := fun current =>
      if !truthy conversationId || conversationId = some current then
        (store.conversations current).map
          (reconcileConversation store.messages.rows current)
      else store.conversations current }

structure Summary where
  lastMessageContent : Option String
  lastMessageType : MessageType
  lastMessageDirection : Option Direction
  lastMessageAt : Option ℤ
  lastInboundAt : Option ℤ
  lastOutboundAt : Option ℤ
  needsReply : Bool
  deriving DecidableEq, Repr

def Conversation.summary (conversation : Conversation) : Summary where
  lastMessageContent := conversation.lastMessageContent
  lastMessageType := conversation.lastMessageType
  lastMessageDirection := conversation.lastMessageDirection
  lastMessageAt := conversation.lastMessageAt
  lastInboundAt := conversation.lastInboundAt
  lastOutboundAt := conversation.lastOutboundAt
  needsReply := conversation.needsReply

def isQuestion (message : Message) : Bool :=
  message.direction = .inbound && message.messageType.asksForReply

def isAnswer (message : Message) : Bool :=
  message.direction = .outbound && message.sendSuccess ≠ some false

def isAction (message : Message) : Bool := isQuestion message || isAnswer message

abbrev IsLatestMessage (kind : Message → Bool) (rows : List Message)
    (latest : Option Message) : Prop :=
  IsLatest Message.createdAtMs kind rows latest

structure SummedUp (rows : List Message) (summary : Summary) : Prop where
  shown : ∃ latest, IsLatestMessage isShown rows latest ∧
    summary.lastMessageContent = latest.map Message.content ∧
    summary.lastMessageType = (latest.map Message.messageType).getD .unknown ∧
    summary.lastMessageDirection = latest.map Message.direction ∧
    summary.lastMessageAt = latest.map Message.createdAtMs
  question : ∃ latest, IsLatestMessage isQuestion rows latest ∧
    summary.lastInboundAt = latest.map Message.createdAtMs
  answer : ∃ latest, IsLatestMessage isAnswer rows latest ∧
    summary.lastOutboundAt = latest.map Message.createdAtMs
  reply : ∃ latest, IsLatestMessage isAction rows latest ∧
    summary.needsReply = decide (latest.map Message.direction = some .inbound)

theorem SummedUp.unique {left right : Summary}
    (htimes : Set.InjOn Message.createdAtMs {message | message ∈ rows})
    (hleft : SummedUp rows left) (hright : SummedUp rows right) : left = right := by
  obtain ⟨shown, hshown, hcontent, htype, hdirection, hat⟩ := hleft.shown
  obtain ⟨shown', hshown', hcontent', htype', hdirection', hat'⟩ := hright.shown
  obtain ⟨question, hquestion, hinbound⟩ := hleft.question
  obtain ⟨question', hquestion', hinbound'⟩ := hright.question
  obtain ⟨answer, hanswer, houtbound⟩ := hleft.answer
  obtain ⟨answer', hanswer', houtbound'⟩ := hright.answer
  obtain ⟨reply, hreply, hneeds⟩ := hleft.reply
  obtain ⟨reply', hreply', hneeds'⟩ := hright.reply
  have hsameShown : shown = shown' := hshown.unique htimes hshown'
  have hsameQuestion : question = question' := hquestion.unique htimes hquestion'
  have hsameAnswer : answer = answer' := hanswer.unique htimes hanswer'
  have hsameReply : reply = reply' := hreply.unique htimes hreply'
  subst hsameShown hsameQuestion hsameAnswer hsameReply
  cases left
  cases right
  simp_all only

/-- A conversation without messages. -/
theorem summedUp_nil : SummedUp [] ({ } : Conversation).summary where
  shown := ⟨none, IsLatest.nil, rfl, rfl, rfl, rfl⟩
  question := ⟨none, IsLatest.nil, rfl⟩
  answer := ⟨none, IsLatest.nil, rfl⟩
  reply := ⟨none, IsLatest.nil, rfl⟩

variable {latest : Option Message} {kind : Message → Bool} {conversationId : String}

theorem datetimeAtOrAfter_map (value : ℤ) :
    datetimeAtOrAfter value (latest.map Message.createdAtMs) = true ↔
      ∀ last ∈ latest, last.createdAtMs ≤ value := by
  cases latest <;> simp [datetimeAtOrAfter]

def laterOf (latest : Option Message) (message : Message) : Option Message :=
  if datetimeAtOrAfter message.createdAtMs (latest.map Message.createdAtMs) then some message
  else latest

/-- The comparison of the running update finds the latest message. -/
theorem isLatest_laterOf (hkind : kind message = true)
    (hlatest : IsLatestMessage kind rows latest) :
    IsLatestMessage kind (rows ++ [message]) (laterOf latest message) := by
  unfold laterOf
  by_cases hnewer : datetimeAtOrAfter message.createdAtMs (latest.map Message.createdAtMs) =
      true
  · rw [if_pos hnewer]
    exact hlatest.append_newer hkind ((datetimeAtOrAfter_map _).mp hnewer)
  · rw [if_neg hnewer]
    cases latest with
    | none => exact absurd rfl hnewer
    | some last =>
        have holder : message.createdAtMs ≤ last.createdAtMs := by
          simp [datetimeAtOrAfter] at hnewer
          exact hnewer.le
        exact hlatest.append_older holder

def Conversation.receive (conversation : Conversation) (message : Message) : Conversation :=
  let shown :=
    if isShown message then
      conversation.showMessage message.direction message.messageType message.content
        message.createdAtMs
    else conversation
  shown.applyWorkState message.direction message.messageType message.createdAtMs
    message.sendSuccess

section Receive

variable (conversation : Conversation) (message : Message)

theorem receive_lastMessage :
    (conversation.receive message).summary.lastMessageContent =
        (if isShown message && datetimeAtOrAfter message.createdAtMs conversation.lastMessageAt
          then some message.content else conversation.lastMessageContent) ∧
      (conversation.receive message).summary.lastMessageType =
        (if isShown message && datetimeAtOrAfter message.createdAtMs conversation.lastMessageAt
          then message.messageType else conversation.lastMessageType) ∧
      (conversation.receive message).summary.lastMessageDirection =
        (if isShown message && datetimeAtOrAfter message.createdAtMs conversation.lastMessageAt
          then some message.direction else conversation.lastMessageDirection) ∧
      (conversation.receive message).summary.lastMessageAt =
        (if isShown message && datetimeAtOrAfter message.createdAtMs conversation.lastMessageAt
          then some message.createdAtMs else conversation.lastMessageAt) := by
  unfold Conversation.receive Conversation.applyWorkState Conversation.showMessage
    Conversation.summary
  by_cases hshown : isShown message = true <;>
    by_cases hnewer : datetimeAtOrAfter message.createdAtMs conversation.lastMessageAt =
      true <;>
    cases message.direction <;> simp [hshown, hnewer] <;> split <;> simp

theorem receive_lastInboundAt :
    (conversation.receive message).lastInboundAt =
      if isQuestion message then
        if datetimeAtOrAfter message.createdAtMs conversation.lastInboundAt then
          some message.createdAtMs
        else conversation.lastInboundAt
      else conversation.lastInboundAt := by
  unfold Conversation.receive Conversation.applyWorkState Conversation.showMessage isQuestion
  cases message.direction <;> cases message.messageType.asksForReply <;> simp <;> grind

theorem receive_lastOutboundAt :
    (conversation.receive message).lastOutboundAt =
      if isAnswer message then
        if datetimeAtOrAfter message.createdAtMs conversation.lastOutboundAt then
          some message.createdAtMs
        else conversation.lastOutboundAt
      else conversation.lastOutboundAt := by
  unfold Conversation.receive Conversation.applyWorkState Conversation.showMessage isAnswer
  cases message.direction <;> cases message.messageType.asksForReply <;> simp <;> grind

theorem receive_needsReply :
    (conversation.receive message).needsReply =
      if isQuestion message then
        if datetimeAtOrAfter message.createdAtMs conversation.lastOutboundAt then true
        else conversation.needsReply
      else if isAnswer message then
        if datetimeAtOrAfter message.createdAtMs conversation.lastInboundAt then false
        else conversation.needsReply
      else conversation.needsReply := by
  unfold Conversation.receive Conversation.applyWorkState Conversation.showMessage isQuestion
    isAnswer
  cases message.direction <;> cases message.messageType.asksForReply <;> simp <;> grind

end Receive

theorem map_laterOf {Value : Type} (field : Message → Value) (latest : Option Message)
    (message : Message) :
    (laterOf latest message).map field =
      if datetimeAtOrAfter message.createdAtMs (latest.map Message.createdAtMs) then
        some (field message)
      else latest.map field := by
  unfold laterOf
  split <;> rfl

theorem direction_of_isQuestion (hquestion : isQuestion message = true) :
    message.direction = .inbound :=
  of_decide_eq_true (Bool.and_eq_true_iff.mp hquestion).1

theorem direction_of_isAnswer (hanswer : isAnswer message = true) :
    message.direction = .outbound :=
  of_decide_eq_true (Bool.and_eq_true_iff.mp hanswer).1

theorem atOrAfter_of_action {action : Option Message} {value : ℤ}
    (hkind : ∀ message, kind message = true → isAction message = true)
    (hlatest : IsLatestMessage kind rows latest) (haction : IsLatestMessage isAction rows action)
    (hvalue : datetimeAtOrAfter value (action.map Message.createdAtMs) = true) :
    datetimeAtOrAfter value (latest.map Message.createdAtMs) = true := by
  rw [datetimeAtOrAfter_map] at hvalue ⊢
  intro last hmem
  rw [Option.mem_def.mp hmem] at hlatest
  have hacts := hkind last hlatest.2.1
  cases action with
  | none =>
      rw [haction last hlatest.1] at hacts
      cases hacts
  | some acted => exact (haction.2.2 last hlatest.1 hacts).trans (hvalue acted rfl)

theorem action_not_of_kind {action : Option Message} {value : ℤ}
    (hlatest : IsLatestMessage kind rows latest) (haction : IsLatestMessage isAction rows action)
    (hvalue : datetimeAtOrAfter value (latest.map Message.createdAtMs) = true)
    (hbefore : ¬ datetimeAtOrAfter value (action.map Message.createdAtMs) = true) :
    ∃ acted, action = some acted ∧ isAction acted = true ∧ kind acted = false := by
  cases action with
  | none => exact absurd rfl hbefore
  | some acted =>
      refine ⟨acted, rfl, haction.2.1, ?_⟩
      by_contra hkind
      rw [datetimeAtOrAfter_map] at hvalue hbefore
      cases latest with
      | none => exact hkind (hlatest acted haction.1)
      | some last =>
          have hle := hlatest.2.2 acted haction.1 (Bool.eq_true_of_not_eq_false hkind)
          exact hbefore fun other hother => by
            rw [← Option.some.inj hother]
            exact hle.trans (hvalue last rfl)

/-- The running update sums up one more message. -/
theorem summedUp_receive (hsummed : SummedUp rows conversation.summary) (message : Message) :
    SummedUp (rows ++ [message]) (conversation.receive message).summary where
  shown := by
    obtain ⟨latest, hlatest, hcontent, htype, hdirection, hat⟩ := hsummed.shown
    obtain ⟨hcontent', htype', hdirection', hat'⟩ := receive_lastMessage conversation message
    change conversation.lastMessageContent = _ at hcontent
    change conversation.lastMessageType = _ at htype
    change conversation.lastMessageDirection = _ at hdirection
    change conversation.lastMessageAt = _ at hat
    by_cases hshown : isShown message = true
    · refine ⟨laterOf latest message, isLatest_laterOf hshown hlatest, ?_, ?_, ?_, ?_⟩
      · rw [hcontent', map_laterOf, hshown, Bool.true_and, hat, hcontent]
      · rw [htype', map_laterOf, hshown, Bool.true_and, hat, htype]
        split <;> rfl
      · rw [hdirection', map_laterOf, hshown, Bool.true_and, hat, hdirection]
      · rw [hat', map_laterOf, hshown, Bool.true_and, hat]
    · have hfailed := Bool.eq_false_iff.mpr hshown
      refine ⟨latest, hlatest.append_other hfailed, ?_, ?_, ?_, ?_⟩
      · rw [hcontent', hfailed, Bool.false_and, if_neg Bool.false_ne_true, hcontent]
      · rw [htype', hfailed, Bool.false_and, if_neg Bool.false_ne_true, htype]
      · rw [hdirection', hfailed, Bool.false_and, if_neg Bool.false_ne_true, hdirection]
      · rw [hat', hfailed, Bool.false_and, if_neg Bool.false_ne_true, hat]
  question := by
    obtain ⟨latest, hlatest, hat⟩ := hsummed.question
    change conversation.lastInboundAt = _ at hat
    by_cases hquestion : isQuestion message = true
    · refine ⟨laterOf latest message, isLatest_laterOf hquestion hlatest, ?_⟩
      rw [map_laterOf]
      change (conversation.receive message).lastInboundAt = _
      rw [receive_lastInboundAt, if_pos hquestion, hat]
    · refine ⟨latest, hlatest.append_other (Bool.eq_false_iff.mpr hquestion), ?_⟩
      change (conversation.receive message).lastInboundAt = _
      rw [receive_lastInboundAt, if_neg hquestion, hat]
  answer := by
    obtain ⟨latest, hlatest, hat⟩ := hsummed.answer
    change conversation.lastOutboundAt = _ at hat
    by_cases hanswer : isAnswer message = true
    · refine ⟨laterOf latest message, isLatest_laterOf hanswer hlatest, ?_⟩
      rw [map_laterOf]
      change (conversation.receive message).lastOutboundAt = _
      rw [receive_lastOutboundAt, if_pos hanswer, hat]
    · refine ⟨latest, hlatest.append_other (Bool.eq_false_iff.mpr hanswer), ?_⟩
      change (conversation.receive message).lastOutboundAt = _
      rw [receive_lastOutboundAt, if_neg hanswer, hat]
  reply := by
    obtain ⟨action, haction, hneeds⟩ := hsummed.reply
    obtain ⟨question, hquestionLatest, hinbound⟩ := hsummed.question
    obtain ⟨answer, hanswerLatest, houtbound⟩ := hsummed.answer
    change conversation.needsReply = _ at hneeds
    change conversation.lastInboundAt = _ at hinbound
    change conversation.lastOutboundAt = _ at houtbound
    change ∃ latest, _ ∧ (conversation.receive message).needsReply = _
    rw [receive_needsReply, hinbound, houtbound]
    by_cases hquestion : isQuestion message = true
    · have hacts : isAction message = true := by simp [isAction, hquestion]
      refine ⟨laterOf action message, isLatest_laterOf hacts haction, ?_⟩
      rw [if_pos hquestion, map_laterOf, direction_of_isQuestion hquestion]
      by_cases hnewer :
          datetimeAtOrAfter message.createdAtMs (action.map Message.createdAtMs) = true
      · have hafter := atOrAfter_of_action (fun _ hanswer => by simp [isAction, hanswer])
          hanswerLatest haction hnewer
        rw [if_pos hafter, if_pos hnewer, decide_eq_true rfl]
      · rw [if_neg hnewer, ← hneeds]
        by_cases hafter :
            datetimeAtOrAfter message.createdAtMs (answer.map Message.createdAtMs) = true
        · obtain ⟨acted, rfl, hacted, hnot⟩ :=
            action_not_of_kind hanswerLatest haction hafter hnewer
          have hasked : isQuestion acted = true := by
            simpa [isAction, hnot] using hacted
          rw [if_pos hafter, hneeds, Option.map_some, direction_of_isQuestion hasked,
            decide_eq_true rfl]
        · rw [if_neg hafter]
    · rw [if_neg hquestion]
      by_cases hanswer : isAnswer message = true
      · have hacts : isAction message = true := by simp [isAction, hanswer]
        refine ⟨laterOf action message, isLatest_laterOf hacts haction, ?_⟩
        rw [if_pos hanswer, map_laterOf, direction_of_isAnswer hanswer]
        by_cases hnewer :
            datetimeAtOrAfter message.createdAtMs (action.map Message.createdAtMs) = true
        · have hafter := atOrAfter_of_action (fun _ hasked => by simp [isAction, hasked])
            hquestionLatest haction hnewer
          rw [if_pos hafter, if_pos hnewer]
          rfl
        · rw [if_neg hnewer, ← hneeds]
          by_cases hafter :
              datetimeAtOrAfter message.createdAtMs (question.map Message.createdAtMs) = true
          · obtain ⟨acted, rfl, hacted, hnot⟩ :=
              action_not_of_kind hquestionLatest haction hafter hnewer
            have hanswered : isAnswer acted = true := by
              simpa [isAction, hnot] using hacted
            rw [if_pos hafter, hneeds, Option.map_some, direction_of_isAnswer hanswered]
            rfl
          · rw [if_neg hafter]
      · rw [if_neg hanswer]
        refine ⟨action, haction.append_other ?_, hneeds⟩
        simp [isAction, hquestion, hanswer]

theorem foldl_observe (rows : List Message) :
    (rows.foldl SummaryState.observe { }).latest =
        IsLatest.lastMeeting (fun _ => true) rows ∧
      (rows.foldl SummaryState.observe { }).lastInboundAt =
        (IsLatest.lastMeeting countsInbound rows).map Message.createdAtMs ∧
      (rows.foldl SummaryState.observe { }).lastOutboundAt =
        (IsLatest.lastMeeting (fun message => message.direction = .outbound) rows).map
          Message.createdAtMs ∧
      (rows.foldl SummaryState.observe { }).lastActionDirection =
        (IsLatest.lastMeeting (fun message =>
          countsInbound message || message.direction = .outbound) rows).map
          Message.direction := by
  induction rows using List.reverseRecOn with
  | nil => exact ⟨rfl, rfl, rfl, rfl⟩
  | append_singleton rows message ih =>
      obtain ⟨-, hinbound, houtbound, haction⟩ := ih
      rw [List.foldl_append, List.foldl_cons, List.foldl_nil]
      simp only [IsLatest.lastMeeting_append, SummaryState.observe, hinbound, houtbound,
        haction, if_true, true_and]
      refine ⟨?_, ?_, ?_⟩
      · split <;> rfl
      · simp only [decide_eq_true_eq]
        split <;> rfl
      · by_cases hcounts : countsInbound message = true
        · have hdirection : message.direction = .inbound :=
            of_decide_eq_true (Bool.and_eq_true_iff.mp hcounts).1
          simp [hcounts, hdirection]
        · by_cases hdirection : message.direction = .outbound
          · simp [hcounts, hdirection]
          · simp [hcounts, hdirection]

def rowsOf (store : MessageStore) (conversationId : String) : List Message :=
  store.messages.rows.filter fun message => message.conversationId = conversationId

theorem sorted_orderedMessages (messages : List Message) (conversationId : String) :
    (orderedMessages messages conversationId).Pairwise fun left right =>
      left.createdAtMs ≤ right.createdAtMs := by
  have htotal : Std.Total comesBefore := ⟨fun left right => by
    rcases lt_trichotomy left.createdAtMs right.createdAtMs with hlt | heq | hgt
    · exact Or.inl (Or.inl hlt)
    · rcases le_total left.messagePk right.messagePk with hle | hge
      · exact Or.inl (Or.inr ⟨heq, hle⟩)
      · exact Or.inr (Or.inr ⟨heq.symm, hge⟩)
    · exact Or.inr (Or.inl hgt)⟩
  have htrans : IsTrans Message comesBefore := ⟨fun first second third hfirst hsecond => by
    rcases hfirst with hlt | ⟨heq, hle⟩
    · rcases hsecond with hlt' | ⟨heq', -⟩
      · exact Or.inl (hlt.trans hlt')
      · exact Or.inl (heq' ▸ hlt)
    · rcases hsecond with hlt' | ⟨heq', hle'⟩
      · exact Or.inl (heq ▸ hlt')
      · exact Or.inr ⟨heq.trans heq', hle.trans hle'⟩⟩
  refine (List.pairwise_insertionSort comesBefore _).imp ?_
  intro left right hbefore
  rcases hbefore with hlt | ⟨heq, -⟩
  · exact hlt.le
  · exact heq.le

theorem isLatest_lastMeeting (store : MessageStore) (conversationId : String)
    (kind : Message → Bool) :
    IsLatestMessage (fun message => kind message && isShown message)
      (rowsOf store conversationId)
      (IsLatest.lastMeeting kind (orderedMessages store.messages.rows conversationId)) := by
  have hsorted : IsLatestMessage kind (orderedMessages store.messages.rows conversationId)
      (IsLatest.lastMeeting kind (orderedMessages store.messages.rows conversationId)) :=
    IsLatest.of_sorted (sorted_orderedMessages store.messages.rows conversationId)
  have hperm := List.perm_insertionSort comesBefore
    ((rowsOf store conversationId).filter isShown)
  exact (hsorted.of_perm hperm.symm).of_filter

def isInboundAudio (message : Message) : Bool :=
  message.direction = .inbound && message.messageType = .audio

theorem countsInbound_and_isShown (hother : isInboundAudio message = false) :
    (countsInbound message && isShown message) = isQuestion message := by
  unfold isInboundAudio countsInbound isShown isQuestion MessageType.asksForReply at *
  cases hdirection : message.direction <;> cases htype : message.messageType <;>
    simp_all

theorem outbound_and_isShown (message : Message) :
    (decide (message.direction = .outbound) && isShown message) = isAnswer message := by
  unfold isShown isAnswer
  cases message.direction <;> simp

theorem reconcile_summary (store : MessageStore) (conversationId : String)
    (conversation : Conversation)
    (hother : ∀ message ∈ rowsOf store conversationId, isInboundAudio message = false) :
    (reconcileConversation store.messages.rows conversationId conversation).summary =
        conversation.summary ∨
      SummedUp (rowsOf store conversationId)
        (reconcileConversation store.messages.rows conversationId conversation).summary := by
  obtain ⟨hlatest, hinbound, houtbound, haction⟩ :=
    foldl_observe (orderedMessages store.messages.rows conversationId)
  have hshown := (isLatest_lastMeeting store conversationId fun _ => true).congr
    fun message _ => Bool.true_and (isShown message)
  have hquestion := (isLatest_lastMeeting store conversationId countsInbound).congr
    fun message hmessage => countsInbound_and_isShown (hother message hmessage)
  have hanswer := (isLatest_lastMeeting store conversationId fun message =>
    message.direction = .outbound).congr fun message _ => outbound_and_isShown message
  have hact := (isLatest_lastMeeting store conversationId fun message =>
    countsInbound message || message.direction = .outbound).congr
      fun message hmessage => by
        rw [Bool.and_or_distrib_right, countsInbound_and_isShown (hother message hmessage),
          outbound_and_isShown]
  unfold reconcileConversation reconciled
  rw [hlatest]
  cases hlast : IsLatest.lastMeeting (fun _ => true)
      (orderedMessages store.messages.rows conversationId) with
  | none => exact Or.inl rfl
  | some latest =>
      right
      rw [hlast] at hshown
      exact
        { shown := ⟨some latest, hshown, rfl, rfl, rfl, rfl⟩
          question := ⟨_, hquestion, hinbound⟩
          answer := ⟨_, hanswer, houtbound⟩
          reply := ⟨_, hact, by simp only [Conversation.summary, haction]⟩ }

section Congruence

variable {left right : Conversation} (direction : Direction) (messageType : MessageType)
  (content : String) (createdAt : ℤ) (sendSuccess : Option Bool)

theorem showMessage_summary (hsame : left.summary = right.summary) :
    (left.showMessage direction messageType content createdAt).summary =
      (right.showMessage direction messageType content createdAt).summary := by
  simp only [Conversation.summary, Summary.mk.injEq] at hsame
  obtain ⟨-, -, -, hat, hinbound, houtbound, hreply⟩ := id hsame
  unfold Conversation.showMessage Conversation.summary
  rw [hat]
  split
  · simp only [hinbound, houtbound, hreply]
  · simpa only [Summary.mk.injEq] using hsame

theorem applyWorkState_summary (hsame : left.summary = right.summary) :
    (left.applyWorkState direction messageType createdAt sendSuccess).summary =
      (right.applyWorkState direction messageType createdAt sendSuccess).summary := by
  simp only [Conversation.summary, Summary.mk.injEq] at hsame
  obtain ⟨hcontent, htype, hdirection, hat, hinbound, houtbound, hreply⟩ := hsame
  unfold Conversation.applyWorkState Conversation.summary
  cases direction with
  | inbound =>
      by_cases hasks : messageType.asksForReply = true
      · simp only [hasks, if_true, hcontent, htype, hdirection, hat, hinbound, houtbound,
          hreply]
      · simp only [hasks, Bool.false_eq_true, if_false, hcontent, htype, hdirection, hat,
          hinbound, houtbound, hreply]
  | outbound =>
      by_cases hsent : sendSuccess ≠ some false
      · simp only [if_pos hsent, hcontent, htype, hdirection, hat, hinbound, houtbound,
          hreply]
      · simp only [if_neg hsent, hcontent, htype, hdirection, hat, hinbound, houtbound,
          hreply]

end Congruence

/-- The insert branch does to the summary what its new row asks for. -/
theorem advanceConversation_summary (incoming : Incoming) (surroundings : Surroundings)
    (conversation : Conversation) :
    (advanceConversation library incoming surroundings.now conversation).summary =
      (conversation.receive (newMessage incoming surroundings)).summary := by
  simp only [advanceConversation, Conversation.receive]
  have hpromote : ∀ (conversation : Conversation) direction messageType content now,
      (if incoming.shouldPromoteActivity = true then
        conversation.promote direction messageType content now else conversation).summary =
          conversation.summary := by
    intro conversation direction messageType content now
    split <;> rfl
  rw [hpromote]
  apply applyWorkState_summary
  have hcount : ∀ conversation : Conversation,
      (if incoming.countsUnread = true then conversation.countMessage.countUnread
        else conversation.countMessage).summary = conversation.summary := by
    intro conversation
    split <;> rfl
  rw [hcount]
  by_cases hshown : isShown (newMessage incoming surroundings) = true
  · rw [if_pos hshown]
    exact (congrArg Conversation.summary (if_pos hshown)).trans
      (showMessage_summary _ _ _ _ rfl)
  · rw [if_neg hshown]
    exact (congrArg Conversation.summary (if_neg hshown)).trans rfl

structure Arrival where
  report : MessageReport
  surroundings : Surroundings
  deriving DecidableEq, Repr

/-- `_record_message_sync` takes in a report. -/
def arrive (library : TextLibrary) : MessageStore → Arrival → MessageStore → Prop :=
  ofPartial fun store arrival =>
    (recordMessage library store arrival.report arrival.surroundings).map Recorded.store

/-- The report is about `conversationId`, and its time is not that of a message of
the conversation. -/
def ArrivesAlone (conversationId : String) (store : MessageStore) (arrival : Arrival) :
    Prop :=
  arrival.report.conversationId = conversationId ∧
    ∀ message ∈ rowsOf store conversationId,
      message.createdAtMs ≠
        createdAt (normalizeEpochMilliseconds arrival.report.createdAtMs)
          arrival.surroundings.now

def CountsAlike (library : TextLibrary) (store : MessageStore) (arrival : Arrival) : Prop :=
  reportedRow library store arrival.report arrival.surroundings.now = none ∧
    ¬ (normalizeDirection arrival.report.direction = .inbound ∧
      normalizeMessageType arrival.report.messageType = .audio)

def SummaryReconciled (store : MessageStore) (conversationId : String) : Prop :=
  ((reconcileConversationSummaries store (some conversationId)).conversations
      conversationId).map Conversation.summary =
    (store.conversations conversationId).map Conversation.summary

structure EmptyConversation (store : MessageStore) (conversationId : String) : Prop where
  rows : rowsOf store conversationId = []
  summary : ((store.conversations conversationId).getD { }).summary =
    ({ } : Conversation).summary

structure SummaryExact (conversationId : String) (store : MessageStore) : Prop where
  summedUp : SummedUp (rowsOf store conversationId)
    ((store.conversations conversationId).getD { }).summary
  times : Set.InjOn Message.createdAtMs
    {message | message ∈ rowsOf store conversationId}
  audio : ∀ message ∈ rowsOf store conversationId, isInboundAudio message = false

theorem summaryExact_of_empty (hempty : EmptyConversation store conversationId) :
    SummaryExact conversationId store where
  summedUp := by
    rw [hempty.rows, hempty.summary]
    exact summedUp_nil
  times := by simp [hempty.rows]
  audio := by simp [hempty.rows]

theorem recordMessage_new {report : MessageReport} {surroundings : Surroundings}
    {recorded : Recorded} (hnew : reportedRow library store report surroundings.now = none)
    (hrecord : recordMessage library store report surroundings = some recorded) :
    recorded.store.messages.rows =
        store.messages.rows ++
          [newMessage (prepareIncoming library store report surroundings.now)
            surroundings] ∧
      recorded.store.conversations =
        Function.update store.conversations report.conversationId
          (some (advanceConversation library
            (prepareIncoming library store report surroundings.now) surroundings.now
            ((store.conversations report.conversationId).getD { }))) := by
  obtain ⟨_, -, hbranch⟩ := Option.bind_eq_some_iff.mp hrecord
  split at hbranch
  next existing hfound =>
    have hnone : some existing = none := hfound.symm.trans hnew
    cases hnone
  next hnone =>
    obtain ⟨messages, hinsert, hrecorded⟩ := Option.bind_eq_some_iff.mp hbranch
    rw [← Option.some.inj hrecorded]
    exact ⟨Table.rows_of_insert? hinsert, rfl⟩

/-- A report of a new message keeps the summary exact. -/
theorem summaryExact_of_arrive {arrival : Arrival} (hexact : SummaryExact conversationId store)
    (halone : ArrivesAlone conversationId store arrival)
    (halike : CountsAlike library store arrival) (harrive : arrive library store arrival next) :
    SummaryExact conversationId next := by
  obtain ⟨recorded, hrecord, rfl⟩ := Option.map_eq_some_iff.mp harrive
  obtain ⟨hrows, hconversations⟩ := recordMessage_new halike.1 hrecord
  let incoming := prepareIncoming library store arrival.report arrival.surroundings.now
  let message := newMessage incoming arrival.surroundings
  have hrowsOf : rowsOf recorded.store conversationId =
      rowsOf store conversationId ++ [message] := by
    unfold rowsOf
    rw [hrows, List.filter_append, List.filter_singleton]
    have hconversation : message.conversationId = conversationId := halone.1
    simp only [message, incoming] at hconversation
    rw [hconversation, decide_eq_true rfl]
    rfl
  have hconversation : ((recorded.store.conversations conversationId).getD { }).summary =
      (((store.conversations conversationId).getD { }).receive message).summary := by
    rw [hconversations, halone.1, Function.update_self, Option.getD_some,
      advanceConversation_summary]
  have haudio : isInboundAudio message = false := by
    have hnot := halike.2
    rw [← Bool.not_eq_true]
    intro hinboundAudio
    obtain ⟨hinbound, htype⟩ := Bool.and_eq_true_iff.mp hinboundAudio
    exact hnot ⟨of_decide_eq_true hinbound, of_decide_eq_true htype⟩
  exact
    { summedUp := by
        rw [hrowsOf, hconversation]
        exact summedUp_receive hexact.summedUp message
      times := by
        rw [hrowsOf]
        intro left hleft right hright hsame
        rcases List.mem_append.mp hleft with holdLeft | hnewLeft
        · rcases List.mem_append.mp hright with holdRight | hnewRight
          · exact hexact.times holdLeft holdRight hsame
          · rw [List.mem_singleton.mp hnewRight] at hsame
            exact absurd hsame (halone.2 left holdLeft)
        · rcases List.mem_append.mp hright with holdRight | hnewRight
          · rw [List.mem_singleton.mp hnewLeft] at hsame
            exact absurd hsame.symm (halone.2 right holdRight)
          · rw [List.mem_singleton.mp hnewLeft, List.mem_singleton.mp hnewRight]
      audio := by
        rw [hrowsOf]
        intro stored hstored
        rcases List.mem_append.mp hstored with hold | hnew
        · exact hexact.audio stored hold
        · rw [List.mem_singleton.mp hnew]
          exact haudio }

theorem summaryReconciled_of_exact (hexact : SummaryExact conversationId store) :
    SummaryReconciled store conversationId := by
  unfold SummaryReconciled
  have hreconcile :
      (reconcileConversationSummaries store (some conversationId)).conversations
          conversationId =
        (store.conversations conversationId).map
          (reconcileConversation store.messages.rows conversationId) :=
    if_pos (by simp)
  rw [hreconcile]
  cases hconversation : store.conversations conversationId with
  | none => rfl
  | some conversation =>
      have hsummed := hexact.summedUp
      rw [hconversation, Option.getD_some] at hsummed
      rw [Option.map_some, Option.map_some, Option.map_some]
      rcases reconcile_summary store conversationId conversation hexact.audio with
        hsame | hreconciled
      · rw [hsame]
      · rw [hreconciled.unique hexact.times hsummed]

/-- In a run of reports of new messages at different times, none of them an inbound
audio message, the row kept message by message is the reconciled one. -/
theorem incremental_summary_reconciled {conversationId : String} {arrivals : List Arrival}
    (hrun : Run (restrict (arrive library) fun store arrival =>
      ArrivesAlone conversationId store arrival ∧ CountsAlike library store arrival)
      start arrivals final)
    (hstart : EmptyConversation start conversationId) :
    SummaryReconciled final conversationId :=
  summaryReconciled_of_exact
    (hrun.invariant (SummaryExact conversationId)
      (fun _ _ _ hexact hstep =>
        summaryExact_of_arrive hexact hstep.1.1 hstep.1.2 hstep.2)
      (summaryExact_of_empty hstart))

def arrivalOf (messageType content row : String) (createdAtMs : ℤ) : Arrival where
  report :=
    { conversationId := "chat"
      direction := "inbound"
      messageType := messageType
      content := content
      createdAtMs := some createdAtMs }
  surroundings :=
    { now := createdAtMs + 400
      messagePk := row
      enabledUsers := [] }

def textsLibrary : TextLibrary :=
  tabulated
    [("chat\x1finbound\x1ftext\x1f在吗\x1f\x1f1700000060000",
        "5de4e446165eefcd476ae0bbebf1162a3dda879019239631fbd1b726aa90eb79"),
      ("chat\x1finbound\x1ftext\x1f你好\x1f\x1f1700000000000",
        "020b3efce64ccb23226e606855027108145136b87a185c032577e3dc80d1d30b")]

/-- Two texts that arrive in the wrong order. -/
theorem incremental_summary_reconciled_texts :
    ∃ final, Run (arrive textsLibrary) MessageStore.empty
        [arrivalOf "text" "在吗" "row-1" 1700000060000,
          arrivalOf "text" "你好" "row-2" 1700000000000] final ∧
      SummaryReconciled final "chat" := by
  have hrun : Run (restrict (arrive textsLibrary) fun store arrival =>
      ArrivesAlone "chat" store arrival ∧ CountsAlike textsLibrary store arrival)
      MessageStore.empty
      [arrivalOf "text" "在吗" "row-1" 1700000060000,
        arrivalOf "text" "你好" "row-2" 1700000000000] _ :=
    .cons ⟨⟨⟨rfl, by decide⟩, rfl, by decide⟩, rfl⟩
      (.cons ⟨⟨⟨rfl, by decide⟩, rfl, by decide⟩, rfl⟩ (.nil _))
  exact ⟨_, hrun.forget, incremental_summary_reconciled hrun ⟨rfl, rfl⟩⟩

/-- The reconciliation takes away the time of an inbound audio message, and with it
that the buyer waits for an answer. -/
theorem incremental_summary_reconciled_fails :
    ¬ ∃ library : TextLibrary, ∀ arrivals final,
      Run (restrict (arrive library) (ArrivesAlone "chat")) MessageStore.empty arrivals
        final → SummaryReconciled final "chat" := by
  rintro ⟨library, hclaim⟩
  have hreconciled := hclaim [arrivalOf "audio" "[语音]" "row-1" 1700000000000] _
    (.cons ⟨⟨rfl, by decide⟩, rfl⟩ (.nil _))
  have hneeds := congrArg (Option.map Summary.needsReply) hreconciled
  cases hneeds

end XianyuAdmin.Messages
