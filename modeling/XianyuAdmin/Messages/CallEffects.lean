import XianyuAdmin.Messages.MessageStore

/-!
# What a call does to the message rows

Whatever else a call writes, it does one of three things to the message rows: it
leaves them alone, it rewrites the row it was matched with, or it appends a row.
Only the last one moves a counter.  The invariants of the store are read off this
description and do not look into the calls again.
-/

namespace XianyuAdmin.Messages

open XianyuAdmin.Python

variable {library : TextLibrary} {store next : MessageStore}

structure SameCounters (store next : MessageStore) : Prop where
  messageCount : ∀ conversationId,
    next.messageCount conversationId = store.messageCount conversationId
  unreadCount : ∀ conversationId,
    next.unreadCount conversationId = store.unreadCount conversationId
  readStates : next.readStates = store.readStates
  runtime : next.runtime.messageCount = store.runtime.messageCount

/-- The row `target` is rewritten and takes the platform id `given`, if there is
one.  The other rows, the conversations of the rows and the counters are kept. -/
structure Rewrites (store : MessageStore) (target : Message) (given : Option String)
    (next : MessageStore) : Prop where
  stored : target ∈ store.messages.rows
  rows : ∃ update : Message → Message,
    next.messages.rows = store.messages.rows.map update ∧
      ∀ message, (update message).messagePk = message.messagePk ∧
        (update message).conversationId = message.conversationId ∧
        (update message).messageId =
          if message.messagePk = target.messagePk then orElse given message.messageId
          else message.messageId
  counters : SameCounters store next

/-- The row `message` is new and is counted once. -/
structure Inserts (store : MessageStore) (message : Message) (next : MessageStore) :
    Prop where
  rows : next.messages.rows = store.messages.rows ++ [message]
  messageCount : ∀ conversationId,
    next.messageCount conversationId =
      store.messageCount conversationId +
        if message.conversationId = conversationId then 1 else 0
  runtime : next.runtime.messageCount = store.runtime.messageCount + 1

variable {conversationId : String} {existing : Message} {incoming : Incoming} {recorded : Recorded}
  {surroundings : Surroundings}

theorem messageCount_of_update {changed : Option Conversation}
    (hconversations : next.conversations =
      Function.update store.conversations conversationId changed) (other : String) :
    next.messageCount other =
      if other = conversationId then changed.elim 0 Conversation.messageCount
      else store.messageCount other := by
  unfold MessageStore.messageCount
  rw [hconversations, Function.update_apply]
  split <;> rfl

theorem unreadCount_of_update {changed : Option Conversation} (hconversations : next.conversations =
      Function.update store.conversations conversationId changed) (other : String) :
    next.unreadCount other =
      if other = conversationId then changed.elim 0 Conversation.unreadCount
      else store.unreadCount other := by
  unfold MessageStore.unreadCount
  rw [hconversations, Function.update_apply]
  split <;> rfl

theorem sameCounters_of_map {change : Conversation → Conversation} (hmessageCount : ∀ conversation,
      (change conversation).messageCount = conversation.messageCount)
    (hunreadCount : ∀ conversation,
      (change conversation).unreadCount = conversation.unreadCount)
    (hconversations : next.conversations =
      Function.update store.conversations conversationId
        ((store.conversations conversationId).map change))
    (hreadStates : next.readStates = store.readStates) (hruntime : next.runtime = store.runtime) :
    SameCounters store next where
  messageCount other := by
    rw [messageCount_of_update hconversations]
    split
    · subst other
      unfold MessageStore.messageCount
      cases store.conversations conversationId with
      | none => rfl
      | some conversation => exact hmessageCount conversation
    · rfl
  unreadCount other := by
    rw [unreadCount_of_update hconversations]
    split
    · subst other
      unfold MessageStore.unreadCount
      cases store.conversations conversationId with
      | none => rfl
      | some conversation => exact hunreadCount conversation
    · rfl
  readStates := hreadStates
  runtime := by rw [hruntime]

@[simp]
theorem mergeConversation_messageCount (incoming : Incoming)
    (conversation : Conversation) :
    (mergeConversation incoming conversation).messageCount =
      conversation.messageCount := by
  simp only [mergeConversation]
  split
  · rw [Conversation.applyWorkState_messageCount]
  · rfl

@[simp]
theorem mergeConversation_unreadCount (incoming : Incoming)
    (conversation : Conversation) :
    (mergeConversation incoming conversation).unreadCount = conversation.unreadCount := by
  simp only [mergeConversation]
  split
  · rw [Conversation.applyWorkState_unreadCount]
  · rfl

@[simp]
theorem advanceConversation_messageCount (incoming : Incoming) (now : ℤ)
    (conversation : Conversation) :
    (advanceConversation library incoming now conversation).messageCount =
      conversation.messageCount + 1 := by
  simp only [advanceConversation, apply_ite Conversation.messageCount,
    Conversation.promote_messageCount, Conversation.applyWorkState_messageCount,
    Conversation.countMessage_messageCount, Conversation.countUnread_messageCount,
    Conversation.showMessage_messageCount, ite_self]

theorem mem_of_findExisting {messages : MessageTable} {messageId dedupeKey : Option String}
    (hfound : findExisting messages messageId dedupeKey = some existing) :
    existing ∈ messages.rows := by
  rcases Option.or_eq_some_iff.mp hfound with hbyId | ⟨-, hbyHash⟩
  · split at hbyId
    · exact Table.mem_of_lookup hbyId
    · cases hbyId
  · obtain ⟨key, -, hlookup⟩ := Option.bind_eq_some_iff.mp hbyHash
    exact Table.mem_of_lookup hlookup

theorem rewrites_of_update {target : Message} {given : Option String}
    {change : Message → Message} {messages : MessageTable}
    (hstored : target ∈ store.messages.rows)
    (hupdate : (store.messages.update? fun message =>
      if message.messagePk = target.messagePk then change message else message) =
        some messages)
    (hmessages : next.messages = messages)
    (hchange : ∀ message, (change message).messagePk = message.messagePk ∧
      (change message).conversationId = message.conversationId ∧
      (change message).messageId = orElse given message.messageId)
    (hcounters : SameCounters store next) : Rewrites store target given next where
  stored := hstored
  rows := by
    refine ⟨_, hmessages ▸ Table.rows_of_update? hupdate, fun message => ?_⟩
    by_cases htarget : message.messagePk = target.messagePk
    · simpa only [htarget, if_true] using hchange message
    · simp only [htarget, if_false, and_self]
  counters := hcounters

theorem rewrites_of_recordExisting (hstored : existing ∈ store.messages.rows)
    (hrecord : recordExisting library store incoming existing = some recorded) :
    Rewrites store existing incoming.report.messageId recorded.store := by
  obtain ⟨messages, hupdate, hrecorded⟩ := Option.bind_eq_some_iff.mp hrecord
  have hstore := congrArg Recorded.store (Option.some.inj hrecorded)
  rw [← hstore]
  exact rewrites_of_update hstored hupdate rfl (fun _ => ⟨rfl, rfl, rfl⟩)
    (sameCounters_of_map (mergeConversation_messageCount incoming)
      (mergeConversation_unreadCount incoming) rfl rfl rfl)

/-- The insert branch appends the new row and counts it. -/
theorem inserts_of_recordNew
    (hrecord : recordNew library store incoming surroundings = some recorded) :
    Inserts store (newMessage incoming surroundings) recorded.store := by
  obtain ⟨messages, hinsert, hrecorded⟩ := Option.bind_eq_some_iff.mp hrecord
  have hstore := congrArg Recorded.store (Option.some.inj hrecorded)
  rw [← hstore]
  exact
    { rows := Table.rows_of_insert? hinsert
      messageCount := by
        intro conversationId
        rw [messageCount_of_update rfl]
        by_cases hconversation : conversationId = incoming.report.conversationId
        · subst conversationId
          have hcount : ((store.conversations incoming.report.conversationId).getD
              { }).messageCount = store.messageCount incoming.report.conversationId := by
            unfold MessageStore.messageCount
            cases store.conversations incoming.report.conversationId <;> rfl
          simp [hcount, newMessage]
        · simp [hconversation, Ne.symm hconversation, newMessage]
      runtime := rfl }

def reportedRow (library : TextLibrary) (store : MessageStore) (report : MessageReport)
    (now : ℤ) : Option Message :=
  findExisting store.messages report.messageId
    (prepareIncoming library store report now).dedupeKey

/-- The row that was found gains at most the id of the report, which is free when
the row was not found by it. -/
theorem messageKeys_mergeReport {key : MessageKey}
    (hfound : findExisting store.messages incoming.report.messageId incoming.dedupeKey =
      some existing) (hkey : key ∈ messageKeys (mergeReport library incoming existing)) :
    key ∈ messageKeys existing ∨ store.messages.lookup key = none := by
  cases key with
  | messageId value =>
      have hid : orElse incoming.report.messageId existing.messageId = some value :=
        messageId_mem_messageKeys.mp hkey
      by_cases hgiven : truthy incoming.report.messageId = true
      · rw [orElse, if_pos hgiven] at hid
        cases hlookup : store.messages.lookup (.messageId value) with
        | none => exact Or.inr rfl
        | some stored =>
            have hsame : stored = existing := by
              rw [findExisting, if_pos hgiven, hid, Option.getD_some, hlookup] at hfound
              exact Option.some.inj hfound
            left
            rw [← hsame]
            exact (Table.lookup_eq_some_iff.mp hlookup).2
      · rw [orElse, if_neg hgiven] at hid
        exact Or.inl (messageId_mem_messageKeys.mpr hid)
  | messagePk value => exact Or.inl (by simpa [mergeReport] using hkey)
  | dedupeKey value => exact Or.inl (by simpa [mergeReport] using hkey)
  | clientRequestId value => exact Or.inl (by simpa [mergeReport] using hkey)

theorem exists_recordMessage_of_found {report : MessageReport}
    (hinstant : (normalizeEpochMilliseconds report.createdAtMs).all isInstant = true)
    (hfound : reportedRow library store report surroundings.now = some existing) :
    ∃ recorded, recordMessage library store report surroundings = some recorded ∧
      recorded.message.messagePk = existing.messagePk := by
  let incoming := prepareIncoming library store report surroundings.now
  have hguard : incoming.platformCreatedAtMs.all isInstant = true := hinstant
  have hexisting :
      findExisting store.messages report.messageId incoming.dedupeKey = some existing :=
    hfound
  have hstored := mem_of_findExisting hexisting
  obtain ⟨messages, hupdate⟩ : ∃ messages, (store.messages.update? fun message =>
      if message.messagePk = existing.messagePk then mergeReport library incoming message
      else message) = some messages := by
    apply Table.exists_update?_of_fresh (messagePk_mem_messageKeys.mpr rfl :
      MessageKey.messagePk existing.messagePk ∈ messageKeys existing)
    intro message hmessage key hkey
    by_cases htarget : message.messagePk = existing.messagePk
    · have hsame : message = existing :=
        Table.eq_of_key hmessage hstored (messagePk_mem_messageKeys.mpr htarget)
          (messagePk_mem_messageKeys.mpr rfl)
      rw [if_pos htarget, hsame] at hkey
      rw [hsame]
      exact (messageKeys_mergeReport hexisting hkey).imp_right fun hfree => ⟨rfl, hfree⟩
    · rw [if_neg htarget] at hkey
      exact Or.inl hkey
  have hbranch :
      recordMessage library store report surroundings =
        recordExisting library store incoming existing := by
    unfold recordMessage
    simp only [incoming, hguard, guard_true, hexisting]
    rfl
  rw [hbranch, recordExisting, hupdate]
  exact ⟨_, rfl, rfl⟩

/-- What `_record_message_sync` does: it rewrites the row it finds, or inserts. -/
theorem recordMessage_cases {report : MessageReport}
    (hrecord : recordMessage library store report surroundings = some recorded) :
    (∃ existing, reportedRow library store report surroundings.now = some existing ∧
      recorded.message.messagePk = existing.messagePk ∧
      Rewrites store existing report.messageId recorded.store) ∨
    (reportedRow library store report surroundings.now = none ∧
      recorded.message.messageId = report.messageId ∧
      Inserts store recorded.message recorded.store) := by
  obtain ⟨_, -, hbranch⟩ := Option.bind_eq_some_iff.mp hrecord
  split at hbranch
  next existing hfound =>
    have hrewrites := rewrites_of_recordExisting (mem_of_findExisting hfound) hbranch
    obtain ⟨messages, -, hrecorded⟩ := Option.bind_eq_some_iff.mp hbranch
    have hmessage := congrArg Recorded.message (Option.some.inj hrecorded)
    refine Or.inl ⟨existing, hfound, ?_, hrewrites⟩
    rw [← hmessage]
    rfl
  next hfound =>
    have hinserts := inserts_of_recordNew hbranch
    obtain ⟨messages, -, hrecorded⟩ := Option.bind_eq_some_iff.mp hbranch
    have hmessage : _ = recorded.message :=
      congrArg Recorded.message (Option.some.inj hrecorded)
    refine Or.inr ⟨hfound, ?_, hmessage ▸ hinserts⟩
    rw [← hmessage]
    rfl

/-- Beginning appends a row, or finds that there is nothing to do. -/
theorem beginOutbound_cases {messageType : MessageType} {sendStatus : SendStatus}
    {request : OutboundRequest} {content : String} {begun : Begun}
    (hbegin : beginOutbound messageType sendStatus store request content surroundings =
      some begun) :
    begun.store = store ∨ ∃ message, Inserts store message begun.store := by
  unfold beginOutbound at hbegin
  split at hbegin
  next =>
    rw [← Option.some.inj hbegin]
    exact Or.inl rfl
  next =>
    split at hbegin
    next =>
      rw [← Option.some.inj hbegin]
      exact Or.inl rfl
    next conversation hconversation =>
      obtain ⟨messages, hinsert, hbegun⟩ := Option.bind_eq_some_iff.mp hbegin
      rw [← Option.some.inj hbegun]
      refine Or.inr ⟨_, Table.rows_of_insert? hinsert, ?_, rfl⟩
      intro conversationId
      rw [messageCount_of_update rfl]
      by_cases hsame : conversationId = request.conversationId
      · subst conversationId
        simp [MessageStore.messageCount, hconversation]
      · simp [hsame, Ne.symm hsame]

theorem completeConversation_messageCount (messageType : MessageType) (now : ℤ)
    (message : Message) (conversation : Conversation) :
    (completeConversation messageType now message conversation).messageCount =
      conversation.messageCount := by
  simp [completeConversation]

theorem completeConversation_unreadCount (messageType : MessageType) (now : ℤ)
    (message : Message) (conversation : Conversation) :
    (completeConversation messageType now message conversation).unreadCount =
      conversation.unreadCount := by
  simp [completeConversation]

theorem completeOutbound_cases {messageType : MessageType}
    {replaceContent : String → String} {result : OutboundResult} {now : ℤ}
    {completed : Completed}
    (hcomplete : completeOutbound messageType replaceContent store result now =
      some completed) :
    completed.store = store ∨
      ∃ existing,
        store.messages.lookup (.clientRequestId result.clientRequestId) = some existing ∧
          Rewrites store existing result.messageId completed.store := by
  unfold completeOutbound at hcomplete
  split at hcomplete
  next =>
    rw [← Option.some.inj hcomplete]
    exact Or.inl rfl
  next existing hlookup =>
    obtain ⟨messages, hupdate, hcompleted⟩ := Option.bind_eq_some_iff.mp hcomplete
    rw [← Option.some.inj hcompleted]
    have hrow := Table.mem_of_lookup hlookup
    refine Or.inr ⟨existing, hlookup,
      rewrites_of_update hrow hupdate rfl (fun _ => ⟨rfl, rfl, rfl⟩) ?_⟩
    by_cases hsuccess : result.success = true
    · exact sameCounters_of_map
        (completeConversation_messageCount messageType now
          (completeRow result replaceContent existing))
        (completeConversation_unreadCount messageType now
          (completeRow result replaceContent existing))
        (if_pos hsuccess) rfl rfl
    · exact
        { messageCount := fun _ => by simp [MessageStore.messageCount, hsuccess]
          unreadCount := fun _ => by simp [MessageStore.unreadCount, hsuccess]
          readStates := rfl
          runtime := rfl }

def matchedRow (library : TextLibrary) (store : MessageStore) : Call → Option Message
  | .recordMessage report surroundings =>
      reportedRow library store report surroundings.now
  | .completeOutboundText result _ | .completeOutboundImage result _ _ =>
      store.messages.lookup (.clientRequestId result.clientRequestId)
  | .beginOutboundText _ _ _ | .beginOutboundImage _ _ => none

def givenMessageId : Call → Option String
  | .recordMessage report _ => report.messageId
  | .completeOutboundText result _ | .completeOutboundImage result _ _ => result.messageId
  | .beginOutboundText _ _ _ | .beginOutboundImage _ _ => none

def replacesMessageId (library : TextLibrary) (store : MessageStore) (call : Call) :
    Bool :=
  truthy (givenMessageId call) &&
    (matchedRow library store call).any fun message =>
      truthy message.messageId && message.messageId ≠ givenMessageId call

inductive Effect (library : TextLibrary) (store : MessageStore) (call : Call)
    (next : MessageStore) : Prop
  | unchanged (hnext : next = store)
  | rewrites (target : Message) (hmatched : matchedRow library store call = some target)
      (hrewrites : Rewrites store target (givenMessageId call) next)
  | inserts (message : Message) (hinserts : Inserts store message next)

theorem effect_of_step {call : Call} (hstep : step library store call next) :
    Effect library store call next := by
  cases call with
  | recordMessage report surroundings =>
      obtain ⟨recorded, hrecord, rfl⟩ := Option.map_eq_some_iff.mp hstep
      rcases recordMessage_cases hrecord with
        ⟨existing, hfound, -, hrewrites⟩ | ⟨-, -, hinserts⟩
      · exact Effect.rewrites existing hfound hrewrites
      · exact Effect.inserts _ hinserts
  | beginOutboundText request text surroundings =>
      obtain ⟨begun, hbegin, rfl⟩ := Option.map_eq_some_iff.mp hstep
      rcases beginOutbound_cases hbegin with hnext | ⟨message, hinserts⟩
      · exact Effect.unchanged hnext
      · exact Effect.inserts message hinserts
  | beginOutboundImage request surroundings =>
      obtain ⟨begun, hbegin, rfl⟩ := Option.map_eq_some_iff.mp hstep
      rcases beginOutbound_cases hbegin with hnext | ⟨message, hinserts⟩
      · exact Effect.unchanged hnext
      · exact Effect.inserts message hinserts
  | completeOutboundText result now =>
      obtain ⟨completed, hcomplete, rfl⟩ := Option.map_eq_some_iff.mp hstep
      rcases completeOutbound_cases hcomplete with hnext | ⟨existing, hlookup, hrewrites⟩
      · exact Effect.unchanged hnext
      · exact Effect.rewrites existing hlookup hrewrites
  | completeOutboundImage result mediaUrl now =>
      obtain ⟨completed, hcomplete, rfl⟩ := Option.map_eq_some_iff.mp hstep
      rcases completeOutbound_cases hcomplete with hnext | ⟨existing, hlookup, hrewrites⟩
      · exact Effect.unchanged hnext
      · exact Effect.rewrites existing hlookup hrewrites

end XianyuAdmin.Messages
