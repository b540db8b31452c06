import XianyuAdmin.Messages.ConversationSummary
import XianyuAdmin.Messages.MessageIdentity

/-!
# Reading a conversation for every user

A conversation and each of its read states hold the number of unread messages.
Next to the numbers stands here which messages they are, by the keys of their
rows: a user without a read state has the messages of the conversation, a user
with one those that arrived since it was last cleared.
`_mark_conversation_read_shared_sync` clears the read states of every enabled
user, unless the conversation has an inbound message that is later than what was
read.  It takes `last_inbound_at` for the time of that message, which is right
as long as every message that counts as unread moves it.
-/

namespace XianyuAdmin.Messages

open XianyuAdmin.Python

structure UnreadMessages where
  counted : String → List String
  included : String → String → List String

structure Inbox where
  store : MessageStore
  unread : UnreadMessages

def UnreadMessages.count (unread : UnreadMessages) (conversationId messagePk : String)
    (enabledUsers : List String) (readStates : String → Option ReadState) : UnreadMessages :=
  let counted := unread.counted conversationId ++ [messagePk]
  { counted := Function.update unread.counted conversationId counted
    included := Function.update unread.included conversationId fun userId =>
      if userId ∈ enabledUsers then
        match readStates userId with
        | none => counted
        | some _ => unread.included conversationId userId ++ [messagePk]
      else unread.included conversationId userId }

def UnreadMessages.clear (unread : UnreadMessages) (conversationId : String)
    (enabledUsers : List String) : UnreadMessages :=
  { unread with
    included := Function.update unread.included conversationId fun userId =>
      if userId ∈ enabledUsers then [] else unread.included conversationId userId }

namespace MessageStore

/-- `last_inbound_at` of a conversation. -/
def lastInboundAt (store : MessageStore) (conversationId : String) : Option ℤ :=
  (store.conversations conversationId).bind Conversation.lastInboundAt

/-- `last_inbound_at` is this time or a later one. -/
def reaches (store : MessageStore) (conversationId : String) (time : ℤ) : Bool :=
  (store.lastInboundAt conversationId).any fun lastInboundAt => time ≤ lastInboundAt

/-- `effective_unread` of a user. -/
def effectiveUnread (store : MessageStore) (conversationId userId : String) : ℕ :=
  (store.readStates conversationId userId).elim (store.unreadCount conversationId)
    ReadState.unreadCount

end MessageStore

/-- `read_through_at.replace(microsecond=999_999)`, in microseconds. -/
def readThroughAt (seenAt : ℤ) : ℤ := seenAt * 1000000 + 999999

def latestReadMessage (conversationId : String) (readThroughAt : ℤ) (messages : List Message) :
    Option Message :=
  ((messages.filter fun message =>
    message.conversationId = conversationId && message.direction = .inbound &&
      message.createdAtMs ≤ readThroughAt / 1000 + 999).insertionSort comesBefore).getLast?

/-- A read state after the messages up to `readThroughAt` were read; `last_read_at` is in
microseconds. -/
def ReadState.readThrough (readThroughAt : ℤ) (latest : Option Message) (state : ReadState) :
    ReadState where
  unreadCount := 0
  lastReadMessageId := latest.bind Message.messageId
  lastReadAt :=
    if state.lastReadAt.all fun lastReadAt => lastReadAt < readThroughAt then some readThroughAt
    else state.lastReadAt

/-- `_mark_conversation_read_shared_sync`: whether the messages are covered, the users whose
count changed, and the store. -/
def markConversationReadShared (conversationId : String) (readThroughAt : ℤ)
    (enabledUsers : List String) (store : MessageStore) : (Bool × List String) × MessageStore :=
  match store.conversations conversationId with
  | none => ((false, []), store)
  | some conversation =>
      if conversation.lastInboundAt.any fun lastInboundAt =>
          readThroughAt < lastInboundAt * 1000 then
        ((false, []), store)
      else if enabledUsers = [] then ((true, []), store)
      else
        let latest := latestReadMessage conversationId readThroughAt store.messages.rows
        ((true, enabledUsers.filter fun userId =>
            0 < store.effectiveUnread conversationId userId),
          { store with
            readStates := Function.update store.readStates conversationId fun userId =>
              if userId ∈ enabledUsers then
                some (((store.readStates conversationId userId).getD { }).readThrough
                  readThroughAt latest)
              else store.readStates conversationId userId })

namespace Inbox

/-- The messages that `effective_unread` of a user includes. -/
def unreadKeys (inbox : Inbox) (conversationId userId : String) : List String :=
  match inbox.store.readStates conversationId userId with
  | none => inbox.unread.counted conversationId
  | some _ => inbox.unread.included conversationId userId

/-- Their rows. -/
def unreadMessages (inbox : Inbox) (conversationId userId : String) : List Message :=
  (inbox.unreadKeys conversationId userId).filterMap fun messagePk =>
    inbox.store.messages.lookup (.messagePk messagePk)

def recordMessage (library : TextLibrary) (inbox : Inbox) (report : MessageReport)
    (surroundings : Surroundings) : Option Inbox :=
  (Messages.recordMessage library inbox.store report surroundings).map fun recorded =>
    { store := recorded.store
      unread :=
        if recorded.inserted && recorded.message.direction = .inbound && report.countUnread then
          inbox.unread.count report.conversationId recorded.message.messagePk
            surroundings.enabledUsers (inbox.store.readStates report.conversationId)
        else inbox.unread }

def markConversationReadShared (conversationId : String) (readThroughAt : ℤ)
    (enabledUsers : List String) (inbox : Inbox) : (Bool × List String) × Inbox :=
  let (answer, store) :=
    Messages.markConversationReadShared conversationId readThroughAt enabledUsers inbox.store
  (answer,
    { store := store
      unread :=
        if answer.1 then inbox.unread.clear conversationId enabledUsers else inbox.unread })

/-- Nothing has arrived yet. -/
def empty : Inbox where
  store := MessageStore.empty
  unread := ⟨fun _ => [], fun _ _ => []⟩

end Inbox

/-- The report leaves no unread message later than `last_inbound_at`: a new message that
counts as unread asks for a reply or is not the latest one, and a message that is reported
again is not dated later. -/
def inTime (library : TextLibrary) (store : MessageStore) (report : MessageReport)
    (now : ℤ) : Bool :=
  let incoming := prepareIncoming library store report now
  match findExisting store.messages report.messageId incoming.dedupeKey with
  | some existing =>
      existing.direction = .outbound ||
        (incoming.platformCreatedAtMs.all fun timestamp => timestamp = 0) ||
        incoming.createdAtMs ≤ existing.createdAtMs ||
        store.reaches existing.conversationId incoming.createdAtMs
  | none =>
      !incoming.countsUnread || incoming.messageType.asksForReply ||
        store.reaches report.conversationId incoming.createdAtMs

section LastInbound

variable (conversation : Conversation) (direction : Direction) (messageType : MessageType)
  (content : String) (createdAt : ℤ) (sendSuccess : Option Bool)

theorem Conversation.applyWorkState_lastInboundAt :
    (conversation.applyWorkState direction messageType createdAt sendSuccess).lastInboundAt =
      if direction = .inbound ∧ messageType.asksForReply = true then
        if datetimeAtOrAfter createdAt conversation.lastInboundAt then some createdAt
        else conversation.lastInboundAt
      else conversation.lastInboundAt := by
  cases direction with
  | inbound =>
      cases hasks : messageType.asksForReply with
      | false => simp [Conversation.applyWorkState, hasks]
      | true => simp [Conversation.applyWorkState, hasks]
  | outbound =>
      simp only [Conversation.applyWorkState]
      split <;> rfl

@[simp]
theorem Conversation.showMessage_lastInboundAt :
    (conversation.showMessage direction messageType content createdAt).lastInboundAt =
      conversation.lastInboundAt := by
  unfold Conversation.showMessage
  split <;> rfl

end LastInbound

variable {library : TextLibrary} {store next : MessageStore} {conversationId : String}

theorem mergeConversation_lastInboundAt (incoming : Incoming) (conversation : Conversation) :
    (mergeConversation incoming conversation).lastInboundAt = conversation.lastInboundAt := by
  unfold mergeConversation
  split
  · rw [Conversation.applyWorkState_lastInboundAt]
    rfl
  · rfl

theorem advanceConversation_lastInboundAt (incoming : Incoming) (now : ℤ)
    (conversation : Conversation) :
    (advanceConversation library incoming now conversation).lastInboundAt =
      if incoming.direction = .inbound ∧ incoming.messageType.asksForReply = true then
        if datetimeAtOrAfter incoming.createdAtMs conversation.lastInboundAt then
          some incoming.createdAtMs
        else conversation.lastInboundAt
      else conversation.lastInboundAt := by
  have hpromote : ∀ (worked : Conversation) (content : String),
      (worked.promote incoming.direction incoming.messageType content now).lastInboundAt =
        worked.lastInboundAt := fun _ _ => rfl
  have hcount : ∀ counted : Conversation,
      counted.countMessage.lastInboundAt = counted.lastInboundAt := fun _ => rfl
  have hunread : ∀ counted : Conversation,
      counted.countUnread.lastInboundAt = counted.lastInboundAt := fun _ => rfl
  simp only [advanceConversation, apply_ite Conversation.lastInboundAt, hpromote, hcount,
    hunread, Conversation.applyWorkState_lastInboundAt, Conversation.showMessage_lastInboundAt,
    ite_self]

/-- The time that is kept is the later of the two. -/
theorem le_of_datetimeAtOrAfter {createdAt time : ℤ} {value : Option ℤ}
    (hle : time ≤ createdAt ∨ (value.any fun stored => time ≤ stored) = true) :
    ((if datetimeAtOrAfter createdAt value then some createdAt else value).any fun stored =>
      time ≤ stored) = true := by
  cases value with
  | none => simpa [datetimeAtOrAfter] using hle
  | some stored =>
      by_cases hlater : stored ≤ createdAt
      · simp only [datetimeAtOrAfter, Option.all_some, hlater, decide_true, if_true]
        simp only [Option.any_some, decide_eq_true_eq] at hle ⊢
        omega
      · simp only [datetimeAtOrAfter, Option.all_some, hlater, decide_false, Bool.false_eq_true,
          if_false]
        simp only [Option.any_some, decide_eq_true_eq] at hle ⊢
        omega

variable {report : MessageReport} {surroundings : Surroundings} {recorded : Recorded}

/-- The two branches of `_record_message_sync`. -/
theorem recordMessage_branch
    (hrecord : recordMessage library store report surroundings = some recorded) :
    (∃ existing, reportedRow library store report surroundings.now = some existing ∧
      recordExisting library store (prepareIncoming library store report surroundings.now)
        existing = some recorded) ∨
    (reportedRow library store report surroundings.now = none ∧
      recordNew library store (prepareIncoming library store report surroundings.now)
        surroundings = some recorded) := by
  obtain ⟨_, -, hbranch⟩ := Option.bind_eq_some_iff.mp hrecord
  split at hbranch
  next existing hfound => exact .inl ⟨existing, hfound, hbranch⟩
  next hfound => exact .inr ⟨hfound, hbranch⟩

variable {incoming : Incoming} {existing : Message} {messagePk : String} {inbox : Inbox}

theorem lastInboundAt_recordExisting
    (hrecord : recordExisting library store incoming existing = some recorded) :
    recorded.store.lastInboundAt conversationId = store.lastInboundAt conversationId := by
  obtain ⟨messages, -, hrecorded⟩ := Option.bind_eq_some_iff.mp hrecord
  rw [← Option.some.inj hrecorded]
  simp only [MessageStore.lastInboundAt, Function.update_apply]
  split
  · rename_i hsame
    rw [hsame]
    cases store.conversations incoming.report.conversationId with
    | none => rfl
    | some conversation => exact mergeConversation_lastInboundAt incoming conversation
  · rfl

/-- A new message moves `last_inbound_at` forward, and as far as itself if it asks for a
reply. -/
theorem reaches_recordNew {time : ℤ}
    (hrecord : recordNew library store incoming surroundings = some recorded)
    (hreaches : store.reaches conversationId time = true ∨
      conversationId = incoming.report.conversationId ∧ incoming.direction = .inbound ∧
        incoming.messageType.asksForReply = true ∧ time ≤ incoming.createdAtMs) :
    recorded.store.reaches conversationId time = true := by
  obtain ⟨messages, -, hrecorded⟩ := Option.bind_eq_some_iff.mp hrecord
  rw [← Option.some.inj hrecorded]
  simp only [MessageStore.reaches, MessageStore.lastInboundAt, Function.update_apply] at hreaches ⊢
  by_cases hsame : conversationId = incoming.report.conversationId
  · rw [hsame] at hreaches ⊢
    have hcurrent : ((store.conversations incoming.report.conversationId).getD
        { }).lastInboundAt = (store.conversations incoming.report.conversationId).bind
          Conversation.lastInboundAt := by
      cases store.conversations incoming.report.conversationId <;> rfl
    simp only [if_true, Option.bind_some, advanceConversation_lastInboundAt, hcurrent]
    split
    · refine le_of_datetimeAtOrAfter ?_
      exact hreaches.elim .inr fun hnew => .inl hnew.2.2.2
    · rename_i hasks
      exact hreaches.elim id fun hnew => absurd ⟨hnew.2.1, hnew.2.2.1⟩ hasks
  · simp only [hsame, if_false]
    exact hreaches.elim id fun hnew => absurd hnew.1 hsame

def Dated (store : MessageStore) (conversationId messagePk : String) : Prop :=
  ∃ message, store.messages.lookup (.messagePk messagePk) = some message ∧
    message.conversationId = conversationId ∧ message.direction = .inbound ∧
    store.reaches conversationId message.createdAtMs = true

theorem Dated.mono (hdated : Dated store conversationId messagePk)
    (hlookup : next.messages.lookup (.messagePk messagePk) =
      store.messages.lookup (.messagePk messagePk))
    (hreaches : ∀ time, store.reaches conversationId time = true →
      next.reaches conversationId time = true) : Dated next conversationId messagePk := by
  obtain ⟨message, hstored, hconversation, hdirection, hbefore⟩ := hdated
  exact ⟨message, hlookup.trans hstored, hconversation, hdirection, hreaches _ hbefore⟩

/-- A report that is in time leaves the row it finds no later than `last_inbound_at`. -/
theorem reaches_mergeReport
    (hfound : reportedRow library store report surroundings.now = some existing)
    (hdirection : existing.direction = .inbound)
    (hreaches : store.reaches existing.conversationId existing.createdAtMs = true)
    (hinTime : inTime library store report surroundings.now = true) :
    store.reaches existing.conversationId
      (mergeReport library (prepareIncoming library store report surroundings.now)
        existing).createdAtMs = true := by
  let incoming := prepareIncoming library store report surroundings.now
  have hsearch : findExisting store.messages report.messageId incoming.dedupeKey =
      some existing := hfound
  have hearlier : incoming.createdAtMs ≤ existing.createdAtMs →
      store.reaches existing.conversationId incoming.createdAtMs = true := by
    intro hle
    obtain ⟨stored, hstored, hlast⟩ := Option.any_eq_true _ _ |>.mp hreaches
    refine (Option.any_eq_true _ _).mpr ⟨stored, hstored, ?_⟩
    simp only [decide_eq_true_eq] at hlast ⊢
    exact hle.trans hlast
  unfold inTime at hinTime
  simp only [incoming] at hsearch hearlier
  simp only [hsearch, hdirection, reduceCtorEq, decide_false, Bool.false_or, Bool.or_eq_true,
    decide_eq_true_eq] at hinTime
  simp only [mergeReport]
  split
  · rename_i hdated
    rcases hinTime with (hsame | hle) | hlast
    · obtain ⟨timestamp, hsome, hne⟩ := (Option.any_eq_true _ _).mp hdated
      rw [hsome] at hsame
      simp only [Option.all_some, decide_eq_true_eq] at hsame hne
      exact absurd hsame hne
    · exact hearlier hle
    · exact hlast
  · exact hreaches

theorem Dated.recordExisting (hdated : Dated store conversationId messagePk)
    (hfound : reportedRow library store report surroundings.now = some existing)
    (hrecord : recordExisting library store
      (prepareIncoming library store report surroundings.now) existing = some recorded)
    (hinTime : inTime library store report surroundings.now = true) :
    Dated recorded.store conversationId messagePk := by
  obtain ⟨message, hlookup, hconversation, hdirection, hreaches⟩ := hdated
  have hlast : ∀ time, recorded.store.reaches conversationId time =
      store.reaches conversationId time := by
    intro time
    rw [MessageStore.reaches, lastInboundAt_recordExisting hrecord, MessageStore.reaches]
  obtain ⟨messages, hupdate, hrecorded⟩ := Option.bind_eq_some_iff.mp hrecord
  have hstored : recorded.store.messages.lookup (.messagePk messagePk) =
      some (if message.messagePk = existing.messagePk then
        mergeReport library (prepareIncoming library store report surroundings.now) message
      else message) := by
    rw [← Option.some.inj hrecorded]
    rw [Table.lookup_of_update? hupdate, hlookup, Option.map_some]
    intro row
    split
    · simp [mergeReport]
    · rfl
  refine ⟨_, hstored, ?_⟩
  rw [hlast]
  split
  · rename_i htarget
    have hsame : message = existing :=
      eq_of_messagePk (Table.mem_of_lookup hlookup) (mem_of_findExisting hfound) htarget
    subst hsame
    subst hconversation
    exact ⟨rfl, hdirection, reaches_mergeReport hfound hdirection hreaches hinTime⟩
  · exact ⟨hconversation, hdirection, hreaches⟩

theorem Dated.recordNew (hdated : Dated store conversationId messagePk)
    (hrecord : recordNew library store incoming surroundings = some recorded) :
    Dated recorded.store conversationId messagePk ∧
      messagePk ≠ recorded.message.messagePk := by
  have hreaches := fun time (hbefore : store.reaches conversationId time = true) =>
    reaches_recordNew hrecord (.inl hbefore)
  obtain ⟨messages, hinsert, hrecorded⟩ := Option.bind_eq_some_iff.mp hrecord
  obtain ⟨message, hlookup, -⟩ := id hdated
  have hfresh : messagePk ≠ (newMessage incoming surroundings).messagePk := by
    intro hsame
    obtain ⟨hmem, hkey⟩ := Table.lookup_eq_some_iff.mp hlookup
    exact Table.noClash_of_insert? hinsert message hmem _ hkey
      (messagePk_mem_messageKeys.mpr hsame.symm)
  have hmessage : recorded.message = newMessage incoming surroundings := by
    rw [← Option.some.inj hrecorded]
  refine ⟨hdated.mono ?_ hreaches, hmessage ▸ hfresh⟩
  rw [← Option.some.inj hrecorded]
  rw [Table.lookup_of_insert? hinsert, if_neg]
  exact fun hkey => hfresh (messagePk_mem_messageKeys.mp hkey).symm

theorem dated_of_recordNew
    (hmissing : reportedRow library store report surroundings.now = none)
    (hrecord : recordNew library store
      (prepareIncoming library store report surroundings.now) surroundings = some recorded)
    (hcounts : (prepareIncoming library store report surroundings.now).countsUnread = true)
    (hinTime : inTime library store report surroundings.now = true) :
    Dated recorded.store report.conversationId recorded.message.messagePk := by
  have hdirection : (prepareIncoming library store report surroundings.now).direction =
      .inbound := by
    simp only [Incoming.countsUnread, Bool.and_eq_true, decide_eq_true_eq] at hcounts
    exact hcounts.1
  have hreaches : recorded.store.reaches report.conversationId
      (prepareIncoming library store report surroundings.now).createdAtMs = true := by
    refine reaches_recordNew hrecord ?_
    have hsearch : findExisting store.messages report.messageId
        (prepareIncoming library store report surroundings.now).dedupeKey = none := hmissing
    simp only [inTime, hsearch, hcounts, Bool.not_true, Bool.false_or, Bool.or_eq_true] at hinTime
    exact hinTime.elim (fun hasks => .inr ⟨rfl, hdirection, hasks, le_rfl⟩) .inl
  obtain ⟨messages, hinsert, hrecorded⟩ := Option.bind_eq_some_iff.mp hrecord
  rw [← Option.some.inj hrecorded] at hreaches ⊢
  refine ⟨newMessage (prepareIncoming library store report surroundings.now) surroundings, ?_, rfl,
    hdirection, hreaches⟩
  rw [Table.lookup_of_insert? hinsert, if_pos (messagePk_mem_messageKeys.mpr rfl)]

structure Tracks (store : MessageStore) (conversationId : String) (keys : List String)
    (count : ℕ) : Prop where
  dated : ∀ messagePk ∈ keys, Dated store conversationId messagePk
  nodup : keys.Nodup
  length : keys.length = count

theorem tracks_nil : Tracks store conversationId [] 0 := ⟨by simp, List.nodup_nil, rfl⟩

theorem Tracks.mono {keys : List String} {count : ℕ}
    (htracks : Tracks store conversationId keys count)
    (hdated : ∀ messagePk, Dated store conversationId messagePk →
      Dated next conversationId messagePk) : Tracks next conversationId keys count where
  dated messagePk hkey := hdated messagePk (htracks.dated messagePk hkey)
  nodup := htracks.nodup
  length := htracks.length

theorem Tracks.append {keys : List String} {count : ℕ}
    (htracks : Tracks store conversationId keys count)
    (hdated : ∀ stored, Dated store conversationId stored →
      Dated next conversationId stored ∧ stored ≠ messagePk)
    (hnew : Dated next conversationId messagePk) :
    Tracks next conversationId (keys ++ [messagePk]) (count + 1) where
  dated stored hkey := by
    rcases List.mem_append.mp hkey with hbefore | hlast
    · exact (hdated stored (htracks.dated stored hbefore)).1
    · rwa [List.mem_singleton.mp hlast]
  nodup := by
    refine List.nodup_append.mpr ⟨htracks.nodup, List.nodup_singleton _, ?_⟩
    intro stored hstored added hadded
    rw [List.mem_singleton.mp hadded]
    exact (hdated stored (htracks.dated stored hstored)).2
  length := by rw [List.length_append, htracks.length, List.length_singleton]

structure Inbox.Sound (inbox : Inbox) : Prop where
  counted : ∀ conversationId, Tracks inbox.store conversationId
    (inbox.unread.counted conversationId) (inbox.store.unreadCount conversationId)
  included : ∀ conversationId userId state,
    inbox.store.readStates conversationId userId = some state →
    Tracks inbox.store conversationId (inbox.unread.included conversationId userId)
      state.unreadCount

theorem Inbox.sound_empty : Inbox.empty.Sound where
  counted _ := tracks_nil
  included _ _ _ hstate := by cases hstate

@[simp]
theorem advanceConversation_unreadCount (incoming : Incoming) (now : ℤ)
    (conversation : Conversation) :
    (advanceConversation library incoming now conversation).unreadCount =
      conversation.unreadCount + if incoming.countsUnread then 1 else 0 := by
  simp only [advanceConversation, apply_ite Conversation.unreadCount,
    Conversation.promote_unreadCount, Conversation.applyWorkState_unreadCount,
    Conversation.countMessage_unreadCount, Conversation.countUnread_unreadCount,
    Conversation.showMessage_unreadCount, ite_self]
  split <;> rfl

theorem unreadCount_recordNew
    (hrecord : recordNew library store incoming surroundings = some recorded) :
    recorded.store.unreadCount conversationId = store.unreadCount conversationId +
      if conversationId = incoming.report.conversationId ∧ incoming.countsUnread = true then 1
      else 0 := by
  obtain ⟨messages, -, hrecorded⟩ := Option.bind_eq_some_iff.mp hrecord
  rw [← Option.some.inj hrecorded, unreadCount_of_update rfl]
  by_cases hsame : conversationId = incoming.report.conversationId
  · have hcurrent : ((store.conversations incoming.report.conversationId).getD
        { }).unreadCount = store.unreadCount incoming.report.conversationId := by
      unfold MessageStore.unreadCount
      cases store.conversations incoming.report.conversationId <;> rfl
    simp [hsame, hcurrent]
  · simp [hsame]

theorem readStates_recordNew
    (hrecord : recordNew library store incoming surroundings = some recorded) :
    recorded.store.readStates =
      if incoming.countsUnread then
        Function.update store.readStates incoming.report.conversationId
          (incrementReadStates surroundings.enabledUsers
            (recorded.store.unreadCount incoming.report.conversationId)
            (store.readStates incoming.report.conversationId))
      else store.readStates := by
  obtain ⟨messages, -, hrecorded⟩ := Option.bind_eq_some_iff.mp hrecord
  rw [← Option.some.inj hrecorded, unreadCount_of_update rfl, if_pos rfl]
  rfl

theorem Inbox.Sound.recordExisting (hsound : inbox.Sound)
    (hfound : reportedRow library inbox.store report surroundings.now = some existing)
    (hrecord : recordExisting library inbox.store
      (prepareIncoming library inbox.store report surroundings.now) existing = some recorded)
    (hinTime : inTime library inbox.store report surroundings.now = true) :
    Inbox.Sound ⟨recorded.store, inbox.unread⟩ := by
  have hdated := fun conversationId messagePk
      (hdated : Dated inbox.store conversationId messagePk) =>
    hdated.recordExisting hfound hrecord hinTime
  have hcounters := (rewrites_of_recordExisting (mem_of_findExisting hfound) hrecord).counters
  refine ⟨fun conversationId => ?_, fun conversationId userId state hstate => ?_⟩
  · rw [hcounters.unreadCount]
    exact (hsound.counted conversationId).mono (hdated conversationId)
  · rw [hcounters.readStates] at hstate
    exact (hsound.included conversationId userId state hstate).mono (hdated conversationId)

theorem tracks_incrementReadStates {unread : UnreadMessages} {enabledUsers : List String}
    {count : ℕ} {readStates : String → Option ReadState} {userId : String} {state : ReadState}
    (hcounted : Tracks next conversationId (unread.counted conversationId ++ [messagePk]) count)
    (hincluded : ∀ stored, readStates userId = some stored →
      Tracks store conversationId (unread.included conversationId userId) stored.unreadCount)
    (hdated : ∀ stored, Dated store conversationId stored →
      Dated next conversationId stored ∧ stored ≠ messagePk)
    (hnew : Dated next conversationId messagePk)
    (hstate : incrementReadStates enabledUsers count readStates userId = some state) :
    Tracks next conversationId
      ((unread.count conversationId messagePk enabledUsers readStates).included conversationId
        userId) state.unreadCount := by
  simp only [UnreadMessages.count, Function.update_self]
  unfold incrementReadStates at hstate
  split at hstate
  · rename_i henabled
    rw [if_pos henabled]
    cases hstored : readStates userId with
    | none =>
        have hpositive : count ≠ 0 := by
          rw [← hcounted.length, List.length_append]
          simp
        simp only [hstored, hpositive, if_false] at hstate
        rw [← Option.some.inj hstate]
        exact hcounted
    | some stored =>
        simp only [hstored] at hstate
        rw [← Option.some.inj hstate]
        exact (hincluded stored hstored).append hdated hnew
  · rename_i hdisabled
    rw [if_neg hdisabled]
    exact (hincluded state hstate).mono fun stored hbefore => (hdated stored hbefore).1

theorem Inbox.Sound.recordNew (hsound : inbox.Sound)
    (hmissing : reportedRow library inbox.store report surroundings.now = none)
    (hrecord : recordNew library inbox.store
      (prepareIncoming library inbox.store report surroundings.now) surroundings =
        some recorded) (hinTime : inTime library inbox.store report surroundings.now = true) :
    Inbox.Sound
      ⟨recorded.store,
        if (prepareIncoming library inbox.store report surroundings.now).countsUnread then
          inbox.unread.count report.conversationId recorded.message.messagePk
            surroundings.enabledUsers (inbox.store.readStates report.conversationId)
        else inbox.unread⟩ := by
  have hreport : (prepareIncoming library inbox.store report surroundings.now).report = report :=
    rfl
  have hdated := fun conversationId messagePk
      (hdated : Dated inbox.store conversationId messagePk) => hdated.recordNew hrecord
  have hkept := fun conversationId messagePk hbefore => (hdated conversationId messagePk hbefore).1
  have hcount : ∀ conversationId, recorded.store.unreadCount conversationId = _ :=
    fun _ => unreadCount_recordNew hrecord
  have hstates := readStates_recordNew hrecord
  rw [hreport] at hstates
  cases hcounts : (prepareIncoming library inbox.store report surroundings.now).countsUnread with
  | false =>
      simp only [hcounts, Bool.false_eq_true, if_false, and_false, add_zero] at hcount hstates ⊢
      refine ⟨fun conversationId => ?_, fun conversationId userId state hstate => ?_⟩
      · rw [hcount]
        exact (hsound.counted conversationId).mono (hkept conversationId)
      · rw [hstates] at hstate
        exact (hsound.included conversationId userId state hstate).mono (hkept conversationId)
  | true =>
      have hnew := dated_of_recordNew hmissing hrecord hcounts hinTime
      simp only [hcounts, if_true, and_true, hreport] at hcount hstates ⊢
      have hcounted : Tracks recorded.store report.conversationId
          (inbox.unread.counted report.conversationId ++ [recorded.message.messagePk])
          (recorded.store.unreadCount report.conversationId) := by
        rw [hcount, if_pos rfl]
        exact (hsound.counted report.conversationId).append (hdated report.conversationId) hnew
      refine ⟨fun conversationId => ?_, fun conversationId userId state hstate => ?_⟩
      · by_cases hsame : conversationId = report.conversationId
        · subst hsame
          simpa only [UnreadMessages.count, Function.update_self] using hcounted
        · rw [hcount, if_neg hsame, add_zero]
          simp only [UnreadMessages.count, Function.update_of_ne hsame]
          exact (hsound.counted conversationId).mono (hkept conversationId)
      · rw [hstates] at hstate
        by_cases hsame : conversationId = report.conversationId
        · subst hsame
          simp only [Function.update_self] at hstate
          exact tracks_incrementReadStates hcounted
            (fun stored => hsound.included report.conversationId userId stored)
            (hdated report.conversationId) hnew hstate
        · simp only [Function.update_of_ne hsame] at hstate
          simp only [UnreadMessages.count, Function.update_of_ne hsame]
          exact (hsound.included conversationId userId state hstate).mono (hkept conversationId)

/-- A report that is in time keeps the counts and the times of what they include. -/
theorem Inbox.Sound.recordMessage {after : Inbox} (hsound : inbox.Sound)
    (hrecord : inbox.recordMessage library report surroundings = some after)
    (hinTime : inTime library inbox.store report surroundings.now = true) : after.Sound := by
  obtain ⟨recorded, hrecorded, rfl⟩ := Option.map_eq_some_iff.mp hrecord
  rcases recordMessage_branch hrecorded with ⟨existing, hfound, hbranch⟩ | ⟨hmissing, hbranch⟩
  · have hinserted : recorded.inserted = false := by
      obtain ⟨messages, -, hend⟩ := Option.bind_eq_some_iff.mp hbranch
      rw [← Option.some.inj hend]
    simpa only [hinserted, Bool.false_and, Bool.false_eq_true, if_false] using
      hsound.recordExisting hfound hbranch hinTime
  · have hcounts : (recorded.inserted && recorded.message.direction = .inbound &&
        report.countUnread) =
          (prepareIncoming library inbox.store report surroundings.now).countsUnread := by
      obtain ⟨messages, -, hend⟩ := Option.bind_eq_some_iff.mp hbranch
      rw [← Option.some.inj hend]
      rfl
    simpa only [hcounts] using hsound.recordNew hmissing hbranch hinTime

/-- What a user has not read is stored and no later than `last_inbound_at`. -/
theorem Inbox.Sound.unreadKeys (hsound : inbox.Sound) (conversationId userId : String) :
    Tracks inbox.store conversationId (inbox.unreadKeys conversationId userId)
      (inbox.store.effectiveUnread conversationId userId) := by
  unfold Inbox.unreadKeys MessageStore.effectiveUnread
  cases hstate : inbox.store.readStates conversationId userId with
  | none => exact hsound.counted conversationId
  | some state => exact hsound.included conversationId userId state hstate

theorem Inbox.Sound.map_unreadMessages (hsound : inbox.Sound) (conversationId userId : String) :
    (inbox.unreadMessages conversationId userId).map Message.messagePk =
      inbox.unreadKeys conversationId userId := by
  have hdated := (hsound.unreadKeys conversationId userId).dated
  unfold Inbox.unreadMessages
  generalize inbox.unreadKeys conversationId userId = keys at hdated
  induction keys with
  | nil => rfl
  | cons messagePk keys ih =>
      obtain ⟨message, hlookup, -⟩ := hdated messagePk List.mem_cons_self
      have hkey := messagePk_mem_messageKeys.mp (Table.lookup_eq_some_iff.mp hlookup).2
      simp only [List.filterMap_cons, hlookup, List.map_cons, hkey]
      rw [ih fun stored hstored => hdated stored (List.mem_cons_of_mem _ hstored)]

structure Cleared where
  conversationId : String
  userId : String
  unreadCount : ℕ
  messages : List Message

/-- The messages are as many as were counted, are inbound ones of the conversation, and were
created before the second after `seenAt` began. -/
structure Cleared.Covered (seenAt : ℤ) (cleared : Cleared) : Prop where
  length : cleared.messages.length = cleared.unreadCount
  nodup : (cleared.messages.map Message.messagePk).Nodup
  inbound : ∀ message ∈ cleared.messages,
    message.conversationId = cleared.conversationId ∧ message.direction = .inbound
  earlier : ∀ message ∈ cleared.messages, message.createdAtMs < (seenAt + 1) * 1000

def Inbox.cleared (inbox : Inbox) (conversationId : String) (userIds : List String) :
    List Cleared :=
  userIds.map fun userId =>
    { conversationId := conversationId
      userId := userId
      unreadCount := inbox.store.effectiveUnread conversationId userId
      messages := inbox.unreadMessages conversationId userId }

/-- What `_mark_conversation_read_shared_sync` did: nothing, or it cleared a conversation that
has no inbound message later than what was read. -/
theorem markConversationReadShared_cases (conversationId : String) (readThroughAt : ℤ)
    (enabledUsers : List String) (store : MessageStore) :
    markConversationReadShared conversationId readThroughAt enabledUsers store =
        ((false, []), store) ∨
      (∀ lastInboundAt, store.lastInboundAt conversationId = some lastInboundAt →
          lastInboundAt * 1000 ≤ readThroughAt) ∧
        ∃ users latest, users ⊆ enabledUsers ∧
          markConversationReadShared conversationId readThroughAt enabledUsers store =
            ((true, users),
              { store with
                readStates := Function.update store.readStates conversationId fun userId =>
                  if userId ∈ enabledUsers then
                    some (((store.readStates conversationId userId).getD { }).readThrough
                      readThroughAt latest)
                  else store.readStates conversationId userId }) := by
  unfold markConversationReadShared
  cases hconversation : store.conversations conversationId with
  | none => exact .inl rfl
  | some conversation =>
      dsimp only
      split
      · exact .inl rfl
      · rename_i hcovered
        refine .inr ⟨fun lastInboundAt hlast => ?_, ?_⟩
        · rw [MessageStore.lastInboundAt, hconversation, Option.bind_some] at hlast
          simpa [hlast] using hcovered
        · split
          · rename_i hnobody
            refine ⟨[], none, by simp, ?_⟩
            simp [hnobody]
          · exact ⟨_, _, List.filter_subset_self _, rfl⟩

theorem Inbox.Sound.covered (hsound : inbox.Sound) {seenAt : ℤ}
    (hcovered : ∀ lastInboundAt, inbox.store.lastInboundAt conversationId = some lastInboundAt →
      lastInboundAt * 1000 ≤ readThroughAt seenAt) (userId : String) :
    Cleared.Covered seenAt
      { conversationId := conversationId
        userId := userId
        unreadCount := inbox.store.effectiveUnread conversationId userId
        messages := inbox.unreadMessages conversationId userId } := by
  have htracks := hsound.unreadKeys conversationId userId
  have hkeys := hsound.map_unreadMessages conversationId userId
  have hdated : ∀ message ∈ inbox.unreadMessages conversationId userId,
      message.conversationId = conversationId ∧ message.direction = .inbound ∧
        inbox.store.reaches conversationId message.createdAtMs = true := by
    intro message hmessage
    obtain ⟨messagePk, hkey, hlookup⟩ := List.mem_filterMap.mp hmessage
    obtain ⟨stored, hstored, hdated⟩ := htracks.dated messagePk hkey
    rwa [Option.some.inj (hlookup.symm.trans hstored)]
  refine ⟨?_, ?_, fun message hmessage => ?_, fun message hmessage => ?_⟩
  · rw [← htracks.length, ← hkeys, List.length_map]
  · rw [hkeys]
    exact htracks.nodup
  · exact ⟨(hdated message hmessage).1, (hdated message hmessage).2.1⟩
  · obtain ⟨lastInboundAt, hlast, hle⟩ :=
      (Option.any_eq_true _ _).mp (hdated message hmessage).2.2
    have hread := hcovered lastInboundAt hlast
    simp only [decide_eq_true_eq] at hle
    unfold readThroughAt at hread
    omega

theorem Inbox.Sound.markConversationReadShared (hsound : inbox.Sound) (conversationId : String)
    (seenAt : ℤ) (enabledUsers : List String) :
    (inbox.markConversationReadShared conversationId (readThroughAt seenAt) enabledUsers).2.Sound ∧
      ∀ cleared ∈ inbox.cleared conversationId
        (inbox.markConversationReadShared conversationId (readThroughAt seenAt) enabledUsers).1.2,
        cleared.Covered seenAt := by
  unfold Inbox.markConversationReadShared
  rcases markConversationReadShared_cases conversationId (readThroughAt seenAt) enabledUsers
    inbox.store with hnothing | ⟨hcovered, users, latest, -, hmark⟩
  · rw [hnothing]
    exact ⟨hsound, by simp [Inbox.cleared]⟩
  · rw [hmark]
    refine ⟨⟨fun other => (hsound.counted other).mono fun _ => id, ?_⟩, ?_⟩
    · intro other userId state hstate
      by_cases hsame : other = conversationId
      · subst hsame
        simp only [Function.update_self] at hstate
        simp only [if_true, UnreadMessages.clear, Function.update_self]
        split at hstate
        · rename_i henabled
          rw [if_pos henabled, ← Option.some.inj hstate]
          exact tracks_nil
        · rename_i hdisabled
          rw [if_neg hdisabled]
          exact (hsound.included other userId state hstate).mono fun _ => id
      · simp only [Function.update_of_ne hsame] at hstate
        simp only [if_true, UnreadMessages.clear, Function.update_of_ne hsame]
        exact (hsound.included other userId state hstate).mono fun _ => id
    · intro cleared hcleared
      obtain ⟨userId, -, rfl⟩ := List.mem_map.mp hcleared
      exact hsound.covered hcovered userId

def NotLater (before after : Option ℤ) : Prop :=
  ∀ time, before = some time → ∃ later, after = some later ∧ time ≤ later

theorem NotLater.refl (time : Option ℤ) : NotLater time time :=
  fun time htime => ⟨time, htime, le_rfl⟩

theorem NotLater.trans {first second third : Option ℤ} (hfirst : NotLater first second)
    (hsecond : NotLater second third) : NotLater first third := by
  intro time htime
  obtain ⟨middle, hmiddle, hle⟩ := hfirst time htime
  obtain ⟨later, hlater, hle'⟩ := hsecond middle hmiddle
  exact ⟨later, hlater, hle.trans hle'⟩

/-- A time that is replaced when there is none or an earlier one. -/
theorem notLater_raise (before : Option ℤ) (time : ℤ) :
    NotLater before (if before.all fun stored => stored < time then some time else before) := by
  intro stored hstored
  subst hstored
  by_cases hlater : stored < time
  · exact ⟨time, by simp [hlater], hlater.le⟩
  · exact ⟨stored, by simp [hlater], le_rfl⟩

/-- Read states stay, and `last_read_at` never decreases. -/
def ReadsKept (store next : MessageStore) : Prop :=
  ∀ conversationId userId state, store.readStates conversationId userId = some state →
    ∃ later, next.readStates conversationId userId = some later ∧
      NotLater state.lastReadAt later.lastReadAt

theorem ReadsKept.refl (store : MessageStore) : ReadsKept store store :=
  fun _ _ state hstate => ⟨state, hstate, .refl _⟩

theorem ReadsKept.trans {first second third : MessageStore} (hfirst : ReadsKept first second)
    (hsecond : ReadsKept second third) : ReadsKept first third := by
  intro conversationId userId state hstate
  obtain ⟨middle, hmiddle, hkept⟩ := hfirst conversationId userId state hstate
  obtain ⟨later, hlater, hkept'⟩ := hsecond conversationId userId middle hmiddle
  exact ⟨later, hlater, hkept.trans hkept'⟩

/-- A store whose read states of one conversation change and keep `last_read_at`. -/
theorem readsKept_of_update {changed : String → Option ReadState}
    (hchanged : ∀ userId state, store.readStates conversationId userId = some state →
      ∃ later, changed userId = some later ∧ NotLater state.lastReadAt later.lastReadAt)
    (hnext : next.readStates = Function.update store.readStates conversationId changed) :
    ReadsKept store next := by
  intro other userId state hstate
  rw [hnext]
  by_cases hsame : other = conversationId
  · subst hsame
    rw [Function.update_self]
    exact hchanged userId state hstate
  · rw [Function.update_of_ne hsame]
    exact ⟨state, hstate, .refl _⟩

theorem readsKept_recordMessage
    (hrecord : recordMessage library store report surroundings = some recorded) :
    ReadsKept store recorded.store := by
  rcases recordMessage_branch hrecord with ⟨existing, hfound, hbranch⟩ | ⟨-, hbranch⟩
  · have hcounters := (rewrites_of_recordExisting (mem_of_findExisting hfound) hbranch).counters
    intro conversationId userId state hstate
    exact ⟨state, by rw [hcounters.readStates, hstate], .refl _⟩
  · have hstates := readStates_recordNew hbranch
    split at hstates
    · refine readsKept_of_update ?_ hstates
      intro userId state hstate
      unfold incrementReadStates
      rw [hstate]
      split
      · exact ⟨_, rfl, .refl _⟩
      · exact ⟨state, rfl, .refl _⟩
    · intro conversationId userId state hstate
      exact ⟨state, by rw [hstates, hstate], .refl _⟩

theorem readsKept_markConversationReadShared (conversationId : String) (readThroughAt : ℤ)
    (enabledUsers : List String) (store : MessageStore) :
    ReadsKept store
      (markConversationReadShared conversationId readThroughAt enabledUsers store).2 := by
  rcases markConversationReadShared_cases conversationId readThroughAt enabledUsers store with
    hnothing | ⟨-, users, latest, -, hmark⟩
  · rw [hnothing]
    exact .refl store
  · rw [hmark]
    refine readsKept_of_update ?_ rfl
    intro userId state hstate
    rw [hstate]
    split
    · exact ⟨_, rfl, notLater_raise state.lastReadAt readThroughAt⟩
    · exact ⟨state, rfl, .refl _⟩

end XianyuAdmin.Messages
