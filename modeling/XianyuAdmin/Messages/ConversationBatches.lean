import XianyuAdmin.Messages.ConversationUpserts

/-!
# Pages of conversation summaries

`_upsert_conversations_sync` writes a page of summaries in one transaction.  It looks the
identities up beforehand, keeps them in a dictionary and assigns only the columns that differ.
On summaries as the platform parser yields them, without spaces around an id or an item text,
it does what `_upsert_conversation_sync` does for one summary after another.
-/

namespace XianyuAdmin.Messages

open XianyuAdmin.Cards
open XianyuAdmin.Python
open Function (update)

/-- `normalized_rows`: the summaries with an id that was not `seen`. -/
def normalizedRows : List String → List SummaryEntry → List SummaryEntry
  | _, [] => []
  | seen, entry :: rest =>
      let conversationId := strip entry.conversationId
      if conversationId = "" ∨ conversationId ∈ seen then normalizedRows seen rest
      else { entry with conversationId := conversationId } ::
        normalizedRows (conversationId :: seen) rest

/-- `resolved_peer_user_id` -/
def UpsertStore.resolvedPeer (store : UpsertStore) (entry : SummaryEntry) : Option String :=
  orElse entry.peerUserId (store.row entry.conversationId).peerUserId

def UpsertStore.peerIds (store : UpsertStore) (entries : List SummaryEntry) : List String :=
  entries.filterMap fun entry => (store.resolvedPeer entry).filter fun peer => peer ≠ ""

/-- What the loop carries: the rows, the dictionary of identities and `changed_ids`. -/
structure BatchState where
  store : UpsertStore
  identities : String → Option PeerIdentity
  changedIds : List String := []

def UpsertStore.fetched (store : UpsertStore) (entries : List SummaryEntry) : BatchState where
  store := store
  identities := fun key => if key ∈ store.peerIds entries then store.identities key else none

/-- The item context of a summary, its texts through `_string_value`. -/
def SummaryEntry.strippedItemContext (entry : SummaryEntry) (itemId : String) :
    ParsedItemContext where
  itemId := itemId
  title := entry.itemTitle.bind stripOrNone
  price := entry.itemPrice.bind stripOrNone
  imageUrl := entry.itemImageUrl.bind stripOrNone
  url := entry.itemUrl.bind stripOrNone
  source := "conversation"

/-- `str(item.get("last_message_type") or "unknown")` -/
def SummaryEntry.typeOrUnknown (entry : SummaryEntry) : String :=
  if entry.lastMessageType = "" then "unknown" else entry.lastMessageType

/-- The row with the columns of `values`; each is assigned where it differs. -/
def assignValues (entry : SummaryEntry) (observedAt : ℤ) (peerUserId peerName : Option String)
    (row : ConversationRow) : ConversationRow :=
  let shown : ConversationRow :=
    if entry.messageTime.isSome || row.lastMessageAt.isNone then
      { row with
        lastMessageContent := textOr entry.lastMessageContent row.lastMessageContent
        lastMessageType := normalizeMessageType entry.typeOrUnknown
        lastMessageDirection := directionOr entry.lastMessageDirection row.lastMessageDirection }
    else row
  { shown with
    peerUserId := peerUserId
    peerName := peerName
    unreadCount := entry.unreadCount.toNat
    lastMessageAt := if entry.messageTime.isSome then some observedAt else row.lastMessageAt }

def assignActivity (entry : SummaryEntry) (observedAt : ℤ) (previous : Option ℤ)
    (row : ConversationRow) : ConversationRow :=
  if row.lastActivityAt.isNone then
    { row with
      lastActivityAt := some (if entry.messageTime.isSome then observedAt else 0)
      lastActivityContent := textOr entry.lastMessageContent row.lastMessageContent
      lastActivityType := some (normalizeMessageType entry.typeOrUnknown)
      lastActivityDirection := directionOr entry.lastMessageDirection row.lastMessageDirection }
  else if summaryChanged entry observedAt previous then
    { row with
      lastActivityAt := some observedAt
      lastActivityContent := textOr entry.lastMessageContent row.lastMessageContent
      lastActivityType := some (normalizeMessageType entry.typeOrUnknown)
      lastActivityDirection := directionOr entry.lastMessageDirection row.lastMessageDirection }
  else row

def assignWorkState (entry : SummaryEntry) (observedAt : ℤ) (row : ConversationRow) :
    ConversationRow :=
  if entry.messageTime.isSome then
    row.applyAuthoritativeSummary entry.lastMessageDirection
      (normalizeMessageType entry.typeOrUnknown) observedAt
  else row

def workStateChanged (row previous : ConversationRow) : Bool :=
  row.needsReply ≠ previous.needsReply || row.lastInboundAt ≠ previous.lastInboundAt ||
    row.lastOutboundAt ≠ previous.lastOutboundAt

section Batch

variable (library : TextLibrary) (links : Links) (now : ℤ)

/-- The flag of `_apply_conversation_item_context` and the row after it. -/
def assignItem (entry : SummaryEntry) (observedAt : ℤ) (row : ConversationRow) :
    Option (Bool × ConversationRow) :=
  if truthy entry.itemId then
    (applyConversationItemContext links row.item
      (entry.strippedItemContext (entry.itemId.getD "")) observedAt).map fun applied =>
        (applied.1, { row with item := applied.2 })
  else some (false, row)

/-- One round of the loop; `none` is an exception. -/
def upsertRound (state : BatchState) (entry : SummaryEntry) : Option BatchState :=
  let previous := state.store.row entry.conversationId
  let peerUserId := state.store.resolvedPeer entry
  (entry.observedAt now).bind fun observedAt =>
    let key := peerUserId.getD "None"
    let merged := mergePeerIdentity library peerUserId entry.peerName previous.peerName
      "conversation" observedAt (state.identities key)
    (assignItem links entry observedAt previous).map fun withItem =>
      let assigned := assignValues entry observedAt peerUserId merged.1 withItem.2
      let unreadDelta := assigned.unreadCount - previous.unreadCount
      let active := assignActivity entry observedAt previous.lastMessageAt assigned
      let final := assignWorkState entry observedAt active
      let changed :=
        (state.store.conversations entry.conversationId).isNone || withItem.1 ||
          assigned ≠ withItem.2 || unreadDelta ≠ 0 ||
          summaryChanged entry observedAt previous.lastMessageAt ||
          workStateChanged final previous
      { store :=
          ((state.store.putIdentity key merged.2).incrementExistingReadStates
            entry.conversationId unreadDelta).putRow entry.conversationId final
        identities := if merged.2.isSome then update state.identities key merged.2
          else state.identities
        changedIds :=
          if changed then state.changedIds ++ [entry.conversationId] else state.changedIds }

structure UpsertedPage where
  store : UpsertStore
  items : List String
  changedItems : List String

/-- `_upsert_conversations_sync`; `none` is an exception, which changes nothing. -/
def upsertConversations (store : UpsertStore) (rows : List SummaryEntry) :
    Option UpsertedPage :=
  let entries := normalizedRows [] rows
  (entries.foldlM (upsertRound library links now) (store.fetched entries)).map fun state =>
    let items := entries.map SummaryEntry.conversationId
    { store := state.store
      items := items
      changedItems := items.filter fun conversationId => conversationId ∈ state.changedIds }

end Batch

/-- An item text as the platform parser yields it. -/
def Trimmed (text : Option String) : Prop := ∀ given, text = some given → strip given = given

structure SummaryEntry.Trimmed (entry : SummaryEntry) : Prop where
  conversationId : strip entry.conversationId = entry.conversationId
  itemTitle : Messages.Trimmed entry.itemTitle
  itemPrice : Messages.Trimmed entry.itemPrice
  itemImageUrl : Messages.Trimmed entry.itemImageUrl

theorem normalizeMessageType_typeOrUnknown (entry : SummaryEntry) :
    normalizeMessageType entry.typeOrUnknown = normalizeMessageType entry.lastMessageType := by
  by_cases hempty : entry.lastMessageType = ""
  · rw [SummaryEntry.typeOrUnknown, if_pos hempty, hempty]
    rfl
  · rw [SummaryEntry.typeOrUnknown, if_neg hempty]

theorem assignActivity_eq (entry : SummaryEntry) (observedAt : ℤ) (previous : Option ℤ)
    (row : ConversationRow) :
    assignActivity entry observedAt previous row = applyActivity entry observedAt previous row := by
  rw [assignActivity, applyActivity, normalizeMessageType_typeOrUnknown]

section WorkState

variable (entry : SummaryEntry) (observedAt : ℤ) (previous : Option ℤ) (row : ConversationRow)

theorem applyActivity_inbound (createdAt : ℤ) :
    applyActivity entry observedAt previous
        { row with lastInboundAt := some createdAt, needsReply := true } =
      { applyActivity entry observedAt previous row with
        lastInboundAt := some createdAt, needsReply := true } := by
  simp only [applyActivity]
  split
  · rfl
  · split <;> rfl

theorem applyActivity_outbound (createdAt : ℤ) :
    applyActivity entry observedAt previous
        { row with lastOutboundAt := some createdAt, needsReply := false } =
      { applyActivity entry observedAt previous row with
        lastOutboundAt := some createdAt, needsReply := false } := by
  simp only [applyActivity]
  split
  · rfl
  · split <;> rfl

/-- The last activity may be written before or after the work state. -/
theorem applyActivity_applyAuthoritativeSummary (direction : Option String)
    (messageType : MessageType) (createdAt : ℤ) :
    applyActivity entry observedAt previous
        (row.applyAuthoritativeSummary direction messageType createdAt) =
      (applyActivity entry observedAt previous row).applyAuthoritativeSummary direction
        messageType createdAt := by
  simp only [ConversationRow.applyAuthoritativeSummary]
  split
  · rfl
  · split
    · split
      · exact applyActivity_inbound entry observedAt previous row createdAt
      · rfl
    · exact applyActivity_outbound entry observedAt previous row createdAt

theorem applyAuthoritativeSummary_unreadCount (direction : Option String)
    (messageType : MessageType) (createdAt : ℤ) (count : ℕ) :
    { row.applyAuthoritativeSummary direction messageType createdAt with unreadCount := count } =
      ({ row with unreadCount := count } : ConversationRow).applyAuthoritativeSummary direction
        messageType createdAt := by
  simp only [ConversationRow.applyAuthoritativeSummary]
  split
  · rfl
  · split
    · split <;> rfl
    · rfl

theorem assigned_eq (item : ItemColumns) (peerUserId peerName : Option String) :
    assignWorkState entry observedAt
        (assignActivity entry observedAt previous
          (assignValues entry observedAt peerUserId peerName { row with item := item })) =
      applyActivity entry observedAt previous
        { applyMessage entry observedAt
            { row with peerUserId := peerUserId, peerName := peerName, item := item } with
          unreadCount := entry.unreadCount.toNat } := by
  rw [assignActivity_eq]
  cases htime : entry.messageTime.isSome with
  | false =>
      simp only [assignWorkState, assignValues, applyMessage, htime,
        normalizeMessageType_typeOrUnknown, Bool.false_eq_true, if_false, Bool.false_or]
      congr 1
      split <;> rfl
  | true =>
      simp only [assignWorkState, assignValues, applyMessage, htime,
        normalizeMessageType_typeOrUnknown, if_true, Bool.true_or,
        applyAuthoritativeSummary_unreadCount, applyActivity_applyAuthoritativeSummary]

end WorkState

section Items

variable (links : Links)

theorem cutText_bind_stripOrNone {text : Option String} (htrimmed : Trimmed text) (count : ℕ) :
    cutText count (text.bind stripOrNone) = cutText count text := by
  cases text with
  | none => rfl
  | some given =>
      have hstrip : strip given = given := htrimmed given rfl
      by_cases hempty : given = ""
      · subst hempty
        rfl
      · rw [Option.bind_some, stripOrNone, hstrip, if_neg hempty]

theorem normalizeItemUrl_stripped (url : Option String) (itemId : Json) :
    normalizeItemUrl links (ofText (url.bind stripOrNone)) itemId =
      normalizeItemUrl links (ofText url) itemId := by
  cases url with
  | none => rfl
  | some given =>
      have hsame : normalizeScalar (ofText (stripOrNone given)) = stripOrNone given := by
        by_cases hempty : strip given = ""
        · rw [stripOrNone, if_pos hempty]
          rfl
        · simp [stripOrNone, hempty, ofText, normalizeScalar, strip_strip]
      have hlong : tooLong (ofText (stripOrNone given)) = false := by
        cases stripOrNone given <;> rfl
      simp only [normalizeItemUrl, Option.bind_some, hsame, hlong]
      rfl

theorem strippedItemContext_applied {entry : SummaryEntry} (htrimmed : entry.Trimmed)
    (columns : ItemColumns) (itemId : String) (observedAt : ℤ) :
    applyConversationItemContext links columns (entry.strippedItemContext itemId) observedAt =
      applyConversationItemContext links columns (entry.itemContext itemId) observedAt := by
  have htitle : cutText 500 (entry.strippedItemContext itemId).title =
      cutText 500 (entry.itemContext itemId).title :=
    cutText_bind_stripOrNone htrimmed.itemTitle 500
  have hprice : cutText 120 (entry.strippedItemContext itemId).price =
      cutText 120 (entry.itemContext itemId).price :=
    cutText_bind_stripOrNone htrimmed.itemPrice 120
  have himage : cutText 1000 (entry.strippedItemContext itemId).imageUrl =
      cutText 1000 (entry.itemContext itemId).imageUrl :=
    cutText_bind_stripOrNone htrimmed.itemImageUrl 1000
  have hurl : normalizeItemUrl links (ofText (entry.strippedItemContext itemId).url)
      (.str (entry.strippedItemContext itemId).itemId) =
      normalizeItemUrl links (ofText (entry.itemContext itemId).url)
        (.str (entry.itemContext itemId).itemId) :=
    normalizeItemUrl_stripped links entry.itemUrl (.str itemId)
  rw [applyConversationItemContext, applyConversationItemContext, htitle, hprice, himage, hurl]
  rfl

/-- The item columns of the page are those of the single summary. -/
theorem assignItem_applyItem {entry : SummaryEntry} (htrimmed : entry.Trimmed) (observedAt : ℤ)
    (row : ConversationRow) (peerUserId peerName : Option String) :
    (assignItem links entry observedAt row = none ∧
      applyItem links entry observedAt
        { row with peerUserId := peerUserId, peerName := peerName } = none) ∨
    ∃ flag item, assignItem links entry observedAt row = some (flag, { row with item := item }) ∧
      applyItem links entry observedAt { row with peerUserId := peerUserId, peerName := peerName } =
        some { row with peerUserId := peerUserId, peerName := peerName, item := item } := by
  cases hitem : truthy entry.itemId with
  | false => exact .inr ⟨false, row.item, by simp [assignItem, hitem], by simp [applyItem, hitem]⟩
  | true =>
      have hcontext := strippedItemContext_applied links htrimmed row.item
        (entry.itemId.getD "") observedAt
      cases happlied : applyConversationItemContext links row.item
          (entry.itemContext (entry.itemId.getD "")) observedAt with
      | none =>
          rw [happlied] at hcontext
          exact .inl ⟨by simp [assignItem, hitem, hcontext], by simp [applyItem, hitem, happlied]⟩
      | some applied =>
          rw [happlied] at hcontext
          exact .inr ⟨applied.1, applied.2, by simp [assignItem, hitem, hcontext],
            by simp [applyItem, hitem, happlied]⟩

end Items

/-- The dictionary holds the rows of the peers, and nothing but rows. -/
structure BatchState.Sound (peers : List String) (state : BatchState) : Prop where
  fetched : ∀ peer ∈ peers, state.identities peer = state.store.identities peer
  stored : ∀ key identity, state.identities key = some identity →
    state.store.identities key = some identity

theorem BatchState.Sound.put {peers : List String} {state next : BatchState} {key : String}
    {identity : Option PeerIdentity} (hsound : state.Sound peers)
    (hstore : next.store.identities = (state.store.putIdentity key identity).identities)
    (hidentities : next.identities =
      if identity.isSome then update state.identities key identity else state.identities) :
    next.Sound peers := by
  cases identity with
  | none => exact ⟨by rw [hstore, hidentities]; exact hsound.fetched,
      by rw [hstore, hidentities]; exact hsound.stored⟩
  | some written =>
      have hrows : next.store.identities = update state.store.identities key (some written) :=
        hstore
      have hkeys : next.identities = update state.identities key (some written) := hidentities
      constructor
      · intro peer hpeer
        rw [hrows, hkeys]
        by_cases hkey : peer = key
        · rw [hkey, Function.update_self, Function.update_self]
        · rw [Function.update_of_ne hkey, Function.update_of_ne hkey, hsound.fetched peer hpeer]
      · intro other identity hidentity
        rw [hkeys] at hidentity
        rw [hrows]
        by_cases hkey : other = key
        · rw [hkey, Function.update_self] at hidentity
          rw [hkey, Function.update_self, hidentity]
        · rw [Function.update_of_ne hkey] at hidentity
          rw [Function.update_of_ne hkey, hsound.stored other identity hidentity]

theorem sound_fetched (store : UpsertStore) (entries : List SummaryEntry) :
    (store.fetched entries).Sound (store.peerIds entries) where
  fetched := fun _ hpeer => if_pos hpeer
  stored := by
    intro key identity hidentity
    simp only [UpsertStore.fetched] at hidentity
    split at hidentity
    · exact hidentity
    · cases hidentity

section Identities

theorem putIdentity_stored {store : UpsertStore} {key : String} {identity : Option PeerIdentity}
    (hstored : ∀ row, identity = some row → store.identities key = some row) :
    store.putIdentity key identity = store := by
  cases identity with
  | none => rfl
  | some row =>
      have hsame : update store.identities key (some row) = store.identities := by
        rw [← hstored row rfl, Function.update_eq_self]
      simp [UpsertStore.putIdentity, hsame]

/-- The dictionary gives the name and the identity row that the query gives. -/
theorem merged_eq (library : TextLibrary) (candidate fallback : Option String) (source : String)
    (observedAt : ℤ) {peers : List String} {state : BatchState} {peerUserId : Option String}
    (hsound : state.Sound peers)
    (hpeer : ∀ peer, peerUserId = some peer → peer ≠ "" → peer ∈ peers) :
    (mergePeerIdentity library peerUserId candidate fallback source observedAt
        (state.identities (peerUserId.getD "None"))).1 =
      (mergePeerIdentity library peerUserId candidate fallback source observedAt
        (state.store.identity peerUserId)).1 ∧
    state.store.putIdentity (peerUserId.getD "None")
        (mergePeerIdentity library peerUserId candidate fallback source observedAt
          (state.identities (peerUserId.getD "None"))).2 =
      state.store.putIdentity (peerUserId.getD "")
        (mergePeerIdentity library peerUserId candidate fallback source observedAt
          (state.store.identity peerUserId)).2 := by
  cases htruthy : truthy peerUserId with
  | false =>
      have hnone : state.store.identity peerUserId = none := by
        simp [UpsertStore.identity, htruthy]
      simp only [mergePeerIdentity, htruthy, hnone, Bool.not_false, if_true, true_and]
      exact (putIdentity_stored (hsound.stored _)).trans (putIdentity_stored fun _ h => by cases h).symm
  | true =>
      obtain ⟨peer, rfl, hne⟩ := exists_of_truthy htruthy
      have hrow : state.store.identity (some peer) = state.identities peer := by
        rw [UpsertStore.identity, if_pos htruthy, Option.bind_some,
          hsound.fetched peer (hpeer peer rfl hne)]
      rw [hrow]
      exact ⟨rfl, rfl⟩

end Identities

section Page

variable {library : TextLibrary} {links : Links} {now : ℤ} {peers : List String}
  {state : BatchState} {entry : SummaryEntry}

def UpsertStore.LooksUp (store : UpsertStore) (peers : List String) (entry : SummaryEntry) :
    Prop :=
  ∀ peer, store.resolvedPeer entry = some peer → peer ≠ "" → peer ∈ peers

/-- A round writes what the single summary writes. -/
theorem upsertRound_store (hsound : state.Sound peers) (hpeer : state.store.LooksUp peers entry)
    (htrimmed : entry.Trimmed) :
    (upsertRound library links now state entry).map BatchState.store =
      upsertConversation library links now state.store entry := by
  cases hobserved : entry.observedAt now with
  | none => simp [upsertRound, upsertConversation, hobserved]
  | some observedAt =>
      obtain ⟨hname, hidentity⟩ := merged_eq library entry.peerName
        (state.store.row entry.conversationId).peerName "conversation" observedAt hsound hpeer
      simp only [UpsertStore.resolvedPeer] at hname hidentity
      rcases assignItem_applyItem links htrimmed observedAt (state.store.row entry.conversationId)
          (state.store.resolvedPeer entry)
          (mergePeerIdentity library (state.store.resolvedPeer entry) entry.peerName
            (state.store.row entry.conversationId).peerName "conversation" observedAt
            (state.store.identity (state.store.resolvedPeer entry))).1
        with ⟨hround, hsingle⟩ | ⟨flag, item, hround, hsingle⟩
      · simp only [UpsertStore.resolvedPeer] at hsingle
        simp [upsertRound, upsertConversation, hobserved, hround, hsingle]
      · simp only [UpsertStore.resolvedPeer] at hsingle
        simp only [upsertRound, upsertConversation, UpsertStore.resolvedPeer, hobserved,
          Option.bind_some, hround, hsingle, Option.map_some, hname, hidentity, assigned_eq]
        rfl

theorem conversations_of_upsertRound {next : BatchState} {other : String}
    (hround : upsertRound library links now state entry = some next)
    (hother : other ≠ entry.conversationId) :
    next.store.conversations other = state.store.conversations other := by
  simp only [upsertRound, Option.bind_eq_some_iff, Option.map_eq_some_iff] at hround
  obtain ⟨observedAt, -, withItem, -, rfl⟩ := hround
  exact Function.update_of_ne hother _ _

/-- A round keeps the dictionary in step with the rows. -/
theorem sound_of_upsertRound {next : BatchState} (hsound : state.Sound peers)
    (hround : upsertRound library links now state entry = some next) : next.Sound peers := by
  simp only [upsertRound, Option.bind_eq_some_iff, Option.map_eq_some_iff] at hround
  obtain ⟨observedAt, -, withItem, -, rfl⟩ := hround
  exact hsound.put rfl rfl

variable {entries : List SummaryEntry}

/-- Without a raised exception, and without spaces around ids and item texts, the page does
what the single summaries do one after another. -/
theorem foldlM_upsertRound (hsound : state.Sound peers)
    (hdistinct : (entries.map SummaryEntry.conversationId).Nodup)
    (htrimmed : ∀ entry ∈ entries, entry.Trimmed)
    (hpeers : ∀ entry ∈ entries, state.store.LooksUp peers entry) :
    (entries.foldlM (upsertRound library links now) state).map BatchState.store =
      entries.foldlM (upsertConversation library links now) state.store := by
  induction entries generalizing state with
  | nil => rfl
  | cons entry rest ih =>
      have hstep : (upsertRound library links now state entry).map BatchState.store =
          upsertConversation library links now state.store entry :=
        upsertRound_store hsound (hpeers entry List.mem_cons_self)
          (htrimmed entry List.mem_cons_self)
      rw [List.foldlM_cons, List.foldlM_cons, ← hstep]
      cases hround : upsertRound library links now state entry with
      | none => rfl
      | some next =>
          have hlater : ∀ later ∈ rest, next.store.LooksUp peers later := by
            intro later hmem
            have hother : later.conversationId ≠ entry.conversationId := fun hsame =>
              (List.nodup_cons.mp hdistinct).1 (hsame ▸ List.mem_map_of_mem hmem)
            have hrow := conversations_of_upsertRound hround hother
            rw [UpsertStore.LooksUp, UpsertStore.resolvedPeer, UpsertStore.row, hrow]
            exact hpeers later (List.mem_cons_of_mem _ hmem)
          exact ih (sound_of_upsertRound hsound hround) (List.nodup_cons.mp hdistinct).2
            (fun later hmem => htrimmed later (List.mem_cons_of_mem _ hmem)) hlater

theorem normalizedRows_eq_self {seen : List String} (htrimmed : ∀ entry ∈ entries, entry.Trimmed)
    (hids : ∀ entry ∈ entries, entry.conversationId ≠ "" ∧ entry.conversationId ∉ seen)
    (hdistinct : (entries.map SummaryEntry.conversationId).Nodup) :
    normalizedRows seen entries = entries := by
  induction entries generalizing seen with
  | nil => rfl
  | cons entry rest ih =>
      have hstrip := (htrimmed entry List.mem_cons_self).conversationId
      have hid := hids entry List.mem_cons_self
      have hrest : normalizedRows (entry.conversationId :: seen) rest = rest := by
        apply ih (fun later hmem => htrimmed later (List.mem_cons_of_mem _ hmem))
        · intro later hmem
          have hother : later.conversationId ≠ entry.conversationId := fun hsame =>
            (List.nodup_cons.mp hdistinct).1 (hsame ▸ List.mem_map_of_mem hmem)
          have hlater := hids later (List.mem_cons_of_mem _ hmem)
          exact ⟨hlater.1, List.not_mem_cons_of_ne_of_not_mem hother hlater.2⟩
        · exact (List.nodup_cons.mp hdistinct).2
      rw [normalizedRows, hstrip, if_neg (not_or.mpr hid), hrest]

theorem looksUp_peerIds (store : UpsertStore) (hmem : entry ∈ entries) :
    store.LooksUp (store.peerIds entries) entry := by
  intro peer hpeer hne
  refine List.mem_filterMap.mpr ⟨entry, hmem, ?_⟩
  rw [hpeer, Option.filter_some, decide_eq_true hne, if_pos rfl]

/-- On summaries without spaces around ids and item texts, the page raises exactly if one of the
single calls raises, and otherwise it leaves the rows that they leave one after another. -/
theorem upsertConversations_eq_foldlM (library : TextLibrary) (links : Links) (now : ℤ)
    (store : UpsertStore) (entries : List SummaryEntry)
    (hids : ∀ entry ∈ entries, entry.conversationId ≠ "")
    (hdistinct : (entries.map SummaryEntry.conversationId).Nodup)
    (htrimmed : ∀ entry ∈ entries, entry.Trimmed) :
    (upsertConversations library links now store entries).map UpsertedPage.store =
      entries.foldlM (upsertConversation library links now) store := by
  have hrows : normalizedRows [] entries = entries :=
    normalizedRows_eq_self htrimmed
      (fun entry hmem => ⟨hids entry hmem, List.not_mem_nil⟩) hdistinct
  have hpage : (entries.foldlM (upsertRound library links now) (store.fetched entries)).map
      BatchState.store = entries.foldlM (upsertConversation library links now) store :=
    foldlM_upsertRound (sound_fetched store entries) hdistinct htrimmed fun _ hmem =>
      looksUp_peerIds store hmem
  rw [upsertConversations, hrows, Option.map_map]
  exact hpage

def sharedPeerPage : List SummaryEntry :=
  [{ conversationId := "c1", peerUserId := some "buyer", lastMessageContent := "hi",
     lastMessageType := "text", lastMessageDirection := some "inbound",
     lastMessageAtMs := some 1700000000000, unreadCount := 1 },
   { conversationId := "c2", peerUserId := some "buyer", peerName := some "Ann",
     itemId := some "1", itemTitle := some "bag", lastMessageContent := "sold",
     lastMessageType := "text", lastMessageDirection := some "outbound",
     lastMessageAtMs := some 1700000001000 }]

def emptyUpsertStore : UpsertStore where
  conversations := fun _ => none
  identities := fun _ => none
  readStates := fun _ _ => none

theorem trimmed_of_sharedPeerPage : ∀ entry ∈ sharedPeerPage, entry.Trimmed := by
  have hbag : Trimmed (some "bag") := fun given hgiven => by
    rw [← Option.some.inj hgiven]
    decide
  have hnone : Trimmed none := fun given hgiven => by cases hgiven
  intro entry hmem
  rcases List.mem_cons.mp hmem with rfl | hmem
  · exact ⟨by decide, hnone, hnone, hnone⟩
  · obtain rfl := List.mem_singleton.mp hmem
    exact ⟨by decide, hbag, hnone, hnone⟩

theorem upsertConversations_sharedPeerPage :
    (upsertConversations (tabulated []) asciiLinks 0 emptyUpsertStore sharedPeerPage).map
        UpsertedPage.store =
      sharedPeerPage.foldlM (upsertConversation (tabulated []) asciiLinks 0) emptyUpsertStore :=
  upsertConversations_eq_foldlM (tabulated []) asciiLinks 0 emptyUpsertStore sharedPeerPage
    (by decide) (by decide) trimmed_of_sharedPeerPage

/-- Spaces around a title or an id are stored by the single call and stripped by the page; a
summary that raises takes the page with it, but not the single calls before it. -/
theorem page_strips_and_raises :
    (∃ entry : SummaryEntry, entry.conversationId = "c1" ∧
      (upsertConversations (tabulated []) asciiLinks 0 emptyUpsertStore [entry]).map
          (fun page => (page.store.row "c1").item.itemTitle) = some (some "bag") ∧
      (upsertConversation (tabulated []) asciiLinks 0 emptyUpsertStore entry).map
          (fun store => (store.row "c1").item.itemTitle) = some (some " bag ")) ∧
    (∃ entry : SummaryEntry, entry.conversationId = " c1 " ∧
      (upsertConversations (tabulated []) asciiLinks 0 emptyUpsertStore [entry]).map
          (fun page => (page.store.conversations " c1 ").isSome) = some false ∧
      (upsertConversation (tabulated []) asciiLinks 0 emptyUpsertStore entry).map
          (fun store => (store.conversations " c1 ").isSome) = some true) ∧
    ∃ first second : SummaryEntry,
      first.conversationId = "c1" ∧ second.conversationId = "c2" ∧
      upsertConversations (tabulated []) asciiLinks 0 emptyUpsertStore [first, second] = none ∧
      (upsertConversation (tabulated []) asciiLinks 0 emptyUpsertStore first).map
          (fun store => (store.conversations "c1").isSome) = some true :=
  ⟨⟨{ conversationId := "c1", itemId := some "1", itemTitle := some " bag " },
      by decide, by decide, by decide⟩,
    ⟨{ conversationId := " c1 " }, by decide, by decide, by decide⟩,
    ⟨{ conversationId := "c1" },
      { conversationId := "c2", lastMessageAtMs := some 1000000000000000000 },
      by decide, by decide, by decide, by decide⟩⟩

end Page

end XianyuAdmin.Messages
