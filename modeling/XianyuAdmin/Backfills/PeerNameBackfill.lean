import XianyuAdmin.Backfills.ContextBackfill
import XianyuAdmin.Messages.PeerNames

/-!
# Names of peers in stored rows

`_backfill_peer_names_sync` elects a name for every peer from the stored identity, the inbound
messages and, where these tell none, the conversations, and shows it in all their rows.  On a
second run the renamed messages tell the elected name as well, at their own times.
-/

namespace XianyuAdmin.Backfills

open XianyuAdmin.Cards
open XianyuAdmin.Messages
open XianyuAdmin.Python

/-- An entry of `candidates` after a message that tells a name. -/
def takeName (candidate : Option PeerIdentity) (told : PeerIdentity) : Option PeerIdentity :=
  if candidate.all fun current => current.lastSeenAt ≤ told.lastSeenAt then some told
  else candidate

def Beats (winner other : PeerIdentity) : Prop :=
  other.lastSeenAt < winner.lastSeenAt ∨
    other.lastSeenAt = winner.lastSeenAt ∧ (other.source = "message" → winner.source = "message")

def Dates (observation : PeerIdentity) (createdAt : ℤ) : Prop :=
  createdAt < observation.lastSeenAt ∨
    createdAt = observation.lastSeenAt ∧ observation.source = "message"

theorem Beats.refl (winner : PeerIdentity) : Beats winner winner := .inr ⟨rfl, id⟩

theorem Beats.trans {first second third : PeerIdentity} (hfirst : Beats first second)
    (hsecond : Beats second third) : Beats first third := by
  rcases hfirst with hfirst | ⟨hfirst, hmessage⟩
  · rcases hsecond with hsecond | ⟨hsecond, -⟩
    · exact .inl (hsecond.trans hfirst)
    · exact .inl (hsecond ▸ hfirst)
  · rcases hsecond with hsecond | ⟨hsecond, htold⟩
    · exact .inl (hfirst ▸ hsecond)
    · exact .inr ⟨hsecond.trans hfirst, fun hsource => hmessage (htold hsource)⟩

theorem Dates.of_beats {winner other : PeerIdentity} {createdAt : ℤ} (hdates : Dates other createdAt)
    (hbeats : Beats winner other) : Dates winner createdAt := by
  rcases hbeats with hbeats | ⟨hbeats, hmessage⟩
  · rcases hdates with hdates | ⟨hdates, -⟩
    · exact .inl (hdates.trans hbeats)
    · exact .inl (hdates ▸ hbeats)
  · rcases hdates with hdates | ⟨hdates, hsource⟩
    · exact .inl (hbeats ▸ hdates)
    · exact .inr ⟨hdates.trans hbeats, hmessage hsource⟩

theorem foldl_takeName {told : List PeerIdentity} (hmessages : ∀ name ∈ told, name.source = "message")
    (candidate : Option PeerIdentity) :
    (∀ winner, told.foldl takeName candidate = some winner →
      winner ∈ candidate.toList ++ told ∧
        ∀ other ∈ candidate.toList ++ told, Beats winner other) ∧
    (told.foldl takeName candidate = none → candidate.toList ++ told = []) := by
  induction told using List.reverseRecOn with
  | nil =>
      rw [List.foldl_nil, List.append_nil]
      refine ⟨fun winner hwinner => ?_, fun hnone => by rw [hnone]; rfl⟩
      rw [hwinner]
      exact ⟨List.mem_singleton_self _, fun other hother =>
        List.mem_singleton.mp hother ▸ Beats.refl _⟩
  | append_singleton told name ih =>
      obtain ⟨hwinner, hnone⟩ := ih fun other hother =>
        hmessages other (List.mem_append_left _ hother)
      have hname := hmessages name (List.mem_append_right _ List.mem_cons_self)
      rw [List.foldl_append, List.foldl_cons, List.foldl_nil, ← List.append_assoc]
      cases hbefore : told.foldl takeName candidate with
      | none =>
          rw [hnone hbefore]
          refine ⟨fun winner htaken => ?_, fun htaken => by cases htaken⟩
          cases htaken
          exact ⟨List.mem_singleton_self _, fun other hother =>
            List.mem_singleton.mp hother ▸ Beats.refl _⟩
      | some current =>
          obtain ⟨hmem, hbeats⟩ := hwinner current hbefore
          by_cases hnewer : current.lastSeenAt ≤ name.lastSeenAt
          · have htaken : takeName (some current) name = some name := by simp [takeName, hnewer]
            rw [htaken]
            refine ⟨fun winner hsame => ?_, fun hsame => by cases hsame⟩
            cases hsame
            have hover : Beats name current := by
              rcases lt_or_eq_of_le hnewer with hlt | heq
              · exact .inl hlt
              · exact .inr ⟨heq, fun _ => hname⟩
            refine ⟨List.mem_append_right _ List.mem_cons_self, fun other hother => ?_⟩
            rcases List.mem_append.mp hother with hold | hnew
            · exact hover.trans (hbeats other hold)
            · exact List.mem_singleton.mp hnew ▸ Beats.refl _
          · have htaken : takeName (some current) name = some current := by
              simp [takeName, hnewer]
            rw [htaken]
            refine ⟨fun winner hsame => ?_, fun hsame => by cases hsame⟩
            cases hsame
            refine ⟨List.mem_append_left _ hmem, fun other hother => ?_⟩
            rcases List.mem_append.mp hother with hold | hnew
            · exact hbeats other hold
            · exact List.mem_singleton.mp hnew ▸ .inl (not_le.mp hnewer)

theorem exists_foldl_takeName (candidate : PeerIdentity) (times : List ℤ) :
    ∃ again, (times.map fun createdAt => ({ candidate with
        source := "message", lastSeenAt := createdAt } : PeerIdentity)).foldl takeName
          (some candidate) = some again ∧ again.displayName = candidate.displayName := by
  have hmessages : ∀ name ∈ times.map fun createdAt => ({ candidate with
      source := "message", lastSeenAt := createdAt } : PeerIdentity), name.source = "message" := by
    intro name hname
    obtain ⟨time, -, rfl⟩ := List.mem_map.mp hname
    rfl
  obtain ⟨hsome, hnone⟩ := foldl_takeName hmessages (some candidate)
  cases hread : (times.map fun createdAt => ({ candidate with
      source := "message", lastSeenAt := createdAt } : PeerIdentity)).foldl takeName
        (some candidate) with
  | none => exact absurd (hnone hread) (List.cons_ne_nil _ _)
  | some again =>
      refine ⟨again, rfl, ?_⟩
      rcases List.mem_append.mp (hsome again hread).1 with hsame | htold
      · rw [List.mem_singleton.mp hsame]
      · obtain ⟨time, -, rfl⟩ := List.mem_map.mp htold
        rfl

theorem foldl_takeName_eq_self_iff {candidate : PeerIdentity} {times : List ℤ} :
    (times.map fun createdAt => ({ candidate with
        source := "message", lastSeenAt := createdAt } : PeerIdentity)).foldl takeName
          (some candidate) = some candidate ↔
      ∀ createdAt ∈ times, Dates candidate createdAt := by
  constructor
  · intro hsame createdAt hmem
    have hbeats := ((foldl_takeName (fun name hname => by
      obtain ⟨time, -, rfl⟩ := List.mem_map.mp hname
      rfl) (some candidate)).1 candidate hsame).2 _
        (List.mem_append_right _ (List.mem_map_of_mem hmem))
    rcases hbeats with hbeats | ⟨hbeats, hmessage⟩
    · exact .inl hbeats
    · exact .inr ⟨hbeats, hmessage rfl⟩
  · intro hdates
    induction times with
    | nil => rfl
    | cons createdAt rest ih =>
        have hstep : takeName (some candidate) { candidate with
            source := "message", lastSeenAt := createdAt } = some candidate := by
          rcases hdates createdAt List.mem_cons_self with holder | ⟨hsame, hsource⟩
          · simp [takeName, holder]
          · rw [hsame, ← hsource]
            simp [takeName]
        rw [List.map_cons, List.foldl_cons, hstep]
        exact ih fun later hmem => hdates later (List.mem_cons_of_mem _ hmem)

section Backfill

variable (library : TextLibrary)

def BackfillStore.peerKey (store : BackfillStore) (accountId : String)
    (peerUserId : Option String) : Option PeerKey :=
  (store.platforms accountId).bind fun platform =>
    (peerUserId.filter fun peer => peer ≠ "").map fun peer => ⟨platform, accountId, peer⟩

def PeerKey.namedIdentity (key : PeerKey) (identity : PeerIdentity) : Option PeerIdentity :=
  (normalizePeerName library (some key.peerUserId) (some identity.displayName)).map fun name =>
    { identity with displayName := name }

def BackfillStore.messageName (store : BackfillStore) (key : PeerKey) (message : StoredMessage) :
    Option PeerIdentity :=
  if store.peerKey message.accountId message.peerUserId = some key then
    (normalizePeerName library message.peerUserId message.peerName).map fun name =>
      { displayName := name, source := "message", lastSeenAt := message.createdAt }
  else none

def BackfillStore.conversationName (store : BackfillStore) (key : PeerKey)
    (conversation : StoredConversation) : Option PeerIdentity :=
  if store.peerKey conversation.accountId conversation.peerUserId = some key then
    (normalizePeerName library conversation.peerUserId conversation.peerName).map fun name =>
      { displayName := name
        source := "conversation"
        lastSeenAt := conversation.lastMessageAt.getD conversation.updatedAt }
  else none

def inbound (messages : List StoredMessage) : List StoredMessage :=
  (ordered messages).filter fun message => message.direction = "inbound"

/-- The entry of `candidates` under a key: every loop goes on from the entry before it. -/
def BackfillStore.elected (store : BackfillStore) (key : PeerKey) : Option PeerIdentity :=
  let stored := (store.identities key).bind (key.namedIdentity library)
  let read := (inbound store.messages).foldl (fun candidate message =>
    (store.messageName library key message).elim candidate (takeName candidate)) stored
  store.conversations.foldl (fun candidate conversation =>
    candidate.or (store.conversationName library key conversation)) read

def BackfillStore.electedIdentities (store : BackfillStore) (key : PeerKey) :
    Option PeerIdentity :=
  (store.elected library key).or (store.identities key)

def BackfillStore.desiredName (store : BackfillStore) (accountId : String)
    (peerUserId peerName : Option String) : Option String :=
  normalizePeerName library peerUserId
    (((store.peerKey accountId peerUserId).bind (store.electedIdentities library)).elim peerName
      fun identity => some identity.displayName)

def BackfillStore.renamedMessage (store : BackfillStore) (message : StoredMessage) :
    StoredMessage :=
  if message.direction = "inbound" then
    { message with
      peerName := store.desiredName library message.accountId message.peerUserId message.peerName }
  else message

def BackfillStore.renamedConversation (store : BackfillStore)
    (conversation : StoredConversation) : StoredConversation :=
  { conversation with
    peerName := store.desiredName library conversation.accountId conversation.peerUserId
      conversation.peerName }

theorem messagePk_renamedMessage (store : BackfillStore) (message : StoredMessage) :
    (store.renamedMessage library message).messagePk = message.messagePk := by
  rw [BackfillStore.renamedMessage]
  split <;> rfl

theorem nodup_renamedMessage (store : BackfillStore) {messages : List StoredMessage}
    (hnodup : (messages.map StoredMessage.messagePk).Nodup) :
    ((messages.map (store.renamedMessage library)).map StoredMessage.messagePk).Nodup := by
  rw [List.map_map]
  exact (List.map_congr_left fun message _ =>
    messagePk_renamedMessage library store message).symm ▸ hnodup

/-- `_backfill_peer_names_sync`: the rows afterwards and the count that is returned. -/
def backfillPeerNames (store : BackfillStore) : BackfillStore × ℕ :=
  ({ store with
      messages := store.messages.map (store.renamedMessage library)
      conversations := store.conversations.map (store.renamedConversation library)
      identities := store.electedIdentities library
      messages_nodup := nodup_renamedMessage library store store.messages_nodup },
    (store.conversations.countP fun conversation =>
        conversation.peerName ≠ (store.renamedConversation library conversation).peerName) +
      (store.messages.countP fun message =>
        message.peerName ≠ (store.renamedMessage library message).peerName))

def BackfillStore.observations (store : BackfillStore) (key : PeerKey) : List PeerIdentity :=
  let named := ((store.identities key).bind (key.namedIdentity library)).toList ++
    (inbound store.messages).filterMap (store.messageName library key)
  if named = [] then
    (store.conversations.filterMap (store.conversationName library key)).head?.toList
  else named

variable {library} {store : BackfillStore} {key : PeerKey}

theorem foldl_messageName (messages : List StoredMessage) (candidate : Option PeerIdentity) :
    messages.foldl (fun candidate message =>
        (store.messageName library key message).elim candidate (takeName candidate)) candidate =
      (messages.filterMap (store.messageName library key)).foldl takeName candidate := by
  induction messages generalizing candidate with
  | nil => rfl
  | cons message rest ih =>
      rw [List.foldl_cons, ih, List.filterMap_cons]
      cases store.messageName library key message <;> rfl

theorem foldl_conversationName (conversations : List StoredConversation)
    (candidate : Option PeerIdentity) :
    conversations.foldl (fun candidate conversation =>
        candidate.or (store.conversationName library key conversation)) candidate =
      candidate.or (conversations.filterMap (store.conversationName library key)).head? := by
  induction conversations generalizing candidate with
  | nil => exact Option.or_none.symm
  | cons conversation rest ih =>
      rw [List.foldl_cons, ih, List.filterMap_cons, Option.or_assoc]
      cases store.conversationName library key conversation <;> rfl

variable {message : StoredMessage} {winner : PeerIdentity} {accountId : String}
  {peerUserId : Option String}

theorem source_messageName {name : PeerIdentity}
    (hname : store.messageName library key message = some name) : name.source = "message" := by
  rw [BackfillStore.messageName] at hname
  split at hname
  · obtain ⟨text, -, rfl⟩ := Option.map_eq_some_iff.mp hname
    rfl
  · cases hname

theorem elected_eq (store : BackfillStore) (key : PeerKey) :
    store.elected library key =
      (((inbound store.messages).filterMap (store.messageName library key)).foldl takeName
        ((store.identities key).bind (key.namedIdentity library))).or
          (store.conversations.filterMap (store.conversationName library key)).head? := by
  rw [BackfillStore.elected, foldl_conversationName, foldl_messageName]

variable (library) in
theorem foldl_messageNames (store : BackfillStore) (key : PeerKey)
    (candidate : Option PeerIdentity) :
    (∀ winner, ((inbound store.messages).filterMap (store.messageName library key)).foldl takeName
        candidate = some winner →
      winner ∈ candidate.toList ++
          (inbound store.messages).filterMap (store.messageName library key) ∧
        ∀ other ∈ candidate.toList ++
            (inbound store.messages).filterMap (store.messageName library key),
          Beats winner other) ∧
    (((inbound store.messages).filterMap (store.messageName library key)).foldl takeName candidate =
        none →
      candidate.toList ++
        (inbound store.messages).filterMap (store.messageName library key) = []) := by
  refine foldl_takeName (fun name hname => ?_) candidate
  obtain ⟨message, -, htold⟩ := List.mem_filterMap.mp hname
  exact source_messageName htold

theorem elected_eq_some (hwinner : store.elected library key = some winner) :
    winner ∈ store.observations library key ∧
      ∀ other ∈ store.observations library key, Beats winner other := by
  obtain ⟨hsome, hnone⟩ := foldl_messageNames library store key
    ((store.identities key).bind (key.namedIdentity library))
  rw [elected_eq] at hwinner
  rw [BackfillStore.observations]
  cases hread : ((inbound store.messages).filterMap (store.messageName library key)).foldl takeName
      ((store.identities key).bind (key.namedIdentity library)) with
  | none =>
      rw [hread, Option.none_or] at hwinner
      rw [if_pos (hnone hread), hwinner]
      exact ⟨List.mem_singleton_self _, fun other hother =>
        List.mem_singleton.mp hother ▸ Beats.refl _⟩
  | some current =>
      rw [hread, Option.some_or] at hwinner
      cases hwinner
      have hmem := hsome _ hread
      rw [if_neg (List.ne_nil_of_mem hmem.1)]
      exact hmem

theorem elected_eq_none (hnone : store.elected library key = none) :
    store.observations library key = [] := by
  obtain ⟨-, hempty⟩ := foldl_messageNames library store key
    ((store.identities key).bind (key.namedIdentity library))
  rw [elected_eq, Option.or_eq_none_iff] at hnone
  rw [BackfillStore.observations, if_pos (hempty hnone.1), hnone.2]
  rfl

theorem untold_of_elected_eq_none (hnone : store.elected library key = none) :
    (store.identities key).bind (key.namedIdentity library) = none ∧
      (∀ message ∈ inbound store.messages, store.messageName library key message = none) ∧
        ∀ conversation ∈ store.conversations,
          store.conversationName library key conversation = none := by
  obtain ⟨-, hempty⟩ := foldl_messageNames library store key
    ((store.identities key).bind (key.namedIdentity library))
  rw [elected_eq, Option.or_eq_none_iff] at hnone
  have hnamed := List.append_eq_nil_iff.mp (hempty hnone.1)
  exact ⟨Option.toList_eq_nil_iff.mp hnamed.1, List.filterMap_eq_nil_iff.mp hnamed.2,
    List.filterMap_eq_nil_iff.mp (List.head?_eq_none_iff.mp hnone.2)⟩

theorem peerUserId_of_peerKey (hkey : store.peerKey accountId peerUserId = some key) :
    peerUserId = some key.peerUserId := by
  obtain ⟨platform, -, hpeer⟩ := Option.bind_eq_some_iff.mp hkey
  obtain ⟨peer, hfilter, rfl⟩ := Option.map_eq_some_iff.mp hpeer
  exact (Option.filter_eq_some_iff.mp hfilter).1

theorem normalizePeerName_idem (peerUserId name : Option String) :
    normalizePeerName library peerUserId (normalizePeerName library peerUserId name) =
      normalizePeerName library peerUserId name := by
  cases hname : normalizePeerName library peerUserId name with
  | none => rfl
  | some text => exact normalizePeerName_self hname

theorem usable_of_mem_observations {observation : PeerIdentity}
    (hmem : observation ∈ store.observations library key) :
    normalizePeerName library (some key.peerUserId) (some observation.displayName) =
      some observation.displayName := by
  have htold : (store.identities key).bind (key.namedIdentity library) = some observation ∨
      (∃ message, store.messageName library key message = some observation) ∨
        ∃ conversation, store.conversationName library key conversation = some observation := by
    rw [BackfillStore.observations] at hmem
    split at hmem
    · have hhead := List.mem_of_mem_head? (Option.mem_toList.mp hmem)
      obtain ⟨conversation, -, htold⟩ := List.mem_filterMap.mp hhead
      exact .inr (.inr ⟨conversation, htold⟩)
    · rcases List.mem_append.mp hmem with hidentity | hmessage
      · exact .inl (Option.mem_toList.mp hidentity)
      · obtain ⟨message, -, htold⟩ := List.mem_filterMap.mp hmessage
        exact .inr (.inl ⟨message, htold⟩)
  rcases htold with hidentity | ⟨message, hmessage⟩ | ⟨conversation, hconversation⟩
  · obtain ⟨identity, -, hnamed⟩ := Option.bind_eq_some_iff.mp hidentity
    obtain ⟨name, hname, rfl⟩ := Option.map_eq_some_iff.mp hnamed
    exact normalizePeerName_self hname
  · rw [BackfillStore.messageName] at hmessage
    split at hmessage
    · rename_i hkey
      obtain ⟨name, hname, rfl⟩ := Option.map_eq_some_iff.mp hmessage
      rw [peerUserId_of_peerKey hkey] at hname
      exact normalizePeerName_self hname
    · cases hmessage
  · rw [BackfillStore.conversationName] at hconversation
    split at hconversation
    · rename_i hkey
      obtain ⟨name, hname, rfl⟩ := Option.map_eq_some_iff.mp hconversation
      rw [peerUserId_of_peerKey hkey] at hname
      exact normalizePeerName_self hname
    · cases hconversation

def BackfillStore.times (store : BackfillStore) (key : PeerKey) : List ℤ :=
  (inbound store.messages).filterMap fun message =>
    if store.peerKey message.accountId message.peerUserId = some key then some message.createdAt
    else none

theorem inbound_renamed (store : BackfillStore) :
    inbound (store.messages.map (store.renamedMessage library)) =
      (inbound store.messages).map (store.renamedMessage library) := by
  have hordered : ordered (store.messages.map (store.renamedMessage library)) =
      (ordered store.messages).map (store.renamedMessage library) := by
    refine (List.map_insertionSort Before Before _ store.messages ?_).symm
    intro first _ second _
    have htime : ∀ message : StoredMessage,
        (store.renamedMessage library message).createdAtMs = message.createdAtMs := by
      intro message
      rw [BackfillStore.renamedMessage]
      split <;> rfl
    rw [Before, Before, htime, htime, messagePk_renamedMessage, messagePk_renamedMessage]
  have hdirection : ∀ message : StoredMessage,
      (store.renamedMessage library message).direction = message.direction := by
    intro message
    rw [BackfillStore.renamedMessage]
    split <;> rfl
  rw [inbound, hordered, List.filter_map, inbound]
  simp only [Function.comp_def, hdirection]

theorem direction_of_mem_inbound {messages : List StoredMessage}
    (hmem : message ∈ inbound messages) : message.direction = "inbound" := by
  simpa using (List.mem_filter.mp hmem).2

theorem desiredName_of_elected (hkey : store.peerKey accountId peerUserId = some key)
    (hwinner : store.elected library key = some winner) (peerName : Option String) :
    store.desiredName library accountId peerUserId peerName = some winner.displayName := by
  have hidentity : store.electedIdentities library key = some winner := by
    rw [BackfillStore.electedIdentities, hwinner, Option.some_or]
  rw [BackfillStore.desiredName, hkey, Option.bind_some, hidentity, Option.elim_some,
    peerUserId_of_peerKey hkey]
  exact usable_of_mem_observations (elected_eq_some hwinner).1

/-- What a row shows of a peer whose name no row tells. -/
theorem desiredName_of_untold {peerName : Option String}
    (hkey : store.peerKey accountId peerUserId = some key)
    (hnone : store.elected library key = none)
    (hname : normalizePeerName library peerUserId peerName = none) :
    store.desiredName library accountId peerUserId peerName = none := by
  have hidentity := (untold_of_elected_eq_none hnone).1
  rw [BackfillStore.desiredName, hkey, Option.bind_some, BackfillStore.electedIdentities, hnone,
    Option.none_or]
  cases hstored : store.identities key with
  | none => exact hname
  | some identity =>
      rw [hstored, Option.bind_some, PeerKey.namedIdentity, Option.map_eq_none_iff] at hidentity
      rw [Option.elim_some, peerUserId_of_peerKey hkey]
      exact hidentity

abbrev BackfillStore.named (library : TextLibrary) (store : BackfillStore) : BackfillStore :=
  (backfillPeerNames library store).1

theorem messageNames_named (hwinner : store.elected library key = some winner) :
    (inbound (store.named library).messages).filterMap
        ((store.named library).messageName library key) =
      (store.times key).map fun createdAt =>
        { winner with source := "message", lastSeenAt := createdAt } := by
  have husable := usable_of_mem_observations (elected_eq_some hwinner).1
  have hmessages : inbound (store.named library).messages =
      (inbound store.messages).map (store.renamedMessage library) := inbound_renamed store
  rw [hmessages, List.filterMap_map, BackfillStore.times, List.map_filterMap]
  refine List.filterMap_congr fun message hmem => ?_
  have hrenamed : store.renamedMessage library message = { message with
      peerName := store.desiredName library message.accountId message.peerUserId
        message.peerName } := if_pos (direction_of_mem_inbound hmem)
  rw [Function.comp_apply, hrenamed, BackfillStore.messageName]
  by_cases hkey : store.peerKey message.accountId message.peerUserId = some key
  · have hsame : (store.named library).peerKey message.accountId message.peerUserId = some key :=
      hkey
    rw [if_pos hsame, if_pos hkey, desiredName_of_elected hkey hwinner, peerUserId_of_peerKey hkey,
      husable]
    rfl
  · have hsame : ¬(store.named library).peerKey message.accountId message.peerUserId = some key :=
      hkey
    rw [if_neg hsame, if_neg hkey]
    rfl

/-- On a second run the elected name stays a candidate, against the messages that show it. -/
theorem elected_named (hwinner : store.elected library key = some winner) :
    (store.named library).elected library key =
      ((store.times key).map fun createdAt =>
        ({ winner with source := "message", lastSeenAt := createdAt } : PeerIdentity)).foldl
          takeName (some winner) := by
  have husable := usable_of_mem_observations (elected_eq_some hwinner).1
  have hstored : ((store.named library).identities key).bind (key.namedIdentity library) =
      some winner := by
    have hidentity : (store.named library).identities key = some winner := by
      change store.electedIdentities library key = some winner
      rw [BackfillStore.electedIdentities, hwinner, Option.some_or]
    rw [hidentity, Option.bind_some, PeerKey.namedIdentity, husable]
    rfl
  rw [elected_eq, messageNames_named hwinner, hstored]
  obtain ⟨again, hread, -⟩ := exists_foldl_takeName winner (store.times key)
  rw [hread, Option.some_or]

theorem messageName_renamed_of_none (hnone : store.elected library key = none)
    (hname : store.messageName library key message = none) :
    (store.named library).messageName library key { message with
      peerName := store.desiredName library message.accountId message.peerUserId
        message.peerName } = none := by
  by_cases hkey : store.peerKey message.accountId message.peerUserId = some key
  · rw [BackfillStore.messageName, if_pos hkey, Option.map_eq_none_iff] at hname
    have hsame : (store.named library).peerKey message.accountId message.peerUserId = some key :=
      hkey
    rw [BackfillStore.messageName, if_pos hsame, desiredName_of_untold hkey hnone hname]
    rfl
  · exact if_neg hkey

theorem conversationName_renamed_of_none (hnone : store.elected library key = none)
    {conversation : StoredConversation}
    (hname : store.conversationName library key conversation = none) :
    (store.named library).conversationName library key
      (store.renamedConversation library conversation) = none := by
  by_cases hkey : store.peerKey conversation.accountId conversation.peerUserId = some key
  · rw [BackfillStore.conversationName, if_pos hkey, Option.map_eq_none_iff] at hname
    have hsame : (store.named library).peerKey
        (store.renamedConversation library conversation).accountId
        (store.renamedConversation library conversation).peerUserId = some key := hkey
    have hdesired : (store.renamedConversation library conversation).peerName = none :=
      desiredName_of_untold hkey hnone hname
    rw [BackfillStore.conversationName, if_pos hsame, hdesired]
    rfl
  · exact if_neg hkey

/-- A name that no row tells is told by no row afterwards. -/
theorem elected_named_of_none (hnone : store.elected library key = none) :
    (store.named library).elected library key = none := by
  obtain ⟨hidentity, hmessages, hconversations⟩ := untold_of_elected_eq_none hnone
  have hstored : (store.named library).identities key = store.identities key := by
    change store.electedIdentities library key = store.identities key
    rw [BackfillStore.electedIdentities, hnone, Option.none_or]
  have hinbound : inbound (store.named library).messages =
      (inbound store.messages).map (store.renamedMessage library) := inbound_renamed store
  have hmessageNames : (inbound (store.named library).messages).filterMap
      ((store.named library).messageName library key) = [] := by
    rw [hinbound, List.filterMap_map, List.filterMap_eq_nil_iff]
    intro message hmem
    have hrenamed : store.renamedMessage library message = { message with
        peerName := store.desiredName library message.accountId message.peerUserId
          message.peerName } := if_pos (direction_of_mem_inbound hmem)
    rw [Function.comp_apply, hrenamed]
    exact messageName_renamed_of_none hnone (hmessages message hmem)
  have hconversationNames : (store.named library).conversations.filterMap
      ((store.named library).conversationName library key) = [] := by
    change (store.conversations.map (store.renamedConversation library)).filterMap _ = []
    rw [List.filterMap_map, List.filterMap_eq_nil_iff]
    exact fun conversation hmem =>
      conversationName_renamed_of_none hnone (hconversations conversation hmem)
  rw [elected_eq, hmessageNames, hconversationNames, hstored, hidentity]
  rfl

/-- A row shows the same name after a second run. -/
theorem desiredName_named (accountId : String) (peerUserId peerName : Option String) :
    (store.named library).desiredName library accountId peerUserId
        (store.desiredName library accountId peerUserId peerName) =
      store.desiredName library accountId peerUserId peerName := by
  have hsame : (store.named library).peerKey accountId peerUserId =
      store.peerKey accountId peerUserId := rfl
  cases hkey : store.peerKey accountId peerUserId with
  | none =>
      rw [BackfillStore.desiredName, hsame, hkey, BackfillStore.desiredName, hkey]
      exact normalizePeerName_idem peerUserId peerName
  | some key =>
      cases hwinner : store.elected library key with
      | some winner =>
          obtain ⟨again, hagain, hname⟩ := exists_foldl_takeName winner (store.times key)
          rw [← elected_named hwinner] at hagain
          rw [desiredName_of_elected (hsame.trans hkey) hagain, hname,
            desiredName_of_elected hkey hwinner]
      | none =>
          have hidentities : (store.named library).electedIdentities library key =
              store.electedIdentities library key := by
            rw [BackfillStore.electedIdentities, elected_named_of_none hwinner, Option.none_or]
            rfl
          rw [BackfillStore.desiredName, hsame, hkey, Option.bind_some, hidentities]
          cases hidentity : store.electedIdentities library key with
          | none =>
              rw [BackfillStore.desiredName, hkey, Option.bind_some, hidentity]
              exact normalizePeerName_idem peerUserId peerName
          | some identity =>
              rw [BackfillStore.desiredName, hkey, Option.bind_some, hidentity]
              rfl

theorem renamedMessage_named (message : StoredMessage) :
    (store.named library).renamedMessage library (store.renamedMessage library message) =
      store.renamedMessage library message := by
  by_cases hinbound : message.direction = "inbound"
  · have hrenamed : store.renamedMessage library message = { message with
        peerName := store.desiredName library message.accountId message.peerUserId
          message.peerName } := if_pos hinbound
    rw [hrenamed, BackfillStore.renamedMessage, if_pos hinbound, desiredName_named]
  · have hrenamed : store.renamedMessage library message = message := if_neg hinbound
    rw [hrenamed, BackfillStore.renamedMessage, if_neg hinbound]

theorem renamedConversation_named (conversation : StoredConversation) :
    (store.named library).renamedConversation library
        (store.renamedConversation library conversation) =
      store.renamedConversation library conversation := by
  rw [BackfillStore.renamedConversation]
  simp only [BackfillStore.renamedConversation, desiredName_named]

variable (library) in
/-- A second run in a row renames nothing: it returns 0 and leaves the messages and the
conversations as they are. -/
theorem backfillPeerNames_named (store : BackfillStore) :
    (backfillPeerNames library (store.named library)).2 = 0 ∧
      ((store.named library).named library).messages = (store.named library).messages ∧
        ((store.named library).named library).conversations =
          (store.named library).conversations := by
  have hmessages : ∀ message ∈ (store.named library).messages,
      (store.named library).renamedMessage library message = message := by
    intro message hmem
    obtain ⟨before, -, rfl⟩ := List.mem_map.mp hmem
    exact renamedMessage_named before
  have hconversations : ∀ conversation ∈ (store.named library).conversations,
      (store.named library).renamedConversation library conversation = conversation := by
    intro conversation hmem
    obtain ⟨before, -, rfl⟩ := List.mem_map.mp hmem
    exact renamedConversation_named before
  refine ⟨?_, ?_, ?_⟩
  · have hnone : (store.named library).conversations.countP (fun conversation =>
        conversation.peerName ≠
          ((store.named library).renamedConversation library conversation).peerName) = 0 := by
      rw [List.countP_eq_zero]
      intro conversation hmem
      simp [hconversations conversation hmem]
    have hnoMessage : (store.named library).messages.countP (fun message =>
        message.peerName ≠
          ((store.named library).renamedMessage library message).peerName) = 0 := by
      rw [List.countP_eq_zero]
      intro message hmem
      simp [hmessages message hmem]
    change _ + _ = 0
    rw [hnone, hnoMessage]
  · exact (List.map_congr_left hmessages).trans (List.map_id _)
  · exact (List.map_congr_left hconversations).trans (List.map_id _)

/-- A run leaves nothing for a second one: it returns 0 and changes no row. -/
def NamesSettled (library : TextLibrary) (store : BackfillStore) : Prop :=
  ∀ first repaired, backfillPeerNames library store = (first, repaired) →
    backfillPeerNames library first = (first, 0)

def Dated (library : TextLibrary) (store : BackfillStore) : Prop :=
  ∀ message ∈ store.messages, message.direction = "inbound" →
    ∀ key, store.peerKey message.accountId message.peerUserId = some key →
      store.observations library key = [] ∨
        ∃ observation ∈ store.observations library key, Dates observation message.createdAt

theorem dated_iff (store : BackfillStore) :
    Dated library store ↔ ∀ key winner, store.elected library key = some winner →
      ∀ createdAt ∈ store.times key, Dates winner createdAt := by
  constructor
  · intro hdated key winner hwinner createdAt hmem
    obtain ⟨message, hmessage, htime⟩ := List.mem_filterMap.mp hmem
    split at htime
    · rename_i hkey
      cases htime
      obtain ⟨hstored, hinbound⟩ := List.mem_filter.mp hmessage
      have helected := elected_eq_some hwinner
      rcases hdated message ((List.mem_insertionSort Before).mp hstored) (by simpa using hinbound)
        key hkey with hnone | ⟨observation, hobservation, hdates⟩
      · rw [hnone] at helected
        exact absurd helected.1 List.not_mem_nil
      · exact hdates.of_beats (helected.2 observation hobservation)
    · cases htime
  · intro hall message hmem hinbound key hkey
    cases hwinner : store.elected library key with
    | none => exact .inl (elected_eq_none hwinner)
    | some winner =>
        refine .inr ⟨winner, (elected_eq_some hwinner).1, hall key winner hwinner _ ?_⟩
        refine List.mem_filterMap.mpr ⟨message, ?_, if_pos hkey⟩
        exact List.mem_filter.mpr ⟨(List.mem_insertionSort Before).mpr hmem, by simpa using hinbound⟩

/-- A second run in a row does nothing exactly if no inbound message is later than the newest
observation of its peer's name. -/
theorem namesSettled_iff (store : BackfillStore) :
    NamesSettled library store ↔ Dated library store := by
  obtain ⟨hcount, hmessages, hconversations⟩ := backfillPeerNames_named library store
  have hsettled : NamesSettled library store ↔
      (store.named library).electedIdentities library = store.electedIdentities library := by
    constructor
    · intro hsettled
      exact congrArg (fun run => run.1.identities) (hsettled _ _ rfl)
    · rintro hidentities first repaired hrun
      cases hrun
      exact Prod.ext (BackfillStore.ext rfl hmessages hconversations rfl hidentities) hcount
  rw [hsettled, dated_iff]
  constructor
  · intro hidentities key winner hwinner
    have hsame := congrFun hidentities key
    rw [BackfillStore.electedIdentities, BackfillStore.electedIdentities, hwinner,
      elected_named hwinner] at hsame
    obtain ⟨again, hagain, -⟩ := exists_foldl_takeName winner (store.times key)
    rw [hagain, Option.some_or, Option.some_or] at hsame
    exact foldl_takeName_eq_self_iff.mp (hagain.trans hsame)
  · intro hdates
    funext key
    cases hwinner : store.elected library key with
    | none =>
        rw [BackfillStore.electedIdentities, elected_named_of_none hwinner, Option.none_or]
        rfl
    | some winner =>
        have hstays := foldl_takeName_eq_self_iff.mpr (hdates key winner hwinner)
        rw [BackfillStore.electedIdentities, elected_named hwinner, hstays,
          BackfillStore.electedIdentities, hwinner, Option.some_or, Option.some_or]

end Backfill

/-- Both backfills leave nothing for a second run in a row exactly if no parsed title is cut, no
item text is kept beside a cut item id, and no inbound message is later than the newest
observation of its peer's name; a backfill that raises changes nothing. -/
theorem backfills_idempotent_iff (decoders : JsonDecoders) (links : Links) (orders : KeyOrders)
    (dumps : Members → String) (library : TextLibrary) (store : BackfillStore) :
    ContextsSettled decoders links orders dumps store ∧ NamesSettled library store ↔
      (LinksReadable decoders links orders store →
        TitlesFit decoders links orders (withContexts decoders links orders store.messages) ∧
          ConversationsSettle decoders links orders store) ∧
        Dated library store :=
  and_congr (contextsSettled_iff decoders links orders dumps store) (namesSettled_iff store)

def titledNode (title : String) : Members := [("orderId", .str "1"), ("title", .str title)]

def titledPayload (title : String) : String :=
  "\x7b\"orderId\": \"1\", \"title\": \"" ++ title ++ "\"\x7d"

def titledDecoders (title : String) : JsonDecoders where
  loads := fun text => if text = titledPayload title then some (.obj (titledNode title)) else none
  decodeStrict := fun _ => none
  decodeLoose := fun _ => none
  printed := by
    intro text value hloads
    split at hloads
    · cases hloads
      refine .obj fun member hmem => ?_
      rcases List.mem_cons.mp hmem with rfl | hmem
      · exact .str _
      · rw [List.mem_singleton.mp hmem]
        exact .str _
    · cases hloads

def titledMessage (title : String) : StoredMessage where
  messagePk := "m1"
  accountId := "a1"
  conversationId := "c1"
  direction := "inbound"
  rawPayload := some (titledPayload title)
  createdAtMs := 1
  createdAt := 1

def titledStore (title : String) : BackfillStore where
  platforms := fun _ => some "xianyu"
  messages := [titledMessage title]
  conversations := []
  cards := []
  identities := fun _ => none
  messages_nodup := List.nodup_singleton _

section Titled

variable {title : String}

theorem dictNodes_titled (hopens : opensJson (strip title) = false) :
    dictNodes (titledDecoders title).toDecoders (.obj (titledNode title)) = [titledNode title] := by
  have hbase : ∀ text, base64Json (titledDecoders title).toDecoders text = none := by
    intro text
    rw [base64Json]
    split <;> rfl
  have htitle : decodeEmbeddedValue (titledDecoders title).toDecoders (.str title) =
      .str title := by
    simp [decodeEmbeddedValue, maybeJson, hopens, hbase]
  have hid : decodeEmbeddedValue (titledDecoders title).toDecoders (.str "1") = .str "1" := by
    simp [decodeEmbeddedValue, maybeJson, show opensJson (strip "1") = false by decide, hbase]
  have hwalk : walkPayload (titledDecoders title).toDecoders (.obj (titledNode title)) =
      [.obj (titledNode title), .str "1", .str title] := by
    have hobj : decodeEmbeddedValue (titledDecoders title).toDecoders (.obj (titledNode title)) =
      .obj (titledNode title) := rfl
    rw [walkPayload, walkFrom, hobj]
    simp only [titledNode, List.flatMap_cons, List.flatMap_nil, walkFrom, htitle, hid,
      List.append_nil, List.singleton_append]
  rw [dictNodes, hwalk]
  rfl

theorem valueUnder_titled :
    valueUnder (titledNode title) "title" = stripOrNone title ∧
      valueUnder (titledNode title) "orderid" = some "1" := by
  have hsame : lower "orderId" = lower "orderid" := by decide
  have horder : ¬lower "title" = lower "orderid" := by decide
  have hone : stripOrNone "1" = some "1" := by decide
  simp [valueUnder, actualKey, titledNode, hsame, horder, Json.get, normalizeScalar, hone]

theorem parseDictNode_titled (hne : strip title ≠ "") :
    ∃ card, parseDictNode .written (titledNode title) = some card ∧
      card.title = some (strip title) := by
  have htitle : firstValue (titledNode title) KeyOrders.written.title = some (strip title) := by
    change (titleKeys.findSome? _) = _
    rw [titleKeys, List.findSome?_cons, valueUnder_titled.1, stripOrNone, if_neg hne]
  have horder : firstValue (titledNode title) KeyOrders.written.orderId = some "1" := by
    change (orderIdKeys.findSome? _) = _
    rw [orderIdKeys, List.findSome?_cons, valueUnder_titled.2]
  have hlooks : looksLikeOrderCard (titledNode title) = true :=
    List.any_eq_true.mpr ⟨("orderId", .str "1"), List.mem_cons_self, by decide⟩
  rw [parseDictNode, hlooks, Bool.not_true, Bool.and_false, if_neg Bool.false_ne_true]
  simp only [horder, htitle, Option.isSome_some, if_true]
  exact ⟨_, rfl, rfl⟩

theorem parsedCards_titled {message : StoredMessage} (hopens : opensJson (strip title) = false)
    (hne : strip title ≠ "")
    (hpayload : message.payload (titledDecoders title) = .obj (titledNode title)) :
    ∃ parsed ∈ message.parsedCards (titledDecoders title) asciiLinks .written,
      parsed.title = some (strip title) := by
  obtain ⟨card, hcard, htitle⟩ := parseDictNode_titled hne
  refine ⟨card, ?_, htitle⟩
  rw [StoredMessage.parsedCards, hpayload, parseMessageCards, dictNodes_titled hopens,
    List.filterMap_cons_some hcard]
  cases parseOrderEvent (titledDecoders title).toDecoders asciiLinks .written
      (.obj (titledNode title)) message.content message.itemId none with
  | none => simp [addCard]
  | some event =>
      have hfirst : card ∈ (addCard [card] (orderCard event)).take 5 := by
        rw [addCard]
        split <;> simp
      simpa [addCard] using hfirst

/-- Where the title is longer than its column, a second run adds its card once more. -/
theorem not_contextsSettled_titled (hopens : opensJson (strip title) = false)
    (hlong : 500 < (strip title).toList.length) (dumps : Members → String) :
    ¬ContextsSettled (titledDecoders title) asciiLinks .written dumps (titledStore title) := by
  intro hsettled
  have hne : strip title ≠ "" := by
    intro hempty
    rw [hempty] at hlong
    exact absurd hlong (by decide)
  obtain ⟨hfit, -⟩ := (contextsSettled_iff _ _ _ _ _).mp hsettled
    fun _ hmem => absurd hmem List.not_mem_nil
  have hpayload : ((titledMessage title).withContext (titledDecoders title) asciiLinks
      .written).payload (titledDecoders title) = .obj (titledNode title) := by
    rw [payload_withContext]
    simp [StoredMessage.payload, titledMessage, titledDecoders]
  obtain ⟨parsed, hparsed, htitle⟩ := parsedCards_titled hopens hne hpayload
  have hfits := hfit _ (List.mem_map_of_mem (List.mem_singleton_self _)) parsed hparsed
  rw [htitle, Fits, Option.all_some, decide_eq_true_eq] at hfits
  omega

end Titled

def unnamedKey : PeerKey := ⟨"xianyu", "a1", "7"⟩

def unnamedStore : BackfillStore where
  platforms := fun _ => some "xianyu"
  messages :=
    [{ messagePk := "m1", accountId := "a1", conversationId := "c1", direction := "inbound"
       peerUserId := some "7", peerName := some "Ann", createdAtMs := 1, createdAt := 1 },
     { messagePk := "m2", accountId := "a1", conversationId := "c1", direction := "inbound"
       peerUserId := some "7", createdAtMs := 2, createdAt := 2 }]
  conversations := []
  cards := []
  identities := fun _ => none
  messages_nodup := by decide

/-- A title of 501 characters, and a message without a name that is later than the one with it:
the second run adds a card, and moves the identity to the later time. -/
theorem second_runs_change :
    (∃ title : String, title.toList.length = 501 ∧
      ¬ContextsSettled (titledDecoders title) asciiLinks .written (fun _ => "") (titledStore title)) ∧
    ((unnamedStore.named (tabulated [])).identities unnamedKey).map PeerIdentity.lastSeenAt =
      some 1 ∧
    (((unnamedStore.named (tabulated [])).named (tabulated [])).identities unnamedKey).map
      PeerIdentity.lastSeenAt = some 2 := by
  have hlength : (String.ofList (List.replicate 501 'a')).toList.length = 501 := by
    rw [String.toList_ofList, List.length_replicate]
  refine ⟨⟨String.ofList (List.replicate 501 'a'), hlength, ?_⟩, by decide, by decide⟩
  have hstrip : strip (String.ofList (List.replicate 501 'a')) =
      String.ofList (List.replicate 501 'a') := by
    refine strip_of_forall fun char hmem => ?_
    rw [String.toList_ofList] at hmem
    rw [List.eq_of_mem_replicate hmem]
    decide
  refine not_contextsSettled_titled ?_ (by rw [hstrip, hlength]; decide) _
  rw [hstrip, opensJson, String.toList_ofList, List.head?_replicate, if_neg (by decide)]
  decide

end XianyuAdmin.Backfills
