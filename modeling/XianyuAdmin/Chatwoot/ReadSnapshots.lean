import XianyuAdmin.Chatwoot.WebhookExecution
import XianyuAdmin.Messages.SharedReads

/-!
# Reading in Chatwoot what is read on Xianyu

Chatwoot tells with every conversation how many messages an agent has not read
and when an agent saw it last.  Such a snapshot comes with a webhook, or as the
answer to a poll of the conversations that have unread messages, and it may come
late.  `_sync_chatwoot_read_snapshot` takes it over: it notes when the agent was
seen, and when nothing is unread it marks the conversation as read for every
user, up to the end of the second in which the agent was seen.  Between its
awaits other messages arrive and other snapshots are taken over.
-/

namespace XianyuAdmin.Chatwoot.ReadSync

open XianyuAdmin.Coroutine
open XianyuAdmin.Python
open XianyuAdmin.Transition
open XianyuAdmin.Messages (Cleared Inbox MessageReport NotLater ReadsKept Surroundings
  TextLibrary inTime notLater_raise readThroughAt)

/-- An entry of `list_read_sync_candidates`: a mapping with the `last_inbound_at` that its
conversation had. -/
structure Candidate where
  mapping : ConversationMap
  lastInboundAt : ℤ
  deriving DecidableEq

/-- `int(value.timestamp())` of a time in milliseconds. -/
def wholeSeconds (milliseconds : ℤ) : ℤ := milliseconds.tdiv 1000

variable (library : WebhookLibrary)

/-- The end of `_sync_chatwoot_read_snapshot`: unless the last inbound message is later, the
conversation is marked as read. -/
def markReadThrough (snapshot : ReadSnapshot) (mapping : ConversationMap) :
    Option ℤ → Routine (List String)
  | none => pure []
  | some lastInboundAt =>
      if snapshot.seenAt < lastInboundAt then pure []
      else do
        let (covered, users) ← call (.markConversationReadShared mapping.accountId
          mapping.conversationId snapshot.seenAt)
        call (.recordReadSyncObservation snapshot.chatwootConversationId snapshot.seenAt covered)
        pure (if covered then users else [])

/-- The part of `_sync_chatwoot_read_snapshot` that follows the mapping; `lastInboundAt` is
`last_inbound_at` of the mapping, or else of the conversation. -/
def reconcileRead (snapshot : ReadSnapshot) (mapping : ConversationMap)
    (lastInboundAt : Routine (Option ℤ)) : Routine (List String) := do
  let config ← getConfig (some mapping.accountId)
  if config.any ConfigView.enabled then
    call (.recordReadSyncObservation snapshot.chatwootConversationId snapshot.seenAt false)
    if snapshot.unreadCount ≠ 0 then pure []
    else lastInboundAt >>= markReadThrough snapshot mapping
  else pure []

/-- `_sync_chatwoot_read_snapshot`; a poll gives the mapping it has listed. -/
def syncReadSnapshot (payload : Members) (polled : Option Candidate) :
    Routine (List String) := do
  match ← orError (chatwootReadSnapshot library payload) with
  | none => pure []
  | some snapshot =>
      match polled with
      | some candidate =>
          reconcileRead snapshot candidate.mapping
            (pure (some (wholeSeconds candidate.lastInboundAt)))
      | none => do
          match ← conversationMapByRemoteGlobal snapshot.chatwootConversationId with
          | none => pure []
          | some mapping =>
              reconcileRead snapshot mapping
                (call (.getLastInboundAt mapping.accountId mapping.conversationId))

/-- Without a mapping it is what the webhook task runs. -/
theorem syncReadSnapshot_none (payload : Members) :
    syncReadSnapshot library payload none = syncChatwootReadSnapshot library payload := by
  unfold syncReadSnapshot syncChatwootReadSnapshot
  refine congrArg (Bind.bind _) (funext fun snapshot => ?_)
  cases snapshot with
  | none => rfl
  | some snapshot =>
      refine congrArg (Bind.bind _) (funext fun mapping => ?_)
      cases mapping with
      | none => rfl
      | some mapping =>
          refine congrArg (Bind.bind _) (funext fun config => ?_)
          refine congrArg (ite _ · _) (congrArg (Bind.bind _) (funext fun _ => ?_))
          refine congrArg (ite _ _) (congrArg (Bind.bind _) (funext fun lastInboundAt => ?_))
          cases lastInboundAt <;> rfl

/-- The columns of a mapping that the reconciliation writes; the times that Chatwoot tells
are in seconds. -/
structure Observation where
  remoteAgentLastSeenAt : Option ℤ := none
  readSyncedAt : Option ℤ := none
  deriving DecidableEq

/-- `_record_read_sync_observation_sync` on the row. -/
def Observation.observe (observation : Observation) (seenAt : ℤ) (synced : Bool) (now : ℤ) :
    Observation where
  remoteAgentLastSeenAt :=
    if observation.remoteAgentLastSeenAt.all fun stored => stored < seenAt then some seenAt
    else observation.remoteAgentLastSeenAt
  readSyncedAt := if synced then some now else observation.readSyncedAt

structure Clear where
  accountId : String
  seenAt : ℤ
  cleared : Cleared

structure State where
  settings : Settings
  observations : String → Observation
  inboxes : String → Inbox
  candidates : List Candidate
  received : List ReadSnapshot
  clears : List Clear

namespace State

def recordReadSyncObservation (chatwootConversationId : String) (seenAt : ℤ) (synced : Bool)
    (now : ℤ) (state : State) : State :=
  match getConversationMapByRemoteGlobal chatwootConversationId
      state.settings.conversationMaps with
  | none => state
  | some _ =>
      { state with
        observations := Function.update state.observations chatwootConversationId
          ((state.observations chatwootConversationId).observe seenAt synced now) }

/-- `last_inbound_at` of `_get_local_conversation_context_sync`. -/
def localLastInboundAt (accountId conversationId : String) (state : State) : Option ℤ :=
  match (state.inboxes accountId).store.conversations conversationId with
  | none => none
  | some conversation =>
      if truthy conversation.peerUserId then conversation.lastInboundAt else none

def listReadSyncCandidates (enabledUsers : List String) (state : State) : List Candidate :=
  if enabledUsers = [] then []
  else
    state.settings.conversationMaps.rows.filterMap fun mapping =>
      let store := (state.inboxes mapping.accountId).store
      let chats := (state.settings.accounts.lookup mapping.accountId).any fun account =>
        account.enabled && account.chatEnabled
      match store.lastInboundAt mapping.conversationId with
      | none => none
      | some lastInboundAt =>
          if chats && enabledUsers.any fun userId =>
              0 < store.effectiveUnread mapping.conversationId userId then
            some ⟨mapping, lastInboundAt⟩
          else none

/-- `mark_conversation_read_shared`, under the write lock of the account. -/
def markConversationReadShared (accountId conversationId : String) (seenAt : ℤ)
    (enabledUsers : List String) (state : State) : (Bool × List String) × State :=
  let inbox := state.inboxes accountId
  let (answer, marked) :=
    inbox.markConversationReadShared conversationId (readThroughAt seenAt) enabledUsers
  (answer,
    { state with
      inboxes := Function.update state.inboxes accountId marked
      clears := state.clears ++ (inbox.cleared conversationId answer.2).map fun cleared =>
        ⟨accountId, seenAt, cleared⟩ })

end State

structure SyncEnv where
  raised : Option Failure := none
  committed : Bool := false
  enabledUsers : List String := []
  now : ℤ := 0

/-- What an operation of the reconciliation returns, and the state it leaves. -/
def effect (env : SyncEnv) (state : State) : (op : Op) → Option (Answer op × State)
  | .getConversationMapByRemoteGlobal chatwootConversationId =>
      some (getConversationMapByRemoteGlobal chatwootConversationId
        state.settings.conversationMaps, state)
  | .getConfig accountId => some (getConfigView accountId state.settings, state)
  | .recordReadSyncObservation chatwootConversationId seenAt synced =>
      some ((), state.recordReadSyncObservation chatwootConversationId seenAt synced env.now)
  | .getLastInboundAt accountId conversationId =>
      some ((state.localLastInboundAt accountId conversationId).map wholeSeconds, state)
  | .markConversationReadShared accountId conversationId seenAt =>
      some (state.markConversationReadShared accountId conversationId seenAt env.enabledUsers)
  | _ => none

/-- The operation ends as the outside says. -/
def performOp (op : Op) (env : SyncEnv) (state : State) :
    Option (Except Failure (Answer op) × State) :=
  match env.raised with
  | none => (effect env state op).map fun (value, after) => (.ok value, after)
  | some failure =>
      if env.committed then
        (effect env state op).map fun (_, after) => (.error failure, after)
      else some (.error failure, state)

/-- A snapshot arrives with a webhook, or as the answer about a candidate. -/
inductive Job
  | webhook (payload : Members)
  | poll (candidate : Candidate) (payload : Members)

def Job.payload : Job → Members
  | .webhook payload => payload
  | .poll _ payload => payload

def Job.polled : Job → Option Candidate
  | .webhook _ => none
  | .poll candidate _ => some candidate

/-- What happens next to the reconciliations. -/
inductive Change
  | record (accountId : String) (report : MessageReport) (surroundings : Surroundings)
  | list (enabledUsers : List String)

variable (texts : TextLibrary)

/-- Reconciliations and new messages in any order. -/
def machine : Machine State Op Answer Failure (List String) Job SyncEnv Change where
  program job := syncReadSnapshot library job.payload job.polled
  start _ job state :=
    if ∀ candidate ∈ job.polled, candidate ∈ state.candidates then
      some { state with
        received := state.received ++ (chatwootReadSnapshot library job.payload).join.toList }
    else none
  perform _ op env state := performOp op env state
  leave _ _ state := state
  outside change state :=
    match change with
    | .record accountId report surroundings =>
        ((state.inboxes accountId).recordMessage texts report surroundings).map fun inbox =>
          { state with inboxes := Function.update state.inboxes accountId inbox }
    | .list enabledUsers =>
        some { state with
          candidates := state.candidates ++ state.listReadSyncCandidates enabledUsers }

/-- The mappings are set up, with what was observed before, and no message has arrived. -/
def start (settings : Settings) (observations : String → Observation) : State where
  settings := settings
  observations := observations
  inboxes := fun _ => Inbox.empty
  candidates := []
  received := []
  clears := []

structure Clear.Justified (received : List ReadSnapshot) (clear : Clear) : Prop where
  covered : clear.cleared.Covered clear.seenAt
  received : ∃ snapshot ∈ received, snapshot.seenAt = clear.seenAt ∧ snapshot.unreadCount = 0

theorem Clear.Justified.mono {received later : List ReadSnapshot} {clear : Clear}
    (hjustified : clear.Justified received) (hsubset : received ⊆ later) :
    clear.Justified later where
  covered := hjustified.covered
  received := by
    obtain ⟨snapshot, hmem, hsnapshot⟩ := hjustified.received
    exact ⟨snapshot, hsubset hmem, hsnapshot⟩

/-- What holds at every point. -/
structure Sound (state : State) : Prop where
  inboxes : ∀ accountId, (state.inboxes accountId).Sound
  clears : ∀ clear ∈ state.clears, clear.Justified state.received

theorem sound_start (settings : Settings) (observations : String → Observation) :
    Sound (start settings observations) where
  inboxes _ := Messages.Inbox.sound_empty
  clears _ hclear := by cases hclear

/-- The operation marks as read what the snapshot covers, if it marks anything. -/
def Carries (snapshot : ReadSnapshot) : Op → Prop
  | .markConversationReadShared _ _ seenAt => seenAt = snapshot.seenAt ∧ snapshot.unreadCount = 0
  | _ => True

variable {library}

variable {snapshot : ReadSnapshot} {env : SyncEnv} {state : State}

theorem uses_reconcileRead (mapping : ConversationMap) {lastInboundAt : Routine (Option ℤ)}
    (hlast : Uses (Carries snapshot) lastInboundAt) :
    Uses (Carries snapshot) (reconcileRead snapshot mapping lastInboundAt) := by
  refine Uses.bind (uses_perform trivial) fun config => ?_
  split
  swap
  · exact uses_pure _
  refine Uses.bind (uses_perform trivial) fun _ => ?_
  split
  · exact uses_pure _
  rename_i hread
  refine hlast.bind fun lastInboundAt => ?_
  unfold markReadThrough
  split
  · exact uses_pure _
  split
  · exact uses_pure _
  refine Uses.bind (uses_perform ⟨rfl, not_not.mp hread⟩) fun covered => ?_
  exact Uses.bind (uses_perform trivial) fun _ => uses_pure _

theorem uses_syncReadSnapshot {payload : Members}
    (hsnapshot : chatwootReadSnapshot library payload = some (some snapshot))
    (polled : Option Candidate) :
    Uses (Carries snapshot) (syncReadSnapshot library payload polled) := by
  unfold syncReadSnapshot
  rw [hsnapshot, orError_some_bind]
  cases polled with
  | some candidate => exact uses_reconcileRead candidate.mapping (uses_pure _)
  | none =>
      refine Uses.bind (uses_perform trivial) fun mapping => ?_
      cases mapping with
      | none => exact uses_pure _
      | some mapping => exact uses_reconcileRead mapping (uses_perform trivial)

/-- What is left of an operation after its failures. -/
theorem performOp_cases {op : Op} {before after : State} {answer : Except Failure (Answer op)}
    (hperform : performOp op env before = some (answer, after)) :
    after = before ∨ ∃ value, effect env before op = some (value, after) := by
  unfold performOp at hperform
  split at hperform
  · obtain ⟨⟨value, state⟩, heffect, hend⟩ := Option.map_eq_some_iff.mp hperform
    cases hend
    exact .inr ⟨value, heffect⟩
  · split at hperform
    · obtain ⟨⟨value, state⟩, heffect, hend⟩ := Option.map_eq_some_iff.mp hperform
      cases hend
      exact .inr ⟨value, heffect⟩
    · cases hperform
      exact .inl rfl

theorem sound_recordReadSyncObservation (hsound : Sound state) (chatwootConversationId : String)
    (seenAt : ℤ) (synced : Bool) (now : ℤ) :
    Sound (state.recordReadSyncObservation chatwootConversationId seenAt synced now) := by
  unfold State.recordReadSyncObservation
  split
  · exact hsound
  · exact ⟨hsound.inboxes, hsound.clears⟩

theorem sound_markConversationReadShared (hsound : Sound state)
    (hreceived : snapshot ∈ state.received) (hread : snapshot.unreadCount = 0)
    (accountId conversationId : String) (enabledUsers : List String) :
    Sound (state.markConversationReadShared accountId conversationId snapshot.seenAt
      enabledUsers).2 := by
  obtain ⟨hinbox, hcleared⟩ := (hsound.inboxes accountId).markConversationReadShared
    conversationId snapshot.seenAt enabledUsers
  refine ⟨fun other => ?_, fun clear hclear => ?_⟩
  · by_cases hsame : other = accountId
    · subst hsame
      simpa only [State.markConversationReadShared, Function.update_self] using hinbox
    · simpa only [State.markConversationReadShared, Function.update_of_ne hsame] using
        hsound.inboxes other
  · rcases List.mem_append.mp hclear with hbefore | hnew
    · exact hsound.clears clear hbefore
    · obtain ⟨cleared, hmem, rfl⟩ := List.mem_map.mp hnew
      exact ⟨hcleared cleared hmem, snapshot, hreceived, rfl, hread⟩

theorem sound_performOp {op : Op} {before after : State} {answer : Except Failure (Answer op)}
    (hsound : Sound before) (hreceived : snapshot ∈ before.received)
    (hcarries : Carries snapshot op) (hperform : performOp op env before = some (answer, after)) :
    Sound after ∧ before.received ⊆ after.received := by
  rcases performOp_cases hperform with rfl | ⟨value, heffect⟩
  · exact ⟨hsound, List.Subset.refl _⟩
  · cases op with
    | getConversationMapByRemoteGlobal | getConfig | getLastInboundAt =>
        cases heffect
        exact ⟨hsound, List.Subset.refl _⟩
    | recordReadSyncObservation chatwootConversationId seenAt synced =>
        cases heffect
        refine ⟨sound_recordReadSyncObservation hsound _ _ _ _, ?_⟩
        unfold State.recordReadSyncObservation
        split <;> exact List.Subset.refl _
    | markConversationReadShared accountId conversationId seenAt =>
        obtain ⟨rfl, hread⟩ := hcarries
        cases heffect
        exact ⟨sound_markConversationReadShared hsound hreceived hread _ _ _, List.Subset.refl _⟩
    | _ => cases heffect

def IsInTime (change : Change) (state : State) : Prop :=
  match change with
  | .record accountId report surroundings =>
      inTime texts (state.inboxes accountId).store report surroundings.now = true
  | .list _ => True

def discipline : Machine.Discipline State Op Answer Failure (List String) Job SyncEnv Change where
  invariant := Sound
  rely _ before after := before.received ⊆ after.received
  allowed _ _ _ _ := True
  mayCrash _ _ := True
  mayStart _ _ _ := True
  mayChange := IsInTime texts

variable {texts}

/-- The ends of a thread change nothing. -/
theorem harmless_refl {thread : ℕ} (hsound : Sound state) :
    Machine.Harmless (discipline texts) thread state state :=
  ⟨hsound, fun _ _ => List.Subset.refl _⟩

/-- A reconciliation keeps the service sound once its snapshot has arrived. -/
theorem secured_syncReadSnapshot {payload : Members} (thread : ℕ) (polled : Option Candidate)
    (hsound : Sound state)
    (hreceived : (chatwootReadSnapshot library payload).join.toList ⊆ state.received) :
    Machine.Secured (machine library texts) (discipline texts) thread
      (syncReadSnapshot library payload polled) state := by
  cases hsnapshot : chatwootReadSnapshot library payload with
  | none =>
      unfold syncReadSnapshot
      rw [hsnapshot, orError_none_bind]
      exact harmless_refl hsound
  | some arrived =>
      cases arrived with
      | none =>
          unfold syncReadSnapshot
          rw [hsnapshot, orError_some_bind]
          exact harmless_refl hsound
      | some snapshot =>
          rw [hsnapshot] at hreceived
          have hmem : snapshot ∈ state.received := hreceived (by simp)
          have hsecure : Secure (Machine.contract (machine library texts) (discipline texts) thread)
              (fun _ after => Sound after ∧ snapshot ∈ after.received)
              (fun _ after => Sound after ∧ snapshot ∈ after.received)
              (syncReadSnapshot library payload polled) state := by
            refine (uses_syncReadSnapshot hsnapshot polled).secure ?_ ?_ ⟨hsound, hmem⟩
            · rintro before after ⟨-, hbefore⟩ ⟨hgrown, hafter⟩
              exact ⟨hafter, hgrown hbefore⟩
            · rintro op hcarries before answer after ⟨hbefore, hmem⟩ ⟨env, -, hperform⟩
              obtain ⟨hafter, hgrown⟩ := sound_performOp hbefore hmem hcarries hperform
              exact ⟨⟨hafter, fun _ _ => hgrown⟩, hafter, hgrown hmem⟩
          exact hsecure.mono (fun _ _ hkept => harmless_refl hkept.1)
            fun _ _ hkept => harmless_refl hkept.1

/-- A message that arrives in time keeps the service sound. -/
theorem sound_outside {change : Change} {next : State} (hsound : Sound state)
    (hinTime : IsInTime texts change state)
    (hchange : (machine library texts).outside change state = some next) :
    Sound next ∧ state.received ⊆ next.received := by
  cases change with
  | record accountId report surroundings =>
      obtain ⟨inbox, hrecord, rfl⟩ := Option.map_eq_some_iff.mp hchange
      refine ⟨⟨fun other => ?_, hsound.clears⟩, List.Subset.refl _⟩
      by_cases hsame : other = accountId
      · subst hsame
        simp only [Function.update_self]
        exact (hsound.inboxes other).recordMessage hrecord hinTime
      · simpa only [Function.update_of_ne hsame] using hsound.inboxes other
  | list enabledUsers =>
      cases hchange
      exact ⟨⟨hsound.inboxes, hsound.clears⟩, List.Subset.refl _⟩

theorem machine_sound : (machine library texts).Sound (discipline texts) where
  refl _ _ := List.Subset.refl _
  trans _ _ _ _ hfirst hsecond := List.Subset.trans hfirst hsecond
  start thread job state next hsound _ hstart := by
    simp only [machine] at hstart
    split at hstart
    · have hnext := Option.some.inj hstart
      have hgrown : state.received ⊆ next.received := by
        rw [← hnext]
        exact List.subset_append_left _ _
      have hafter : Sound next := by
        rw [← hnext]
        refine ⟨hsound.inboxes, fun clear hclear => ?_⟩
        exact (hsound.clears clear hclear).mono (List.subset_append_left _ _)
      refine ⟨⟨hafter, fun _ _ => hgrown⟩, secured_syncReadSnapshot thread job.polled hafter ?_⟩
      rw [← hnext]
      exact List.subset_append_right _ _
    · cases hstart
  crash _ _ hsound _ := harmless_refl hsound
  outside change state next hsound hinTime hchange := by
    obtain ⟨hafter, hgrown⟩ := sound_outside hsound hinTime hchange
    exact ⟨hafter, fun _ => hgrown⟩

structure MarksKept (before after : State) : Prop where
  seen : ∀ chatwootConversationId,
    NotLater (before.observations chatwootConversationId).remoteAgentLastSeenAt
      (after.observations chatwootConversationId).remoteAgentLastSeenAt
  reads : ∀ accountId,
    ReadsKept (before.inboxes accountId).store (after.inboxes accountId).store

theorem MarksKept.refl (state : State) : MarksKept state state :=
  ⟨fun _ => .refl _, fun _ => .refl _⟩

theorem MarksKept.trans {first second third : State} (hfirst : MarksKept first second)
    (hsecond : MarksKept second third) : MarksKept first third where
  seen id := (hfirst.seen id).trans (hsecond.seen id)
  reads accountId := (hfirst.reads accountId).trans (hsecond.reads accountId)

theorem marksKept_of_update {before after : State} {accountId : String} {inbox : Inbox}
    (hkept : ReadsKept (before.inboxes accountId).store inbox.store)
    (hobservations : after.observations = before.observations)
    (hinboxes : after.inboxes = Function.update before.inboxes accountId inbox) :
    MarksKept before after where
  seen id := by
    rw [hobservations]
    exact .refl _
  reads other := by
    rw [hinboxes]
    by_cases hsame : other = accountId
    · subst hsame
      rwa [Function.update_self]
    · rw [Function.update_of_ne hsame]
      exact .refl _

theorem marksKept_recordReadSyncObservation (chatwootConversationId : String) (seenAt : ℤ)
    (synced : Bool) (now : ℤ) (state : State) :
    MarksKept state
      (state.recordReadSyncObservation chatwootConversationId seenAt synced now) := by
  unfold State.recordReadSyncObservation
  split
  · exact .refl state
  · refine ⟨fun id => ?_, fun _ => .refl _⟩
    by_cases hsame : id = chatwootConversationId
    · subst hsame
      simp only [Function.update_self]
      exact notLater_raise _ seenAt
    · simp only [Function.update_of_ne hsame]
      exact .refl _

theorem marksKept_performOp {op : Op} {before after : State} {answer : Except Failure (Answer op)}
    (hperform : performOp op env before = some (answer, after)) : MarksKept before after := by
  rcases performOp_cases hperform with rfl | ⟨value, heffect⟩
  · exact .refl after
  · cases op with
    | getConversationMapByRemoteGlobal | getConfig | getLastInboundAt =>
        cases heffect
        exact .refl _
    | recordReadSyncObservation chatwootConversationId seenAt synced =>
        cases heffect
        exact marksKept_recordReadSyncObservation _ _ _ _ _
    | markConversationReadShared accountId conversationId seenAt =>
        cases heffect
        exact marksKept_of_update
          (Messages.readsKept_markConversationReadShared _ _ _ _) rfl rfl
    | _ => cases heffect

/-- No turn decreases a time. -/
theorem marksKept_of_apply {threads next : Threads State Op Answer Failure (List String)}
    {turn : Turn Job SyncEnv Change}
    (happly : (machine library texts).apply threads turn = some next) :
    MarksKept threads.state next.state := by
  refine Machine.relates_of_apply MarksKept .refl (fun _ _ _ => .trans) ?_
    (fun _ _ _ _ _ _ => marksKept_performOp) (fun _ _ => .refl) ?_ happly
  · intro thread job state after hstart
    simp only [machine] at hstart
    split at hstart
    · rw [← Option.some.inj hstart]
      exact ⟨fun _ => .refl _, fun _ => .refl _⟩
    · cases hstart
  · intro change state after hchange
    cases change with
    | record accountId report surroundings =>
        obtain ⟨inbox, hrecord, rfl⟩ := Option.map_eq_some_iff.mp hchange
        obtain ⟨recorded, hrecorded, rfl⟩ := Option.map_eq_some_iff.mp hrecord
        exact marksKept_of_update (Messages.readsKept_recordMessage hrecorded) rfl rfl
    | list enabledUsers =>
        cases hchange
        exact ⟨fun _ => .refl _, fun _ => .refl _⟩

/-- Whatever is reported, the times do not decrease along a run. -/
theorem marksKept_of_run {threads final : Threads State Op Answer Failure (List String)}
    {turns : List (Turn Job SyncEnv Change)}
    (hrun : Run (ofPartial (machine library texts).apply) threads turns final) :
    MarksKept threads.state final.state :=
  hrun.relates (fun before after => MarksKept before.state after.state) (fun _ => .refl _)
    (fun _ _ _ => .trans) fun _ _ _ hstep => marksKept_of_apply hstep

/-- What the reconciliations promise of a run: a snapshot clears only what was created before
the second after its seen time, and the times that are noted never decrease. -/
structure Promised (library : WebhookLibrary) (texts : TextLibrary) (first : State)
    (turns : List (Turn Job SyncEnv Change)) (final : State) : Prop where
  clears : ∀ clear ∈ final.clears, clear.Justified final.received
  marks : ∀ earlier later middle, turns = earlier ++ later →
    Run (ofPartial (machine library texts).apply) (Machine.idle first) earlier middle →
    MarksKept middle.state final

/-- The promise is kept in every run whose reports are in time. -/
theorem read_sync_clears_no_newer {settings : Settings} {observations : String → Observation}
    {turns : List (Turn Job SyncEnv Change)}
    {final : Threads State Op Answer Failure (List String)}
    (hrun : Run
      (restrict (ofPartial (machine library texts).apply) (Machine.Keeps (discipline texts)))
      (Machine.idle (start settings observations)) turns final) :
    Promised library texts (start settings observations) turns final.state where
  clears := by
    have hsound : Sound final.state :=
      Machine.invariant_of_run machine_sound (sound_start settings observations) hrun
    exact hsound.clears
  marks := by
    rintro earlier later middle rfl hearlier
    obtain ⟨reached, hreached, hlater⟩ := run_append_iff.mp hrun.forget
    have hsame : reached = middle := by
      rw [run_ofPartial_iff] at hreached hearlier
      exact Option.some.inj (hreached.symm.trans hearlier)
    exact marksKept_of_run (hsame ▸ hlater)

def plainLibrary : WebhookLibrary where
  loads _ := .error true
  decode _ := none
  encode _ := []
  sha256 _ := ""
  hmacSha256 _ _ := ""
  isDigit _ := false
  int
    | .int value => .ok value
    | _ => .error .notAnInteger
  str := Json.dumps
  decrypt _ := none
  loadsText _ := none
  epochSeconds
    | .int value => some (if 0 < value then some value else none)
    | _ => some none
  isTimestamp _ := true
  urlSuffix _ := some ""

def plainTexts : TextLibrary :=
  Messages.tabulated
    [("c\x1finbound\x1ftext\x1f在吗\x1fbuyer\x1f1700000010000",
        "8f638c042d7ba63dc2fe1b24a0608de6145ee6afb768ebcedf7cbbf8df48b3af"),
      ("c\x1finbound\x1fcard\x1f[卡片]\x1fbuyer\x1f1700000030000",
        "3f7ba768e5adc9a987b18ce553312aa9f2d61e9a2c252012c59d74229ef8c913")]

def plainSettings : Settings := .ofOneMap none "buyer" "7"

def arrives (messageType content messageId : String) (createdAtMs : ℤ) :
    Turn Job SyncEnv Change :=
  .outside (.record "a"
    { conversationId := "c"
      direction := "inbound"
      messageType := messageType
      content := content
      messageId := some messageId
      peerUserId := some "buyer"
      createdAtMs := some createdAtMs }
    { now := createdAtMs + 400, messagePk := messageId, enabledUsers := ["admin"] })

def snapshotTurns (seenAt : ℤ) : List (Turn Job SyncEnv Change) :=
  .start 0 (.webhook [("conversation", .obj [("id", .str "7"), ("unread_count", .int 0),
    ("agent_last_seen_at", .int seenAt)])]) ::
    List.replicate 6 (.resume 0 { enabledUsers := ["admin"], now := 1700000040000 })

/-- A text is read in Chatwoot, and the snapshot is taken over. -/
theorem read_text_is_cleared :
    ∃ final, Run
        (restrict (ofPartial (machine plainLibrary plainTexts).apply)
          (Machine.Keeps (discipline plainTexts)))
        (Machine.idle (start plainSettings fun _ => { }))
        (arrives "text" "在吗" "m-1" 1700000010000 :: snapshotTurns 1700000020) final ∧
      (final.state.clears.map fun clear => clear.cleared.unreadCount) = [1] ∧
      Promised plainLibrary plainTexts (start plainSettings fun _ => { })
        (arrives "text" "在吗" "m-1" 1700000010000 :: snapshotTurns 1700000020) final.state := by
  have hruns : ∃ final, Run
        (restrict (ofPartial (machine plainLibrary plainTexts).apply)
          (Machine.Keeps (discipline plainTexts)))
        (Machine.idle (start plainSettings fun _ => { }))
        (arrives "text" "在吗" "m-1" 1700000010000 :: snapshotTurns 1700000020) final ∧
      (final.state.clears.map fun clear => clear.cleared.unreadCount) = [1] := by
    refine ⟨_, .cons ⟨?_, rfl⟩ (.cons ⟨trivial, rfl⟩ (.cons ⟨fun _ _ _ => trivial, rfl⟩
      (.cons ⟨fun _ _ _ => trivial, rfl⟩ (.cons ⟨fun _ _ _ => trivial, rfl⟩
      (.cons ⟨fun _ _ _ => trivial, rfl⟩ (.cons ⟨fun _ _ _ => trivial, rfl⟩
      (.cons ⟨fun _ _ _ => trivial, rfl⟩ (.nil _)))))))), ?_⟩
    · rfl
    · rfl
  obtain ⟨final, hrun, hclears⟩ := hruns
  exact ⟨final, hrun, hclears, read_sync_clears_no_newer hrun⟩

def cardTurns : List (Turn Job SyncEnv Change) :=
  arrives "text" "在吗" "m-1" 1700000010000 ::
    arrives "card" "[卡片]" "m-2" 1700000030000 :: snapshotTurns 1700000020

/-- The card moves no `last_inbound_at`, and the snapshot clears it. -/
theorem card_is_cleared :
    ¬ ∀ library texts settings observations turns final,
      Run (ofPartial (machine library texts).apply)
        (Machine.idle (start settings observations)) turns final →
      Promised library texts (start settings observations) turns final.state := by
  intro hclaim
  have hruns : ∃ final, Run (ofPartial (machine plainLibrary plainTexts).apply)
      (Machine.idle (start plainSettings fun _ => { })) cardTurns final ∧
      ∃ clear ∈ final.state.clears, ∃ message ∈ clear.cleared.messages,
        clear.seenAt = 1700000020 ∧ message.createdAtMs = 1700000030000 := by
    refine ⟨_, run_ofPartial_iff.mpr rfl, _, List.mem_cons_self, _,
      List.mem_cons_of_mem _ List.mem_cons_self, rfl, rfl⟩
  obtain ⟨final, hrun, clear, hclear, message, hmessage, hseen, hcreated⟩ := hruns
  have hearlier := ((hclaim _ _ _ _ _ _ hrun).clears clear hclear).covered.earlier message hmessage
  rw [hseen, hcreated] at hearlier
  exact absurd hearlier (by decide)

end XianyuAdmin.Chatwoot.ReadSync
