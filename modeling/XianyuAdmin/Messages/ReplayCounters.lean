import XianyuAdmin.Messages.MessageIdentity

/-!
# Replayed history and the counters

Each conversation counts its message rows, and the runtime row counts the rows
of the account; both counts move with the insertion of a row and with nothing
else.  A report whose id is in the ledger inserts no row, so that history may be
submitted again as long as its ids have stayed in the ledger.
-/

namespace XianyuAdmin.Messages

open XianyuAdmin.Python
open XianyuAdmin.Transition

variable {library : TextLibrary} {start store next final : MessageStore}

def CountsRows (store : MessageStore) : Prop :=
  ∀ conversationId, store.messageCount conversationId = store.rowCount conversationId

theorem countsRows_empty : CountsRows MessageStore.empty := fun _ => rfl

theorem Rewrites.rowCount_eq {target : Message} {given : Option String}
    (hrewrites : Rewrites store target given next) (conversationId : String) :
    next.rowCount conversationId = store.rowCount conversationId := by
  obtain ⟨update, hrows, hupdate⟩ := hrewrites.rows
  unfold MessageStore.rowCount
  rw [hrows, List.countP_map]
  congr 1
  funext message
  simp only [Function.comp, (hupdate message).2.1]

theorem Inserts.rowCount_eq {message : Message} (hinserts : Inserts store message next)
    (conversationId : String) :
    next.rowCount conversationId =
      store.rowCount conversationId +
        if message.conversationId = conversationId then 1 else 0 := by
  unfold MessageStore.rowCount
  simp [hinserts.rows, List.countP_append, List.countP_singleton]

theorem Rewrites.length_eq {target : Message} {given : Option String}
    (hrewrites : Rewrites store target given next) :
    next.messages.rows.length = store.messages.rows.length := by
  obtain ⟨update, hrows, -⟩ := hrewrites.rows
  rw [hrows, List.length_map]

theorem countsRows_of_step {call : Call} (hcounts : CountsRows store)
    (hstep : step library store call next) : CountsRows next := by
  intro conversationId
  cases effect_of_step hstep with
  | unchanged hnext =>
      rw [hnext]
      exact hcounts conversationId
  | rewrites target hmatched hrewrites =>
      calc
        next.messageCount conversationId = store.messageCount conversationId :=
          hrewrites.counters.messageCount conversationId
        _ = store.rowCount conversationId := hcounts conversationId
        _ = next.rowCount conversationId := (hrewrites.rowCount_eq conversationId).symm
  | inserts message hinserts =>
      rw [hinserts.messageCount, hinserts.rowCount_eq, hcounts conversationId]

def RuntimeCounts (store next : MessageStore) : Prop :=
  next.runtime.messageCount + store.messages.rows.length =
    store.runtime.messageCount + next.messages.rows.length

theorem RuntimeCounts.refl (store : MessageStore) : RuntimeCounts store store := rfl

theorem RuntimeCounts.trans (first second third : MessageStore)
    (hfirst : RuntimeCounts first second) (hsecond : RuntimeCounts second third) :
    RuntimeCounts first third := by
  unfold RuntimeCounts at hfirst hsecond ⊢
  omega

theorem runtimeCounts_of_step {call : Call} (hstep : step library store call next) :
    RuntimeCounts store next := by
  cases effect_of_step hstep with
  | unchanged hnext =>
      rw [hnext]
      exact RuntimeCounts.refl store
  | rewrites target hmatched hrewrites =>
      unfold RuntimeCounts
      rw [hrewrites.counters.runtime, hrewrites.length_eq]
  | inserts message hinserts =>
      unfold RuntimeCounts
      rw [hinserts.runtime, hinserts.rows, List.length_append, List.length_singleton]
      omega

theorem exists_reportedRow_of_ledger {report : MessageReport} {messageId row : String}
    (hledger : store.ledger messageId = some row)
    (hgiven : report.messageId = some messageId) (hid : messageId ≠ "") (now : ℤ) :
    ∃ existing, reportedRow library store report now = some existing := by
  obtain ⟨existing, hlookup, -⟩ := Option.map_eq_some_iff.mp hledger
  refine ⟨existing, ?_⟩
  have htruthy : truthy report.messageId = true := by
    rw [hgiven]
    exact truthy_some.mpr hid
  rw [reportedRow, findExisting, if_pos htruthy, hgiven, Option.getD_some, hlookup,
    Option.some_or]

theorem ledger_of_reported {calls : List Call}
    (hrun : Run (restrict (step library) fun store call =>
      replacesMessageId library store call = false) start calls final) :
    ∀ report surroundings, Call.recordMessage report surroundings ∈ calls →
      ∀ messageId, report.messageId = some messageId → messageId ≠ "" →
        ∃ row, final.ledger messageId = some row := by
  induction hrun with
  | nil => simp
  | cons hstep hrest ih =>
      intro report surroundings hcall messageId hgiven hid
      rcases List.mem_cons.mp hcall with rfl | hlater
      · obtain ⟨recorded, hrecord, rfl⟩ := Option.map_eq_some_iff.mp hstep.2
        exact ⟨_, extends_of_run hrest messageId _ hid
          (ledger_of_recordMessage hrecord hgiven hid)⟩
      · exact ih report surroundings hlater messageId hgiven hid

structure Idle (store next : MessageStore) : Prop where
  rows : next.messages.rows.map Message.messagePk =
    store.messages.rows.map Message.messagePk
  counters : SameCounters store next

/-- A report that finds a row inserts none and leaves the counters. -/
theorem idle_of_found {report : MessageReport} {surroundings : Surroundings}
    {existing : Message}
    (hfound : reportedRow library store report surroundings.now = some existing)
    (hstep : step library store (.recordMessage report surroundings) next) :
    Idle store next := by
  obtain ⟨recorded, hrecord, rfl⟩ := Option.map_eq_some_iff.mp hstep
  rcases recordMessage_cases hrecord with
    ⟨target, -, -, hrewrites⟩ | ⟨hnone, -, -⟩
  · obtain ⟨update, hrows, hupdate⟩ := hrewrites.rows
    have hpks : recorded.store.messages.rows.map Message.messagePk =
        store.messages.rows.map Message.messagePk := by
      rw [hrows, List.map_map]
      exact List.map_congr_left fun message _ => (hupdate message).1
    exact ⟨hpks, hrewrites.counters⟩
  · rw [hfound] at hnone
    cases hnone

/-- The counters are exact at the end of `calls`, and each report of `calls` that
carries an id may be submitted again at any later time. -/
structure HistoryKept (library : TextLibrary) (start : MessageStore) (calls : List Call)
    (final : MessageStore) : Prop where
  conversations : CountsRows final
  runtime : RuntimeCounts start final
  replay : ∀ report surroundings, Call.recordMessage report surroundings ∈ calls →
    truthy report.messageId → ∀ later next,
      step library final (.recordMessage report later) next → Idle final next

theorem counts_of_run {calls : List Call} (hrun : Run (step library) start calls final)
    (hstart : CountsRows start) : CountsRows final ∧ RuntimeCounts start final :=
  ⟨hrun.invariant CountsRows (fun _ _ _ hcounts hstep => countsRows_of_step hcounts hstep)
      hstart,
    hrun.relates RuntimeCounts RuntimeCounts.refl RuntimeCounts.trans
      fun _ _ _ hstep => runtimeCounts_of_step hstep⟩

/-- Replayed history changes no counter in a run in which no call is matched with a
row under another id. -/
theorem replay_changes_no_counter {calls : List Call}
    (hrun : Run (restrict (step library) fun store call =>
      replacesMessageId library store call = false) start calls final)
    (hstart : CountsRows start) : HistoryKept library start calls final where
  conversations := (counts_of_run hrun.forget hstart).1
  runtime := (counts_of_run hrun.forget hstart).2
  replay := by
    intro report surroundings hcall htruthy later next hstep
    obtain ⟨messageId, hgiven, hid⟩ := exists_of_truthy htruthy
    obtain ⟨row, hledger⟩ :=
      ledger_of_reported hrun report surroundings hcall messageId hgiven hid
    obtain ⟨existing, hfound⟩ :=
      exists_reportedRow_of_ledger hledger hgiven hid later.now
    exact idle_of_found hfound hstep

/-- A replay is not turned away: it is taken in whenever its report once was. -/
theorem replay_returns {report : MessageReport} {surroundings later : Surroundings}
    {recorded : Recorded} {messageId row : String}
    (hrecord : recordMessage library start report surroundings = some recorded)
    (hledger : store.ledger messageId = some row)
    (hgiven : report.messageId = some messageId) (hid : messageId ≠ "") :
    ∃ next, step library store (.recordMessage report later) next := by
  obtain ⟨_, hguard, -⟩ := Option.bind_eq_some_iff.mp hrecord
  have hinstant : (normalizeEpochMilliseconds report.createdAtMs).all isInstant = true := by
    by_contra hfails
    have hrejected : ¬ (prepareIncoming library start report
        surroundings.now).platformCreatedAtMs.all isInstant = true := hfails
    rw [guard, if_neg hrejected] at hguard
    cases hguard
  obtain ⟨existing, hfound⟩ := exists_reportedRow_of_ledger hledger hgiven hid later.now
  obtain ⟨replayed, hreplayed, -⟩ := exists_recordMessage_of_found hinstant hfound
  exact ⟨replayed.store, Option.map_eq_some_iff.mpr ⟨replayed, hreplayed, rfl⟩⟩

def sentReply (messageId : String) : MessageReport where
  conversationId := "chat"
  direction := "outbound"
  messageType := "text"
  content := "好的"
  messageId := some messageId
  sendSuccess := some true

def replyLibrary : TextLibrary :=
  tabulated
    [("chat\x1foutbound\x1ftext\x1f好的\x1f\x1f1700000000400",
        "65bf7e7ae9914bed63008d31427bd4f0ba6db6412776aeaa39c87f839362dd7f"),
      ("chat\x1foutbound\x1ftext\x1f好的\x1f\x1f1700000090000",
        "4b89bf746ff7797e3f16864320a8cbc0a79f3f417663f444f66c835db0e749eb")]

/-- A reply that was recorded once, at the end of its run. -/
theorem replay_changes_no_counter_reply :
    ∃ final, HistoryKept replyLibrary MessageStore.empty
      [.recordMessage (sentReply "m-1") (surroundingsOf "row-1" 1700000000400)] final :=
  ⟨_, replay_changes_no_counter
    (.cons ⟨by rfl, by rfl⟩ (.nil _) : Run (restrict (step replyLibrary) _) _ _ _)
    countsRows_empty⟩

/-- Two equal replies in one millisecond share a row, which keeps the second id.
The first of them, submitted again later, is inserted and counted. -/
theorem replay_changes_no_counter_fails :
    ¬ ∀ calls final, Run (step replyLibrary) MessageStore.empty calls final →
      HistoryKept replyLibrary MessageStore.empty calls final := by
  intro hclaim
  have hkept := hclaim
    [.recordMessage (sentReply "m-1") (surroundingsOf "row-1" 1700000000400),
      .recordMessage (sentReply "m-2") (surroundingsOf "row-2" 1700000000400)] _
    (.cons rfl (.cons rfl (.nil _)))
  have hidle := hkept.replay (sentReply "m-1") (surroundingsOf "row-1" 1700000000400)
    List.mem_cons_self rfl (surroundingsOf "row-3" 1700000090000) _ rfl
  have hlength := congrArg List.length hidle.rows
  cases hlength

end XianyuAdmin.Messages
