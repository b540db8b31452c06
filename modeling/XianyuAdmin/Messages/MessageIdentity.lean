import XianyuAdmin.Messages.CallEffects

/-!
# Platform ids name rows

The purpose of the deduplication is a ledger: each message id of the platform
names the one row that stands for the message, for good.  The ledger is read off
the index over `message_id`.  Every call extends it, except a call that is
matched with a row under another id: it takes that id out of the ledger, and the
message that had it is lost.
-/

namespace XianyuAdmin.Messages

open XianyuAdmin.Python
open XianyuAdmin.Transition

variable {library : TextLibrary} {start store next final : MessageStore}

/-- The `message_pk` of the row that a platform id names. -/
def MessageStore.ledger (store : MessageStore) (messageId : String) : Option String :=
  (store.messages.lookup (.messageId messageId)).map Message.messagePk

theorem ledger_eq_some_iff {messageId row : String} :
    store.ledger messageId = some row ↔
      ∃ message ∈ store.messages.rows,
        message.messageId = some messageId ∧ message.messagePk = row := by
  unfold MessageStore.ledger
  simp only [Option.map_eq_some_iff, Table.lookup_eq_some_iff,
    messageId_mem_messageKeys, and_assoc]

theorem eq_of_messagePk {left right : Message} (hleft : left ∈ store.messages.rows)
    (hright : right ∈ store.messages.rows) (hpk : left.messagePk = right.messagePk) :
    left = right :=
  Table.eq_of_key hleft hright (messagePk_mem_messageKeys.mpr hpk)
    (messagePk_mem_messageKeys.mpr rfl)

/-- A row has one platform id: different ids name different rows. -/
theorem ledger_injective {left right row : String} (hleft : store.ledger left = some row)
    (hright : store.ledger right = some row) : left = right := by
  obtain ⟨first, hfirst, hfirstId, hfirstPk⟩ := ledger_eq_some_iff.mp hleft
  obtain ⟨second, hsecond, hsecondId, hsecondPk⟩ := ledger_eq_some_iff.mp hright
  have hsame : first = second :=
    eq_of_messagePk hfirst hsecond (hfirstPk.trans hsecondPk.symm)
  have hids : some left = some right :=
    calc
      some left = first.messageId := hfirstId.symm
      _ = second.messageId := by rw [hsame]
      _ = some right := hsecondId
  exact Option.some.inj hids

theorem existsUnique_of_ledger {messageId row : String}
    (hledger : store.ledger messageId = some row) :
    ∃! message, message ∈ store.messages.rows ∧ message.messageId = some messageId := by
  obtain ⟨message, hstored, hid, -⟩ := ledger_eq_some_iff.mp hledger
  refine ⟨message, ⟨hstored, hid⟩, fun other hother => ?_⟩
  exact Table.eq_of_key hother.1 hstored (messageId_mem_messageKeys.mpr hother.2)
    (messageId_mem_messageKeys.mpr hid)

/-- What the ids of `store` name, they still name in `next`. -/
def Extends (store next : MessageStore) : Prop :=
  ∀ messageId row, messageId ≠ "" →
    store.ledger messageId = some row → next.ledger messageId = some row

theorem Extends.refl (store : MessageStore) : Extends store store :=
  fun _ _ _ hledger => hledger

theorem Extends.trans (first second third : MessageStore) (hfirst : Extends first second)
    (hsecond : Extends second third) : Extends first third :=
  fun messageId row hid hledger =>
    hsecond messageId row hid (hfirst messageId row hid hledger)

theorem orElse_of_keeps {call : Call} {target : Message} {messageId : String}
    (hkeeps : replacesMessageId library store call = false)
    (hmatched : matchedRow library store call = some target)
    (htarget : target.messageId = some messageId) (hid : messageId ≠ "") :
    orElse (givenMessageId call) target.messageId = some messageId := by
  unfold orElse
  by_cases hgiven : truthy (givenMessageId call) = true
  · rw [if_pos hgiven]
    by_contra hother
    have hreplaces : replacesMessageId library store call = true := by
      simp [replacesMessageId, hmatched, htarget, hgiven, hid, Ne.symm hother]
    rw [hkeeps] at hreplaces
    cases hreplaces
  · rw [if_neg hgiven, htarget]

theorem extends_of_step {call : Call}
    (hkeeps : replacesMessageId library store call = false)
    (hstep : step library store call next) : Extends store next := by
  intro messageId row hid hledger
  obtain ⟨message, hstored, hmessageId, hpk⟩ := ledger_eq_some_iff.mp hledger
  cases effect_of_step hstep with
  | unchanged hnext => rwa [hnext]
  | rewrites target hmatched hrewrites =>
      obtain ⟨update, hrows, hupdate⟩ := hrewrites.rows
      obtain ⟨hupdatedPk, -, hupdatedId⟩ := hupdate message
      apply ledger_eq_some_iff.mpr
      refine ⟨update message, ?_, ?_, hupdatedPk.trans hpk⟩
      · rw [hrows]
        exact List.mem_map_of_mem hstored
      · rw [hupdatedId]
        by_cases htarget : message.messagePk = target.messagePk
        · have hsame := eq_of_messagePk hstored hrewrites.stored htarget
          rw [if_pos htarget, hsame]
          exact orElse_of_keeps hkeeps hmatched (hsame ▸ hmessageId) hid
        · rw [if_neg htarget, hmessageId]
  | inserts inserted hinserts =>
      apply ledger_eq_some_iff.mpr
      refine ⟨message, ?_, hmessageId, hpk⟩
      rw [hinserts.rows]
      exact List.mem_append_left _ hstored

theorem ledger_of_recordMessage {report : MessageReport} {surroundings : Surroundings}
    {recorded : Recorded} {messageId : String}
    (hrecord : recordMessage library store report surroundings = some recorded)
    (hgiven : report.messageId = some messageId) (hid : messageId ≠ "") :
    recorded.store.ledger messageId = some recorded.message.messagePk := by
  apply ledger_eq_some_iff.mpr
  rcases recordMessage_cases hrecord with
    ⟨existing, hfound, hpk, hrewrites⟩ | ⟨hfound, hmessage, hinserts⟩
  · obtain ⟨update, hrows, hupdate⟩ := hrewrites.rows
    obtain ⟨hupdatedPk, -, hupdatedId⟩ := hupdate existing
    refine ⟨update existing, ?_, ?_, hupdatedPk.trans hpk.symm⟩
    · rw [hrows]
      exact List.mem_map_of_mem hrewrites.stored
    · rw [hupdatedId, if_pos rfl, hgiven]
      exact if_pos (truthy_some.mpr hid)
  · refine ⟨recorded.message, ?_, hmessage.trans hgiven, rfl⟩
    rw [hinserts.rows]
    exact List.mem_append_right _ (List.mem_singleton.mpr rfl)

theorem ledger_lost_of_replaces {report : MessageReport} {surroundings : Surroundings}
    {recorded : Recorded} {existing : Message} {held messageId : String}
    (hrecord : recordMessage library store report surroundings = some recorded)
    (hfound : reportedRow library store report surroundings.now = some existing)
    (hheld : existing.messageId = some held) (hgiven : report.messageId = some messageId)
    (hid : messageId ≠ "") (hne : messageId ≠ held) :
    recorded.store.ledger held = none := by
  rcases recordMessage_cases hrecord with
    ⟨target, htarget, -, hrewrites⟩ | ⟨hnone, -, -⟩
  · have hsame : target = existing := Option.some.inj (htarget.symm.trans hfound)
    subst target
    obtain ⟨update, hrows, hupdate⟩ := hrewrites.rows
    rw [Option.eq_none_iff_forall_not_mem]
    intro row hrow
    obtain ⟨message, hmessage, hmessageId, -⟩ := ledger_eq_some_iff.mp hrow
    rw [hrows] at hmessage
    obtain ⟨before, hbefore, rfl⟩ := List.mem_map.mp hmessage
    rw [(hupdate before).2.2, hgiven] at hmessageId
    by_cases hpk : before.messagePk = existing.messagePk
    · rw [if_pos hpk, orElse, if_pos (truthy_some.mpr hid)] at hmessageId
      exact hne (Option.some.inj hmessageId)
    · rw [if_neg hpk] at hmessageId
      have hbeforeEq : before = existing :=
        Table.eq_of_key hbefore hrewrites.stored
          (messageId_mem_messageKeys.mpr hmessageId) (messageId_mem_messageKeys.mpr hheld)
      exact hpk (congrArg Message.messagePk hbeforeEq)
  · rw [hfound] at hnone
    cases hnone

theorem extends_of_run {calls : List Call}
    (hrun : Run (restrict (step library) fun store call =>
      replacesMessageId library store call = false) start calls final) :
    Extends start final :=
  hrun.relates Extends Extends.refl Extends.trans fun _ _ _ hstep =>
    extends_of_step hstep.1 hstep.2

/-- A report that was taken in, and the `message_pk` of the row it ended in. -/
structure TakenReport where
  report : MessageReport
  surroundings : Surroundings
  row : String

def TakenReport.call (taken : TakenReport) : Call :=
  .recordMessage taken.report taken.surroundings

/-- `_record_message_sync` takes in a report. -/
def takeReport (library : TextLibrary) (store : MessageStore) (taken : TakenReport)
    (next : MessageStore) : Prop :=
  ∃ recorded,
    recordMessage library store taken.report taken.surroundings = some recorded ∧
      recorded.message.messagePk = taken.row ∧ recorded.store = next

theorem step_of_takeReport {taken : TakenReport}
    (htake : takeReport library store taken next) :
    step library store taken.call next := by
  obtain ⟨recorded, hrecord, -, hnext⟩ := htake
  exact Option.map_eq_some_iff.mpr ⟨recorded, hrecord, hnext⟩

structure NoMessageLost (reports : List TakenReport) (final : MessageStore) : Prop where
  apart : ∀ left ∈ reports, ∀ right ∈ reports,
    truthy left.report.messageId → truthy right.report.messageId →
      left.report.messageId ≠ right.report.messageId → left.row ≠ right.row
  stored : ∀ taken ∈ reports, ∀ messageId,
    taken.report.messageId = some messageId → messageId ≠ "" →
      ∃! message, message ∈ final.messages.rows ∧ message.messageId = some messageId

theorem ledger_of_run {reports : List TakenReport}
    (hrun : Run (restrict (takeReport library) fun store taken =>
      replacesMessageId library store taken.call = false) start reports final) :
    ∀ taken ∈ reports, ∀ messageId, taken.report.messageId = some messageId →
      messageId ≠ "" → final.ledger messageId = some taken.row := by
  induction hrun with
  | nil => simp
  | cons hstep hrest ih =>
      intro taken htaken messageId hgiven hid
      rcases List.mem_cons.mp htaken with rfl | hlater
      · obtain ⟨recorded, hrecord, hrow, rfl⟩ := hstep.2
        have hledger := ledger_of_recordMessage hrecord hgiven hid
        have hextends : Extends recorded.store _ :=
          hrest.relates Extends Extends.refl Extends.trans fun _ _ _ hlater =>
            extends_of_step hlater.1 (step_of_takeReport hlater.2)
        exact hextends messageId taken.row hid (hrow ▸ hledger)
      · exact ih taken hlater messageId hgiven hid

/-- No message is lost in a run in which no report is matched with a row under
another id. -/
theorem recordMessage_loses_no_message {reports : List TakenReport}
    (hrun : Run (restrict (takeReport library) fun store taken =>
      replacesMessageId library store taken.call = false) start reports final) :
    NoMessageLost reports final where
  apart := by
    intro left hleft right hright hleftId hrightId hne hrow
    obtain ⟨leftId, hleftGiven, hleftNonempty⟩ := exists_of_truthy hleftId
    obtain ⟨rightId, hrightGiven, hrightNonempty⟩ := exists_of_truthy hrightId
    have hleftLedger := ledger_of_run hrun left hleft leftId hleftGiven hleftNonempty
    have hrightLedger :=
      ledger_of_run hrun right hright rightId hrightGiven hrightNonempty
    rw [← hrow] at hrightLedger
    have hsame : leftId = rightId := ledger_injective hleftLedger hrightLedger
    rw [hleftGiven, hrightGiven, hsame] at hne
    exact hne rfl
  stored := by
    intro taken htaken messageId hgiven hid
    exact existsUnique_of_ledger (ledger_of_run hrun taken htaken messageId hgiven hid)

def greeting (messageId content : String) (createdAtMs : ℤ) : MessageReport where
  conversationId := "chat"
  direction := "inbound"
  messageType := "text"
  content := content
  messageId := some messageId
  createdAtMs := some createdAtMs

/-- A call that may use `row` for the row it inserts. -/
def surroundingsOf (row : String) (now : ℤ) : Surroundings where
  now := now
  messagePk := row
  enabledUsers := ["admin"]

def greetingLibrary : TextLibrary :=
  tabulated
    [("chat\x1finbound\x1ftext\x1f在吗\x1f\x1f1700000000000",
        "36a026419774de8b972472c447c750c1bbb083326340b8d40b017ef944f012fe"),
      ("chat\x1finbound\x1ftext\x1f还在吗\x1f\x1f1700000060000",
        "9c5267949baa56767aec0ccc58ae83de5defd18fb62741fe95f92ca526efe2d8")]

/-- Two different texts, and the first of them once more. -/
theorem recordMessage_loses_no_message_sample :
    ∃ final, NoMessageLost
      [⟨greeting "m-1" "在吗" 1700000000000, surroundingsOf "row-1" 1700000000400, "row-1"⟩,
        ⟨greeting "m-2" "还在吗" 1700000060000, surroundingsOf "row-2" 1700000060400, "row-2"⟩,
        ⟨greeting "m-1" "在吗" 1700000000000, surroundingsOf "row-3" 1700000090000, "row-1"⟩]
      final :=
  ⟨_, recordMessage_loses_no_message
    (.cons ⟨by rfl, _, by rfl, by rfl, rfl⟩
      (.cons ⟨by rfl, _, by rfl, by rfl, rfl⟩
        (.cons ⟨by rfl, _, by rfl, by rfl, rfl⟩ (.nil _))) :
      Run (restrict (takeReport greetingLibrary) _) MessageStore.empty _ _)⟩

theorem take_first_greeting (library : TextLibrary) :
    ∃ store row key, takeReport library MessageStore.empty
        ⟨greeting "m-1" "在吗" 1700000000000, surroundingsOf "row-1" 1700000000400, "row-1"⟩
        store ∧
      store.messages.rows = [row] ∧ row.messagePk = "row-1" ∧
        row.messageId = some "m-1" ∧ row.dedupeKey = some key ∧
          (prepareIncoming library store (greeting "m-2" "在吗" 1700000000000)
            1700000000400).dedupeKey = some key :=
  ⟨_, _, _, ⟨_, rfl, rfl, rfl⟩, rfl, rfl, rfl, rfl, rfl⟩

/-- Under any hash the second of two equal texts takes the row of the first, and
no row carries the id of the first any more. -/
theorem recordMessage_loses_no_message_fails :
    ¬ ∃ library : TextLibrary, ∀ reports final,
      Run (takeReport library) MessageStore.empty reports final →
        NoMessageLost reports final := by
  rintro ⟨library, hclaim⟩
  obtain ⟨store, row, key, hfirst, hrows, hpk, hid, hkey, hreportKey⟩ :=
    take_first_greeting library
  let second := greeting "m-2" "在吗" 1700000000000
  have hfound : reportedRow library store second 1700000000400 = some row := by
    have hnone : store.messages.lookup (.messageId "m-2") = none := by
      simp [Table.lookup, hrows, hid]
    have hsome : store.messages.lookup (.dedupeKey key) = some row := by
      simp [Table.lookup, hrows, hkey]
    unfold reportedRow findExisting
    rw [hreportKey, Option.bind_some, hsome]
    change (store.messages.lookup (.messageId "m-2")).or (some row) = some row
    rw [hnone, Option.none_or]
  obtain ⟨recorded, hrecord, hrow⟩ : ∃ recorded,
      recordMessage library store second (surroundingsOf "row-2" 1700000000400) =
        some recorded ∧ recorded.message.messagePk = row.messagePk :=
    exists_recordMessage_of_found rfl hfound
  have hlost : recorded.store.ledger "m-1" = none :=
    ledger_lost_of_replaces hrecord hfound hid (rfl : second.messageId = some "m-2")
      (by decide) (by decide)
  have hsecond : takeReport library store
      ⟨second, surroundingsOf "row-2" 1700000000400, "row-1"⟩ recorded.store :=
    ⟨recorded, hrecord, hrow.trans hpk, rfl⟩
  have hrun := Run.cons hfirst (Run.cons hsecond (Run.nil recorded.store))
  obtain ⟨message, ⟨hstored, hmessageId⟩, -⟩ :=
    (hclaim _ _ hrun).stored _ List.mem_cons_self "m-1" rfl (by decide)
  have hledger : recorded.store.ledger "m-1" = some message.messagePk :=
    ledger_eq_some_iff.mpr ⟨message, hstored, hmessageId, rfl⟩
  rw [hlost] at hledger
  cases hledger

end XianyuAdmin.Messages
