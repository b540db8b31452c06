import XianyuAdmin.AutoReply.Executions

/-!
# One auto reply for each inbound message

A claim that finds no log row for its message may still be overtaken by another one;
then the unique index refuses its row, and the claim gets no log id.  The switches are
looked at once, before that.  Among the calls of one `AccountStore` they cannot change
between the look and the commit; a call of another process can change them, and then
the claim stands by what it has seen.
-/

namespace XianyuAdmin.AutoReply

open Sessions Transition

def AutoReplyLog.IsFor (log : AutoReplyLog) (accountId messagePk : String) : Prop :=
  log.accountId = accountId ∧ log.inboundMessagePk = some messagePk

def ReplyTables.loggedAs (tables : ReplyTables) (accountId messagePk : String) :
    Option String :=
  (tables.logs.lookup (.inbound accountId messagePk)).map AutoReplyLog.logId

theorem mem_logKeys_iff {log : AutoReplyLog} {accountId messagePk : String} :
    LogKey.inbound accountId messagePk ∈ logKeys log ↔ log.IsFor accountId messagePk := by
  unfold logKeys AutoReplyLog.IsFor
  cases log.inboundMessagePk with
  | none => simp
  | some stored => simp [eq_comm]

/-- Log rows are neither deleted nor given to another message. -/
theorem loggedAs_of_applyReplyWrite {tables after : ReplyTables} {write : ReplyWrite}
    (happly : applyReplyWrite tables write = some after)
    {accountId messagePk logId : String}
    (hlogged : tables.loggedAs accountId messagePk = some logId) :
    after.loggedAs accountId messagePk = some logId := by
  obtain ⟨log, hlookup, hid⟩ := Option.map_eq_some_iff.mp hlogged
  cases write with
  | insertLog inserted =>
      obtain ⟨logs, hinsert, rfl⟩ := Option.map_eq_some_iff.mp happly
      obtain ⟨hstored, hkey⟩ := Table.lookup_eq_some_iff.mp hlookup
      have hother := Table.noClash_of_insert? hinsert log hstored _ hkey
      unfold ReplyTables.loggedAs
      rw [Table.lookup_of_insert? hinsert, if_neg hother, hlookup]
      exact congrArg some hid
  | updateLog loaded assigned =>
      cases happly
      unfold ReplyTables.loggedAs
      rw [Table.lookup_map, hlookup]
      simp only [Option.map_some, ← hid]
      split <;> rfl
  | saveSetting store setting =>
      obtain ⟨settings, -, rfl⟩ := Option.map_eq_some_iff.mp happly
      exact hlogged
  | saveConversation store conversation =>
      obtain ⟨conversations, -, rfl⟩ := Option.map_eq_some_iff.mp happly
      exact hlogged

def SwitchedOn (accountId : String) (tables : ReplyTables) : Prop :=
  (tables.settings.lookup accountId).any AutoReplySetting.enabled

def NotTakenOver (now : ℕ) (accountId conversationId : String) (tables : ReplyTables) : Prop :=
  ∀ later, now ≤ later →
    ¬(tables.conversations.lookup (accountId, conversationId)).any (manualTakeoverActive later)

theorem isFuture_of_le {now later : ℕ} (hle : now ≤ later) {value : Option ℕ}
    (hfuture : isFuture later value = true) : isFuture now value = true := by
  cases value with
  | none => exact hfuture
  | some value =>
      simp only [isFuture, Option.any_some, decide_eq_true_eq] at hfuture ⊢
      exact hle.trans_lt hfuture

/-- A takeover ends by itself, and does not begin again. -/
theorem manualTakeoverActive_of_le {now later : ℕ} (hle : now ≤ later)
    {conversation : Conversation} (hactive : manualTakeoverActive later conversation = true) :
    manualTakeoverActive now conversation = true := by
  have hfuture : isFuture later conversation.manualTakeoverUntil = true →
      isFuture now conversation.manualTakeoverUntil = true := isFuture_of_le hle
  unfold manualTakeoverActive manualTakeoverMode at hactive ⊢
  grind

theorem notTakenOver_of_inactive {now : ℕ} {accountId conversationId : String}
    {tables : ReplyTables}
    (hinactive : ¬(tables.conversations.lookup (accountId, conversationId)).any
      (manualTakeoverActive now)) :
    NotTakenOver now accountId conversationId tables := by
  intro later hle hactive
  cases hstored : tables.conversations.lookup (accountId, conversationId) with
  | none => simp [hstored] at hactive
  | some conversation =>
      rw [hstored, Option.any_some] at hactive hinactive
      exact hinactive (manualTakeoverActive_of_le hle hactive)

def KeepsSwitches (store : ℕ) (held : List WriteLock) (before after : ReplyTables) : Prop :=
  ∀ accountId, ⟨store, accountId⟩ ∈ held →
    after.settings.lookup accountId = before.settings.lookup accountId ∧
      ∀ conversationId, after.conversations.lookup (accountId, conversationId) =
        before.conversations.lookup (accountId, conversationId)

def WrittenThrough (store : ℕ) (_ : ReplyTables) : ReplyWrite → Prop
  | .saveSetting other _ | .saveConversation other _ => other = store
  | .insertLog _ | .updateLog .. => True

theorem KeepsSwitches.refl (store : ℕ) (held : List WriteLock) (tables : ReplyTables) :
    KeepsSwitches store held tables tables :=
  fun _ _ => ⟨rfl, fun _ => rfl⟩

theorem KeepsSwitches.trans (store : ℕ) (held : List WriteLock)
    (first second third : ReplyTables) (hleft : KeepsSwitches store held first second)
    (hright : KeepsSwitches store held second third) : KeepsSwitches store held first third :=
  fun accountId hheld =>
    ⟨(hright accountId hheld).1.trans (hleft accountId hheld).1, fun conversationId =>
      ((hright accountId hheld).2 conversationId).trans
        ((hleft accountId hheld).2 conversationId)⟩

theorem keepsSwitches_of_applyReplyWrite (store : ℕ) (held : List WriteLock)
    (before : ReplyTables) (write : ReplyWrite) (after : ReplyTables)
    (hthrough : WrittenThrough store before write)
    (happly : applyReplyWrite before write = some after)
    (hfree : ∀ lock ∈ held, lock ∉ lockedBy before write) :
    KeepsSwitches store held before after := by
  intro accountId hheld
  have hother := hfree _ hheld
  cases write with
  | insertLog log =>
      obtain ⟨logs, -, rfl⟩ := Option.map_eq_some_iff.mp happly
      exact ⟨rfl, fun _ => rfl⟩
  | updateLog loaded assigned =>
      cases happly
      exact ⟨rfl, fun _ => rfl⟩
  | saveSetting through setting =>
      obtain ⟨settings, hsave, rfl⟩ := Option.map_eq_some_iff.mp happly
      cases hthrough
      refine ⟨Table.lookup_of_save? hsave fun hkey => hother ?_, fun _ => rfl⟩
      simp [lockedBy, List.mem_singleton.mp hkey]
  | saveConversation through conversation =>
      obtain ⟨conversations, hsave, rfl⟩ := Option.map_eq_some_iff.mp happly
      cases hthrough
      refine ⟨rfl, fun conversationId => Table.lookup_of_save? hsave fun hkey => hother ?_⟩
      simp [lockedBy, (Prod.mk.inj (List.mem_singleton.mp hkey)).1]

def Reply.IsClaim : Reply → Prop
  | .execution (some _) => True
  | _ => False

instance : DecidablePred Reply.IsClaim
  | .execution (some _) => isTrue trivial
  | .execution none | .log _ | .integrityError | .saved => isFalse id

def ReplyCall.Claims (accountId messagePk : String) : ReplyCall → Prop
  | .claimAutoReplyExecution _ request =>
      request.accountId = accountId ∧ request.inboundMessagePk = some messagePk
  | _ => False

instance (accountId messagePk : String) : DecidablePred (ReplyCall.Claims accountId messagePk)
  | .claimAutoReplyExecution _ _ => inferInstanceAs (Decidable (_ ∧ _))
  | .recordAutoReplyLog .. | .finishAutoReplyExecution .. | .saveSetting ..
  | .saveConversation .. => isFalse id

theorem not_isClaim_none : ¬Reply.IsClaim (.execution none) := id

section Claim

variable (draws : Draws) (request : ExecutionRequest)

theorem claim_demands_switch (tables : ReplyTables) :
    Demands replyEngine (fun _ _ _ => True) (SwitchedOn request.accountId) (fun _ => False)
      Reply.IsClaim [] tables
      (replyProgram (.claimAutoReplyExecution draws request)) := by
  intro atLock _ _
  dsimp only
  cases atLock.accounts.lookup request.accountId with
  | none => exact not_isClaim_none
  | some account =>
      intro atSwitch _ hoff
      unfold SwitchedOn at hoff
      dsimp only
      rw [if_pos hoff]
      exact not_isClaim_none

theorem claim_demands_auto (tables : ReplyTables) :
    Demands replyEngine (fun _ _ _ => True)
      (NotTakenOver draws.now request.accountId request.conversationId) (fun _ => False)
      Reply.IsClaim [] tables
      (replyProgram (.claimAutoReplyExecution draws request)) := by
  intro atLock _ _
  dsimp only
  cases atLock.accounts.lookup request.accountId with
  | none => exact not_isClaim_none
  | some account =>
      intro atSwitch _ _
      dsimp only
      split
      · exact not_isClaim_none
      · intro atTakeover _ htaken
        dsimp only
        rw [if_pos (by_contra fun hinactive => htaken (notTakenOver_of_inactive hinactive))]
        exact not_isClaim_none

/-- Under the lock, what the claim has seen of the switches holds until it commits. -/
theorem claim_demands_both (tables : ReplyTables) :
    Demands replyEngine (KeepsSwitches draws.store) (fun _ => False)
      (fun tables => SwitchedOn request.accountId tables ∧
        NotTakenOver draws.now request.accountId request.conversationId tables)
      Reply.IsClaim [] tables
      (replyProgram (.claimAutoReplyExecution draws request)) := by
  intro atLock _ _
  dsimp only
  cases atLock.accounts.lookup request.accountId with
  | none => exact not_isClaim_none
  | some account =>
      intro atSwitch _ _
      dsimp only
      split
      · exact not_isClaim_none
      · rename_i hon
        intro atTakeover hsinceSwitch _
        dsimp only
        split
        · exact not_isClaim_none
        · rename_i hinactive
          intro atLog hsinceTakeover _
          dsimp only
          split
          · exact not_isClaim_none
          · intro atCommit hsinceLog
            have hlater := KeepsSwitches.trans _ _ _ _ _ hsinceTakeover hsinceLog
            have hsetting := (KeepsSwitches.trans _ _ _ _ _ hsinceSwitch hlater
              request.accountId List.mem_cons_self).1
            have hconversation := (hlater request.accountId List.mem_cons_self).2
              request.conversationId
            cases replyEngine.apply atCommit _ with
            | none => exact not_isClaim_none
            | some after =>
                intro hnot
                refine absurd ⟨?_, ?_⟩ hnot
                · rw [SwitchedOn, hsetting]
                  exact not_not.mp hon
                · refine notTakenOver_of_inactive ?_
                  rw [hconversation]
                  exact hinactive

theorem claim_earns {accountId messagePk : String} (haccount : request.accountId = accountId)
    (hmessage : request.inboundMessagePk = some messagePk) :
    Earns replyEngine (fun tables => ∃ logId, tables.loggedAs accountId messagePk = some logId)
      Reply.IsClaim (replyProgram (.claimAutoReplyExecution draws request)) := by
  intro atLock
  dsimp only
  cases atLock.accounts.lookup request.accountId with
  | none => exact not_isClaim_none
  | some account =>
      intro atSwitch
      dsimp only
      split
      · exact not_isClaim_none
      · intro atTakeover
        dsimp only
        split
        · exact not_isClaim_none
        · intro atLog
          dsimp only
          split
          · exact not_isClaim_none
          · refine ⟨not_isClaim_none, .inr fun before after happly => ?_⟩
            obtain ⟨logs, hinsert, rfl⟩ := Option.map_eq_some_iff.mp happly
            have hkey : LogKey.inbound accountId messagePk ∈
                logKeys (processingLog draws request account) :=
              mem_logKeys_iff.mpr ⟨haccount, hmessage⟩
            constructor
            · rintro ⟨logId, hlogged⟩
              obtain ⟨log, hlookup, -⟩ := Option.map_eq_some_iff.mp hlogged
              obtain ⟨hstored, hheld⟩ := Table.lookup_eq_some_iff.mp hlookup
              exact Table.noClash_of_insert? hinsert log hstored _ hheld hkey
            · refine ⟨draws.logId, ?_⟩
              unfold ReplyTables.loggedAs
              rw [Table.lookup_of_insert? hinsert, if_pos hkey]
              rfl

end Claim

/-- In the run there was a moment at which an action of the call looked at tables in
`Looks`, or committed to tables in `Commits`. -/
def HadMoment (start : ReplyState) (labels : List (Label ReplyCall))
    (Looks Commits : ReplyTables → Prop) (call : ReplyCall) : Prop :=
  ∃ before id after middle, labels = before ++ .advances id :: after ∧
    Run replyStep start before middle ∧ middle.meets replyEngine Looks Commits call id

structure RepliesOnce (start : ReplyState) (labels : List (Label ReplyCall))
    (final : ReplyState) : Prop where
  claimedOnce : ∀ accountId messagePk,
    final.given Reply.IsClaim (ReplyCall.Claims accountId messagePk) ≤ 1
  switchedOn : ∀ draws request logId,
    (.claimAutoReplyExecution draws request, .execution (some logId)) ∈ final.answered →
      HadMoment start labels (SwitchedOn request.accountId) (fun _ => False)
        (.claimAutoReplyExecution draws request)
  /-- The claim has found the conversation free. -/
  notTakenOver : ∀ draws request logId,
    (.claimAutoReplyExecution draws request, .execution (some logId)) ∈ final.answered →
      HadMoment start labels
        (NotTakenOver draws.now request.accountId request.conversationId) (fun _ => False)
        (.claimAutoReplyExecution draws request)
  whenCommitted : ∀ draws request logId,
    Run (restrict replyStep (commitsAllowed (WrittenThrough draws.store))) start labels final →
    (.claimAutoReplyExecution draws request, .execution (some logId)) ∈ final.answered →
      HadMoment start labels (fun _ => False)
        (fun tables => SwitchedOn request.accountId tables ∧
          NotTakenOver draws.now request.accountId request.conversationId tables)
        (.claimAutoReplyExecution draws request)
  loggedOnce : ∀ before after middle, labels = before ++ after →
    Run replyStep start before middle → Run replyStep middle after final →
      ∀ log ∈ middle.store.logs.rows, ∀ messagePk, log.inboundMessagePk = some messagePk →
        ∃ kept ∈ final.store.logs.rows, kept.logId = log.logId ∧
          ∀ other ∈ final.store.logs.rows, other.IsFor log.accountId messagePk → other = kept

theorem loggedOnce_of_run {start final : ReplyState} {labels : List (Label ReplyCall)}
    (hrun : Run replyStep start labels final) {log : AutoReplyLog}
    (hlog : log ∈ start.store.logs.rows) {messagePk : String}
    (hmessage : log.inboundMessagePk = some messagePk) :
    ∃ kept ∈ final.store.logs.rows, kept.logId = log.logId ∧
      ∀ other ∈ final.store.logs.rows, other.IsFor log.accountId messagePk → other = kept := by
  have hstart : start.store.loggedAs log.accountId messagePk = some log.logId := by
    have hkey := mem_logKeys_iff.mpr ⟨rfl, hmessage⟩
    unfold ReplyTables.loggedAs
    rw [Table.lookup_eq_some_iff.mpr ⟨hlog, hkey⟩]
    rfl
  have hfinal := kept_of_run
    (fun tables : ReplyTables => tables.loggedAs log.accountId messagePk = some log.logId)
    (fun _ _ _ happly hlogged => loggedAs_of_applyReplyWrite happly hlogged) hrun hstart
  obtain ⟨kept, hlookup, hid⟩ := Option.map_eq_some_iff.mp hfinal
  obtain ⟨hstored, hkey⟩ := Table.lookup_eq_some_iff.mp hlookup
  refine ⟨kept, hstored, hid, fun other hother hfor => ?_⟩
  exact Table.eq_of_key hother hstored (mem_logKeys_iff.mpr hfor) hkey

theorem run_unrestricted {start final : ReplyState} {labels : List (Label ReplyCall)}
    (hrun : Run replyStep start labels final) :
    Run (restrict replyStep (commitsAllowed fun _ _ => True)) start labels final := by
  induction hrun with
  | nil state => exact .nil state
  | cons hstep _ ih =>
      exact .cons ⟨commitsAllowed_of_forall (fun _ => trivial) _, hstep⟩ ih

def switchedOnState : ReplyState where
  store :=
    { accounts := .singleton { accountId := "a1" }
      settings := .singleton { accountId := "a1", enabled := true }
      conversations := Table.empty
      logs := Table.empty }
  sessions := []
  answered := []

def messageRequest : ExecutionRequest where
  accountId := "a1"
  conversationId := "c1"
  inboundMessagePk := some "m1"

def claimThrough (store : ℕ) (logId : String) : ReplyCall :=
  .claimAutoReplyExecution { store := store, now := 1, createdAt := 1, logId := logId }
    messageRequest

/-- Two processes find the message not logged, and both of them commit. -/
def rivalLabels : List (Label ReplyCall) :=
  [.begins 1 (claimThrough 1 "l1"), .begins 2 (claimThrough 2 "l2"),
    .advances 1, .advances 1, .advances 1, .advances 1,
    .advances 2, .advances 2, .advances 2, .advances 2,
    .advances 1, .advances 2, .advances 1, .advances 2]

end XianyuAdmin.AutoReply
