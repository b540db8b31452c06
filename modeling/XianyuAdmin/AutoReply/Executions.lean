import XianyuAdmin.AutoReply.Decision
import XianyuAdmin.Core.SessionAnswers

/-!
# Claiming and logging the execution of an auto reply

Before the runtime sends an auto reply, it claims the execution by inserting a log
row for the inbound message; afterwards it writes the outcome into that row.  Each
call is a transaction of its own.  Calls for one account that go through the same
`AccountStore` take turns by its write lock, those of different processes do not.
-/

namespace XianyuAdmin.AutoReply

open XianyuAdmin.Python Sessions

inductive LogKey
  | id (logId : String)
  | inbound (accountId messagePk : String)
  deriving DecidableEq

def logKeys (log : AutoReplyLog) : List LogKey :=
  .id log.logId :: (log.inboundMessagePk.map (LogKey.inbound log.accountId)).toList

structure ReplyTables where
  accounts : Table Account fun account => [account.accountId]
  settings : Table AutoReplySetting fun setting => [setting.accountId]
  conversations : Table Conversation fun conversation =>
    [(conversation.accountId, conversation.conversationId)]
  logs : Table AutoReplyLog logKeys

def ReplyTables.existingLog? (tables : ReplyTables) (accountId : String)
    (inboundMessagePk : Option String) : Option AutoReplyLog :=
  if truthy inboundMessagePk then
    inboundMessagePk.bind fun messagePk => tables.logs.lookup (.inbound accountId messagePk)
  else none

/-- The columns that have been assigned another value than the one that was loaded are
written. -/
def AutoReplyLog.flush (stored loaded assigned : AutoReplyLog) : AutoReplyLog :=
  { stored with
    replyText :=
      if assigned.replyText = loaded.replyText then stored.replyText else assigned.replyText
    success := if assigned.success = loaded.success then stored.success else assigned.success
    outboundMessagePk :=
      if assigned.outboundMessagePk = loaded.outboundMessagePk then stored.outboundMessagePk
      else assigned.outboundMessagePk
    error := if assigned.error = loaded.error then stored.error else assigned.error }

/-- What a transaction commits.  The switches are written by other services, through
some `AccountStore`; a service that takes no lock has one of its own. -/
inductive ReplyWrite
  | insertLog (log : AutoReplyLog)
  | updateLog (loaded assigned : AutoReplyLog)
  | saveSetting (store : ℕ) (setting : AutoReplySetting)
  | saveConversation (store : ℕ) (conversation : Conversation)

theorem logKeys_flush (loaded assigned stored : AutoReplyLog) :
    logKeys (if stored.logId = loaded.logId then stored.flush loaded assigned else stored) =
      logKeys stored := by
  split <;> rfl

/-- What the database makes of a write; `none` is an error that rolls it back. -/
def applyReplyWrite (tables : ReplyTables) : ReplyWrite → Option ReplyTables
  | .insertLog log =>
      (tables.logs.insert? log).map fun logs => { tables with logs := logs }
  | .updateLog loaded assigned =>
      some
        { tables with
          logs :=
            tables.logs.map
              (fun stored =>
                if stored.logId = loaded.logId then stored.flush loaded assigned else stored)
              (logKeys_flush loaded assigned) }
  | .saveSetting _ setting =>
      (tables.settings.save? setting).map fun settings => { tables with settings := settings }
  | .saveConversation _ conversation =>
      (tables.conversations.save? conversation).map fun conversations =>
        { tables with conversations := conversations }

/-- The `_account_write_lock` of one `AccountStore`. -/
structure WriteLock where
  store : ℕ
  accountId : String
  deriving DecidableEq, Repr

def lockedBy (_ : ReplyTables) : ReplyWrite → List WriteLock
  | .saveSetting store setting => [⟨store, setting.accountId⟩]
  | .saveConversation store conversation => [⟨store, conversation.accountId⟩]
  | .insertLog _ | .updateLog .. => []

def replyEngine : Engine ReplyTables WriteLock ReplyWrite where
  apply := applyReplyWrite
  touches := lockedBy

inductive Reply
  /-- The log id of `claim_auto_reply_execution`. -/
  | execution (logId : Option String)
  | log (log : Option AutoReplyLog)
  | integrityError
  | saved
  deriving DecidableEq

abbrev ReplyTransaction := Transaction ReplyTables WriteLock ReplyWrite Reply

/-- The arguments of `claim_auto_reply_execution`. -/
structure ExecutionRequest where
  accountId : String
  conversationId : String
  inboundMessagePk : Option String
  ruleId : Option Identifier := none
  matchedKeyword : Option String := none
  replyText : String := ""
  deriving DecidableEq

/-- What a call draws: the `AccountStore` it goes through, the clock, a new log id. -/
structure Draws where
  store : ℕ
  now : ℕ
  createdAt : ℕ
  logId : String
  deriving DecidableEq, Repr

/-- The row that a claim inserts. -/
def processingLog (draws : Draws) (request : ExecutionRequest) (account : Account) :
    AutoReplyLog where
  logId := draws.logId
  userId := account.automationOwnerUserId
  accountId := request.accountId
  conversationId := request.conversationId
  inboundMessagePk := request.inboundMessagePk
  ruleId := request.ruleId
  matchedKeyword := request.matchedKeyword
  replyText := request.replyText
  success := false
  error := some "processing"
  createdAt := draws.createdAt

/-- `_claim_auto_reply_execution_sync`, under the write lock of the account. -/
def claimAutoReplyExecution (draws : Draws) (request : ExecutionRequest) : ReplyTransaction :=
  .locks ⟨draws.store, request.accountId⟩ fun tables =>
    match tables.accounts.lookup request.accountId with
    | none => .ends (.execution none)
    | some account =>
        .reads fun tables =>
          if ¬((tables.settings.lookup request.accountId).any AutoReplySetting.enabled) then
            .ends (.execution none)
          else
            .reads fun tables =>
              if (tables.conversations.lookup (request.accountId, request.conversationId)).any
                  (manualTakeoverActive draws.now) then
                .ends (.execution none)
              else
                .reads fun tables =>
                  if (tables.existingLog? request.accountId request.inboundMessagePk).isSome then
                    .ends (.execution none)
                  else
                    .commits (.insertLog (processingLog draws request account)) fun accepted =>
                      .ends (.execution (if accepted then some draws.logId else none))

structure ExecutionResult where
  replyText : String
  success : Bool
  outboundMessagePk : Option String := none
  error : Option String := none
  deriving DecidableEq

/-- `_record_auto_reply_log_sync`, under the write lock of the account.  It does not
handle an `IntegrityError`. -/
def recordAutoReplyLog (draws : Draws) (request : ExecutionRequest) (result : ExecutionResult) :
    ReplyTransaction :=
  .locks ⟨draws.store, request.accountId⟩ fun tables =>
    match tables.accounts.lookup request.accountId with
    | none => .ends (.log none)
    | some account =>
        .reads fun tables =>
          match tables.existingLog? request.accountId request.inboundMessagePk with
          | some existing => .ends (.log existing)
          | none =>
              let row : AutoReplyLog :=
                { logId := draws.logId
                  userId := account.automationOwnerUserId
                  accountId := request.accountId
                  conversationId := request.conversationId
                  inboundMessagePk := request.inboundMessagePk
                  outboundMessagePk := result.outboundMessagePk
                  ruleId := request.ruleId
                  matchedKeyword := request.matchedKeyword
                  replyText := result.replyText
                  success := result.success
                  error := result.error
                  createdAt := draws.createdAt }
              .commits (.insertLog row) fun accepted =>
                .ends (if accepted then .log row else .integrityError)

def finishAutoReplyExecution (logId : String) (result : ExecutionResult) : ReplyTransaction :=
  .reads fun tables =>
    match tables.logs.lookup (.id logId) with
    | none => .ends (.log none)
    | some loaded =>
        let row :=
          { loaded with
            replyText := result.replyText
            success := result.success
            outboundMessagePk := result.outboundMessagePk
            error := result.error }
        .commits (.updateLog loaded row) fun _ => .ends (.log row)

inductive ReplyCall
  | claimAutoReplyExecution (draws : Draws) (request : ExecutionRequest)
  | recordAutoReplyLog (draws : Draws) (request : ExecutionRequest) (result : ExecutionResult)
  | finishAutoReplyExecution (logId : String) (result : ExecutionResult)
  | saveSetting (store : ℕ) (setting : AutoReplySetting)
  | saveConversation (store : ℕ) (conversation : Conversation)
  deriving DecidableEq

def replyProgram : ReplyCall → ReplyTransaction
  | .claimAutoReplyExecution draws request =>
      AutoReply.claimAutoReplyExecution draws request
  | .recordAutoReplyLog draws request result =>
      AutoReply.recordAutoReplyLog draws request result
  | .finishAutoReplyExecution logId result => AutoReply.finishAutoReplyExecution logId result
  | .saveSetting store setting =>
      .commits (.saveSetting store setting) fun _ => .ends .saved
  | .saveConversation store conversation =>
      .commits (.saveConversation store conversation) fun _ => .ends .saved

abbrev ReplyState := Sessions.State ReplyTables WriteLock ReplyWrite Reply ReplyCall

abbrev replyStep : ReplyState → Label ReplyCall → ReplyState → Prop :=
  Sessions.step replyEngine replyProgram

end XianyuAdmin.AutoReply
