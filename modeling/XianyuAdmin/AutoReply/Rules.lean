import XianyuAdmin.Core.Json
import XianyuAdmin.Core.StableSort
import XianyuAdmin.Messages.Conversations

/-!
# The auto-reply rules of a user

A rule says which messages it is about (its scope), when such a message triggers
it, and what is to be done.  The rules of a user are tried in one order; a
template rule may pass a message on to the rules after it.
-/

namespace XianyuAdmin.AutoReply

open XianyuAdmin.Python XianyuAdmin.Messages

/-- The library functions that rules and contexts are evaluated with. -/
structure Library where
  /-- `json.loads`; `none` is a `JSONDecodeError`. -/
  loads : String → Option Json
  /-- `json.dumps(value, ensure_ascii=False, separators=(",", ":"))`. -/
  dumps : Json → String
  /-- `str.lower()` on any text. -/
  lower : String → String
  /-- `datetime.isoformat()` in UTC. -/
  isoformat : ℕ → String
  /-- `_fernet().decrypt(token)`, decoded; `none` is one of the errors that
  `decrypt_sensitive` handles. -/
  fernetDecrypt : String → Option String

/-- The characters `str.splitlines()` splits at. -/
def isLineBreak (char : Char) : Bool :=
  char.val ∈ [0xa, 0xb, 0xc, 0xd, 0x1c, 0x1d, 0x1e, 0x85, 0x2028, 0x2029]

/-- `text.splitlines()`, up to empty lines. -/
def splitlines (text : String) : List String :=
  (text.toList.splitOnP isLineBreak).map String.ofList

/-- `_load_string_list`: a JSON list of texts, or the lines of a text that is
not JSON. -/
def loadStringList (library : Library) : Option String → List String
  | none => []
  | some value =>
      match (library.loads value).getD (.str value) with
      | .arr items => (items.filterMap Json.asString?).filterMap stripOrNone
      | .str text => (splitlines text).filterMap stripOrNone
      | _ => []

inductive TriggerType
  | keyword
  | always
  | fallback
  deriving DecidableEq, Repr

inductive MatchMode
  | contains
  | exact
  deriving DecidableEq, Repr

inductive ActionType
  | template
  | ai
  | skip
  deriving DecidableEq, Repr

/-- The columns that the rules of a user and those of an account share. -/
structure AutoReplyRule where
  ruleId : Identifier
  enabled : Bool := true
  groupName : Option String := none
  keyword : String := ""
  triggerType : TriggerType := .keyword
  matchMode : MatchMode := .contains
  caseSensitive : Bool := false
  conversationId : Option String := none
  itemId : Option String := none
  cooldownSeconds : ℕ := 0
  actionType : ActionType := .template
  replyText : String := ""
  priority : ℕ := 100
  continueMatching : Bool := false
  contextMessageCount : ℕ := 10
  contextFields : Option String := none
  aiSystemPrompt : Option String := none
  /-- The number, as printed. -/
  aiTemperature : String := "0.4"
  createdAt : ℕ := 0
  deriving DecidableEq

/-- A row of `xianyu_user_auto_reply_rules`. -/
structure UserAutoReplyRule extends AutoReplyRule where
  userId : Identifier
  accountIds : Option String := none
  platform : Option String := none
  messageType : Option String := none
  senderUserId : Option String := none
  deriving DecidableEq

/-- A row of `xianyu_auto_reply_rules`, for accounts that belong to no user. -/
structure AccountAutoReplyRule extends AutoReplyRule where
  accountId : String
  deriving DecidableEq

/-- A row of `xianyu_accounts`. -/
structure Account where
  accountId : String
  platform : String := "xianyu"
  displayName : String := ""
  enabled : Bool := true
  automationOwnerUserId : Option Identifier := none
  deriving DecidableEq

def autoReplyRuleName (rule : AutoReplyRule) : String :=
  let groupName := strip (rule.groupName.getD "")
  let keyword := strip rule.keyword
  if groupName ≠ "" then groupName
  else if keyword ≠ "" then keyword
  else if rule.triggerType = .fallback then "兜底规则"
  else "全部消息规则"

/-- `ORDER BY` of the rule queries: fallback rules last, then by priority, then
by age.  Rows that agree in all three keep the order in which they are stored. -/
def UserAutoReplyRule.rank (rule : UserAutoReplyRule) : ℕ ×ₗ ℕ ×ₗ ℕ :=
  toLex (if rule.triggerType = .fallback then 1 else 0,
    toLex (rule.priority, rule.createdAt))

def UserAutoReplyRule.NotAfter (left right : UserAutoReplyRule) : Prop :=
  left.rank ≤ right.rank

instance : DecidableRel UserAutoReplyRule.NotAfter := fun left right =>
  inferInstanceAs (Decidable (left.rank ≤ right.rank))

instance : IsTrans UserAutoReplyRule UserAutoReplyRule.NotAfter where
  trans left middle right hleft hright :=
    show left.rank ≤ right.rank from le_trans (show left.rank ≤ middle.rank from hleft) hright

instance : Std.Total UserAutoReplyRule.NotAfter where
  total left right := le_total left.rank right.rank

def inOrder (rules : List UserAutoReplyRule) : List UserAutoReplyRule :=
  rules.insertionSort UserAutoReplyRule.NotAfter

def autoReplyRuleScopeMatches (rule : AutoReplyRule)
    (conversationId itemId : Option String) : Bool :=
  if truthy rule.conversationId && rule.conversationId ≠ conversationId then false
  else if truthy rule.itemId && rule.itemId ≠ itemId then false
  else true

def autoReplyPreviewScopeMismatch (library : Library) (rule : UserAutoReplyRule)
    (account : Account) (messageType : String)
    (senderUserId conversationId itemId : Option String) : Option String :=
  let accountIds := loadStringList library rule.accountIds
  if !accountIds.isEmpty && account.accountId ∉ accountIds then some "不适用于所选账户"
  else if truthy rule.platform && rule.platform ≠ some account.platform then
    some "平台条件不匹配"
  else if truthy rule.messageType && rule.messageType ≠ some messageType then
    some "消息类型不匹配"
  else if truthy rule.senderUserId && rule.senderUserId ≠ senderUserId then
    some "发送方条件不匹配"
  else if truthy rule.conversationId && rule.conversationId ≠ conversationId then
    some "会话条件不匹配"
  else if truthy rule.itemId && rule.itemId ≠ itemId then some "商品条件不匹配"
  else none

/-- The condition under which `_decide_user_auto_reply` keeps a rule in
`scoped_rules`. -/
def inDecisionScope (library : Library) (rule : UserAutoReplyRule) (account : Account)
    (messageType senderUserId : String) (conversationId itemId : Option String) : Bool :=
  ((loadStringList library rule.accountIds).isEmpty ||
    account.accountId ∈ loadStringList library rule.accountIds) &&
  (!truthy rule.platform || rule.platform = some account.platform) &&
  (!truthy rule.messageType || rule.messageType = some messageType) &&
  (!truthy rule.senderUserId || rule.senderUserId = some senderUserId) &&
  autoReplyRuleScopeMatches rule.toAutoReplyRule conversationId itemId

def autoReplyRuleMatches (library : Library) (rule : AutoReplyRule) (content : String) :
    Bool :=
  if rule.triggerType = .always || rule.triggerType = .fallback then true
  else
    let fold := if rule.caseSensitive then id else library.lower
    let keyword := fold rule.keyword
    let target := fold content
    if rule.matchMode = .exact then strip target = strip keyword
    else contains keyword target

theorem ite_some_eq_none_iff (failed : Bool) (message : String) (next : Option String) :
    (if failed = true then some message else next) = none ↔ failed = false ∧ next = none := by
  cases failed <;> simp

/-- The two scope conditions agree when the sender is the same person. -/
theorem autoReplyPreviewScopeMismatch_eq_none_iff (library : Library)
    (rule : UserAutoReplyRule) (account : Account) (messageType sender : String)
    (senderUserId conversationId itemId : Option String)
    (hsender : ∀ wanted, wanted ≠ "" → (senderUserId = some wanted ↔ sender = wanted)) :
    autoReplyPreviewScopeMismatch library rule account messageType senderUserId
        conversationId itemId = none ↔
      inDecisionScope library rule account messageType sender conversationId itemId = true := by
  have hwanted : truthy rule.senderUserId = true →
      (rule.senderUserId = senderUserId ↔ rule.senderUserId = some sender) := by
    intro htruthy
    obtain ⟨wanted, hrule, hne⟩ := exists_of_truthy htruthy
    rw [hrule, eq_comm, hsender wanted hne, eq_comm, Option.some.injEq]
  simp only [autoReplyPreviewScopeMismatch, ite_some_eq_none_iff]
  unfold inDecisionScope autoReplyRuleScopeMatches
  grind

/-- The loop over `matched_rules[1:]` after a rule that continues matching. -/
def continued : List UserAutoReplyRule → List UserAutoReplyRule
  | [] => []
  | rule :: rules =>
      if rule.actionType ≠ .template then []
      else rule :: if rule.continueMatching then continued rules else []

def selectRules : List UserAutoReplyRule → List UserAutoReplyRule
  | [] => []
  | first :: rest =>
      first :: if first.actionType = .template && first.continueMatching then continued rest
        else []

def matchedOrFallback (matched fallback : List UserAutoReplyRule) : List UserAutoReplyRule :=
  if matched.isEmpty then fallback else matched

end XianyuAdmin.AutoReply
