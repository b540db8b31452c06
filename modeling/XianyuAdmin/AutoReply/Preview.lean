import XianyuAdmin.AutoReply.Decision

/-!
# The preview of an auto reply

The preview lists the gates an execution has to pass, tells of every rule why it
does or does not apply, and shows the reply it would give.
-/

namespace XianyuAdmin.AutoReply

open XianyuAdmin.Python XianyuAdmin.Messages

/-- `AutoReplyPreviewRequestPayload`.  The validator turns a blank id into
`None`. -/
structure PreviewRequest where
  accountId : String
  content : String := ""
  messageType : MessageType := .text
  senderUserId : Option String := none
  conversationId : Option String := none
  itemId : Option String := none
  conversation_normalized : conversationId ≠ some ""

structure PreviewGate where
  key : String
  passed : Bool
  message : String
  deriving DecidableEq, Repr

structure RuleTrace where
  ruleId : Identifier
  name : String
  isMatched : Bool
  isSelected : Bool
  message : String
  deriving DecidableEq

structure PreviewResult where
  accountId : String
  executable : Bool
  shouldReply : Bool
  reason : String
  actionType : Option ActionType := none
  matchedRuleIds : List Identifier := []
  replyPreview : Option String := none
  aiContext : List (String × Json) := []
  gates : List PreviewGate
  traces : List RuleTrace

/-- What the preview finds out about one rule. -/
inductive Standing
  | disabled
  | outOfScope (mismatch : String)
  | fallback
  | matching
  | notMatching
  deriving DecidableEq, Repr

def Standing.message : Standing → String
  | .disabled => "规则未启用"
  | .outOfScope mismatch => mismatch
  | .fallback => "等待普通规则的匹配结果"
  | .matching => "条件匹配"
  | .notMatching => "触发条件不匹配"

/-- The branches of the loop over the rules. -/
def standing (library : Library) (account : Account) (payload : PreviewRequest)
    (rule : UserAutoReplyRule) : Standing :=
  if !rule.enabled then .disabled
  else
    match autoReplyPreviewScopeMismatch library rule account payload.messageType.name
        payload.senderUserId payload.conversationId payload.itemId with
    | some mismatch => .outOfScope mismatch
    | none =>
        if rule.triggerType = .fallback then .fallback
        else if autoReplyRuleMatches library rule.toAutoReplyRule payload.content then
          .matching
        else .notMatching

def previewRules (standingOf : UserAutoReplyRule → Standing)
    (rules : List UserAutoReplyRule) : List UserAutoReplyRule :=
  selectRules <| matchedOrFallback
    (rules.filter fun rule => standingOf rule = .matching)
    (rules.filter fun rule => standingOf rule = .fallback)

def previewTraces (standingOf : UserAutoReplyRule → Standing)
    (rules : List UserAutoReplyRule) : List RuleTrace :=
  let usesFallback := rules.all fun rule => standingOf rule ≠ .matching
  let selectedIds := (previewRules standingOf rules).map fun rule => rule.ruleId
  rules.map fun rule =>
    let fallsBack := usesFallback && standingOf rule = .fallback
    { ruleId := rule.ruleId
      name := autoReplyRuleName rule.toAutoReplyRule
      isMatched := standingOf rule = .matching || fallsBack
      isSelected := rule.ruleId ∈ selectedIds
      message :=
        if fallsBack then "普通规则未命中，进入兜底" else (standingOf rule).message }

def gate (key : String) (passed : Bool) (whenPassed whenFailed : String) : PreviewGate where
  key := key
  passed := passed
  message := if passed then whenPassed else whenFailed

def accountGates (account : Account) (setting : Option AutoReplySetting)
    (takeoverActive : Bool) : List PreviewGate :=
  [gate "account_enabled" account.enabled "平台账户已启用" "平台账户已禁用",
    gate "auto_reply_enabled" (setting.any AutoReplySetting.enabled)
      "账户 AI 回复开关已开启" "账户 AI 回复开关未开启",
    gate "manual_takeover" (!takeoverActive) "会话处于自动处理状态" "会话正在人工接管"]

def providerReady (provider : Option AIProviderSetting) : Bool :=
  provider.any fun provider =>
    truthy provider.baseUrl && truthy provider.model && truthy provider.apiKeyEncrypted

def providerGate (provider : Option AIProviderSetting) : PreviewGate :=
  gate "ai_provider" (providerReady provider) "AI 服务配置完整" "AI 服务配置不完整"

def cooldownGate (cooldownActive : Bool) : PreviewGate :=
  gate "cooldown" (!cooldownActive) "未处于冷却期" "当前会话仍在规则冷却期"

def previewMessage (now : ℕ) (payload : PreviewRequest) (conversation : Option Conversation) :
    InboundMessage where
  conversationId := payload.conversationId
  peerUserId := payload.senderUserId
  peerName := conversation.bind Conversation.peerName
  messageId := some "preview"
  messageType := some payload.messageType.name
  itemId := payload.itemId
  attachments := []
  createdAt := some now

def selectedPreview (library : Library) (database : Database) (now : ℕ) (account : Account)
    (payload : PreviewRequest) (context : Json) (gates : List PreviewGate)
    (traces : List RuleTrace) (first : UserAutoReplyRule)
    (selected : List UserAutoReplyRule) : PreviewResult :=
  let shared := selected.map UserAutoReplyRule.toAutoReplyRule
  let replyPreview :=
    if first.actionType = .template then textOrNone (joinedReply shared context) else none
  let actionWantsReply :=
    match first.actionType with
    | .template => replyPreview.isSome
    | .ai => true
    | .skip => false
  let cooldownActive := database.autoReplyInCooldown now account.accountId
    payload.conversationId (longestCooldown shared)
  let gates :=
    gates ++ (if first.actionType = .ai then [providerGate database.provider] else []) ++
      [cooldownGate cooldownActive]
  { accountId := account.accountId
    executable := actionWantsReply && gates.all PreviewGate.passed
    shouldReply := actionWantsReply
    reason :=
      match gates.find? fun gate => !gate.passed with
      | some failedGate => failedGate.message
      | none =>
          if first.actionType = .skip then "规则要求跳过回复"
          else "模拟命中，实际运行将执行该动作"
    actionType := some first.actionType
    matchedRuleIds := selected.map fun rule => rule.ruleId
    replyPreview := replyPreview
    aiContext :=
      if first.actionType = .ai then
        selectAutoReplyContext context (contextFieldsOf library first.toAutoReplyRule)
      else []
    gates := gates
    traces := traces }

def previewUserAutoReply (library : Library) (database : Database) (now : ℕ)
    (userId : Identifier) (payload : PreviewRequest) : Option PreviewResult :=
  match database.accounts.lookup payload.accountId with
  | none => none
  | some account =>
      if account.automationOwnerUserId ≠ some userId then none
      else
        let setting := database.settings.lookup account.accountId
        let conversation :=
          if truthy payload.conversationId then
            database.conversation? account.accountId payload.conversationId
          else none
        let gates := accountGates account setting
          (conversation.any (manualTakeoverActive now))
        let context := buildAutoReplyContext library now account conversation
          (latestAutoReplyOrder database.orders account.accountId payload.conversationId
            payload.itemId)
          (some (previewMessage now payload conversation)) payload.content payload.itemId
        let rules := inOrder
          (database.userRules.rows.filter fun rule => rule.userId = userId)
        let standingOf := standing library account payload
        let traces := previewTraces standingOf rules
        match previewRules standingOf rules with
        | [] =>
            some
              { accountId := account.accountId
                executable := false
                shouldReply := false
                reason := "没有规则命中"
                gates := gates
                traces := traces }
        | first :: rest =>
            some (selectedPreview library database now account payload context gates traces
              first (first :: rest))

end XianyuAdmin.AutoReply
