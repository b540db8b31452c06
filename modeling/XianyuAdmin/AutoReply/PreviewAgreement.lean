import XianyuAdmin.AutoReply.Preview

/-!
# The preview against the decision

Both functions select rules in the same way, once it is known who sent the
message.  They part where the preview does not look: at blank content, at the
peer of the conversation when the request names no sender, at an API key that is
stored but cannot be decrypted, and at what a template reads of the message
itself.
-/

namespace XianyuAdmin.AutoReply

open XianyuAdmin.Python XianyuAdmin.Messages

theorem textOrEmpty_optionalText (value : Option String) :
    (optionalText value).textOrEmpty = value.getD "" := by
  cases value with
  | none => rfl
  | some text =>
      by_cases htext : text = ""
      · simp [optionalText, Json.textOrEmpty, Json.isTrue, htext]
      · simp [optionalText, Json.textOrEmpty, Json.isTrue, Json.scalarText, htext]

section Context

variable (library : Library) (now : ℕ) (account : Account)
  (conversation : Option Conversation) (order : Option Order) (inbound : InboundMessage)
  (content : String) (itemId : Option String)

theorem contextText_messageType :
    contextText
        (buildAutoReplyContext library now account conversation order (some inbound)
          content itemId)
        ["message", "type"] =
      (orElse inbound.messageType (some "text")).getD "" :=
  textOrEmpty_optionalText _

theorem contextText_sender :
    contextText
        (buildAutoReplyContext library now account conversation order (some inbound)
          content itemId)
        ["sender", "id"] =
      (orElse inbound.peerUserId (conversation.bind Conversation.peerUserId)).getD "" :=
  textOrEmpty_optionalText _

end Context

theorem previewRules_eq (library : Library) (account : Account) (payload : PreviewRequest)
    (rules : List UserAutoReplyRule) :
    previewRules (standing library account payload) rules =
      decisionRules library (rules.filter fun rule => rule.enabled) account payload.content
        payload.messageType.name (payload.senderUserId.getD "") payload.conversationId
        payload.itemId := by
  have hsender : ∀ wanted, wanted ≠ "" →
      (payload.senderUserId = some wanted ↔ payload.senderUserId.getD "" = wanted) := by
    intro wanted hwanted
    cases hpayload : payload.senderUserId with
    | none => simp [eq_comm, hwanted]
    | some sender => simp
  have hscope := fun rule : UserAutoReplyRule =>
    autoReplyPreviewScopeMismatch_eq_none_iff library rule account payload.messageType.name
      (payload.senderUserId.getD "") payload.senderUserId payload.conversationId
      payload.itemId hsender
  unfold previewRules decisionRules
  simp only [List.filter_filter]
  congr 2 <;>
  · refine List.filter_congr fun rule _ => ?_
    have hrule := hscope rule
    unfold standing
    grind

/-- Sorting before the disabled rules are left out gives the same rules as
sorting afterwards. -/
theorem inOrder_enabled (rules : List UserAutoReplyRule) (userId : Identifier) :
    (inOrder (rules.filter fun rule => rule.userId = userId)).filter (fun rule => rule.enabled) =
      inOrder (rules.filter fun rule => rule.userId = userId && rule.enabled) := by
  unfold inOrder
  rw [← StableSort.insertionSort_filter, List.filter_filter]
  simp only [Bool.and_comm]

theorem mem_of_head?_selectRules {rules : List UserAutoReplyRule} {first : UserAutoReplyRule}
    (hfirst : (selectRules rules).head? = some first) : first ∈ rules := by
  cases rules with
  | nil => simp [selectRules] at hfirst
  | cons rule rest =>
      simp only [selectRules, List.head?_cons, Option.some.injEq] at hfirst
      simp [hfirst]

theorem mem_of_head?_decisionRules {library : Library} {rules : List UserAutoReplyRule}
    {account : Account} {content messageType sender : String}
    {conversationId itemId : Option String} {first : UserAutoReplyRule}
    (hfirst : (decisionRules library rules account content messageType sender
      conversationId itemId).head? = some first) : first ∈ rules := by
  have hmem := mem_of_head?_selectRules hfirst
  unfold matchedOrFallback at hmem
  split at hmem
  · exact List.mem_of_mem_filter (List.mem_of_mem_filter hmem)
  · exact List.mem_of_mem_filter (List.mem_of_mem_filter hmem)

structure PreviewRequest.Describes (payload : PreviewRequest) (inbound : InboundMessage) :
    Prop where
  conversationId : inbound.conversationId = payload.conversationId
  peerUserId : inbound.peerUserId = payload.senderUserId
  messageType : inbound.messageType = some payload.messageType.name
  itemId : inbound.itemId = payload.itemId

section Agreement

variable (library : Library) (database : Database) (now : ℕ) (account : Account)
  (userId : Identifier) (payload : PreviewRequest) (inbound : InboundMessage)

def decisionOn : AutoReplyDecision × Database :=
  decideAutoReply library database now payload.accountId payload.content
    payload.conversationId payload.itemId (some inbound)

def WillReply : Prop :=
  (decisionOn library database now payload inbound).1.shouldReply = true ∧
    ((decisionOn library database now payload inbound).1.reason = some "ai" →
      (getAIReplyRequest library (decisionOn library database now payload inbound).2 now
        payload.accountId payload.conversationId
        (decisionOn library database now payload inbound).1.ruleId).isSome)

def PreviewPredicts : Prop :=
  ∃ result, previewUserAutoReply library database now userId payload = some result ∧
    (result.executable = true ↔ WillReply library database now payload inbound) ∧
    (result.executable = true →
      result.matchedRuleIds.head? = (decisionOn library database now payload inbound).1.ruleId ∧
      (result.actionType = some .template →
        result.replyPreview = (decisionOn library database now payload inbound).1.replyText))

def requestConversation : Option Conversation :=
  if truthy payload.conversationId then
    database.conversation? account.accountId payload.conversationId
  else none

def contextWith (message : InboundMessage) : Json :=
  buildAutoReplyContext library now account (requestConversation database account payload)
    (latestAutoReplyOrder database.orders account.accountId payload.conversationId
      payload.itemId)
    (some message) payload.content payload.itemId

def rulesFor (sender : Option String) : List UserAutoReplyRule :=
  decisionRules library
    (inOrder (database.userRules.rows.filter fun rule =>
      rule.userId = userId && rule.enabled))
    account payload.content payload.messageType.name (sender.getD "") payload.conversationId
    payload.itemId

def resolvedSender : Option String :=
  orElse payload.senderUserId
    ((requestConversation database account payload).bind Conversation.peerUserId)

def providerUsable (provider : Option AIProviderSetting) : Bool :=
  provider.any fun provider =>
    truthy provider.baseUrl && truthy provider.model &&
      truthy (decryptSensitive library provider.apiKeyEncrypted)

def RepliesAllowed : Prop :=
  (database.settings.lookup account.accountId).any AutoReplySetting.enabled = true ∧
    (requestConversation database account payload).any (manualTakeoverActive now) = false

def StaysSilent (rules : List UserAutoReplyRule) (context : Json) (ready : Bool) : Prop :=
  ∀ first ∈ rules.head?,
    first.actionType = .skip ∨
    database.autoReplyInCooldown now account.accountId payload.conversationId
      (longestCooldown (rules.map UserAutoReplyRule.toAutoReplyRule)) = true ∨
    first.actionType = .ai ∧ ready = false ∨
    first.actionType = .template ∧
      joinedReply (rules.map UserAutoReplyRule.toAutoReplyRule) context = ""

def SameAnswer (previewed decided : List UserAutoReplyRule) (previewContext context : Json) :
    Prop :=
  previewed.head?.map (fun rule => rule.ruleId) = decided.head?.map (fun rule => rule.ruleId) ∧
    ∀ first ∈ previewed.head?, first.actionType = .template →
      joinedReply (previewed.map UserAutoReplyRule.toAutoReplyRule) previewContext =
        joinedReply (decided.map UserAutoReplyRule.toAutoReplyRule) context

def PreviewReliable : Prop :=
  let previewed := rulesFor library database account userId payload payload.senderUserId
  let decided := rulesFor library database account userId payload
    (resolvedSender database account payload)
  let previewContext := contextWith library database now account payload
    (previewMessage now payload (requestConversation database account payload))
  let context := contextWith library database now account payload inbound
  let silentPreview := StaysSilent database now account payload previewed previewContext
    (providerReady database.provider)
  let silentDecision := strip payload.content = "" ∨
    StaysSilent database now account payload decided context
      (providerUsable library database.provider)
  ¬RepliesAllowed database now account payload ∨
    silentPreview ∧ silentDecision ∨
    ¬silentPreview ∧ ¬silentDecision ∧ SameAnswer previewed decided previewContext context

end Agreement

section Preview

variable {library : Library} {database : Database} {now : ℕ} {account : Account}
  {userId : Identifier} {payload : PreviewRequest} {inbound : InboundMessage}

theorem selectedPreview_executable (context : Json) (gates : List PreviewGate)
    (traces : List RuleTrace) (first : UserAutoReplyRule) (rest : List UserAutoReplyRule) :
    (selectedPreview library database now account payload context gates traces first
        (first :: rest)).executable = true ↔
      gates.all PreviewGate.passed = true ∧
        ¬StaysSilent database now account payload (first :: rest) context
          (providerReady database.provider) := by
  have hgate (key : String) (passed : Bool) (whenPassed whenFailed : String) :
      (gate key passed whenPassed whenFailed).passed = passed := rfl
  unfold selectedPreview StaysSilent
  cases haction : first.actionType with
  | template => simp [haction, cooldownGate, hgate, textOrNone, and_comm, and_assoc]
  | ai => simp [haction, cooldownGate, providerGate, hgate, and_comm]
  | skip => simp [haction]

theorem accountGates_passed (setting : Option AutoReplySetting) (takeoverActive : Bool)
    (henabled : account.enabled = true) :
    (accountGates account setting takeoverActive).all PreviewGate.passed = true ↔
      setting.any AutoReplySetting.enabled = true ∧ takeoverActive = false := by
  simp [accountGates, gate, henabled]

theorem accountId_of_lookup {accountId : String}
    (haccount : database.accounts.lookup accountId = some account) :
    account.accountId = accountId := by
  have hkey := (Table.lookup_eq_some_iff.mp haccount).2
  simpa [eq_comm] using hkey

theorem previewUserAutoReply_spec
    (haccount : database.accounts.lookup payload.accountId = some account)
    (howner : account.automationOwnerUserId = some userId)
    (henabled : account.enabled = true) :
    let rules := rulesFor library database account userId payload payload.senderUserId
    let context := contextWith library database now account payload
      (previewMessage now payload (requestConversation database account payload))
    ∃ result, previewUserAutoReply library database now userId payload = some result ∧
      (result.executable = true ↔
        RepliesAllowed database now account payload ∧
          ¬StaysSilent database now account payload rules context
            (providerReady database.provider)) ∧
      result.matchedRuleIds.head? = rules.head?.map (fun rule => rule.ruleId) ∧
      result.actionType = rules.head?.map (fun rule => rule.actionType) ∧
      (result.actionType = some .template →
        result.replyPreview =
          textOrNone (joinedReply (rules.map UserAutoReplyRule.toAutoReplyRule) context)) := by
  intro rules context
  have hrules : previewRules (standing library account payload)
      (inOrder (database.userRules.rows.filter fun rule => rule.userId = userId)) = rules := by
    rw [previewRules_eq, inOrder_enabled]
    rfl
  unfold previewUserAutoReply
  simp only [haccount, howner, ne_eq, not_true_eq_false, if_false]
  rw [hrules]
  cases hselected : rules with
  | nil =>
      refine ⟨_, rfl, ?_, rfl, rfl, ?_⟩
      · simp [StaysSilent]
      · simp
  | cons first rest =>
      refine ⟨_, rfl, ?_, rfl, rfl, ?_⟩
      · rw [selectedPreview_executable, accountGates_passed _ _ henabled]
        rfl
      · intro haction
        have htemplate : first.actionType = .template := by
          simpa [selectedPreview] using haction
        simp only [selectedPreview, htemplate, if_true]
        rfl

end Preview

section Decision

variable {library : Library} {database : Database} {now : ℕ} {account : Account}
  {userId : Identifier} {payload : PreviewRequest} {inbound : InboundMessage}

theorem MessageType.name_ne_empty (messageType : MessageType) : messageType.name ≠ "" := by
  cases messageType <;> simp [MessageType.name]

theorem orElse_of_ne_empty {text : String} (fallback : Option String) (htext : text ≠ "") :
    orElse (some text) fallback = some text := by
  simp [orElse, htext]

theorem decideUserAutoReply_eq (hdescribes : payload.Describes inbound) :
    decideUserAutoReply library database now account userId payload.content
        payload.conversationId payload.itemId (some inbound) =
      if (requestConversation database account payload).any (manualTakeoverActive now) then
        .refused "manual takeover active"
      else
        match rulesFor library database account userId payload
            (resolvedSender database account payload) with
        | [] => .refused "no rule matched"
        | first :: rest =>
            decideSelected database now account payload.conversationId
              (contextWith library database now account payload inbound) first
              (first :: rest) := by
  have hname := MessageType.name_ne_empty payload.messageType
  unfold decideUserAutoReply
  simp only [contextText_messageType, contextText_sender, hdescribes.messageType,
    hdescribes.peerUserId, orElse_of_ne_empty _ hname, Option.getD_some, if_neg hname]
  rfl

/-- The rule of an AI decision is found again when the request is made. -/
theorem requestedRule_of_head (howner : account.automationOwnerUserId = some userId)
    {sender : Option String} {first : UserAutoReplyRule}
    (hfirst : (rulesFor library database account userId payload sender).head? = some first) :
    requestedRule database account (some first.ruleId) = some first.toAutoReplyRule := by
  have hmem := mem_of_head?_decisionRules hfirst
  unfold inOrder at hmem
  rw [List.mem_insertionSort, List.mem_filter] at hmem
  have hlookup : database.userRules.lookup first.ruleId = some first :=
    Table.lookup_eq_some_iff.mpr ⟨hmem.1, by simp⟩
  have huser : first.userId = userId := by
    have hkept := hmem.2
    simp only [Bool.and_eq_true, decide_eq_true_eq] at hkept
    exact hkept.1
  simp [requestedRule, howner, hlookup, huser]

theorem getAIReplyRequest_isSome_iff
    (haccount : database.accounts.lookup payload.accountId = some account)
    (howner : account.automationOwnerUserId = some userId)
    (hallowed : RepliesAllowed database now account payload)
    {sender : Option String} {first : UserAutoReplyRule}
    (hfirst : (rulesFor library database account userId payload sender).head? = some first)
    (haction : first.actionType = .ai) :
    (getAIReplyRequest library database now payload.accountId payload.conversationId
        (some first.ruleId)).isSome = true ↔
      providerUsable library database.provider = true := by
  have haccountId := accountId_of_lookup haccount
  have hsetting : (database.settings.lookup payload.accountId).any
      AutoReplySetting.enabled = true := haccountId ▸ hallowed.1
  have htakeover : (database.conversation? payload.accountId payload.conversationId).any
      (manualTakeoverActive now) = false := by
    have hrequest := hallowed.2
    unfold requestConversation at hrequest
    by_cases htruthy : truthy payload.conversationId = true
    · rw [if_pos htruthy, haccountId] at hrequest
      exact hrequest
    · -- the validator leaves only a missing id
      cases hid : payload.conversationId with
      | none => rfl
      | some text =>
          have htext : text ≠ "" := fun hempty =>
            payload.conversation_normalized (by rw [hid, hempty])
          rw [hid] at htruthy
          exact absurd (truthy_some.mpr htext) htruthy
  have hrule := requestedRule_of_head howner hfirst
  unfold getAIReplyRequest providerUsable
  simp only [haccount, htakeover, hsetting, hrule]
  cases database.provider with
  | none => simp
  | some provider => grind

theorem decideSelected_shouldReply (context : Json) (ready : Bool) (first : UserAutoReplyRule)
    (rest : List UserAutoReplyRule) :
    ((decideSelected database now account payload.conversationId context first
          (first :: rest)).shouldReply = true ∧
        (first.actionType = .ai → ready = true)) ↔
      ¬StaysSilent database now account payload (first :: rest) context ready := by
  unfold decideSelected StaysSilent
  simp only [List.head?_cons, Option.mem_some_iff, forall_eq']
  generalize (first :: rest).map UserAutoReplyRule.toAutoReplyRule = shared
  by_cases hcooldown : database.autoReplyInCooldown now account.accountId
      payload.conversationId (longestCooldown shared) = true
  · cases haction : first.actionType <;> simp [hcooldown, AutoReplyDecision.refused]
  · cases haction : first.actionType with
    | template => simp [hcooldown]
    | ai => simp [hcooldown]
    | skip => simp [AutoReplyDecision.refused]

theorem decideSelected_answer {context : Json} {first : UserAutoReplyRule}
    {selected : List UserAutoReplyRule} {conversationId : Option String}
    (hreply : (decideSelected database now account conversationId context first
      selected).shouldReply = true) :
    let decision := decideSelected database now account conversationId context first selected
    decision.ruleId = some first.ruleId ∧
      (decision.reason = some "ai" ↔ first.actionType = .ai) ∧
      (first.actionType = .template →
        decision.replyText =
          textOrNone (joinedReply (selected.map UserAutoReplyRule.toAutoReplyRule) context)) := by
  intro decision
  have hdecision : decision =
    decideSelected database now account conversationId context first selected := rfl
  rw [← hdecision] at hreply
  unfold decideSelected at hdecision
  by_cases hskip : first.actionType = .skip
  · simp [hdecision, hskip, AutoReplyDecision.refused] at hreply
  · by_cases hcooldown : database.autoReplyInCooldown now account.accountId conversationId
        (longestCooldown (selected.map UserAutoReplyRule.toAutoReplyRule)) = true
    · simp [hdecision, hskip, hcooldown, AutoReplyDecision.refused] at hreply
    · by_cases hai : first.actionType = .ai
      · simp [hdecision, hcooldown, hai]
      · simp [hdecision, hskip, hcooldown, hai]

theorem decisionOn_of_allowed (library : Library) (inbound : InboundMessage)
    (haccount : database.accounts.lookup payload.accountId = some account)
    (howner : account.automationOwnerUserId = some userId)
    (hallowed : RepliesAllowed database now account payload)
    (hcontent : strip payload.content ≠ "") :
    decisionOn library database now payload inbound =
      (decideUserAutoReply library database now account userId payload.content
        payload.conversationId payload.itemId (some inbound), database) := by
  have haccountId := accountId_of_lookup haccount
  obtain ⟨setting, hsetting, henabled⟩ := (Option.any_eq_true _ _).mp hallowed.1
  rw [haccountId] at hsetting
  unfold decisionOn decideAutoReply Database.getOrCreateAutoReplySetting
  simp [if_neg hcontent, haccount, hsetting, henabled, howner]

/-- Blank content, a switched-off account and a conversation taken over are never
answered. -/
theorem decisionOn_of_not_allowed (library : Library)
    (haccount : database.accounts.lookup payload.accountId = some account)
    (howner : account.automationOwnerUserId = some userId)
    (hdescribes : payload.Describes inbound)
    (hrefused : ¬(strip payload.content ≠ "" ∧ RepliesAllowed database now account payload)) :
    (decisionOn library database now payload inbound).1.shouldReply = false := by
  have haccountId := accountId_of_lookup haccount
  by_cases hcontent : strip payload.content = ""
  · simp [decisionOn, decideAutoReply, hcontent, AutoReplyDecision.refused]
  · by_cases hallowed : (database.settings.lookup account.accountId).any
        AutoReplySetting.enabled = true
    · have htakeover : (requestConversation database account payload).any
          (manualTakeoverActive now) = true := by
        by_contra hopen
        exact hrefused ⟨hcontent, hallowed, by simpa using hopen⟩
      obtain ⟨setting, hsetting, henabled⟩ := (Option.any_eq_true _ _).mp hallowed
      rw [haccountId] at hsetting
      unfold decisionOn decideAutoReply Database.getOrCreateAutoReplySetting
      simp [if_neg hcontent, haccount, hsetting, henabled, howner,
        decideUserAutoReply_eq hdescribes, htakeover, AutoReplyDecision.refused]
    · rw [haccountId] at hallowed
      unfold decisionOn decideAutoReply Database.getOrCreateAutoReplySetting
      cases hsetting : database.settings.lookup payload.accountId with
      | none => simp [if_neg hcontent, haccount, AutoReplyDecision.refused]
      | some setting =>
          have henabled : setting.enabled = false := by simpa [hsetting] using hallowed
          simp [if_neg hcontent, haccount, henabled, AutoReplyDecision.refused]

/-- The rules that decide about the message, and the context they are read in. -/
theorem willReply_iff
    (haccount : database.accounts.lookup payload.accountId = some account)
    (howner : account.automationOwnerUserId = some userId)
    (hdescribes : payload.Describes inbound) :
    WillReply library database now payload inbound ↔
      strip payload.content ≠ "" ∧ RepliesAllowed database now account payload ∧
        ¬StaysSilent database now account payload
          (rulesFor library database account userId payload
            (resolvedSender database account payload))
          (contextWith library database now account payload inbound)
          (providerUsable library database.provider) := by
  by_cases hopen : strip payload.content ≠ "" ∧ RepliesAllowed database now account payload
  · have hdecision := decisionOn_of_allowed library inbound haccount howner hopen.2 hopen.1
    rw [decideUserAutoReply_eq hdescribes, hopen.2.2] at hdecision
    unfold WillReply
    simp only [hdecision, hopen.1, hopen.2, true_and, not_false_eq_true, ne_eq]
    cases hrules : rulesFor library database account userId payload
        (resolvedSender database account payload) with
    | nil => simp [AutoReplyDecision.refused, StaysSilent]
    | cons first rest =>
        have hfirst : (rulesFor library database account userId payload
            (resolvedSender database account payload)).head? = some first := by
          rw [hrules]
          rfl
        rw [← decideSelected_shouldReply]
        refine and_congr_right fun hreply => ?_
        obtain ⟨hruleId, hreason, -⟩ := decideSelected_answer hreply
        simp only [Bool.false_eq_true, if_false] at hreason hruleId ⊢
        rw [hreason, hruleId]
        refine forall_congr' fun haction => ?_
        exact getAIReplyRequest_isSome_iff haccount howner hopen.2 hfirst haction
  · have hrefused := decisionOn_of_not_allowed library haccount howner
      hdescribes hopen
    constructor
    · intro hreply
      have hshould := hreply.1
      rw [hrefused] at hshould
      cases hshould
    · rintro ⟨hcontent, hallowed, -⟩
      exact absurd ⟨hcontent, hallowed⟩ hopen

theorem decisionOn_answer
    (haccount : database.accounts.lookup payload.accountId = some account)
    (howner : account.automationOwnerUserId = some userId)
    (hdescribes : payload.Describes inbound)
    (hreply : WillReply library database now payload inbound) :
    let rules := rulesFor library database account userId payload
      (resolvedSender database account payload)
    let decision := (decisionOn library database now payload inbound).1
    decision.ruleId = rules.head?.map (fun rule => rule.ruleId) ∧
      ∀ first ∈ rules.head?, first.actionType = .template →
        decision.replyText =
          textOrNone (joinedReply (rules.map UserAutoReplyRule.toAutoReplyRule)
            (contextWith library database now account payload inbound)) := by
  intro rules decision
  obtain ⟨hcontent, hallowed, -⟩ := (willReply_iff haccount howner hdescribes).mp hreply
  have hdecision := decisionOn_of_allowed library inbound haccount howner hallowed hcontent
  rw [decideUserAutoReply_eq hdescribes, hallowed.2] at hdecision
  have hshould : decision.shouldReply = true := hreply.1
  simp only [decision, hdecision] at hshould ⊢
  cases hrules : rules with
  | nil =>
      simp only [rules] at hrules
      simp [hrules, AutoReplyDecision.refused] at hshould
  | cons first rest =>
      have hselected : rulesFor library database account userId payload
          (resolvedSender database account payload) = first :: rest := hrules
      simp only [hselected, Bool.false_eq_true, if_false] at hshould ⊢
      obtain ⟨hruleId, -, htext⟩ := decideSelected_answer hshould
      refine ⟨hruleId, ?_⟩
      intro other hother htemplate
      cases hother
      exact htext htemplate

end Decision

section Agreement

variable {library : Library} {database : Database} {now : ℕ} {account : Account}
  {userId : Identifier} {payload : PreviewRequest} {inbound : InboundMessage}

theorem textOrNone_inj {left right : String} :
    textOrNone left = textOrNone right ↔ left = right := by
  unfold textOrNone
  by_cases hleft : left = "" <;> by_cases hright : right = "" <;> simp [hleft, hright]

theorem head_eq_of_ruleId_eq {left right : Option String} {first other : UserAutoReplyRule}
    (hfirst : (rulesFor library database account userId payload left).head? = some first)
    (hother : (rulesFor library database account userId payload right).head? = some other)
    (hids : first.ruleId = other.ruleId) : first = other := by
  have hmem {sender : Option String} {rule : UserAutoReplyRule}
      (hrule : (rulesFor library database account userId payload sender).head? = some rule) :
      rule ∈ database.userRules.rows := by
    have hsorted := mem_of_head?_decisionRules hrule
    unfold inOrder at hsorted
    exact List.mem_of_mem_filter ((List.mem_insertionSort _).mp hsorted)
  exact Table.eq_of_key (hmem hfirst) (hmem hother)
    (show first.ruleId ∈ [first.ruleId] by simp) (by simp [hids])

/-- An answer given by both sides is the same one. -/
theorem sameAnswer_iff
    {result : PreviewResult}
    (haccount : database.accounts.lookup payload.accountId = some account)
    (howner : account.automationOwnerUserId = some userId)
    (hdescribes : payload.Describes inbound)
    (hreply : WillReply library database now payload inbound)
    (hruleIds : result.matchedRuleIds.head? =
      (rulesFor library database account userId payload payload.senderUserId).head?.map
        fun rule => rule.ruleId)
    (haction : result.actionType =
      (rulesFor library database account userId payload payload.senderUserId).head?.map
        fun rule => rule.actionType)
    (htext : result.actionType = some .template →
      result.replyPreview =
        textOrNone (joinedReply
          ((rulesFor library database account userId payload payload.senderUserId).map
            UserAutoReplyRule.toAutoReplyRule)
          (contextWith library database now account payload
            (previewMessage now payload (requestConversation database account payload))))) :
    (result.matchedRuleIds.head? = (decisionOn library database now payload inbound).1.ruleId ∧
        (result.actionType = some .template →
          result.replyPreview =
            (decisionOn library database now payload inbound).1.replyText)) ↔
      SameAnswer
        (rulesFor library database account userId payload payload.senderUserId)
        (rulesFor library database account userId payload
          (resolvedSender database account payload))
        (contextWith library database now account payload
          (previewMessage now payload (requestConversation database account payload)))
        (contextWith library database now account payload inbound) := by
  obtain ⟨hdecidedId, hdecidedText⟩ := decisionOn_answer haccount howner hdescribes hreply
  unfold SameAnswer
  rw [hruleIds, hdecidedId]
  refine and_congr_right fun hids => ?_
  constructor
  · intro hsame first hfirst htemplate
    have hresult : result.actionType = some .template := by
      rw [haction, hfirst, Option.map_some, htemplate]
    rw [hfirst, Option.map_some, eq_comm, Option.map_eq_some_iff] at hids
    obtain ⟨other, hother, hid⟩ := hids
    have heq := head_eq_of_ruleId_eq hfirst hother hid.symm
    rw [← textOrNone_inj, ← htext hresult, hsame hresult]
    exact hdecidedText other hother (heq ▸ htemplate)
  · intro hsame hresult
    rw [haction, Option.map_eq_some_iff] at hresult
    obtain ⟨first, hfirst, htemplate⟩ := hresult
    rw [hfirst, Option.map_some, eq_comm, Option.map_eq_some_iff] at hids
    obtain ⟨other, hother, hid⟩ := hids
    have heq := head_eq_of_ruleId_eq hfirst hother hid.symm
    rw [htext (by rw [haction, hfirst, Option.map_some, htemplate]),
      hsame first hfirst htemplate, hdecidedText other hother (heq ▸ htemplate)]

/-- The preview of a message to an enabled account of the user predicts the
decision exactly when it can be relied upon. -/
theorem preview_predicts_decision_iff
    (haccount : database.accounts.lookup payload.accountId = some account)
    (howner : account.automationOwnerUserId = some userId)
    (henabled : account.enabled = true) (hdescribes : payload.Describes inbound) :
    PreviewPredicts library database now userId payload inbound ↔
      PreviewReliable library database now account userId payload inbound := by
  obtain ⟨result, hresult, hexecutable, hruleIds, haction, htext⟩ :=
    @previewUserAutoReply_spec library database now account userId payload haccount howner
      henabled
  have hwill := @willReply_iff library database now account userId payload inbound haccount
    howner hdescribes
  have hsame := fun hreply : WillReply library database now payload inbound =>
    sameAnswer_iff haccount howner hdescribes hreply hruleIds haction htext
  have hpredicts : PreviewPredicts library database now userId payload inbound ↔
      (result.executable = true ↔ WillReply library database now payload inbound) ∧
      (result.executable = true →
        result.matchedRuleIds.head? =
            (decisionOn library database now payload inbound).1.ruleId ∧
          (result.actionType = some .template →
            result.replyPreview =
              (decisionOn library database now payload inbound).1.replyText)) := by
    unfold PreviewPredicts
    rw [hresult]
    simp
  rw [hpredicts]
  unfold PreviewReliable
  by_cases hreply : WillReply library database now payload inbound
  · have hanswer := hsame hreply
    grind
  · grind

/-- A key that can be decrypted is stored. -/
theorem providerReady_of_usable {provider : Option AIProviderSetting}
    (husable : providerUsable library provider = true) : providerReady provider = true := by
  obtain ⟨setting, rfl, hready⟩ := (Option.any_eq_true _ _).mp husable
  simp only [Bool.and_eq_true] at hready
  have hstored : truthy setting.apiKeyEncrypted = true := by
    obtain ⟨apiKey, hapiKey, -⟩ := exists_of_truthy hready.2
    obtain ⟨token, htoken, -⟩ := Option.bind_eq_some_iff.mp hapiKey
    cases hcolumn : setting.apiKeyEncrypted with
    | none => simp [hcolumn, stripOrNone, strip] at htoken
    | some stored =>
        refine truthy_some.mpr fun hempty => ?_
        simp [hcolumn, hempty, stripOrNone, strip] at htoken
  simp [providerReady, hready.1.1, hready.1.2, hstored]

/-- A message with content whose sender the preview knows, for which the stored key
can be decrypted and the templates read nothing that the stand-in lacks, is
predicted. -/
theorem previewReliable_of_ordinary
    (hcontent : strip payload.content ≠ "")
    (hsender : (resolvedSender database account payload).getD "" =
      payload.senderUserId.getD "")
    (hkey : providerReady database.provider = true →
      providerUsable library database.provider = true)
    (htext :
      joinedReply
          ((rulesFor library database account userId payload payload.senderUserId).map
            UserAutoReplyRule.toAutoReplyRule)
          (contextWith library database now account payload
            (previewMessage now payload (requestConversation database account payload))) =
        joinedReply
          ((rulesFor library database account userId payload payload.senderUserId).map
            UserAutoReplyRule.toAutoReplyRule)
          (contextWith library database now account payload inbound)) :
    PreviewReliable library database now account userId payload inbound := by
  have hrules : rulesFor library database account userId payload
      (resolvedSender database account payload) =
        rulesFor library database account userId payload payload.senderUserId := by
    unfold rulesFor
    rw [hsender]
  have hprovider : providerReady database.provider =
      providerUsable library database.provider :=
    Bool.eq_iff_iff.mpr ⟨hkey, providerReady_of_usable⟩
  let rules := rulesFor library database account userId payload payload.senderUserId
  let context := contextWith library database now account payload inbound
  have hsilent : StaysSilent database now account payload rules
      (contextWith library database now account payload
        (previewMessage now payload (requestConversation database account payload)))
      (providerReady database.provider) ↔
        StaysSilent database now account payload rules context
          (providerUsable library database.provider) := by
    unfold StaysSilent
    rw [hprovider, htext]
  unfold PreviewReliable
  simp only [hrules]
  by_cases hanswered : StaysSilent database now account payload rules context
      (providerUsable library database.provider)
  · exact .inr (.inl ⟨hsilent.mpr hanswered, .inr hanswered⟩)
  · exact .inr (.inr ⟨fun hquiet => hanswered (hsilent.mp hquiet),
      fun hquiet => hquiet.elim hcontent hanswered, rfl, fun _ _ _ => htext⟩)

end Agreement

def exampleLibrary : Library where
  loads := fun _ => none
  dumps := Json.dumps
  lower := Python.lower
  isoformat := toString
  fernetDecrypt := some

def exampleOwner : Identifier := ⟨"u1", by decide⟩

def exampleAccount : Account where
  accountId := "a1"
  automationOwnerUserId := some exampleOwner

def exampleDatabase : Database where
  accounts := ⟨[exampleAccount], by decide⟩
  settings := .singleton { accountId := "a1", enabled := true }
  conversations := .empty
  userRules :=
    ⟨[{ ruleId := ⟨"r1", by decide⟩
        userId := exampleOwner
        triggerType := .always
        replyText := "您好" }], by decide⟩
  accountRules := .empty
  provider := none
  orders := []
  logs := []
  messages := []

def exampleRequest (content : String) : PreviewRequest where
  accountId := "a1"
  content := content
  conversation_normalized := by decide

def exampleMessage : InboundMessage where
  messageId := some "m1"
  messageType := some "text"
  createdAt := some 7

theorem greeting_is_predicted :
    PreviewPredicts exampleLibrary exampleDatabase 9 exampleOwner (exampleRequest "hello")
      exampleMessage :=
  (preview_predicts_decision_iff
    (show exampleDatabase.accounts.lookup "a1" = some exampleAccount by decide)
    rfl rfl ⟨rfl, rfl, rfl, rfl⟩).mpr
    (previewReliable_of_ordinary (by decide) rfl (by decide) rfl)

/-- The preview of a message without text calls it executable; the decision
rejects it as empty. -/
theorem blank_message_is_not_predicted :
    exampleAccount.enabled = true ∧ exampleAccount ∈ exampleDatabase.accounts.rows ∧
      exampleAccount.automationOwnerUserId = some exampleOwner ∧
      (exampleRequest "").Describes exampleMessage ∧
      ¬PreviewPredicts exampleLibrary exampleDatabase 9 exampleOwner (exampleRequest "")
        exampleMessage := by
  refine ⟨rfl, by simp [exampleDatabase], rfl, ⟨rfl, rfl, rfl, rfl⟩, ?_⟩
  rintro ⟨result, hresult, hpredicts, -⟩
  have hexecutable : (previewUserAutoReply exampleLibrary exampleDatabase 9 exampleOwner
      (exampleRequest "")).map PreviewResult.executable = some true := rfl
  rw [hresult, Option.map_some, Option.some.injEq] at hexecutable
  have hdecision : (decisionOn exampleLibrary exampleDatabase 9 (exampleRequest "")
      exampleMessage).1.shouldReply = false := rfl
  have hreply := (hpredicts.mp hexecutable).1
  rw [hdecision] at hreply
  cases hreply

end XianyuAdmin.AutoReply
