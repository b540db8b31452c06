import XianyuAdmin.AutoReply.PreviewAgreement

/-!
# Issues of a user's rules

The editor of the rules warns of rules that will never act: those behind a rule
for all messages whose scope covers theirs, and fallback rules whose scopes
overlap.  The warnings look at the scopes alone, without a message.
-/

namespace XianyuAdmin.AutoReply

open XianyuAdmin.Python XianyuAdmin.Messages

def scopeFields (rule : UserAutoReplyRule) : List (Option String) :=
  [rule.platform, rule.messageType, rule.senderUserId, rule.conversationId, rule.itemId]

def autoReplyRuleScopesOverlap (library : Library) (left right : UserAutoReplyRule) : Bool :=
  let leftAccounts := loadStringList library left.accountIds
  let rightAccounts := loadStringList library right.accountIds
  if !leftAccounts.isEmpty && !rightAccounts.isEmpty &&
      leftAccounts.all fun accountId => accountId ∉ rightAccounts then
    false
  else
    ((scopeFields left).zip (scopeFields right)).all fun (leftValue, rightValue) =>
      !(truthy leftValue && truthy rightValue && leftValue ≠ rightValue)

def autoReplyRuleScopeCovers (library : Library) (covering candidate : UserAutoReplyRule) :
    Bool :=
  let coveringAccounts := loadStringList library covering.accountIds
  let candidateAccounts := loadStringList library candidate.accountIds
  if !coveringAccounts.isEmpty && (candidateAccounts.isEmpty ||
      !candidateAccounts.all fun accountId => accountId ∈ coveringAccounts) then
    false
  else
    ((scopeFields covering).zip (scopeFields candidate)).all fun (coveringValue, candidateValue) =>
      !(truthy coveringValue && coveringValue ≠ candidateValue)

inductive IssueSeverity
  | warning
  | error
  deriving DecidableEq, Repr

structure AutoReplyRuleIssue where
  severity : IssueSeverity
  code : String
  message : String
  ruleIds : List Identifier
  deriving DecidableEq

/-- `provider.base_url and provider.model and provider.api_key_encrypted`. -/
def aiReady (provider : Option AIProviderSetting) : Bool :=
  provider.any fun provider =>
    truthy provider.baseUrl && truthy provider.model && truthy provider.apiKeyEncrypted

def aiProviderIssues (provider : Option AIProviderSetting) (rules : List UserAutoReplyRule) :
    List AutoReplyRuleIssue :=
  let aiRules := rules.filter fun rule => rule.enabled && rule.actionType = .ai
  if !aiRules.isEmpty && !aiReady provider then
    [{ severity := .error
       code := "ai_provider_incomplete"
       message := "存在已启用的 AI 规则，但系统设置中的 AI 服务配置不完整"
       ruleIds := aiRules.map fun rule => rule.ruleId }]
  else []

def overlappingFallbackIds (library : Library) : List UserAutoReplyRule → List Identifier
  | [] => []
  | left :: rest =>
      ((rest.filter fun right => autoReplyRuleScopesOverlap library left right).flatMap
        fun right => [left.ruleId, right.ruleId]) ++ overlappingFallbackIds library rest

/-- `sorted(ids)` of a set of ids. -/
def sortedIds (ids : List Identifier) : List Identifier :=
  ids.dedup.insertionSort fun left right => left.text ≤ right.text

def overlapIssue (ids : List Identifier) : AutoReplyRuleIssue where
  severity := .warning
  code := "overlapping_fallbacks"
  message := "多个兜底规则的适用范围重叠，将只按顺序执行首个规则"
  ruleIds := ids

def overlapIssues (library : Library) (rules : List UserAutoReplyRule) :
    List AutoReplyRuleIssue :=
  let ids := sortedIds (overlappingFallbackIds library
    (rules.filter fun rule => rule.enabled && rule.triggerType = .fallback))
  if ids.isEmpty then [] else [overlapIssue ids]

def takesAll (rule : UserAutoReplyRule) : Bool :=
  rule.triggerType = .always && !(rule.actionType = .template && rule.continueMatching)

/-- The rules behind `rule` that it covers. -/
def shadowedIds (library : Library) (rule : UserAutoReplyRule)
    (later : List UserAutoReplyRule) : List Identifier :=
  (later.filter fun candidate => autoReplyRuleScopeCovers library rule candidate).map
    fun candidate => candidate.ruleId

/-- The loop over the enabled rules that are not fallback rules. -/
def shadowIssues (library : Library) : List UserAutoReplyRule → List AutoReplyRuleIssue
  | [] => []
  | rule :: later =>
      let shadowed := shadowedIds library rule later
      (if takesAll rule && !shadowed.isEmpty then
        [{ severity := .warning
           code := "rules_shadowed_by_always"
           message := "规则“" ++ autoReplyRuleName rule.toAutoReplyRule ++ "”会使后续 " ++
             toString shadowed.length ++ " 条规则无法命中"
           ruleIds := rule.ruleId :: shadowed }]
      else []) ++ shadowIssues library later

def listUserAutoReplyRuleIssues (library : Library) (database : Database)
    (userId : Identifier) : List AutoReplyRuleIssue :=
  let rules := inOrder (database.userRules.rows.filter fun rule => rule.userId = userId)
  aiProviderIssues database.provider rules ++ overlapIssues library rules ++
    shadowIssues library
      (rules.filter fun rule => rule.enabled && rule.triggerType ≠ .fallback)

/-- The `selected` of `_decide_user_auto_reply` for a message. -/
def selectedChain (library : Library) (database : Database) (now : ℕ) (account : Account)
    (userId : Identifier) (content : String) (conversationId itemId : Option String)
    (inboundMessage : Option InboundMessage) : List UserAutoReplyRule :=
  let conversation :=
    if truthy conversationId then database.conversation? account.accountId conversationId
    else none
  let order := latestAutoReplyOrder database.orders account.accountId conversationId itemId
  let context := buildAutoReplyContext library now account conversation order
    inboundMessage content itemId
  let messageType := contextText context ["message", "type"]
  decisionRules library
    (inOrder (database.userRules.rows.filter fun rule =>
      rule.userId = userId && rule.enabled)) account content
    (if messageType = "" then "text" else messageType) (contextText context ["sender", "id"])
    conversationId itemId

variable {account : Account} {conversationId : Option String} {library : Library}
  {stop : UserAutoReplyRule} {rules : List UserAutoReplyRule}

theorem decideSelected_ruleId {database : Database} {now : ℕ} {context : Json}
    {first : UserAutoReplyRule} {selected : List UserAutoReplyRule} {ruleId : Identifier}
    (hdecided : (decideSelected database now account conversationId context first
      selected).ruleId = some ruleId) :
    first.ruleId = ruleId := by
  unfold decideSelected at hdecided
  dsimp only at hdecided
  split at hdecided
  · cases hdecided
  split at hdecided
  · cases hdecided
  split at hdecided
  · exact Option.some.inj hdecided
  · exact Option.some.inj hdecided

theorem decideUserAutoReply_ruleId {database : Database} {now : ℕ} {userId : Identifier}
    {content : String} {itemId : Option String} {inboundMessage : Option InboundMessage}
    {ruleId : Identifier}
    (hdecided : (decideUserAutoReply library database now account userId content
      conversationId itemId inboundMessage).ruleId = some ruleId) :
    ∃ rule ∈ selectedChain library database now account userId content conversationId itemId
      inboundMessage, rule.ruleId = ruleId := by
  unfold decideUserAutoReply at hdecided
  unfold selectedChain
  dsimp only at hdecided ⊢
  generalize (if truthy conversationId = true then
    database.conversation? account.accountId conversationId else none) = conversation
    at hdecided ⊢
  split at hdecided
  · cases hdecided
  split at hdecided
  · cases hdecided
  · rename_i first rest hchain
    rw [hchain]
    exact ⟨first, List.mem_cons_self, decideSelected_ruleId hdecided⟩

section Scopes

variable {library : Library} {account : Account} {messageType sender : String}
  {conversationId itemId : Option String}

def Admits (wanted value : Option String) : Prop := truthy wanted = true → wanted = value

theorem inDecisionScope_iff (rule : UserAutoReplyRule) :
    inDecisionScope library rule account messageType sender conversationId itemId = true ↔
      (loadStringList library rule.accountIds = [] ∨
        account.accountId ∈ loadStringList library rule.accountIds) ∧
      Admits rule.platform (some account.platform) ∧
      Admits rule.messageType (some messageType) ∧
      Admits rule.senderUserId (some sender) ∧
      Admits rule.conversationId conversationId ∧ Admits rule.itemId itemId := by
  unfold inDecisionScope autoReplyRuleScopeMatches Admits
  simp only [Bool.and_eq_true, Bool.or_eq_true, List.isEmpty_iff]
  grind

theorem Admits.of_covers {covering candidate value : Option String}
    (hcovers : truthy covering = true → covering = candidate) (hadmits : Admits candidate value) :
    Admits covering value := by
  intro htruthy
  have hsame := hcovers htruthy
  rw [hsame]
  exact hadmits (hsame ▸ htruthy)

theorem inDecisionScope_of_covers {covering candidate : UserAutoReplyRule}
    (hcovers : autoReplyRuleScopeCovers library covering candidate = true)
    (hscope : inDecisionScope library candidate account messageType sender conversationId
      itemId = true) :
    inDecisionScope library covering account messageType sender conversationId itemId = true := by
  rw [inDecisionScope_iff] at hscope ⊢
  obtain ⟨haccounts, hplatform, htype, hsender, hconversation, hitem⟩ := hscope
  unfold autoReplyRuleScopeCovers at hcovers
  dsimp only at hcovers
  split at hcovers
  · cases hcovers
  rename_i hids
  simp only [scopeFields, List.zip_cons_cons, List.zip_nil_left, List.all_cons, List.all_nil,
    Bool.and_true, Bool.and_eq_true] at hcovers
  have hfield : ∀ {wanted other : Option String},
      (!(truthy wanted && decide (wanted ≠ other))) = true →
      truthy wanted = true → wanted = other := by
    intro wanted other hwanted htruthy
    simpa [htruthy] using hwanted
  refine ⟨?_, hplatform.of_covers (hfield hcovers.1), htype.of_covers (hfield hcovers.2.1),
    hsender.of_covers (hfield hcovers.2.2.1), hconversation.of_covers (hfield hcovers.2.2.2.1),
    hitem.of_covers (hfield hcovers.2.2.2.2)⟩
  by_cases hempty : loadStringList library covering.accountIds = []
  · exact .inl hempty
  · refine .inr ?_
    simp only [Bool.and_eq_true, Bool.not_eq_true', List.isEmpty_eq_false_iff, ne_eq, hempty,
      not_false_eq_true, true_and, Bool.or_eq_true, List.isEmpty_iff, not_or, Bool.not_eq_false, List.all_eq_true, decide_eq_true_eq] at hids
    exact hids.2 _ (haccounts.resolve_left hids.1)

theorem overlap_of_inDecisionScope {left right : UserAutoReplyRule}
    (hleft : inDecisionScope library left account messageType sender conversationId itemId = true)
    (hright : inDecisionScope library right account messageType sender conversationId
      itemId = true) :
    autoReplyRuleScopesOverlap library left right = true := by
  rw [inDecisionScope_iff] at hleft hright
  unfold autoReplyRuleScopesOverlap
  dsimp only
  have hfield : ∀ {wanted other value : Option String}, Admits wanted value →
      Admits other value →
      (!(truthy wanted && truthy other && decide (wanted ≠ other))) = true := by
    intro wanted other value hwanted hother
    unfold Admits at hwanted hother
    grind
  split
  · rename_i hdisjoint
    simp only [Bool.and_eq_true, Bool.not_eq_true', List.isEmpty_eq_false_iff, ne_eq,
      List.all_eq_true, decide_eq_true_eq] at hdisjoint
    have hmem := hleft.1.resolve_left hdisjoint.1.1
    exact (hdisjoint.2 _ hmem (hright.1.resolve_left hdisjoint.1.2)).elim
  · simp only [scopeFields, List.zip_cons_cons, List.zip_nil_left, List.all_cons, List.all_nil,
      Bool.and_true, Bool.and_eq_true]
    exact ⟨hfield hleft.2.1 hright.2.1, hfield hleft.2.2.1 hright.2.2.1,
      hfield hleft.2.2.2.1 hright.2.2.2.1, hfield hleft.2.2.2.2.1 hright.2.2.2.2.1,
      hfield hleft.2.2.2.2.2 hright.2.2.2.2.2⟩

end Scopes

/-- A rule that passes no message on ends the chain behind it. -/
theorem continued_prefix (hstop : (stop.actionType = .template && stop.continueMatching) = false)
    (before after : List UserAutoReplyRule) :
    continued (before ++ stop :: after) <+: before ++ [stop] := by
  induction before with
  | nil =>
      simp only [List.nil_append, continued]
      split
      · exact List.nil_prefix
      · rename_i htemplate
        rw [not_not] at htemplate
        have hends : stop.continueMatching = false := by simpa [htemplate] using hstop
        simp [hends]
  | cons rule before ih =>
      simp only [List.cons_append, continued]
      split
      · exact List.nil_prefix
      · split
        · exact List.cons_prefix_cons.mpr ⟨rfl, ih⟩
        · exact List.cons_prefix_cons.mpr ⟨rfl, List.nil_prefix⟩

theorem selectRules_prefix_of_takes
    (hstop : (stop.actionType = .template && stop.continueMatching) = false)
    (before after : List UserAutoReplyRule) :
    selectRules (before ++ stop :: after) <+: before ++ [stop] := by
  cases before with
  | nil =>
      simp only [List.nil_append, selectRules, hstop]
      exact List.cons_prefix_cons.mpr ⟨rfl, List.nil_prefix⟩
  | cons rule before =>
      simp only [List.cons_append, selectRules]
      split
      · exact List.cons_prefix_cons.mpr ⟨rfl, continued_prefix hstop before after⟩
      · exact List.cons_prefix_cons.mpr ⟨rfl, List.nil_prefix⟩

theorem continued_prefix_self (rules : List UserAutoReplyRule) : continued rules <+: rules := by
  induction rules with
  | nil => exact List.nil_prefix
  | cons rule rules ih =>
      simp only [continued]
      split
      · exact List.nil_prefix
      · split
        · exact List.cons_prefix_cons.mpr ⟨rfl, ih⟩
        · exact List.cons_prefix_cons.mpr ⟨rfl, List.nil_prefix⟩

theorem selectRules_prefix_self (rules : List UserAutoReplyRule) : selectRules rules <+: rules := by
  cases rules with
  | nil => exact List.nil_prefix
  | cons rule rules =>
      simp only [selectRules]
      split
      · exact List.cons_prefix_cons.mpr ⟨rfl, continued_prefix_self rules⟩
      · exact List.cons_prefix_cons.mpr ⟨rfl, List.nil_prefix⟩

theorem mem_of_mem_decisionRules {content messageType sender : String} {itemId : Option String}
    {rule : UserAutoReplyRule}
    (hselected : rule ∈ decisionRules library rules account content messageType sender
      conversationId itemId) : rule ∈ rules := by
  have hmem := (selectRules_prefix_self _).subset hselected
  unfold matchedOrFallback at hmem
  split at hmem
  · exact List.mem_of_mem_filter (List.mem_of_mem_filter hmem)
  · exact List.mem_of_mem_filter (List.mem_of_mem_filter hmem)

theorem exists_of_mem_shadowIssues {issue : AutoReplyRuleIssue}
    (hissue : issue ∈ shadowIssues library rules) :
    ∃ before rule later, rules = before ++ rule :: later ∧ takesAll rule = true ∧
      issue.ruleIds = rule.ruleId :: shadowedIds library rule later := by
  induction rules with
  | nil => cases hissue
  | cons rule rules ih =>
      simp only [shadowIssues, List.mem_append] at hissue
      rcases hissue with hfirst | hrest
      · split at hfirst
        · rename_i htakes
          rw [Bool.and_eq_true] at htakes
          rw [List.mem_singleton.mp hfirst]
          exact ⟨[], rule, rules, rfl, htakes.1, rfl⟩
        · cases hfirst
      · obtain ⟨before, stop, later, hsplit, htakes, hids⟩ := ih hrest
        exact ⟨rule :: before, stop, later, by rw [hsplit, List.cons_append], htakes, hids⟩

theorem not_mem_decisionRules_of_covers {before later : List UserAutoReplyRule}
    {candidate : UserAutoReplyRule}
    (hrules : rules.filter (fun rule => rule.triggerType ≠ .fallback) = before ++ stop :: later)
    (hnodup : rules.Nodup) (htakes : takesAll stop = true) (hcandidate : candidate ∈ later)
    (hcovers : autoReplyRuleScopeCovers library stop candidate = true) (account : Account)
    (content messageType sender : String) (conversationId itemId : Option String) :
    candidate ∉ decisionRules library rules account content messageType sender conversationId
      itemId := by
  intro hselected
  simp only [takesAll, Bool.and_eq_true, decide_eq_true_eq, Bool.not_eq_true'] at htakes
  let acts (rule : UserAutoReplyRule) : Bool :=
    inDecisionScope library rule account messageType sender conversationId itemId &&
      autoReplyRuleMatches library rule.toAutoReplyRule content
  -- the matched rules are the ordinary rules that are in scope and triggered
  have hmatched : (rules.filter fun rule =>
      inDecisionScope library rule account messageType sender conversationId itemId).filter
        (fun rule => rule.triggerType ≠ .fallback &&
          autoReplyRuleMatches library rule.toAutoReplyRule content) =
      before.filter acts ++ (stop :: later).filter acts := by
    rw [← List.filter_append, ← hrules, List.filter_filter, List.filter_filter]
    refine List.filter_congr fun rule _ => ?_
    simp only [acts]
    grind
  have hordinary : (before ++ stop :: later).Nodup := hrules ▸ hnodup.filter _
  have hlater : candidate ∉ before ++ [stop] := by
    have hsplit : before ++ stop :: later = (before ++ [stop]) ++ later := by simp
    rw [hsplit] at hordinary
    exact fun hmem => List.disjoint_of_nodup_append hordinary hmem hcandidate
  have hkind : candidate.triggerType ≠ .fallback := by
    have hmem : candidate ∈ rules.filter fun rule => rule.triggerType ≠ .fallback := by
      rw [hrules]
      exact List.mem_append_right _ (List.mem_cons_of_mem _ hcandidate)
    simpa using (List.mem_filter.mp hmem).2
  unfold decisionRules matchedOrFallback at hselected
  dsimp only at hselected
  split at hselected
  · have hfallback := (selectRules_prefix_self _).subset hselected
    exact hkind (by simpa using (List.mem_filter.mp hfallback).2)
  · rw [hmatched] at hselected
    have hacts : acts candidate = true := by
      rw [← List.filter_append] at hselected
      exact (List.mem_filter.mp ((selectRules_prefix_self _).subset hselected)).2
    have hstop : acts stop = true := by
      simp only [acts, Bool.and_eq_true] at hacts ⊢
      refine ⟨inDecisionScope_of_covers hcovers hacts.1, ?_⟩
      simp [autoReplyRuleMatches, htakes.1]
    rw [List.filter_cons_of_pos hstop] at hselected
    have hmem := (selectRules_prefix_of_takes htakes.2 _ _).subset hselected
    rw [List.mem_append, List.mem_singleton] at hmem
    rcases hmem with hbefore | hsame
    · exact hlater (List.mem_append_left _ (List.mem_of_mem_filter hbefore))
    · exact hlater (List.mem_append_right _ (List.mem_singleton.mpr hsame))

theorem nodup_userRules (database : Database) : database.userRules.rows.Nodup := by
  refine database.userRules.unique.imp fun {left right} hclash heq => ?_
  subst heq
  exact hclash left.ruleId (List.mem_singleton_self _) (List.mem_singleton_self _)

theorem mem_inOrder_filter {keep : UserAutoReplyRule → Bool} {rule : UserAutoReplyRule} :
    rule ∈ inOrder (rules.filter keep) ↔ rule ∈ rules ∧ keep rule = true := by
  rw [inOrder, (List.perm_insertionSort _ _).mem_iff, List.mem_filter]

theorem mem_overlappingFallbackIds {left right : UserAutoReplyRule} (hleft : left ∈ rules)
    (hright : right ∈ rules) (hne : left ≠ right)
    (hoverlap : autoReplyRuleScopesOverlap library left right = true)
    (hswapped : autoReplyRuleScopesOverlap library right left = true) :
    left.ruleId ∈ overlappingFallbackIds library rules ∧
      right.ruleId ∈ overlappingFallbackIds library rules := by
  have hpair : ∀ {first second : UserAutoReplyRule} {rest : List UserAutoReplyRule},
      second ∈ rest → autoReplyRuleScopesOverlap library first second = true →
      first.ruleId ∈ overlappingFallbackIds library (first :: rest) ∧
        second.ruleId ∈ overlappingFallbackIds library (first :: rest) := by
    intro first second rest hsecond hfirst
    have hmem : second ∈ rest.filter fun right => autoReplyRuleScopesOverlap library first right :=
      List.mem_filter.mpr ⟨hsecond, hfirst⟩
    simp only [overlappingFallbackIds, List.mem_append, List.mem_flatMap]
    exact ⟨.inl ⟨second, hmem, by simp⟩, .inl ⟨second, hmem, by simp⟩⟩
  induction rules with
  | nil => cases hleft
  | cons rule rest ih =>
      rcases List.mem_cons.mp hleft with rfl | hleftRest
      · rcases List.mem_cons.mp hright with rfl | hrightRest
        · exact (hne rfl).elim
        · exact hpair hrightRest hoverlap
      · rcases List.mem_cons.mp hright with rfl | hrightRest
        · exact (hpair hleftRest hswapped).symm
        · have hrest := ih hleftRest hrightRest
          simp only [overlappingFallbackIds, List.mem_append]
          exact ⟨.inr hrest.1, .inr hrest.2⟩

section Claims

variable (library : Library) (database : Database) (userId : Identifier)

def ReportsOverlap (left right : UserAutoReplyRule) : Prop :=
  ∃ issue ∈ listUserAutoReplyRuleIssues library database userId,
    issue.code = "overlapping_fallbacks" ∧ left.ruleId ∈ issue.ruleIds ∧
      right.ruleId ∈ issue.ruleIds

structure IssuesSound : Prop where
  shadowed : ∀ issue ∈ listUserAutoReplyRuleIssues library database userId,
    issue.code = "rules_shadowed_by_always" → ∀ ruleId ∈ issue.ruleIds.tail,
      ∀ (current : Database), current.userRules = database.userRules →
      ∀ (now : ℕ) (account : Account) (content : String)
        (conversationId itemId : Option String) (inboundMessage : Option InboundMessage),
        (∀ rule ∈ selectedChain library current now account userId content conversationId itemId
            inboundMessage, rule.ruleId ≠ ruleId) ∧
          (decideUserAutoReply library current now account userId content conversationId itemId
            inboundMessage).ruleId ≠ some ruleId
  disjoint : ∀ left ∈ database.userRules.rows, ∀ right ∈ database.userRules.rows,
    left.userId = userId → right.userId = userId → left.enabled → right.enabled →
    left.triggerType = .fallback → right.triggerType = .fallback → left ≠ right →
    ¬ ReportsOverlap library database userId left right →
      ∀ (account : Account) (messageType sender : String) (conversationId itemId : Option String),
        ¬ (inDecisionScope library left account messageType sender conversationId itemId = true ∧
          inDecisionScope library right account messageType sender conversationId itemId = true)

theorem not_mem_selectedChain_of_shadowed {issue : AutoReplyRuleIssue}
    (hissue : issue ∈ listUserAutoReplyRuleIssues library database userId)
    (hcode : issue.code = "rules_shadowed_by_always") {ruleId : Identifier}
    (hshadowed : ruleId ∈ issue.ruleIds.tail) {current : Database}
    (hrules : current.userRules = database.userRules) (now : ℕ) (account : Account)
    (content : String) (conversationId itemId : Option String)
    (inboundMessage : Option InboundMessage) {rule : UserAutoReplyRule}
    (hselected : rule ∈ selectedChain library current now account userId content conversationId
      itemId inboundMessage) : rule.ruleId ≠ ruleId := by
  intro hsame
  simp only [listUserAutoReplyRuleIssues, List.mem_append] at hissue
  rcases hissue with (hai | hoverlap) | hshadow
  · unfold aiProviderIssues at hai
    dsimp only at hai
    split at hai
    · rw [List.mem_singleton.mp hai] at hcode
      exact absurd hcode (by simp)
    · cases hai
  · unfold overlapIssues at hoverlap
    dsimp only at hoverlap
    split at hoverlap
    · cases hoverlap
    · rw [List.mem_singleton.mp hoverlap] at hcode
      exact absurd hcode (by simp [overlapIssue])
  · obtain ⟨before, stop, later, hsplit, htakes, hids⟩ := exists_of_mem_shadowIssues hshadow
    rw [hids, List.tail_cons, shadowedIds, List.mem_map] at hshadowed
    obtain ⟨candidate, hcandidate, hid⟩ := hshadowed
    rw [List.mem_filter] at hcandidate
    -- the rules that the decision goes through are the enabled ones, in the same order
    let rules := inOrder (current.userRules.rows.filter fun rule =>
      rule.userId = userId && rule.enabled)
    have hordinary : rules.filter (fun rule => rule.triggerType ≠ .fallback) =
        before ++ stop :: later := by
      simp only [rules]
      rw [← hsplit, hrules, ← inOrder_enabled, List.filter_filter]
      refine List.filter_congr fun rule _ => ?_
      rw [Bool.and_comm]
    have hnodup : rules.Nodup :=
      (List.perm_insertionSort _ _).nodup_iff.mpr ((nodup_userRules current).filter _)
    have hmem : candidate ∈ rules := by
      refine List.mem_of_mem_filter (p := fun rule => rule.triggerType ≠ .fallback) ?_
      rw [hordinary]
      exact List.mem_append_right _ (List.mem_cons_of_mem _ hcandidate.1)
    have hrule : rule ∈ rules := mem_of_mem_decisionRules hselected
    have heq : rule = candidate :=
      Table.eq_of_key (mem_inOrder_filter.mp hrule).1 (mem_inOrder_filter.mp hmem).1
        (List.mem_singleton.mpr hsame.symm) (List.mem_singleton.mpr hid.symm)
    rw [heq] at hselected
    exact not_mem_decisionRules_of_covers hordinary hnodup htakes hcandidate.1 hcandidate.2
      _ _ _ _ _ _ hselected

end Claims

/-- A greeting for everybody hides the rule behind it. -/
example :
    shadowIssues exampleLibrary
        [{ ruleId := ⟨"r1", by decide⟩, userId := exampleOwner, triggerType := .always },
          { ruleId := ⟨"r2", by decide⟩, userId := exampleOwner, keyword := "price" }] =
      [{ severity := .warning
         code := "rules_shadowed_by_always"
         message := "规则“全部消息规则”会使后续 1 条规则无法命中"
         ruleIds := [⟨"r1", by decide⟩, ⟨"r2", by decide⟩] }] := by
  decide

end XianyuAdmin.AutoReply
