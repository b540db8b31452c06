import XianyuAdmin.Orders.OrderRows

/-!
# Delivery records

A delivery is prepared as a record, claimed by the process that sends its
content to the buyer, and finished with the outcome of the sending.  A record is
prepared for a conversation, perhaps about a card in it, or for an order.  Before
it is inserted the service looks for another record of the same order, card or
item that is still valid.
-/

namespace XianyuAdmin.Delivery

open XianyuAdmin.Python
open XianyuAdmin.Orders

inductive DeliveryStatus
  | pending
  | sending
  | sent
  | failed
  | uncertain
  | cancelled
  deriving DecidableEq, Repr

/-- `DELIVERY_ACTIVE_STATES`. -/
def DeliveryStatus.isActive : DeliveryStatus → Bool
  | .pending | .sending | .sent | .uncertain => true
  | .failed | .cancelled => false

/-- The content was handed out, or may have been. -/
def DeliveryStatus.isDispatched : DeliveryStatus → Bool
  | .sending | .sent | .uncertain => true
  | .pending | .failed | .cancelled => false

/-- A row of `xianyu_delivery_records`. -/
structure DeliveryRecord where
  recordId : String
  orderPk : Option String := none
  accountId : String
  conversationId : String
  receiverUserId : String
  templateId : Option String := none
  cardId : Option String := none
  sourceMessagePk : Option String := none
  sendMessagePk : Option String := none
  itemId : Option String := none
  orderId : Option String := none
  content : String
  status : DeliveryStatus := .pending
  sendError : Option String := none
  createdAt : ℕ
  updatedAt : ℕ
  sentAt : Option ℕ := none

def recordKeys (record : DeliveryRecord) : List String := [record.recordId]

abbrev DeliveryTable := Table DeliveryRecord recordKeys

/-- The columns of `xianyu_delivery_templates` a delivery reads. -/
structure DeliveryTemplate where
  templateId : String
  accountId : String
  enabled : Bool := true
  content : String
  priority : ℤ := 100
  createdAt : ℕ

/-- The columns of `xianyu_message_cards` a delivery reads. -/
structure MessageCard where
  cardId : String
  accountId : String
  conversationId : String
  messagePk : String
  cardType : String
  itemId : Option String := none
  orderId : Option String := none
  title : Option String := none
  status : Option String := none

/-- The tables a prepared delivery is read from. -/
structure Catalogue where
  accounts : List String
  templates : List DeliveryTemplate
  cards : List MessageCard
  orders : OrderStore

def hasActiveDeliveryRecord (records : DeliveryTable) (accountId conversationId : String)
    (cardId orderId itemId excludeRecordId : Option String) : Bool :=
  let found := fun (meets : DeliveryRecord → Bool) =>
    records.rows.any fun record =>
      record.accountId = accountId && meets record && record.status.isActive &&
        (!truthy excludeRecordId || some record.recordId ≠ excludeRecordId)
  if truthy orderId then found fun record => record.orderId = orderId
  else if truthy cardId then found fun record => record.cardId = cardId
  else if truthy itemId then
    found fun record =>
      record.conversationId = conversationId && record.itemId = itemId
  else false

def deliveryOrderStatusAllowlist : List String :=
  ["wait_seller_send_goods", "wait_seller_send", "waiting_seller_send", "待发货",
    "待卖家发货", "等待卖家发货"]

def statusInAllowlist (status : Option String) (allowlist : List String) : Bool :=
  if truthy status then
    let normalized := lower (strip (status.getD ""))
    let normalizedAllowlist :=
      (allowlist.filter fun item => strip item ≠ "").map fun item => lower (strip item)
    normalized ∈ normalizedAllowlist || containsAny normalizedAllowlist normalized
  else false

def isDeliveryOrderStatusAllowed (status : Option String) : Bool :=
  statusInAllowlist status deliveryOrderStatusAllowlist

/-- The values that `_render_delivery_template` puts into a template. -/
structure TemplateValues where
  receiverUserId : String
  conversationId : String
  itemId : Option String
  orderId : Option String
  cardTitle : Option String
  cardStatus : Option String
  peerName : Option String

def renderDeliveryTemplate (template : String) (values : TemplateValues) : String :=
  let entries :=
    [("receiver_user_id", values.receiverUserId),
      ("conversation_id", values.conversationId),
      ("item_id", values.itemId.getD ""), ("order_id", values.orderId.getD ""),
      ("card_title", values.cardTitle.getD ""),
      ("card_status", values.cardStatus.getD ""),
      ("peer_name", values.peerName.getD "")]
  strip (entries.foldl
    (fun rendered entry =>
      replaceAll ("\x7b" ++ entry.1 ++ "\x7d") entry.2 rendered) template)

structure DeliveryPreparePayload where
  receiverUserId : String
  templateId : Option String := none
  content : Option String := none
  cardId : Option String := none
  sourceMessagePk : Option String := none
  itemId : Option String := none
  orderId : Option String := none
  peerName : Option String := none

def enabledTemplate (catalogue : Catalogue) (accountId templateId : String) :
    Option DeliveryTemplate :=
  (catalogue.templates.find? fun template => template.templateId = templateId).filter
    fun template => template.accountId = accountId && template.enabled

def deliveryCard (catalogue : Catalogue) (accountId conversationId cardId : String) :
    Option MessageCard :=
  (catalogue.cards.find? fun card => card.cardId = cardId).filter fun card =>
    card.accountId = accountId && card.conversationId = conversationId &&
      (card.cardType ≠ "order" || isDeliveryOrderStatusAllowed card.status)

/-- An optional reference of a payload: absent when it is not set, and `none`
as a whole when it is set and not found. -/
def resolve {Value : Type} (reference : Option String) (find : String → Option Value) :
    Option (Option Value) :=
  if truthy reference then (find (reference.getD "")).map some else some none

/-- The checks of `_prepare_delivery_record_sync` and the record it inserts. -/
def draftDeliveryRecord (catalogue : Catalogue) (records : DeliveryTable)
    (accountId conversationId : String) (payload : DeliveryPreparePayload)
    (recordId : String) (now : ℕ) : Option DeliveryRecord := do
  guard (accountId ∈ catalogue.accounts)
  let template ← resolve payload.templateId (enabledTemplate catalogue accountId)
  let card ← resolve payload.cardId (deliveryCard catalogue accountId conversationId)
  let sourceMessagePk :=
    orElse payload.sourceMessagePk (card.elim payload.sourceMessagePk fun card =>
      some card.messagePk)
  let itemId := orElse payload.itemId (card.elim payload.itemId MessageCard.itemId)
  let orderId := orElse payload.orderId (card.elim payload.orderId MessageCard.orderId)
  let cardId := card.elim payload.cardId fun card => some card.cardId
  guard (!hasActiveDeliveryRecord records accountId conversationId cardId orderId itemId
    none)
  let content :=
    match template with
    | none => payload.content.getD ""
    | some template =>
        renderDeliveryTemplate template.content
          { receiverUserId := payload.receiverUserId
            conversationId := conversationId
            itemId := itemId
            orderId := orderId
            cardTitle := card.bind MessageCard.title
            cardStatus := card.bind MessageCard.status
            peerName := payload.peerName }
  guard (strip content ≠ "")
  pure
    { recordId := recordId
      accountId := accountId
      conversationId := conversationId
      receiverUserId := payload.receiverUserId
      templateId := template.elim payload.templateId fun template =>
        some template.templateId
      cardId := cardId
      sourceMessagePk := sourceMessagePk
      itemId := itemId
      orderId := orderId
      content := content
      createdAt := now
      updatedAt := now }

/-- The template of `_resolve_order_delivery_template` without an id: the first
enabled one by priority and age. -/
def firstTemplate (catalogue : Catalogue) (accountId : String) :
    Option DeliveryTemplate :=
  ((catalogue.templates.filter fun template =>
    template.accountId = accountId && template.enabled).mergeSort fun left right =>
      left.priority < right.priority ||
        (left.priority = right.priority && left.createdAt ≤ right.createdAt)).head?

def renderOrderDeliveryContent (order : OrderRow) (template : Option DeliveryTemplate)
    (contentOverride : Option String) : String :=
  if truthy contentOverride then strip (contentOverride.getD "")
  else
    match template with
    | none => ""
    | some template =>
        renderDeliveryTemplate template.content
          { receiverUserId := order.peerUserId.getD ""
            conversationId := order.conversationId
            itemId := order.itemId
            orderId := order.platformOrderId
            cardTitle := order.title
            cardStatus := order.statusText
            peerName := order.peerName }

def orderDeliveryReasons (records : DeliveryTable) (order : OrderRow)
    (content : String) : List String :=
  let reason := fun (fails : Bool) (text : String) => if fails then [text] else []
  reason (order.status ≠ .paidWaitingDelivery)
      ("订单当前不是待发货状态：" ++
        (orElse order.statusText (some order.status.text)).getD "") ++
    reason (order.tradeRole ≠ some .seller || order.dataSource ≠ some "seller_sold")
      "订单尚未经过闲鱼已售订单接口确认" ++
    reason (!truthy order.peerUserId) "订单缺少可验证的买家标识" ++
    reason (!truthy order.platformOrderId) "订单缺少平台订单号" ++
    reason (strip content = "") "请先选择发货模板或填写发送内容" ++
    reason (hasActiveDeliveryRecord records order.accountId order.conversationId none
        order.platformOrderId order.itemId none)
      "该订单已有待发送或已发送的发货记录"

structure OrderDeliveryPreviewRequest where
  templateId : Option String := none
  content : Option String := none

/-- The checks of `_prepare_order_delivery_sync` and the record it inserts. -/
def draftOrderDelivery (catalogue : Catalogue) (records : DeliveryTable)
    (orderPk : String) (payload : OrderDeliveryPreviewRequest) (recordId : String)
    (now : ℕ) : Option DeliveryRecord := do
  let order ← catalogue.orders.get orderPk
  let chosen ← resolve payload.templateId (enabledTemplate catalogue order.accountId)
  let template := chosen.orElse fun _ => firstTemplate catalogue order.accountId
  let content := renderOrderDeliveryContent order template payload.content
  guard (orderDeliveryReasons records order content = [])
  pure
    { recordId := recordId
      orderPk := some order.orderPk
      accountId := order.accountId
      conversationId := order.conversationId
      receiverUserId := order.peerUserId.getD ""
      templateId := template.map DeliveryTemplate.templateId
      sourceMessagePk := order.sourceMessagePk
      itemId := order.itemId
      orderId := order.platformOrderId
      content := content
      createdAt := now
      updatedAt := now }

/-- The `WHERE` clause of the claim. -/
def isClaimable (accountId recordId : String) (record : DeliveryRecord) : Bool :=
  record.recordId = recordId && record.accountId = accountId &&
    (record.status = .pending || record.status = .failed)

/-- The row `_claim_delivery_record_for_send_sync` writes. -/
def claimed (now : ℕ) (record : DeliveryRecord) : DeliveryRecord :=
  { record with
    status := .sending
    sendError := none
    updatedAt := now }

/-- `_claim_delivery_record_for_send_sync`; `none` when no row is claimed. -/
def claimDeliveryRecord (records : DeliveryTable) (accountId recordId : String)
    (now : ℕ) : Option DeliveryTable :=
  if records.rows.any (isClaimable accountId recordId) then
    some (records.write
      (fun record => if isClaimable accountId recordId record then
        some (claimed now record) else none) (by
      intro record next hwrite
      split at hwrite
      · rw [← Option.some.inj hwrite]
        rfl
      · cases hwrite))
  else none

/-- `normalized_status` of `_update_delivery_record_after_send_sync`. -/
def normalizedSendStatus (status : String) : DeliveryStatus :=
  if status = "sent" then .sent
  else if status = "failed" then .failed
  else if status = "cancelled" then .cancelled
  else .uncertain

/-- The arguments of `_update_delivery_record_after_send_sync`. -/
structure SendOutcome where
  status : String
  sendMessagePk : Option String := none
  sendError : Option String := none

def isSending (accountId recordId : String) (record : DeliveryRecord) : Bool :=
  record.recordId = recordId && record.accountId = accountId &&
    record.status = .sending

/-- The row `_update_delivery_record_after_send_sync` writes. -/
def afterSend (outcome : SendOutcome) (now : ℕ) (record : DeliveryRecord) :
    DeliveryRecord :=
  { record with
    status := normalizedSendStatus outcome.status
    sendMessagePk := outcome.sendMessagePk
    sendError := outcome.sendError
    sentAt := if normalizedSendStatus outcome.status = .sent then some now else none
    updatedAt := now }

/-- `_update_delivery_record_after_send_sync`; `none` when no row is updated. -/
def updateAfterSend (records : DeliveryTable) (accountId recordId : String)
    (outcome : SendOutcome) (now : ℕ) : Option DeliveryTable :=
  if records.rows.any (isSending accountId recordId) then
    some (records.write
      (fun record => if isSending accountId recordId record then
        some (afterSend outcome now record) else none) (by
      intro record next hwrite
      split at hwrite
      · rw [← Option.some.inj hwrite]
        rfl
      · cases hwrite))
  else none

end XianyuAdmin.Delivery
