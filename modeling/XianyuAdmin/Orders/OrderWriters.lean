import XianyuAdmin.Orders.Headinfo

/-!
# The other writers of an order

Besides the header, an order is written from its detail page, from the pages
that offer shipping methods and refund decisions, and from the trade cards and
tips among the messages of a conversation.
-/

namespace XianyuAdmin.Orders

open XianyuAdmin.Python

variable (library : PythonLibrary)

structure OrderDetailSnapshot where
  itemId : String := ""
  buyerId : String := ""
  price : String := ""
  quantity : ℕ := 1
  status : OrderStatus := .unknown
  statusText : String := ""
  platformStatus : String := ""
  receiverName : String := ""
  receiverPhone : String := ""
  receiverAddress : String := ""
  isBargain : Bool := false
  rawResponse : List (String × Json) := []

def detailSetsStatus (snapshot : OrderDetailSnapshot) (row : OrderRow) : Bool :=
  let staleDowngrade := row.status.isFinished && snapshot.status.isEarly
  snapshot.status ≠ .unknown && !staleDowngrade

/-- The assignments of `_apply_order_detail_snapshot_sync`. -/
def applyDetail (snapshot : OrderDetailSnapshot) (now : ℕ) (row : OrderRow) :
    OrderRow :=
  let setsStatus := detailSetsStatus snapshot row
  { row with
    status := if setsStatus then snapshot.status else row.status
    statusText :=
      if setsStatus then textOr snapshot.statusText row.statusText
      else row.statusText
    platformStatus :=
      if setsStatus then textOr snapshot.platformStatus row.platformStatus
      else row.platformStatus
    itemId := textOr snapshot.itemId row.itemId
    peerUserId := textOr snapshot.buyerId row.peerUserId
    buyerUserId := textOr snapshot.buyerId row.buyerUserId
    price := textOr snapshot.price row.price
    quantity := if snapshot.quantity ≠ 0 then some snapshot.quantity else row.quantity
    receiverName := textOr snapshot.receiverName row.receiverName
    receiverPhone := textOr snapshot.receiverPhone row.receiverPhone
    receiverAddress := textOr snapshot.receiverAddress row.receiverAddress
    isBargain := snapshot.isBargain || row.isBargain
    platformConfirmed := true
    syncState := .confirmed
    lastDetailSyncedAt := some now
    lastSyncedAt := some now
    syncError := none
    rawSummary :=
      if snapshot.rawResponse.isEmpty then row.rawSummary
      else
        some (.obj
          [("source", .str "order_detail"), ("response", .obj snapshot.rawResponse)])
    updatedAt := now }

theorem applyDetail_status (snapshot : OrderDetailSnapshot) (now : ℕ)
    (row : OrderRow) :
    (applyDetail snapshot now row).status =
      if detailSetsStatus snapshot row then snapshot.status else row.status := by
  simp only [applyDetail]

/-- The event a writer logs for a change to `row`, which is the order after the
change. -/
def changeEvent (row : OrderRow) (eventPk messagePk eventType : String)
    (statusText : Option String) (summary : List (String × Json)) (now : ℕ) :
    OrderEvent where
  eventPk := eventPk
  orderPk := some row.orderPk
  accountId := row.accountId
  conversationId := row.conversationId
  messagePk := messagePk
  platformOrderId := row.platformOrderId
  itemId := row.itemId
  eventType := eventType
  status := row.status
  statusText := statusText
  rawSummary := some (.obj summary)
  createdAt := now

/-- The two identifiers `uuid4` supplies for a logged event. -/
structure EventIds where
  eventPk : String
  messageUuid : String

/-- `_apply_order_detail_snapshot_sync`: the store, and whether the order
exists. -/
def applyOrderDetailSnapshot (store : OrderStore) (orderPk : String)
    (snapshot : OrderDetailSnapshot) (ids : EventIds) (now : ℕ) :
    OrderStore × Option String :=
  match store.get orderPk with
  | none => (store, none)
  | some row =>
      let written := store.updateOrder orderPk (applyDetail snapshot now)
        fun _ => orderKeys_congr rfl rfl rfl
      let after := applyDetail snapshot now row
      (if after.status = row.status then written
        else
          written.addEvent (changeEvent after ids.eventPk
            ("detail:" ++ ids.messageUuid) "platform_detail" after.statusText
            [("source", .str "order_detail"),
              ("previous_status", .str row.status.text)] now),
        some orderPk)

variable {store : OrderStore}

theorem get_applyOrderDetailSnapshot {orderPk : String} {row : OrderRow}
    (hrow : store.get orderPk = some row) (snapshot : OrderDetailSnapshot) (ids : EventIds)
    (now : ℕ) (other : String) :
    (applyOrderDetailSnapshot store orderPk snapshot ids now).1.get other =
      if other = orderPk then (store.get other).map (applyDetail snapshot now)
      else store.get other := by
  simp only [applyOrderDetailSnapshot, hrow]
  split
  · exact OrderStore.get_updateOrder _ _ _ _ _
  · exact (OrderStore.get_addEvent _ _ _).trans
      (OrderStore.get_updateOrder _ _ _ _ _)

/-- `_apply_order_shipping_options_sync` on the row. -/
def applyShippingOptions (rawData : List (String × Json)) (now : ℕ)
    (row : OrderRow) : OrderRow :=
  let methods := (Json.get rawData "idleLogisticTypes").asList.map fun item =>
    upper (strip item.textOrEmpty)
  let sender := (Json.get rawData "senderAddressInfo").asObject
  let context :=
    [("sender_address_id", Json.stringValue
        ((Json.get sender "addressId").or (Json.get sender "deliverId"))),
      ("biz_identity", Json.stringValue (Json.get rawData "bizIdentity"))]
  { row with
    platformShippingMethods := sortedSet (methods.filter (· ≠ ""))
    platformShippingContext := context.filterMap fun entry =>
      entry.2.map fun value => (entry.1, value)
    lastSyncedAt := some now
    updatedAt := now }

def applyOrderShippingOptions (store : OrderStore) (orderPk : String)
    (rawData : List (String × Json)) (now : ℕ) : OrderStore × Option String :=
  match store.get orderPk with
  | none => (store, none)
  | some _ =>
      (store.updateOrder orderPk (applyShippingOptions rawData now)
          fun _ => orderKeys_congr rfl rfl rfl,
        some orderPk)

def agreeRefundCodes : List String :=
  ["agreerefundapply", "sellerconfirm", "agreerefundapplyforhmos",
    "agreerefundapplyforwxapplet"]

def ownRefundActions (members : List (String × Json)) : List String :=
  let code := lower (strip (Json.get members "code").textOrEmpty)
  let name := strip (Json.get members "name").textOrEmpty
  (if code ∈ agreeRefundCodes ∨ contains "同意退款" name then ["AGREE_REFUND"]
    else []) ++
    (if code = "rejectapply" ∨ containsAny ["拒绝申请", "拒绝退款"] name then
      ["REFUSE_REFUND"] else [])

mutual

/-- `visit` of `_refund_detail_actions`. -/
def refundActions : Json → List String
  | .obj members => ownRefundActions members ++ refundActionsOfMembers members
  | .arr items => refundActionsOfItems items
  | .null | .bool _ | .int _ | .float _ | .str _ => []

def refundActionsOfItems : List Json → List String
  | [] => []
  | item :: items => refundActions item ++ refundActionsOfItems items

def refundActionsOfMembers : List (String × Json) → List String
  | [] => []
  | (_, value) :: members => refundActions value ++ refundActionsOfMembers members

end

def refundDetailStatus (rawData : List (String × Json)) (actions : List String)
    (current : Option String) : Option String :=
  let rawText := lower (Json.dumps (.obj rawData))
  if containsAny ["退款成功", "已退款"] rawText then some "refunded"
  else if containsAny ["拒绝退款成功", "已拒绝退款", "退款关闭"] rawText then
    some "rejected"
  else if meets actions ["AGREE_REFUND", "REFUSE_REFUND"] then some "pending"
  else if strip (Json.get rawData "refundStatus").textOrEmpty = "1" then
    some "pending"
  else current

/-- The assignments of `_apply_order_refund_detail_sync`. -/
def applyRefundDetail (rawData : List (String × Json)) (now : ℕ) (row : OrderRow) :
    OrderRow :=
  let actions := refundActions (.obj rawData)
  { row with
    refundId := orElse (Json.stringValue (Json.get rawData "refundId")) row.refundId
    refundStatus := refundDetailStatus rawData actions row.refundStatus
    platformRefundActions := sortedSet actions
    refundRefuseOptions :=
      if "REFUSE_REFUND" ∈ actions then row.refundRefuseOptions else []
    lastSyncedAt := some now
    updatedAt := now }

theorem orderKeys_applyRefundDetail (rawData : List (String × Json)) (now : ℕ)
    (row : OrderRow) : orderKeys (applyRefundDetail rawData now row) = orderKeys row := by
  simp only [applyRefundDetail, orderKeys]

def applyOrderRefundDetail (store : OrderStore) (orderPk : String)
    (rawData : List (String × Json)) (ids : EventIds) (now : ℕ) :
    OrderStore × Option String :=
  match store.get orderPk with
  | none => (store, none)
  | some row =>
      let written := store.updateOrder orderPk (applyRefundDetail rawData now)
        (orderKeys_applyRefundDetail rawData now)
      let after := applyRefundDetail rawData now row
      let text := (orElse after.refundStatus (some "未知")).getD ""
      (if after.refundStatus = row.refundStatus then written
        else
          written.addEvent (changeEvent after ids.eventPk
            ("refund:" ++ ids.messageUuid) "platform_refund_detail"
            (some ("退款状态：" ++ text))
            [("source", .str "refund_detail"),
              ("previous_refund_status", row.refundStatus.elim .null .str),
              ("refund_status", after.refundStatus.elim .null .str)] now),
        some orderPk)

def refuseOption (rawData proof : List (String × Json)) (item : Json) :
    Option Json :=
  match item with
  | .obj members =>
      match Json.stringValue (Json.get members "refuseReasonId"),
          Json.stringValue (Json.get members "reasonName") with
      | some reasonId, some name =>
          some (.obj
            [("id", .str reasonId), ("name", .str name),
              ("proof_required", .bool (Json.get proof "mustProof").isTrue),
              ("proof_type",
                (Json.stringValue (Json.get proof "bizType")).elim .null .str),
              ("has_negotiation", .bool
                (match Json.get rawData "refuseNegotiation" with
                | .obj _ => true
                | _ => false))])
      | _, _ => none
  | _ => none

/-- `_apply_order_refuse_options_sync` on the row. -/
def applyRefuseOptions (rawData : List (String × Json)) (now : ℕ) (row : OrderRow) :
    OrderRow :=
  let proof := (Json.get rawData "refuseProof").asObject
  { row with
    refundRefuseOptions := (Json.get rawData "refuseReasonList").asList.filterMap
      (refuseOption rawData proof)
    lastSyncedAt := some now
    updatedAt := now }

def applyOrderRefuseOptions (store : OrderStore) (orderPk : String)
    (rawData : List (String × Json)) (now : ℕ) : OrderStore × Option String :=
  match store.get orderPk with
  | none => (store, none)
  | some _ =>
      (store.updateOrder orderPk (applyRefuseOptions rawData now)
          fun _ => orderKeys_congr rfl rfl rfl,
        some orderPk)

/-- `ParsedOrderEvent`, what `parse_order_event` reads from a message. -/
structure ParsedOrderEvent where
  eventType : String
  status : OrderStatus
  statusText : String
  orderId : Option String := none
  itemId : Option String := none
  title : Option String := none
  price : Option String := none
  imageUrl : Option String := none
  peerUserId : Option String := none
  tradeRole : TradeRole := .unknown
  rawSummary : Option (List (String × Json)) := none

structure EventMessage where
  accountId : String
  messagePk : String
  conversationId : String
  peerUserId : Option String := none
  peerName : Option String := none
  itemId : Option String := none
  createdAt : ℕ

def existingEvent (store : OrderStore) (message : EventMessage) :
    Option OrderEvent :=
  store.events.find? fun event =>
    event.accountId = message.accountId && event.messagePk = message.messagePk

def eventCandidates (store : OrderStore) (message : EventMessage)
    (parsed : ParsedOrderEvent) : List OrderRow :=
  store.orders.rows.filter fun order =>
    order.accountId = message.accountId &&
      order.conversationId = message.conversationId &&
      (!truthy parsed.itemId || order.itemId = parsed.itemId)

def eventOrder (store : OrderStore) (message : EventMessage)
    (parsed : ParsedOrderEvent) : Option OrderRow :=
  let logged := ((existingEvent store message).bind OrderEvent.orderPk).filter (· ≠ "")
  match logged.bind store.get with
  | some order => some order
  | none =>
      if truthy parsed.orderId then
        store.byPlatformId message.accountId (parsed.orderId.getD "")
      else
        match eventCandidates store message parsed with
        | [order] => some order
        | _ => none

/-- `str(parsed_source or "message")` for an order that is not stored yet. -/
def eventSource (parsed : ParsedOrderEvent) : String :=
  let source :=
    match parsed.rawSummary with
    | some summary => Json.get summary "source"
    | none => .str "message"
  (source.or (.str "message")).textOrEmpty

/-- The order `_upsert_order_event` inserts. -/
def eventNewOrder (message : EventMessage) (parsed : ParsedOrderEvent)
    (orderPk : String) : OrderRow where
  orderPk := orderPk
  accountId := message.accountId
  platformOrderId := parsed.orderId
  tradeRole := some parsed.tradeRole
  dataSource := some (eventSource parsed)
  firstSeenSource := some (eventSource parsed)
  platformConfirmed := false
  syncState := .provisional
  conversationId := message.conversationId
  peerUserId := orElse parsed.peerUserId message.peerUserId
  peerName := message.peerName
  itemId := orElse parsed.itemId message.itemId
  title := parsed.title
  price := parsed.price
  imageUrl := parsed.imageUrl
  status := parsed.status
  statusText := some parsed.statusText
  sourceMessagePk := some message.messagePk
  lastEventAt := some message.createdAt
  rawSummary := parsed.rawSummary.map .obj
  createdAt := message.createdAt
  updatedAt := message.createdAt

def eventSetsStatus (parsed : ParsedOrderEvent) (order : OrderRow) : Bool :=
  let preserveSellerSource := order.dataSource = some "seller_sold"
  parsed.status ≠ .unknown &&
    !(order.status.isRefund && !parsed.status.isRefund) &&
    (!preserveSellerSource || parsed.tradeRole = .seller)

/-- The assignments of `_upsert_order_event` to a stored order. -/
def applyOrderEvent (message : EventMessage) (parsed : ParsedOrderEvent)
    (order : OrderRow) : OrderRow :=
  let preserveConfirmedSource := order.headinfoConfirmedAt.isSome ||
    order.dataSource ∈ [some "seller_sold", some "buyer_bought", some "headinfo"]
  let peerUserId :=
    orElse (orElse parsed.peerUserId message.peerUserId) order.peerUserId
  { order with
    tradeRole :=
      if !preserveConfirmedSource &&
          (parsed.tradeRole ≠ .unknown || order.tradeRole.isNone) then
        some parsed.tradeRole
      else order.tradeRole
    dataSource :=
      match preserveConfirmedSource, parsed.rawSummary with
      | false, some summary =>
          some (((Json.get summary "source").or
            (.str ((orElse order.dataSource (some "message")).getD ""))).textOrEmpty)
      | _, _ => order.dataSource
    peerUserId := peerUserId
    peerName := mergePeerName library order.peerName message.peerName peerUserId
    itemId := orElse (orElse parsed.itemId message.itemId) order.itemId
    title := orElse parsed.title order.title
    price := orElse parsed.price order.price
    imageUrl :=
      if truthy parsed.imageUrl then parsed.imageUrl
      else if containsAny ["fm-downlaod", "tradeExperience"]
          (order.imageUrl.getD "") then none
      else order.imageUrl
    status := if eventSetsStatus parsed order then parsed.status else order.status
    statusText :=
      if preserveConfirmedSource then order.statusText
      else textOr parsed.statusText order.statusText
    sourceMessagePk := some message.messagePk
    lastEventAt := some message.createdAt
    rawSummary :=
      if preserveConfirmedSource then order.rawSummary
      else (parsed.rawSummary.map Json.obj).orElse fun _ => order.rawSummary
    updatedAt := message.createdAt }

theorem applyOrderEvent_status (message : EventMessage) (parsed : ParsedOrderEvent)
    (order : OrderRow) :
    (applyOrderEvent library message parsed order).status =
      if eventSetsStatus parsed order then parsed.status else order.status := by
  simp only [applyOrderEvent]

def logOrderEvent (events : List OrderEvent) (message : EventMessage)
    (parsed : ParsedOrderEvent) (orderPk : Option String) (eventPk : String) :
    List OrderEvent :=
  let isLogged := fun event : OrderEvent =>
    event.accountId = message.accountId && event.messagePk = message.messagePk
  if events.any isLogged then
    events.map fun event =>
      if isLogged event then
        { event with
          orderPk := orderPk
          platformOrderId := parsed.orderId
          itemId := orElse parsed.itemId message.itemId
          eventType := parsed.eventType
          status := parsed.status
          statusText := some parsed.statusText
          rawSummary := parsed.rawSummary.map .obj }
      else event
  else
    events ++
      [{ eventPk := eventPk
         orderPk := orderPk
         accountId := message.accountId
         conversationId := message.conversationId
         messagePk := message.messagePk
         platformOrderId := parsed.orderId
         itemId := orElse parsed.itemId message.itemId
         eventType := parsed.eventType
         status := parsed.status
         statusText := some parsed.statusText
         rawSummary := parsed.rawSummary.map .obj
         createdAt := message.createdAt }]

/-- `_upsert_order_event`; `none` when a unique index refuses the new order. -/
def upsertOrderEvent (store : OrderStore) (message : EventMessage)
    (parsed : ParsedOrderEvent) (newPk eventPk : String) : Option OrderStore :=
  let log := fun (written : OrderStore) (orderPk : Option String) =>
    { written with
      events := logOrderEvent written.events message parsed orderPk eventPk }
  match eventOrder store message parsed with
  | some order =>
      let written := store.updateOrder order.orderPk
        (applyOrderEvent library message parsed) fun _ => orderKeys_congr rfl rfl rfl
      some (log written (some order.orderPk))
  | none =>
      if truthy parsed.orderId then
        (store.insertOrder (eventNewOrder message parsed newPk)).map fun written =>
          log written (some newPk)
      else some (log store none)

variable {message : EventMessage} {parsed : ParsedOrderEvent}

theorem eventOrder_mem {order : OrderRow} (horder : eventOrder store message parsed = some order) :
    order ∈ store.orders.rows := by
  simp only [eventOrder] at horder
  split at horder
  · rename_i logged hlogged
    rw [← Option.some.inj horder]
    obtain ⟨orderPk, -, hget⟩ := Option.bind_eq_some_iff.mp hlogged
    exact (OrderStore.get_eq_some_iff.mp hget).1
  · split at horder
    · exact (OrderStore.byPlatformId_eq_some_iff.mp horder).1
    · split at horder
      · rename_i only hcandidates
        rw [← Option.some.inj horder]
        have hmem : only ∈ eventCandidates store message parsed := by
          rw [hcandidates]
          exact List.mem_singleton_self _
        exact List.mem_of_mem_filter hmem
      · cases horder

theorem get_upsertOrderEvent {order : OrderRow}
    (horder : eventOrder store message parsed = some order) (newPk eventPk : String) :
    ∃ written, upsertOrderEvent library store message parsed newPk eventPk =
        some written ∧
      ∀ other, written.get other =
        if other = order.orderPk then
          (store.get other).map (applyOrderEvent library message parsed)
        else store.get other := by
  simp only [upsertOrderEvent, horder]
  exact ⟨_, rfl, fun other => OrderStore.get_updateOrder store order.orderPk other
    (applyOrderEvent library message parsed) fun _ => orderKeys_congr rfl rfl rfl⟩

theorem get_upsertOrderEvent_of_new {written : OrderStore} {newPk eventPk : String}
    (horder : eventOrder store message parsed = none)
    (hupsert : upsertOrderEvent library store message parsed newPk eventPk = some written)
    {other : String} {row : OrderRow} (hrow : store.get other = some row) :
    written.get other = some row := by
  simp only [upsertOrderEvent, horder] at hupsert
  split at hupsert
  · obtain ⟨inserted, hinsert, rfl⟩ := Option.map_eq_some_iff.mp hupsert
    have hother : newPk ≠ other := by
      rintro rfl
      rw [show store.get newPk = none from
        OrderStore.get_eq_none_of_insertOrder hinsert] at hrow
      cases hrow
    exact (OrderStore.get_insertOrder hinsert other).trans
      ((if_neg hother).trans hrow)
  · rw [← Option.some.inj hupsert]
    exact hrow

end XianyuAdmin.Orders
