import XianyuAdmin.Orders.OrderRows

/-!
# The header of a conversation

The platform shows a header above a conversation that describes one order: its
id, its buyer, its item, its state and the actions it allows.  The header need
not describe the order it was asked for, so the transaction that stores it
writes to the order the header names and creates that order when it is new.
-/

namespace XianyuAdmin.Orders

open XianyuAdmin.Python

/-- `json.loads`, the NFKC casefold and `urlsplit`. -/
abbrev PythonLibrary := Library Json

def plainLibrary : PythonLibrary where
  loads := fun _ => none
  nfkc := id
  casefold := lower
  httpsHost := fun _ => none

variable (library : PythonLibrary)

def noticeTitles : List String :=
  ["你有一条新消息", "你有新的消息", "您有一条新消息", "发来一条新消息",
    "闲鱼新消息", "闲鱼消息", "交易消息", "系统消息", "快给ta一个评价吧~",
    "我完成了评价", "卖家人不错?送ta闲鱼小红花", "可以送ta闲鱼小红花吗~",
    "买家已拍下,待付款", "等待您发货", "等待你发货", "我发起了退款申请",
    "我将「退货退款」修改为「退款」", "闲鱼游戏交易安全提醒"]

def normalizePeerName (value peerUserId : Option String) : Option String :=
  match value.bind stripOrNone with
  | none => none
  | some name =>
      let comparable := library.casefold (strip (library.nfkc name))
      if comparable ∈ noticeTitles then none
      else
        match peerUserId with
        | none => some name
        | some peer =>
            if peer ≠ "" ∧ comparable = library.casefold (strip peer) then none
            else some name

def mergePeerName (current candidate peerUserId : Option String) : Option String :=
  (normalizePeerName library candidate peerUserId).orElse fun _ =>
    normalizePeerName library current peerUserId

/-- `section(name)`: the object under `name`, or the object in its `data`. -/
def headinfoSection (rawData : List (String × Json)) (name : String) :
    List (String × Json) :=
  match Json.get rawData name with
  | .obj members =>
      match Json.get members "data" with
      | .obj nested => nested
      | _ => members
  | _ => []

def headinfoOrderId (rawData : List (String × Json)) : Option String :=
  let common := headinfoSection rawData "commonData"
  Json.stringValue ((Json.get common "orderId").or (Json.get common "bizOrderId"))

/-- `str(button.get("tradeAction") or "").strip().upper()`. -/
def tradeAction (button : List (String × Json)) : String :=
  upper (strip (Json.get button "tradeAction").textOrEmpty)

def headinfoButtons (right : List (String × Json)) :
    List (List (String × Json)) :=
  (Json.get right "btnList").asList.filterMap fun button =>
    match button with
    | .obj members => some members
    | _ => none

def headinfoCapabilities (right : List (String × Json)) : List String :=
  ((headinfoButtons right).map tradeAction).filter (· ≠ "")

def actionHosts : List String :=
  ["h5.m.goofish.com", "www.goofish.com", "seller.goofish.com"]

def headinfoActionLink (button : List (String × Json)) : Option (String × String) :=
  let action := tradeAction button
  match Json.get (Json.get button "clickEvent").asObject "data" with
  | .obj data =>
      let target := strip (((Json.get data "url").or (Json.get data "targetUrl")).or
        (Json.get data "jumpUrl")).textOrEmpty
      if action = "" ∨ target = "" then none
      else
        match library.httpsHost target with
        | none => none
        | some host =>
            if host ∈ actionHosts then
              some (action, String.ofList (target.toList.take 2000))
            else none
  | _ => none

/-- `links[action] = target` on a `dict`. -/
def setLink (links : List (String × String)) (link : String × String) :
    List (String × String) :=
  if links.any fun stored => stored.1 = link.1 then
    links.map fun stored => if stored.1 = link.1 then link else stored
  else links ++ [link]

def headinfoActionLinks (right : List (String × Json)) : List (String × String) :=
  ((headinfoButtons right).filterMap (headinfoActionLink library)).foldl setLink []

/-- `_normalize_headinfo_status` on the printed header. -/
def normalizeHeadinfoStatus (rawText : String) : OrderStatus :=
  let normalized := lower rawText
  if containsAny ["交易关闭", "订单关闭", "已关闭"] normalized then .closed
  else if containsAny ["交易成功", "已完成", "\"rate\""] normalized then .completed
  else if containsAny ["确认收货", "提醒收货", "remind_confirm"] normalized then
    .shipped
  else if containsAny ["待发货", "等待卖家发货", "logistics_send"] normalized then
    .paidWaitingDelivery
  else if containsAny ["待付款", "立即付款", "\"pay\""] normalized then
    .pendingPayment
  else .unknown

def headinfoStatusText (middle : List (String × Json)) : Option String :=
  Json.stringValue (((Json.get middle "subTitle").or (Json.get middle "title")).or
    (Json.get middle "statusText"))

def sellerHeadinfoActions : List String :=
  ["CLOSE_ORDER", "DEAL_REFUND", "LOGISTICS_SEND", "MODIFY_PRICE", "RATE",
    "REMIND_BUYER_TO_CONFIRM", "SELLER_DELAY_CONFIRM", "VIEW_CASH",
    "VIEW_LOGISTICS", "VIEW_RATE", "VIEW_REFUND"]

def buyerHeadinfoActions : List String :=
  ["BUYER_CONFIRM", "BUY_NOW", "DELAY_TIMEOUT", "PAY", "RATE", "REFUND",
    "REMIND_SELLER_TO_SEND"]

def meets (capabilities actions : List String) : Bool :=
  capabilities.any fun capability => capability ∈ actions

def headinfoStatus (rawData : List (String × Json)) : OrderStatus :=
  normalizeHeadinfoStatus (Json.dumps (.obj rawData))

def headinfoSetsStatus (rawData : List (String × Json)) (target : OrderRow) : Bool :=
  let status := headinfoStatus rawData
  let preserveSellerSource := target.dataSource = some "seller_sold"
  let staleHeadinfoDowngrade := target.status.isFinished && status.isEarly
  status ≠ .unknown && (!preserveSellerSource || status.isRefund) &&
    !staleHeadinfoDowngrade

def headinfoTradeRole (capabilities : List String) (role : Option TradeRole) :
    Option TradeRole :=
  match role with
  | some .seller => some .seller
  | some .buyer => some .buyer
  | role =>
      if meets capabilities sellerHeadinfoActions then some .seller
      else if meets capabilities buyerHeadinfoActions then some .buyer
      else role

/-- The assignments of `_apply_order_headinfo_sync` to the order it writes. -/
def applyHeadinfo (rawData : List (String × Json)) (now : ℕ) (target : OrderRow) :
    OrderRow :=
  let common := headinfoSection rawData "commonData"
  let left := headinfoSection rawData "left"
  let middle := headinfoSection rawData "middle"
  let right := headinfoSection rawData "right"
  let platformOrderId := headinfoOrderId rawData
  let buyer := (Json.get common "buyer").asObject
  let itemPreInfo :=
    (((Json.get common "itemPreInfo").asString?.bind library.loads).getD
      .null).asObject
  let capabilities := headinfoCapabilities right
  let status := headinfoStatus rawData
  let statusText := headinfoStatusText middle
  let itemId := orElse (Json.stringValue (Json.get common "itemId")) target.itemId
  let peerUserId :=
    orElse (Json.stringValue ((Json.get buyer "userId").or (Json.get buyer "id")))
      target.peerUserId
  let tradeRole := headinfoTradeRole capabilities target.tradeRole
  let preserveSellerSource := target.dataSource = some "seller_sold"
  let setsStatus := headinfoSetsStatus rawData target
  let confirms := platformOrderId.isSome && tradeRole = some .seller
  { target with
    platformOrderId := orElse platformOrderId target.platformOrderId
    itemId := itemId
    peerUserId := peerUserId
    peerName := mergePeerName library target.peerName
      (Json.stringValue (((Json.get buyer "userNick").or (Json.get buyer "nick")).or
        (Json.get buyer "name"))) peerUserId
    title := orElse (Json.stringValue (((Json.get itemPreInfo "title").or
      (Json.get middle "title")).or (Json.get common "itemTitle"))) target.title
    price := orElse (Json.stringValue (Json.get middle "price")) target.price
    imageUrl := orElse (Json.stringValue ((Json.get left "picUrl").or
      (Json.get left "imageUrl"))) target.imageUrl
    tradeRole := tradeRole
    status := if setsStatus then status else target.status
    statusText :=
      if setsStatus then orElse statusText target.statusText else target.statusText
    platformStatus :=
      if setsStatus then orElse statusText target.platformStatus
      else target.platformStatus
    refundStatus :=
      if "DEAL_REFUND" ∈ capabilities then some "pending"
      else if status ≠ .unknown ∧ "VIEW_REFUND" ∉ capabilities ∧
          target.refundStatus = some "pending" then none
      else target.refundStatus
    platformConfirmed := confirms || target.platformConfirmed
    syncState := if confirms then .confirmed else target.syncState
    headinfoConfirmedAt := if confirms then some now else target.headinfoConfirmedAt
    platformCapabilities := sortedSet capabilities
    platformActionLinks := headinfoActionLinks library right
    lastSyncedAt := some now
    dataSource :=
      if preserveSellerSource then target.dataSource else some "headinfo"
    rawSummary :=
      if preserveSellerSource then target.rawSummary
      else
        some (.obj
          [("source", .str "headinfo"),
            ("commonData", .obj
              [("orderId", platformOrderId.elim .null .str),
                ("itemId", itemId.elim .null .str),
                ("supportPCTrade", Json.get common "supportPCTrade"),
                ("itemTitle", Json.get itemPreInfo "title")]),
            ("middle", .obj middle), ("right", .obj right)])
    updatedAt := now }

/-- The row `_apply_order_headinfo_sync` inserts for an order it does not know
yet. -/
def headinfoOrder (source : OrderRow) (platformOrderId : Option String)
    (orderPk : String) (now : ℕ) : OrderRow where
  orderPk := orderPk
  accountId := source.accountId
  platformOrderId := platformOrderId
  tradeRole := source.tradeRole
  dataSource := source.dataSource
  firstSeenSource := source.firstSeenSource
  conversationId := source.conversationId
  peerUserId := source.peerUserId
  peerName := source.peerName
  itemId := source.itemId
  status := .unknown
  createdAt := now
  updatedAt := now

def headinfoTarget (store : OrderStore) (source : OrderRow)
    (rawData : List (String × Json)) : Option OrderRow :=
  match headinfoOrderId rawData with
  | none => some source
  | some platformOrderId =>
      if some platformOrderId = source.platformOrderId then some source
      else store.byPlatformId source.accountId platformOrderId

/-- `_apply_order_headinfo_sync`: the store and the primary key of the order it
wrote; `none` when a unique index refuses the write. -/
def applyOrderHeadinfo (store : OrderStore) (orderPk : String)
    (rawData : List (String × Json)) (newPk : String) (now : ℕ) :
    Option (OrderStore × Option String) :=
  match store.get orderPk with
  | none => some (store, none)
  | some source =>
      match headinfoTarget store source rawData with
      | some target =>
          (store.rewriteOrder target.orderPk
            (applyHeadinfo library rawData now)).map fun written =>
              (written, some target.orderPk)
      | none =>
          (store.insertOrder (applyHeadinfo library rawData now
            (headinfoOrder source (headinfoOrderId rawData) newPk now))).map
              fun written => (written, some newPk)

@[simp]
theorem applyHeadinfo_orderPk (rawData : List (String × Json)) (now : ℕ)
    (target : OrderRow) :
    (applyHeadinfo library rawData now target).orderPk = target.orderPk := rfl

theorem applyHeadinfo_platformOrderId (rawData : List (String × Json)) (now : ℕ)
    (target : OrderRow) :
    (applyHeadinfo library rawData now target).platformOrderId =
      orElse (headinfoOrderId rawData) target.platformOrderId := rfl

variable {rawData : List (String × Json)} {store : OrderStore} {source : OrderRow}

theorem applyHeadinfo_of_named {named : String} (hnamed : headinfoOrderId rawData = some named)
    (now : ℕ) (target : OrderRow) :
    (applyHeadinfo library rawData now target).platformOrderId = some named := by
  have htruthy : truthy (some named) = true :=
    truthy_some.mpr (Json.ne_empty_of_stringValue hnamed)
  rw [applyHeadinfo_platformOrderId, hnamed, orElse, if_pos htruthy]

theorem applyHeadinfo_status (rawData : List (String × Json)) (now : ℕ)
    (target : OrderRow) :
    (applyHeadinfo library rawData now target).status =
      if headinfoSetsStatus rawData target then headinfoStatus rawData
      else target.status := by
  simp only [applyHeadinfo]

theorem headinfoTarget_mem {target : OrderRow} (hsource : source ∈ store.orders.rows)
    (htarget : headinfoTarget store source rawData = some target) :
    target ∈ store.orders.rows := by
  unfold headinfoTarget at htarget
  split at htarget
  · exact Option.some.inj htarget ▸ hsource
  · split at htarget
    · exact Option.some.inj htarget ▸ hsource
    · exact (OrderStore.byPlatformId_eq_some_iff.mp htarget).1

theorem orderKeys_applyHeadinfo {target : OrderRow}
    (htarget : headinfoTarget store source rawData = some target) (now : ℕ) :
    orderKeys (applyHeadinfo library rawData now target) = orderKeys target := by
  have hid : orElse (headinfoOrderId rawData) target.platformOrderId =
      target.platformOrderId := by
    unfold headinfoTarget at htarget
    split at htarget
    · rename_i hnone
      rw [hnone, orElse_none]
    · rename_i platformOrderId hnamed
      have hsame : target.platformOrderId = some platformOrderId := by
        split at htarget
        · rename_i hown
          rw [← Option.some.inj htarget, ← hown]
        · exact (OrderStore.byPlatformId_eq_some_iff.mp htarget).2.2
      rw [hnamed, hsame, orElse, ite_self]
  show OrderKey.orderPk target.orderPk ::
      (orElse (headinfoOrderId rawData) target.platformOrderId).toList.map _ = _
  rw [hid]
  rfl

theorem headinfoTarget_own (hown : headinfoOrderId rawData = none ∨
      headinfoOrderId rawData = source.platformOrderId) :
    headinfoTarget store source rawData = some source := by
  unfold headinfoTarget
  cases hnamed : headinfoOrderId rawData with
  | none => rfl
  | some named =>
      rcases hown with hnone | hsame
      · rw [hnone] at hnamed
        cases hnamed
      · rw [hnamed] at hsame
        exact if_pos hsame

theorem headinfoTarget_other {named : String} (hnamed : headinfoOrderId rawData = some named)
    (hother : source.platformOrderId ≠ some named) :
    headinfoTarget store source rawData =
      store.byPlatformId source.accountId named := by
  unfold headinfoTarget
  rw [hnamed]
  exact if_neg fun hsame => hother hsame.symm

theorem exists_applyOrderHeadinfo_of_target {orderPk : String} {target : OrderRow}
    (newPk : String) (now : ℕ) (hsource : store.get orderPk = some source)
    (htarget : headinfoTarget store source rawData = some target) :
    ∃ written, store.rewriteOrder target.orderPk (applyHeadinfo library rawData now) =
        some written ∧
      applyOrderHeadinfo library store orderPk rawData newPk now =
        some (written, some target.orderPk) := by
  have hmem := headinfoTarget_mem (OrderStore.get_eq_some_iff.mp hsource).1 htarget
  have hkeys : ∀ row, store.get target.orderPk = some row →
      orderKeys (applyHeadinfo library rawData now row) = orderKeys row := by
    intro row hrow
    rw [OrderStore.get_eq_some_iff.mpr ⟨hmem, rfl⟩] at hrow
    rw [← Option.some.inj hrow]
    exact orderKeys_applyHeadinfo library htarget now
  obtain ⟨written, hwritten⟩ := OrderStore.exists_rewriteOrder hkeys
  refine ⟨written, hwritten, ?_⟩
  simp only [applyOrderHeadinfo, hsource, htarget, hwritten, Option.map_some]

theorem get_applyOrderHeadinfo_of_new {written : OrderStore} {orderPk : String}
    {target : Option String} {newPk : String} {now : ℕ}
    (hsource : store.get orderPk = some source)
    (htarget : headinfoTarget store source rawData = none)
    (happly : applyOrderHeadinfo library store orderPk rawData newPk now =
      some (written, target)) :
    target = some newPk ∧ store.get newPk = none ∧
      ∀ other, other ≠ newPk → written.get other = store.get other := by
  simp only [applyOrderHeadinfo, hsource, htarget, Option.map_eq_some_iff,
    Prod.mk.injEq] at happly
  obtain ⟨inserted, hinsert, rfl, rfl⟩ := happly
  have hfresh := OrderStore.get_eq_none_of_insertOrder hinsert
  refine ⟨rfl, hfresh, fun other hother => ?_⟩
  exact (OrderStore.get_insertOrder hinsert other).trans
    (if_neg fun hsame => hother hsame.symm)

end XianyuAdmin.Orders
