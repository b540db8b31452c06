import XianyuAdmin.Core.Json
import XianyuAdmin.Core.Table

/-!
# Order rows

One order is written by several parts of the service: chat messages that carry
a trade card, the header the platform shows above a conversation, the order
detail page and the actions a seller takes.  This file has the row they share,
the log of order events and the two ways a transaction touches them.
-/

namespace XianyuAdmin.Orders

open XianyuAdmin.Python

inductive OrderStatus
  | pendingPayment
  | waitingSellerDelivery
  | paidWaitingDelivery
  | shipped
  | completed
  | closed
  | refunding
  | refunded
  | unknown
  deriving DecidableEq, Repr

def OrderStatus.text : OrderStatus → String
  | .pendingPayment => "pending_payment"
  | .waitingSellerDelivery => "waiting_seller_delivery"
  | .paidWaitingDelivery => "paid_waiting_delivery"
  | .shipped => "shipped"
  | .completed => "completed"
  | .closed => "closed"
  | .refunding => "refunding"
  | .refunded => "refunded"
  | .unknown => "unknown"

/-- `status in {"shipped", "completed", "closed"}`. -/
def OrderStatus.isFinished : OrderStatus → Bool
  | .shipped | .completed | .closed => true
  | _ => false

/-- `status in {"pending_payment", "paid_waiting_delivery"}`. -/
def OrderStatus.isEarly : OrderStatus → Bool
  | .pendingPayment | .paidWaitingDelivery => true
  | _ => false

def OrderStatus.isRefund : OrderStatus → Bool
  | .refunding | .refunded => true
  | _ => false

inductive TradeRole
  | seller
  | buyer
  | unknown
  deriving DecidableEq, Repr

inductive SyncState
  | provisional
  | confirmed
  | stale
  | error
  deriving DecidableEq, Repr

/-- A row of `xianyu_orders`; columns that hold JSON text are decoded, an empty
list standing for `NULL`. -/
structure OrderRow where
  orderPk : String
  accountId : String
  platformOrderId : Option String := none
  tradeRole : Option TradeRole := none
  dataSource : Option String := none
  firstSeenSource : Option String := none
  platformConfirmed : Bool := false
  syncState : SyncState := .provisional
  conversationId : String
  peerUserId : Option String := none
  peerName : Option String := none
  buyerUserId : Option String := none
  buyerName : Option String := none
  receiverName : Option String := none
  receiverPhone : Option String := none
  receiverAddress : Option String := none
  itemId : Option String := none
  title : Option String := none
  price : Option String := none
  quantity : Option ℕ := none
  imageUrl : Option String := none
  status : OrderStatus := .unknown
  statusText : Option String := none
  platformStatus : Option String := none
  platformCreatedAt : Option ℕ := none
  platformPaidAt : Option ℕ := none
  platformCompletedAt : Option ℕ := none
  isBargain : Bool := false
  sellerRateStatus : Option String := none
  refundStatus : Option String := none
  refundId : Option String := none
  platformRefundActions : List String := []
  refundRefuseOptions : List Json := []
  logisticsType : Option String := none
  carrierCode : Option String := none
  trackingNo : Option String := none
  platformShippingMethods : List String := []
  platformShippingContext : List (String × String) := []
  sourceMessagePk : Option String := none
  lastEventAt : Option ℕ := none
  lastSyncedAt : Option ℕ := none
  lastDetailSyncedAt : Option ℕ := none
  headinfoConfirmedAt : Option ℕ := none
  platformCapabilities : List String := []
  platformActionLinks : List (String × String) := []
  syncError : Option String := none
  rawSummary : Option Json := none
  createdAt : ℕ
  updatedAt : ℕ

/-- The primary key and `uq_xianyu_orders_platform_id`. -/
inductive OrderKey
  | orderPk (orderPk : String)
  | platformId (accountId platformOrderId : String)
  deriving DecidableEq

def orderKeys (row : OrderRow) : List OrderKey :=
  .orderPk row.orderPk ::
    row.platformOrderId.toList.map (.platformId row.accountId)

abbrev OrderTable := Table OrderRow orderKeys

/-- A row of `xianyu_order_events`. -/
structure OrderEvent where
  eventPk : String
  orderPk : Option String
  accountId : String
  conversationId : String
  messagePk : String
  platformOrderId : Option String
  itemId : Option String
  eventType : String
  status : OrderStatus
  statusText : Option String
  rawSummary : Option Json
  createdAt : ℕ

structure OrderStore where
  orders : OrderTable
  events : List OrderEvent

theorem orderPk_mem_orderKeys {row : OrderRow} {orderPk : String} :
    .orderPk orderPk ∈ orderKeys row ↔ row.orderPk = orderPk := by
  simp [orderKeys, eq_comm]

theorem platformId_mem_orderKeys {row : OrderRow}
    {accountId platformOrderId : String} :
    .platformId accountId platformOrderId ∈ orderKeys row ↔
      row.accountId = accountId ∧
        row.platformOrderId = some platformOrderId := by
  simp only [orderKeys, List.mem_cons, List.mem_map, Option.mem_toList,
    reduceCtorEq, false_or, OrderKey.platformId.injEq]
  constructor
  · rintro ⟨stored, hstored, haccount, rfl⟩
    exact ⟨haccount, hstored⟩
  · rintro ⟨haccount, hstored⟩
    exact ⟨platformOrderId, hstored, haccount, rfl⟩

theorem orderKeys_congr {row next : OrderRow} (hpk : next.orderPk = row.orderPk)
    (haccount : next.accountId = row.accountId)
    (hplatform : next.platformOrderId = row.platformOrderId) :
    orderKeys next = orderKeys row := by
  rw [orderKeys, orderKeys, hpk, haccount, hplatform]

namespace OrderStore

/-- `session.get(OrderORM, order_pk)`. -/
def get (store : OrderStore) (orderPk : String) : Option OrderRow :=
  store.orders.lookup (.orderPk orderPk)

variable {store : OrderStore} {orderPk : String} {row : OrderRow}

theorem get_eq_some_iff :
    store.get orderPk = some row ↔
      row ∈ store.orders.rows ∧ row.orderPk = orderPk := by
  rw [get, Table.lookup_eq_some_iff, orderPk_mem_orderKeys]

def byPlatformId (store : OrderStore) (accountId platformOrderId : String) :
    Option OrderRow :=
  store.orders.lookup (.platformId accountId platformOrderId)

theorem byPlatformId_eq_some_iff {accountId platformOrderId : String} :
    store.byPlatformId accountId platformOrderId = some row ↔
      row ∈ store.orders.rows ∧ row.accountId = accountId ∧
        row.platformOrderId = some platformOrderId := by
  rw [byPlatformId, Table.lookup_eq_some_iff, platformId_mem_orderKeys]

/-- `UPDATE` of one order outside the unique indexes. -/
def updateOrder (store : OrderStore) (orderPk : String)
    (update : OrderRow → OrderRow)
    (hkeys : ∀ row, orderKeys (update row) = orderKeys row) : OrderStore :=
  { store with
    orders := store.orders.map
      (fun row => if row.orderPk = orderPk then update row else row) (by
        intro row
        split
        · exact hkeys row
        · rfl) }

/-- `UPDATE` of one order that may write an indexed column; `none` is the
`IntegrityError` of a unique index. -/
def rewriteOrder (store : OrderStore) (orderPk : String)
    (update : OrderRow → OrderRow) : Option OrderStore :=
  (store.orders.update? fun row =>
    if row.orderPk = orderPk then update row else row).map fun orders =>
      { store with orders := orders }

/-- `INSERT` of an order; `none` is the `IntegrityError` of a unique index. -/
def insertOrder (store : OrderStore) (row : OrderRow) : Option OrderStore :=
  (store.orders.insert? row).map fun orders => { store with orders := orders }

def addEvent (store : OrderStore) (event : OrderEvent) : OrderStore :=
  { store with events := store.events ++ [event] }

@[simp]
theorem get_addEvent (store : OrderStore) (event : OrderEvent)
    (orderPk : String) : (store.addEvent event).get orderPk = store.get orderPk :=
  rfl

theorem get_updateOrder (store : OrderStore) (orderPk other : String)
    (update : OrderRow → OrderRow)
    (hkeys : ∀ row, orderKeys (update row) = orderKeys row) :
    (store.updateOrder orderPk update hkeys).get other =
      if other = orderPk then (store.get other).map update else store.get other := by
  rw [get, updateOrder, Table.lookup_map]
  cases hget : store.get other with
  | none =>
      rw [get] at hget
      simp [hget]
  | some row =>
      have hpk : row.orderPk = other := (get_eq_some_iff.mp hget).2
      rw [get] at hget
      rw [hget, Option.map_some, hpk]
      split <;> rfl

theorem get_rewriteOrder {rewritten : OrderStore} {update : OrderRow → OrderRow}
    (hrewrite : store.rewriteOrder orderPk update = some rewritten)
    (hpk : ∀ row, (update row).orderPk = row.orderPk) (other : String) :
    rewritten.get other =
      if other = orderPk then (store.get other).map update else store.get other := by
  obtain ⟨orders, horders, rfl⟩ := Option.map_eq_some_iff.mp hrewrite
  have hkey : ∀ row : OrderRow,
      .orderPk other ∈ orderKeys (if row.orderPk = orderPk then update row else row) ↔
        .orderPk other ∈ orderKeys row := by
    intro row
    rw [orderPk_mem_orderKeys, orderPk_mem_orderKeys]
    split
    · rw [hpk]
    · rfl
  rw [get, Table.lookup_of_update? horders hkey]
  cases hget : store.get other with
  | none =>
      rw [get] at hget
      simp [hget]
  | some row =>
      have hrowPk : row.orderPk = other := (get_eq_some_iff.mp hget).2
      rw [get] at hget
      rw [hget, Option.map_some, hrowPk]
      split <;> rfl

theorem exists_rewriteOrder {update : OrderRow → OrderRow}
    (hkeys : ∀ row, store.get orderPk = some row → orderKeys (update row) = orderKeys row) :
    ∃ rewritten, store.rewriteOrder orderPk update = some rewritten := by
  have hrows : ∀ row ∈ store.orders.rows,
      orderKeys (if row.orderPk = orderPk then update row else row) =
        orderKeys row := by
    intro row hrow
    split
    · rename_i hpk
      exact hkeys row (get_eq_some_iff.mpr ⟨hrow, hpk⟩)
    · rfl
  obtain ⟨orders, horders⟩ := Table.exists_update?_of_keys hrows
  exact ⟨{ store with orders := orders }, by rw [rewriteOrder, horders]; rfl⟩

theorem get_insertOrder {inserted : OrderStore} (hinsert : store.insertOrder row = some inserted)
    (orderPk : String) :
    inserted.get orderPk =
      if row.orderPk = orderPk then some row else store.get orderPk := by
  obtain ⟨orders, horders, rfl⟩ := Option.map_eq_some_iff.mp hinsert
  rw [get, get, Table.lookup_of_insert? horders]
  simp only [orderPk_mem_orderKeys]

theorem byPlatformId_updateOrder (store : OrderStore) (orderPk : String)
    (update : OrderRow → OrderRow)
    (hkeys : ∀ row, orderKeys (update row) = orderKeys row)
    (accountId platformOrderId : String) :
    (store.updateOrder orderPk update hkeys).byPlatformId accountId platformOrderId =
      (store.byPlatformId accountId platformOrderId).map fun row =>
        if row.orderPk = orderPk then update row else row := by
  rw [byPlatformId, updateOrder, Table.lookup_map]
  rfl

theorem byPlatformId_insertOrder {inserted : OrderStore}
    (hinsert : store.insertOrder row = some inserted) (accountId platformOrderId : String) :
    inserted.byPlatformId accountId platformOrderId =
      if row.accountId = accountId ∧ row.platformOrderId = some platformOrderId then some row
      else store.byPlatformId accountId platformOrderId := by
  obtain ⟨orders, horders, rfl⟩ := Option.map_eq_some_iff.mp hinsert
  rw [byPlatformId, byPlatformId, Table.lookup_of_insert? horders]
  simp only [platformId_mem_orderKeys]

/-- An order whose keys are free is accepted. -/
theorem exists_insertOrder (hpk : store.get row.orderPk = none)
    (hplatform : ∀ platformOrderId, row.platformOrderId = some platformOrderId →
      store.byPlatformId row.accountId platformOrderId = none) :
    ∃ inserted, store.insertOrder row = some inserted := by
  have hfresh : ∀ key ∈ orderKeys row, store.orders.lookup key = none := by
    intro key hkey
    cases key with
    | orderPk orderPk =>
        rw [← orderPk_mem_orderKeys.mp hkey]
        exact hpk
    | platformId accountId platformOrderId =>
        obtain ⟨haccount, hid⟩ := platformId_mem_orderKeys.mp hkey
        rw [← haccount]
        exact hplatform platformOrderId hid
  obtain ⟨orders, horders⟩ := Table.exists_insert?_of_fresh hfresh
  exact ⟨{ store with orders := orders }, by rw [insertOrder, horders]; rfl⟩

theorem get_eq_none_of_insertOrder {inserted : OrderStore}
    (hinsert : store.insertOrder row = some inserted) :
    store.get row.orderPk = none := by
  obtain ⟨orders, horders, -⟩ := Option.map_eq_some_iff.mp hinsert
  rw [get, Table.lookup_eq_none_iff]
  intro stored hstored hkey
  exact Table.noClash_of_insert? horders stored hstored _ hkey
    (orderPk_mem_orderKeys.mpr rfl)

end OrderStore

end XianyuAdmin.Orders
