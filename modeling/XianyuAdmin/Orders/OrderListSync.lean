import XianyuAdmin.Orders.OrderWriters

/-!
# Order lists

`_apply_orders_sync` writes the list of orders an account has sold, and
`_apply_buyer_orders_sync` the list it has bought.  Both read the rows of the listed orders
once, go through the list with a map of these rows, to which they add those they insert, and
count what became of each order.  The loop is given once, for what the two assign and compare.
-/

namespace XianyuAdmin.Orders

open Function (update)
open XianyuAdmin.Python

/-- `SellerOrder`; the parser lists no order without an id. -/
structure SellerOrder where
  orderId : Identifier
  itemId : String := ""
  title : String := ""
  imageUrl : String := ""
  buyerId : String := ""
  buyerName : String := ""
  receiverName : String := ""
  receiverPhone : String := ""
  receiverAddress : String := ""
  price : String := ""
  quantity : ℕ := 1
  status : OrderStatus := .unknown
  statusText : String := ""
  platformStatus : String := ""
  platformCreatedAt : Option ℕ := none
  platformPaidAt : Option ℕ := none
  platformCompletedAt : Option ℕ := none
  isBargain : Bool := false
  sellerRateStatus : String := ""
  refundStatus : String := ""
  rawSummary : List (String × Json) := []

structure BuyerOrder where
  orderId : Identifier
  itemId : String := ""
  title : String := ""
  imageUrl : String := ""
  sellerId : String := ""
  sellerName : String := ""
  price : String := ""
  quantity : ℕ := 1
  status : OrderStatus := .unknown
  statusText : String := ""
  platformStatus : String := ""
  platformCreatedAt : Option ℕ := none
  platformPaidAt : Option ℕ := none
  platformCompletedAt : Option ℕ := none
  refundStatus : String := ""
  rawSummary : List (String × Json) := []

/-- What is read of a row of `xianyu_product_items`. -/
structure ListedProduct where
  title : String
  coverUrl : Option String

structure ListSync (Incoming Criterion : Type) where
  orderId : Incoming → Identifier
  status : Incoming → OrderStatus
  platformCreatedAt : Incoming → Option ℕ
  assign : ℕ → Incoming → OrderRow → OrderRow
  captured : OrderRow → Criterion
  compared : Incoming → OrderRow → Criterion
  event : ℕ → EventIds → Incoming → OrderRow → OrderEvent
  keys_assign : ∀ now incoming row, orderKeys (assign now incoming row) = orderKeys row

/-- What `uuid4` supplies for one order of a list. -/
structure SyncIds where
  orderPk : String
  event : EventIds

structure SyncCounts where
  inserted : ℕ := 0
  updated : ℕ := 0
  skipped : ℕ := 0
  deriving DecidableEq

/-- The variables of the loop.  `existing_map` refers to the rows of the session by their
keys. -/
structure ListState where
  store : OrderStore
  existingMap : String → Option String
  counts : SyncCounts := {}

/-- `existing_map.get(order_id)` -/
def ListState.existing (state : ListState) (orderId : Identifier) : Option OrderRow :=
  (state.existingMap orderId.text).bind state.store.get

namespace ListSync

variable {Incoming Criterion : Type} (sync : ListSync Incoming Criterion)

def newRow (accountId orderPk : String) (now : ℕ) (incoming : Incoming) : OrderRow where
  orderPk := orderPk
  accountId := accountId
  platformOrderId := some (sync.orderId incoming).text
  conversationId := ""
  status := sync.status incoming
  createdAt := (sync.platformCreatedAt incoming).getD now
  updatedAt := now

def existingRows (accountId : String) (orders : List Incoming) (store : OrderStore)
    (orderId : String) : Option String :=
  if orderId ∈ orders.map (fun incoming => (sync.orderId incoming).text) then
    (store.byPlatformId accountId orderId).map OrderRow.orderPk
  else none

variable [DecidableEq Criterion]

/-- One turn of the loop; `none` is the `IntegrityError` of a unique index. -/
def round (accountId : String) (now : ℕ) (ids : SyncIds) (incoming : Incoming)
    (state : ListState) : Option ListState :=
  match state.existing (sync.orderId incoming) with
  | none =>
      let row := sync.assign now incoming (sync.newRow accountId ids.orderPk now incoming)
      (state.store.insertOrder row).map fun store =>
        { store := store.addEvent (sync.event now ids.event incoming row)
          existingMap := update state.existingMap (sync.orderId incoming).text (some row.orderPk)
          counts := { state.counts with inserted := state.counts.inserted + 1 } }
  | some previous =>
      let row := sync.assign now incoming previous
      let written := state.store.updateOrder previous.orderPk (sync.assign now incoming)
        (sync.keys_assign now incoming)
      if sync.captured previous = sync.compared incoming row then
        some
          { state with
            store := written
            counts := { state.counts with skipped := state.counts.skipped + 1 } }
      else
        some
          { state with
            store := written.addEvent (sync.event now ids.event incoming row)
            counts := { state.counts with updated := state.counts.updated + 1 } }

/-- The loop; `ids` holds the identifiers that are still to be drawn. -/
def loop (accountId : String) (now : ℕ) :
    (ℕ → SyncIds) → List Incoming → ListState → Option ListState
  | _, [], state => some state
  | ids, incoming :: orders, state =>
      (sync.round accountId now (ids 0) incoming state).bind
        (loop accountId now (fun draw => ids (draw + 1)) orders)

def apply (accountId : String) (now : ℕ) (ids : ℕ → SyncIds) (orders : List Incoming)
    (store : OrderStore) : Option (SyncCounts × OrderStore) :=
  (sync.loop accountId now ids orders
    { store := store, existingMap := sync.existingRows accountId orders store }).map
      fun state => (state.counts, state.store)

end ListSync

/-- `incoming.platform_completed_at or incoming.platform_paid_at or
incoming.platform_created_at or row.last_event_at` -/
def latestTime (completedAt paidAt createdAt lastEventAt : Option ℕ) : Option ℕ :=
  ((completedAt.or paidAt).or createdAt).or lastEventAt

def listEvent (row : OrderRow) (orderId : Identifier) (itemId : String) (status : OrderStatus)
    (statusText label : String) (rawSummary : List (String × Json)) (now : ℕ)
    (ids : EventIds) : OrderEvent where
  eventPk := ids.eventPk
  orderPk := some row.orderPk
  accountId := row.accountId
  conversationId := row.conversationId
  messagePk := label ++ ids.messageUuid
  platformOrderId := some orderId.text
  itemId := textOr itemId none
  eventType := "platform_sync"
  status := status
  statusText := some statusText
  rawSummary := some (.obj rawSummary)
  createdAt := now

/-- The assignments of `_apply_orders_sync`. -/
def assignSold (products : String → Option ListedProduct) (now : ℕ) (incoming : SellerOrder)
    (row : OrderRow) : OrderRow :=
  let product := if incoming.itemId = "" then none else products incoming.itemId
  { row with
    tradeRole := some .seller
    dataSource := some "seller_sold"
    firstSeenSource := orElse row.firstSeenSource (some "seller_sold")
    platformConfirmed := true
    syncState := .confirmed
    syncError := none
    peerUserId := textOr incoming.buyerId row.peerUserId
    peerName := textOr incoming.buyerName row.peerName
    buyerUserId := textOr incoming.buyerId row.buyerUserId
    buyerName := textOr incoming.buyerName row.buyerName
    receiverName := textOr incoming.receiverName row.receiverName
    receiverPhone := textOr incoming.receiverPhone row.receiverPhone
    receiverAddress := textOr incoming.receiverAddress row.receiverAddress
    itemId := textOr incoming.itemId row.itemId
    title := textOr incoming.title (orElse (product.map ListedProduct.title) row.title)
    imageUrl := textOr incoming.imageUrl (orElse (product.bind ListedProduct.coverUrl) row.imageUrl)
    price := textOr incoming.price row.price
    quantity := some incoming.quantity
    status := incoming.status
    statusText := textOr incoming.statusText row.statusText
    platformStatus := textOr incoming.platformStatus row.platformStatus
    platformCreatedAt := incoming.platformCreatedAt.or row.platformCreatedAt
    platformPaidAt := incoming.platformPaidAt.or row.platformPaidAt
    platformCompletedAt := incoming.platformCompletedAt.or row.platformCompletedAt
    isBargain := row.isBargain || incoming.isBargain
    sellerRateStatus := textOr incoming.sellerRateStatus row.sellerRateStatus
    refundStatus := textOr incoming.refundStatus none
    lastEventAt := latestTime incoming.platformCompletedAt incoming.platformPaidAt
      incoming.platformCreatedAt row.lastEventAt
    lastSyncedAt := some now
    rawSummary := some (.obj incoming.rawSummary)
    updatedAt := now }

/-- The assignments of `_apply_buyer_orders_sync`. -/
def assignBought (now : ℕ) (incoming : BuyerOrder) (row : OrderRow) : OrderRow :=
  { row with
    tradeRole := some .buyer
    dataSource := some "buyer_bought"
    firstSeenSource := orElse row.firstSeenSource (some "buyer_bought")
    platformConfirmed := true
    syncState := .confirmed
    syncError := none
    peerUserId := textOr incoming.sellerId row.peerUserId
    peerName := textOr incoming.sellerName row.peerName
    itemId := textOr incoming.itemId row.itemId
    title := textOr incoming.title row.title
    imageUrl := textOr incoming.imageUrl row.imageUrl
    price := textOr incoming.price row.price
    quantity := some incoming.quantity
    status := incoming.status
    statusText := textOr incoming.statusText row.statusText
    platformStatus := textOr incoming.platformStatus row.platformStatus
    platformCreatedAt := incoming.platformCreatedAt.or row.platformCreatedAt
    platformPaidAt := incoming.platformPaidAt.or row.platformPaidAt
    platformCompletedAt := incoming.platformCompletedAt.or row.platformCompletedAt
    refundStatus := textOr incoming.refundStatus none
    lastEventAt := latestTime incoming.platformCompletedAt incoming.platformPaidAt
      incoming.platformCreatedAt row.lastEventAt
    lastSyncedAt := some now
    rawSummary := some (.obj incoming.rawSummary)
    updatedAt := now }

def soldSync (products : String → Option ListedProduct) : ListSync SellerOrder OrderStatus where
  orderId := SellerOrder.orderId
  status := SellerOrder.status
  platformCreatedAt := SellerOrder.platformCreatedAt
  assign := assignSold products
  captured := OrderRow.status
  compared := fun incoming _ => incoming.status
  event := fun now ids incoming row =>
    listEvent row incoming.orderId incoming.itemId incoming.status incoming.statusText "sold:"
      incoming.rawSummary now ids
  keys_assign := fun _ _ _ => orderKeys_congr rfl rfl rfl

/-- `(row.status, row.trade_role, row.data_source)` -/
abbrev BoughtState := OrderStatus × Option TradeRole × Option String

def boughtState (row : OrderRow) : BoughtState := (row.status, row.tradeRole, row.dataSource)

def boughtSync : ListSync BuyerOrder BoughtState where
  orderId := BuyerOrder.orderId
  status := BuyerOrder.status
  platformCreatedAt := BuyerOrder.platformCreatedAt
  assign := assignBought
  captured := boughtState
  compared := fun _ row => boughtState row
  event := fun now ids incoming row =>
    listEvent row incoming.orderId incoming.itemId incoming.status incoming.statusText "bought:"
      incoming.rawSummary now ids
  keys_assign := fun _ _ _ => orderKeys_congr rfl rfl rfl

/-- What the two functions raise. -/
inductive ListSyncError
  | integrityError
  | valueError (text : String)
  deriving DecidableEq

/-- `_apply_orders_sync`, which does not read its mode. -/
def applyOrdersSync (products : String → Option ListedProduct) (accountId : String) (now : ℕ)
    (ids : ℕ → SyncIds) (orders : List SellerOrder) (store : OrderStore) :
    Except ListSyncError (SyncCounts × OrderStore) :=
  ((soldSync products).apply accountId now ids orders store).elim (.error .integrityError) .ok

/-- `_apply_buyer_orders_sync` -/
def applyBuyerOrdersSync (accountId : String) (now : ℕ) (ids : ℕ → SyncIds)
    (orders : List BuyerOrder) (mode : String) (store : OrderStore) :
    Except ListSyncError (SyncCounts × OrderStore) :=
  if mode ≠ "full" then .error (.valueError "bought order sync only supports full mode")
  else (boughtSync.apply accountId now ids orders store).elim (.error .integrityError) .ok

end XianyuAdmin.Orders
