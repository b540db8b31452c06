import XianyuAdmin.Core.Returns
import XianyuAdmin.Core.WhileLoop
import XianyuAdmin.Mtop.PostMtop
import XianyuAdmin.Orders.OrderListSync

/-!
# The pages of the platform's order lists

`list_sold_orders` and `list_bought_orders` ask for one page of orders after the other while
the platform announces a next one.  The loop is given once; the pages of the bought orders are
followed by the cursor of the last one, with guards against pages and cursors that repeat.
Delays between requests and the cookies of the HTTP session are left out.
-/

namespace XianyuAdmin.Orders

open XianyuAdmin.Mtop
open XianyuAdmin.Python

inductive ConversionError
  /-- A `TypeError` or `ValueError`. -/
  | invalid
  | overflow
  deriving DecidableEq

structure OrderLibrary where
  /-- `str(value)` of a list or of a dictionary. -/
  containerText : Json → String
  /-- `str.lower()` -/
  lower : String → String
  /-- `int(text)` -/
  intOfText : String → Except ConversionError ℤ
  /-- `int` of the number a text is printed for. -/
  intOfFloat : String → Except ConversionError ℤ
  /-- `datetime.strptime(text, pattern)` in Shanghai, converted to UTC. -/
  instant : String → String → Except ConversionError ℕ

/-- `OrderSyncError.kind` -/
inductive OrderSyncKind
  | permission
  | platform (kind : Kind)

structure OrderSyncError where
  kind : OrderSyncKind
  message : String
  retryable : Bool := false
  rawResponse : List (String × Json) := []

inductive ListingError
  | orderSync (error : OrderSyncError)
  | valueError (message : String)
  | overflowError
  | other (failure : Failure)

namespace OrderLibrary

variable (library : OrderLibrary)

/-- `str(value)` -/
def str (value : Json) : String :=
  match value with
  | .null => "None"
  | _ => value.scalarText.getD (library.containerText value)

def text (value : Json) : String :=
  strip (if value.isTrue then library.str value else "")

def asBool : Json → Bool
  | .bool true => true
  | value => library.lower (library.text value) = "true"

/-- `int(value)` -/
def int : Json → Except ConversionError ℤ
  | .bool value => .ok (if value then 1 else 0)
  | .int value => .ok value
  | .float text => library.intOfFloat text
  | .str text => library.intOfText text
  | .null | .arr _ | .obj _ => .error .invalid

/-- `_as_int`; the default stands for what is no number. -/
def asInt (value : Json) : Except ListingError (Option ℤ) :=
  match library.int value with
  | .ok number => .ok (some number)
  | .error .invalid => .ok none
  | .error .overflow => .error .overflowError

/-- `_parse_platform_time`, for the patterns that are left. -/
def parseTimeBy (text : String) : List String → Except ListingError (Option ℕ)
  | [] => .ok none
  | pattern :: patterns =>
      match library.instant pattern text with
      | .ok instant => .ok (some instant)
      | .error .invalid => parseTimeBy text patterns
      | .error .overflow => .error .overflowError

def parsePlatformTime (value : Json) : Except ListingError (Option ℕ) :=
  if library.text value = "" then .ok none
  else library.parseTimeBy (library.text value) ["%Y-%m-%d %H:%M:%S", "%Y/%m/%d %H:%M:%S"]

/-- `max(1, _as_int(value, 1))` -/
def quantity (value : Json) : Except ListingError ℕ :=
  (library.asInt value).map fun number => (max 1 (number.getD 1)).toNat

def imageUrl (value : Json) : String :=
  let url := library.text value
  if url.startsWith "//" then "https:" ++ url else url

def orderId? (value : Json) : Option Identifier :=
  if hempty : library.text value = "" then none else some ⟨library.text value, hempty⟩

def cursorKey : Json → String
  | .null => ""
  | .obj members =>
      "|".intercalate ((sortedSet (members.map Prod.fst)).map fun name =>
        name ++ "=" ++ library.str (Json.get members name))
  | value => library.str value

end OrderLibrary

/-- A status and the refund it stands for: `refunding` and `refunded` are kept apart. -/
def splitRefund (status : OrderStatus) (refundStatus : String) : OrderStatus × String :=
  match status with
  | .refunding => (.unknown, "pending")
  | .refunded => (.closed, "refunded")
  | _ => (status, refundStatus)

def statusMap : List (String × OrderStatus) :=
  [("待付款", .pendingPayment), ("待发货", .paidWaitingDelivery), ("已发货", .shipped),
    ("交易成功", .completed), ("交易关闭", .closed), ("退款中", .refunding),
    ("退款成功", .refunded), ("已退款", .refunded), ("退款关闭", .closed)]

def buyerStatusMap : List (String × OrderStatus) :=
  [("wait_buyer_pay", .pendingPayment), ("not_pay", .pendingPayment),
    ("pending_payment", .pendingPayment), ("wait_seller_send_goods", .waitingSellerDelivery),
    ("wait_seller_send", .waitingSellerDelivery), ("not_ship", .waitingSellerDelivery),
    ("wait_buyer_confirm_goods", .shipped), ("wait_buyer_confirm", .shipped),
    ("shipped", .shipped), ("trade_success", .completed), ("success", .completed),
    ("refund", .refunding), ("refund_in_progress", .refunding), ("refunding", .refunding),
    ("refund_success", .refunded), ("refunded", .refunded), ("close_by_buyer", .closed),
    ("close_by_seller", .closed), ("close_by_out", .closed), ("trade_closed", .closed),
    ("closed", .closed)]

def lookup (statuses : List (String × OrderStatus)) (platformStatus : String) :
    Option OrderStatus :=
  (statuses.find? fun entry => entry.1 = platformStatus).map Prod.snd

def statusFromText (value : String) : OrderStatus :=
  if containsAny ["待付款", "等待付款"] value then .pendingPayment
  else if containsAny ["待发货", "等待卖家发货"] value then .waitingSellerDelivery
  else if containsAny ["待收货", "确认收货"] value then .shipped
  else if containsAny ["交易成功", "已完成"] value then .completed
  else if containsAny ["退款成功", "已退款"] value then .refunded
  else if contains "退款" value then .refunding
  else if containsAny ["关闭", "取消"] value then .closed
  else .unknown

namespace OrderLibrary

variable (library : OrderLibrary)

/-- `MtopOrderOperations._parse_order` -/
def parseSoldOrder (raw : List (String × Json)) : Except ListingError (Option SellerOrder) := do
  let common := (Json.get raw "commonData").asObject
  let buyer := (Json.get raw "buyerInfoVO").asObject
  let price := (Json.get raw "priceVO").asObject
  let item := ((Json.get raw "itemInfoVO").or (Json.get raw "itemInfo")).asObject
  let right := (Json.get raw "rightVO").asObject
  match library.orderId? ((Json.get common "orderId").or (Json.get common "bizOrderId")) with
  | none => pure none
  | some orderId => do
      let platformStatus := library.text (Json.get common "orderStatus")
      let inRefund := library.asBool (Json.get common "inRefund")
      let (status, refundStatus) := splitRefund ((lookup statusMap platformStatus).getD .unknown)
        (if inRefund then "pending" else "")
      let quantity ← library.quantity (Json.get price "buyNum")
      let isBargain := (Json.get right "btnList").asList.any fun button =>
        (Json.get button.asObject "tradeAction").asString? = some "SKIP_PIN"
      let sellerRateStatus := library.text (Json.get common "sellerRateStatus")
      let createdAt ← library.parsePlatformTime (Json.get common "createTime")
      let paidAt ← library.parsePlatformTime (Json.get common "paySuccessTime")
      let completedAt ← library.parsePlatformTime (Json.get common "finishTime")
      pure (some
        { orderId := orderId
          itemId := library.text (Json.get common "itemId")
          title := library.text ((((Json.get item "title").or (Json.get item "itemTitle")).or
            (Json.get common "itemTitle")).or (Json.get raw "itemTitle"))
          imageUrl := library.imageUrl ((((Json.get item "picUrl").or
            (Json.get item "imageUrl")).or (Json.get common "picUrl")).or (Json.get raw "picUrl"))
          buyerId := library.text ((Json.get buyer "buyerId").or (Json.get buyer "userId"))
          buyerName := library.text ((Json.get buyer "userNick").or (Json.get buyer "nick"))
          receiverName := library.text (Json.get buyer "name")
          receiverPhone := library.text (Json.get buyer "phone")
          receiverAddress := library.text (Json.get buyer "address")
          price := library.text (((Json.get price "totalPrice").or
            (Json.get price "confirmFee")).or (Json.get price "auctionPrice"))
          quantity := quantity
          status := status
          statusText := if platformStatus = "" then "订单状态待确认" else platformStatus
          platformStatus := platformStatus
          platformCreatedAt := createdAt
          platformPaidAt := paidAt
          platformCompletedAt := completedAt
          isBargain := isBargain
          sellerRateStatus := sellerRateStatus
          refundStatus := refundStatus
          rawSummary :=
            [("source", .str "seller_sold"), ("orderStatus", .str platformStatus),
              ("inRefund", .bool inRefund), ("sellerRateStatus", .str sellerRateStatus),
              ("isBargain", .bool isBargain)] })

/-- `MtopBuyerOrderOperations._parse_order` -/
def parseBoughtOrder (raw : List (String × Json)) :
    Except ListingError (Option BuyerOrder) := do
  let common := (Json.get raw "commonData").asObject
  let head := (Json.get (Json.get raw "head").asObject "data").asObject
  let content := (Json.get (Json.get raw "content").asObject "data").asObject
  let detail := (Json.get content "detailInfo").asObject
  let priceInfo := (Json.get content "priceInfo").asObject
  let seller := (Json.get head "userInfo").asObject
  match library.orderId? ((Json.get common "orderId").or (Json.get common "orderIdStr")) with
  | none => pure none
  | some orderId => do
      let platformStatus := library.lower (library.text (Json.get common "tradeStatusEnum"))
      let statusText := library.text (Json.get head "statusViewMsg")
      let (status, refundStatus) := splitRefund
        ((lookup buyerStatusMap platformStatus).getD (statusFromText statusText)) ""
      let quantity ← library.quantity (Json.get priceInfo "buyAmount")
      let createdAt ← library.parsePlatformTime (Json.get head "createTime")
      pure (some
        { orderId := orderId
          itemId := library.text (Json.get common "itemId")
          title := library.text (Json.get detail "auctionTitle")
          imageUrl := library.imageUrl (Json.get detail "auctionPic")
          sellerId := library.text ((Json.get common "peerUserId").or (Json.get seller "userId"))
          sellerName := library.text (((Json.get seller "userAliasNick").or
            (Json.get seller "userNick")).or (Json.get seller "nick"))
          price := library.text ((Json.get priceInfo "price").or
            (Json.get priceInfo "auctionPriceDesc"))
          quantity := quantity
          status := status
          statusText := if statusText ≠ "" then statusText
            else if platformStatus ≠ "" then platformStatus else "订单状态待确认"
          platformStatus := platformStatus
          platformCreatedAt := createdAt
          refundStatus := refundStatus
          rawSummary :=
            [("source", .str "buyer_bought"), ("tradeStatusEnum", .str platformStatus),
              ("orderDetailUrl", .str (library.text (Json.get common "orderDetailUrl")))] })

end OrderLibrary

structure OrderPage (Order : Type) where
  listing : List (String × Json)
  totalCount : Option ℤ
  orders : List Order

def parseEntry {Order : Type}
    (parseOrder : List (String × Json) → Except ListingError (Option Order)) :
    Json → Except ListingError (Option Order)
  | .obj raw => parseOrder raw
  | _ => .ok none

def OrderPage.rawItems {Order : Type} (page : OrderPage Order) : List Json :=
  (Json.get page.listing "items").asList

def OrderPage.nextPage {Order : Type} (library : OrderLibrary) (page : OrderPage Order) : Bool :=
  library.asBool (Json.get page.listing "nextPage")

/-- What the two listings do in their own ways. -/
structure Pager (Request Order Position : Type) where
  library : OrderLibrary
  operation : String
  /-- The handler of a `ProductPublishError`. -/
  translate : PlatformError → OrderSyncError
  request : ℕ → Position → Request
  listing : Json → List (String × Json)
  parseOrder : List (String × Json) → Except ListingError (Option Order)
  orderId : Order → Identifier
  start : Position
  repeats : Position → OrderPage Order → Bool
  advance : Position → OrderPage Order → Option Position

structure OrderListResult (Order : Type) where
  items : List Order
  pages : ℕ
  totalCount : ℤ
  complete : Bool

structure Listing (Request Order : Type) where
  requests : List Request
  outcome : Except ListingError (OrderListResult Order)

/-- The variables of the loop. -/
structure PagingState (Request Order Position : Type) where
  requests : List Request := []
  orders : List Order := []
  seen : List String := []
  position : Position
  page : ℕ := 1
  totalCount : ℤ := 0

def isRetryableOrderError : RequestError → Bool
  | .transport _ isConnection => isConnection
  | .http status => status ∈ [502, 503, 504]

def addOrder {Order : Type} (orderId : Order → Identifier) (found : List Order × List String)
    (order : Order) : List Order × List String :=
  if (orderId order).text ∈ found.2 then found
  else (found.1 ++ [order], (orderId order).text :: found.2)

namespace Pager

variable {Request Order Position : Type} (pager : Pager Request Order Position)

/-- What the handlers around the loop make of an exception. -/
def raised : Failure → ListingError
  | .productPublish error => .orderSync (pager.translate error)
  | .request error =>
      .orderSync
        { kind := .platform .network
          message := pager.operation ++ "网络请求失败（" ++ error.className ++ "）"
          retryable := true }
  | failure => .other failure

def attemptsFailed (error : RequestError) (attempt : ℕ) : ListingError :=
  .orderSync
    { kind := .platform .network
      message := pager.operation ++ "网络请求失败（" ++ error.className ++ "），已尝试 " ++
        toString attempt ++ " 次"
      retryable := isRetryableOrderError error }

/-- The attempts at a request from the one with the given number on, which as many others may
follow; `post` is `_post_mtop`. -/
def requestPage (post : Request → Except Failure Json) (request : Request) :
    ℕ → ℕ → List Request × Except ListingError Json
  | others, attempt =>
      match post request with
      | .ok response => ([request], .ok response)
      | .error (.request error) =>
          match isRetryableOrderError error, others with
          | true, others + 1 =>
              let (later, answer) := requestPage post request others (attempt + 1)
              (request :: later, answer)
          | _, _ => ([request], .error (pager.attemptsFailed error attempt))
      | .error failure => ([request], .error (pager.raised failure))

def readPage (response : Json) : Except ListingError (OrderPage Order) := do
  (ensureSuccess response pager.operation).mapError pager.raised
  let listing := pager.listing response
  let totalCount ← pager.library.asInt (Json.get listing "totalCount")
  let orders ← collect (parseEntry pager.parseOrder) (Json.get listing "items").asList
  pure { listing := listing, totalCount := totalCount, orders := orders }

/-- One turn of `while True`. -/
def turn (post : Request → Except Failure Json) (maxPages : Option ℤ)
    (state : PagingState Request Order Position) :
    WhileLoop.Turn (PagingState Request Order Position) (Listing Request Order) :=
  let (posts, answer) := pager.requestPage post (pager.request state.page state.position) 2 1
  let requests := state.requests ++ posts
  match answer.bind pager.readPage with
  | .error error => .leave { requests := requests, outcome := .error error }
  | .ok page =>
      let totalCount := page.totalCount.getD state.totalCount
      let (orders, seen) := page.orders.foldl (addOrder pager.orderId) (state.orders, state.seen)
      let finish (complete : Bool) : Listing Request Order :=
        { requests := requests
          outcome := .ok
            { items := orders, pages := state.page, totalCount := totalCount
              complete := complete } }
      if pager.repeats state.position page then .leave (finish false)
      else if !page.nextPage pager.library || page.rawItems.isEmpty then .leave (finish true)
      else if maxPages.any fun pages => pages ≤ (state.page : ℤ) then .leave (finish false)
      else
        match pager.advance state.position page with
        | none => .leave (finish false)
        | some position =>
            .again
              { requests := requests, orders := orders, seen := seen, position := position
                page := state.page + 1, totalCount := totalCount }

def list (post : Request → Except Failure Json) (maxPages : Option ℤ) (turns : ℕ) :
    Option (Listing Request Order) :=
  if maxPages.any fun pages => pages < 1 then
    some { requests := [], outcome := .error (.valueError "max_pages must be positive") }
  else WhileLoop.run (pager.turn post maxPages) turns { position := pager.start }

end Pager

structure SoldRequest where
  pageNumber : ℕ
  rowsPerPage : ℕ := 30
  orderIds : String := ""
  queryCode : String
  orderSearchParam : String := "\x7b\x7d"

/-- `text.strip().upper()` -/
def normalizeCode (text : String) : String :=
  String.ofList ((strip text).toList.flatMap upperChar)

/-- The `OrderSyncError` for a `ProductPublishError` while sold orders are listed. -/
def translateSold (error : PlatformError) : OrderSyncError :=
  let permissionDenied := containsAny ["权限", "PERMISSION_EXCEPTION"] error.message
  { kind := if permissionDenied then .permission else .platform error.kind
    message :=
      if permissionDenied then
        "账号暂无闲鱼卖家中心订单列表权限；请先确认该账号能在卖家中心打开订单管理页"
      else replaceAll "发布" "订单同步" error.message
    retryable := error.retryable
    rawResponse := error.rawResponse }

def soldPager (library : OrderLibrary) (queryCode : String) :
    Pager SoldRequest SellerOrder Unit where
  library := library
  operation := "同步闲鱼已售订单"
  translate := translateSold
  request page _ := { pageNumber := page, queryCode := queryCode }
  listing response := (Json.get (Json.get response.asObject "data").asObject "module").asObject
  parseOrder := library.parseSoldOrder
  orderId := SellerOrder.orderId
  start := ()
  repeats _ _ := false
  advance _ _ := some ()

def listSoldOrders (library : OrderLibrary) (post : SoldRequest → Except Failure Json)
    (queryCode : String) (maxPages : Option ℤ) (turns : ℕ) :
    Option (Listing SoldRequest SellerOrder) :=
  if normalizeCode queryCode ∉ ["ALL", "NOT_SHIP"] then
    some
      { requests := [], outcome := .error (.valueError "query_code must be ALL or NOT_SHIP") }
  else (soldPager library (normalizeCode queryCode)).list post maxPages turns

structure BoughtRequest where
  pageNumber : ℕ
  orderStatus : String
  offsetRow : Option Json := none

def buyerOrderStatuses : List String :=
  ["ALL", "NOT_PAY", "NOT_SHIP", "SHIPPED", "NOT_RATE", "REFUND"]

structure BoughtPosition where
  offsetRow : Json := .null
  previousPageIds : Option (List String) := none
  seenCursors : List String := []

/-- `offset_row`, unless it is `None` or empty. -/
def sentOffset : Json → Option Json
  | .null => none
  | .str text => if text = "" then none else some (.str text)
  | value => some value

def pageSignature (page : OrderPage BuyerOrder) : List String :=
  page.orders.map fun order => order.orderId.text

def advanceBought (library : OrderLibrary) (position : BoughtPosition)
    (page : OrderPage BuyerOrder) : Option BoughtPosition :=
  let nextOffset := Json.get page.listing "lastEndRow"
  let cursorKey := library.cursorKey nextOffset
  if cursorKey = "" ∨ cursorKey ∈ position.seenCursors then none
  else
    some
      { offsetRow := nextOffset
        previousPageIds := some (pageSignature page)
        seenCursors := cursorKey :: position.seenCursors }

def boughtPager (library : OrderLibrary) (orderStatus : String) :
    Pager BoughtRequest BuyerOrder BoughtPosition where
  library := library
  operation := "同步闲鱼买入订单"
  translate error :=
    { kind := .platform error.kind
      message := replaceAll "发布" "买入订单同步" error.message
      retryable := error.retryable
      rawResponse := error.rawResponse }
  request page position :=
    { pageNumber := page, orderStatus := orderStatus, offsetRow := sentOffset position.offsetRow }
  listing response := (Json.get response.asObject "data").asObject
  parseOrder := library.parseBoughtOrder
  orderId := BuyerOrder.orderId
  start := {}
  repeats position page :=
    !(pageSignature page).isEmpty && position.previousPageIds = some (pageSignature page)
  advance := advanceBought library

def listBoughtOrders (library : OrderLibrary) (post : BoughtRequest → Except Failure Json)
    (orderStatus : String) (maxPages : Option ℤ) (turns : ℕ) :
    Option (Listing BoughtRequest BuyerOrder) :=
  if normalizeCode orderStatus ∉ buyerOrderStatuses then
    some
      { requests := []
        outcome := .error (.valueError
          ("unsupported buyer order status: " ++ normalizeCode orderStatus)) }
  else (boughtPager library (normalizeCode orderStatus)).list post maxPages turns

end XianyuAdmin.Orders
