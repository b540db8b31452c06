import XianyuAdmin.Cards.ItemLinks

/-!
# Cards and item contexts of a payload

The parser walks through a payload, through JSON that is embedded in its texts
as well, and reads product and order fields under several names each.  The
names of one field are a Python set: the order in which they are tried is the
process's own, and is a parameter here.
-/

namespace XianyuAdmin.Cards

open XianyuAdmin.Python

def itemIdKeys : List String :=
  ["itemid", "item_id", "itemId", "itemID", "auctionid", "auctionId"]

def orderIdKeys : List String :=
  ["orderid", "order_id", "orderId", "bizorderid", "bizOrderId", "tradeid", "trade_id",
    "tradeId", "orderNo"]

def titleKeys : List String :=
  ["title", "itemtitle", "itemTitle", "subject", "name", "itemName", "goodsTitle"]

def priceKeys : List String :=
  ["price", "amount", "payAmount", "actualFee", "salePrice", "currentPrice"]

def statusKeys : List String :=
  ["status", "statusText", "orderStatus", "tradeStatus", "tradeStatusText"]

def imageKeys : List String :=
  ["image", "imageUrl", "picUrl", "pictureUrl", "mainPic", "mainImage", "cover", "coverUrl",
    "url"]

def urlKeys : List String := ["targetUrl", "itemUrl", "jumpUrl", "detailUrl", "url"]

structure KeyOrders where
  itemId : List String
  orderId : List String
  title : List String
  price : List String
  status : List String
  image : List String
  url : List String
  itemId_perm : itemId.Perm itemIdKeys
  orderId_perm : orderId.Perm orderIdKeys
  title_perm : title.Perm titleKeys
  price_perm : price.Perm priceKeys
  status_perm : status.Perm statusKeys
  image_perm : image.Perm imageKeys
  url_perm : url.Perm urlKeys

def KeyOrders.written : KeyOrders where
  itemId := itemIdKeys
  orderId := orderIdKeys
  title := titleKeys
  price := priceKeys
  status := statusKeys
  image := imageKeys
  url := urlKeys
  itemId_perm := .refl _
  orderId_perm := .refl _
  title_perm := .refl _
  price_perm := .refl _
  status_perm := .refl _
  image_perm := .refl _
  url_perm := .refl _

/-- The members of a `dict`. -/
abbrev Members := List (String × Json)

/-- What the standard library decodes; `none` is an exception that the parser catches. -/
structure Decoders where
  /-- `json.loads`. -/
  loads : String → Option Json
  /-- `base64.b64decode(text + padding, validate=True).decode("utf-8")`. -/
  decodeStrict : String → Option String
  /-- The same without `validate`. -/
  decodeLoose : String → Option String

variable (decoders : Decoders)

/-- `text.startswith(("\x7b", "["))`. -/
def opensJson (text : String) : Bool :=
  text.toList.head? = some '\x7b' || text.toList.head? = some '['

/-- `_maybe_json` of a text; `none` where the text itself is returned. -/
def maybeJson (text : String) : Option Json :=
  if opensJson (strip text) then decoders.loads (strip text) else none

def base64Json (text : String) : Option Json :=
  if text.length < 8 ∨ 2000000 < text.length then none
  else
    (decoders.decodeStrict text).bind fun decoded =>
      if opensJson (strip decoded) then decoders.loads (strip decoded) else none

def decodeEmbeddedValue : Json → Json
  | .str text =>
      (maybeJson decoders text).getD ((base64Json decoders (strip text)).getD (.str text))
  | value => value

/-- `_walk_payload` with `levels` levels left. -/
def walkFrom : ℕ → Json → List Json
  | 0, _ => []
  | levels + 1, value =>
      let decoded := decodeEmbeddedValue decoders value
      decoded :: match decoded with
        | .obj members => members.flatMap fun member => walkFrom levels member.2
        | .arr items => items.flatMap (walkFrom levels)
        | _ => []

/-- `_walk_payload`: the depths 0 to 8. -/
def walkPayload (value : Json) : List Json := walkFrom decoders 9 value

def dictNodes (value : Json) : List Members :=
  (walkPayload decoders value).filterMap fun
    | .obj members => some members
    | _ => none

/-- `lowered.get(key.lower())`: of two names with one spelling the later counts. -/
def actualKey (node : Members) (key : String) : Option String :=
  ((node.filter fun member => lower member.1 = lower key).getLast?).map Prod.fst

def valueUnder (node : Members) (key : String) : Option String :=
  (actualKey node key).bind fun actual => normalizeScalar (Json.get node actual)

/-- `_first_value`, over the keys in their order. -/
def firstValue (node : Members) (keys : List String) : Option String :=
  keys.findSome? (valueUnder node)

/-- `text.startswith(("http://", "https://"))`. -/
def isHttp (text : String) : Bool :=
  "http://".toList.isPrefixOf text.toList || "https://".toList.isPrefixOf text.toList

def entryImage (nested : Option String) : Json → Option String
  | .obj _ => nested
  | value => (normalizeScalar value).filter isHttp

mutual

/-- `_first_image` of a `dict`; of a list the part of it that goes through the list. -/
def firstImage (keys : List String) : Json → Option String
  | .obj node => ((firstValue node keys).filter isHttp).or (firstImageOfChildren keys node)
  | .arr items => firstImageOfItems keys items
  | _ => none

def firstImageOfChildren (keys : List String) : Members → Option String
  | [] => none
  | (_, child) :: rest => (firstImage keys child).or (firstImageOfChildren keys rest)

def firstImageOfItems (keys : List String) : List Json → Option String
  | [] => none
  | item :: rest =>
      (entryImage (firstImage keys item) item).or (firstImageOfItems keys rest)

end

/-- `keys.intersection(names)` is not empty, where `keys` are the names in lower case. -/
def hasKey (node : Members) (names : List String) : Bool :=
  node.any fun member => lower member.1 ∈ names

def looksLikeItemCard (node : Members) : Bool :=
  hasKey node ["itemcard", "itemid", "item_id", "auctionid"] &&
    hasKey node ["title", "itemtitle", "price", "mainpic", "picurl", "imageurl"]

def looksLikeOrderCard (node : Members) : Bool :=
  hasKey node (orderIdKeys.map lower)

/-- `_summary`: the first twenty scalars. -/
def summary (node : Members) : Members :=
  (node.filter fun member =>
    match member.2 with
    | .arr _ | .obj _ => false
    | _ => true).take 20

structure ParsedMessageCard where
  cardType : String
  itemId : Option String := none
  orderId : Option String := none
  title : Option String := none
  price : Option String := none
  status : Option String := none
  imageUrl : Option String := none
  url : Option String := none
  rawSummary : Members := []

def parseDictNode (orders : KeyOrders) (node : Members) : Option ParsedMessageCard :=
  if !looksLikeItemCard node && !looksLikeOrderCard node then none
  else
    let itemId := firstValue node orders.itemId
    let orderId := firstValue node orders.orderId
    let title := firstValue node orders.title
    let price := firstValue node orders.price
    let imageUrl := firstImage orders.image (.obj node)
    let card : ParsedMessageCard :=
      { cardType := "order", itemId := itemId, orderId := orderId, title := title
        price := price, status := firstValue node orders.status, imageUrl := imageUrl
        url := firstValue node orders.url, rawSummary := summary node }
    if orderId.isSome then some card
    else if itemId.isSome ∧ 2 ≤ [itemId, title, price, imageUrl].countP Option.isSome then
      some { card with cardType := "product" }
    else none

def findCustom (payload : Json) : Members :=
  ((dictNodes decoders payload).findSome? fun node =>
    match Json.get node "custom" with
    | .obj custom => if (Json.get custom "data").isTrue then some custom else none
    | _ => none).getD []

def decodeCustomData : Json → Members
  | .obj members => members
  | .str text =>
      match maybeJson decoders text with
      | some (.obj members) => members
      | _ =>
          (((decoders.decodeLoose (strip text)).bind decoders.loads).map Json.asObject).getD []
  | _ => []

/-- `current.get(key)` along `keys`, `none` once a value is no `dict`. -/
def nestedValue (value : Json) (keys : List String) : Option Json :=
  keys.foldl (fun current key => current.bind fun found =>
    match found with
    | .obj members => some (Json.get members key)
    | _ => none) (some value)

def nestedDict (value : Json) (keys : List String) : Members :=
  ((nestedValue value keys).getD .null).asObject

def nestedScalar (value : Json) (keys : List String) : Option String :=
  (nestedValue value keys).bind normalizeScalar

def extensions (value : Json) : List Members :=
  (dictNodes decoders value).filterMap fun node =>
    match Json.get node "extension" with
    | .obj extension => some extension
    | _ => none

/-- `_find_message_extension`: the first one with a known key, else the first one that is not
empty. -/
def findMessageExtension (value : Json) : Members :=
  let found := extensions decoders value
  ((found.find? fun extension => extension.any fun member =>
    member.1 ∈ ["reminderUrl", "bizTag", "reminderContent"]).or
      (found.find? fun extension => !extension.isEmpty)).getD []

def parseUrlQuery (links : Links) (value : Option String) : List (String × List String) :=
  match value with
  | none => []
  | some url => ((links.urlparse url).map fun parts => links.parseQs parts.query).getD []

def orderStateRules : List (List String × String × String) :=
  [(["关闭了订单", "订单关闭", "交易关闭"], "closed", "closed"),
    (["交易成功", "你已确认收货", "已确认收货", "完成了评价", "已完成"], "completed", "completed"),
    (["卖家已发货", "已发货", "提醒收货", "及时确认收货", "记得确认收货"], "shipped", "shipped"),
    (["已付款", "等待你发货", "待卖家发货", "待发货"], "paid", "paid_waiting_delivery"),
    (["待付款", "等待你付款", "修改价格"], "pending_payment", "pending_payment")]

def normalizeOrderState (value : String) : String × String :=
  ((orderStateRules.find? fun rule =>
    containsAny rule.1 (lower (strip value))).map Prod.snd).getD ("updated", "unknown")

def isTradeTip (value : String) : Bool :=
  containsAny ["订单", "交易成功", "确认收货", "卖家已发货", "等待你发货", "待付款", "已付款",
    "完成了评价"] (lower (strip value))

def priceAt (chars : List Char) : Option String :=
  let rest := chars.dropWhile isSpace
  let whole := rest.takeWhile Char.isDigit
  if whole = [] then none
  else
    match rest.dropWhile Char.isDigit with
    | '.' :: more =>
        let cents := (more.take 2).takeWhile Char.isDigit
        some (String.ofList (if cents = [] then whole else whole ++ '.' :: cents))
    | _ => some (String.ofList whole)

def priceIn : List Char → Option String
  | [] => none
  | char :: chars =>
      if char = '¥' ∨ char = '￥' then (priceAt chars).or (priceIn chars) else priceIn chars

def extractPrice (value : String) : Option String := priceIn value.toList

structure ParsedOrderEvent where
  eventType : String
  status : String
  statusText : String
  orderId : Option String
  itemId : Option String
  title : Option String
  price : Option String
  imageUrl : Option String
  peerUserId : Option String
  taskName : Option String
  tradeRole : String
  rawSummary : Members

/-- `text.endswith(suffix)`. -/
def endsWith (suffix text : String) : Bool := suffix.toList.isSuffixOf text.toList

def tradeRole (roleText taskRoleText : String) : String :=
  if roleText = "seller" ∨ endsWith "_卖家" taskRoleText ∨ contains "_seller" taskRoleText then
    "seller"
  else if roleText = "buyer" ∨ endsWith "_买家" taskRoleText ∨
      contains "_buyer" taskRoleText then
    "buyer"
  else "unknown"

/-- The task's name, from the card or from the message's `bizTag`. -/
def taskNameOf (cardData extension : Members) : Option String :=
  (nestedScalar (.obj cardData) ["dxCard", "item", "extension", "bizTag", "taskName"]).or
    (match Json.get extension "bizTag" with
      | .obj bizTag => normalizeScalar (Json.get bizTag "taskName")
      | .str text =>
          normalizeScalar (Json.get ((maybeJson decoders text).getD .null).asObject "taskName")
      | _ => none)

/-- `filter(None, ...)` over texts that may be absent. -/
def present (texts : List (Option String)) : List String :=
  texts.reduceOption.filter (· ≠ "")

def cardDataOf (payload : Json) : Members :=
  decodeCustomData decoders (Json.get (findCustom decoders payload) "data")

def cardMainOf (payload : Json) : Members :=
  nestedDict (.obj (cardDataOf decoders payload)) ["dxCard", "item", "main"]

def exContentOf (payload : Json) : Members :=
  (Json.get (cardMainOf decoders payload) "exContent").asObject

/-- `parse_order_event` of a payload that is a `dict`. -/
def orderEventOf (links : Links) (orders : KeyOrders) (content : String)
    (fallbackItemId fallbackPeerUserId : Option String) (payload : Json) :
    Option ParsedOrderEvent :=
  let cardData := cardDataOf decoders payload
  let cardMain := cardMainOf decoders payload
  let exContent := exContentOf decoders payload
  let extension := findMessageExtension decoders payload
  let reminder := parseUrlQuery links (normalizeScalar (Json.get extension "reminderUrl"))
  let targetUrl := normalizeScalar (Json.get cardMain "targetUrl")
  let target := parseUrlQuery links targetUrl
  let orderId := queryValue target ["id", "orderId", "order_id"]
  let title := normalizeScalar (Json.get exContent "title")
  let description := normalizeScalar (Json.get exContent "desc")
  let taskName := taskNameOf decoders cardData extension
  let updateKey :=
    nestedScalar (.obj cardData) ["dxCard", "item", "extension", "extJson", "updateKey"]
  let statusSource :=
    " ".intercalate (present [some content, title, description, taskName, updateKey])
  let role := tradeRole (lower (strip ((queryValue target ["role"]).getD "")))
    (lower (strip (taskName.getD "")))
  let isDxOrder := !cardMain.isEmpty &&
    (orderId.isSome || contains "order" (lower (targetUrl.getD "")))
  if !isDxOrder && !isTradeTip statusSource then none
  else
    some
      { eventType := (normalizeOrderState statusSource).1
        status := (normalizeOrderState statusSource).2
        statusText := cut 255
          ((present [title, description, some (strip content), taskName]).headD "订单状态更新")
        orderId := orderId
        itemId := (queryValue reminder ["itemId", "item_id", "itemid"]).or fallbackItemId
        title := title
        price := extractPrice (description.getD "")
        imageUrl := firstImage orders.image (.obj exContent)
        peerUserId := (queryValue reminder ["userId", "peerUserId", "peer_user_id"]).or
          fallbackPeerUserId
        taskName := taskName
        tradeRole := role
        rawSummary :=
          [("source", .str (if isDxOrder then "dx_card" else "trade_tip")),
            ("target_url", ofText targetUrl), ("task_name", ofText taskName),
            ("update_key", ofText updateKey), ("description", ofText description),
            ("trade_role", .str role)] }

/-- `payload` in `parse_order_event`, if it is a `dict`. -/
def eventPayload (rawPayload : Json) : Option Json :=
  match rawPayload with
  | .obj _ => some rawPayload
  | .str text => (maybeJson decoders text).filter fun
      | .obj _ => true
      | _ => false
  | _ => none

def parseOrderEvent (links : Links) (orders : KeyOrders) (rawPayload : Json) (content : String)
    (fallbackItemId fallbackPeerUserId : Option String) : Option ParsedOrderEvent :=
  (eventPayload decoders rawPayload).bind
    (orderEventOf decoders links orders content fallbackItemId fallbackPeerUserId)

def ParsedMessageCard.key (card : ParsedMessageCard) :
    String × Option String × Option String × Option String :=
  (card.cardType, card.itemId, card.orderId, card.title)

def addCard (cards : List ParsedMessageCard) (card : ParsedMessageCard) :
    List ParsedMessageCard :=
  if card.key ∈ cards.map ParsedMessageCard.key then cards else cards ++ [card]

def orderCard (event : ParsedOrderEvent) : ParsedMessageCard where
  cardType := "order"
  itemId := event.itemId
  orderId := event.orderId
  title := event.title
  price := event.price
  status := some event.statusText
  imageUrl := event.imageUrl
  url := (Json.get event.rawSummary "target_url").asString?
  rawSummary := event.rawSummary

def parseMessageCards (links : Links) (orders : KeyOrders) (rawPayload : Json)
    (content : String) (fallbackItemId : Option String) : List ParsedMessageCard :=
  let parsed := (dictNodes decoders rawPayload).filterMap (parseDictNode orders)
  let cards := parsed.foldl addCard []
  let event := parseOrderEvent decoders links orders rawPayload content fallbackItemId none
  (event.elim cards fun found => addCard cards (orderCard found)).take 5

def contextOf (orders : KeyOrders) (node : Members) : Option ParsedItemContext :=
  (firstValue node orders.itemId).map fun itemId =>
    { itemId := itemId
      title := firstValue node orders.title
      price := firstValue node orders.price
      imageUrl := firstImage orders.image (.obj node)
      url := firstValue node orders.url
      source :=
        if node.any (fun member => member.1 = "itemCard") || looksLikeItemCard node then
          "item_card"
        else "message" }

def contextScore (context : ParsedItemContext) : ℕ :=
  [context.title, context.price, context.imageUrl, context.url].countP Option.isSome

def betterContext (best : Option ParsedItemContext) (candidate : ParsedItemContext) :
    Option ParsedItemContext :=
  match best with
  | none => some candidate
  | some found => if contextScore found < contextScore candidate then some candidate else best

def parseItemContext (links : Links) (orders : KeyOrders) (rawPayload : Json)
    (fallbackItemId : Option String) : Option ParsedItemContext :=
  let candidates := (dictNodes decoders rawPayload).filterMap (contextOf orders)
  let best := candidates.foldl betterContext none
  let extension := findMessageExtension decoders rawPayload
  let reminderUrl := normalizeScalar (Json.get extension "reminderUrl")
  let reminderItemId :=
    queryValue (parseUrlQuery links reminderUrl) ["itemId", "item_id", "itemid"]
  match best with
  | none =>
      ((reminderItemId.or fallbackItemId).filter (· ≠ "")).map fun itemId =>
        { itemId := itemId, url := reminderUrl
          source := if reminderItemId.isSome then "reminder_url" else "message" }
  | some found => some (if found.url.isSome then found else { found with url := reminderUrl })

end XianyuAdmin.Cards
