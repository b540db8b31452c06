import XianyuAdmin.AutoReply.Rules

/-!
# The context of an auto reply

What is known about a message, its conversation and its order is put into one
value with named groups.  Templates name its entries between double braces, and
the fields of it that a rule lists are handed to the AI provider.
-/

namespace XianyuAdmin.AutoReply

open XianyuAdmin.Python

/-- The columns of `xianyu_conversations` that auto replies read. -/
structure Conversation where
  accountId : String
  conversationId : String
  peerUserId : Option String := none
  peerName : Option String := none
  itemId : Option String := none
  itemTitle : Option String := none
  itemPrice : Option String := none
  itemImageUrl : Option String := none
  itemUrl : Option String := none
  manualTakeoverUntil : Option ℕ := none
  manualTakeoverMode : Option String := none
  deriving DecidableEq, Repr

/-- The columns of `xianyu_orders` that auto replies read. -/
structure Order where
  accountId : String
  conversationId : String
  itemId : Option String := none
  platformOrderId : Option String := none
  status : String := "unknown"
  statusText : Option String := none
  price : Option String := none
  quantity : Option ℤ := none
  tradeRole : Option String := none
  createdAt : ℕ := 0
  updatedAt : ℕ := 0
  deriving DecidableEq, Repr

/-- What the context reads of a message; an attribute that the object lacks is
`none`. -/
structure InboundMessage where
  conversationId : Option String := none
  peerUserId : Option String := none
  peerName : Option String := none
  messageId : Option String := none
  messageType : Option String := none
  itemId : Option String := none
  /-- `attachment_type` and `remote_url`. -/
  attachments : List (String × Option String) := []
  createdAt : Option ℕ := none
  deriving DecidableEq, Repr

def isFuture (now : ℕ) (value : Option ℕ) : Bool :=
  value.any fun value => now < value

inductive TakeoverMode
  | auto
  | temporary
  | permanent
  deriving DecidableEq, Repr

def manualTakeoverMode (now : ℕ) (conversation : Conversation) : TakeoverMode :=
  let mode := Python.lower (conversation.manualTakeoverMode.getD "")
  if mode = "permanent" then .permanent
  else if mode = "temporary" then
    if isFuture now conversation.manualTakeoverUntil then .temporary else .auto
  else if isFuture now conversation.manualTakeoverUntil then .temporary
  else .auto

def manualTakeoverActive (now : ℕ) (conversation : Conversation) : Bool :=
  manualTakeoverMode now conversation ≠ .auto

def optionalText (value : Option String) : Json :=
  value.elim .null .str

/-- `_latest_auto_reply_order`: the order that was changed last, of the
conversation or of the item. -/
def latestAutoReplyOrder (orders : List Order) (accountId : String)
    (conversationId itemId : Option String) : Option Order :=
  if !truthy conversationId && !truthy itemId then none
  else
    let inScope := orders.filter fun order =>
      order.accountId = accountId &&
        (truthy conversationId && some order.conversationId = conversationId ||
          truthy itemId && order.itemId = itemId)
    (inScope.insertionSort fun left right =>
      toLex (right.updatedAt, right.createdAt) ≤ toLex (left.updatedAt, left.createdAt)).head?

def buildAutoReplyContext (library : Library) (now : ℕ) (account : Account)
    (conversation : Option Conversation) (order : Option Order)
    (inboundMessage : Option InboundMessage) (content : String) (itemId : Option String) :
    Json :=
  let inbound := inboundMessage.getD {}
  let imageUrls :=
    ((inbound.attachments.filterMap Prod.snd).filter (· ≠ "")).take 9
  .obj
    [("platform", .obj
        [("code", .str (if account.platform = "" then "xianyu" else account.platform)),
          ("name", .str "闲鱼")]),
      ("account", .obj
        [("id", .str account.accountId), ("name", .str account.displayName)]),
      ("sender", .obj
        [("id", optionalText
            (orElse inbound.peerUserId (conversation.bind Conversation.peerUserId))),
          ("name", optionalText
            (orElse inbound.peerName (conversation.bind Conversation.peerName)))]),
      ("conversation", .obj
        [("id", optionalText
            (orElse inbound.conversationId (conversation.map Conversation.conversationId)))]),
      ("message", .obj
        [("id", optionalText inbound.messageId),
          ("type", optionalText (orElse inbound.messageType (some "text"))),
          ("text", .str content),
          ("time", optionalText (inbound.createdAt.map library.isoformat)),
          ("image_urls", .arr (imageUrls.map .str)),
          ("image_count", .int imageUrls.length)]),
      ("item", .obj
        [("id", optionalText (orElse itemId (conversation.bind Conversation.itemId))),
          ("title", optionalText (conversation.bind Conversation.itemTitle)),
          ("price", optionalText (conversation.bind Conversation.itemPrice)),
          ("image_url", optionalText (conversation.bind Conversation.itemImageUrl)),
          ("url", optionalText (conversation.bind Conversation.itemUrl))]),
      ("order", .obj
        [("id", optionalText (order.bind Order.platformOrderId)),
          ("status", optionalText
            (order.bind fun order => orElse order.statusText (some order.status))),
          ("price", optionalText (order.bind Order.price)),
          ("quantity", (order.bind Order.quantity).elim .null .int),
          ("trade_role", optionalText (order.bind Order.tradeRole))]),
      ("system", .obj
        [("now", .str (library.isoformat now)), ("timezone", .str "UTC")])]

/-- The member of that name, if the value is a `dict` that has one. -/
def child? (value : Json) (name : String) : Option Json :=
  match value with
  | .obj members => (members.find? fun member => member.1 = name).map Prod.snd
  | _ => none

def valueAt (context : Json) (parts : List String) : Option Json :=
  parts.foldlM child? context

/-- `value[name] = replacement` on the members of a `dict`. -/
def setMember (members : List (String × Json)) (name : String) (replacement : Json) :
    List (String × Json) :=
  if members.any fun member => member.1 = name then
    members.map fun member => if member.1 = name then (name, replacement) else member
  else members ++ [(name, replacement)]

/-- The walk to the last name of a path, on which missing `dict`s are made, and
the assignment there. -/
def setValueAt (target : List (String × Json)) (source : Json) :
    List String → List (String × Json)
  | [] => target
  | [last] => setMember target last source
  | part :: parts =>
      let child := (target.find? fun member => member.1 = part).elim [] fun member =>
        member.2.asObject
      setMember target part (.obj (setValueAt child source parts))

def pathParts (fieldPath : String) : List String :=
  ((fieldPath.toList.splitOnP (· = '.')).filter (! ·.isEmpty)).map String.ofList

def selectAutoReplyContext (context : Json) (fields : List String) : List (String × Json) :=
  fields.foldl (fun selected fieldPath =>
    match valueAt context (pathParts fieldPath) with
    | none | some .null => selected
    | some source => setValueAt selected source (pathParts fieldPath)) []

def defaultAutoReplyContextFields : List String :=
  ["account.name", "sender.id", "sender.name", "message.text", "message.time", "item.id",
    "item.title", "item.price", "order.id", "order.status", "order.price",
    "conversation.id"]

def contextFieldsOf (library : Library) (rule : AutoReplyRule) : List String :=
  let fields := loadStringList library rule.contextFields
  if fields.isEmpty then defaultAutoReplyContextFields else fields

def isNameStart (char : Char) : Bool := 'a' ≤ char && char ≤ 'z'

def isNameChar (char : Char) : Bool :=
  isNameStart char || '0' ≤ char && char ≤ '9' || char = '_'

/-- `[a-z][a-z0-9_]*` at the start of the text: the name and the rest. -/
def scanName : List Char → Option (List Char × List Char)
  | [] => none
  | char :: chars =>
      if isNameStart char then some ((char :: chars).span isNameChar) else none

/-- `(?:\.[a-z][a-z0-9_]*)*` at the start of the text, as far as it goes. -/
def scanNames : ℕ → List Char → List String × List Char
  | fuel + 1, '.' :: chars =>
      match scanName chars with
      | none => ([], '.' :: chars)
      | some (name, rest) =>
          (String.ofList name :: (scanNames fuel rest).1, (scanNames fuel rest).2)
  | _, chars => ([], chars)

/-- A placeholder at the start of the text: the names on its path, and what
follows it.  No shorter path can match where the longest one does not, because a
name is followed by a blank or a brace. -/
def placeholder? : List Char → Option (List String × List Char)
  | '\x7b' :: '\x7b' :: chars =>
      match scanName (chars.dropWhile isSpace) with
      | none => none
      | some (name, rest) =>
          match scanNames rest.length rest with
          | ([], _) => none
          | (names, rest) =>
              match rest.dropWhile isSpace with
              | '\x7d' :: '\x7d' :: chars => some (String.ofList name :: names, chars)
              | _ => none
  | _ => none

/-- `str(value)` of what a placeholder names; nothing for a path that leads
nowhere. -/
def placeholderText (context : Json) (parts : List String) : String :=
  match valueAt context parts with
  | none | some .null => ""
  | some (.arr items) => ", ".intercalate (items.map fun item => item.scalarText.getD item.dumps)
  | some value => value.scalarText.getD value.dumps

/-- `pattern.sub` on characters; `skip` of them belong to a placeholder that was
replaced. -/
def renderChars (context : Json) : ℕ → List Char → List Char
  | _, [] => []
  | skip + 1, _ :: chars => renderChars context skip chars
  | 0, char :: chars =>
      match placeholder? (char :: chars) with
      | some (parts, rest) =>
          (placeholderText context parts).toList ++
            renderChars context (chars.length - rest.length) chars
      | none => char :: renderChars context 0 chars

def renderAutoReplyTemplate (template : String) (context : Json) : String :=
  String.ofList (renderChars context 0 template.toList)

end XianyuAdmin.AutoReply
