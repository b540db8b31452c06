import XianyuAdmin.Cards.CardParser

/-!
# What the order of the names decides

A field that a node has under several names is read under the first of them,
so that its value depends on the order exactly if two of the names carry
different values.
-/

namespace XianyuAdmin.Cards

section FirstHit

variable {α β : Type*}

def HitsAgree (read : α → Option β) (names : List α) : Prop :=
  ∀ first ∈ names, ∀ second ∈ names, ∀ value other,
    read first = some value → read second = some other → value = other

instance [DecidableEq β] (read : α → Option β) (names : List α) :
    Decidable (HitsAgree read names) :=
  decidable_of_iff (∀ first ∈ names, ∀ second ∈ names,
    read first = none ∨ read second = none ∨ read first = read second) (by
      refine forall₂_congr fun first _ => forall₂_congr fun second _ => ?_
      cases read first <;> cases read second <;> simp)

variable {read : α → Option β}

theorem exists_perm_findSome? {names : List α} {name : α} {value : β} (hname : name ∈ names)
    (hvalue : read name = some value) :
    ∃ order : List α, order.Perm names ∧ order.findSome? read = some value := by
  obtain ⟨front, back, rfl⟩ := List.append_of_mem hname
  exact ⟨name :: (front ++ back), List.perm_middle.symm, by simp [hvalue]⟩

theorem findSome?_eq_of_agree {names first second : List α} (hagree : HitsAgree read names)
    (hfirst : first.Perm names) (hsecond : second.Perm names) :
    first.findSome? read = second.findSome? read := by
  cases hread : first.findSome? read with
  | none =>
      rw [List.findSome?_eq_none_iff] at hread
      symm
      rw [List.findSome?_eq_none_iff]
      exact fun name hname => hread name ((hsecond.trans hfirst.symm).subset hname)
  | some value =>
      obtain ⟨name, hname, hvalue⟩ := List.exists_of_findSome?_eq_some hread
      cases hother : second.findSome? read with
      | none =>
          rw [List.findSome?_eq_none_iff] at hother
          rw [hother name ((hfirst.trans hsecond.symm).subset hname)] at hvalue
          cases hvalue
      | some other =>
          obtain ⟨name', hname', hvalue'⟩ := List.exists_of_findSome?_eq_some hother
          rw [hagree name (hfirst.subset hname) name' (hsecond.subset hname') value other
            hvalue hvalue']

/-- The order does not matter exactly if the names that carry a value agree. -/
theorem findSome?_orderless_iff {names : List α} :
    (∀ first second : List α, first.Perm names → second.Perm names →
      first.findSome? read = second.findSome? read) ↔ HitsAgree read names := by
  constructor
  · intro hsame name hname name' hname' value other hvalue hother
    obtain ⟨first, hfirst, hread⟩ := exists_perm_findSome? hname hvalue
    obtain ⟨second, hsecond, hread'⟩ := exists_perm_findSome? hname' hother
    rw [hsame first second hfirst hsecond, hread'] at hread
    exact (Option.some.inj hread).symm
  · exact fun hagree first second => findSome?_eq_of_agree hagree

end FirstHit

def Unambiguous (node : Members) (keys : List String) : Prop :=
  HitsAgree (valueUnder node) keys

instance (node : Members) (keys : List String) : Decidable (Unambiguous node keys) :=
  inferInstanceAs (Decidable (HitsAgree (valueUnder node) keys))

/-- A field is read alike in all orders exactly if it is unambiguous. -/
theorem firstValue_orderless_iff (node : Members) (keys : List String) :
    (∀ first second : List String, first.Perm keys → second.Perm keys →
      firstValue node first = firstValue node second) ↔ Unambiguous node keys :=
  findSome?_orderless_iff

def imageUnder (node : Members) (key : String) : Option (Option String) :=
  (valueUnder node key).map fun value => if isHttp value then some value else none

mutual

/-- Every choice that `_first_image` makes on its way is between equal images. -/
def ImageClear : Json → Prop
  | .obj node => HitsAgree (imageUnder node) imageKeys ∧
      ((firstValue node imageKeys).filter isHttp = none → ChildrenClear node)
  | .arr items => ItemsClear items
  | _ => True

def ChildrenClear : Members → Prop
  | [] => True
  | (_, child) :: rest =>
      ImageClear child ∧ (firstImage imageKeys child = none → ChildrenClear rest)

def ItemsClear : List Json → Prop
  | [] => True
  | item :: rest =>
      ((∃ node, item = .obj node) → ImageClear item) ∧
        (entryImage (firstImage imageKeys item) item = none → ItemsClear rest)

end

theorem filter_isHttp_eq (node : Members) (keys : List String) :
    (firstValue node keys).filter isHttp = (keys.findSome? (imageUnder node)).join := by
  have hmap : keys.findSome? (imageUnder node) =
      (firstValue node keys).map fun value => if isHttp value then some value else none := by
    rw [firstValue, List.map_findSome?]
    rfl
  rw [hmap]
  cases firstValue node keys with
  | none => rfl
  | some value => by_cases hhttp : isHttp value <;> simp [Option.filter, hhttp]

variable {node : Members}

theorem filter_isHttp_orderless {keys : List String}
    (hclear : HitsAgree (imageUnder node) imageKeys) (hkeys : keys.Perm imageKeys) :
    (firstValue node keys).filter isHttp = (firstValue node imageKeys).filter isHttp := by
  rw [filter_isHttp_eq, filter_isHttp_eq, findSome?_eq_of_agree hclear hkeys (.refl _)]

mutual

variable {keys : List String}

/-- Where every choice is between equal images, the order does not matter. -/
theorem firstImage_orderless (hkeys : keys.Perm imageKeys) :
    ∀ value : Json, ImageClear value → firstImage keys value = firstImage imageKeys value
  | .obj node, hclear => by
      rw [ImageClear] at hclear
      obtain ⟨hagree, hchildren⟩ := hclear
      rw [firstImage, firstImage, filter_isHttp_orderless hagree hkeys]
      cases hown : (firstValue node imageKeys).filter isHttp with
      | some image => rfl
      | none => exact firstImageOfChildren_orderless hkeys node (hchildren hown)
  | .arr items, hclear => by
      rw [ImageClear] at hclear
      rw [firstImage, firstImage]
      exact firstImageOfItems_orderless hkeys items hclear
  | .null, _ => rfl
  | .bool _, _ => rfl
  | .int _, _ => rfl
  | .float _, _ => rfl
  | .str _, _ => rfl

theorem firstImageOfChildren_orderless (hkeys : keys.Perm imageKeys) :
    ∀ node : Members, ChildrenClear node →
      firstImageOfChildren keys node = firstImageOfChildren imageKeys node
  | [], _ => rfl
  | (_, child) :: rest, hclear => by
      rw [ChildrenClear] at hclear
      obtain ⟨hchild, hrest⟩ := hclear
      rw [firstImageOfChildren, firstImageOfChildren, firstImage_orderless hkeys child hchild]
      cases himage : firstImage imageKeys child with
      | some image => rfl
      | none => exact firstImageOfChildren_orderless hkeys rest (hrest himage)

theorem firstImageOfItems_orderless (hkeys : keys.Perm imageKeys) :
    ∀ items : List Json, ItemsClear items →
      firstImageOfItems keys items = firstImageOfItems imageKeys items
  | [], _ => rfl
  | item :: rest, hclear => by
      rw [ItemsClear] at hclear
      obtain ⟨hitem, hrest⟩ := hclear
      have hentry : entryImage (firstImage keys item) item =
          entryImage (firstImage imageKeys item) item := by
        cases item with
        | obj node =>
            rw [firstImage_orderless hkeys (.obj node) (hitem ⟨node, rfl⟩)]
        | _ => rfl
      rw [firstImageOfItems, firstImageOfItems, hentry]
      cases himage : entryImage (firstImage imageKeys item) item with
      | some image => rfl
      | none => exact firstImageOfItems_orderless hkeys rest (hrest himage)

end

structure CardClear (node : Members) : Prop where
  itemId : Unambiguous node itemIdKeys
  orderId : Unambiguous node orderIdKeys
  title : Unambiguous node titleKeys
  price : Unambiguous node priceKeys
  status : Unambiguous node statusKeys
  url : Unambiguous node urlKeys
  image : ImageClear (.obj node)

structure ContextClear (node : Members) : Prop where
  title : Unambiguous node titleKeys
  price : Unambiguous node priceKeys
  url : Unambiguous node urlKeys
  image : ImageClear (.obj node)

structure PayloadClear (decoders : Decoders) (rawPayload : Json) : Prop where
  cards : ∀ node ∈ dictNodes decoders rawPayload,
    looksLikeItemCard node = true ∨ looksLikeOrderCard node = true → CardClear node
  itemIds : ∀ node ∈ dictNodes decoders rawPayload, Unambiguous node itemIdKeys
  contexts : ∀ node ∈ dictNodes decoders rawPayload,
    firstValue node itemIdKeys ≠ none → ContextClear node
  event : ∀ payload, eventPayload decoders rawPayload = some payload →
    ImageClear (.obj (exContentOf decoders payload))

theorem Unambiguous.firstValue_eq {keys first second : List String}
    (hclear : Unambiguous node keys) (hfirst : first.Perm keys) (hsecond : second.Perm keys) :
    firstValue node first = firstValue node second :=
  findSome?_eq_of_agree hclear hfirst hsecond

theorem ImageClear.firstImage_eq {value : Json} {first second : List String}
    (hclear : ImageClear value) (hfirst : first.Perm imageKeys)
    (hsecond : second.Perm imageKeys) : firstImage first value = firstImage second value :=
  (firstImage_orderless hfirst value hclear).trans
    (firstImage_orderless hsecond value hclear).symm

theorem parseDictNode_eq (first second : KeyOrders)
    (hclear : looksLikeItemCard node = true ∨ looksLikeOrderCard node = true →
      CardClear node) :
    parseDictNode first node = parseDictNode second node := by
  by_cases hcard : looksLikeItemCard node = true ∨ looksLikeOrderCard node = true
  · obtain ⟨hitemId, horderId, htitle, hprice, hstatus, hurl, himage⟩ := hclear hcard
    rw [parseDictNode, parseDictNode,
      hitemId.firstValue_eq first.itemId_perm second.itemId_perm,
      horderId.firstValue_eq first.orderId_perm second.orderId_perm,
      htitle.firstValue_eq first.title_perm second.title_perm,
      hprice.firstValue_eq first.price_perm second.price_perm,
      hstatus.firstValue_eq first.status_perm second.status_perm,
      hurl.firstValue_eq first.url_perm second.url_perm,
      himage.firstImage_eq first.image_perm second.image_perm]
  · have hplain : (!looksLikeItemCard node && !looksLikeOrderCard node) = true := by
      simpa using hcard
    rw [parseDictNode, parseDictNode, if_pos hplain, if_pos hplain]

theorem contextOf_eq (first second : KeyOrders) (hitemId : Unambiguous node itemIdKeys)
    (hclear : firstValue node itemIdKeys ≠ none → ContextClear node) :
    contextOf first node = contextOf second node := by
  rw [contextOf, contextOf, hitemId.firstValue_eq first.itemId_perm second.itemId_perm]
  cases hid : firstValue node second.itemId with
  | none => rfl
  | some itemId =>
      have hsome : firstValue node itemIdKeys ≠ none := by
        rw [hitemId.firstValue_eq (.refl _) second.itemId_perm, hid]
        exact Option.some_ne_none itemId
      obtain ⟨htitle, hprice, hurl, himage⟩ := hclear hsome
      rw [htitle.firstValue_eq first.title_perm second.title_perm,
        hprice.firstValue_eq first.price_perm second.price_perm,
        hurl.firstValue_eq first.url_perm second.url_perm,
        himage.firstImage_eq first.image_perm second.image_perm]

theorem parseOrderEvent_eq {decoders : Decoders} {rawPayload : Json}
    (hclear : ∀ payload, eventPayload decoders rawPayload = some payload →
      ImageClear (.obj (exContentOf decoders payload)))
    (first second : KeyOrders) (links : Links) (content : String)
    (fallbackItemId fallbackPeerUserId : Option String) :
    parseOrderEvent decoders links first rawPayload content fallbackItemId fallbackPeerUserId =
      parseOrderEvent decoders links second rawPayload content fallbackItemId
        fallbackPeerUserId := by
  rw [parseOrderEvent, parseOrderEvent]
  refine Option.bind_congr fun payload hpayload => ?_
  rw [orderEventOf, orderEventOf,
    (hclear payload hpayload).firstImage_eq first.image_perm second.image_perm]

/-- A payload in which every choice is between equal values yields the same cards and the same
item context in every process. -/
theorem parsed_alike_of_clear {decoders : Decoders} {rawPayload : Json}
    (hclear : PayloadClear decoders rawPayload) (first second : KeyOrders) (links : Links)
    (content : String) (fallbackItemId : Option String) :
    parseMessageCards decoders links first rawPayload content fallbackItemId =
        parseMessageCards decoders links second rawPayload content fallbackItemId ∧
      parseItemContext decoders links first rawPayload fallbackItemId =
        parseItemContext decoders links second rawPayload fallbackItemId := by
  have hcards : (dictNodes decoders rawPayload).filterMap (parseDictNode first) =
      (dictNodes decoders rawPayload).filterMap (parseDictNode second) :=
    List.filterMap_congr fun node hnode =>
      parseDictNode_eq first second (hclear.cards node hnode)
  have hcontexts : (dictNodes decoders rawPayload).filterMap (contextOf first) =
      (dictNodes decoders rawPayload).filterMap (contextOf second) :=
    List.filterMap_congr fun node hnode =>
      contextOf_eq first second (hclear.itemIds node hnode) (hclear.contexts node hnode)
  constructor
  · rw [parseMessageCards, parseMessageCards, hcards,
      parseOrderEvent_eq hclear.event first second]
  · rw [parseItemContext, parseItemContext, hcontexts]

def KeyOrders.subjectFirst : KeyOrders :=
  { KeyOrders.written with
    title := ["subject", "title", "itemtitle", "itemTitle", "name", "itemName", "goodsTitle"]
    title_perm := by decide }

def noDecoders : Decoders where
  loads := fun _ => none
  decodeStrict := fun _ => none
  decodeLoose := fun _ => none

def productNode (members : Members) : Json :=
  .obj (("itemId", .str "1") :: ("price", .str "2") :: members)

/-- A product with one title is read alike. -/
theorem one_title_alike :
    parseMessageCards noDecoders asciiLinks .written
        (productNode [("title", .str "A")]) "" none =
      parseMessageCards noDecoders asciiLinks .subjectFirst
        (productNode [("title", .str "A")]) "" none := by
  have hnodes : dictNodes noDecoders (productNode [("title", .str "A")]) =
      [[("itemId", .str "1"), ("price", .str "2"), ("title", .str "A")]] := rfl
  have himage : ImageClear
      (.obj [("itemId", .str "1"), ("price", .str "2"), ("title", .str "A")]) := by
    refine ⟨by decide, fun _ => ?_⟩
    simp [ChildrenClear, ImageClear]
  refine (parsed_alike_of_clear ⟨?_, ?_, ?_, ?_⟩ .written .subjectFirst asciiLinks "" none).1
  · rw [hnodes]
    intro node hnode _
    rw [List.mem_singleton.mp hnode]
    exact ⟨by decide, by decide, by decide, by decide, by decide, by decide, himage⟩
  · rw [hnodes]
    decide
  · rw [hnodes]
    intro node hnode _
    rw [List.mem_singleton.mp hnode]
    exact ⟨by decide, by decide, by decide, himage⟩
  · intro payload hpayload
    obtain rfl := Option.some.inj hpayload
    exact ⟨by decide, fun _ => trivial⟩

/-- A title and a subject: two processes read different titles. -/
theorem title_and_subject_differ :
    ¬ (parseMessageCards noDecoders asciiLinks .written
          (productNode [("title", .str "A"), ("subject", .str "B")]) "" none =
        parseMessageCards noDecoders asciiLinks .subjectFirst
          (productNode [("title", .str "A"), ("subject", .str "B")]) "" none) ∧
      ¬ (parseItemContext noDecoders asciiLinks .written
          (productNode [("title", .str "A"), ("subject", .str "B")]) none =
        parseItemContext noDecoders asciiLinks .subjectFirst
          (productNode [("title", .str "A"), ("subject", .str "B")]) none) := by
  constructor
  · intro hsame
    have htitles := congrArg (List.map ParsedMessageCard.title) hsame
    exact absurd htitles (by decide)
  · decide

end XianyuAdmin.Cards
