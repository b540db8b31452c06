import XianyuAdmin.Products.CatalogSync

/-!
# The pages of the platform's catalog

`list_selling_items` asks for one page of cards after the other and takes a page with fewer
products than it asked for as the last one.  Cards without an item id are no products.
-/

namespace XianyuAdmin.Products

open XianyuAdmin.Python

def maxCatalogPages : ℤ := 100

def pageLimit (maxPages : Option ℤ) : ℕ :=
  (maxPages.elim maxCatalogPages fun pages => min pages maxCatalogPages).toNat

structure CardLibrary where
  /-- `str(value)` of a list or of a dictionary. -/
  containerText : Json → String
  /-- The value of a decimal digit, which `\d` matches. -/
  digit : Char → Option ℕ

namespace CardLibrary

variable (library : CardLibrary)

/-- `str(value or "")` -/
def strOrEmpty (value : Json) : String :=
  if value.isTrue then value.scalarText.getD (library.containerText value) else ""

/-- What `WANT_LABEL_PATTERN` matches: the count before and after its point, and whether its
unit is ten thousand. -/
structure WantLabel where
  count : List Char
  fraction : List Char
  tenThousands : Bool

/-- The digits after a decimal point, and what follows them. -/
def splitFraction (chars : List Char) : List Char × List Char :=
  match chars with
  | '.' :: rest =>
      let digits := rest.takeWhile fun char => (library.digit char).isSome
      if digits.isEmpty then ([], chars) else (digits, rest.drop digits.length)
  | _ => ([], chars)

/-- `WANT_LABEL_PATTERN` at the front of a text. -/
def matchWantLabel (chars : List Char) : Option WantLabel :=
  let count := chars.takeWhile fun char => (library.digit char).isSome || char = ','
  let (fraction, afterCount) := library.splitFraction (chars.drop count.length)
  let beforeUnit := afterCount.dropWhile isSpace
  let tenThousands := beforeUnit.head? = some '万'
  let beforePlus := (if tenThousands then beforeUnit.tail else beforeUnit).dropWhile isSpace
  let afterPlus := if beforePlus.head? = some '+' then beforePlus.tail else beforePlus
  if count.isEmpty then none
  else if "人想要".toList.isPrefixOf (afterPlus.dropWhile isSpace) then
    some ⟨count, fraction, tenThousands⟩
  else none

/-- `int(Decimal(count))`; a count of commas alone is an `InvalidOperation`. -/
def wantNumber (label : WantLabel) : Option ℤ :=
  let digits := (label.count ++ label.fraction).filterMap library.digit
  if digits.isEmpty then none
  else
    let units := digits.foldl (fun number digit => 10 * number + digit) 0
    let scale := if label.tenThousands then 10000 else 1
    some (Int.ofNat (units * scale / 10 ^ label.fraction.length))

def tagWantMetric (tag : Json) : Option (Option ℤ × Option String) :=
  let data := (Json.get tag.asObject "data").asObject
  let content := strip (library.strOrEmpty (Json.get data "content"))
  let labelId := strip (library.strOrEmpty (Json.get data "labelId"))
  if content = "" ∨ (labelId ≠ "9" ∧ !contains "人想要" content) then none
  else
    some
      ((content.toList.tails.findSome? library.matchWantLabel).bind library.wantNumber,
        some content)

def extractProductWantMetric (cardData : List (String × Json)) : Option ℤ × Option String :=
  let labelData := (Json.get (Json.get cardData "itemLabelDataVO").asObject "labelData").asObject
  (labelData.findSome? fun group =>
    (Json.get group.2.asObject "tagList").asList.findSome? library.tagWantMetric).getD (none, none)

def parseCard (card : Json) : Option ManagedProduct :=
  match Json.get card.asObject "cardData" with
  | .obj value =>
      let itemId := strip (library.strOrEmpty ((Json.get value "id").or (Json.get value "itemId")))
      if itemId = "" then none
      else
        let priceInfo := (Json.get value "priceInfo").asObject
        let picInfo := (Json.get value "picInfo").asObject
        let coverUrl :=
          library.strOrEmpty ((Json.get picInfo "picUrl").or (Json.get picInfo "url"))
        let detailUrl := library.strOrEmpty (Json.get value "detailUrl")
        let (wantCount, wantText) := library.extractProductWantMetric value
        some
          { itemId := itemId
            title := library.strOrEmpty (Json.get value "title")
            price := library.strOrEmpty (Json.get priceInfo "preText") ++
              library.strOrEmpty (Json.get priceInfo "price")
            categoryId := library.strOrEmpty (Json.get value "categoryId")
            coverUrl := if coverUrl.startsWith "//" then "https:" ++ coverUrl else coverUrl
            detailUrl := if (Json.get value "detailUrl").isTrue then detailUrl
              else "https://www.goofish.com/item?id=" ++ itemId
            platformItemStatus := library.strOrEmpty (Json.get value "itemStatus")
            wantCount := wantCount
            wantText := wantText
            rawData := value }
  | _ => none

def parseProductCards (data : Json) : List ManagedProduct :=
  (Json.get data.asObject "cardList").asList.filterMap library.parseCard

/-- The loop over the pages, of which `remaining` may still be asked for; `post` gives the data
of a successful answer. -/
def listPages (post : ℕ → Except RunFailure Json) (pageSize : ℕ) :
    ℕ → ℕ → List ManagedProduct → Except RunFailure ProductListResult
  | 0, _, items => .ok { items := items, complete := false }
  | remaining + 1, page, items =>
      match post page with
      | .error failure => .error failure
      | .ok data =>
          let pageItems := library.parseProductCards data
          if pageItems.length < pageSize then
            .ok { items := items ++ pageItems, complete := true }
          else listPages post pageSize remaining (page + 1) (items ++ pageItems)

def listSellingItems (post : ℕ → Except RunFailure Json) (pageSize : ℕ)
    (maxPages : Option ℤ) : Except RunFailure ProductListResult :=
  library.listPages post pageSize (pageLimit maxPages) 1 []

end CardLibrary

end XianyuAdmin.Products
