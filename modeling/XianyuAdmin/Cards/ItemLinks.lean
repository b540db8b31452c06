import XianyuAdmin.Core.Json
import XianyuAdmin.Core.Stripping

/-!
# Item links

`normalize_item_url` turns whatever a payload calls its link into a link of the
item page that a browser may open.  `urlparse` and `parse_qs` are known by what
they return: the parts of a link, or none for a `ValueError`.
-/

namespace XianyuAdmin.Cards

open XianyuAdmin.Python

/-- The parts of `urlparse(url)` that the parser reads. -/
structure UrlParts where
  scheme : String
  hostname : Option String
  query : String
  deriving DecidableEq

/-- `XIANYU_ITEM_URL` up to the id. -/
def xianyuItemUrl : String := "https://h5.m.goofish.com/item?id="

/-- `XIANYU_ITEM_URL.format(item_id)`. -/
def itemLink (itemId : String) : String := xianyuItemUrl ++ itemId

/-- What `urllib.parse` and the character tables of Python do. -/
structure Links where
  /-- `urlparse`; `none` is a `ValueError`. -/
  urlparse : String → Option UrlParts
  parseQs : String → List (String × List String)
  /-- The characters of `str.isdigit`: those of ASCII and many others. -/
  digit : Char → Bool
  digit_of_ascii : ∀ char : Char, char.isDigit = true → digit char = true
  isSpace_of_digit : ∀ char, digit char = true → isSpace char = false
  urlparse_itemLink : ∀ itemId : String, itemId ≠ "" → itemId.toList.all digit = true →
    urlparse (itemLink itemId) =
      some { scheme := "https", hostname := some "h5.m.goofish.com", query := "id=" ++ itemId }
  parseQs_id : ∀ itemId : String, itemId ≠ "" → itemId.toList.all digit = true →
    parseQs ("id=" ++ itemId) = [("id", [itemId])]

/-- `_normalize_scalar`; a truth value is an `int`. -/
def normalizeScalar : Json → Option String
  | .str text => stripOrNone text
  | value => value.scalarText

/-- `str` refuses an `int` of more than 4300 digits. -/
def tooLong : Json → Bool
  | .int value => 4300 < (toString value.natAbs).length
  | _ => false

def isDigit (links : Links) (text : String) : Bool :=
  text ≠ "" && text.toList.all links.digit

def numericItemId (links : Links) (value : Json) : Option String :=
  (normalizeScalar value).filter (isDigit links)

/-- `hostname.rstrip(".")`. -/
def withoutDots (hostname : String) : String :=
  String.ofList ((hostname.toList.reverse.dropWhile (· = '.')).reverse)

/-- `normalized == "goofish.com" or normalized.endswith(".goofish.com")`. -/
def isGoofishName (name : String) : Bool :=
  name = "goofish.com" || ".goofish.com".toList.isSuffixOf name.toList

def isGoofishHost : Option String → Bool
  | none => false
  | some hostname => hostname ≠ "" && isGoofishName (lower (withoutDots hostname))

/-- `_query_value`: of two names with one spelling in lower case the later counts. -/
def queryValue (query : List (String × List String)) (keys : List String) : Option String :=
  keys.findSome? fun key =>
    ((query.filter fun entry => lower entry.1 = lower key).getLast?.bind
      fun entry => entry.2.head?).bind stripOrNone

def itemIdNames : List String := ["itemId", "item_id", "itemid", "id"]

def queryItemId (links : Links) (parts : UrlParts) : Option String :=
  queryValue (links.parseQs parts.query) itemIdNames

/-- A value of type `str | None`. -/
def ofText (text : Option String) : Json := text.elim .null .str

def numericLinkId (links : Links) (parts : UrlParts) : Option String :=
  numericItemId links (ofText (queryItemId links parts))

/-- `normalize_item_url`; `none` is the exception it raises. -/
def normalizeItemUrl (links : Links) (rawUrl itemId : Json) : Option (Option String) :=
  if tooLong itemId || tooLong rawUrl then none
  else
    match normalizeScalar rawUrl with
    | none => some ((numericItemId links itemId).map itemLink)
    | some url =>
        (links.urlparse url).map fun parts =>
          let inQuery := numericLinkId links parts
          ((numericItemId links itemId).or inQuery).map fun resolved =>
            if parts.scheme = "https" ∧ isGoofishHost parts.hostname ∧
                inQuery = some resolved then url
            else itemLink resolved

def IsAsciiNumber (text : String) : Prop :=
  text ≠ "" ∧ ∀ char ∈ text.toList, char.isDigit = true

def IsGoofishHost (host : String) : Prop :=
  host = "goofish.com" ∨ ∃ front, host = front ++ ".goofish.com"

/-- What is asked of a URL: `given` is the numeric item id, if one is given. -/
structure IsItemUrl (links : Links) (given : Option String) (url : String) : Prop where
  parts : ∃ parts, links.urlparse url = some parts ∧ parts.scheme = "https" ∧
    (∃ host, parts.hostname = some host ∧ IsGoofishHost host) ∧
    ∃ itemId, queryItemId links parts = some itemId ∧ IsAsciiNumber itemId ∧
      ∀ number, given = some number → itemId = number

def ReturnsItemUrl (links : Links) (rawUrl itemId : Json) : Prop :=
  ∃ result, normalizeItemUrl links rawUrl itemId = some result ∧
    ∀ url, result = some url → IsItemUrl links (numericItemId links itemId) url

/-- The inputs that meet the promise: numbers that can be printed, a link that `urlparse`
does not refuse, the number that counts in ASCII digits, and no host of the platform
spelled in another way in a link that names this number. -/
structure CleanInput (links : Links) (rawUrl itemId : Json) : Prop where
  printable : tooLong itemId = false ∧ tooLong rawUrl = false
  given : ∀ number, numericItemId links itemId = some number → IsAsciiNumber number
  link : ∀ url, normalizeScalar rawUrl = some url → ∃ parts, links.urlparse url = some parts ∧
    ∀ number, ((numericItemId links itemId).or (numericLinkId links parts)) = some number →
      IsAsciiNumber number ∧
      (parts.scheme = "https" → isGoofishHost parts.hostname = true →
        numericLinkId links parts = some number →
        ∃ host, parts.hostname = some host ∧ IsGoofishHost host)

theorem stripOrNone_eq_some {text result : String} (hstrip : stripOrNone text = some result) :
    result ≠ "" ∧ strip result = result := by
  unfold stripOrNone at hstrip
  split at hstrip
  · cases hstrip
  · rename_i hne
    cases hstrip
    exact ⟨hne, strip_strip text⟩

theorem stripOrNone_of_stripped {text : String} (hne : text ≠ "") (hstrip : strip text = text) :
    stripOrNone text = some text := by
  rw [stripOrNone, hstrip, if_neg hne]

variable {links : Links} {number : String} {parts : UrlParts} {itemId : Json}

theorem isDigit_of_numericItemId {value : Json}
    (hnumber : numericItemId links value = some number) :
    number ≠ "" ∧ number.toList.all links.digit = true := by
  have hdigit := (Option.filter_eq_some_iff.mp hnumber).2
  simpa [isDigit] using hdigit

theorem stripOrNone_of_digits (hne : number ≠ "") (hdigits : number.toList.all links.digit = true) :
    stripOrNone number = some number :=
  stripOrNone_of_stripped hne <| strip_of_forall fun char hchar =>
    links.isSpace_of_digit char (List.all_eq_true.mp hdigits char hchar)

theorem queryValue_eq_some {query : List (String × List String)} {keys : List String}
    {value : String} (hvalue : queryValue query keys = some value) :
    value ≠ "" ∧ strip value = value := by
  obtain ⟨key, -, hkey⟩ := List.exists_of_findSome?_eq_some hvalue
  obtain ⟨text, -, htext⟩ := Option.bind_eq_some_iff.mp hkey
  exact stripOrNone_eq_some htext

theorem queryItemId_of_numericLinkId (hnumber : numericLinkId links parts = some number) :
    queryItemId links parts = some number := by
  have hscalar := (Option.filter_eq_some_iff.mp hnumber).1
  cases hquery : queryItemId links parts with
  | none =>
      rw [hquery] at hscalar
      cases hscalar
  | some value =>
      obtain ⟨hne, hstrip⟩ := queryValue_eq_some hquery
      rw [hquery] at hscalar
      have hsame : stripOrNone value = some number := hscalar
      rw [stripOrNone_of_stripped hne hstrip] at hsame
      exact hsame

theorem itemLink_parts (hne : number ≠ "") (hdigits : number.toList.all links.digit = true) :
    links.urlparse (itemLink number) = some
        { scheme := "https", hostname := some "h5.m.goofish.com", query := "id=" ++ number } ∧
      queryItemId links
        { scheme := "https", hostname := some "h5.m.goofish.com", query := "id=" ++ number } =
          some number := by
  refine ⟨links.urlparse_itemLink number hne hdigits, ?_⟩
  have hfirst : lower "id" ≠ lower "itemId" := by decide
  have hsecond : lower "id" ≠ lower "item_id" := by decide
  have hthird : lower "id" ≠ lower "itemid" := by decide
  rw [queryItemId, links.parseQs_id number hne hdigits]
  simp [queryValue, itemIdNames, hfirst, hsecond, hthird,
    stripOrNone_of_digits hne hdigits]

theorem isGoofishHost_itemLink : IsGoofishHost "h5.m.goofish.com" :=
  .inr ⟨"h5.m", by decide⟩

theorem isItemUrl_itemLink_iff {given : Option String} (hne : number ≠ "")
    (hdigits : number.toList.all links.digit = true)
    (hgiven : ∀ other, given = some other → number = other) :
    IsItemUrl links given (itemLink number) ↔ IsAsciiNumber number := by
  obtain ⟨hparse, hquery⟩ := itemLink_parts hne hdigits
  constructor
  · rintro ⟨parts, hparts, -, -, itemId, hitemId, hascii, -⟩
    rw [hparse] at hparts
    obtain rfl := Option.some.inj hparts
    rw [hquery] at hitemId
    exact Option.some.inj hitemId ▸ hascii
  · intro hascii
    exact ⟨_, hparse, rfl, ⟨_, rfl, isGoofishHost_itemLink⟩, number, hquery, hascii, hgiven⟩

theorem isItemUrl_self_iff {given : Option String} {url : String}
    (hparse : links.urlparse url = some parts) (hscheme : parts.scheme = "https")
    (hnumber : numericLinkId links parts = some number)
    (hgiven : ∀ other, given = some other → number = other) :
    IsItemUrl links given url ↔ IsAsciiNumber number ∧
      ∃ host, parts.hostname = some host ∧ IsGoofishHost host := by
  have hquery := queryItemId_of_numericLinkId hnumber
  constructor
  · rintro ⟨other, hother, -, hhost, itemId, hitemId, hascii, -⟩
    rw [hparse] at hother
    obtain rfl := Option.some.inj hother
    rw [hquery] at hitemId
    exact ⟨Option.some.inj hitemId ▸ hascii, hhost⟩
  · rintro ⟨hascii, hhost⟩
    exact ⟨parts, hparse, hscheme, hhost, number, hquery, hascii, hgiven⟩

theorem returnsItemUrl_iff_of_none {rawUrl : Json}
    (hprintable : tooLong itemId = false ∧ tooLong rawUrl = false)
    (hraw : normalizeScalar rawUrl = none) :
    ReturnsItemUrl links rawUrl itemId ↔
      ∀ number, numericItemId links itemId = some number → IsAsciiNumber number := by
  have hresult : normalizeItemUrl links rawUrl itemId =
      some ((numericItemId links itemId).map itemLink) := by
    simp [normalizeItemUrl, hprintable, hraw]
  have hiff : ∀ number, numericItemId links itemId = some number →
      (IsItemUrl links (numericItemId links itemId) (itemLink number) ↔
        IsAsciiNumber number) := by
    intro number hnumber
    obtain ⟨hne, hdigits⟩ := isDigit_of_numericItemId hnumber
    exact isItemUrl_itemLink_iff hne hdigits fun other hother =>
      Option.some.inj (hnumber.symm.trans hother)
  constructor
  · rintro ⟨result, hreturned, hurls⟩ number hnumber
    rw [hresult] at hreturned
    obtain rfl := Option.some.inj hreturned
    exact (hiff number hnumber).mp (hurls _ (by rw [hnumber]; rfl))
  · intro hascii
    refine ⟨_, hresult, fun url hurl => ?_⟩
    obtain ⟨number, hnumber, rfl⟩ := Option.map_eq_some_iff.mp hurl
    exact (hiff number hnumber).mpr (hascii number hnumber)

def linkFor (links : Links) (url : String) (parts : UrlParts) (number : String) : String :=
  if parts.scheme = "https" ∧ isGoofishHost parts.hostname ∧
    numericLinkId links parts = some number then url else itemLink number

theorem resolved_spec
    (hnumber : (numericItemId links itemId).or (numericLinkId links parts) = some number) :
    (number ≠ "" ∧ number.toList.all links.digit = true) ∧
      ∀ other, numericItemId links itemId = some other → number = other := by
  cases hgiven : numericItemId links itemId with
  | none =>
      rw [hgiven, Option.none_or] at hnumber
      exact ⟨isDigit_of_numericItemId hnumber, fun other hother => by cases hother⟩
  | some given =>
      rw [hgiven, Option.some_or] at hnumber
      obtain rfl := Option.some.inj hnumber
      exact ⟨isDigit_of_numericItemId hgiven, fun other hother => Option.some.inj hother⟩

theorem isItemUrl_linkFor_iff {url : String} (hparse : links.urlparse url = some parts)
    (hnumber : (numericItemId links itemId).or (numericLinkId links parts) = some number) :
    IsItemUrl links (numericItemId links itemId) (linkFor links url parts number) ↔
      IsAsciiNumber number ∧
        (parts.scheme = "https" → isGoofishHost parts.hostname = true →
          numericLinkId links parts = some number →
          ∃ host, parts.hostname = some host ∧ IsGoofishHost host) := by
  obtain ⟨⟨hne, hdigits⟩, hgiven⟩ := resolved_spec hnumber
  by_cases hkept : parts.scheme = "https" ∧ isGoofishHost parts.hostname ∧
      numericLinkId links parts = some number
  · rw [linkFor, if_pos hkept]
    obtain ⟨hscheme, hhost, hlink⟩ := hkept
    rw [isItemUrl_self_iff hparse hscheme hlink hgiven]
    exact and_congr_right fun _ =>
      ⟨fun hspelled _ _ _ => hspelled, fun hspelled => hspelled hscheme hhost hlink⟩
  · rw [linkFor, if_neg hkept, isItemUrl_itemLink_iff hne hdigits hgiven]
    exact (and_iff_left_of_imp fun _ hscheme hhost hlink =>
      absurd ⟨hscheme, hhost, hlink⟩ hkept).symm

theorem returnsItemUrl_iff_of_some {rawUrl : Json} {url : String}
    (hprintable : tooLong itemId = false ∧ tooLong rawUrl = false)
    (hraw : normalizeScalar rawUrl = some url) :
    ReturnsItemUrl links rawUrl itemId ↔
      ∃ parts, links.urlparse url = some parts ∧
        ∀ number, (numericItemId links itemId).or (numericLinkId links parts) = some number →
          IsItemUrl links (numericItemId links itemId) (linkFor links url parts number) := by
  have hresult : normalizeItemUrl links rawUrl itemId =
      (links.urlparse url).map fun parts =>
        ((numericItemId links itemId).or (numericLinkId links parts)).map
          (linkFor links url parts) := by
    rw [normalizeItemUrl, if_neg (by simp [hprintable]), hraw]
    rfl
  rw [ReturnsItemUrl, hresult]
  constructor
  · rintro ⟨result, hreturned, hurls⟩
    obtain ⟨parts, hparse, rfl⟩ := Option.map_eq_some_iff.mp hreturned
    exact ⟨parts, hparse, fun number hnumber => hurls _ (by rw [hnumber]; rfl)⟩
  · rintro ⟨parts, hparse, hurls⟩
    refine ⟨_, by rw [hparse]; rfl, fun result hfound => ?_⟩
    obtain ⟨number, hnumber, rfl⟩ := Option.map_eq_some_iff.mp hfound
    exact hurls number hnumber

/-- The function keeps its promise exactly on clean inputs. -/
theorem returnsItemUrl_iff_clean (links : Links) (rawUrl itemId : Json) :
    ReturnsItemUrl links rawUrl itemId ↔ CleanInput links rawUrl itemId := by
  by_cases hprintable : tooLong itemId = false ∧ tooLong rawUrl = false
  · cases hraw : normalizeScalar rawUrl with
    | none =>
        rw [returnsItemUrl_iff_of_none hprintable hraw]
        exact ⟨fun hgiven => ⟨hprintable, hgiven, fun url hurl => by simp [hraw] at hurl⟩,
          CleanInput.given⟩
    | some url =>
        rw [returnsItemUrl_iff_of_some hprintable hraw]
        constructor
        · rintro ⟨parts, hparse, hurls⟩
          have hlink := fun number hnumber =>
            (isItemUrl_linkFor_iff hparse hnumber).mp (hurls number hnumber)
          refine ⟨hprintable, fun number hnumber => ?_, fun other hother => ?_⟩
          · exact (hlink number (by rw [hnumber, Option.some_or])).1
          · rw [hraw] at hother
            obtain rfl := Option.some.inj hother
            exact ⟨parts, hparse, hlink⟩
        · intro hclean
          obtain ⟨parts, hparse, hlink⟩ := hclean.link url hraw
          exact ⟨parts, hparse, fun number hnumber =>
            (isItemUrl_linkFor_iff hparse hnumber).mpr (hlink number hnumber)⟩
  · constructor
    · rintro ⟨result, hreturned, -⟩
      have hraises : (tooLong itemId || tooLong rawUrl) = true := by
        simpa [imp_iff_not_or, or_comm] using hprintable
      rw [normalizeItemUrl, if_pos hraises] at hreturned
      cases hreturned
    · exact fun hclean => absurd hclean.printable hprintable

structure ItemColumns where
  itemId : Option String
  itemTitle : Option String
  itemPrice : Option String
  itemImageUrl : Option String
  itemUrl : Option String
  itemContextSource : Option String
  itemContextAt : Option ℤ
  deriving DecidableEq

structure ParsedItemContext where
  itemId : String
  title : Option String := none
  price : Option String := none
  imageUrl : Option String := none
  url : Option String := none
  source : String := "message"
  deriving DecidableEq

def cut (count : ℕ) (text : String) : String := String.ofList (text.toList.take count)

def cutText (count : ℕ) (text : Option String) : Option String :=
  if truthy text then text.map (cut count) else none

/-- `values[field_name] = value` if there is a value, else the column stays. -/
def assign (value column : Option String) : Option String :=
  if truthy value then value else column

def clearOther (columns : ItemColumns) (itemId : String) : ItemColumns :=
  if truthy columns.itemId && columns.itemId ≠ some itemId then
    { columns with itemTitle := none, itemPrice := none, itemImageUrl := none, itemUrl := none }
  else columns

def isStale (columns : ItemColumns) (observedAt : ℤ) : Bool :=
  columns.itemContextAt.any fun stored => observedAt < stored

/-- `_apply_conversation_item_context`: the flag that is returned and the row afterwards;
`none` is an exception. -/
def applyConversationItemContext (links : Links) (columns : ItemColumns)
    (context : ParsedItemContext) (observedAt : ℤ) : Option (Bool × ItemColumns) :=
  if isStale columns observedAt then some (false, columns)
  else
    (normalizeItemUrl links (ofText context.url) (.str context.itemId)).map fun itemUrl =>
      let cleared := clearOther columns context.itemId
      let updated : ItemColumns :=
        { itemId := some (cut 128 context.itemId)
          itemTitle := assign (cutText 500 context.title) cleared.itemTitle
          itemPrice := assign (cutText 120 context.price) cleared.itemPrice
          itemImageUrl := assign (cutText 1000 context.imageUrl) cleared.itemImageUrl
          itemUrl := assign itemUrl cleared.itemUrl
          itemContextSource := some (cut 32 context.source)
          itemContextAt := some observedAt }
      (decide (cleared ≠ columns ∨ updated ≠ cleared), updated)

def LinkReadable (links : Links) (context : ParsedItemContext) : Prop :=
  ∀ url, context.url.bind stripOrNone = some url → (links.urlparse url).isSome = true

theorem applyConversationItemContext_isSome_iff (links : Links) (columns : ItemColumns)
    (context : ParsedItemContext) (observedAt : ℤ) :
    (applyConversationItemContext links columns context observedAt).isSome = true ↔
      isStale columns observedAt = true ∨ LinkReadable links context := by
  have hscalar : normalizeScalar (ofText context.url) = context.url.bind stripOrNone := by
    cases context.url <;> rfl
  have hprintable : (tooLong (.str context.itemId) || tooLong (ofText context.url)) = false := by
    cases context.url <;> rfl
  by_cases hstale : isStale columns observedAt = true
  · simp [applyConversationItemContext, hstale]
  · rw [applyConversationItemContext, if_neg hstale, Option.isSome_map, normalizeItemUrl,
      hprintable, hscalar, LinkReadable]
    cases hurl : context.url.bind stripOrNone with
    | none => simp
    | some url => simp [hstale]

/-- The function keeps its promise exactly on clean inputs, and with it the item context of a
conversation is applied exactly if it is too old to count or its link can be read. -/
theorem itemUrl_safe_iff (links : Links) :
    (∀ rawUrl itemId,
      ReturnsItemUrl links rawUrl itemId ↔ CleanInput links rawUrl itemId) ∧
    ∀ columns context observedAt,
      (applyConversationItemContext links columns context observedAt).isSome = true ↔
        isStale columns observedAt = true ∨ LinkReadable links context :=
  ⟨returnsItemUrl_iff_clean links, applyConversationItemContext_isSome_iff links⟩

/-- `urlparse` as far as the links below need it: a bracket that is not closed is refused, and
item links are taken apart. -/
def parseItemLink (text : String) : Option UrlParts :=
  if text.toList.contains '[' ≠ text.toList.contains ']' then none
  else if xianyuItemUrl.toList.isPrefixOf text.toList then
    some { scheme := "https", hostname := some "h5.m.goofish.com"
           query := "id=" ++ String.ofList (text.toList.drop xianyuItemUrl.toList.length) }
  else some { scheme := "", hostname := none, query := "" }

/-- `parse_qs` of a query with one `id`. -/
def parseIdQuery (query : String) : List (String × List String) :=
  if "id=".toList.isPrefixOf query.toList then
    [("id", [String.ofList (query.toList.drop 3)])]
  else []

theorem isSpace_of_isDigit {char : Char} (hdigit : char.isDigit = true) :
    isSpace char = false := by
  have hbounds : 48 ≤ char.val.toNat ∧ char.val.toNat ≤ 57 := by
    simpa [Char.isDigit, UInt32.le_iff_toNat_le] using hdigit
  have hrange : ¬ (0x2000 : UInt32) ≤ char.val := by
    rw [UInt32.le_iff_toNat_le, show (0x2000 : UInt32).toNat = 8192 from rfl]
    omega
  have hlist : char.val ∉ ([0x9, 0xa, 0xb, 0xc, 0xd, 0x1c, 0x1d, 0x1e, 0x1f, 0x20, 0x85, 0xa0,
      0x1680, 0x2028, 0x2029, 0x202f, 0x205f, 0x3000] : List UInt32) := by
    intro hmem
    have hother : ∀ code ∈ ([0x9, 0xa, 0xb, 0xc, 0xd, 0x1c, 0x1d, 0x1e, 0x1f, 0x20, 0x85, 0xa0,
        0x1680, 0x2028, 0x2029, 0x202f, 0x205f, 0x3000] : List UInt32),
        code.toNat < 48 ∨ 57 < code.toNat := by simp
    have hcode := hother _ hmem
    omega
  simp only [isSpace, decide_eq_false hlist, decide_eq_false hrange, Bool.false_and,
    Bool.or_false]

theorem parseItemLink_itemLink {itemId : String}
    (hdigits : itemId.toList.all Char.isDigit = true) :
    parseItemLink (itemLink itemId) = some
      { scheme := "https", hostname := some "h5.m.goofish.com", query := "id=" ++ itemId } := by
  have hchars : (itemLink itemId).toList = xianyuItemUrl.toList ++ itemId.toList := by
    rw [itemLink, String.toList_append]
  have hbracket : ∀ char, char.isDigit = false → char ∉ xianyuItemUrl.toList →
      (xianyuItemUrl.toList ++ itemId.toList).contains char = false := by
    intro char hchar hfront
    rw [List.contains_eq_mem, decide_eq_false_iff_not, List.mem_append]
    rintro (hmem | hmem)
    · exact hfront hmem
    · rw [List.all_eq_true.mp hdigits char hmem] at hchar
      cases hchar
  have hstarts : ∀ front back : List Char, front.isPrefixOf (front ++ back) = true := by simp
  rw [parseItemLink, hchars, hbracket '[' (by decide) (by decide),
    hbracket ']' (by decide) (by decide), if_neg (by simp), if_pos (hstarts _ _),
    List.drop_left,
    String.ofList_toList]

def asciiLinks : Links where
  urlparse := parseItemLink
  parseQs := parseIdQuery
  digit := Char.isDigit
  digit_of_ascii := fun _ hdigit => hdigit
  isSpace_of_digit := fun _ hdigit => isSpace_of_isDigit hdigit
  urlparse_itemLink := fun _ _ hdigits => parseItemLink_itemLink hdigits
  parseQs_id := by
    intro itemId _ _
    simp [parseIdQuery, String.toList_append]

/-- A link with an open bracket makes the function raise, and applying the context with it. -/
theorem open_bracket_raises :
    ¬ ReturnsItemUrl asciiLinks (.str "https://[goofish.com/item?id=1") (.str "1") ∧
      applyConversationItemContext asciiLinks
        ⟨none, none, none, none, none, none, none⟩
        { itemId := "1", url := some "https://[goofish.com/item?id=1" } 0 = none := by
  constructor
  · rintro ⟨result, hreturned, -⟩
    exact absurd hreturned (by
      have hraises : normalizeItemUrl asciiLinks (.str "https://[goofish.com/item?id=1")
          (.str "1") = none := by decide
      simp [hraises])
  · decide

end XianyuAdmin.Cards
