import XianyuAdmin.Migrations.ImportRecords

/-!
# Who a cookie string belongs to

The platform user of a cookie string is the value of its cookie `unb`.  The store looks for it
with a regular expression, the renewal of cookies, the publishing service and the publisher
parse the string into a dictionary.
-/

namespace XianyuAdmin.Cookies

open XianyuAdmin.Migrations (unbValue searchedUserId)
open XianyuAdmin.Python

/-- The group of `unb=([^;]+)` at a place of the text. -/
def matchUnb (chars : List Char) : Option (List Char) :=
  let group := (chars.drop 4).takeWhile (· ≠ ';')
  if "unb=".toList.isPrefixOf chars ∧ group ≠ [] then some group else none

/-- The first match of `;\s*unb=([^;]+)`. -/
def searchBehindSemicolon : List Char → Option (List Char)
  | [] => none
  | char :: rest =>
      (if char = ';' then matchUnb (rest.dropWhile isSpace) else none).or
        (searchBehindSemicolon rest)

/-- `re.search(r"(?:^|;\s*)unb=([^;]+)", cookie)` -/
def searchUnb (chars : List Char) : Option (List Char) :=
  (matchUnb chars).or (searchBehindSemicolon chars)

/-- `cookie_user_id` of `_update_account_platform_identity_sync`. -/
def storeUserId (cookie : String) : Option String :=
  (searchUnb cookie.toList).map fun group => strip (String.ofList group)

/-- The characters that `parse_cookie_header` keeps. -/
def isNoBreak (char : Char) : Bool := char ≠ '\r' && char ≠ '\n'

/-- What `parse_cookie_header` reads of one part. -/
def parseHeaderPart (part : List Char) : Option (String × String) :=
  let pair := (strip (String.ofList part)).toList
  match pair.dropWhile (· ≠ '=') with
  | [] => none
  | _ :: value =>
      let name := strip (String.ofList (pair.takeWhile (· ≠ '=')))
      if name = "" then none else some (name, strip (String.ofList value))

def parseCookieHeader (cookie : String) : CookieMap :=
  Dict.ofEntries (((cookie.toList.filter isNoBreak).splitOn ';').filterMap parseHeaderPart)

/-- `MtopProductPublisher._parse_cookie`, which repeats `_parse_cookie`. -/
def publisherParseCookie (value : String) : CookieMap := parseCookie value

theorem head?_splitOn (chars : List Char) :
    (chars.splitOn ';').head? = some (chars.takeWhile (· ≠ ';')) := by
  induction chars with
  | nil => rfl
  | cons char rest ih =>
      rw [List.splitOn_cons_eq_if_modifyHead]
      by_cases hchar : char = ';'
      · simp [hchar]
      · rw [if_neg (by simpa using hchar), List.head?_modifyHead, ih,
          List.takeWhile_cons_of_pos (by simpa using hchar)]
        rfl

/-- The parts behind a first character. -/
theorem tail_splitOn_cons (char : Char) (rest : List Char) :
    ((char :: rest).splitOn ';').tail =
      if char = ';' then rest.splitOn ';' else (rest.splitOn ';').tail := by
  rw [List.splitOn_cons_eq_if_modifyHead]
  by_cases hchar : char = ';'
  · simp [hchar]
  · rw [if_neg (by simpa using hchar), if_neg hchar, List.tail_modifyHead]

theorem takeWhile_dropWhile_isSpace (chars : List Char) :
    (chars.dropWhile isSpace).takeWhile (· ≠ ';') =
      (chars.takeWhile (· ≠ ';')).dropWhile isSpace := by
  induction chars with
  | nil => rfl
  | cons char rest ih =>
      by_cases hspace : isSpace char = true
      · have hchar : char ≠ ';' := by
          rintro rfl
          exact absurd hspace (by decide)
        rw [List.dropWhile_cons_of_pos hspace, ih,
          List.takeWhile_cons_of_pos (by simpa using hchar), List.dropWhile_cons_of_pos hspace]
      · rw [List.dropWhile_cons_of_neg hspace]
        by_cases hchar : char = ';'
        · simp [hchar]
        · rw [List.takeWhile_cons_of_pos (by simpa using hchar),
            List.dropWhile_cons_of_neg hspace]

/-- The parts of a text from which characters other than the separator are removed. -/
theorem splitOn_filter {keep : Char → Bool} (hkeep : keep ';' = true) (chars : List Char) :
    (chars.filter keep).splitOn ';' = (chars.splitOn ';').map (List.filter keep) := by
  induction chars with
  | nil => rfl
  | cons char rest ih =>
      rw [List.splitOn_cons_eq_if_modifyHead]
      by_cases hchar : char = ';'
      · subst hchar
        rw [List.filter_cons_of_pos hkeep, List.splitOn_cons_eq_if_modifyHead, ih]
        simp
      · rw [if_neg (by simpa using hchar)]
        cases hsplit : rest.splitOn ';' with
        | nil => exact absurd hsplit (List.splitOn_ne_nil _ _)
        | cons head tail =>
            rw [hsplit] at ih
            by_cases hkept : keep char = true
            · rw [List.filter_cons_of_pos hkept, List.splitOn_cons_eq_if_modifyHead, ih,
                if_neg (by simpa using hchar)]
              simp [hkept]
            · rw [List.filter_cons_of_neg hkept, ih]
              simp [hkept]

theorem toList_unb : "unb=".toList = ['u', 'n', 'b', '='] := rfl

theorem matchUnb_eq_unbValue (chars : List Char) :
    matchUnb chars = unbValue (chars.takeWhile (· ≠ ';')) := by
  unfold matchUnb unbValue
  rw [toList_unb]
  by_cases hbegins : ['u', 'n', 'b', '='].isPrefixOf chars = true
  · obtain ⟨rest, rfl⟩ := List.isPrefixOf_iff_prefix.mp hbegins
    have hpart : (['u', 'n', 'b', '='] ++ rest).takeWhile (· ≠ ';') =
        ['u', 'n', 'b', '='] ++ rest.takeWhile (· ≠ ';') :=
      List.takeWhile_append_of_pos (by simp)
    have hpartBegins : ['u', 'n', 'b', '='].isPrefixOf
        (['u', 'n', 'b', '='] ++ rest.takeWhile (· ≠ ';')) = true :=
      List.isPrefixOf_iff_prefix.mpr (List.prefix_append _ _)
    rw [hpart]
    simp only [hbegins, hpartBegins, true_and]
    rfl
  · have hpartBegins : ¬['u', 'n', 'b', '='].isPrefixOf (chars.takeWhile (· ≠ ';')) = true :=
      fun hpart => hbegins (List.isPrefixOf_iff_prefix.mpr
        ((List.isPrefixOf_iff_prefix.mp hpart).trans (List.takeWhile_prefix _)))
    rw [if_neg fun h => hbegins h.1, if_neg fun h => hpartBegins h.1]

theorem searchBehindSemicolon_eq (chars : List Char) :
    searchBehindSemicolon chars =
      ((chars.splitOn ';').tail.map (List.dropWhile isSpace)).findSome? unbValue := by
  induction chars with
  | nil => rfl
  | cons char rest ih =>
      rw [searchBehindSemicolon, ih, tail_splitOn_cons]
      by_cases hchar : char = ';'
      · rw [if_pos hchar, if_pos hchar, matchUnb_eq_unbValue, takeWhile_dropWhile_isSpace]
        have hhead := head?_splitOn rest
        cases hsplit : rest.splitOn ';' with
        | nil => exact absurd hsplit (List.splitOn_ne_nil _ _)
        | cons head tail =>
            rw [hsplit, List.head?_cons, Option.some.injEq] at hhead
            rw [← hhead, List.map_cons, List.findSome?_cons, List.tail_cons]
            cases unbValue (head.dropWhile isSpace) <;> rfl
      · rw [if_neg hchar, if_neg hchar, Option.none_or]

/-- The regular expression finds the value in the first part that begins with it, of which
only the first may not be indented. -/
theorem storeUserId_eq_searchedUserId (cookie : String) :
    storeUserId cookie = searchedUserId cookie := by
  have hhead := head?_splitOn cookie.toList
  rw [storeUserId, searchedUserId, searchUnb, searchBehindSemicolon_eq, matchUnb_eq_unbValue]
  cases hsplit : cookie.toList.splitOn ';' with
  | nil => exact absurd hsplit (List.splitOn_ne_nil _ _)
  | cons head tail =>
      rw [hsplit, List.head?_cons, Option.some.injEq] at hhead
      rw [← hhead, List.tail_cons]
      simp only [List.findSome?_cons]
      cases unbValue head <;> rfl

end XianyuAdmin.Cookies
