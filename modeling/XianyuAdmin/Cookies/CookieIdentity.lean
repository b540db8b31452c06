import XianyuAdmin.Cookies.CookieReaders

/-!
# When all readers agree on the user of a cookie string

The store takes the first `unb` it can match, the parsers take the last; they differ in the
blanks and line breaks they put up with.  The readers are compared part by part.
-/

namespace XianyuAdmin.Cookies

open XianyuAdmin.Migrations (unbValue searchedUserId)
open XianyuAdmin.Python

/-- What follows `unb=` in a part that begins with it, up to blanks. -/
def plainRest? (part : List Char) : Option (List Char) :=
  if "unb=".toList.isPrefixOf (part.dropWhile isSpace) then some ((part.dropWhile isSpace).drop 4)
  else none

/-- The value of an entry that is called `unb`. -/
def unbOf (entry : String × String) : Option String :=
  if entry.1 = "unb" then some entry.2 else none

/-- The value of a part that is called `unb` once line breaks and blanks are gone. -/
def namedValue? (part : List Char) : Option String :=
  (parseHeaderPart (part.filter isNoBreak)).bind unbOf

variable {part rest : List Char}

theorem plainRest?_eq_some_iff :
    plainRest? part = some rest ↔ part.dropWhile isSpace = ['u', 'n', 'b', '='] ++ rest := by
  rw [plainRest?, toList_unb]
  constructor
  · intro hplain
    obtain ⟨hbegins, hrest⟩ := Option.ite_none_right_eq_some.mp hplain
    obtain ⟨back, hback⟩ := List.isPrefixOf_iff_prefix.mp hbegins
    rw [← hback] at hrest ⊢
    rw [← Option.some.inj hrest]
    rfl
  · intro hpart
    rw [hpart, if_pos (List.isPrefixOf_iff_prefix.mpr (List.prefix_append _ _))]
    rfl

theorem getLast?_unb : ∀ char ∈ ['u', 'n', 'b', '='].getLast?, isSpace char = false := by
  intro char hchar
  cases hchar
  decide

theorem takeWhile_unb (rest : List Char) :
    (['u', 'n', 'b', '='] ++ rest).takeWhile (· ≠ '=') = ['u', 'n', 'b'] := by
  simp

theorem dropWhile_unb (rest : List Char) :
    (['u', 'n', 'b', '='] ++ rest).dropWhile (· ≠ '=') = '=' :: rest := by
  simp

/-- The parsers of the publisher read what follows `unb=`, without the blanks behind. -/
theorem parsePart_bind_unbOf (part : List Char) :
    (parsePart part).bind unbOf =
      (plainRest? part).map fun rest => String.ofList (rest.rdropWhile isSpace) := by
  have hstrip := toList_strip part
  cases hplain : plainRest? part with
  | some rest =>
      rw [plainRest?_eq_some_iff.mp hplain, rdropWhile_append getLast?_unb] at hstrip
      have hparse : parsePart part = some ("unb", String.ofList (rest.rdropWhile isSpace)) := by
        unfold parsePart partitionEquals
        rw [hstrip, takeWhile_unb, dropWhile_unb]
        rfl
      rw [hparse]
      rfl
  | none =>
      rw [Option.map_none, Option.bind_eq_none_iff]
      intro entry hentry
      rw [unbOf, if_neg]
      intro hname
      obtain ⟨htext, -, -⟩ := entryText_of_partition hentry
      obtain ⟨blanks, hblanks, -⟩ := exists_append_rdropWhile (part.dropWhile isSpace)
      rw [← hstrip, ← htext, toList_entryText, hname, List.append_assoc] at hblanks
      have hsome : plainRest? part = some (entry.2.toList ++ blanks) :=
        plainRest?_eq_some_iff.mpr hblanks
      cases hplain.symm.trans hsome

/-- No blank in front and no line break. -/
def Clean (value : List Char) : Prop :=
  (∀ char ∈ value.head?, isSpace char = false) ∧ ∀ char ∈ value, isNoBreak char = true

theorem dropWhile_isSpace_filter (hpart : part.dropWhile isSpace = ['u', 'n', 'b', '='] ++ rest) :
    (part.filter isNoBreak).dropWhile isSpace =
      ['u', 'n', 'b', '='] ++ rest.filter isNoBreak := by
  have hblanks : ∀ char ∈ (part.takeWhile isSpace).filter isNoBreak, isSpace char = true :=
    fun char hchar => List.mem_takeWhile_imp (List.mem_filter.mp hchar).1
  calc (part.filter isNoBreak).dropWhile isSpace
      = ((part.takeWhile isSpace ++ part.dropWhile isSpace).filter isNoBreak).dropWhile
          isSpace := by
        rw [List.takeWhile_append_dropWhile]
    _ = ((part.dropWhile isSpace).filter isNoBreak).dropWhile isSpace := by
        rw [List.filter_append, List.dropWhile_append_of_pos hblanks]
    _ = (['u', 'n', 'b', '='] ++ rest.filter isNoBreak).dropWhile isSpace := by
        rw [hpart, List.filter_append]
        rfl
    _ = ['u', 'n', 'b', '='] ++ rest.filter isNoBreak := rfl

/-- The header parser reads what follows `unb=` without blanks around it and line breaks. -/
theorem namedValue?_of_plainRest? (hplain : plainRest? part = some rest) :
    namedValue? part = some (strip (String.ofList (rest.filter isNoBreak))) := by
  have hstrip : (strip (String.ofList (part.filter isNoBreak))).toList =
      ['u', 'n', 'b', '='] ++ (rest.filter isNoBreak).rdropWhile isSpace := by
    rw [toList_strip, dropWhile_isSpace_filter (plainRest?_eq_some_iff.mp hplain),
      rdropWhile_append getLast?_unb]
  have hparse : parseHeaderPart (part.filter isNoBreak) =
      some ("unb", strip (String.ofList ((rest.filter isNoBreak).rdropWhile isSpace))) := by
    unfold parseHeaderPart
    simp only [hstrip, takeWhile_unb, dropWhile_unb]
    rfl
  rw [namedValue?, hparse, strip_rdropWhile]
  rfl

theorem clean_strip {chars : List Char} (hchars : ∀ char ∈ chars, isNoBreak char = true) :
    Clean (strip (String.ofList chars)).toList :=
  ⟨(stripped_strip _).1, fun char hchar => hchars char ((strip_sublist chars).subset hchar)⟩

theorem clean_of_namedValue? {value : String} (hnamed : namedValue? part = some value) :
    Clean value.toList := by
  obtain ⟨entry, hparse, hentry⟩ := Option.bind_eq_some_iff.mp hnamed
  obtain ⟨-, hvalue⟩ := Option.ite_none_right_eq_some.mp hentry
  have hpair : ∀ char ∈ (strip (String.ofList (part.filter isNoBreak))).toList,
      isNoBreak char = true := fun char hchar =>
    (List.mem_filter.mp ((strip_sublist _).subset hchar)).2
  unfold parseHeaderPart at hparse
  dsimp only at hparse
  split at hparse
  · cases hparse
  · rename_i first back hdrop
    obtain ⟨-, hentry⟩ := Option.ite_none_left_eq_some.mp hparse
    rw [← Option.some.inj hvalue, ← Option.some.inj hentry]
    refine clean_strip fun char hchar => ?_
    have hmem := List.mem_cons_of_mem first hchar
    rw [← hdrop] at hmem
    exact hpair char ((List.dropWhile_sublist _).subset hmem)

/-- The parsers read the same of a part that begins with `unb=` when its value is clean. -/
theorem strip_filter_eq_iff (rest : List Char) :
    strip (String.ofList (rest.filter isNoBreak)) = String.ofList (rest.rdropWhile isSpace) ↔
      Clean (rest.rdropWhile isSpace) := by
  constructor
  · intro heq
    have hclean : Clean (strip (String.ofList (rest.filter isNoBreak))).toList :=
      clean_strip fun char hchar => (List.mem_filter.mp hchar).2
    rwa [heq, String.toList_ofList] at hclean
  · rintro ⟨hhead, hbreaks⟩
    obtain ⟨blanks, hrest, hblanks⟩ := exists_append_rdropWhile rest
    have hfilter : rest.filter isNoBreak =
        rest.rdropWhile isSpace ++ blanks.filter isNoBreak := by
      conv_lhs => rw [hrest]
      rw [List.filter_append, List.filter_eq_self.mpr hbreaks]
    refine String.toList_inj.mp ?_
    rw [hfilter, strip_append_of_blanks fun char hchar => hblanks char (List.mem_filter.mp hchar).1,
      strip_of_stripped ⟨hhead, getLast?_rdropWhile rest⟩, String.toList_ofList]

def partsOf (cookie : String) : List (List Char) := cookie.toList.splitOn ';'

/-- What a dictionary of the parts has for `unb`. -/
theorem get?_unb_ofEntries (parts : List (List Char))
    (read : List Char → Option (String × String)) :
    (Dict.ofEntries (parts.filterMap read)).get? "unb" =
      (parts.filterMap fun part => (read part).bind unbOf).getLast? := by
  rw [Dict.get?_ofEntries, ← List.getLast?_map, ← List.filterMap_filterMap]
  congr 1
  induction parts.filterMap read with
  | nil => rfl
  | cons entry entries ih =>
      by_cases hname : entry.1 = "unb"
      · rw [List.filter_cons_of_pos (by simpa using hname), List.map_cons, ih,
          List.filterMap_cons_some (by rw [unbOf, if_pos hname])]
      · rw [List.filter_cons_of_neg (by simpa using hname), ih,
          List.filterMap_cons_none (by rw [unbOf, if_neg hname])]

theorem get?_parseCookie (cookie : String) :
    (parseCookie cookie).get? "unb" =
      ((partsOf cookie).filterMap plainRest?).getLast?.map fun rest =>
        String.ofList (rest.rdropWhile isSpace) := by
  rw [parseCookie, get?_unb_ofEntries, ← List.getLast?_map, List.map_filterMap]
  simp only [parsePart_bind_unbOf, partsOf]

theorem get?_parseCookieHeader (cookie : String) :
    (parseCookieHeader cookie).get? "unb" =
      ((partsOf cookie).filterMap namedValue?).getLast? := by
  have hread : (fun part => ((parseHeaderPart ∘ List.filter isNoBreak) part).bind unbOf) =
      namedValue? := by
    funext part
    rw [Function.comp_apply, namedValue?]
  rw [parseCookieHeader, splitOn_filter (by decide), List.filterMap_map, get?_unb_ofEntries, hread,
    partsOf]

/-- What follows `unb=` in the parts that the regular expression matches, of which the first
one may not be indented. -/
def matchableRests : List (List Char) → List (List Char)
  | [] => []
  | first :: rest => (first :: rest.map (List.dropWhile isSpace)).filterMap unbValue

theorem storeUserId_eq (cookie : String) :
    storeUserId cookie =
      (matchableRests (partsOf cookie)).head?.map fun rest => strip (String.ofList rest) := by
  rw [storeUserId_eq_searchedUserId, searchedUserId, partsOf]
  cases cookie.toList.splitOn ';' with
  | nil => rfl
  | cons first rest => rw [matchableRests, List.head?_filterMap]

def foundUserIds (cookie : String) : List (Option String) :=
  [storeUserId cookie, (parseCookieHeader cookie).get? "unb", (parseCookie cookie).get? "unb",
    (publisherParseCookie cookie).get? "unb"]

def AgreeOnUser (cookie : String) : Prop :=
  (∃ userId, ∀ found ∈ foundUserIds cookie, found = some userId) ∨
    ∀ found ∈ foundUserIds cookie, ∀ userId, found = some userId → userId = ""

theorem agreeOnUser_iff (cookie : String) :
    AgreeOnUser cookie ↔
      ((parseCookieHeader cookie).get? "unb").getD "" = ((parseCookie cookie).get? "unb").getD "" ∧
        (storeUserId cookie).getD "" = ((parseCookie cookie).get? "unb").getD "" := by
  unfold AgreeOnUser foundUserIds publisherParseCookie
  generalize storeUserId cookie = store
  generalize (parseCookieHeader cookie).get? "unb" = header
  generalize (parseCookie cookie).get? "unb" = product
  simp only [List.forall_mem_cons, List.not_mem_nil, false_imp_iff, implies_true, and_true]
  constructor
  · rintro (⟨userId, rfl, rfl, rfl, -⟩ | ⟨hstore, hheader, hproduct, -⟩)
    · exact ⟨rfl, rfl⟩
    · have hempty : ∀ found : Option String, (∀ userId, found = some userId → userId = "") →
          found.getD "" = "" := by
        intro found hfound
        cases found with
        | none => rfl
        | some userId => exact hfound userId rfl
      rw [hempty _ hstore, hempty _ hheader, hempty _ hproduct]
      exact ⟨rfl, rfl⟩
  · rintro ⟨hheader, hstore⟩
    by_cases hblank : product.getD "" = ""
    · have hempty : ∀ found : Option String, found.getD "" = product.getD "" →
          ∀ userId, found = some userId → userId = "" := by
        rintro _ hfound userId rfl
        exact hfound.trans hblank
      exact .inr ⟨hempty _ hstore, hempty _ hheader, hempty _ rfl, hempty _ rfl⟩
    · have hfull : ∀ found : Option String, found.getD "" = product.getD "" →
          found = some (product.getD "") := by
        intro found hfound
        cases found with
        | none => exact absurd hfound.symm hblank
        | some userId => exact congrArg some hfound
      exact .inl ⟨product.getD "", hfull _ hstore, hfull _ hheader, hfull _ rfl, hfull _ rfl⟩

/-- A cookie string that names at most one user, however it is read: no part begins with
`unb=`, and a part that is called so in spite of blanks or line breaks has no value; or the
last part that begins with `unb=` has a clean value, which the first one that can be matched
has too, and any part behind that is called so in spite of blanks or line breaks. -/
inductive NamesOneUser (cookie : String) : Prop
  | unnamed (hplain : ∀ part ∈ partsOf cookie, plainRest? part = none)
      (hblank : ∀ value, ((partsOf cookie).filterMap namedValue?).getLast? = some value →
        value = "")
  | named (front : List (List Char)) (part : List Char) (back : List (List Char))
      (rest : List Char) (hparts : partsOf cookie = front ++ part :: back)
      (hrest : plainRest? part = some rest) (hlast : ∀ later ∈ back, plainRest? later = none)
      (hclean : Clean (rest.rdropWhile isSpace))
      (hbehind : ∀ value, (back.filterMap namedValue?).getLast? = some value →
        value.toList = rest.rdropWhile isSpace)
      (hfirst : ((matchableRests (partsOf cookie)).head?.elim [] fun group =>
        (strip (String.ofList group)).toList) = rest.rdropWhile isSpace)

theorem getLast?_filterMap_eq_some_iff {Item Value : Type} {find : Item → Option Value}
    {items : List Item} {value : Value} :
    (items.filterMap find).getLast? = some value ↔
      ∃ front item back, items = front ++ item :: back ∧ find item = some value ∧
        ∀ later ∈ back, find later = none := by
  rw [List.getLast?_filterMap, List.findSome?_eq_some_iff]
  constructor
  · rintro ⟨back, item, front, hitems, hfind, hlast⟩
    refine ⟨front.reverse, item, back.reverse, ?_, hfind, fun later hlater =>
      hlast later (List.mem_reverse.mp hlater)⟩
    rw [← List.reverse_reverse items, hitems]
    simp
  · rintro ⟨front, item, back, rfl, hfind, hlast⟩
    exact ⟨back.reverse, item, front.reverse, by simp, hfind, fun later hlater =>
      hlast later (List.mem_reverse.mp hlater)⟩

/-- What the regular expression matches begins with `unb=`. -/
theorem matchableRests_eq_nil {parts : List (List Char)}
    (hplain : ∀ part ∈ parts, plainRest? part = none) : matchableRests parts = [] := by
  have hnone : ∀ part, plainRest? part = none → unbValue (part.dropWhile isSpace) = none := by
    intro part hpart
    rw [unbValue, if_neg fun hmatch => ?_]
    rw [plainRest?, if_pos hmatch.1] at hpart
    cases hpart
  have hfirst : ∀ part, plainRest? part = none → unbValue part = none := by
    intro part hpart
    rw [unbValue, if_neg fun hmatch => ?_]
    obtain ⟨rest, rfl⟩ := List.isPrefixOf_iff_prefix.mp hmatch.1
    cases hpart.symm.trans (plainRest?_eq_some_iff.mpr rfl)
  cases parts with
  | nil => rfl
  | cons first rest =>
      obtain ⟨hhead, htail⟩ := List.forall_mem_cons.mp hplain
      rw [matchableRests, List.filterMap_eq_nil_iff]
      refine List.forall_mem_cons.mpr ⟨hfirst first hhead, fun bare hbare => ?_⟩
      obtain ⟨part, hpart, rfl⟩ := List.mem_map.mp hbare
      exact hnone part (htail part hpart)

/-- The header parser finds the value of the last part that begins with `unb=` when this value
is clean and no part behind is called so in spite of blanks and line breaks. -/
theorem header_eq_iff (rest : List Char) (back : List (List Char)) :
    ((back.filterMap namedValue?).getLast?.or
        (some (strip (String.ofList (rest.filter isNoBreak))))).getD "" =
        String.ofList (rest.rdropWhile isSpace) ↔
      Clean (rest.rdropWhile isSpace) ∧
        ∀ value, (back.filterMap namedValue?).getLast? = some value →
          value.toList = rest.rdropWhile isSpace := by
  cases hback : (back.filterMap namedValue?).getLast? with
  | none =>
      rw [Option.none_or, Option.getD_some, strip_filter_eq_iff]
      exact (and_iff_left nofun).symm
  | some value =>
      rw [Option.some_or, Option.getD_some]
      obtain ⟨_, part, _, -, hnamed, -⟩ := getLast?_filterMap_eq_some_iff.mp hback
      constructor
      · rintro rfl
        refine ⟨?_, fun other hother => ?_⟩
        · have hclean := clean_of_namedValue? hnamed
          rwa [String.toList_ofList] at hclean
        · rw [← Option.some.inj hother, String.toList_ofList]
      · rintro ⟨-, hvalue⟩
        rw [← hvalue value rfl, String.ofList_toList]

theorem header_of_parts {front : List (List Char)} {back : List (List Char)}
    (hrest : plainRest? part = some rest) :
    ((front ++ part :: back).filterMap namedValue?).getLast? =
      (back.filterMap namedValue?).getLast?.or
        (some (strip (String.ofList (rest.filter isNoBreak)))) := by
  rw [List.filterMap_append, List.filterMap_cons_some (namedValue?_of_plainRest? hrest),
    List.getLast?_append, List.getLast?_cons]
  cases (back.filterMap namedValue?).getLast? <;> rfl

/-- All readers agree on the user of a cookie string when it names at most one. -/
theorem cookie_readers_agree_iff (cookie : String) :
    AgreeOnUser cookie ↔ NamesOneUser cookie := by
  have hunnamed : (∀ part ∈ partsOf cookie, plainRest? part = none) →
      (AgreeOnUser cookie ↔
        ∀ value, ((partsOf cookie).filterMap namedValue?).getLast? = some value → value = "") := by
    intro hplain
    rw [agreeOnUser_iff, get?_parseCookie, get?_parseCookieHeader, storeUserId_eq,
      List.filterMap_eq_nil_iff.mpr hplain, matchableRests_eq_nil hplain]
    cases ((partsOf cookie).filterMap namedValue?).getLast? <;> simp
  have hnamed : ∀ front part back rest, partsOf cookie = front ++ part :: back →
      plainRest? part = some rest → (∀ later ∈ back, plainRest? later = none) →
      (AgreeOnUser cookie ↔
        (Clean (rest.rdropWhile isSpace) ∧
          ∀ value, (back.filterMap namedValue?).getLast? = some value →
            value.toList = rest.rdropWhile isSpace) ∧
        ((matchableRests (partsOf cookie)).head?.elim [] fun group =>
          (strip (String.ofList group)).toList) = rest.rdropWhile isSpace) := by
    intro front part back rest hparts hrest hlast
    have hproduct : ((partsOf cookie).filterMap plainRest?).getLast? = some rest :=
      getLast?_filterMap_eq_some_iff.mpr ⟨front, part, back, hparts, hrest, hlast⟩
    have hheader : ((partsOf cookie).filterMap namedValue?).getLast? =
        (back.filterMap namedValue?).getLast?.or
          (some (strip (String.ofList (rest.filter isNoBreak)))) := by
      rw [hparts, header_of_parts hrest]
    rw [agreeOnUser_iff, get?_parseCookie, get?_parseCookieHeader, storeUserId_eq, hproduct,
      hheader, Option.map_some, Option.getD_some, header_eq_iff, ← String.toList_inj]
    refine and_congr_right fun _ => ?_
    rw [String.toList_ofList]
    cases (matchableRests (partsOf cookie)).head? <;> rfl
  cases hproduct : ((partsOf cookie).filterMap plainRest?).getLast? with
  | none =>
      have hplain := List.filterMap_eq_nil_iff.mp (List.getLast?_eq_none_iff.mp hproduct)
      rw [hunnamed hplain]
      constructor
      · exact fun hblank => .unnamed hplain hblank
      · rintro (⟨-, hblank⟩ | ⟨front, part, back, rest, hparts, hrest, -, -, -, -⟩)
        · exact hblank
        · have hmem : part ∈ partsOf cookie := hparts ▸ List.mem_append_right _ List.mem_cons_self
          cases (hplain part hmem).symm.trans hrest
  | some rest =>
      obtain ⟨front, part, back, hparts, hrest, hlast⟩ :=
        getLast?_filterMap_eq_some_iff.mp hproduct
      constructor
      · intro hagree
        obtain ⟨⟨hclean, hbehind⟩, hfirst⟩ :=
          (hnamed front part back rest hparts hrest hlast).mp hagree
        exact .named front part back rest hparts hrest hlast hclean hbehind hfirst
      · rintro (⟨hplain, hblank⟩ |
          ⟨front, part, back, rest, hparts, hrest, hlast, hclean, hbehind, hfirst⟩)
        · exact (hunnamed hplain).mpr hblank
        · exact (hnamed front part back rest hparts hrest hlast).mpr
            ⟨⟨hclean, hbehind⟩, hfirst⟩

/-- A cookie that is repeated names one user to the store and another one to the parsers. -/
theorem repeated_unb_disagrees :
    storeUserId "unb=1; unb=2" = some "1" ∧
      (parseCookieHeader "unb=1; unb=2").get? "unb" = some "2" ∧
      (parseCookie "unb=1; unb=2").get? "unb" = some "2" ∧ ¬AgreeOnUser "unb=1; unb=2" := by
  have hstore : storeUserId "unb=1; unb=2" = some "1" := by decide
  have hheader : (parseCookieHeader "unb=1; unb=2").get? "unb" = some "2" := by
    decide +kernel
  have hproduct : (parseCookie "unb=1; unb=2").get? "unb" = some "2" := by decide +kernel
  refine ⟨hstore, hheader, hproduct, fun hagree => ?_⟩
  have hsame := ((agreeOnUser_iff _).mp hagree).2
  rw [hstore, hproduct] at hsame
  exact absurd hsame (by decide)

end XianyuAdmin.Cookies
