import XianyuAdmin.Core.Dict
import XianyuAdmin.Core.Stripping

/-!
# Cookies as text

An account stores its cookies in one string, as a browser sends them.  Responses of
the platform change single cookies, for which the string is parsed, overlaid with
the changes and written out again.
-/

namespace XianyuAdmin.Cookies

open XianyuAdmin.Python

abbrev CookieMap := Dict String String

/-- `text.partition("=")` of a part that has a name and a separator. -/
def partitionEquals (text : List Char) : Option (String × String) :=
  match text.dropWhile (· ≠ '=') with
  | [] => none
  | _ :: value =>
      if text.takeWhile (· ≠ '=') = [] then none
      else some (String.ofList (text.takeWhile (· ≠ '=')), String.ofList value)

def parsePart (part : List Char) : Option (String × String) :=
  partitionEquals (strip (String.ofList part)).toList

def parseCookie (value : String) : CookieMap :=
  Dict.ofEntries ((value.toList.splitOn ';').filterMap parsePart)

def entryText (entry : String × String) : String := entry.1 ++ "=" ++ entry.2

def serializeCookie (values : CookieMap) : String :=
  String.intercalate "; " ((values.entries.filter fun entry => entry.1 ≠ "").map entryText)

/-- The updates of `merge_account_cookie_updates` without those that are empty. -/
def cleanUpdates (updates : CookieMap) : List (String × String) :=
  updates.entries.filter fun entry => entry.1 ≠ "" && entry.2 ≠ ""

structure Readable (entry : String × String) : Prop where
  name_ne_empty : entry.1 ≠ ""
  equals_not_mem : '=' ∉ entry.1.toList
  semicolon_not_mem : ';' ∉ (entryText entry).toList
  stripped : Stripped (entryText entry).toList

theorem toList_entryText (entry : String × String) :
    (entryText entry).toList = entry.1.toList ++ '=' :: entry.2.toList := by
  simp [entryText]

variable {entry : String × String}

theorem parsePart_entryText (hreadable : Readable entry) :
    parsePart (entryText entry).toList = some entry := by
  have hname : entry.1.toList ≠ [] := by
    simpa using hreadable.name_ne_empty
  have hbefore : ∀ char ∈ entry.1.toList, decide (char ≠ '=') = true := by
    intro char hchar
    simpa using fun heq : char = '=' => hreadable.equals_not_mem (heq ▸ hchar)
  have htake : (entryText entry).toList.takeWhile (· ≠ '=') = entry.1.toList := by
    rw [toList_entryText, List.takeWhile_append_of_pos hbefore]
    simp
  have hdrop : (entryText entry).toList.dropWhile (· ≠ '=') = '=' :: entry.2.toList := by
    rw [toList_entryText, List.dropWhile_append_of_pos hbefore]
    simp
  unfold parsePart partitionEquals
  rw [strip_of_stripped hreadable.stripped]
  simp only [htake, hdrop, if_neg hname, String.ofList_toList]

theorem parsePart_space_cons (chars : List Char) :
    parsePart (' ' :: chars) = parsePart chars := by
  unfold parsePart
  rw [strip_space_cons]

theorem entryText_of_partition {text : List Char} (hpartition : partitionEquals text = some entry) :
    (entryText entry).toList = text ∧ entry.1 ≠ "" ∧ '=' ∉ entry.1.toList := by
  unfold partitionEquals at hpartition
  cases hdrop : text.dropWhile (· ≠ '=') with
  | nil =>
      simp only [hdrop] at hpartition
      cases hpartition
  | cons first value =>
      have hfirst : first = '=' := by
        have hnot := List.head?_dropWhile_not (fun char => decide (char ≠ '=')) text
        rw [hdrop] at hnot
        simpa using hnot
      subst hfirst
      have hsplit : text.takeWhile (· ≠ '=') ++ '=' :: value = text :=
        hdrop ▸ List.takeWhile_append_dropWhile
      simp only [hdrop] at hpartition
      split at hpartition
      · cases hpartition
      · rename_i hname
        rw [← Option.some.inj hpartition, toList_entryText, String.toList_ofList,
          String.toList_ofList]
        refine ⟨hsplit, by simpa using hname, fun hmem => ?_⟩
        simpa using List.mem_takeWhile_imp hmem

theorem strip_sublist (chars : List Char) :
    (strip (String.ofList chars)).toList.Sublist chars := by
  have hback : ((chars.dropWhile isSpace).reverse.dropWhile isSpace).Sublist
      (chars.dropWhile isSpace).reverse := List.dropWhile_sublist isSpace
  unfold strip
  rw [String.toList_ofList, String.toList_ofList]
  exact (List.reverse_sublist.mp (by simpa using hback)).trans
    (List.dropWhile_sublist isSpace)

theorem readable_of_parsePart {part : List Char} (hpart : ';' ∉ part)
    (hparse : parsePart part = some entry) : Readable entry := by
  obtain ⟨htext, hname, hequals⟩ := entryText_of_partition hparse
  refine ⟨hname, hequals, fun hmem => hpart ?_, ?_⟩
  · rw [htext] at hmem
    exact (strip_sublist part).subset hmem
  · rw [htext]
    exact stripped_strip _

theorem semicolon_not_mem_part {chars part : List Char} (hpart : part ∈ chars.splitOn ';') :
    ';' ∉ part := by
  induction chars generalizing part with
  | nil =>
      rw [List.splitOn_nil, List.mem_singleton] at hpart
      simp [hpart]
  | cons first rest ih =>
      rw [List.splitOn_cons_eq_if_modifyHead] at hpart
      split at hpart
      · rcases List.mem_cons.mp hpart with rfl | hrest
        · simp
        · exact ih hrest
      · rename_i hfirst
        cases hsplit : rest.splitOn ';' with
        | nil => exact absurd hsplit (List.splitOn_ne_nil _ _)
        | cons head tail =>
            rw [hsplit] at hpart ih
            rcases List.mem_cons.mp hpart with rfl | htail
            · intro hmem
              rcases List.mem_cons.mp hmem with heq | hhead
              · exact hfirst (beq_iff_eq.mpr heq.symm)
              · exact ih List.mem_cons_self hhead
            · exact ih (List.mem_cons_of_mem _ htail)

theorem readable_parseCookie (text : String) :
    ∀ entry ∈ (parseCookie text).entries, Readable entry := by
  refine Dict.forall_mem_update (by simp [Dict.empty]) fun entry hentry => ?_
  obtain ⟨part, hpart, hparse⟩ := List.mem_filterMap.mp hentry
  exact readable_of_parsePart (semicolon_not_mem_part hpart) hparse

theorem splitOn_intercalate_blank {first : List Char} {parts : List (List Char)}
    (hparts : ∀ part ∈ first :: parts, ';' ∉ part) :
    ([';', ' '].intercalate (first :: parts)).splitOn ';' =
      first :: parts.map (' ' :: ·) := by
  have hjoin : [';', ' '].intercalate (first :: parts) =
      [';'].intercalate (first :: parts.map (' ' :: ·)) := by
    induction parts generalizing first with
    | nil => rfl
    | cons second rest ih =>
        rw [List.intercalate_cons_cons, List.map_cons, List.intercalate_cons_cons,
          ih fun part hpart => hparts part (List.mem_cons_of_mem _ hpart)]
        cases rest <;> simp [List.intercalate_cons_cons]
  rw [hjoin]
  refine List.splitOn_intercalate ';' (fun part hpart => ?_) (List.cons_ne_nil _ _)
  rcases List.mem_cons.mp hpart with rfl | hrest
  · exact hparts part List.mem_cons_self
  · obtain ⟨plain, hplain, rfl⟩ := List.mem_map.mp hrest
    simpa using hparts plain (List.mem_cons_of_mem _ hplain)

theorem parse_serialize {values : CookieMap}
    (hreadable : ∀ entry ∈ values.entries, Readable entry) :
    parseCookie (serializeCookie values) = values := by
  have hall : (values.entries.filter fun entry => entry.1 ≠ "") = values.entries :=
    List.filter_eq_self.mpr fun entry hentry => by
      simpa using (hreadable entry hentry).name_ne_empty
  unfold parseCookie serializeCookie
  rw [hall, String.toList_intercalate, List.map_map]
  suffices hparts : ((("; ".toList).intercalate
      (values.entries.map (String.toList ∘ entryText))).splitOn ';').filterMap parsePart =
        values.entries by
    rw [hparts, Dict.ofEntries_entries]
  generalize values.entries = entries at hreadable
  cases entries with
  | nil =>
      have hempty : parsePart [] = none := rfl
      rw [List.map_nil, List.intercalate_nil, List.splitOn_nil, List.filterMap_cons, hempty]
      rfl
  | cons first rest =>
      have hone : ∀ entry ∈ first :: rest,
          parsePart (' ' :: (entryText entry).toList) = some entry := by
        intro entry hentry
        rw [parsePart_space_cons, parsePart_entryText (hreadable entry hentry)]
      have hclean : ∀ part ∈ (first :: rest).map (String.toList ∘ entryText), ';' ∉ part := by
        intro part hpart
        obtain ⟨entry, hentry, rfl⟩ := List.mem_map.mp hpart
        exact (hreadable entry hentry).semicolon_not_mem
      rw [List.map_cons] at hclean ⊢
      rw [show "; ".toList = [';', ' '] from rfl, splitOn_intercalate_blank hclean,
        List.filterMap_cons, Function.comp_apply,
        parsePart_entryText (hreadable first List.mem_cons_self)]
      refine congrArg (first :: ·) ?_
      rw [List.map_map, List.filterMap_map]
      have hrest : ∀ entry ∈ rest,
          (parsePart ∘ (' ' :: ·) ∘ String.toList ∘ entryText) entry = some entry := by
        intro entry hentry
        simp only [Function.comp_apply]
        exact hone entry (List.mem_cons_of_mem _ hentry)
      exact (List.filterMap_congr hrest).trans List.filterMap_some

structure Storable (entry : String × String) : Prop where
  name_semicolon : ';' ∉ entry.1.toList
  name_equals : '=' ∉ entry.1.toList
  name_stripped : Stripped entry.1.toList
  value_semicolon : ';' ∉ entry.2.toList
  value_stripped : Stripped entry.2.toList

theorem Storable.readable (hstorable : Storable entry) (hname : entry.1 ≠ "")
    (hvalue : entry.2 ≠ "") : Readable entry where
  name_ne_empty := hname
  equals_not_mem := hstorable.name_equals
  semicolon_not_mem := by
    rw [toList_entryText]
    simp [hstorable.name_semicolon, hstorable.value_semicolon]
  stripped := by
    rw [toList_entryText]
    obtain ⟨first, rest, hfirst⟩ := List.exists_cons_of_ne_nil
      (show entry.1.toList ≠ [] by simpa using hname)
    have hlast : entry.2.toList ≠ [] := by simpa using hvalue
    constructor
    · have hhead := hstorable.name_stripped.1
      rw [hfirst] at hhead ⊢
      simpa using hhead
    · have htail := hstorable.value_stripped.2
      rw [List.getLast?_append, List.getLast?_cons]
      cases hvalueLast : entry.2.toList.getLast? with
      | none => exact absurd (List.getLast?_eq_none_iff.mp hvalueLast) hlast
      | some last =>
          rw [hvalueLast] at htail
          simpa using htail

def nonEmptyUpdates (updates : CookieMap) : CookieMap where
  entries := cleanUpdates updates
  nodup := updates.nodup.sublist (List.filter_sublist.map _)

def mergedCookies (current updates : CookieMap) : CookieMap :=
  current.update (nonEmptyUpdates updates).entries

def changesIdentity (current updates : CookieMap) : Bool :=
  match current.get? "unb", (nonEmptyUpdates updates).get? "unb" with
  | some currentUnb, some updatedUnb =>
      updatedUnb ≠ "" && currentUnb ≠ "" && updatedUnb ≠ currentUnb
  | _, _ => false

/-- Merged cookies are read back as they were written. -/
theorem parse_serialize_merged (text : String) {updates : CookieMap}
    (hstorable : ∀ entry ∈ updates.entries, Storable entry) :
    parseCookie (serializeCookie (mergedCookies (parseCookie text) updates)) =
      mergedCookies (parseCookie text) updates := by
  refine parse_serialize (Dict.forall_mem_update (readable_parseCookie text) ?_)
  intro entry hentry
  obtain ⟨hmem, hnonEmpty⟩ := List.mem_filter.mp hentry
  simp only [Bool.and_eq_true, decide_eq_true_eq] at hnonEmpty
  exact (hstorable entry hmem).readable hnonEmpty.1 hnonEmpty.2

theorem get?_mergedCookies_of_none {current updates : CookieMap} {name : String}
    (hnone : (nonEmptyUpdates updates).get? name = none) :
    (mergedCookies current updates).get? name = current.get? name := by
  rw [mergedCookies, Dict.get?_update, hnone, Option.none_or]

theorem unb_mergedCookies {current updates : CookieMap}
    (hsame : changesIdentity current updates = false) {unb : String} (hunb : unb ≠ "")
    (hcurrent : current.get? "unb" = some unb) :
    (mergedCookies current updates).get? "unb" = some unb := by
  rw [mergedCookies, Dict.get?_update, hcurrent]
  cases hupdated : (nonEmptyUpdates updates).get? "unb" with
  | none => rfl
  | some updated =>
      have hne : updated ≠ "" := by
        have hmem := (List.mem_filter.mp (Dict.get?_eq_some_iff.mp hupdated)).2
        simp only [Bool.and_eq_true, decide_eq_true_eq] at hmem
        exact hmem.2
      simp only [changesIdentity, hcurrent, hupdated] at hsame
      have heq : updated = unb := by simpa [hne, hunb] using hsame
      rw [heq]
      rfl

end XianyuAdmin.Cookies
