import XianyuAdmin.Cards.CardParser
import XianyuAdmin.Core.WhileLoop
import XianyuAdmin.Pushes.PushPayloads

/-!
# Text cards in stored payloads

`find_text_card_content` searches a payload with a stack.  Texts that hold JSON are decoded on
the way, into objects that nothing refers to any more once they have been searched.  The search
skips a mapping at an address that it has visited, and Python gives the address of such an
object to the next one.
-/

namespace XianyuAdmin.Cards

open XianyuAdmin.Pushes
open XianyuAdmin.Python
open XianyuAdmin.WhileLoop

structure CardLibrary extends PushLibrary where
  /-- `base64.b64decode(text, validate=True).decode("utf-8")`, if it returns. -/
  strictBase64 : String → Option String

variable (library : CardLibrary)

/-- `json.loads`, where some exceptions are passed over; `null` is no decoded value. -/
def loadsOr (passed : List PyError) (text : String) : Except PyError (Option Json) :=
  match library.loads text with
  | .ok .null => .ok none
  | .ok decoded => .ok (some decoded)
  | .error .jsonDecodeError => .ok none
  | .error (.other error) => if error ∈ passed then .ok none else .error error

def decodeText (text : String) : Except PyError (Option Json) :=
  let candidate := strip text
  if opensJson candidate then loadsOr library [.typeError, .valueError] candidate
  else if 8 ≤ candidate.length ∧ candidate.length % 4 = 0 then
    match library.strictBase64 candidate with
    | some plain =>
        if opensJson (String.ofList (plain.toList.dropWhile isSpace)) then
          loadsOr library [.valueError] plain
        else .ok none
    | none => .ok none
  else .ok none

/-- An object: a value, and the addresses of the mappings in it by their paths. -/
abbrev Located := Json × (List ℕ → ℕ)

/-- The values that `value.values()` or a list yields. -/
def children : Located → List Located
  | (.obj members, address) =>
      members.zipIdx.map fun member => (member.1.2, fun path => address (member.2 :: path))
  | (.arr items, address) =>
      items.zipIdx.map fun item => (item.1, fun path => address (item.2 :: path))
  | _ => []

structure Search where
  /-- The top comes first. -/
  stack : List Located
  visited : List ℕ := []
  decoded : ℕ := 0

inductive Found
  | returned (text : Option String)
  | raised (error : PyError)
  deriving DecidableEq

/-- A turn of the `while` loop; `place` gives the addresses of the objects that `json.loads`
creates. -/
def searchTurn (place : ℕ → List ℕ → ℕ) (search : Search) : WhileLoop.Turn Search Found :=
  match search.stack with
  | [] => .leave (.returned none)
  | (.obj members, address) :: rest =>
      if address [] ∈ search.visited then .again { search with stack := rest }
      else
        match parseTextCardContent library.toPushLibrary members with
        | .error error => .leave (.raised error)
        | .ok (some text) => .leave (.returned (some text))
        | .ok none =>
            .again { search with
              stack := (children (.obj members, address)).reverse ++ rest
              visited := address [] :: search.visited }
  | (.arr items, address) :: rest =>
      .again { search with stack := (children (.arr items, address)).reverse ++ rest }
  | (.str text, _) :: rest =>
      match decodeText library text with
      | .error error => .leave (.raised error)
      | .ok none => .again { search with stack := rest }
      | .ok (some value) =>
          .again { search with
            stack := (value, place search.decoded) :: rest
            decoded := search.decoded + 1 }
  | _ :: rest => .again { search with stack := rest }

/-- `find_text_card_content`, if it ends within a number of turns. -/
def findTextCardContent (place : ℕ → List ℕ → ℕ) (payload : Located) (turns : ℕ) :
    Option Found :=
  run (searchTurn library place) turns { stack := [payload] }

mutual

def mappingPaths : Json → List (List ℕ)
  | .obj members => [] :: mappingPathsOfMembers 0 members
  | .arr items => mappingPathsOfItems 0 items
  | _ => []

def mappingPathsOfMembers (index : ℕ) : List (String × Json) → List (List ℕ)
  | [] => []
  | (_, value) :: rest =>
      (mappingPaths value).map (List.cons index) ++ mappingPathsOfMembers (index + 1) rest

def mappingPathsOfItems (index : ℕ) : List Json → List (List ℕ)
  | [] => []
  | value :: rest =>
      (mappingPaths value).map (List.cons index) ++ mappingPathsOfItems (index + 1) rest

end

def Located.addresses (object : Located) : List ℕ :=
  (mappingPaths object.1).map object.2

def PlacesApart (place : ℕ → List ℕ → ℕ) (payload : Located) (search : Search) : Prop :=
  ∀ text address rest value, search.stack = (.str text, address) :: rest →
    decodeText library text = .ok (some value) →
      (Located.addresses (value, place search.decoded)).Nodup ∧
        ∀ object ∈ payload :: rest, ∀ taken ∈ object.addresses,
          taken ∉ Located.addresses (value, place search.decoded)

/-- The values of the fully unfolded payload. -/
inductive Inside : Json → Json → Prop
  | here (value : Json) : Inside value value
  | member {members : List (String × Json)} {member : String × Json} {value : Json}
      (hmember : member ∈ members) (hinside : Inside member.2 value) :
      Inside (.obj members) value
  | item {items : List Json} {item value : Json} (hitem : item ∈ items)
      (hinside : Inside item value) : Inside (.arr items) value
  | text {text : String} {decoded value : Json}
      (hdecoded : decodeText library text = .ok (some decoded)) (hinside : Inside decoded value) :
      Inside (.str text) value

/-- A mapping with `contentType` 6 and a mapping as its `textCard`. -/
def IsTextCard (members : Members) : Prop :=
  contentTypeInt library.toPushLibrary (Json.get members "contentType") = .ok (some 6) ∧
    ∃ card, Json.get members "textCard" = .obj card

def HoldsCard (payload : Json) : Prop :=
  ∃ members, Inside library payload (.obj members) ∧ IsTextCard library members

def FindsCard (payload : Json) : Found → Prop
  | .raised _ => False
  | .returned text =>
      (text.isSome ↔ HoldsCard library payload) ∧
        ∀ content ∈ text, ∃ members, Inside library payload (.obj members) ∧
          IsTextCard library members ∧
          parseTextCardContent library.toPushLibrary members = .ok (some content)

def Search.values (search : Search) : List Json :=
  search.stack.map Prod.fst

def Search.Skips (search : Search) : Prop :=
  ∃ members address rest, search.stack = (.obj members, address) :: rest ∧
    address [] ∈ search.visited

structure Careful (place : ℕ → List ℕ → ℕ) (search : Search) : Prop where
  quiet : ∀ error, searchTurn library place search ≠ .leave (.raised error)
  keeps : search.Skips → ∀ value rest, search.values = value :: rest → HoldsCard library value →
    ∃ other ∈ rest, HoldsCard library other

mutual

/-- The characters and values of a value. -/
def weight : Json → ℕ
  | .str text => text.length + 1
  | .arr items => itemsWeight items + 1
  | .obj members => membersWeight members + 1
  | .null | .bool _ | .int _ | .float _ => 1

def membersWeight : List (String × Json) → ℕ
  | [] => 0
  | (_, value) :: rest => weight value + membersWeight rest

def itemsWeight : List Json → ℕ
  | [] => 0
  | value :: rest => weight value + itemsWeight rest

end

/-- JSON spends a character on each value, and two quotes on each string; base64 spends four
characters on three bytes. -/
structure Shrinks : Prop where
  loads : ∀ text value, library.loads text = .ok value → weight value ≤ text.length
  base64 : ∀ text plain, library.strictBase64 text = some plain → plain.length ≤ text.length

section Termination

variable {library} {place : ℕ → List ℕ → ℕ} {search next : Search}

theorem length_strip_le (text : String) : (strip text).length ≤ text.length := by
  have hfront := (List.dropWhile_sublist isSpace (l := text.toList)).length_le
  have hback := (List.dropWhile_sublist isSpace
    (l := (text.toList.dropWhile isSpace).reverse)).length_le
  rw [List.length_reverse] at hback
  rw [strip, ← String.length_toList, String.toList_ofList, List.length_reverse,
    ← String.length_toList]
  omega

theorem loads_of_loadsOr {passed : List PyError} {text : String} {value : Json}
    (hloads : loadsOr library passed text = .ok (some value)) : library.loads text = .ok value := by
  unfold loadsOr at hloads
  split at hloads
  · cases hloads
  · rename_i hread
    cases hloads
    exact hread
  · cases hloads
  · split at hloads <;> cases hloads

theorem weight_lt_of_decodeText (hshrinks : Shrinks library) {text : String} {value : Json}
    (hdecoded : decodeText library text = .ok (some value)) :
    weight value < weight (.str text) := by
  have hstrip := length_strip_le text
  rw [weight]
  simp only [decodeText] at hdecoded
  split at hdecoded
  · have hread := hshrinks.loads _ _ (loads_of_loadsOr hdecoded)
    omega
  · split at hdecoded
    · split at hdecoded
      · rename_i plain hplain
        split at hdecoded
        · have hread := hshrinks.loads _ _ (loads_of_loadsOr hdecoded)
          have hbytes := hshrinks.base64 _ _ hplain
          omega
        · cases hdecoded
      · cases hdecoded
    · cases hdecoded

theorem membersWeight_eq (members : List (String × Json)) :
    membersWeight members = ((members.map Prod.snd).map weight).sum := by
  induction members with
  | nil => rfl
  | cons member rest ih => simp [membersWeight, ih]

theorem itemsWeight_eq (items : List Json) : itemsWeight items = (items.map weight).sum := by
  induction items with
  | nil => rfl
  | cons item rest ih => simp [itemsWeight, ih]

end Termination

/-- The values that a value is opened into, from the top of the stack. -/
def opened : Json → List Json
  | .obj members => (members.map Prod.snd).reverse
  | .arr items => items.reverse
  | .str text =>
      match decodeText library text with
      | .ok (some value) => [value]
      | _ => []
  | .null | .bool _ | .int _ | .float _ => []

section Turns

variable {library} {place : ℕ → List ℕ → ℕ} {search next : Search}

theorem inside_iff {value other : Json} :
    Inside library value other ↔
      other = value ∨ ∃ part ∈ opened library value, Inside library part other := by
  constructor
  · intro hinside
    cases hinside with
    | here => exact .inl rfl
    | member hmember hinside =>
        exact .inr ⟨_, List.mem_reverse.mpr (List.mem_map_of_mem hmember), hinside⟩
    | item hitem hinside => exact .inr ⟨_, List.mem_reverse.mpr hitem, hinside⟩
    | text hdecoded hinside =>
        exact .inr ⟨_, by simp only [opened, hdecoded, List.mem_singleton], hinside⟩
  · rintro (rfl | ⟨part, hpart, hinside⟩)
    · exact .here _
    · cases value with
      | obj members =>
          obtain ⟨member, hmember, rfl⟩ := List.mem_map.mp (List.mem_reverse.mp hpart)
          exact .member hmember hinside
      | arr items => exact .item (List.mem_reverse.mp hpart) hinside
      | str text =>
          simp only [opened] at hpart
          split at hpart
          · rename_i hdecoded
            rw [List.mem_singleton.mp hpart] at hinside
            exact .text hdecoded hinside
          · cases hpart
      | null => cases hpart
      | bool value => cases hpart
      | int value => cases hpart
      | float text => cases hpart

theorem weight_opened (hshrinks : Shrinks library) (value : Json) :
    ((opened library value).map weight).sum < weight value := by
  cases value with
  | obj members => simp [opened, weight, membersWeight_eq]
  | arr items => simp [opened, weight, itemsWeight_eq]
  | str text =>
      simp only [opened]
      split
      · rename_i hdecoded
        simpa using weight_lt_of_decodeText hshrinks hdecoded
      · simp [weight]
  | null => simp [opened, weight]
  | bool value => simp [opened, weight]
  | int value => simp [opened, weight]
  | float text => simp [opened, weight]

theorem isTextCard_iff {members : Members} :
    IsTextCard library members ↔
      ∃ text, parseTextCardContent library.toPushLibrary members = .ok (some text) := by
  unfold IsTextCard parseTextCardContent textCardContent
  cases contentTypeInt library.toPushLibrary (Json.get members "contentType") with
  | error error => simp [Except.map]
  | ok number =>
      cases Json.get members "textCard" with
      | obj card =>
          by_cases hsix : number = some 6
          · simp only [hsix, Except.map, ne_eq, not_true_eq_false, if_false, Except.ok.injEq,
              Json.obj.injEq, exists_eq', and_self, true_iff]
            split
            · exact ⟨_, rfl⟩
            · split
              · exact ⟨_, rfl⟩
              · split <;> exact ⟨_, rfl⟩
          · simp [Except.map, hsix]
      | _ => simp [Except.map]

theorem map_fst_children (object : Located) :
    (children object).map Prod.fst = match object.1 with
      | .obj members => members.map Prod.snd
      | .arr items => items
      | _ => [] := by
  obtain ⟨value, address⟩ := object
  cases value with
  | obj members =>
      have hmembers := congrArg (List.map Prod.snd) (List.zipIdx_map_fst 0 members)
      rw [List.map_map] at hmembers
      simpa [children, Function.comp_def] using hmembers
  | arr items => simp [children, Function.comp_def]
  | str | null | bool | int | float => rfl

theorem again_cases (hagain : searchTurn library place search = .again next) :
    ∃ value rest, search.values = value :: rest ∧
      (next.values = rest ∧ search.Skips ∨
        next.values = opened library value ++ rest ∧ ¬search.Skips ∧
          ∀ members, value = .obj members → ¬IsTextCard library members) := by
  rcases hstack : search.stack with _ | ⟨⟨value, address⟩, rest⟩
  · simp [searchTurn, hstack] at hagain
  refine ⟨value, rest.map Prod.fst, by rw [Search.values, hstack]; rfl, ?_⟩
  have hskips : search.Skips → ∃ members, value = .obj members ∧ address [] ∈ search.visited := by
    rintro ⟨members, other, others, hsame, hvisited⟩
    cases hstack.symm.trans hsame
    exact ⟨members, rfl, hvisited⟩
  have hopens : (∀ members, value ≠ .obj members) → ¬search.Skips ∧
      ∀ members, value = .obj members → ¬IsTextCard library members := by
    refine fun hne => ⟨fun hskip => ?_, fun members hsame => absurd hsame (hne members)⟩
    obtain ⟨members, hsame, -⟩ := hskips hskip
    exact hne members hsame
  cases value with
  | obj members =>
      simp only [searchTurn, hstack] at hagain
      split at hagain
      · rename_i hvisited
        cases hagain
        exact .inl ⟨rfl, members, address, rest, hstack, hvisited⟩
      · rename_i hnew
        split at hagain
        · cases hagain
        · cases hagain
        · rename_i hnone
          cases hagain
          refine .inr ⟨?_, fun hskip => hnew (hskips hskip).choose_spec.2, ?_⟩
          · rw [Search.values, List.map_append, List.map_reverse, map_fst_children, opened]
          · intro other hother hcard
            cases hother
            obtain ⟨text, htext⟩ := isTextCard_iff.mp hcard
            rw [hnone] at htext
            cases htext
  | arr items =>
      simp only [searchTurn, hstack, WhileLoop.Turn.again.injEq] at hagain
      subst hagain
      refine .inr ⟨?_, hopens nofun⟩
      rw [Search.values, List.map_append, List.map_reverse, map_fst_children, opened]
  | str text =>
      simp only [searchTurn, hstack] at hagain
      split at hagain
      · cases hagain
      · rename_i hnone
        cases hagain
        refine .inr ⟨?_, hopens nofun⟩
        simp only [Search.values, opened, hnone, List.nil_append]
      · rename_i value hsome
        cases hagain
        refine .inr ⟨?_, hopens nofun⟩
        simp only [Search.values, opened, hsome, List.map_cons, List.singleton_append]
  | null | bool | int | float =>
      simp only [searchTurn, hstack, WhileLoop.Turn.again.injEq] at hagain
      subst hagain
      exact .inr ⟨rfl, hopens nofun⟩

def Search.weight (search : Search) : ℕ :=
  (search.values.map Cards.weight).sum

theorem weight_lt_of_again (hshrinks : Shrinks library)
    (hagain : searchTurn library place search = .again next) : next.weight < search.weight := by
  obtain ⟨value, rest, hvalues, ⟨hnext, -⟩ | ⟨hnext, -, -⟩⟩ := again_cases hagain
  · have hpositive : 0 < weight value := Nat.zero_lt_of_lt (weight_opened hshrinks value)
    rw [Search.weight, Search.weight, hvalues, hnext, List.map_cons, List.sum_cons]
    omega
  · have hopened := weight_opened hshrinks value
    rw [Search.weight, Search.weight, hvalues, hnext, List.map_append, List.sum_append,
      List.map_cons, List.sum_cons]
    omega

theorem search_ends (hshrinks : Shrinks library) (search : Search) :
    ∃ turns found, run (searchTurn library place) turns search = some found := by
  induction hweight : search.weight using Nat.strong_induction_on generalizing search with
  | _ weight ih =>
      cases hturn : searchTurn library place search with
      | leave found => exact ⟨1, found, by rw [run, hturn]⟩
      | again next =>
          obtain ⟨turns, found, hrun⟩ :=
            ih next.weight (hweight ▸ weight_lt_of_again hshrinks hturn) next rfl
          exact ⟨turns + 1, found, by rw [run, hturn]; exact hrun⟩

def Search.Shows (library : CardLibrary) (search : Search) (shown : Members → Prop) : Prop :=
  ∃ value ∈ search.values, ∃ members, Inside library value (.obj members) ∧ shown members

theorem shows_of_again {shown : Members → Prop}
    (hagain : searchTurn library place search = .again next) (hshows : next.Shows library shown) :
    search.Shows library shown := by
  obtain ⟨part, hpart, members, hinside, hshown⟩ := hshows
  obtain ⟨value, rest, hvalues, hcases⟩ := again_cases hagain
  rw [Search.Shows, hvalues]
  obtain ⟨hnext, -⟩ | ⟨hnext, -, -⟩ := hcases
  · rw [hnext] at hpart
    exact ⟨part, List.mem_cons_of_mem _ hpart, members, hinside, hshown⟩
  · rw [hnext] at hpart
    rcases List.mem_append.mp hpart with hopened | hrest
    · exact ⟨value, List.mem_cons_self, members, inside_iff.mpr (.inr ⟨part, hopened, hinside⟩),
        hshown⟩
    · exact ⟨part, List.mem_cons_of_mem _ hrest, members, hinside, hshown⟩

theorem careful_iff_of_again (hagain : searchTurn library place search = .again next) :
    Careful library place search ↔
      (search.Shows library (IsTextCard library) → next.Shows library (IsTextCard library)) := by
  have hquiet : ∀ error, searchTurn library place search ≠ .leave (.raised error) := by
    intro error hraised
    cases hagain.symm.trans hraised
  obtain ⟨value, rest, hvalues, ⟨hnext, hskips⟩ | ⟨hnext, hopens, hnone⟩⟩ := again_cases hagain
  · simp only [Search.Shows, hvalues, hnext]
    constructor
    · rintro hcareful ⟨part, hpart, hholds⟩
      rcases List.mem_cons.mp hpart with rfl | hrest
      · exact hcareful.keeps hskips _ _ hvalues hholds
      · exact ⟨part, hrest, hholds⟩
    · intro hkeeps
      refine ⟨hquiet, fun _ top others htop hholds => ?_⟩
      cases hvalues.symm.trans htop
      exact hkeeps ⟨_, List.mem_cons_self, hholds⟩
  · refine iff_of_true ⟨hquiet, fun hskips => absurd hskips hopens⟩ ?_
    simp only [Search.Shows, hvalues, hnext]
    rintro ⟨part, hpart, members, hinside, hcard⟩
    rcases List.mem_cons.mp hpart with rfl | hrest
    · rcases inside_iff.mp hinside with hsame | ⟨inner, hinner, hinside⟩
      · exact absurd hcard (hnone members hsame.symm)
      · exact ⟨inner, List.mem_append_left _ hinner, members, hinside, hcard⟩
    · exact ⟨part, List.mem_append_right _ hrest, members, hinside, hcard⟩

theorem leave_cases {text : Option String}
    (hleave : searchTurn library place search = .leave (.returned text)) :
    (text = none ∧ search.values = []) ∨
      ∃ content members rest, text = some content ∧ search.values = .obj members :: rest ∧
        ¬search.Skips ∧
        parseTextCardContent library.toPushLibrary members = .ok (some content) := by
  rcases hstack : search.stack with _ | ⟨⟨value, address⟩, rest⟩
  · simp only [searchTurn, hstack, Turn.leave.injEq, Found.returned.injEq] at hleave
    exact .inl ⟨hleave.symm, by rw [Search.values, hstack]; rfl⟩
  refine .inr ?_
  cases value with
  | obj members =>
      simp only [searchTurn, hstack] at hleave
      split at hleave
      · cases hleave
      · rename_i hnew
        split at hleave
        · cases hleave
        · rename_i content hparsed
          cases hleave
          refine ⟨content, members, rest.map Prod.fst, rfl, by rw [Search.values, hstack]; rfl, ?_,
            hparsed⟩
          rintro ⟨_, _, _, hsame, hvisited⟩
          cases hstack.symm.trans hsame
          exact hnew hvisited
        · cases hleave
  | arr items => simp [searchTurn, hstack] at hleave
  | str text =>
      simp only [searchTurn, hstack] at hleave
      split at hleave <;> cases hleave
  | null | bool | int | float => simp [searchTurn, hstack] at hleave

theorem shows_of_run {turns : ℕ} {content : String}
    (hrun : run (searchTurn library place) turns search = some (.returned (some content))) :
    search.Shows library fun members => IsTextCard library members ∧
      parseTextCardContent library.toPushLibrary members = .ok (some content) := by
  induction turns generalizing search with
  | zero => cases hrun
  | succ turns ih =>
      rw [run] at hrun
      split at hrun
      · rename_i hagain
        exact shows_of_again hagain (ih hrun)
      · rename_i hleave
        cases hrun
        obtain ⟨hnone, -⟩ | ⟨found, members, rest, hfound, hvalues, -, hparsed⟩ :=
          leave_cases hleave
        · cases hnone
        · cases hfound
          rw [Search.Shows, hvalues]
          exact ⟨_, List.mem_cons_self, members, .here _, isTextCard_iff.mpr ⟨_, hparsed⟩, hparsed⟩

theorem careful_of_leave {text : Option String}
    (hleave : searchTurn library place search = .leave (.returned text)) :
    Careful library place search ∧
      (text.isSome ↔ search.Shows library (IsTextCard library)) := by
  have hquiet : ∀ error, searchTurn library place search ≠ .leave (.raised error) := by
    intro error hraised
    cases hleave.symm.trans hraised
  obtain ⟨rfl, hvalues⟩ | ⟨content, members, rest, rfl, hvalues, hopens, hparsed⟩ :=
    leave_cases hleave
  · refine ⟨⟨hquiet, fun _ value rest hcons => ?_⟩, iff_of_false nofun ?_⟩
    · cases hvalues.symm.trans hcons
    · rintro ⟨value, hvalue, -⟩
      rw [hvalues] at hvalue
      cases hvalue
  · refine ⟨⟨hquiet, fun hskips => absurd hskips hopens⟩, iff_of_true rfl ?_⟩
    rw [Search.Shows, hvalues]
    exact ⟨_, List.mem_cons_self, members, .here _, isTextCard_iff.mpr ⟨_, hparsed⟩⟩

theorem search_finds_iff (hshrinks : Shrinks library) (search : Search) :
    (∃ text, (∃ turns, run (searchTurn library place) turns search = some (.returned text)) ∧
        (text.isSome ↔ search.Shows library (IsTextCard library))) ↔
      ∀ turns state, stateAfter (searchTurn library place) turns search = some state →
        Careful library place state := by
  induction hweight : search.weight using Nat.strong_induction_on generalizing search with
  | _ weight ih =>
      cases hturn : searchTurn library place search with
      | leave found =>
          simp only [forall_stateAfter_of_leave hturn, exists_run_of_leave hturn]
          cases found with
          | raised error =>
              refine iff_of_false ?_ fun hcareful => hcareful.quiet error hturn
              rintro ⟨text, htext, -⟩
              cases htext
          | returned text =>
              obtain ⟨hcareful, hfound⟩ := careful_of_leave hturn
              exact iff_of_true ⟨text, rfl, hfound⟩ hcareful
      | again next =>
          simp only [forall_stateAfter_of_again hturn, exists_run_of_again hturn,
            ← ih next.weight (hweight ▸ weight_lt_of_again hshrinks hturn) next rfl,
            careful_iff_of_again hturn]
          constructor
          · rintro ⟨text, ⟨turns, hrun⟩, hfound⟩
            have hsound : text.isSome → next.Shows library (IsTextCard library) := by
              intro hsome
              obtain ⟨content, rfl⟩ := Option.isSome_iff_exists.mp hsome
              obtain ⟨value, hvalue, members, hinside, hcard, -⟩ := shows_of_run hrun
              exact ⟨value, hvalue, members, hinside, hcard⟩
            exact ⟨fun hshows => hsound (hfound.mpr hshows), text, ⟨turns, hrun⟩, hsound,
              fun hshows => hfound.mpr (shows_of_again hturn hshows)⟩
          · rintro ⟨hkeeps, text, hrun, hfound⟩
            exact ⟨text, hrun, fun hsome => shows_of_again hturn (hfound.mp hsome),
              fun hshows => hfound.mpr (hkeeps hshows)⟩

end Turns

def lostText : String :=
  "\x7b\"contentType\":6,\"textCard\":\x7b\"title\":\"hi\"\x7d\x7d"

def lostCard : Json :=
  .obj [("contentType", .int 6), ("textCard", .obj [("title", .str "hi")])]

def lostLibrary : CardLibrary where
  loads text :=
    if text = lostText then .ok lostCard
    else if text = "\x7b\x7d" then .ok (.obj [])
    else .error .jsonDecodeError
  base64Text _ := none
  decrypt _ := none
  str _ := ""
  isDigit _ := false
  int _ := none
  truncate _ := 0
  query _ := some []
  plainText := id
  texts := Messages.tabulated []
  recursionLimit := 900
  strictBase64 _ := none

theorem shrinks_lostLibrary : Shrinks lostLibrary where
  loads text value hloads := by
    simp only [lostLibrary] at hloads
    split at hloads
    · rename_i htext
      cases hloads
      rw [htext]
      decide
    · split at hloads
      · rename_i htext
        cases hloads
        rw [htext]
        decide
      · cases hloads
  base64 := nofun

def lostPayload : Located := (.arr [.str lostText, .str "\x7b\x7d"], fun _ => 0)

/-- Every text is decoded to objects at the same addresses. -/
def lostPlace (_ : ℕ) (path : List ℕ) : ℕ := 7 + path.length

theorem holdsCard_lostPayload : HoldsCard lostLibrary lostPayload.1 := by
  have hdecoded : decodeText lostLibrary lostText = .ok (some lostCard) := rfl
  exact ⟨_, .item List.mem_cons_self (.text hdecoded (.here _)), rfl, _, rfl⟩

end XianyuAdmin.Cards
