import Mathlib

/-!
# Python values the services pass around

Optional text is tested by its truth value throughout the sources: `None` and
the empty string count as absent.  Instants are microseconds since the epoch,
the resolution of a Python `datetime`, and are plain natural numbers.
-/

namespace XianyuAdmin.Python

/-- `timedelta(seconds=...)` in microseconds. -/
def seconds (count : ℕ) : ℕ := count * 1000000

def truthy : Option String → Bool
  | none => false
  | some text => text ≠ ""

instance instLawfulBEqOptionString : LawfulBEq (Option String) := inferInstance

def orElse (value fallback : Option String) : Option String :=
  if truthy value then value else fallback

@[simp]
theorem truthy_none : truthy none = false := rfl

@[simp]
theorem truthy_some {text : String} : truthy (some text) = true ↔ text ≠ "" := by
  simp [truthy]

theorem exists_of_truthy {value : Option String} (htruthy : truthy value = true) :
    ∃ text, value = some text ∧ text ≠ "" := by
  cases value with
  | none => simp at htruthy
  | some text => exact ⟨text, rfl, truthy_some.mp htruthy⟩

@[simp]
theorem orElse_none (fallback : Option String) : orElse none fallback = fallback := rfl

def textOr (text : String) (fallback : Option String) : Option String :=
  if text = "" then fallback else some text

/-- An identifier that the services mint with `uuid4().hex`. -/
structure Identifier where
  text : String
  ne_empty : text ≠ ""
  deriving DecidableEq

/-- The characters `str.strip()` removes. -/
def isSpace (char : Char) : Bool :=
  char.val ∈ [0x9, 0xa, 0xb, 0xc, 0xd, 0x1c, 0x1d, 0x1e, 0x1f, 0x20, 0x85, 0xa0,
    0x1680, 0x2028, 0x2029, 0x202f, 0x205f, 0x3000] ||
  (0x2000 ≤ char.val && char.val ≤ 0x200a)

def strip (text : String) : String :=
  String.ofList
    (((text.toList.dropWhile isSpace).reverse.dropWhile isSpace).reverse)

theorem toList_strip_append (front back : String)
    (hhead : (front.toList.head?.map isSpace) = some false)
    (hlast : (front.toList.getLast?.map isSpace) = some false) :
    ∃ kept, kept.length ≤ back.length ∧
      (strip (front ++ back)).toList = front.toList ++ kept := by
  have hfront : ∀ rest, (front.toList ++ rest).dropWhile isSpace = front.toList ++ rest := by
    intro rest
    cases hchars : front.toList with
    | nil => simp [hchars] at hhead
    | cons char chars =>
        have hchar : isSpace char = false := by simpa [hchars] using hhead
        rw [List.cons_append, List.dropWhile_cons_of_neg (by simp [hchar])]
  have hback : front.toList.reverse.dropWhile isSpace = front.toList.reverse := by
    cases hchars : front.toList.reverse with
    | nil => rfl
    | cons char chars =>
        have hlastChar : front.toList.getLast? = some char := by
          rw [← List.head?_reverse, hchars, List.head?_cons]
        have hchar : isSpace char = false := by simpa [hlastChar] using hlast
        rw [List.dropWhile_cons_of_neg (by simp [hchar])]
  refine ⟨(back.toList.reverse.dropWhile isSpace).reverse, ?_, ?_⟩
  · have hlength : (back.toList.reverse.dropWhile isSpace).length ≤
        back.toList.reverse.length := (List.dropWhile_sublist isSpace).length_le
    rwa [List.length_reverse, String.length_toList, ← List.length_reverse] at hlength
  · rw [strip, String.toList_ofList, String.toList_append, hfront, List.reverse_append,
      List.dropWhile_append]
    split
    · rename_i hempty
      rw [hback, List.isEmpty_iff.mp hempty, List.reverse_nil, List.reverse_reverse,
        List.append_nil]
    · rw [List.reverse_append, List.reverse_reverse]

/-- `str.upper()`.  Only ASCII letters change: the codes it is applied to are
compared with ASCII names. -/
def upper (text : String) : String :=
  String.ofList (text.toList.map Char.toUpper)

/-- `str.lower()`.  Only ASCII letters change: the markers searched for
afterwards are ASCII or have no case. -/
def lower (text : String) : String :=
  String.ofList (text.toList.map Char.toLower)

def contains (needle text : String) : Bool :=
  text.toList.tails.any fun tail => needle.toList.isPrefixOf tail

/-- `any(needle in text for needle in needles)`. -/
def containsAny (needles : List String) (text : String) : Bool :=
  needles.any fun needle => contains needle text

/-- `text.strip() or None`. -/
def stripOrNone (text : String) : Option String :=
  if strip text = "" then none else some (strip text)

/-- `replace` on characters; `skip` of them belong to an occurrence that was
replaced. -/
def replaceChars (needle replacement : List Char) : ℕ → List Char → List Char
  | _, [] => []
  | skip + 1, _ :: chars => replaceChars needle replacement skip chars
  | 0, char :: chars =>
      if needle.isPrefixOf (char :: chars) then
        replacement ++ replaceChars needle replacement (needle.length - 1) chars
      else char :: replaceChars needle replacement 0 chars

/-- `text.replace(needle, replacement)` for a needle that is not empty. -/
def replaceAll (needle replacement text : String) : String :=
  String.ofList (replaceChars needle.toList replacement.toList 0 text.toList)

/-- `sorted(set(values))`. -/
def sortedSet (values : List String) : List String :=
  values.dedup.insertionSort (· ≤ ·)

/-- The library functions that the services call on text from outside. -/
structure Library (Value : Type) where
  /-- `json.loads`; `none` is a `JSONDecodeError`. -/
  loads : String → Option Value
  /-- `unicodedata.normalize("NFKC", text)`. -/
  nfkc : String → String
  casefold : String → String
  /-- The host of an `https` URL, by `urlsplit`. -/
  httpsHost : String → Option String

end XianyuAdmin.Python
