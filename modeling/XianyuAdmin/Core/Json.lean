import XianyuAdmin.Core.Python

/-!
# JSON values

Platform answers and `Text` columns that hold JSON are decoded values here.  A
number with a fraction is kept as the text Python prints for it; nothing below
computes with it.
-/

namespace XianyuAdmin

open XianyuAdmin.Python

/-- A decoded JSON value; object members keep their order. -/
inductive Json
  | null
  | bool (value : Bool)
  | int (value : ℤ)
  | float (text : String)
  | str (text : String)
  | arr (items : List Json)
  | obj (members : List (String × Json))
  deriving Inhabited

namespace Json

/-- The Python truth value. -/
def isTrue : Json → Bool
  | .null => false
  | .bool value => value
  | .int value => value ≠ 0
  | .float text => text ≠ "0.0" && text ≠ "-0.0"
  | .str text => text ≠ ""
  | .arr items => !items.isEmpty
  | .obj members => !members.isEmpty

/-- `value.get(name)` on a `dict`. -/
def get (members : List (String × Json)) (name : String) : Json :=
  (members.find? fun member => member.1 = name).elim .null Prod.snd

def or (left right : Json) : Json :=
  if left.isTrue then left else right

/-- `value if isinstance(value, dict) else {}`, as its members. -/
def asObject : Json → List (String × Json)
  | .obj members => members
  | _ => []

/-- `value if isinstance(value, list) else []`. -/
def asList : Json → List Json
  | .arr items => items
  | _ => []

/-- The string a value is, for `isinstance(value, str)`. -/
def asString? : Json → Option String
  | .str text => some text
  | _ => none

/-- One character of a string literal printed by `json.dumps`. -/
def escapeChar (char : Char) : String :=
  if char = '"' then "\\\""
  else if char = '\\' then "\\\\"
  else if char = '\n' then "\\n"
  else if char = '\r' then "\\r"
  else if char = '\t' then "\\t"
  else if char.val = 8 then "\\b"
  else if char.val = 12 then "\\f"
  else if char.val < 32 then
    "\\u00" ++ String.ofList
      [Nat.digitChar (char.toNat / 16), Nat.digitChar (char.toNat % 16)]
  else String.singleton char

def quote (text : String) : String :=
  "\"" ++ String.join (text.toList.map escapeChar) ++ "\""

mutual

/-- `json.dumps(value, ensure_ascii=False)`. -/
def dumps : Json → String
  | .null => "null"
  | .bool true => "true"
  | .bool false => "false"
  | .int value => toString value
  | .float text => text
  | .str text => quote text
  | .arr items => "[" ++ dumpsItems items ++ "]"
  | .obj members => "\x7b" ++ dumpsMembers members ++ "\x7d"

def dumpsItems : List Json → String
  | [] => ""
  | [item] => dumps item
  | item :: items => dumps item ++ ", " ++ dumpsItems items

def dumpsMembers : List (String × Json) → String
  | [] => ""
  | [(name, value)] => quote name ++ ": " ++ dumps value
  | (name, value) :: members =>
      quote name ++ ": " ++ dumps value ++ ", " ++ dumpsMembers members

end

/-- `str(value)` for the values `str | int | float`; a `bool` is an `int`. -/
def scalarText : Json → Option String
  | .bool true => some "True"
  | .bool false => some "False"
  | .int value => some (toString value)
  | .float text => some text
  | .str text => some text
  | .null | .arr _ | .obj _ => none

def stringValue (value : Json) : Option String :=
  value.scalarText.bind stripOrNone

theorem ne_empty_of_stringValue {value : Json} {text : String}
    (hvalue : value.stringValue = some text) : text ≠ "" := by
  obtain ⟨scalar, -, hstrip⟩ := Option.bind_eq_some_iff.mp hvalue
  unfold stripOrNone at hstrip
  split at hstrip
  · cases hstrip
  · rename_i hne
    exact Option.some.inj hstrip ▸ hne

/-- `str(value or "")` where only a string, a number or a truth value can pass
the tests that follow. -/
def textOrEmpty (value : Json) : String :=
  if value.isTrue then value.scalarText.getD (dumps value) else ""

end Json

end XianyuAdmin
