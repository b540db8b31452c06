import Mathlib

/-!
# Percent encoding

A byte that is kept stands for itself; any other one is `%` and its two
hexadecimal digits.  What is encoded is read back byte for byte, and it has none
of the characters that a format may give a meaning to.
-/

namespace XianyuAdmin.PercentEncoding

def hexDigit (value : Fin 16) : Char :=
  Char.ofNat (if value.val < 10 then 48 + value.val else 55 + value.val)

/-- Both cases are read. -/
def hexValue (digit : Char) : Option ℕ :=
  let code := digit.toNat
  if 48 ≤ code ∧ code ≤ 57 then some (code - 48)
  else if 65 ≤ code ∧ code ≤ 70 then some (code - 55)
  else if 97 ≤ code ∧ code ≤ 102 then some (code - 87)
  else none

/-- The letters, the digits and `_.-~`, which `urllib.parse.quote` always keeps. -/
def isAlwaysSafe (byte : UInt8) : Bool :=
  let char := Char.ofNat byte.toNat
  char.isAlphanum || char ∈ ['_', '.', '-', '~']

def quoteByte (byte : UInt8) : List Char :=
  if isAlwaysSafe byte then [Char.ofNat byte.toNat]
  else
    ['%', hexDigit (Fin.ofNat 16 (byte.toNat / 16)), hexDigit (Fin.ofNat 16 (byte.toNat % 16))]

/-- `quote(text, safe="")` -/
def quote (text : String) : List Char := text.toUTF8.data.toList.flatMap quoteByte

/-- `unquote_to_bytes` -/
def unquoteBytes : List Char → List UInt8
  | '%' :: high :: low :: rest =>
      match hexValue high, hexValue low with
      | some high, some low => UInt8.ofNat (16 * high + low) :: unquoteBytes rest
      | _, _ => 37 :: unquoteBytes (high :: low :: rest)
  | char :: rest => String.utf8EncodeChar char ++ unquoteBytes rest
  | [] => []

/-- `unquote`, where the bytes are UTF-8. -/
def unquote (text : List Char) : Option String :=
  String.fromUTF8? (unquoteBytes text).toByteArray

theorem unquoteBytes_hexDigits (high low : Fin 16) (rest : List Char) :
    unquoteBytes ('%' :: hexDigit high :: hexDigit low :: rest) =
      UInt8.ofNat (16 * high.val + low.val) :: unquoteBytes rest := by
  have hvalue : ∀ value : Fin 16, hexValue (hexDigit value) = some value.val := by decide
  rw [unquoteBytes, hvalue, hvalue]

/-- What `quote` writes for a byte, in terms of its number. -/
theorem quoteByte_kept : ∀ code : Fin 256, isAlwaysSafe (UInt8.ofNat code) = true →
    Char.ofNat code ≠ '%' ∧ String.utf8EncodeChar (Char.ofNat code) = [UInt8.ofNat code] := by
  decide +kernel

theorem unquoteBytes_quoteByte (byte : UInt8) (rest : List Char) :
    unquoteBytes (quoteByte byte ++ rest) = byte :: unquoteBytes rest := by
  have hlt : byte.toNat < 256 := byte.toNat_lt
  unfold quoteByte
  split
  · rename_i hsafe
    obtain ⟨hpercent, hencode⟩ := quoteByte_kept ⟨byte.toNat, hlt⟩ (by simpa using hsafe)
    rw [List.singleton_append, unquoteBytes, hencode]
    · simp
    · rintro high low rest hchar
      exact absurd hchar hpercent
  · simp only [List.cons_append, List.nil_append, unquoteBytes_hexDigits, Fin.val_ofNat]
    congr 1
    apply UInt8.toNat_inj.mp
    rw [UInt8.toNat_ofNat']
    omega

theorem unquoteBytes_flatMap (bytes : List UInt8) :
    unquoteBytes (bytes.flatMap quoteByte) = bytes := by
  induction bytes with
  | nil => rfl
  | cons byte rest ih => rw [List.flatMap_cons, unquoteBytes_quoteByte, ih]

/-- Every text is read back, whatever characters it has. -/
theorem unquote_quote (text : String) : unquote (quote text) = some text := by
  have hbytes : (unquoteBytes (quote text)).toByteArray = text.toUTF8 := by
    rw [quote, unquoteBytes_flatMap]
    exact ByteArray.ext (Array.ext' (by simp))
  rw [unquote, hbytes]
  exact dif_pos text.isValidUTF8

/-- A quoted text has no other characters than those that are kept, and `%`. -/
theorem isSafe_of_mem_quote {text : String} {char : Char} (hmem : char ∈ quote text) :
    char.isAlphanum = true ∨ char ∈ ['_', '.', '-', '~', '%'] := by
  obtain ⟨byte, -, hchar⟩ := List.mem_flatMap.mp hmem
  unfold quoteByte at hchar
  have hdigit : ∀ value : Fin 16, (hexDigit value).isAlphanum = true := by decide
  split at hchar
  · rename_i hsafe
    rw [List.mem_singleton] at hchar
    subst hchar
    simp only [isAlwaysSafe, Bool.or_eq_true, decide_eq_true_eq] at hsafe
    rcases hsafe with halphanum | hmark
    · exact .inl halphanum
    · exact .inr (List.mem_append_left ['%'] hmark)
  · simp only [List.mem_cons, List.not_mem_nil, or_false] at hchar
    rcases hchar with rfl | rfl | rfl
    · exact .inr (by decide)
    · exact .inl (hdigit _)
    · exact .inl (hdigit _)

end XianyuAdmin.PercentEncoding
