import XianyuAdmin.Core.Python

/-!
# Stripped text

What `str.strip()` returns has no space at either end, and is what it returns
for itself.
-/

namespace XianyuAdmin.Python

def Stripped (chars : List Char) : Prop :=
  (∀ char ∈ chars.head?, isSpace char = false) ∧
    ∀ char ∈ chars.getLast?, isSpace char = false

theorem dropWhile_eq_self {chars : List Char}
    (hhead : ∀ char ∈ chars.head?, isSpace char = false) :
    chars.dropWhile isSpace = chars := by
  cases chars with
  | nil => rfl
  | cons first rest => exact List.dropWhile_cons_of_neg (by simp [hhead first rfl])

theorem head?_dropWhile (chars : List Char) :
    ∀ char ∈ (chars.dropWhile isSpace).head?, isSpace char = false := by
  intro char hchar
  have hnot := List.head?_dropWhile_not isSpace chars
  rw [Option.mem_def.mp hchar] at hnot
  exact hnot

theorem toList_strip (chars : List Char) :
    (strip (String.ofList chars)).toList = (chars.dropWhile isSpace).rdropWhile isSpace := by
  rw [strip, String.toList_ofList, String.toList_ofList, List.rdropWhile]

/-- Blanks are dropped behind the last character that is none. -/
theorem rdropWhile_append {front back : List Char}
    (hlast : ∀ char ∈ front.getLast?, isSpace char = false) :
    (front ++ back).rdropWhile isSpace = front ++ back.rdropWhile isSpace := by
  have hfront : front.reverse.dropWhile isSpace = front.reverse :=
    dropWhile_eq_self (by simpa using hlast)
  rw [List.rdropWhile, List.rdropWhile, List.reverse_append, List.dropWhile_append]
  split
  · rename_i hempty
    rw [hfront, List.isEmpty_iff.mp hempty, List.reverse_nil, List.append_nil,
      List.reverse_reverse]
  · rw [List.reverse_append, List.reverse_reverse]

/-- A text is what is left of it without the blanks behind, and these blanks. -/
theorem exists_append_rdropWhile (chars : List Char) :
    ∃ blanks, chars = chars.rdropWhile isSpace ++ blanks ∧
      ∀ char ∈ blanks, isSpace char = true := by
  refine ⟨(chars.reverse.takeWhile isSpace).reverse, ?_, fun char hchar => ?_⟩
  · rw [List.rdropWhile, ← List.reverse_append, List.takeWhile_append_dropWhile,
      List.reverse_reverse]
  · exact List.mem_takeWhile_imp (List.mem_reverse.mp hchar)

theorem strip_of_stripped {chars : List Char} (hstripped : Stripped chars) :
    (strip (String.ofList chars)).toList = chars := by
  have hreverse : chars.reverse.dropWhile isSpace = chars.reverse :=
    dropWhile_eq_self (by simpa using hstripped.2)
  unfold strip
  rw [String.toList_ofList, String.toList_ofList, dropWhile_eq_self hstripped.1, hreverse,
    List.reverse_reverse]

theorem getLast?_rdropWhile (chars : List Char) :
    ∀ char ∈ (chars.rdropWhile isSpace).getLast?, isSpace char = false := by
  rw [List.rdropWhile, List.getLast?_reverse]
  exact head?_dropWhile _

theorem strip_append_of_blanks {back : List Char} (hback : ∀ char ∈ back, isSpace char = true)
    (chars : List Char) :
    strip (String.ofList (chars ++ back)) = strip (String.ofList chars) := by
  refine String.toList_inj.mp ?_
  rw [toList_strip, toList_strip, List.dropWhile_append]
  split
  · rename_i hempty
    rw [List.isEmpty_iff.mp hempty, List.dropWhile_eq_nil_iff.mpr hback]
  · rw [List.rdropWhile, List.reverse_append, List.dropWhile_append_of_pos fun char hchar =>
      hback char (List.mem_reverse.mp hchar)]
    rfl

/-- Blanks behind make no difference to what is stripped. -/
theorem strip_rdropWhile (chars : List Char) :
    strip (String.ofList (chars.rdropWhile isSpace)) = strip (String.ofList chars) := by
  obtain ⟨back, hchars, hback⟩ := exists_append_rdropWhile chars
  calc strip (String.ofList (chars.rdropWhile isSpace))
      = strip (String.ofList (chars.rdropWhile isSpace ++ back)) :=
        (strip_append_of_blanks hback _).symm
    _ = strip (String.ofList chars) := by rw [← hchars]

theorem strip_space_cons (chars : List Char) :
    strip (String.ofList (' ' :: chars)) = strip (String.ofList chars) := by
  unfold strip
  rw [String.toList_ofList, String.toList_ofList, List.dropWhile_cons_of_pos (by decide)]

theorem stripped_strip (text : String) : Stripped (strip text).toList := by
  unfold strip
  rw [String.toList_ofList]
  constructor
  · intro char hchar
    have hpre : ((text.toList.dropWhile isSpace).reverse.dropWhile isSpace).reverse <+:
        text.toList.dropWhile isSpace := by
      rw [← List.reverse_suffix, List.reverse_reverse]
      exact List.dropWhile_suffix isSpace
    obtain ⟨rest, hrest⟩ := hpre
    refine head?_dropWhile text.toList char ?_
    rw [← hrest, List.head?_append, Option.mem_def.mp hchar]
    rfl
  · rw [List.getLast?_reverse]
    exact head?_dropWhile _

theorem strip_strip (text : String) : strip (strip text) = strip text := by
  have hsame := strip_of_stripped (stripped_strip text)
  rw [String.ofList_toList] at hsame
  exact String.toList_inj.mp hsame

theorem strip_of_forall {text : String}
    (hspace : ∀ char ∈ text.toList, isSpace char = false) : strip text = text := by
  have hstripped : Stripped text.toList :=
    ⟨fun char hchar => hspace char (List.mem_of_mem_head? hchar),
      fun char hchar => hspace char (List.mem_of_mem_getLast? hchar)⟩
  have hsame := strip_of_stripped hstripped
  rw [String.ofList_toList] at hsame
  exact String.toList_inj.mp hsame

end XianyuAdmin.Python
