import Mathlib.Data.List.Basic

/-!
# Updating the first row of a key

A list in which the first row of a key stands for the key: it is updated in its place, or a new
row is put in front.
-/

namespace XianyuAdmin

variable {Row Key Other : Type*} [DecidableEq Key]

/-- The rows after the first one of the key is updated; `none` where the key has no row. -/
def updateFirst? (keyOf : Row → Key) (key : Key) (update : Row → Row) :
    List Row → Option (List Row)
  | [] => none
  | row :: rest =>
      if keyOf row = key then some (update row :: rest)
      else (updateFirst? keyOf key update rest).map (row :: ·)

def upsertFirst (keyOf : Row → Key) (key : Key) (update : Row → Row) (new : Row)
    (rows : List Row) : List Row :=
  (updateFirst? keyOf key update rows).getD (update new :: rows)

section Rows

variable {keyOf : Row → Key} {key other : Key} {update : Row → Row} {new : Row}

theorem updateFirst?_eq_none {rows : List Row} :
    updateFirst? keyOf key update rows = none ↔ ∀ row ∈ rows, keyOf row ≠ key := by
  induction rows with
  | nil => simp [updateFirst?]
  | cons row rest ih =>
      by_cases hkey : keyOf row = key
      · simp [updateFirst?, hkey]
      · simp [updateFirst?, hkey, ih]

theorem updateFirst?_cons_of_ne {row : Row} {rest : List Row} (hkey : keyOf row ≠ key) :
    updateFirst? keyOf key update (row :: rest) =
      (updateFirst? keyOf key update rest).map (row :: ·) := if_neg hkey

theorem updateFirst?_append {front : List Row} (hfront : ∀ row ∈ front, keyOf row ≠ key)
    (rest : List Row) :
    updateFirst? keyOf key update (front ++ rest) =
      (updateFirst? keyOf key update rest).map (front ++ ·) := by
  induction front with
  | nil => simp
  | cons first front ih =>
      obtain ⟨hfirst, hlater⟩ := List.forall_mem_cons.mp hfront
      rw [List.cons_append, updateFirst?_cons_of_ne hfirst, ih hlater, Option.map_map]
      rfl

theorem upsertFirst_cases (keyOf : Row → Key) (key : Key) (update : Row → Row) (new : Row)
    (rows : List Row) :
    ((∀ row ∈ rows, keyOf row ≠ key) ∧
        upsertFirst keyOf key update new rows = update new :: rows) ∨
      ∃ front row back, rows = front ++ row :: back ∧ (∀ earlier ∈ front, keyOf earlier ≠ key) ∧
        keyOf row = key ∧
        upsertFirst keyOf key update new rows = front ++ update row :: back := by
  cases hfound : rows.find? fun row => keyOf row = key with
  | none =>
      have hnone : ∀ row ∈ rows, keyOf row ≠ key := by simpa using hfound
      exact .inl ⟨hnone, by rw [upsertFirst, updateFirst?_eq_none.mpr hnone, Option.getD_none]⟩
  | some row =>
      obtain ⟨hrow, front, back, rfl, hfront⟩ := List.find?_eq_some_iff_append.mp hfound
      have hkey : keyOf row = key := by simpa using hrow
      have hother : ∀ earlier ∈ front, keyOf earlier ≠ key := by simpa using hfront
      refine .inr ⟨front, row, back, rfl, hother, hkey, ?_⟩
      rw [upsertFirst, updateFirst?_append hother, updateFirst?, if_pos hkey, Option.map_some,
        Option.getD_some]

theorem find?_append_of_ne {front : List Row} (hfront : ∀ row ∈ front, keyOf row ≠ key)
    (rest : List Row) :
    (front ++ rest).find? (fun row => keyOf row = key) =
      rest.find? fun row => keyOf row = key := by
  have hnone : front.find? (fun row => keyOf row = key) = none := by simpa using hfront
  rw [List.find?_append, hnone, Option.none_or]

theorem find?_upsertFirst_self (hupdate : ∀ row, keyOf row = key → keyOf (update row) = key)
    (hnew : keyOf new = key) (rows : List Row) :
    (upsertFirst keyOf key update new rows).find? (fun row => keyOf row = key) =
      some (update ((rows.find? fun row => keyOf row = key).getD new)) := by
  obtain ⟨hnone, hrows⟩ | ⟨front, row, back, rfl, hfront, hkey, hrows⟩ :=
    upsertFirst_cases keyOf key update new rows
  · have hfound : rows.find? (fun row => keyOf row = key) = none := by simpa using hnone
    rw [hrows, hfound, Option.getD_none,
      List.find?_cons_of_pos (by simpa using hupdate new hnew)]
  · rw [hrows, find?_append_of_ne hfront, find?_append_of_ne hfront,
      List.find?_cons_of_pos (by simpa using hupdate row hkey),
      List.find?_cons_of_pos (by simpa using hkey), Option.getD_some]

theorem find?_upsertFirst_of_ne (hupdate : ∀ row, keyOf row = key → keyOf (update row) = key)
    (hnew : keyOf new = key) (hother : other ≠ key) (rows : List Row) :
    (upsertFirst keyOf key update new rows).find? (fun row => keyOf row = other) =
      rows.find? fun row => keyOf row = other := by
  have hne : ∀ row, keyOf row = key → ¬keyOf (update row) = other := fun row hkey hsame =>
    hother (hsame.symm.trans (hupdate row hkey))
  obtain ⟨-, hrows⟩ | ⟨front, row, back, rfl, -, hkey, hrows⟩ :=
    upsertFirst_cases keyOf key update new rows
  · rw [hrows, List.find?_cons_of_neg (by simpa using hne new hnew)]
  · rw [hrows, List.find?_append, List.find?_append,
      List.find?_cons_of_neg (by simpa using hne row hkey),
      List.find?_cons_of_neg (by simpa using fun hsame => hother (hsame.symm.trans hkey))]

theorem upsertFirst_eq_self {rows : List Row} {row : Row}
    (hfound : rows.find? (fun row => keyOf row = key) = some row) (hfixed : update row = row) :
    upsertFirst keyOf key update new rows = rows := by
  obtain ⟨hnone, -⟩ | ⟨front, first, back, rfl, hfront, hkey, hrows⟩ :=
    upsertFirst_cases keyOf key update new rows
  · exact absurd (by simpa using List.find?_some hfound)
      (hnone row (List.mem_of_find?_eq_some hfound))
  · rw [find?_append_of_ne hfront, List.find?_cons_of_pos (by simpa using hkey),
      Option.some.injEq] at hfound
    rw [hrows, hfound, hfixed]

theorem upsertFirst_map (keyOf : Row → Key) (keyOf' : Other → Key) {update' : Other → Other}
    (carry : Row → Other)
    (hkey : ∀ row, keyOf' (carry row) = keyOf row)
    (hcarry : ∀ row, keyOf row = key → update' (carry row) = carry (update row))
    (hnew : keyOf new = key) (rows : List Row) :
    upsertFirst keyOf' key update' (carry new) (rows.map carry) =
      (upsertFirst keyOf key update new rows).map carry := by
  have hrows : updateFirst? keyOf' key update' (rows.map carry) =
      (updateFirst? keyOf key update rows).map (List.map carry) := by
    induction rows with
    | nil => rfl
    | cons row rest ih =>
        by_cases hrow : keyOf row = key
        · simp [updateFirst?, hkey, hrow, hcarry row hrow]
        · rw [List.map_cons, updateFirst?_cons_of_ne (by rw [hkey]; exact hrow), ih,
            updateFirst?_cons_of_ne hrow, Option.map_map, Option.map_map]
          rfl
  rw [upsertFirst, hrows, upsertFirst]
  cases updateFirst? keyOf key update rows with
  | none => simp [hcarry new hnew]
  | some updated => rfl

variable (holds : Row → Bool)

theorem countP_le_upsertFirst (hholds : ∀ row, holds (update row) = true) (rows : List Row) :
    rows.countP holds ≤ (upsertFirst keyOf key update new rows).countP holds := by
  obtain ⟨-, hrows⟩ | ⟨front, row, back, rfl, -, -, hrows⟩ :=
    upsertFirst_cases keyOf key update new rows
  · rw [hrows, List.countP_cons]
    omega
  · rw [hrows, List.countP_append, List.countP_append, List.countP_cons, List.countP_cons,
      if_pos (hholds row)]
    split <;> omega

theorem countP_lt_upsertFirst (hholds : ∀ row, holds (update row) = true) {rows : List Row}
    (hbefore : ∀ row ∈ rows, keyOf row = key → holds row = false) :
    rows.countP holds < (upsertFirst keyOf key update new rows).countP holds := by
  obtain ⟨-, hrows⟩ | ⟨front, row, back, rfl, -, hkey, hrows⟩ :=
    upsertFirst_cases keyOf key update new rows
  · rw [hrows, List.countP_cons, if_pos (hholds new)]
    omega
  · have hrow : holds row = false :=
      hbefore row (List.mem_append_right _ List.mem_cons_self) hkey
    rw [hrows, List.countP_append, List.countP_append, List.countP_cons, List.countP_cons,
      if_pos (hholds row), if_neg (by simp [hrow])]
    omega

end Rows

end XianyuAdmin
