import Mathlib.Data.List.Sort

/-!
# Stable sorting and filtering

Insertion sort keeps rows of equal rank in the order in which they stand, so a
query may filter its rows before it sorts them or afterwards.
-/

namespace XianyuAdmin.StableSort

variable {Row : Type*} (rel : Row → Row → Prop) [DecidableRel rel]

theorem orderedInsert_of_forall_rel {row : Row} {rows : List Row}
    (hrel : ∀ other ∈ rows, rel row other) : rows.orderedInsert rel row = row :: rows := by
  cases rows with
  | nil => rfl
  | cons head tail => exact List.orderedInsert_cons_of_le rel tail (hrel head (by simp))

theorem filter_orderedInsert_of_pos {p : Row → Bool} {row : Row} {rows : List Row}
    [IsTrans Row rel] (hrow : p row = true) (hsorted : rows.Pairwise rel) :
    (rows.orderedInsert rel row).filter p = (rows.filter p).orderedInsert rel row := by
  induction rows with
  | nil => simp [hrow]
  | cons head tail ih =>
      have hhead : ∀ other ∈ tail, rel head other := (List.pairwise_cons.mp hsorted).1
      by_cases hle : rel row head
      · by_cases hkept : p head = true
        · simp [List.orderedInsert_cons, hle, hrow, hkept]
        · -- the row now stands before the first row that is kept
          have hfirst : (tail.filter p).orderedInsert rel row = row :: tail.filter p :=
            orderedInsert_of_forall_rel rel fun other hother =>
              IsTrans.trans _ _ _ hle (hhead other (List.mem_of_mem_filter hother))
          simp [List.orderedInsert_cons, hle, hrow, hkept, hfirst]
      · by_cases hkept : p head = true
        · simp [List.orderedInsert_cons, hle, hkept, ih hsorted.of_cons]
        · simp [List.orderedInsert_cons, hle, hkept, ih hsorted.of_cons]

theorem filter_orderedInsert_of_neg {p : Row → Bool} {row : Row} (rows : List Row)
    (hrow : p row = false) : (rows.orderedInsert rel row).filter p = rows.filter p := by
  induction rows with
  | nil => simp [hrow]
  | cons head tail ih =>
      by_cases hle : rel row head
      · simp [List.orderedInsert_cons, hle, hrow]
      · simp [List.orderedInsert_cons, hle, List.filter_cons, ih]

theorem insertionSort_filter [IsTrans Row rel] [Std.Total rel] (p : Row → Bool)
    (rows : List Row) :
    (rows.filter p).insertionSort rel = (rows.insertionSort rel).filter p := by
  induction rows with
  | nil => rfl
  | cons row rows ih =>
      by_cases hrow : p row = true
      · calc
          ((row :: rows).filter p).insertionSort rel =
              ((rows.filter p).insertionSort rel).orderedInsert rel row := by
                simp [hrow]
          _ = ((rows.insertionSort rel).filter p).orderedInsert rel row := by rw [ih]
          _ = ((rows.insertionSort rel).orderedInsert rel row).filter p :=
                (filter_orderedInsert_of_pos rel hrow
                  (List.pairwise_insertionSort rel rows)).symm
          _ = ((row :: rows).insertionSort rel).filter p := by
                rw [List.insertionSort_cons]
      · have hrow' : p row = false := by simpa using hrow
        rw [List.filter_cons_of_neg hrow, ih, List.insertionSort_cons,
          filter_orderedInsert_of_neg rel _ hrow']

end XianyuAdmin.StableSort
