import Mathlib.Data.List.Basic

/-!
# Pages after a row

A list that is served page by page: a page tells whether there is more, and names its last row
in a cursor, after which the next page goes on.
-/

namespace XianyuAdmin

variable {Row Cursor : Type*}

structure Page (Row Cursor : Type*) where
  items : List Row
  hasMore : Bool
  nextCursor : Option Cursor

def cutPage (encode : Row → Cursor) (size : ℕ) (rows : List Row) : Page Row Cursor :=
  let served := rows.take (size + 1)
  let hasMore : Bool := size < served.length
  let visible := served.take size
  { items := visible
    hasMore := hasMore
    nextCursor := if hasMore then visible.getLast?.map encode else none }

/-- The items of all pages, if the last one is reached within a number of requests. -/
def follow (serve : Option Cursor → Option (Page Row Cursor)) :
    ℕ → Option Cursor → Option (List Row)
  | 0, _ => none
  | requests + 1, cursor =>
      (serve cursor).bind fun page =>
        if page.hasMore then
          (follow serve requests page.nextCursor).map fun later => page.items ++ later
        else some page.items

section Cut

variable {encode : Row → Cursor} {size : ℕ} {rows : List Row}

theorem items_cutPage : (cutPage encode size rows).items = rows.take size := by
  simp only [cutPage, List.take_take, Nat.min_eq_left (Nat.le_succ size)]

theorem hasMore_cutPage : (cutPage encode size rows).hasMore = decide (size < rows.length) := by
  simp only [cutPage, List.length_take, decide_eq_decide]
  omega

theorem exists_nextCursor_cutPage (hsize : 0 < size) (hmore : size < rows.length) :
    ∃ front row, rows = front ++ row :: rows.drop size ∧
      (cutPage encode size rows).nextCursor = some (encode row) := by
  have hne : rows.take size ≠ [] := by
    rw [Ne, List.take_eq_nil_iff, not_or]
    exact ⟨Nat.pos_iff_ne_zero.mp hsize, List.ne_nil_of_length_pos (by omega)⟩
  have hnext : (cutPage encode size rows).nextCursor =
      some (encode ((rows.take size).getLast hne)) := by
    have hserved : (rows.take (size + 1)).take size = rows.take size := by
      rw [List.take_take, Nat.min_eq_left (Nat.le_succ size)]
    have hlonger : size < (rows.take (size + 1)).length := by
      rw [List.length_take]
      omega
    simp only [cutPage, hserved, decide_eq_true hlonger, if_true]
    rw [List.getLast?_eq_some_getLast hne, Option.map_some]
  refine ⟨(rows.take size).dropLast, (rows.take size).getLast hne, ?_, hnext⟩
  calc rows = rows.take size ++ rows.drop size := (List.take_append_drop size rows).symm
    _ = ((rows.take size).dropLast ++ [(rows.take size).getLast hne]) ++ rows.drop size := by
        rw [List.dropLast_append_getLast hne]
    _ = _ := by rw [List.append_assoc, List.singleton_append]

end Cut

section Follow

variable {encode : Row → Cursor} {size : ℕ}
  {serve : Option Cursor → Option (Page Row Cursor)} {rows : List Row}

theorem follow_cutPage (hsize : 0 < size)
    (hserve : ∀ front row back, rows = front ++ row :: back →
      serve (some (encode row)) = some (cutPage encode size back))
    {front rest : List Row} (hrows : rows = front ++ rest) {cursor : Option Cursor}
    (hcursor : serve cursor = some (cutPage encode size rest)) {requests : ℕ}
    (hrequests : rest.length < requests) : follow serve requests cursor = some rest := by
  induction requests generalizing front rest cursor with
  | zero => exact absurd hrequests (Nat.not_lt_zero _)
  | succ requests ih =>
      rw [follow, hcursor, Option.bind_some, hasMore_cutPage, items_cutPage]
      by_cases hmore : size < rest.length
      · obtain ⟨before, row, hrest, hnext⟩ :
            ∃ before row, rest = before ++ row :: rest.drop size ∧
              (cutPage encode size rest).nextCursor = some (encode row) :=
          exists_nextCursor_cutPage hsize hmore
        have hsplit : rows = (front ++ before) ++ row :: rest.drop size := by
          rw [hrows, List.append_assoc, ← hrest]
        have hlater : rows = ((front ++ before) ++ [row]) ++ rest.drop size := by
          rw [hsplit, List.append_assoc _ [row], List.singleton_append]
        have hshorter : (rest.drop size).length < requests := by
          rw [List.length_drop]
          omega
        rw [if_pos (decide_eq_true hmore), hnext,
          ih hlater (hserve _ row _ hsplit) hshorter, Option.map_some, List.take_append_drop]
      · rw [if_neg (by simpa using hmore), List.take_of_length_le (by omega)]

end Follow

/-- In a strict order, the rows that come after a row are those behind it. -/
theorem filter_after_eq {comesBefore : Row → Row → Prop} [DecidableRel comesBefore]
    (hasymm : ∀ first second, comesBefore first second → ¬comesBefore second first)
    {front back : List Row} {row : Row}
    (hsorted : (front ++ row :: back).Pairwise comesBefore) :
    (front ++ row :: back).filter (fun other => comesBefore row other) = back := by
  obtain ⟨-, htail, hacross⟩ := List.pairwise_append.mp hsorted
  have hback := List.pairwise_cons.mp htail
  have hfront : front.filter (fun other => decide (comesBefore row other)) = [] := by
    rw [List.filter_eq_nil_iff]
    intro other hmem
    have hbefore := hacross other hmem row List.mem_cons_self
    simpa using hasymm other row hbefore
  have hself : ¬comesBefore row row := fun hsame => hasymm row row hsame hsame
  rw [List.filter_append, hfront, List.nil_append, List.filter_cons_of_neg (by simpa using hself)]
  rw [List.filter_eq_self]
  exact fun other hmem => by simpa using hback.1 other hmem

end XianyuAdmin
