import Mathlib

/-!
# A copy that follows its original

Whoever changes the original from `left` to `right` leaves a report `(left, right)`, and a
report that finds the copy at `left` sets it to `right`.  Reports may overtake each other.
The copy and the original differ by the changes that are still reported: for each weight of
the values the weights of the reports add up to the difference.
-/

namespace XianyuAdmin

variable {Item Value : Type}

/-- What the report of an item adds to the weight of the copy. -/
def drift (weight : Value → ℤ) : Option (Value × Value) → ℤ
  | none => 0
  | some report => weight report.2 - weight report.1

@[simp]
theorem drift_none (weight : Value → ℤ) : drift weight none = 0 := rfl

@[simp]
theorem drift_some (weight : Value → ℤ) (report : Value × Value) :
    drift weight (some report) = weight report.2 - weight report.1 := rfl

def Balanced (report : Item → Option (Value × Value)) (copy original : Value)
    (items : List Item) : Prop :=
  ∀ weight : Value → ℤ,
    weight copy + (items.map fun item => drift weight (report item)).sum = weight original

theorem sum_map_set {items : List Item} {index : ℕ} {old : Item} (new : Item)
    (hold : items[index]? = some old) (amount : Item → ℤ) :
    ((items.set index new).map amount).sum + amount old = (items.map amount).sum + amount new := by
  induction items generalizing index with
  | nil => simp at hold
  | cons item rest ih =>
      cases index with
      | zero =>
          obtain rfl : item = old := by simpa using hold
          simp only [List.set_cons_zero, List.map_cons, List.sum_cons]
          ring
      | succ index =>
          have hrest := ih (by simpa using hold)
          simp only [List.set_cons_succ, List.map_cons, List.sum_cons]
          linarith

namespace Balanced

variable {report : Item → Option (Value × Value)} {copy original : Value} {items : List Item}
  {index : ℕ} {old new : Item}

theorem sum_eq_zero (hnone : ∀ item ∈ items, report item = none) (weight : Value → ℤ) :
    (items.map fun item => drift weight (report item)).sum = 0 := by
  refine List.sum_eq_zero fun amount hamount => ?_
  obtain ⟨item, hitem, rfl⟩ := List.mem_map.mp hamount
  rw [hnone item hitem, drift_none]

theorem self (value : Value) (hnone : ∀ item ∈ items, report item = none) :
    Balanced report value value items := fun weight => by
  rw [sum_eq_zero hnone, add_zero]

theorem eq [DecidableEq Value] (h : Balanced report copy original items)
    (hnone : ∀ item ∈ items, report item = none) : copy = original := by
  have hweight := h fun value => if value = copy then 1 else 0
  rw [sum_eq_zero hnone, add_zero, if_pos rfl] at hweight
  by_contra hne
  rw [if_neg (Ne.symm hne)] at hweight
  exact one_ne_zero hweight

theorem keep (h : Balanced report copy original items) (hold : items[index]? = some old)
    (hsame : report new = report old) : Balanced report copy original (items.set index new) := by
  intro weight
  have hsum := sum_map_set new hold fun item => drift weight (report item)
  rw [hsame] at hsum
  rw [← h weight]
  linarith

theorem change {value : Value} (h : Balanced report copy original items)
    (hold : items[index]? = some old) (hnone : report old = none)
    (hreport : report new = some (original, value)) :
    Balanced report copy value (items.set index new) := by
  intro weight
  have hsum := sum_map_set new hold fun item => drift weight (report item)
  simp only [hnone, hreport, drift_none, drift_some] at hsum
  have hbefore := h weight
  linarith

theorem accept {value : Value} (h : Balanced report copy original items)
    (hold : items[index]? = some old) (hreport : report old = some (copy, value))
    (hnone : report new = none) : Balanced report value original (items.set index new) := by
  intro weight
  have hsum := sum_map_set new hold fun item => drift weight (report item)
  simp only [hnone, hreport, drift_none, drift_some] at hsum
  have hbefore := h weight
  linarith

theorem append (h : Balanced report copy original items) (hnone : report new = none) :
    Balanced report copy original (items ++ [new]) := by
  intro weight
  rw [← h weight, List.map_append, List.sum_append]
  simp [hnone]

end Balanced

end XianyuAdmin
