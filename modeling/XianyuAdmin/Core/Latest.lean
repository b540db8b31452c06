import Mathlib

/-!
# The latest row of a history

A summary of a history usually shows its latest row of some kind.  It can be kept
up to date row by row, in whatever order the rows arrive, or recomputed by a pass
over the history in the order of its keys.  Both give a latest row, and there is
only one when no two rows share a key.
-/

namespace XianyuAdmin

variable {Row Key : Type*} [LinearOrder Key] {key : Row → Key} {p q : Row → Bool}
  {rows : List Row} {latest : Option Row} {row : Row}

/-- No row meets `p`, or `latest` is one of the greatest key among those that do. -/
def IsLatest (key : Row → Key) (p : Row → Bool) (rows : List Row) : Option Row → Prop
  | none => ∀ row ∈ rows, p row = false
  | some latest =>
      latest ∈ rows ∧ p latest = true ∧ ∀ row ∈ rows, p row = true → key row ≤ key latest

namespace IsLatest

theorem nil : IsLatest key p [] none := by
  intro row hrow
  cases hrow

/-- Only the rows count, not their order. -/
theorem of_perm {other : List Row} (hperm : other.Perm rows)
    (hlatest : IsLatest key p rows latest) : IsLatest key p other latest := by
  cases latest with
  | none => exact fun row hrow => hlatest row (hperm.mem_iff.mp hrow)
  | some last =>
      obtain ⟨hstored, hmeets, hgreatest⟩ := hlatest
      exact ⟨hperm.mem_iff.mpr hstored, hmeets, fun row hrow =>
        hgreatest row (hperm.mem_iff.mp hrow)⟩

theorem congr (hagree : ∀ row ∈ rows, p row = q row)
    (hlatest : IsLatest key p rows latest) : IsLatest key q rows latest := by
  cases latest with
  | none => exact fun row hrow => (hagree row hrow).symm.trans (hlatest row hrow)
  | some last =>
      obtain ⟨hstored, hmeets, hgreatest⟩ := hlatest
      exact ⟨hstored, (hagree last hstored).symm.trans hmeets, fun row hrow hrowMeets =>
        hgreatest row hrow ((hagree row hrow).trans hrowMeets)⟩

theorem of_filter (hlatest : IsLatest key p (rows.filter q) latest) :
    IsLatest key (fun row => p row && q row) rows latest := by
  cases latest with
  | none =>
      intro row hrow
      by_cases hpart : q row = true
      · simp only [hlatest row (List.mem_filter.mpr ⟨hrow, hpart⟩), Bool.false_and]
      · simp only [Bool.eq_false_iff.mpr hpart, Bool.and_false]
  | some last =>
      obtain ⟨hstored, hmeets, hgreatest⟩ := hlatest
      obtain ⟨hrows, hpart⟩ := List.mem_filter.mp hstored
      refine ⟨hrows, by simp only [hmeets, hpart, Bool.and_self],
        fun row hrow hrowMeets => ?_⟩
      obtain ⟨hrowMeets, hrowPart⟩ := Bool.and_eq_true_iff.mp hrowMeets
      exact hgreatest row (List.mem_filter.mpr ⟨hrow, hrowPart⟩) hrowMeets

theorem unique {left right : Option Row} (hkeys : Set.InjOn key {row | row ∈ rows})
    (hleft : IsLatest key p rows left) (hright : IsLatest key p rows right) :
    left = right := by
  cases left with
  | none =>
      cases right with
      | none => rfl
      | some last =>
          have hnot := hleft last hright.1
          rw [hright.2.1] at hnot
          cases hnot
  | some first =>
      cases right with
      | none =>
          have hnot := hright first hleft.1
          rw [hleft.2.1] at hnot
          cases hnot
      | some second =>
          have hsame : key first = key second :=
            le_antisymm (hright.2.2 first hleft.1 hleft.2.1)
              (hleft.2.2 second hright.1 hright.2.1)
          rw [hkeys hleft.1 hright.1 hsame]

theorem append_other (hrow : p row = false) (hlatest : IsLatest key p rows latest) :
    IsLatest key p (rows ++ [row]) latest := by
  cases latest with
  | none =>
      intro stored hstored
      rcases List.mem_append.mp hstored with hold | hnew
      · exact hlatest stored hold
      · rw [List.mem_singleton.mp hnew]
        exact hrow
  | some last =>
      refine ⟨List.mem_append_left _ hlatest.1, hlatest.2.1, ?_⟩
      intro stored hstored hmeets
      rcases List.mem_append.mp hstored with hold | hnew
      · exact hlatest.2.2 stored hold hmeets
      · rw [List.mem_singleton.mp hnew, hrow] at hmeets
        cases hmeets

theorem append_newer (hrow : p row = true) (hnewer : ∀ last ∈ latest, key last ≤ key row)
    (hlatest : IsLatest key p rows latest) : IsLatest key p (rows ++ [row]) (some row) := by
  refine ⟨List.mem_append_right _ (List.mem_singleton.mpr rfl), hrow, ?_⟩
  intro stored hstored hmeets
  rcases List.mem_append.mp hstored with hold | hnew
  · cases latest with
    | none =>
        rw [hlatest stored hold] at hmeets
        cases hmeets
    | some last =>
        exact (hlatest.2.2 stored hold hmeets).trans (hnewer last rfl)
  · rw [List.mem_singleton.mp hnew]

theorem append_older {last : Row} (holder : key row ≤ key last)
    (hlatest : IsLatest key p rows (some last)) :
    IsLatest key p (rows ++ [row]) (some last) := by
  refine ⟨List.mem_append_left _ hlatest.1, hlatest.2.1, ?_⟩
  intro stored hstored hmeets
  rcases List.mem_append.mp hstored with hold | hnew
  · exact hlatest.2.2 stored hold hmeets
  · rw [List.mem_singleton.mp hnew]
    exact holder

def lastMeeting (p : Row → Bool) (rows : List Row) : Option Row :=
  rows.foldl (fun latest row => if p row then some row else latest) none

theorem lastMeeting_append (p : Row → Bool) (rows : List Row) (row : Row) :
    lastMeeting p (rows ++ [row]) = if p row then some row else lastMeeting p rows := by
  simp [lastMeeting]

theorem of_sorted (hsorted : rows.Pairwise fun left right => key left ≤ key right) :
    IsLatest key p rows (lastMeeting p rows) := by
  induction rows using List.reverseRecOn with
  | nil => exact nil
  | append_singleton rows row ih =>
      have hbefore : rows.Pairwise fun left right => key left ≤ key right :=
        (List.pairwise_append.mp hsorted).1
      have hlast : ∀ stored ∈ rows, key stored ≤ key row := fun stored hstored =>
        (List.pairwise_append.mp hsorted).2.2 stored hstored row
          (List.mem_singleton.mpr rfl)
      rw [lastMeeting_append]
      by_cases hrow : p row = true
      · rw [if_pos hrow]
        refine append_newer hrow (fun last hmem => ?_) (ih hbefore)
        have hlatest := ih hbefore
        rw [Option.mem_def.mp hmem] at hlatest
        exact hlast last hlatest.1
      · rw [if_neg hrow]
        exact append_other (Bool.eq_false_iff.mpr hrow) (ih hbefore)

end IsLatest

end XianyuAdmin
