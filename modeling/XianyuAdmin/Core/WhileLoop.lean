import Mathlib.Data.Set.Finite.Basic
import Mathlib.Data.Finset.Card

/-!
# Loops that are left from within

A `while True` loop goes on from state to state until one of its turns leaves it.  Whether it
is left at all depends on the states it comes by, which are numbered by the turns before them.
-/

namespace XianyuAdmin

namespace WhileLoop

/-- How a turn of a loop ends. -/
inductive Turn (State Result : Type*)
  | again (state : State)
  | leave (result : Result)

variable {State Result : Type*}

def run (body : State → Turn State Result) : ℕ → State → Option Result
  | 0, _ => none
  | turns + 1, state =>
      match body state with
      | .again next => run body turns next
      | .leave result => some result

def stateAfter (body : State → Turn State Result) : ℕ → State → Option State
  | 0, state => some state
  | turns + 1, state =>
      match body state with
      | .again next => stateAfter body turns next
      | .leave _ => none

variable {body : State → Turn State Result} {start state next : State} {result : Result}

theorem stateAfter_succ_eq_some_iff {turns : ℕ} :
    stateAfter body (turns + 1) start = some next ↔
      ∃ state, stateAfter body turns start = some state ∧ body state = .again next := by
  induction turns generalizing start with
  | zero =>
      simp only [stateAfter, Option.some.injEq, exists_eq_left']
      cases body start with
      | again other => simp only [Option.some.injEq, Turn.again.injEq]
      | leave result => simp only [reduceCtorEq]
  | succ turns ih =>
      rw [stateAfter, stateAfter]
      cases body start with
      | again other => exact ih
      | leave result => simp only [reduceCtorEq, false_and, exists_false]

theorem exists_run_eq_some_iff :
    (∃ turns, run body turns start = some result) ↔
      ∃ turns state, stateAfter body turns start = some state ∧ body state = .leave result := by
  constructor
  · rintro ⟨turns, hrun⟩
    induction turns generalizing start with
    | zero => simp only [run, reduceCtorEq] at hrun
    | succ turns ih =>
        cases hbody : body start with
        | again next =>
            simp only [run, hbody] at hrun
            obtain ⟨later, state, hstate, hleave⟩ := ih hrun
            exact ⟨later + 1, state, by simpa only [stateAfter, hbody] using hstate, hleave⟩
        | leave left =>
            simp only [run, hbody, Option.some.injEq] at hrun
            exact ⟨0, start, rfl, hrun ▸ hbody⟩
  · rintro ⟨turns, state, hstate, hleave⟩
    induction turns generalizing start with
    | zero =>
        obtain rfl : start = state := Option.some.inj hstate
        exact ⟨1, by simp only [run, hleave]⟩
    | succ turns ih =>
        cases hbody : body start with
        | again next =>
            simp only [stateAfter, hbody] at hstate
            obtain ⟨later, hrun⟩ := ih hstate
            exact ⟨later + 1, by simpa only [run, hbody] using hrun⟩
        | leave left => simp only [stateAfter, hbody, reduceCtorEq] at hstate

/-- A loop is left when at some point there is no state it has come to. -/
theorem exists_run_isSome_iff :
    (∃ turns result, run body turns start = some result) ↔
      ∃ turns, stateAfter body turns start = none := by
  constructor
  · rintro ⟨turns, result, hrun⟩
    obtain ⟨turns, state, hstate, hleave⟩ := exists_run_eq_some_iff.mp ⟨turns, hrun⟩
    refine ⟨turns + 1, Option.eq_none_iff_forall_ne_some.mpr fun next hnext => ?_⟩
    obtain ⟨other, hother, hagain⟩ := stateAfter_succ_eq_some_iff.mp hnext
    obtain rfl : other = state := Option.some.inj (hother.symm.trans hstate)
    cases hagain.symm.trans hleave
  · rintro ⟨turns, hnone⟩
    induction turns with
    | zero => simp only [stateAfter, reduceCtorEq] at hnone
    | succ turns ih =>
        cases hstate : stateAfter body turns start with
        | none => exact ih hstate
        | some state =>
            cases hbody : body state with
            | again next =>
                have hnext := stateAfter_succ_eq_some_iff.mpr ⟨state, hstate, hbody⟩
                cases hnone.symm.trans hnext
            | leave result =>
                obtain ⟨left, hrun⟩ := exists_run_eq_some_iff.mpr ⟨turns, state, hstate, hbody⟩
                exact ⟨left, result, hrun⟩

theorem exists_run_of_again (hagain : body state = .again next) :
    (∃ turns, run body turns state = some result) ↔ ∃ turns, run body turns next = some result := by
  constructor
  · rintro ⟨_ | turns, hrun⟩
    · cases hrun
    · exact ⟨turns, by simpa only [run, hagain] using hrun⟩
  · rintro ⟨turns, hrun⟩
    exact ⟨turns + 1, by simpa only [run, hagain] using hrun⟩

theorem exists_run_of_leave {left : Result} (hleave : body state = .leave left) :
    (∃ turns, run body turns state = some result) ↔ result = left := by
  constructor
  · rintro ⟨_ | turns, hrun⟩
    · cases hrun
    · simp only [run, hleave, Option.some.injEq] at hrun
      exact hrun.symm
  · rintro rfl
    exact ⟨1, by simp only [run, hleave]⟩

theorem forall_stateAfter_of_again {holds : State → Prop} (hagain : body state = .again next) :
    (∀ turns other, stateAfter body turns state = some other → holds other) ↔
      holds state ∧ ∀ turns other, stateAfter body turns next = some other → holds other := by
  constructor
  · refine fun hall => ⟨hall 0 state rfl, fun turns other hother => ?_⟩
    exact hall (turns + 1) other (by simpa only [stateAfter, hagain] using hother)
  · rintro ⟨hstate, hnext⟩ (_ | turns) other hother
    · exact Option.some.inj hother ▸ hstate
    · simp only [stateAfter, hagain] at hother
      exact hnext turns other hother

theorem forall_stateAfter_of_leave {holds : State → Prop} {left : Result}
    (hleave : body state = .leave left) :
    (∀ turns other, stateAfter body turns state = some other → holds other) ↔ holds state := by
  refine ⟨fun hall => hall 0 state rfl, ?_⟩
  rintro hstate (_ | turns) other hother
  · exact Option.some.inj hother ▸ hstate
  · simp only [stateAfter, hleave] at hother
    cases hother

/-- No run of distinct keys that grows with each step can stay within a finite set. -/
theorem exists_none_of_finite {Key : Type*} {reached : ℕ → Option State} {keys : State → List Key}
    {served : Set Key} (hfinite : served.Finite)
    (hnodup : ∀ turns state, reached turns = some state → (keys state).Nodup)
    (hlength : ∀ turns state, reached turns = some state → (keys state).length = turns)
    (hserved : ∀ turns state, reached turns = some state → ∀ key ∈ keys state, key ∈ served) :
    ∃ turns, reached turns = none := by
  classical
  by_contra hnever
  obtain ⟨state, hstate⟩ := Option.ne_none_iff_exists'.mp
    (not_exists.mp hnever (hfinite.toFinset.card + 1))
  have hsubset : (keys state).toFinset ⊆ hfinite.toFinset := fun key hkey =>
    hfinite.mem_toFinset.mpr (hserved _ state hstate key (List.mem_toFinset.mp hkey))
  have hcard := Finset.card_le_card hsubset
  rw [List.toFinset_card_of_nodup (hnodup _ state hstate), hlength _ state hstate] at hcard
  omega

end WhileLoop

end XianyuAdmin
