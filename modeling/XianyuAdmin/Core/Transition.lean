import Mathlib

/-!
# Runs of a labelled transition system

A service is a state together with the atomic steps its callers, workers and
timers may take in any order.  A run is the list of labels that were taken; a
label carries every choice the environment makes (clock, fresh identifier,
outcome of a remote call), so that a system is usually given by a function.
The rules below carry a property over a whole run from what one step does.
-/

namespace XianyuAdmin.Transition

variable {State Label : Type*}

/-- `Run step start labels final`: taking `labels` one after the other leads
from `start` to `final`. -/
inductive Run (step : State → Label → State → Prop) :
    State → List Label → State → Prop
  | nil (state : State) : Run step state [] state
  | cons {state next final : State} {label : Label} {labels : List Label}
      (hstep : step state label next) (hrest : Run step next labels final) :
      Run step state (label :: labels) final

/-- The steps of a system that are taken in a state meeting `allowed`. -/
def restrict (step : State → Label → State → Prop)
    (allowed : State → Label → Prop) : State → Label → State → Prop :=
  fun state label next => allowed state label ∧ step state label next

def ofFunction (apply : State → Label → State) :
    State → Label → State → Prop :=
  fun state label next => apply state label = next

def ofPartial (apply : State → Label → Option State) :
    State → Label → State → Prop :=
  fun state label next => apply state label = some next

/-- The state after `labels`, when each of them is enabled in turn. -/
def runPartial (apply : State → Label → Option State) (state : State) :
    List Label → Option State
  | [] => some state
  | label :: labels =>
      (apply state label).bind fun next => runPartial apply next labels

variable {step : State → Label → State → Prop}

variable {start final : State} {labels : List Label}

@[simp]
theorem run_nil_iff : Run step start [] final ↔ final = start := by
  constructor
  · intro hrun
    cases hrun
    rfl
  · rintro rfl
    exact Run.nil _

@[simp]
theorem run_cons_iff {label : Label} :
    Run step start (label :: labels) final ↔
      ∃ next, step start label next ∧ Run step next labels final := by
  constructor
  · intro hrun
    cases hrun with
    | cons hstep hrest => exact ⟨_, hstep, hrest⟩
  · rintro ⟨next, hstep, hrest⟩
    exact Run.cons hstep hrest

theorem run_ofPartial_iff {apply : State → Label → Option State} :
    Run (ofPartial apply) start labels final ↔
      runPartial apply start labels = some final := by
  induction labels generalizing start with
  | nil => simp [runPartial, eq_comm]
  | cons label labels ih =>
      simp only [run_cons_iff, runPartial, Option.bind_eq_some_iff, ih, ofPartial]

theorem run_append_iff {left right : List Label} :
    Run step start (left ++ right) final ↔
      ∃ middle, Run step start left middle ∧ Run step middle right final := by
  induction left generalizing start with
  | nil => simp
  | cons label left ih =>
      simp only [List.cons_append, run_cons_iff, ih]
      constructor
      · rintro ⟨next, hstep, middle, hleft, hright⟩
        exact ⟨middle, ⟨next, hstep, hleft⟩, hright⟩
      · rintro ⟨middle, ⟨next, hstep, hleft⟩, hright⟩
        exact ⟨next, hstep, middle, hleft, hright⟩

theorem Run.invariant (hrun : Run step start labels final) (Inv : State → Prop)
    (hpreserve : ∀ state label next, Inv state → step state label next → Inv next)
    (hstart : Inv start) : Inv final := by
  induction hrun with
  | nil => exact hstart
  | cons hstep _ ih => exact ih (hpreserve _ _ _ hstart hstep)

theorem Run.relates (hrun : Run step start labels final) (Rel : State → State → Prop)
    (hrefl : ∀ state, Rel state state)
    (htrans : ∀ first second third, Rel first second → Rel second third → Rel first third)
    (hpreserve : ∀ state label next, step state label next → Rel state next) : Rel start final := by
  induction hrun with
  | nil state => exact hrefl state
  | cons hstep _ ih => exact htrans _ _ _ (hpreserve _ _ _ hstep) ih

/-- Two systems that agree wherever an invariant holds have the same runs from
there. -/
theorem run_congr {left right : State → Label → State → Prop} (Inv : State → Prop)
    (hagree : ∀ state label next, Inv state →
      (left state label next ↔ right state label next))
    (hpreserve : ∀ state label next, Inv state → left state label next → Inv next)
    (hstart : Inv start) :
    Run left start labels final ↔ Run right start labels final := by
  induction labels generalizing start with
  | nil => simp
  | cons label labels ih =>
      simp only [run_cons_iff]
      refine exists_congr fun next => ?_
      constructor
      · rintro ⟨hstep, hrest⟩
        exact ⟨(hagree _ _ _ hstart).mp hstep, (ih (hpreserve _ _ _ hstart hstep)).mp hrest⟩
      · rintro ⟨hstep, hrest⟩
        have hleft := (hagree _ _ _ hstart).mpr hstep
        exact ⟨hleft, (ih (hpreserve _ _ _ hstart hleft)).mpr hrest⟩

theorem Run.forget {allowed : State → Label → Prop}
    (hrun : Run (restrict step allowed) start labels final) :
    Run step start labels final := by
  induction hrun with
  | nil state => exact Run.nil state
  | cons hstep _ ih => exact Run.cons hstep.2 ih

end XianyuAdmin.Transition
