import Mathlib

/-!
# Procedures that raise and keep what they did

A coroutine of the service is a sequence of awaits.  Each of them either returns
or raises, a handler may catch what was raised, and the effects of the awaits
before are not undone.  Such a coroutine is a program of `ExceptT` over `StateM`:
its state holds the database and the local variables, which an exception leaves
as they are.

`Ends` says what holds of the state when a procedure returns and when it raises.
Its rules compute it along the program.
-/

namespace XianyuAdmin

abbrev Procedure (State Failure : Type) := ExceptT Failure (StateM State)

namespace Procedure

variable {State Failure Value Other : Type}

/-- How `procedure` ends from `state`, and the state it leaves. -/
def outcome (procedure : Procedure State Failure Value) (state : State) :
    Except Failure Value × State :=
  (ExceptT.run procedure).run state

/-- The state `procedure` leaves, whether it returns or raises. -/
def after (procedure : Procedure State Failure Value) (state : State) : State :=
  (procedure.outcome state).2

/-- From `state`, the procedure returns a value and a state as in `returns`, or
raises a failure and leaves a state as in `raises`. -/
def Ends (procedure : Procedure State Failure Value) (state : State)
    (returns : Value → State → Prop) (raises : Failure → State → Prop) : Prop :=
  match procedure.outcome state with
  | (.ok value, next) => returns value next
  | (.error failure, next) => raises failure next

/-- A call of code outside the service: the answer is given from outside. -/
def answer (result : Except Failure Value) : Procedure State Failure Value :=
  match result with
  | .ok value => pure value
  | .error failure => throw failure

section Rules

variable {procedure : Procedure State Failure Value} {state : State}
  {returns : Value → State → Prop} {raises : Failure → State → Prop}

@[simp]
theorem ends_pure {value : Value} :
    Ends (pure value) state returns raises ↔ returns value state := Iff.rfl

@[simp]
theorem ends_throw {failure : Failure} :
    Ends (throw failure : Procedure State Failure Value) state returns raises ↔
      raises failure state := Iff.rfl

theorem outcome_bind (first : Procedure State Failure Other)
    (next : Other → Procedure State Failure Value) (state : State) :
    (first >>= next).outcome state =
      match first.outcome state with
      | (.ok value, after) => (next value).outcome after
      | (.error failure, after) => (.error failure, after) := by
  unfold outcome
  rw [ExceptT.run_bind, StateT.run_bind]
  rcases StateT.run (ExceptT.run first) state with ⟨result | result, after⟩ <;> rfl

theorem outcome_tryCatch (procedure : Procedure State Failure Value)
    (handler : Failure → Procedure State Failure Value) (state : State) :
    (tryCatch procedure handler).outcome state =
      match procedure.outcome state with
      | (.ok value, after) => (.ok value, after)
      | (.error failure, after) => (handler failure).outcome after := by
  unfold outcome
  rw [ExceptT.run_tryCatch, StateT.run_bind]
  rcases StateT.run (ExceptT.run procedure) state with ⟨result | result, after⟩ <;>
    rfl

@[simp]
theorem ends_bind {first : Procedure State Failure Other}
    {next : Other → Procedure State Failure Value} :
    Ends (first >>= next) state returns raises ↔
      Ends first state (fun value after => Ends (next value) after returns raises)
        raises := by
  rw [Ends, outcome_bind, Ends]
  rcases first.outcome state with ⟨result | result, after⟩ <;> rfl

@[simp]
theorem ends_tryCatch {handler : Failure → Procedure State Failure Value} :
    Ends (tryCatch procedure handler) state returns raises ↔
      Ends procedure state returns
        (fun failure after => Ends (handler failure) after returns raises) := by
  rw [Ends, outcome_tryCatch, Ends]
  rcases procedure.outcome state with ⟨result | result, after⟩ <;> rfl

@[simp]
theorem ends_get {returns : State → State → Prop} :
    Ends (get : Procedure State Failure State) state returns raises ↔
      returns state state := Iff.rfl

@[simp]
theorem ends_set {next : State} {returns : PUnit → State → Prop} :
    Ends (set next : Procedure State Failure PUnit) state returns raises ↔
      returns () next := Iff.rfl

@[simp]
theorem ends_modify {update : State → State} {returns : Unit → State → Prop} :
    Ends (modify update : Procedure State Failure Unit) state returns raises ↔
      returns () (update state) := Iff.rfl

@[simp]
theorem ends_answer {result : Except Failure Value} :
    Ends (answer result) state returns raises ↔
      match result with
      | .ok value => returns value state
      | .error failure => raises failure state := by
  cases result <;> rfl

theorem Ends.of_forall (hreturns : ∀ value next, returns value next)
    (hraises : ∀ failure next, raises failure next) : Ends procedure state returns raises := by
  unfold Ends
  split
  · exact hreturns _ _
  · exact hraises _ _

/-- A procedure whose ends are all good for a caller that asks less. -/
theorem Ends.mono {returns' : Value → State → Prop} {raises' : Failure → State → Prop}
    (hends : Ends procedure state returns raises)
    (hreturns : ∀ value next, returns value next → returns' value next)
    (hraises : ∀ failure next, raises failure next → raises' failure next) :
    Ends procedure state returns' raises' := by
  unfold Ends at hends ⊢
  split
  · rename_i hend
    rw [hend] at hends
    exact hreturns _ _ hends
  · rename_i hend
    rw [hend] at hends
    exact hraises _ _ hends

/-- What is known of the ends in two ways is known of them together. -/
theorem Ends.and {returns' : Value → State → Prop} {raises' : Failure → State → Prop}
    (hends : Ends procedure state returns raises) (hends' : Ends procedure state returns' raises') :
    Ends procedure state (fun value next => returns value next ∧ returns' value next)
      (fun failure next => raises failure next ∧ raises' failure next) := by
  unfold Ends at hends hends' ⊢
  split
  · rename_i hend
    rw [hend] at hends hends'
    exact ⟨hends, hends'⟩
  · rename_i hend
    rw [hend] at hends hends'
    exact ⟨hends, hends'⟩

theorem Ends.congr {returns₁ returns₂ : Value → State → Prop}
    {raises₁ raises₂ : Failure → State → Prop} (hends : Ends procedure state returns raises)
    (hreturns : ∀ value next, returns value next → (returns₁ value next ↔ returns₂ value next))
    (hraises : ∀ failure next, raises failure next →
      (raises₁ failure next ↔ raises₂ failure next)) :
    Ends procedure state returns₁ raises₁ ↔ Ends procedure state returns₂ raises₂ := by
  unfold Ends at hends ⊢
  split
  · rename_i hend
    rw [hend] at hends
    exact hreturns _ _ hends
  · rename_i hend
    rw [hend] at hends
    exact hraises _ _ hends

theorem Ends.iff {meaning : Prop}
    (hends : Ends procedure state (fun value next => returns value next ↔ meaning)
      (fun failure next => raises failure next ↔ meaning)) :
    Ends procedure state returns raises ↔ meaning := by
  unfold Ends at hends ⊢
  split
  · rename_i hend
    rw [hend] at hends
    exact hends
  · rename_i hend
    rw [hend] at hends
    exact hends

/-- Some end is reached. -/
theorem Ends.elim {meaning : Prop} (hends : Ends procedure state returns raises)
    (hreturns : ∀ value next, returns value next → meaning)
    (hraises : ∀ failure next, raises failure next → meaning) : meaning := by
  unfold Ends at hends
  split at hends
  · exact hreturns _ _ hends
  · exact hraises _ _ hends

theorem Ends.of_not_returns (hends : Ends procedure state returns raises)
    (hnot : ¬ Ends procedure state (fun _ _ => True) (fun _ _ => False)) :
    Ends procedure state (fun _ _ => False) raises := by
  unfold Ends at hends hnot ⊢
  split
  · rename_i hend
    rw [hend] at hnot
    exact hnot trivial
  · rename_i hend
    rw [hend] at hends
    exact hends

theorem ends_after {property : State → Prop} :
    Ends procedure state (fun _ => property) (fun _ => property) ↔
      property (procedure.after state) := by
  unfold Ends after
  rcases procedure.outcome state with ⟨result | result, next⟩ <;> rfl

end Rules

def Keeps (property : State → Prop) (procedure : Procedure State Failure Value) : Prop :=
  ∀ state, property state → Ends procedure state (fun _ => property) (fun _ => property)

section Keeps

variable {property : State → Prop}

theorem keeps_pure (value : Value) :
    Keeps property (pure value : Procedure State Failure Value) :=
  fun _ hstate => hstate

theorem keeps_throw (failure : Failure) :
    Keeps property (throw failure : Procedure State Failure Value) :=
  fun _ hstate => hstate

theorem keeps_answer (result : Except Failure Value) :
    Keeps property (answer result) := by
  intro state hstate
  rw [ends_answer]
  cases result with
  | ok value => exact hstate
  | error failure => exact hstate

theorem Keeps.bind {first : Procedure State Failure Other}
    {next : Other → Procedure State Failure Value} (hfirst : Keeps property first)
    (hnext : ∀ value, Keeps property (next value)) : Keeps property (first >>= next) := by
  intro state hstate
  rw [ends_bind]
  exact (hfirst state hstate).mono (fun value after hafter => hnext value after hafter)
    fun _ _ hafter => hafter

theorem Keeps.tryCatch {procedure : Procedure State Failure Value}
    {handler : Failure → Procedure State Failure Value} (hprocedure : Keeps property procedure)
    (hhandler : ∀ failure, Keeps property (handler failure)) :
    Keeps property (MonadExcept.tryCatch procedure handler) := by
  intro state hstate
  rw [ends_tryCatch]
  exact (hprocedure state hstate).mono (fun _ _ hafter => hafter)
    fun failure after hafter => hhandler failure after hafter

end Keeps

end Procedure

end XianyuAdmin
