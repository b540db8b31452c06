import XianyuAdmin.Core.Procedure

/-!
# Procedures that are stopped between operations

A process may end, or a transaction may raise, between any two operations on a
store.  Here a procedure counts the operations it has completed, and a limit
says after how many of them it is stopped, if it is.
-/

namespace XianyuAdmin

/-- A state and the number of operations that were completed on it. -/
structure Counted (State : Type) where
  state : State
  done : ℕ

/-- The operation after `done` others is still carried out. -/
def Within (limit : Option ℕ) (done : ℕ) : Prop :=
  ∀ stop ∈ limit, done < stop

instance (limit : Option ℕ) (done : ℕ) : Decidable (Within limit done) :=
  inferInstanceAs (Decidable (∀ stop ∈ limit, done < stop))

/-- What was carried out later was carried out at all. -/
theorem Within.of_le {limit : Option ℕ} {earlier later : ℕ} (hwithin : Within limit later)
    (hle : earlier ≤ later) : Within limit earlier :=
  fun stop hstop => hle.trans_lt (hwithin stop hstop)

namespace Procedure

variable {State Failure Value : Type}

def operation (limit : Option ℕ) (stopped : Failure)
    (effect : State → Except Failure (Value × State)) :
    Procedure (Counted State) Failure Value := do
  let current ← get
  if Within limit current.done then
    match effect current.state with
    | .ok (value, next) => do
        set (⟨next, current.done + 1⟩ : Counted State)
        pure value
    | .error failure => throw failure
  else throw stopped

theorem ends_operation {limit : Option ℕ} {stopped : Failure}
    {effect : State → Except Failure (Value × State)} {current : Counted State}
    {returns : Value → Counted State → Prop} {raises : Failure → Counted State → Prop} :
    Ends (operation limit stopped effect) current returns raises ↔
      if Within limit current.done then
        match effect current.state with
        | .ok (value, next) => returns value ⟨next, current.done + 1⟩
        | .error failure => raises failure current
      else raises stopped current := by
  simp only [operation, ends_bind, ends_get]
  split
  · split
    · simp only [ends_bind, ends_set, ends_pure]
    · exact ends_throw
  · exact ends_throw

def query (limit : Option ℕ) (stopped : Failure) (read : State → Value) :
    Procedure (Counted State) Failure Value :=
  operation limit stopped fun state => .ok (read state, state)

theorem ends_query {limit : Option ℕ} {stopped : Failure} {read : State → Value}
    {current : Counted State} {returns : Value → Counted State → Prop}
    {raises : Failure → Counted State → Prop} :
    Ends (query limit stopped read) current returns raises ↔
      if Within limit current.done then
        returns (read current.state) ⟨current.state, current.done + 1⟩
      else raises stopped current :=
  ends_operation

end Procedure

end XianyuAdmin
