import XianyuAdmin.Core.Transition

/-!
# Coroutines on a shared state

A coroutine runs until its next `await`, hands an operation over to its
environment and goes on with the answer, or with what the operation raised.
Between the two, others act on the shared state.  What a coroutine does is
therefore stated against what it may rely on: `Secure` says that, as long as
the others keep to `rely`, every operation it performs keeps to `guarantee`, and
that it ends as stated.  `Machine` runs any number of coroutines, each of which
is secure for its own contract, so that an invariant holds over all interleavings.
-/

namespace XianyuAdmin

/-- A program that performs operations of `Op` one at a time. -/
inductive Coroutine (Op : Type) (Answer : Op → Type) (Failure Value : Type) : Type
  | returned (value : Value)
  | raised (failure : Failure)
  | await (op : Op)
      (resume : Except Failure (Answer op) → Coroutine Op Answer Failure Value)

namespace Coroutine

variable {Op : Type} {Answer : Op → Type} {Failure Value Other : Type}

/-- `first`, and then `next` with what it returned. -/
def bind (first : Coroutine Op Answer Failure Value)
    (next : Value → Coroutine Op Answer Failure Other) :
    Coroutine Op Answer Failure Other :=
  match first with
  | .returned value => next value
  | .raised failure => .raised failure
  | .await op resume => .await op fun answer => (resume answer).bind next

/-- `first`, and `handler` with what it raised. -/
def handle (first : Coroutine Op Answer Failure Value)
    (handler : Failure → Coroutine Op Answer Failure Value) :
    Coroutine Op Answer Failure Value :=
  match first with
  | .returned value => .returned value
  | .raised failure => handler failure
  | .await op resume => .await op fun answer => (resume answer).handle handler

instance : Monad (Coroutine Op Answer Failure) where
  pure := .returned
  bind := bind

instance : MonadExceptOf Failure (Coroutine Op Answer Failure) where
  throw := .raised
  tryCatch := handle

/-- One operation. -/
def perform (op : Op) : Coroutine Op Answer Failure (Answer op) :=
  .await op fun answer =>
    match answer with
    | .ok value => .returned value
    | .error failure => .raised failure

/-- What a coroutine may rely on between its operations, what an operation may do, and
what the others may rely on while it is performed. -/
structure Contract (State Op : Type) (Answer : Op → Type) (Failure : Type) where
  rely : State → State → Prop
  move : (op : Op) → State → Except Failure (Answer op) → State → Prop
  guarantee : State → State → Prop

variable {State : Type} {contract : Contract State Op Answer Failure}

/-- Every operation of the coroutine keeps to the guarantee, and it ends in a state as in
`returns` or as in `raises`. -/
def Secure (contract : Contract State Op Answer Failure) (returns : Value → State → Prop)
    (raises : Failure → State → Prop) : Coroutine Op Answer Failure Value → State → Prop
  | .returned value, state => returns value state
  | .raised failure, state => raises failure state
  | .await op resume, state =>
      ∀ before, contract.rely state before → ∀ answer after,
        contract.move op before answer after →
          contract.guarantee before after ∧
            Secure contract returns raises (resume answer) after

section Rules

variable {returns : Value → State → Prop} {raises : Failure → State → Prop} {state : State}

theorem secure_perform {op : Op} {returns : Answer op → State → Prop} :
    Secure contract returns raises (perform op) state ↔
      ∀ before, contract.rely state before → ∀ answer after,
        contract.move op before answer after →
          contract.guarantee before after ∧
            match answer with
            | .ok value => returns value after
            | .error failure => raises failure after := by
  simp only [perform, Secure]
  refine forall₅_congr fun _ _ answer _ _ => and_congr_right fun _ => ?_
  cases answer with
  | ok value => rfl
  | error failure => rfl

theorem secure_bind {first : Coroutine Op Answer Failure Other}
    {next : Other → Coroutine Op Answer Failure Value} :
    Secure contract returns raises (first >>= next) state ↔
      Secure contract (fun value after => Secure contract returns raises (next value) after)
        raises first state := by
  induction first generalizing state with
  | returned value => rfl
  | raised failure => rfl
  | await op resume ih =>
      refine forall₅_congr fun _ _ answer after _ => and_congr_right fun _ => ?_
      exact ih answer

theorem secure_tryCatch {first : Coroutine Op Answer Failure Value}
    {handler : Failure → Coroutine Op Answer Failure Value} :
    Secure contract returns raises (tryCatch first handler) state ↔
      Secure contract returns
        (fun failure after => Secure contract returns raises (handler failure) after)
        first state := by
  induction first generalizing state with
  | returned value => rfl
  | raised failure => rfl
  | await op resume ih =>
      refine forall₅_congr fun _ _ answer after _ => and_congr_right fun _ => ?_
      exact ih answer

theorem Secure.mono {coroutine : Coroutine Op Answer Failure Value}
    {returns' : Value → State → Prop} {raises' : Failure → State → Prop}
    (hsecure : Secure contract returns raises coroutine state)
    (hreturns : ∀ value after, returns value after → returns' value after)
    (hraises : ∀ failure after, raises failure after → raises' failure after) :
    Secure contract returns' raises' coroutine state := by
  induction coroutine generalizing state with
  | returned value => exact hreturns value state hsecure
  | raised failure => exact hraises failure state hsecure
  | await op resume ih =>
      intro before hrely answer after hmove
      have hkept := hsecure before hrely answer after hmove
      exact ⟨hkept.1, ih answer hkept.2⟩

theorem Secure.wait {op : Op}
    {resume : Except Failure (Answer op) → Coroutine Op Answer Failure Value} {later : State}
    (htrans : ∀ first second third, contract.rely first second → contract.rely second third →
      contract.rely first third)
    (hsecure : Secure contract returns raises (.await op resume) state)
    (hrely : contract.rely state later) :
    Secure contract returns raises (.await op resume) later :=
  fun before hbefore => hsecure before (htrans _ _ _ hrely hbefore)

end Rules

def Uses (allowed : Op → Prop) : Coroutine Op Answer Failure Value → Prop
  | .returned _ => True
  | .raised _ => True
  | .await op resume => allowed op ∧ ∀ answer, Uses allowed (resume answer)

section Uses

variable {allowed : Op → Prop}

theorem uses_pure (value : Value) :
    Uses allowed (pure value : Coroutine Op Answer Failure Value) := trivial

theorem uses_throw (failure : Failure) :
    Uses allowed (throw failure : Coroutine Op Answer Failure Value) := trivial

theorem uses_perform {op : Op} (hop : allowed op) :
    Uses allowed (perform op : Coroutine Op Answer Failure (Answer op)) := by
  refine ⟨hop, fun answer => ?_⟩
  cases answer with
  | ok value => trivial
  | error failure => trivial

theorem Uses.bind {first : Coroutine Op Answer Failure Other}
    {next : Other → Coroutine Op Answer Failure Value} (hfirst : Uses allowed first)
    (hnext : ∀ value, Uses allowed (next value)) : Uses allowed (first >>= next) := by
  induction first with
  | returned value => exact hnext value
  | raised failure => trivial
  | await op resume ih => exact ⟨hfirst.1, fun answer => ih answer (hfirst.2 answer)⟩

theorem Uses.tryCatch {first : Coroutine Op Answer Failure Value}
    {handler : Failure → Coroutine Op Answer Failure Value} (hfirst : Uses allowed first)
    (hhandler : ∀ failure, Uses allowed (handler failure)) :
    Uses allowed (MonadExceptOf.tryCatch first handler) := by
  induction first with
  | returned value => trivial
  | raised failure => exact hhandler failure
  | await op resume ih => exact ⟨hfirst.1, fun answer => ih answer (hfirst.2 answer)⟩

theorem Uses.mono {other : Op → Prop} {coroutine : Coroutine Op Answer Failure Value}
    (huses : Uses allowed coroutine) (himplies : ∀ op, allowed op → other op) :
    Uses other coroutine := by
  induction coroutine with
  | returned value => trivial
  | raised failure => trivial
  | await op resume ih =>
      exact ⟨himplies op huses.1, fun answer => ih answer (huses.2 answer)⟩

/-- What others leave in place, and every allowed operation keeps, holds at the end. -/
theorem Uses.secure {kept : State → Prop} {coroutine : Coroutine Op Answer Failure Value}
    {state : State} (huses : Uses allowed coroutine)
    (hrely : ∀ before after, kept before → contract.rely before after → kept after)
    (hop : ∀ op, allowed op → ∀ before answer after, kept before →
      contract.move op before answer after → contract.guarantee before after ∧ kept after)
    (hkept : kept state) :
    Secure contract (fun _ => kept) (fun _ => kept) coroutine state := by
  induction coroutine generalizing state with
  | returned value => exact hkept
  | raised failure => exact hkept
  | await op resume ih =>
      intro before hbefore answer after hmove
      have hdone := hop op huses.1 before answer after (hrely _ _ hkept hbefore) hmove
      exact ⟨hdone.1, ih answer (huses.2 answer) hdone.2⟩

end Uses

end Coroutine

structure Threads (State Op : Type) (Answer : Op → Type) (Failure Value : Type) where
  state : State
  running : ℕ → Option (Coroutine Op Answer Failure Value)

structure Machine (State Op : Type) (Answer : Op → Type)
    (Failure Value Job Env Outside : Type) where
  program : Job → Coroutine Op Answer Failure Value
  start : ℕ → Job → State → Option State
  /-- An operation as the environment lets it end; `none` when it cannot end so. -/
  perform : ℕ → (op : Op) → Env → State → Option (Except Failure (Answer op) × State)
  /-- The thread has ended: it returned, it raised, or its process is gone. -/
  leave : ℕ → Option (Except Failure Value) → State → State
  outside : Outside → State → Option State

/-- What may happen next. -/
inductive Turn (Job Env Outside : Type)
  | start (thread : ℕ) (job : Job)
  | resume (thread : ℕ) (env : Env)
  | crash (thread : ℕ)
  | outside (change : Outside)

namespace Machine

open Function
open Coroutine

variable {State Op : Type} {Answer : Op → Type} {Failure Value Job Env Outside : Type}
variable (machine : Machine State Op Answer Failure Value Job Env Outside)

def settle (thread : ℕ) (coroutine : Coroutine Op Answer Failure Value) (state : State)
    (running : ℕ → Option (Coroutine Op Answer Failure Value)) :
    Threads State Op Answer Failure Value :=
  match coroutine with
  | .returned value =>
      ⟨machine.leave thread (some (.ok value)) state, update running thread none⟩
  | .raised failure =>
      ⟨machine.leave thread (some (.error failure)) state, update running thread none⟩
  | .await op resume => ⟨state, update running thread (some (.await op resume))⟩

def apply (threads : Threads State Op Answer Failure Value) :
    Turn Job Env Outside → Option (Threads State Op Answer Failure Value)
  | .start thread job =>
      match threads.running thread with
      | some _ => none
      | none =>
          (machine.start thread job threads.state).map fun state =>
            machine.settle thread (machine.program job) state threads.running
  | .resume thread env =>
      match threads.running thread with
      | some (.await op resume) =>
          (machine.perform thread op env threads.state).map fun (answer, state) =>
            machine.settle thread (resume answer) state threads.running
      | some (.returned _) | some (.raised _) | none => none
  | .crash thread =>
      match threads.running thread with
      | some _ =>
          some ⟨machine.leave thread none threads.state, update threads.running thread none⟩
      | none => none
  | .outside change =>
      (machine.outside change threads.state).map fun state => { threads with state := state }

/-- Nobody runs. -/
def idle (state : State) : Threads State Op Answer Failure Value := ⟨state, fun _ => none⟩

variable {threads : Threads State Op Answer Failure Value} {thread : ℕ}

variable {machine} in
theorem relates_of_apply {next : Threads State Op Answer Failure Value}
    {turn : Turn Job Env Outside} (Rel : State → State → Prop) (hrefl : ∀ state, Rel state state)
    (htrans : ∀ first second third, Rel first second → Rel second third → Rel first third)
    (hstart : ∀ thread job state after, machine.start thread job state = some after →
      Rel state after) (hperform : ∀ thread op env state answer after,
      machine.perform thread op env state = some (answer, after) → Rel state after)
    (hleave : ∀ thread ended state, Rel state (machine.leave thread ended state))
    (houtside : ∀ change state after, machine.outside change state = some after →
      Rel state after) (happly : machine.apply threads turn = some next) :
    Rel threads.state next.state := by
  have hsettle : ∀ thread (coroutine : Coroutine Op Answer Failure Value) state running,
      Rel state (machine.settle thread coroutine state running).state := by
    intro thread coroutine state running
    cases coroutine with
    | returned value => exact hleave thread _ state
    | raised failure => exact hleave thread _ state
    | await op resume => exact hrefl state
  cases turn with
  | start thread job =>
      simp only [Machine.apply] at happly
      split at happly
      · cases happly
      · obtain ⟨state, hbegin, rfl⟩ := Option.map_eq_some_iff.mp happly
        exact htrans _ _ _ (hstart thread job _ _ hbegin) (hsettle thread _ state _)
  | resume thread env =>
      simp only [Machine.apply] at happly
      split at happly
      · obtain ⟨⟨answer, state⟩, hdone, rfl⟩ := Option.map_eq_some_iff.mp happly
        exact htrans _ _ _ (hperform thread _ env _ _ _ hdone) (hsettle thread _ state _)
      · cases happly
      · cases happly
      · cases happly
  | crash thread =>
      simp only [Machine.apply] at happly
      split at happly
      · cases happly
        exact hleave thread none _
      · cases happly
  | outside change =>
      simp only [Machine.apply] at happly
      obtain ⟨state, hchange, rfl⟩ := Option.map_eq_some_iff.mp happly
      exact houtside change _ _ hchange

structure Discipline (State Op : Type) (Answer : Op → Type) (Failure Value Job Env Outside : Type)
    where
  invariant : State → Prop
  rely : ℕ → State → State → Prop
  /-- The operation is performed by the thread and ends as the environment says. -/
  allowed : ℕ → Op → Env → State → Prop
  mayCrash : ℕ → State → Prop
  mayStart : ℕ → Job → State → Prop
  mayChange : Outside → State → Prop

variable (discipline : Discipline State Op Answer Failure Value Job Env Outside)

def Keeps (threads : Threads State Op Answer Failure Value) : Turn Job Env Outside → Prop
  | .start thread job => discipline.mayStart thread job threads.state
  | .resume thread env => ∀ op resume, threads.running thread = some (.await op resume) →
      discipline.allowed thread op env threads.state
  | .crash thread => discipline.mayCrash thread threads.state
  | .outside change => discipline.mayChange change threads.state

def Harmless (thread : ℕ) (before after : State) : Prop :=
  discipline.invariant after ∧ ∀ other, other ≠ thread → discipline.rely other before after

def contract (thread : ℕ) : Contract State Op Answer Failure where
  rely before after := discipline.rely thread before after ∧ discipline.invariant after
  move op before answer after := ∃ env, discipline.allowed thread op env before ∧
    machine.perform thread op env before = some (answer, after)
  guarantee before after := Harmless discipline thread before after

def Secured (thread : ℕ) (coroutine : Coroutine Op Answer Failure Value) (state : State) :
    Prop :=
  Secure (contract machine discipline thread)
    (fun value after =>
      Harmless discipline thread after (machine.leave thread (some (.ok value)) after))
    (fun failure after =>
      Harmless discipline thread after (machine.leave thread (some (.error failure)) after))
    coroutine state

/-- What has to be shown of each kind of turn. -/
structure Sound : Prop where
  refl : ∀ thread state, discipline.rely thread state state
  trans : ∀ thread first second third, discipline.rely thread first second →
    discipline.rely thread second third → discipline.rely thread first third
  start : ∀ thread job state next, discipline.invariant state →
    discipline.mayStart thread job state → machine.start thread job state = some next →
    Harmless discipline thread state next ∧
      Secured machine discipline thread (machine.program job) next
  crash : ∀ thread state, discipline.invariant state → discipline.mayCrash thread state →
    Harmless discipline thread state (machine.leave thread none state)
  outside : ∀ change state next, discipline.invariant state →
    discipline.mayChange change state → machine.outside change state = some next →
    discipline.invariant next ∧ ∀ thread, discipline.rely thread state next

structure Orderly (threads : Threads State Op Answer Failure Value) : Prop where
  invariant : discipline.invariant threads.state
  secured : ∀ thread coroutine, threads.running thread = some coroutine →
    (∃ op resume, coroutine = .await op resume) ∧
      Secured machine discipline thread coroutine threads.state

variable {machine} {discipline}

theorem Orderly.others (hsound : Sound machine discipline)
    (horderly : Orderly machine discipline threads) {state : State}
    (hharmless : Harmless discipline thread threads.state state) {other : ℕ}
    (hother : other ≠ thread) {coroutine : Coroutine Op Answer Failure Value}
    (hrunning : threads.running other = some coroutine) :
    (∃ op resume, coroutine = .await op resume) ∧
      Secured machine discipline other coroutine state := by
  have hsecured := horderly.secured other coroutine hrunning
  obtain ⟨⟨op, resume, rfl⟩, hsecure⟩ := hsecured
  refine ⟨⟨op, resume, rfl⟩, Secure.wait ?_ hsecure ⟨hharmless.2 other hother, hharmless.1⟩⟩
  intro first second third hfirst hsecond
  exact ⟨hsound.trans other _ _ _ hfirst.1 hsecond.1, hsecond.2⟩

theorem Harmless.trans {first second third : State} (hsound : Sound machine discipline)
    (hfirst : Harmless discipline thread first second)
    (hsecond : Harmless discipline thread second third) :
    Harmless discipline thread first third :=
  ⟨hsecond.1, fun other hother =>
    hsound.trans other _ _ _ (hfirst.2 other hother) (hsecond.2 other hother)⟩

theorem Orderly.settle (hsound : Sound machine discipline)
    (horderly : Orderly machine discipline threads) {state : State}
    (hharmless : Harmless discipline thread threads.state state)
    {coroutine : Coroutine Op Answer Failure Value}
    (hsecured : Secured machine discipline thread coroutine state) :
    Orderly machine discipline (machine.settle thread coroutine state threads.running) := by
  have hleft : ∀ ended, Harmless discipline thread state (machine.leave thread ended state) →
      Orderly machine discipline
        ⟨machine.leave thread ended state, update threads.running thread none⟩ := by
    intro ended hleave
    refine ⟨hleave.1, fun other coroutine hrunning => ?_⟩
    by_cases hother : other = thread
    · rw [hother] at hrunning
      simp only [update_self] at hrunning
      cases hrunning
    · simp only [update_of_ne hother] at hrunning
      exact horderly.others hsound (hharmless.trans hsound hleave) hother hrunning
  cases coroutine with
  | returned value => exact hleft _ hsecured
  | raised failure => exact hleft _ hsecured
  | await op resume =>
      refine ⟨hharmless.1, fun other coroutine hrunning => ?_⟩
      by_cases hother : other = thread
      · rw [hother] at hrunning ⊢
        simp only [Machine.settle, update_self, Option.some.injEq] at hrunning
        subst hrunning
        exact ⟨⟨op, resume, rfl⟩, hsecured⟩
      · simp only [Machine.settle, update_of_ne hother] at hrunning
        exact horderly.others hsound hharmless hother hrunning

theorem Orderly.step {next : Threads State Op Answer Failure Value}
    (hsound : Sound machine discipline) (horderly : Orderly machine discipline threads)
    {turn : Turn Job Env Outside} (hkeeps : Keeps discipline threads turn)
    (hstep : machine.apply threads turn = some next) : Orderly machine discipline next := by
  cases turn with
  | start thread job =>
      simp only [Machine.apply] at hstep
      split at hstep
      · cases hstep
      · obtain ⟨state, hstart, rfl⟩ := Option.map_eq_some_iff.mp hstep
        have hbegin := hsound.start thread job _ _ horderly.invariant hkeeps hstart
        exact horderly.settle hsound hbegin.1 hbegin.2
  | resume thread env =>
      simp only [Machine.apply] at hstep
      split at hstep
      · rename_i op resume hrunning
        obtain ⟨⟨answer, state⟩, hperform, rfl⟩ := Option.map_eq_some_iff.mp hstep
        have hallowed := hkeeps op resume hrunning
        have hsecured := (horderly.secured thread _ hrunning).2 threads.state
          ⟨hsound.refl thread _, horderly.invariant⟩ answer state ⟨env, hallowed, hperform⟩
        exact horderly.settle hsound hsecured.1 hsecured.2
      · cases hstep
      · cases hstep
      · cases hstep
  | crash thread =>
      simp only [Machine.apply] at hstep
      split at hstep
      · cases hstep
        have hleave := hsound.crash thread _ horderly.invariant hkeeps
        refine ⟨hleave.1, fun other coroutine hrunning => ?_⟩
        by_cases hother : other = thread
        · rw [hother] at hrunning
          simp only [update_self] at hrunning
          cases hrunning
        · simp only [update_of_ne hother] at hrunning
          exact horderly.others hsound hleave hother hrunning
      · cases hstep
  | outside change =>
      simp only [Machine.apply] at hstep
      obtain ⟨state, hchange, rfl⟩ := Option.map_eq_some_iff.mp hstep
      have hkept := hsound.outside change _ _ horderly.invariant hkeeps hchange
      refine ⟨hkept.1, fun thread coroutine hrunning => ?_⟩
      obtain ⟨⟨op, resume, rfl⟩, hsecure⟩ := horderly.secured thread coroutine hrunning
      refine ⟨⟨op, resume, rfl⟩, Secure.wait ?_ hsecure ⟨hkept.2 thread, hkept.1⟩⟩
      intro first second third hfirst hsecond
      exact ⟨hsound.trans thread _ _ _ hfirst.1 hsecond.1, hsecond.2⟩

theorem invariant_of_run {start : State} {turns : List (Turn Job Env Outside)}
    {final : Threads State Op Answer Failure Value} (hsound : Sound machine discipline)
    (hstart : discipline.invariant start)
    (hrun : Transition.Run
      (Transition.restrict (Transition.ofPartial machine.apply) (Keeps discipline))
      (idle start) turns final) :
    discipline.invariant final.state := by
  have horderly := hrun.invariant (Orderly machine discipline)
    (fun _ _ _ horderly hstep => horderly.step hsound hstep.1 hstep.2)
    ⟨hstart, fun _ _ hrunning => by cases hrunning⟩
  exact horderly.invariant

end Machine

end XianyuAdmin
