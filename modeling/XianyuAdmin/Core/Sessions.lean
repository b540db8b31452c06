import XianyuAdmin.Core.Transition

/-!
# Transactions of concurrent sessions

A session carries out a transaction on a shared store.  It reads what has been
committed, it locks rows, for which other sessions have to wait, and it commits a
write, which a constraint of the store may refuse.  Sessions take their steps in
any order, and each of them may break off at any point.

A transaction is `Ready` when it is safe from now on, provided that the others do
no more than `Rely` allows them under its locks.  If every transaction is ready
when it begins, then what is good about the store holds in every run.
-/

namespace XianyuAdmin.Sessions

open Transition

/-- What a session has still to do. -/
inductive Transaction (Store Row Write Answer : Type)
  /-- The session is closed; nothing is committed any more. -/
  | ends (answer : Answer)
  | reads (next : Store → Transaction Store Row Write Answer)
  | locks (row : Row) (next : Store → Transaction Store Row Write Answer)
  | commits (write : Write) (next : Bool → Transaction Store Row Write Answer)

structure Engine (Store Row Write : Type) where
  apply : Store → Write → Option Store
  touches : Store → Write → List Row

variable {Store Row Write Answer Call : Type}

structure Session (Store Row Write Answer Call : Type) where
  call : Call
  held : List Row
  rest : Transaction Store Row Write Answer

structure State (Store Row Write Answer Call : Type) where
  store : Store
  sessions : List (ℕ × Session Store Row Write Answer Call)
  answered : List (Call × Answer)

inductive Label (Call : Type)
  | begins (id : ℕ) (call : Call)
  | advances (id : ℕ)
  | breaksOff (id : ℕ)

namespace State

variable (state : State Store Row Write Answer Call)

def session? (id : ℕ) : Option (Session Store Row Write Answer Call) :=
  (state.sessions.find? fun entry => entry.1 = id).map Prod.snd

def isHeld [DecidableEq Row] (id : ℕ) (row : Row) : Bool :=
  state.sessions.any fun (other, session) => other ≠ id && row ∈ session.held

def close (id : ℕ) : State Store Row Write Answer Call :=
  { state with sessions := state.sessions.filter fun entry => entry.1 ≠ id }

def resume (id : ℕ) (session : Session Store Row Write Answer Call) :
    State Store Row Write Answer Call :=
  { state with
    sessions := state.sessions.map fun entry =>
      if entry.1 = id then (id, session) else entry }

@[simp]
theorem store_resume (id : ℕ) (session : Session Store Row Write Answer Call) :
    (state.resume id session).store = state.store := rfl

end State

section Steps

variable [DecidableEq Row] (engine : Engine Store Row Write)
  (program : Call → Transaction Store Row Write Answer)

/-- The next action of a session, unless it has to wait for another one. -/
def advance (state : State Store Row Write Answer Call) (id : ℕ)
    (session : Session Store Row Write Answer Call) :
    Option (State Store Row Write Answer Call) :=
  match session.rest with
  | .ends answer =>
      some { state.close id with answered := (session.call, answer) :: state.answered }
  | .reads next => some (state.resume id { session with rest := next state.store })
  | .locks row next =>
      if state.isHeld id row then none
      else
        some (state.resume id
          { session with held := row :: session.held, rest := next state.store })
  | .commits write next =>
      if (engine.touches state.store write).any (state.isHeld id) then none
      else
        let accepted := engine.apply state.store write
        some (State.resume { state with store := accepted.getD state.store } id
          { session with held := [], rest := next accepted.isSome })

def apply (state : State Store Row Write Answer Call) :
    Label Call → Option (State Store Row Write Answer Call)
  | .begins id call =>
      if (state.session? id).isSome then none
      else
        some { state with
          sessions := (id, { call := call, held := [], rest := program call }) ::
            state.sessions }
  | .advances id => (state.session? id).bind (advance engine state id)
  | .breaksOff id => some (state.close id)

/-- The system of all sessions that carry out calls. -/
def step : State Store Row Write Answer Call → Label Call →
    State Store Row Write Answer Call → Prop :=
  ofPartial (apply engine program)

end Steps

section Rules

variable (engine : Engine Store Row Write) (Good : Store → Prop)
  (Rely : List Row → Store → Store → Prop) (Allowed : Store → Write → Prop)

/-- From now on the transaction makes only writes that keep the store good, as far as
they are allowed, whatever the others do in between. -/
def Ready : List Row → Store → Transaction Store Row Write Answer → Prop
  | _, _, .ends _ => True
  | held, store, .reads next =>
      ∀ later, Rely held store later → Good later → Ready held later (next later)
  | held, store, .locks row next =>
      ∀ later, Rely held store later → Good later → Ready (row :: held) later (next later)
  | held, store, .commits write next =>
      ∀ later, Rely held store later → Good later → Allowed later write →
        match engine.apply later write with
        | some after => Good after ∧ Ready [] after (next true)
        | none => Ready [] later (next false)

def commitsAllowed (state : State Store Row Write Answer Call) : Label Call → Prop
  | .advances id =>
      ∀ session write next, state.session? id = some session →
        session.rest = .commits write next → Allowed state.store write
  | _ => True

variable {engine Good Rely Allowed}

variable {state : State Store Row Write Answer Call}

theorem commitsAllowed_of_forall (hall : ∀ write, Allowed state.store write) (label : Label Call) :
    commitsAllowed Allowed state label := by
  cases label with
  | begins id call => trivial
  | advances id => exact fun _ write _ _ _ => hall write
  | breaksOff id => trivial

theorem Ready.of_rely
    (htrans : ∀ held first second third, Rely held first second → Rely held second third →
      Rely held first third)
    {held : List Row} {store later : Store} {rest : Transaction Store Row Write Answer}
    (hready : Ready engine Good Rely Allowed held store rest) (hrely : Rely held store later) :
    Ready engine Good Rely Allowed held later rest := by
  cases rest with
  | ends answer => trivial
  | reads next => exact fun last hlast => hready last (htrans _ _ _ _ hrely hlast)
  | locks row next => exact fun last hlast => hready last (htrans _ _ _ _ hrely hlast)
  | commits write next => exact fun last hlast => hready last (htrans _ _ _ _ hrely hlast)

theorem ready_of_keeps
    (hkeeps : ∀ store write after, Good store → Allowed store write →
      engine.apply store write = some after → Good after)
    (rest : Transaction Store Row Write Answer) (held : List Row) (store : Store) :
    Ready engine Good Rely Allowed held store rest := by
  induction rest generalizing held store with
  | ends answer => trivial
  | reads next ih => exact fun later _ _ => ih later held later
  | locks row next ih => exact fun later _ _ => ih later (row :: held) later
  | commits write next ih =>
      intro later _ hgood hallowed
      cases happly : engine.apply later write with
      | none => exact ih false [] later
      | some after => exact ⟨hkeeps later write after hgood hallowed happly, ih true [] after⟩

structure Sound (engine : Engine Store Row Write) (Good : Store → Prop)
    (Rely : List Row → Store → Store → Prop) (Allowed : Store → Write → Prop)
    (state : State Store Row Write Answer Call) : Prop where
  good : Good state.store
  ready : ∀ entry ∈ state.sessions,
    Ready engine Good Rely Allowed entry.2.held state.store entry.2.rest

theorem mem_of_session? {id : ℕ} {session : Session Store Row Write Answer Call}
    (hsession : state.session? id = some session) : (id, session) ∈ state.sessions := by
  obtain ⟨entry, hfound, rfl⟩ := Option.map_eq_some_iff.mp hsession
  have hid : entry.1 = id := by simpa using List.find?_some hfound
  exact hid ▸ List.mem_of_find?_eq_some hfound

theorem Sound.close (hsound : Sound engine Good Rely Allowed state) (id : ℕ) :
    Sound engine Good Rely Allowed (state.close id) where
  good := hsound.good
  ready := fun entry hentry => hsound.ready entry (List.mem_of_mem_filter hentry)

theorem Sound.resume (hsound : Sound engine Good Rely Allowed state) (id : ℕ)
    (session : Session Store Row Write Answer Call)
    (hready : Ready engine Good Rely Allowed session.held state.store session.rest) :
    Sound engine Good Rely Allowed (state.resume id session) where
  good := hsound.good
  ready := by
    intro entry hentry
    obtain ⟨stored, hstored, rfl⟩ := List.mem_map.mp hentry
    by_cases hid : stored.1 = id
    · simpa [hid] using hready
    · simpa [hid] using hsound.ready stored hstored

variable [DecidableEq Row] {program : Call → Transaction Store Row Write Answer}

theorem not_mem_held {id : ℕ} {rows : List Row} (hfree : rows.any (state.isHeld id) = false)
    {entry : ℕ × Session Store Row Write Answer Call} (hentry : entry ∈ state.sessions)
    (hother : entry.1 ≠ id) : ∀ row ∈ entry.2.held, row ∉ rows := by
  intro row hheld hneeded
  have hfreeRow : state.isHeld id row = false := by
    simpa using List.any_eq_false.mp hfree row hneeded
  have hnone := List.any_eq_false.mp hfreeRow entry hentry
  simp [hother, hheld] at hnone

theorem Sound.step (hrefl : ∀ held store, Rely held store store)
    (htrans : ∀ held first second third, Rely held first second → Rely held second third →
      Rely held first third)
    (hframe : ∀ held store write after, engine.apply store write = some after →
      (∀ row ∈ held, row ∉ engine.touches store write) → Rely held store after)
    (hprogram : ∀ call store, Good store →
      Ready engine Good Rely Allowed [] store (program call))
    {next : State Store Row Write Answer Call} {label : Label Call}
    (hsound : Sound engine Good Rely Allowed state)
    (hstep : restrict (Sessions.step engine program) (commitsAllowed Allowed) state label next) :
    Sound engine Good Rely Allowed next := by
  obtain ⟨hallowed, happly⟩ := hstep
  cases label with
  | begins id call =>
      simp only [Sessions.step, ofPartial, Sessions.apply] at happly
      split at happly
      · cases happly
      · cases happly
        refine ⟨hsound.good, fun entry hentry => ?_⟩
        rcases List.mem_cons.mp hentry with rfl | hold
        · exact hprogram call state.store hsound.good
        · exact hsound.ready entry hold
  | breaksOff id =>
      cases happly
      exact hsound.close id
  | advances id =>
      obtain ⟨session, hsession, hadvance⟩ := Option.bind_eq_some_iff.mp happly
      have hready := hsound.ready _ (mem_of_session? hsession)
      unfold advance at hadvance
      cases hrest : session.rest with
      | ends answer =>
          simp only [hrest] at hadvance
          cases hadvance
          exact ⟨(hsound.close id).good, (hsound.close id).ready⟩
      | reads continuation =>
          simp only [hrest] at hadvance hready
          cases hadvance
          exact hsound.resume _ _ (hready state.store (hrefl _ _) hsound.good)
      | locks row continuation =>
          simp only [hrest] at hadvance hready
          split at hadvance
          · cases hadvance
          · cases hadvance
            exact hsound.resume _ _ (hready state.store (hrefl _ _) hsound.good)
      | commits write continuation =>
          simp only [hrest] at hadvance hready
          have hcommit := hready state.store (hrefl _ _) hsound.good
            (hallowed session write continuation hsession hrest)
          split at hadvance
          · cases hadvance
          · rename_i hfree
            cases hadvance
            cases haccepted : engine.apply state.store write with
            | none =>
                simp only [haccepted] at hcommit
                exact hsound.resume _ _ hcommit
            | some after =>
                simp only [haccepted] at hcommit
                refine ⟨hcommit.1, fun entry hentry => ?_⟩
                obtain ⟨stored, hstored, rfl⟩ := List.mem_map.mp hentry
                by_cases hid : stored.1 = id
                · simpa [hid] using hcommit.2
                · have hkept := hframe stored.2.held state.store write after haccepted
                    (not_mem_held (Bool.eq_false_iff.mpr hfree) hstored hid)
                  simpa [hid] using (hsound.ready stored hstored).of_rely htrans hkept

theorem good_of_run
    (hrefl : ∀ held store, Rely held store store)
    (htrans : ∀ held first second third, Rely held first second → Rely held second third →
      Rely held first third)
    (hframe : ∀ held store write after, engine.apply store write = some after →
      (∀ row ∈ held, row ∉ engine.touches store write) → Rely held store after)
    (hprogram : ∀ call store, Good store →
      Ready engine Good Rely Allowed [] store (program call))
    {start final : State Store Row Write Answer Call} {labels : List (Label Call)}
    (hrun : Run (restrict (Sessions.step engine program) (commitsAllowed Allowed))
      start labels final)
    (hgood : Good start.store) (hclosed : start.sessions = []) : Good final.store := by
  have hsound : Sound engine Good Rely Allowed start := ⟨hgood, by simp [hclosed]⟩
  exact (hrun.invariant (Sound engine Good Rely Allowed)
    (fun _ _ _ => Sound.step hrefl htrans hframe hprogram) hsound).good

end Rules

end XianyuAdmin.Sessions
