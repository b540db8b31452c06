import XianyuAdmin.Core.Sessions

/-!
# What the answers of sessions tell

An answer may be possible only for a transaction that looks at a store with some
property, or that commits while the store has it; then there was such a moment
while the call was carried out.  An answer may be possible only for a transaction
that commits what can be committed just once; then it is given at most once.
-/

namespace XianyuAdmin.Sessions

open Transition

variable {Store Row Write Answer Call : Type}

section Kept

variable [DecidableEq Row] {engine : Engine Store Row Write}
  {program : Call → Transaction Store Row Write Answer}

theorem kept_of_step (Kept : Store → Prop)
    (hkeeps : ∀ store write after, engine.apply store write = some after →
      Kept store → Kept after)
    {state next : State Store Row Write Answer Call} {label : Label Call}
    (hkept : Kept state.store) (hstep : Sessions.step engine program state label next) :
    Kept next.store := by
  cases label with
  | begins id call =>
      simp only [Sessions.step, ofPartial, Sessions.apply] at hstep
      split at hstep
      · cases hstep
      · cases hstep
        exact hkept
  | breaksOff id =>
      cases hstep
      exact hkept
  | advances id =>
      obtain ⟨session, -, hadvance⟩ := Option.bind_eq_some_iff.mp hstep
      unfold advance at hadvance
      cases hrest : session.rest with
      | ends answer =>
          simp only [hrest] at hadvance
          cases hadvance
          exact hkept
      | reads continuation =>
          simp only [hrest] at hadvance
          cases hadvance
          exact hkept
      | locks row continuation =>
          simp only [hrest] at hadvance
          split at hadvance
          · cases hadvance
          · cases hadvance
            exact hkept
      | commits write continuation =>
          simp only [hrest] at hadvance
          split at hadvance
          · cases hadvance
          · cases hadvance
            cases haccepted : engine.apply state.store write with
            | none => exact hkept
            | some after => exact hkeeps _ _ _ haccepted hkept

theorem kept_of_run (Kept : Store → Prop)
    (hkeeps : ∀ store write after, engine.apply store write = some after →
      Kept store → Kept after)
    {start final : State Store Row Write Answer Call} {labels : List (Label Call)}
    (hrun : Run (Sessions.step engine program) start labels final)
    (hkept : Kept start.store) : Kept final.store :=
  hrun.invariant (fun state => Kept state.store)
    (fun _ _ _ hstate hstep => kept_of_step Kept hkeeps hstate hstep) hkept

end Kept

/-- No way leads to an answer in `Wins` but those that look at a store in `Looks` or
commit to a store in `Commits`, if the others do no more than `Rely` allows. -/
def Demands (engine : Engine Store Row Write) (Rely : List Row → Store → Store → Prop)
    (Looks Commits : Store → Prop) (Wins : Answer → Prop) :
    List Row → Store → Transaction Store Row Write Answer → Prop
  | _, _, .ends answer => ¬Wins answer
  | held, store, .reads next =>
      ∀ later, Rely held store later → ¬Looks later →
        Demands engine Rely Looks Commits Wins held later (next later)
  | held, store, .locks row next =>
      ∀ later, Rely held store later → ¬Looks later →
        Demands engine Rely Looks Commits Wins (row :: held) later (next later)
  | held, store, .commits write next =>
      ∀ later, Rely held store later →
        match engine.apply later write with
        | some after =>
            ¬Commits later → Demands engine Rely Looks Commits Wins [] after (next true)
        | none => Demands engine Rely Looks Commits Wins [] later (next false)

/-- The session carries out the call, and its next action looks at a store in `Looks`
or commits to a store in `Commits`. -/
def State.meets (engine : Engine Store Row Write) (Looks Commits : Store → Prop)
    (state : State Store Row Write Answer Call) (call : Call) (id : ℕ) : Prop :=
  ∃ session, state.session? id = some session ∧ session.call = call ∧
    match session.rest with
    | .ends _ => False
    | .reads _ | .locks _ _ => Looks state.store
    | .commits write _ => (engine.apply state.store write).isSome ∧ Commits state.store

section Moments

variable (engine : Engine Store Row Write) (Rely : List Row → Store → Store → Prop)
  (Allowed : Store → Write → Prop) (Looks Commits : Store → Prop) (Wins : Answer → Prop)

structure Waits (call : Call) (state : State Store Row Write Answer Call) : Prop where
  demands : ∀ entry ∈ state.sessions, entry.2.call = call →
    Demands engine Rely Looks Commits Wins entry.2.held state.store entry.2.rest
  loses : ∀ answer, (call, answer) ∈ state.answered → ¬Wins answer

variable {engine Rely Allowed Looks Commits Wins} {call : Call}

theorem Demands.of_rely
    (htrans : ∀ held first second third, Rely held first second → Rely held second third →
      Rely held first third)
    {held : List Row} {store later : Store} {rest : Transaction Store Row Write Answer}
    (hdemands : Demands engine Rely Looks Commits Wins held store rest)
    (hrely : Rely held store later) :
    Demands engine Rely Looks Commits Wins held later rest := by
  cases rest with
  | ends answer => exact hdemands
  | reads next => exact fun last hlast => hdemands last (htrans _ _ _ _ hrely hlast)
  | locks row next => exact fun last hlast => hdemands last (htrans _ _ _ _ hrely hlast)
  | commits write next => exact fun last hlast => hdemands last (htrans _ _ _ _ hrely hlast)

/-- A session that continues, while the others see what they rely on. -/
theorem Waits.resume
    {state : State Store Row Write Answer Call}
    (hwaits : Waits engine Rely Looks Commits Wins call state) (store : Store) (id : ℕ)
    (session : Session Store Row Write Answer Call)
    (hdemands : session.call = call →
      Demands engine Rely Looks Commits Wins session.held store session.rest)
    (hothers : ∀ entry ∈ state.sessions, entry.1 ≠ id → entry.2.call = call →
      Demands engine Rely Looks Commits Wins entry.2.held store entry.2.rest) :
    Waits engine Rely Looks Commits Wins call
      (State.resume { state with store := store } id session) where
  demands := by
    intro entry hentry hcall
    obtain ⟨stored, hstored, rfl⟩ := List.mem_map.mp hentry
    by_cases hid : stored.1 = id
    · rw [if_pos hid] at hcall ⊢
      exact hdemands hcall
    · rw [if_neg hid] at hcall ⊢
      exact hothers stored hstored hid hcall
  loses := hwaits.loses

variable [DecidableEq Row] {program : Call → Transaction Store Row Write Answer}

theorem Waits.step
    (hrefl : ∀ held store, Rely held store store)
    (htrans : ∀ held first second third, Rely held first second → Rely held second third →
      Rely held first third)
    (hframe : ∀ held store write after, Allowed store write →
      engine.apply store write = some after →
      (∀ row ∈ held, row ∉ engine.touches store write) → Rely held store after)
    (hprogram : ∀ store, Demands engine Rely Looks Commits Wins [] store (program call))
    {state next : State Store Row Write Answer Call} {label : Label Call}
    (hwaits : Waits engine Rely Looks Commits Wins call state)
    (hmoment : ∀ id, label = .advances id → ¬state.meets engine Looks Commits call id)
    (hstep : restrict (Sessions.step engine program) (commitsAllowed Allowed) state label next) :
    Waits engine Rely Looks Commits Wins call next := by
  obtain ⟨hallowed, happly⟩ := hstep
  cases label with
  | begins id begun =>
      simp only [Sessions.step, ofPartial, Sessions.apply] at happly
      split at happly
      · cases happly
      · cases happly
        refine ⟨fun entry hentry hcall => ?_, hwaits.loses⟩
        rcases List.mem_cons.mp hentry with rfl | hold
        · subst hcall
          exact hprogram state.store
        · exact hwaits.demands entry hold hcall
  | breaksOff id =>
      cases happly
      exact ⟨fun entry hentry => hwaits.demands entry (List.mem_of_mem_filter hentry),
        hwaits.loses⟩
  | advances id =>
      obtain ⟨session, hsession, hadvance⟩ := Option.bind_eq_some_iff.mp happly
      have hdemands := hwaits.demands _ (mem_of_session? hsession)
      have hnone := hmoment id rfl
      unfold advance at hadvance
      cases hrest : session.rest with
      | ends answer =>
          simp only [hrest] at hadvance hdemands
          cases hadvance
          refine ⟨fun entry hentry => hwaits.demands entry (List.mem_of_mem_filter hentry),
            fun given hgiven => ?_⟩
          rcases List.mem_cons.mp hgiven with heq | hold
          · rw [(Prod.mk.inj heq).2]
            exact hdemands (Prod.mk.inj heq).1.symm
          · exact hwaits.loses given hold
      | reads continuation =>
          simp only [hrest] at hadvance hdemands
          cases hadvance
          refine hwaits.resume state.store id _ (fun hcall => ?_)
            fun entry hentry _ => hwaits.demands entry hentry
          have hblind : ¬Looks state.store := fun hlooks =>
            hnone ⟨session, hsession, hcall, by rw [hrest]; exact hlooks⟩
          exact hdemands hcall state.store (hrefl _ _) hblind
      | locks row continuation =>
          simp only [hrest] at hadvance hdemands
          split at hadvance
          · cases hadvance
          · cases hadvance
            refine hwaits.resume state.store id _ (fun hcall => ?_)
              fun entry hentry _ => hwaits.demands entry hentry
            have hblind : ¬Looks state.store := fun hlooks =>
              hnone ⟨session, hsession, hcall, by rw [hrest]; exact hlooks⟩
            exact hdemands hcall state.store (hrefl _ _) hblind
      | commits write continuation =>
          simp only [hrest] at hadvance hdemands
          split at hadvance
          · cases hadvance
          · rename_i hfree
            cases hadvance
            cases haccepted : engine.apply state.store write with
            | none =>
                refine hwaits.resume state.store id _ (fun hcall => ?_)
                  fun entry hentry _ => hwaits.demands entry hentry
                have hcommit := hdemands hcall state.store (hrefl _ _)
                simp only [haccepted] at hcommit
                exact hcommit
            | some after =>
                refine hwaits.resume after id _ (fun hcall => ?_)
                  fun entry hentry hother hcall => ?_
                · have hrefused : ¬Commits state.store := fun hcommits =>
                    hnone ⟨session, hsession, hcall, by
                      rw [hrest]
                      exact ⟨by rw [haccepted]; rfl, hcommits⟩⟩
                  have hcommit := hdemands hcall state.store (hrefl _ _)
                  simp only [haccepted] at hcommit
                  exact hcommit hrefused
                · have hallowedWrite := hallowed session write continuation hsession hrest
                  have hkept := hframe entry.2.held state.store write after hallowedWrite
                    haccepted (not_mem_held (Bool.eq_false_iff.mpr hfree) hentry hother)
                  exact (hwaits.demands entry hentry hcall).of_rely htrans hkept

theorem exists_allowed_moment
    (hrefl : ∀ held store, Rely held store store)
    (htrans : ∀ held first second third, Rely held first second → Rely held second third →
      Rely held first third)
    (hframe : ∀ held store write after, Allowed store write →
      engine.apply store write = some after →
      (∀ row ∈ held, row ∉ engine.touches store write) → Rely held store after)
    (hprogram : ∀ store, Demands engine Rely Looks Commits Wins [] store (program call))
    {start final : State Store Row Write Answer Call} {labels : List (Label Call)}
    (hrun : Run (restrict (Sessions.step engine program) (commitsAllowed Allowed))
      start labels final)
    (hwaits : Waits engine Rely Looks Commits Wins call start) {answer : Answer}
    (hanswer : (call, answer) ∈ final.answered) (hwins : Wins answer) :
    ∃ before id after middle, labels = before ++ .advances id :: after ∧
      Run (restrict (Sessions.step engine program) (commitsAllowed Allowed))
        start before middle ∧ middle.meets engine Looks Commits call id := by
  induction hrun with
  | nil state => exact absurd hwins (hwaits.loses answer hanswer)
  | @cons state next final label labels hstep _ ih =>
      by_cases hmoment : ∃ id, label = .advances id ∧ state.meets engine Looks Commits call id
      · obtain ⟨id, rfl, hmeets⟩ := hmoment
        exact ⟨[], id, labels, state, rfl, .nil state, hmeets⟩
      · have hnext := hwaits.step hrefl htrans hframe hprogram
          (fun id hlabel hmeets => hmoment ⟨id, hlabel, hmeets⟩) hstep
        obtain ⟨before, id, after, middle, hlabels, hbefore, hmeets⟩ := ih hnext hanswer
        exact ⟨label :: before, id, after, middle, congrArg _ hlabels,
          .cons hstep hbefore, hmeets⟩

theorem exists_moment
    (hrefl : ∀ held store, Rely held store store)
    (htrans : ∀ held first second third, Rely held first second → Rely held second third →
      Rely held first third)
    (hframe : ∀ held store write after, Allowed store write →
      engine.apply store write = some after →
      (∀ row ∈ held, row ∉ engine.touches store write) → Rely held store after)
    (hprogram : ∀ store, Demands engine Rely Looks Commits Wins [] store (program call))
    {start final : State Store Row Write Answer Call} {labels : List (Label Call)}
    (hrun : Run (restrict (Sessions.step engine program) (commitsAllowed Allowed))
      start labels final)
    (hwaits : Waits engine Rely Looks Commits Wins call start) {answer : Answer}
    (hanswer : (call, answer) ∈ final.answered) (hwins : Wins answer) :
    ∃ before id after middle, labels = before ++ .advances id :: after ∧
      Run (Sessions.step engine program) start before middle ∧
        middle.meets engine Looks Commits call id := by
  obtain ⟨before, id, after, middle, hlabels, hbefore, hmeets⟩ :=
    exists_allowed_moment hrefl htrans hframe hprogram hrun hwaits hanswer hwins
  exact ⟨before, id, after, middle, hlabels, hbefore.forget, hmeets⟩

end Moments

/-- No way leads to an answer in `Wins` but those that commit what makes `Has` true of
the store. -/
def Earns (engine : Engine Store Row Write) (Has : Store → Prop) (Wins : Answer → Prop) :
    Transaction Store Row Write Answer → Prop
  | .ends answer => ¬Wins answer
  | .reads next | .locks _ next => ∀ store, Earns engine Has Wins (next store)
  | .commits write next =>
      Earns engine Has Wins (next false) ∧
        (Earns engine Has Wins (next true) ∨
          ∀ store after, engine.apply store write = some after → ¬Has store ∧ Has after)

section Once

variable (engine : Engine Store Row Write) (Has : Store → Prop) (Wins : Answer → Prop)
  (mine : Call → Prop) [DecidablePred Wins] [DecidablePred mine]

open scoped Classical in
noncomputable def Session.hasEarned (session : Session Store Row Write Answer Call) : Bool :=
  mine session.call ∧ ¬Earns engine Has Wins session.rest

def State.given (state : State Store Row Write Answer Call) : ℕ :=
  state.answered.countP fun (call, answer) => mine call ∧ Wins answer

noncomputable def State.winners (state : State Store Row Write Answer Call) : ℕ :=
  state.sessions.countP (fun entry => entry.2.hasEarned engine Has Wins mine) +
    state.given Wins mine

structure OneWinner (state : State Store Row Write Answer Call) : Prop where
  nodup : (state.sessions.map Prod.fst).Nodup
  le_one : state.winners engine Has Wins mine ≤ 1
  has : 0 < state.winners engine Has Wins mine → Has state.store

variable {engine Has Wins mine}

variable {state : State Store Row Write Answer Call} {id : ℕ}
  {session : Session Store Row Write Answer Call}

/-- A session stands in one place among the open ones. -/
theorem exists_split (hnodup : (state.sessions.map Prod.fst).Nodup)
    (hsession : state.session? id = some session) :
    ∃ left right, state.sessions = left ++ (id, session) :: right ∧
      ∀ entry ∈ left ++ right, entry.1 ≠ id := by
  obtain ⟨left, right, hsplit⟩ := List.append_of_mem (mem_of_session? hsession)
  refine ⟨left, right, hsplit, fun entry hentry hid => ?_⟩
  rw [hsplit, List.map_append, List.map_cons, List.nodup_middle] at hnodup
  refine (List.nodup_cons.mp hnodup).1 ?_
  rw [← List.map_append]
  exact List.mem_map.mpr ⟨entry, hentry, hid⟩

variable {next : Session Store Row Write Answer Call}

theorem sessions_resume {left right : List (ℕ × Session Store Row Write Answer Call)}
    (hsplit : state.sessions = left ++ (id, session) :: right)
    (hother : ∀ entry ∈ left ++ right, entry.1 ≠ id) (store : Store) :
    (State.resume { state with store := store } id next).sessions =
      left ++ (id, next) :: right := by
  have hsame : ∀ entries : List (ℕ × Session Store Row Write Answer Call),
      (∀ entry ∈ entries, entry.1 ≠ id) →
        entries.map (fun entry => if entry.1 = id then (id, next) else entry) = entries := by
    intro entries hentries
    calc entries.map (fun entry => if entry.1 = id then (id, next) else entry)
        = entries.map (fun entry => entry) :=
          List.map_congr_left fun entry hentry => if_neg (hentries entry hentry)
      _ = entries := List.map_id' entries
  unfold State.resume
  rw [hsplit, List.map_append, List.map_cons, if_pos rfl,
    hsame left fun entry hentry => hother entry (List.mem_append_left _ hentry),
    hsame right fun entry hentry => hother entry (List.mem_append_right _ hentry)]

theorem sessions_close {left right : List (ℕ × Session Store Row Write Answer Call)}
    (hsplit : state.sessions = left ++ (id, session) :: right)
    (hother : ∀ entry ∈ left ++ right, entry.1 ≠ id) :
    (state.close id).sessions = left ++ right := by
  have hkept : (left ++ right).filter (fun entry => entry.1 ≠ id) = left ++ right :=
    List.filter_eq_self.mpr fun entry hentry => by simpa using hother entry hentry
  unfold State.close
  rw [hsplit, List.filter_append, List.filter_cons_of_neg (by simp), ← List.filter_append]
  exact hkept

omit [DecidablePred Wins] [DecidablePred mine] in
theorem ids_resume (state : State Store Row Write Answer Call) (store : Store) (id : ℕ)
    (session : Session Store Row Write Answer Call) :
    (State.resume { state with store := store } id session).sessions.map Prod.fst =
      state.sessions.map Prod.fst := by
  unfold State.resume
  rw [List.map_map]
  refine List.map_congr_left fun entry _ => ?_
  by_cases hid : entry.1 = id
  · simp [hid]
  · simp [hid]

/-- The count follows the one session that has continued. -/
theorem winners_resume (hnodup : (state.sessions.map Prod.fst).Nodup)
    (hsession : state.session? id = some session) (store : Store) :
    (State.resume { state with store := store } id next).winners engine Has Wins mine +
        (session.hasEarned engine Has Wins mine).toNat =
      state.winners engine Has Wins mine + (next.hasEarned engine Has Wins mine).toNat := by
  obtain ⟨left, right, hsplit, hother⟩ := exists_split hnodup hsession
  have hgiven : (State.resume { state with store := store } id next).given Wins mine =
      state.given Wins mine := rfl
  unfold State.winners
  rw [hgiven, sessions_resume hsplit hother store, hsplit]
  simp only [List.countP_append, List.countP_cons, Bool.toNat, Bool.cond_eq_ite]
  omega

theorem winners_close {answer : Answer} (hnodup : (state.sessions.map Prod.fst).Nodup)
    (hsession : state.session? id = some session) (hrest : session.rest = .ends answer) :
    State.winners engine Has Wins mine
        { state.close id with answered := (session.call, answer) :: state.answered } =
      state.winners engine Has Wins mine := by
  obtain ⟨left, right, hsplit, hother⟩ := exists_split hnodup hsession
  have hearned : session.hasEarned engine Has Wins mine = true ↔
      mine session.call ∧ Wins answer := by
    simp [Session.hasEarned, hrest, Earns]
  unfold State.winners State.given
  simp only [sessions_close hsplit hother, hsplit, List.countP_append, List.countP_cons,
    hearned, decide_eq_true_eq]
  omega

theorem OneWinner.of_le {next : State Store Row Write Answer Call}
    (hone : OneWinner engine Has Wins mine state) (hnodup : (next.sessions.map Prod.fst).Nodup)
    (hle : next.winners engine Has Wins mine ≤ state.winners engine Has Wins mine)
    (hkeeps : Has state.store → Has next.store) : OneWinner engine Has Wins mine next where
  nodup := hnodup
  le_one := hle.trans hone.le_one
  has := fun hwinner => hkeeps (hone.has (hwinner.trans_le hle))

/-- A session that continues without having earned more. -/
theorem OneWinner.resume (hone : OneWinner engine Has Wins mine state)
    (hsession : state.session? id = some session) (store : Store)
    (hkeeps : Has state.store → Has store) (hearned : next.hasEarned engine Has Wins mine = true →
      session.hasEarned engine Has Wins mine = true) :
    OneWinner engine Has Wins mine (State.resume { state with store := store } id next) := by
  have hcount : (State.resume { state with store := store } id next).winners engine Has Wins
        mine + (session.hasEarned engine Has Wins mine).toNat =
      state.winners engine Has Wins mine + (next.hasEarned engine Has Wins mine).toNat :=
    winners_resume hone.nodup hsession store
  have hle : (next.hasEarned engine Has Wins mine).toNat ≤
      (session.hasEarned engine Has Wins mine).toNat := by
    cases hnext : next.hasEarned engine Has Wins mine
    · exact Nat.zero_le _
    · rw [hearned hnext]
  refine hone.of_le ?_ (by omega) hkeeps
  rw [ids_resume]
  exact hone.nodup

/-- Where the answer has been earned, no commit earns it again. -/
theorem OneWinner.commit (hkeeps : ∀ store write after, engine.apply store write = some after →
      Has store → Has after) (hone : OneWinner engine Has Wins mine state)
    (hsession : state.session? id = some session) {write : Write}
    {continuation : Bool → Transaction Store Row Write Answer}
    (hrest : session.rest = .commits write continuation) :
    OneWinner engine Has Wins mine
      (State.resume { state with store := (engine.apply state.store write).getD state.store } id
        { session with
          held := [], rest := continuation (engine.apply state.store write).isSome }) := by
  cases haccepted : engine.apply state.store write with
  | none =>
      refine hone.resume hsession _ (fun hhas => hhas) fun hearned => ?_
      simp only [Session.hasEarned, hrest, Earns, decide_eq_true_eq] at hearned ⊢
      exact ⟨hearned.1, fun hcommit => hearned.2 hcommit.1⟩
  | some after =>
      by_cases hfirst : session.hasEarned engine Has Wins mine = false ∧
          ({ session with held := [], rest := continuation true } :
            Session Store Row Write Answer Call).hasEarned engine Has Wins mine = true
      · have hnew : ¬Has state.store ∧ Has after := by
          simp only [Session.hasEarned, hrest, decide_eq_true_eq, decide_eq_false_iff_not,
            not_and, not_not] at hfirst
          obtain ⟨hbefore, hmine, hearned⟩ := hfirst
          rcases (hbefore hmine).2 with hlater | hfresh
          · exact absurd hlater hearned
          · exact hfresh state.store after haccepted
        have hzero : state.winners engine Has Wins mine = 0 :=
          Nat.eq_zero_of_not_pos fun hwinner => hnew.1 (hone.has hwinner)
        have hcount : State.winners engine Has Wins mine
              (State.resume { state with store := after } id
                { session with held := [], rest := continuation true }) +
              (session.hasEarned engine Has Wins mine).toNat =
            state.winners engine Has Wins mine + Bool.toNat _ :=
          winners_resume hone.nodup hsession after
        rw [hfirst.1, hfirst.2, hzero] at hcount
        refine ⟨?_, Nat.le_of_eq hcount, fun _ => hnew.2⟩
        rw [Option.getD_some, Option.isSome_some, ids_resume]
        exact hone.nodup
      · refine hone.resume hsession _ (hkeeps _ _ _ haccepted) fun hearned => ?_
        exact Bool.eq_true_of_not_eq_false fun hnot => hfirst ⟨hnot, hearned⟩

variable [DecidableEq Row] {program : Call → Transaction Store Row Write Answer}

theorem OneWinner.step (hkeeps : ∀ store write after, engine.apply store write = some after →
      Has store → Has after) (hearns : ∀ call, mine call → Earns engine Has Wins (program call))
    {next : State Store Row Write Answer Call} {label : Label Call}
    (hone : OneWinner engine Has Wins mine state)
    (hstep : Sessions.step engine program state label next) :
    OneWinner engine Has Wins mine next := by
  cases label with
  | begins id call =>
      simp only [Sessions.step, ofPartial, Sessions.apply] at hstep
      split at hstep
      · cases hstep
      · rename_i hfresh
        cases hstep
        have hnew : id ∉ state.sessions.map Prod.fst := by
          simpa [State.session?, List.find?_eq_none] using hfresh
        have hnone : Session.hasEarned engine Has Wins mine
            { call := call, held := [], rest := program call } = false := by
          simpa [Session.hasEarned] using hearns call
        refine hone.of_le (List.nodup_cons.mpr ⟨hnew, hone.nodup⟩) (le_of_eq ?_) fun hhas => hhas
        unfold State.winners
        rw [List.countP_cons_of_neg (by simp [hnone])]
        rfl
  | breaksOff id =>
      cases hstep
      have hsub : (state.close id).sessions.Sublist state.sessions := List.filter_sublist
      exact hone.of_le (hone.nodup.sublist (hsub.map _))
        (Nat.add_le_add_right hsub.countP_le _) fun hhas => hhas
  | advances id =>
      obtain ⟨session, hsession, hadvance⟩ := Option.bind_eq_some_iff.mp hstep
      unfold advance at hadvance
      cases hrest : session.rest with
      | ends answer =>
          simp only [hrest] at hadvance
          cases hadvance
          have hsub : (state.close id).sessions.Sublist state.sessions := List.filter_sublist
          exact hone.of_le (hone.nodup.sublist (hsub.map _))
            (winners_close hone.nodup hsession hrest).le fun hhas => hhas
      | reads continuation =>
          simp only [hrest] at hadvance
          cases hadvance
          refine hone.resume hsession state.store (fun hhas => hhas) fun hearned => ?_
          simp only [Session.hasEarned, hrest, Earns, decide_eq_true_eq] at hearned ⊢
          exact ⟨hearned.1, fun hall => hearned.2 (hall state.store)⟩
      | locks row continuation =>
          simp only [hrest] at hadvance
          split at hadvance
          · cases hadvance
          · cases hadvance
            refine hone.resume hsession state.store (fun hhas => hhas) fun hearned => ?_
            simp only [Session.hasEarned, hrest, Earns, decide_eq_true_eq] at hearned ⊢
            exact ⟨hearned.1, fun hall => hearned.2 (hall state.store)⟩
      | commits write continuation =>
          simp only [hrest] at hadvance
          split at hadvance
          · cases hadvance
          · cases hadvance
            exact hone.commit hkeeps hsession hrest

theorem given_le_one (Has : Store → Prop)
    (hkeeps : ∀ store write after, engine.apply store write = some after →
      Has store → Has after)
    (hearns : ∀ call, mine call → Earns engine Has Wins (program call))
    {start final : State Store Row Write Answer Call} {labels : List (Label Call)}
    (hrun : Run (Sessions.step engine program) start labels final)
    (hclosed : start.sessions = []) (hunanswered : start.given Wins mine = 0) :
    final.given Wins mine ≤ 1 := by
  have hstart : OneWinner engine Has Wins mine start := by
    have hzero : start.winners engine Has Wins mine = 0 := by
      simp [State.winners, hclosed, hunanswered]
    exact ⟨by simp [hclosed], by omega, by omega⟩
  have hfinal := hrun.invariant (OneWinner engine Has Wins mine)
    (fun _ _ _ hone hstep => hone.step hkeeps hearns hstep) hstart
  exact (Nat.le_add_left _ _).trans hfinal.le_one

end Once

end XianyuAdmin.Sessions
