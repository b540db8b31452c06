import XianyuAdmin.Cookies.RenewalManager

/-!
# Two strikes before a login is demanded

A renewal run demands a login when the platform refuses the cookie and the run was started
for a reported failure, or the account showed a suspected expiry before it.  Both are
remembered from before the run.  If no validation, renewal or login succeeded since the
failure they tell of, it is the first of two strikes; if one did, a single failure demands
the login.
-/

namespace XianyuAdmin.Cookies

open Transition

/-- A confirmed expiry is recorded only if no success came after the failure that the run
was started for, or after the one that the account showed before. -/
def inTurn (manager : RenewalManager) : ManagerStep → Prop
  | .fails _ _ =>
      ∀ run trigger error observed,
        manager.run = some (run, .raised trigger error observed) →
          isConfirmed run.previous trigger error = true →
            (trigger = some .authRecovery ∧ run.strike = some manager.tally.successes) ∨
              (run.previous = some .suspectedExpired ∧
                run.previousStrike = some manager.tally.successes)
  | .interfere _ | .calls _ | .reports _ | .startsKeepalive | .readsStatus _ | .decides _
  | .locks _ | .readsCurrent _ | .begins _ _ _ | .spawns _ | .readsCookie _ _ | .probes _ _
  | .records _ _ _ | .leaves _ | .runReadsAccount | .runReadsStatus | .raises _
  | .persists _ _ _ _ | .finishes _ _ _ | .runEnds | .restarts => True

variable {manager next : RenewalManager}

namespace Tally

/-- So many failures are counted, if no success came since there were `since` of them. -/
def Counts (tally : Tally) (count since : ℕ) : Prop :=
  since ≤ tally.successes ∧ (since = tally.successes → count ≤ tally.strikes)

def Later (tally later : Tally) : Prop :=
  ∀ count since, tally.Counts count since → later.Counts count since

variable {tally : Tally} {count since : ℕ}

theorem later_strike (tally : Tally) : tally.Later tally.strike :=
  fun _ _ h => ⟨h.1, fun hsince => (h.2 hsince).trans (Nat.le_succ _)⟩

theorem Counts.succeed (h : tally.Counts count since) (count' : ℕ) :
    tally.succeed.Counts count' since := by
  have hlt : since < tally.succeed.successes := Nat.lt_succ_of_le h.1
  exact ⟨hlt.le, fun hsince => absurd hsince hlt.ne⟩

theorem later_succeed (tally : Tally) : tally.Later tally.succeed :=
  fun count _ h => h.succeed count

/-- Another failure is counted with the one before it. -/
theorem Counts.strike (h : tally.Counts count since) : tally.strike.Counts (count + 1) since :=
  ⟨h.1, fun hsince => Nat.succ_le_succ (h.2 hsince)⟩

/-- A failure counts when it happens. -/
theorem counts_strike (tally : Tally) : tally.strike.Counts 1 tally.successes :=
  ⟨le_rfl, fun _ => Nat.succ_le_succ (Nat.zero_le _)⟩

end Tally

/-- When the failures happened that a coroutine remembers. -/
def Stage.evidence : Stage → List ℕ
  | .reported _ strike | .statusRead _ strike _ => [strike]
  | .triggers call | .hasLock call => call.strike.toList
  | .currentRead call _ previousStrike | .begun call _ previousStrike =>
      call.strike.toList ++ previousStrike.toList
  | .reads _ | .probing _ _ | .probed _ _ => []

def RenewalRun.evidence (run : RenewalRun) : List ℕ :=
  run.strike.toList ++ run.previousStrike.toList

structure Counted (manager : RenewalManager) : Prop where
  coroutines : ∀ coroutine ∈ manager.coroutines, ∀ since ∈ coroutine.stage.evidence,
    manager.tally.Counts 1 since
  observed : ∀ since ∈ manager.observed, manager.tally.Counts 1 since
  run : ∀ run stage, manager.run = some (run, stage) → ∀ since ∈ run.evidence,
    manager.tally.Counts 1 since
  raised : ∀ run trigger error observed,
    manager.run = some (run, .raised trigger error observed) → error.isStrike = true →
      manager.tally.Counts 1 observed ∧ ∀ since ∈ run.evidence, manager.tally.Counts 2 since

namespace Counted

theorem setCoroutines (h : Counted manager) {coroutines : List Coroutine}
    (hcoroutines : ∀ coroutine ∈ coroutines, coroutine ∈ manager.coroutines ∨
      ∀ since ∈ coroutine.stage.evidence, manager.tally.Counts 1 since) :
    Counted { manager with coroutines := coroutines } :=
  { h with coroutines := fun coroutine hmem =>
      (hcoroutines coroutine hmem).elim (h.coroutines coroutine) id }

theorem append (h : Counted manager) {coroutine : Coroutine}
    (hstage : ∀ since ∈ coroutine.stage.evidence, manager.tally.Counts 1 since) :
    Counted (manager.append coroutine) :=
  h.setCoroutines fun _ hother => (List.mem_append.mp hother).imp_right fun hnew => by
    rw [List.mem_singleton.mp hnew]
    exact hstage

theorem goOn (h : Counted manager) {index : ℕ} {coroutine : Coroutine}
    (hstage : ∀ since ∈ coroutine.stage.evidence, manager.tally.Counts 1 since) :
    Counted (manager.goOn index coroutine) :=
  h.setCoroutines fun _ hother => (List.mem_or_eq_of_mem_set hother).imp_right fun hnew => by
    rw [hnew]
    exact hstage

theorem leave (h : Counted manager) (index : ℕ) : Counted (manager.leave index) :=
  h.setCoroutines fun _ hother => .inl (List.mem_of_mem_eraseIdx hother)

/-- The coroutines remember what they remembered. -/
theorem later (h : Counted manager) {account : CookieAccount} {tally : Tally}
    (hlater : manager.tally.Later tally) :
    Counted { manager with account := account, tally := tally } where
  coroutines := fun coroutine hmem since hsince =>
    hlater 1 since (h.coroutines coroutine hmem since hsince)
  observed := fun since hsince => hlater 1 since (h.observed since hsince)
  run := fun run stage heq since hsince => hlater 1 since (h.run run stage heq since hsince)
  raised := fun run trigger error observed heq hstrike =>
    (h.raised run trigger error observed heq hstrike).imp (hlater 1 observed)
      fun hevidence since hsince => hlater 2 since (hevidence since hsince)

theorem stage (h : Counted manager) {index : ℕ} {keepalive : Bool} {stage : Stage}
    (hcoroutine : manager.coroutines[index]? = some ⟨keepalive, stage⟩) :
    ∀ since ∈ stage.evidence, manager.tally.Counts 1 since :=
  h.coroutines _ (List.mem_of_getElem? hcoroutine)

theorem observe (h : Counted manager) {observed : Option ℕ}
    (hobserved : ∀ since ∈ observed, manager.tally.Counts 1 since) :
    Counted (manager.observe observed) :=
  { h with observed := hobserved }

theorem strike (h : Counted manager) : Counted manager.strike :=
  h.later (manager.tally.later_strike)

theorem store (h : Counted manager) (account : CookieAccount) (succeeds : Bool) :
    Counted (manager.store account succeeds) := by
  cases succeeds with
  | true => exact h.later manager.tally.later_succeed
  | false => exact h.later fun _ _ => id

theorem setRun (h : Counted manager) {run : RenewalRun} {stage : RunStage}
    (hrun : ∀ since ∈ run.evidence, manager.tally.Counts 1 since)
    (hstage : ∀ trigger error observed, stage = .raised trigger error observed →
      error.isStrike = false) :
    Counted (manager.setRun run stage) :=
  { h with
    run := fun run' stage' heq => by
      cases heq
      exact hrun
    raised := fun run' trigger error observed heq hstrike => by
      cases heq
      rw [hstage trigger error observed rfl] at hstrike
      cases hstrike }

theorem storeRun (h : Counted manager) {run : RenewalRun} {stage before : RunStage}
    (hrun : manager.run = some (run, before)) (account : CookieAccount) (succeeds : Bool)
    (hstage : ∀ trigger error observed, stage ≠ .raised trigger error observed) :
    Counted ((manager.store account succeeds).setRun run stage) := by
  have hstored := h.store account succeeds
  refine hstored.setRun (hstored.run run before hrun) ?_
  intro trigger error observed heq
  exact absurd heq (hstage trigger error observed)

theorem endRun (h : Counted manager) : Counted { manager with run := none } :=
  { h with
    run := fun _ _ heq => by cases heq
    raised := fun _ _ _ _ heq => by cases heq }

theorem raise (h : Counted manager) {run : RenewalRun} {stage : RunStage}
    (hrun : manager.run = some (run, stage)) (trigger : Option RenewalTrigger)
    (error : RunError) :
    Counted (manager.strike.setRun run (.raised trigger error manager.tally.successes)) :=
  { h.strike with
    run := fun run' stage' heq => by
      cases heq
      exact h.strike.run run stage hrun
    raised := fun run' trigger' error' observed heq _ => by
      cases heq
      exact ⟨manager.tally.counts_strike, fun since hsince =>
        (h.run run stage hrun since hsince).strike⟩ }

theorem probeRaises (h : Counted manager) (index : ℕ) (keepalive again : Bool)
    (error : RunError) : Counted (manager.probeRaises index keepalive again error) := by
  unfold RenewalManager.probeRaises
  split
  · exact h.strike.goOn nofun
  · refine h.strike.goOn fun since hsince => ?_
    rw [List.mem_singleton.mp hsince]
    exact manager.tally.counts_strike
  · refine h.strike.goOn fun since hsince => ?_
    rw [List.mem_singleton.mp hsince]
    exact manager.tally.counts_strike
  · exact h.leave index

end Counted

/-- Nobody remembers a failure at the start. -/
theorem counted_start (account : CookieAccount) (cooldown : ℕ) :
    Counted { account := account, manualCooldown := cooldown } where
  coroutines := fun _ hmem => absurd hmem List.not_mem_nil
  observed := fun _ hmem => by cases hmem
  run := fun _ _ heq => by cases heq
  raised := fun _ _ _ _ heq => by cases heq

theorem counted_step {step : ManagerStep} (h : Counted manager)
    (hstep : managerStep manager step next) : Counted next := by
  cases step with
  | interfere call =>
      cases hstep
      exact h.store _ _
  | calls trigger =>
      cases hstep
      exact h.append (List.forall_mem_nil _)
  | reports source =>
      simp only [managerStep, ofPartial, RenewalManager.apply] at hstep
      split at hstep
      · cases hstep
        exact h
      · cases hstep
        refine h.strike.append fun since hsince => ?_
        rw [List.mem_singleton.mp hsince]
        exact manager.tally.counts_strike
  | startsKeepalive =>
      simp only [managerStep, ofPartial, RenewalManager.apply] at hstep
      split at hstep
      · cases hstep
        exact h.append (List.forall_mem_nil _)
      · cases hstep
  | readsStatus index =>
      simp only [managerStep, ofPartial, RenewalManager.apply] at hstep
      split at hstep
      · rename_i keepalive source strike hcoroutine
        cases hstep
        have hstage := h.stage hcoroutine
        exact h.goOn hstage
      · cases hstep
  | decides index =>
      simp only [managerStep, ofPartial, RenewalManager.apply] at hstep
      split at hstep
      · rename_i keepalive source strike required hcoroutine
        cases hstep
        have hstage := h.stage hcoroutine
        split
        · exact h.leave index
        · exact h.goOn hstage
      · cases hstep
  | locks index =>
      simp only [managerStep, ofPartial, RenewalManager.apply] at hstep
      split at hstep
      · rename_i keepalive call hcoroutine hlocked
        cases hstep
        have hstage := h.stage hcoroutine
        split
        · exact h.leave index
        · exact h.goOn hstage
      · cases hstep
  | readsCurrent index =>
      simp only [managerStep, ofPartial, RenewalManager.apply] at hstep
      split at hstep
      · rename_i keepalive call hcoroutine
        cases hstep
        refine h.goOn fun since hsince => (List.mem_append.mp hsince).elim ?_ ?_
        · exact h.stage hcoroutine since
        · exact fun hobserved => h.observed since (Option.mem_toList.mp hobserved)
      · cases hstep
  | begins index attemptId now =>
      simp only [managerStep, ofPartial, RenewalManager.apply] at hstep
      split at hstep
      · rename_i keepalive call current previousStrike hcoroutine
        split at hstep
        · cases hstep
          exact h.leave index
        · obtain ⟨account, -, rfl⟩ := Option.map_eq_some_iff.mp hstep
          have hstage := h.stage hcoroutine
          exact (h.store account false).goOn hstage
      · cases hstep
  | spawns index =>
      simp only [managerStep, ofPartial, RenewalManager.apply] at hstep
      split at hstep
      · rename_i keepalive call previous previousStrike hcoroutine
        cases hstep
        exact (h.leave index).setRun (h.stage hcoroutine) fun _ _ _ heq => by cases heq
      · cases hstep
  | readsCookie index enabled =>
      simp only [managerStep, ofPartial, RenewalManager.apply] at hstep
      split at hstep
      · cases hstep
        split
        · exact h.goOn (List.forall_mem_nil _)
        · exact h.leave index
      · cases hstep
  | probes index result =>
      simp only [managerStep, ofPartial, RenewalManager.apply] at hstep
      split at hstep
      · cases hstep
        exact h.goOn (List.forall_mem_nil _)
      · cases hstep
        exact h.probeRaises _ _ _ _
      · cases hstep
  | records index message now =>
      simp only [managerStep, ofPartial, RenewalManager.apply] at hstep
      split at hstep
      · cases hstep
        exact (h.store _ _).leave index
      · cases hstep
  | leaves index =>
      cases hstep
      exact h.leave index
  | runReadsAccount =>
      simp only [managerStep, ofPartial, RenewalManager.apply] at hstep
      split at hstep
      · rename_i run hrun
        cases hstep
        exact h.setRun (h.run run _ hrun) fun _ _ _ heq => by cases heq
      · cases hstep
  | runReadsStatus =>
      simp only [managerStep, ofPartial, RenewalManager.apply] at hstep
      split at hstep
      · rename_i run cookie hrun
        cases hstep
        exact h.setRun (h.run run _ hrun) fun _ _ _ heq => by cases heq
      · cases hstep
  | raises error =>
      simp only [managerStep, ofPartial, RenewalManager.apply] at hstep
      split at hstep
      · rename_i run cookie trigger hrun
        cases hstep
        split
        · exact h.raise hrun trigger error
        · rename_i hstrike
          refine h.setRun (h.run run _ hrun) fun _ _ _ heq => ?_
          cases heq
          exact Bool.eq_false_iff.mpr hstrike
      · rename_i run trigger hrun
        split at hstep
        · cases hstep
          refine h.setRun (h.run run _ hrun) fun _ _ _ heq => ?_
          cases heq
          rfl
        · cases hstep
      · cases hstep
  | persists newCookie names nextAttemptAt now =>
      simp only [managerStep, ofPartial, RenewalManager.apply] at hstep
      split at hstep
      · rename_i run cookie trigger hrun
        cases hstep
        refine h.storeRun hrun _ _ fun _ _ _ heq => ?_
        split at heq <;> cases heq
      · cases hstep
  | finishes message runtimeApplied now =>
      simp only [managerStep, ofPartial, RenewalManager.apply] at hstep
      split at hstep
      · rename_i run trigger hrun
        cases hstep
        exact h.storeRun hrun _ _ fun _ _ _ heq => by cases heq
      · cases hstep
  | fails nextAttemptAt now =>
      simp only [managerStep, ofPartial, RenewalManager.apply] at hstep
      split at hstep
      · rename_i run trigger error observed hrun
        cases hstep
        refine Counted.observe ?_ fun since hsince => ?_
        · exact h.storeRun hrun _ _ fun _ _ _ heq => by cases heq
        · obtain ⟨hstrike, rfl⟩ : error.isStrike = true ∧ observed = since := by
            simpa using hsince
          exact (h.raised run trigger error observed hrun hstrike).1
      · cases hstep
  | runEnds =>
      cases hstep
      exact h.endRun
  | restarts =>
      cases hstep
      exact h.endRun.setCoroutines fun _ hmem => absurd hmem List.not_mem_nil

section Demand

variable {account : CookieAccount}

theorem not_required_begin {trigger : RenewalTrigger} {attemptId : AttemptId} {now : ℕ}
    {begun : CookieAccount} (hbegin : beginCookieRenewal account trigger attemptId now = some begun) :
    manualActionRequired begun = false := by
  obtain ⟨attempts, -, hbegun⟩ := Option.bind_eq_some_iff.mp hbegin
  rw [← Option.some.inj hbegun]
  simp [manualActionRequired]

theorem not_required_persist (expectedCookie newCookie : String) (names : List String)
    (nextAttemptAt now : ℕ) :
    manualActionRequired
      (persistCookieRenewal account expectedCookie newCookie names nextAttemptAt now).1 =
        false := by
  unfold persistCookieRenewal
  split <;> simp [manualActionRequired]

theorem not_required_finish (message : String) (runtimeApplied : Option Bool) (now : ℕ) :
    manualActionRequired (finishCookieRenewal account message runtimeApplied now) = false := by
  unfold finishCookieRenewal
  split
  · simp [manualActionRequired, *]
  · simp [manualActionRequired]

theorem required_of_fail {failure : RenewalFailure} {now : ℕ}
    (hrequired : manualActionRequired (failCookieRenewal account failure now) = true) :
    failure.errorKind = .authExpired := by
  simp only [manualActionRequired, failCookieRenewal, Option.any_some, Bool.and_eq_true,
    decide_eq_true_eq, Option.some.injEq] at hrequired
  exact hrequired.1

/-- A validation demands no login. -/
theorem required_of_validation {expectedCookie newCookie source message : String} {now : ℕ}
    (hrequired : manualActionRequired
      (recordCookieValidation account expectedCookie newCookie source message now).1 = true) :
    manualActionRequired account = true := by
  unfold recordCookieValidation at hrequired
  split at hrequired
  · exact hrequired
  · simp [manualActionRequired] at hrequired

/-- Neither does another writer. -/
theorem required_of_interfere {call : Interference}
    (hrequired : manualActionRequired (interfere account call).1 = true) :
    manualActionRequired account = true := by
  cases call with
  | resetAfterLogin nextAttemptAt source now =>
      simp [interfere, resetCookieRenewalAfterLogin, manualActionRequired] at hrequired
  | recordValidation expectedCookie newCookie source message now =>
      exact required_of_validation hrequired
  | updateCookie cookie cookieSource now =>
      cases cookie with
      | none => exact hrequired
      | some cookie =>
          by_cases hsame : cookie = account.cookie
          · simpa [interfere, updateAccountCookie, hsame] using hrequired
          · cases hrenewal : account.renewal with
            | none =>
                simp [interfere, updateAccountCookie, manualActionRequired, hsame, hrenewal]
                  at hrequired
            | some row =>
                by_cases hopen : row.state.isOpen = true
                · simpa [interfere, updateAccountCookie, manualActionRequired, hsame, hrenewal,
                    hopen] using hrequired
                · simp [interfere, updateAccountCookie, manualActionRequired, hsame, hrenewal,
                    hopen] at hrequired
  | compareAndSet expectedCookie newCookie source now =>
      simp only [interfere, compareAndSetAccountCookie] at hrequired
      split at hrequired <;> exact hrequired
  | reschedule nextAttemptAt now =>
      cases hrenewal : account.renewal with
      | none =>
          simp [interfere, rescheduleCookieRenewal, manualActionRequired, hrenewal] at hrequired
      | some row =>
          simpa [interfere, rescheduleCookieRenewal, manualActionRequired, hrenewal]
            using hrequired

end Demand

theorem probeRaises_account (index : ℕ) (keepalive again : Bool) (error : RunError) :
    (manager.probeRaises index keepalive again error).account = manager.account := by
  unfold RenewalManager.probeRaises
  split <;> rfl

theorem confirmed_of_demand {step : ManagerStep} (hstep : managerStep manager step next)
    (hbefore : manualActionRequired manager.account = false)
    (hafter : manualActionRequired next.account = true) :
    ∃ nextAttemptAt now run trigger error observed, step = .fails nextAttemptAt now ∧
      manager.run = some (run, .raised trigger error observed) ∧
        isConfirmed run.previous trigger error = true ∧ next.tally = manager.tally := by
  have hsame : next.account ≠ manager.account := by
    intro heq
    rw [heq, hbefore] at hafter
    cases hafter
  cases step with
  | interfere call =>
      cases hstep
      rw [required_of_interfere hafter] at hbefore
      cases hbefore
  | calls trigger =>
      cases hstep
      exact absurd rfl hsame
  | reports source =>
      simp only [managerStep, ofPartial, RenewalManager.apply] at hstep
      split at hstep <;> cases hstep <;> exact absurd rfl hsame
  | startsKeepalive =>
      simp only [managerStep, ofPartial, RenewalManager.apply] at hstep
      split at hstep <;> cases hstep
      exact absurd rfl hsame
  | readsStatus index =>
      simp only [managerStep, ofPartial, RenewalManager.apply] at hstep
      split at hstep <;> cases hstep
      exact absurd rfl hsame
  | decides index =>
      simp only [managerStep, ofPartial, RenewalManager.apply] at hstep
      split at hstep <;> cases hstep
      refine absurd ?_ hsame
      split <;> rfl
  | locks index =>
      simp only [managerStep, ofPartial, RenewalManager.apply] at hstep
      split at hstep <;> cases hstep
      refine absurd ?_ hsame
      split <;> rfl
  | readsCurrent index =>
      simp only [managerStep, ofPartial, RenewalManager.apply] at hstep
      split at hstep <;> cases hstep
      exact absurd rfl hsame
  | begins index attemptId now =>
      simp only [managerStep, ofPartial, RenewalManager.apply] at hstep
      split at hstep
      · split at hstep
        · cases hstep
          exact absurd rfl hsame
        · obtain ⟨account, hbegin, rfl⟩ := Option.map_eq_some_iff.mp hstep
          have hnot : manualActionRequired account = false := not_required_begin hbegin
          exact absurd hafter (by simp [RenewalManager.goOn, RenewalManager.store, hnot])
      · cases hstep
  | spawns index =>
      simp only [managerStep, ofPartial, RenewalManager.apply] at hstep
      split at hstep <;> cases hstep
      exact absurd rfl hsame
  | readsCookie index enabled =>
      simp only [managerStep, ofPartial, RenewalManager.apply] at hstep
      split at hstep <;> cases hstep
      refine absurd ?_ hsame
      split <;> rfl
  | probes index result =>
      simp only [managerStep, ofPartial, RenewalManager.apply] at hstep
      split at hstep <;> cases hstep
      · exact absurd rfl hsame
      · exact absurd (probeRaises_account _ _ _ _) hsame
  | records index message now =>
      simp only [managerStep, ofPartial, RenewalManager.apply] at hstep
      split at hstep <;> cases hstep
      rw [required_of_validation hafter] at hbefore
      cases hbefore
  | leaves index =>
      cases hstep
      exact absurd rfl hsame
  | runReadsAccount =>
      simp only [managerStep, ofPartial, RenewalManager.apply] at hstep
      split at hstep <;> cases hstep
      exact absurd rfl hsame
  | runReadsStatus =>
      simp only [managerStep, ofPartial, RenewalManager.apply] at hstep
      split at hstep <;> cases hstep
      exact absurd rfl hsame
  | raises error =>
      simp only [managerStep, ofPartial, RenewalManager.apply] at hstep
      split at hstep
      · cases hstep
        refine absurd ?_ hsame
        split <;> rfl
      · split at hstep <;> cases hstep
        exact absurd rfl hsame
      · cases hstep
  | persists newCookie names nextAttemptAt now =>
      simp only [managerStep, ofPartial, RenewalManager.apply] at hstep
      split at hstep <;> cases hstep
      have hnot := hafter.symm.trans (not_required_persist _ newCookie names nextAttemptAt now)
      cases hnot
  | finishes message runtimeApplied now =>
      simp only [managerStep, ofPartial, RenewalManager.apply] at hstep
      split at hstep <;> cases hstep
      have hnot := hafter.symm.trans (not_required_finish message runtimeApplied now)
      cases hnot
  | fails nextAttemptAt now =>
      simp only [managerStep, ofPartial, RenewalManager.apply] at hstep
      split at hstep
      · rename_i run trigger error observed hrun
        cases hstep
        have hkind := required_of_fail hafter
        have hconfirmed :=
          (failureOf_errorKind run.previous trigger error nextAttemptAt run.errorSource).mp hkind
        exact ⟨nextAttemptAt, now, run, trigger, error, observed, rfl, hrun, hconfirmed, rfl⟩
      · cases hstep
  | runEnds =>
      cases hstep
      exact absurd rfl hsame
  | restarts =>
      cases hstep
      exact absurd rfl hsame

theorem isStrike_of_confirmed {previous : Option ErrorKind} {trigger : Option RenewalTrigger}
    {error : RunError} (hconfirmed : isConfirmed previous trigger error = true) :
    error.isStrike = true := by
  unfold isConfirmed at hconfirmed
  split at hconfirmed
  · rfl
  · cases hconfirmed

/-- A login is demanded after two failures or more, in a run that confirms no expiry with a
failure from before a success. -/
theorem two_strikes_before_login {cookie : String} {cooldown : ℕ} {steps : List ManagerStep}
    {step : ManagerStep}
    (hrun : Run (restrict managerStep inTurn)
      { account := { cookie := cookie }, manualCooldown := cooldown } steps manager)
    (hstep : restrict managerStep inTurn manager step next)
    (hbefore : manualActionRequired manager.account = false)
    (hafter : manualActionRequired next.account = true) : 2 ≤ next.tally.strikes := by
  have hcounted : Counted manager := by
    refine hrun.invariant Counted (fun _ _ _ h hstep => counted_step h hstep.2) ?_
    exact counted_start _ cooldown
  obtain ⟨nextAttemptAt, now, run, trigger, error, observed, rfl, hat, hconfirmed, htally⟩ :=
    confirmed_of_demand hstep.2 hbefore hafter
  obtain ⟨-, htwice⟩ := hcounted.raised run trigger error observed hat
    (isStrike_of_confirmed hconfirmed)
  have hevidence : manager.tally.successes ∈ run.evidence := by
    unfold RenewalRun.evidence
    rcases hstep.1 run trigger error observed hat hconfirmed with ⟨-, hstrike⟩ | ⟨-, hprevious⟩
    · simp [hstrike]
    · simp [hprevious]
  rw [htally]
  exact (htwice _ hevidence).2 rfl

/-- A failure is reported, and the run that is to confirm it fails too. -/
theorem reported_failure_confirmed : ∃ manager next : RenewalManager,
    Run (restrict managerStep inTurn) { account := { cookie := "unb=1" }, manualCooldown := 0 }
      [.reports "product_sync", .readsStatus 0, .decides 0, .locks 0, .readsCurrent 0,
        .begins 0 ⟨"a1", by decide⟩ 1000, .spawns 0, .runReadsAccount, .runReadsStatus,
        .raises expired] manager ∧
      managerStep manager (.fails 9000 5000) next ∧
        manualActionRequired next.account = true ∧ 2 ≤ next.tally.strikes := by
  have hruns : ∃ manager next : RenewalManager,
      Run (restrict managerStep inTurn)
        { account := { cookie := "unb=1" }, manualCooldown := 0 }
        [.reports "product_sync", .readsStatus 0, .decides 0, .locks 0, .readsCurrent 0,
          .begins 0 ⟨"a1", by decide⟩ 1000, .spawns 0, .runReadsAccount, .runReadsStatus,
          .raises expired] manager ∧
        restrict managerStep inTurn manager (.fails 9000 5000) next ∧
          manualActionRequired manager.account = false ∧
            manualActionRequired next.account = true :=
    ⟨_, _, .cons ⟨trivial, rfl⟩ <| .cons ⟨trivial, rfl⟩ <| .cons ⟨trivial, rfl⟩ <|
      .cons ⟨trivial, rfl⟩ <| .cons ⟨trivial, rfl⟩ <| .cons ⟨trivial, rfl⟩ <|
      .cons ⟨trivial, rfl⟩ <| .cons ⟨trivial, rfl⟩ <| .cons ⟨trivial, rfl⟩ <|
      .cons ⟨trivial, rfl⟩ (.nil _),
      ⟨fun _ _ _ _ hat _ => by cases hat; exact .inl ⟨rfl, rfl⟩, rfl⟩, rfl, rfl⟩
  obtain ⟨manager, next, hrun, hstep, hbefore, hafter⟩ := hruns
  exact ⟨manager, next, hrun, hstep.2, hafter,
    two_strikes_before_login hrun hstep hbefore hafter⟩

/-- A validation succeeds while the run is asking the platform, and a single failure after
it demands a login. -/
theorem single_failure_demands_login :
    ¬ ∀ cookie cooldown steps step manager next,
      Run managerStep { account := { cookie := cookie }, manualCooldown := cooldown } steps
          manager → managerStep manager step next →
        manualActionRequired manager.account = false →
          manualActionRequired next.account = true → 2 ≤ next.tally.strikes := by
  intro hclaim
  have hstrikes := hclaim "unb=1" 0
    [.reports "product_sync", .readsStatus 0, .decides 0, .locks 0, .readsCurrent 0,
      .begins 0 ⟨"a1", by decide⟩ 1000, .spawns 0, .runReadsAccount, .runReadsStatus,
      .interfere (.recordValidation "unb=1" "unb=1" "im_verification" "Cookie 验证成功" 4000),
      .raises expired] (.fails 9000 5000) _ _ (run_ofPartial_iff.mpr rfl) rfl rfl rfl
  exact absurd hstrikes (by decide)

end XianyuAdmin.Cookies
