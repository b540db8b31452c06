import XianyuAdmin.Cookies.RenewalRecords

/-!
# Verdicts on a cookie that is no longer stored

A renewal run reads the cookie of the account, asks the platform about it and
records the answer.  Other writers may store another cookie in between, after a
login or a validation.  A successful renewal is stored only over the cookie it was
computed from; the function that records a failure does not know the cookie.
-/

namespace XianyuAdmin.Cookies

open XianyuAdmin.Transition

/-- What ends a run without success: a `CookieRenewalError`, or any other exception. -/
inductive RunError
  | renewal (kind : ErrorKind) (text : String)
  | unexpected
  deriving DecidableEq, Repr

/-- `confirmed_auth_expired` of `_execute`. -/
def isConfirmed (previous : Option ErrorKind) (trigger : Option RenewalTrigger) :
    RunError → Bool
  | .renewal .authExpired _ =>
      trigger = some .authRecovery || previous = some .suspectedExpired
  | _ => false

/-- The failure `_execute` records.  `nextAttemptAt` is what
`_next_keepalive_recheck` or `_next_failure_attempt` returns. -/
def failureOf (previous : Option ErrorKind) (trigger : Option RenewalTrigger)
    (error : RunError) (nextAttemptAt : ℕ) (errorSource : Option String) :
    RenewalFailure where
  message :=
    match error with
    | .renewal .authExpired text =>
        if isConfirmed previous trigger error then
          text ++ "；Web Cookie 多链路确认失效，请重新扫码登录"
        else text ++ "；Web Cookie 状态待复核，将在后台再次验证"
    | .renewal _ text => text
    | .unexpected => "Cookie 续期发生内部错误"
  nextAttemptAt := if isConfirmed previous trigger error then none else some nextAttemptAt
  errorKind :=
    match error with
    | .renewal .authExpired _ =>
        if isConfirmed previous trigger error then .authExpired else .suspectedExpired
    | .renewal kind _ => kind
    | .unexpected => .internalError
  phase := .renewing
  errorSource := errorSource

theorem failureOf_errorKind (previous : Option ErrorKind)
    (trigger : Option RenewalTrigger) (error : RunError) (nextAttemptAt : ℕ)
    (errorSource : Option String) :
    (failureOf previous trigger error nextAttemptAt errorSource).errorKind = .authExpired ↔
      isConfirmed previous trigger error = true := by
  cases error with
  | unexpected => simp [failureOf, isConfirmed]
  | renewal kind text =>
      cases kind with
      | authExpired =>
          by_cases hconfirmed :
              isConfirmed previous trigger (.renewal .authExpired text) = true
          · simp only [failureOf, hconfirmed, if_true]
          · simp only [failureOf, hconfirmed, Bool.false_eq_true, if_false]
            simp
      | _ => simp [failureOf, isConfirmed]

/-- Where `trigger` and `_execute` stand, with their local variables. -/
inductive Execution
  | idle
  | previousRead (previous : Option ErrorKind)
  | begun (previous : Option ErrorKind)
  | accountRead (previous : Option ErrorKind) (cookie : String)
  | statusRead (previous : Option ErrorKind) (cookie : String)
      (trigger : Option RenewalTrigger)
  | applying (previous : Option ErrorKind) (cookie : String)
      (trigger : Option RenewalTrigger)
  | ended
  deriving DecidableEq, Repr

/-- The run has its attempt. -/
def Execution.isUnderWay : Execution → Bool
  | .begun _ | .accountRead _ _ | .statusRead _ _ _ | .applying _ _ _ => true
  | .idle | .previousRead _ | .ended => false

structure RenewalSystem where
  account : CookieAccount
  execution : Execution := .idle
  verifiedSince : Bool := false

/-- The calls of other writers. -/
inductive Interference
  | resetAfterLogin (nextAttemptAt : ℕ) (source : String) (now : ℕ)
  | recordValidation (expectedCookie newCookie source message : String) (now : ℕ)
  | updateCookie (cookie : Option String) (cookieSource : String) (now : ℕ)
  | compareAndSet (expectedCookie newCookie source : String) (now : ℕ)
  | reschedule (nextAttemptAt now : ℕ)

/-- The account after a call of another writer, and whether it verified the cookie. -/
def interfere (account : CookieAccount) : Interference → CookieAccount × Bool
  | .resetAfterLogin nextAttemptAt source now =>
      (resetCookieRenewalAfterLogin account nextAttemptAt source now, true)
  | .recordValidation expectedCookie newCookie source message now =>
      recordCookieValidation account expectedCookie newCookie source message now
  | .updateCookie cookie cookieSource now =>
      (updateAccountCookie account cookie cookieSource now, false)
  | .compareAndSet expectedCookie newCookie source now =>
      (compareAndSetAccountCookie account expectedCookie newCookie source now, false)
  | .reschedule nextAttemptAt now =>
      (rescheduleCookieRenewal account nextAttemptAt now, false)

inductive RenewalStep
  | interfere (call : Interference)
  | readPrevious
  | beginRenewal (trigger : RenewalTrigger) (attemptId : AttemptId) (now : ℕ)
  | readAccount
  | readStatus
  | persist (newCookie : String) (names : List String) (nextAttemptAt now : ℕ)
  | finish (message : String) (runtimeApplied : Option Bool) (now : ℕ)
  | fail (error : RunError) (nextAttemptAt : ℕ) (errorSource : Option String) (now : ℕ)

/-- A failure is recorded: `_fail_cookie_renewal_sync` with what `_execute` passes. -/
def recordFailure (system : RenewalSystem) (previous : Option ErrorKind)
    (trigger : Option RenewalTrigger) (error : RunError) (nextAttemptAt : ℕ)
    (errorSource : Option String) (now : ℕ) : RenewalSystem :=
  { system with
    account :=
      failCookieRenewal system.account
        (failureOf previous trigger error nextAttemptAt errorSource) now
    execution := .ended }

/-- One step; `none` when the run does not stand there. -/
def advance (system : RenewalSystem) : RenewalStep → Option RenewalSystem
  | .interfere call =>
      let (account, verified) := interfere system.account call
      some
        { system with
          account := account
          verifiedSince := system.verifiedSince || verified }
  | .readPrevious =>
      match system.execution with
      | .idle =>
          some
            { system with
              execution :=
                .previousRead (system.account.renewal.bind CookieRenewal.lastErrorKind) }
      | _ => none
  | .beginRenewal trigger attemptId now =>
      match system.execution with
      | .previousRead previous =>
          (beginCookieRenewal system.account trigger attemptId now).map fun account =>
            { system with account := account, execution := .begun previous }
      | _ => none
  | .readAccount =>
      match system.execution with
      | .begun previous =>
          some
            { system with
              execution := .accountRead previous system.account.cookie
              verifiedSince := false }
      | _ => none
  | .readStatus =>
      match system.execution with
      | .accountRead previous cookie =>
          some
            { system with
              execution :=
                .statusRead previous cookie
                  (system.account.renewal.bind CookieRenewal.trigger) }
      | _ => none
  | .persist newCookie names nextAttemptAt now =>
      match system.execution with
      | .statusRead previous cookie trigger =>
          let (account, persisted) :=
            persistCookieRenewal system.account cookie newCookie names nextAttemptAt now
          some
            { system with
              account := account
              execution := if persisted then .applying previous cookie trigger else .ended }
      | _ => none
  | .finish message runtimeApplied now =>
      match system.execution with
      | .applying _ _ _ =>
          some
            { system with
              account := finishCookieRenewal system.account message runtimeApplied now
              execution := .ended }
      | _ => none
  | .fail error nextAttemptAt errorSource now =>
      match system.execution, error with
      | .statusRead previous _ trigger, error =>
          some (recordFailure system previous trigger error nextAttemptAt errorSource now)
      | .applying previous _ trigger, .unexpected =>
          some
            (recordFailure system previous trigger .unexpected nextAttemptAt errorSource now)
      | _, _ => none

def CookieAccount.outcome (account : CookieAccount) :
    Option (RenewalState × Option ErrorKind) :=
  account.renewal.map fun row => (row.state, row.lastErrorKind)

def RespectsCookie (cookie : String) (system next : RenewalSystem) : Prop :=
  system.account.cookie ≠ cookie →
    ¬ (manualActionRequired system.account = false ∧
        manualActionRequired next.account = true) ∧
      (system.verifiedSince = true → next.account.outcome = system.account.outcome)

/-- The local variables a failure is computed from. -/
def Execution.evidence : Execution →
    Option (Option ErrorKind × String × Option RenewalTrigger)
  | .statusRead previous cookie trigger | .applying previous cookie trigger =>
      some (previous, cookie, trigger)
  | _ => none

def NoErrorShown (system : RenewalSystem) : Prop :=
  system.execution.isUnderWay = true →
    ∃ row, system.account.renewal = some row ∧ row.lastErrorKind = none

theorem interfere_keeps_no_error {account : CookieAccount} {row : CookieRenewal}
    (hrow : account.renewal = some row) (hnone : row.lastErrorKind = none)
    (call : Interference) :
    ∃ next, (interfere account call).1.renewal = some next ∧ next.lastErrorKind = none := by
  cases call with
  | resetAfterLogin nextAttemptAt source now => exact ⟨_, rfl, rfl⟩
  | recordValidation expectedCookie newCookie source message now =>
      simp only [interfere, recordCookieValidation]
      split
      · exact ⟨row, hrow, hnone⟩
      · exact ⟨_, rfl, rfl⟩
  | updateCookie cookie cookieSource now =>
      simp only [interfere, updateAccountCookie]
      cases cookie with
      | none => exact ⟨row, hrow, hnone⟩
      | some cookie =>
          by_cases hsame : cookie = account.cookie
          · simp only [if_pos hsame]
            exact ⟨row, hrow, hnone⟩
          · simp only [if_neg hsame, hrow, Option.map_some]
            by_cases hopen : row.state.isOpen = true
            · rw [if_pos hopen]
              exact ⟨row, rfl, hnone⟩
            · rw [if_neg hopen]
              exact ⟨_, rfl, rfl⟩
  | compareAndSet expectedCookie newCookie source now =>
      simp only [interfere, compareAndSetAccountCookie]
      split
      · exact ⟨row, hrow, hnone⟩
      · exact ⟨row, hrow, hnone⟩
  | reschedule nextAttemptAt now =>
      simp only [interfere, rescheduleCookieRenewal, hrow]
      exact ⟨_, rfl, hnone⟩

theorem noErrorShown_of_advance {system next : RenewalSystem} {label : RenewalStep}
    (hshown : NoErrorShown system) (hstep : advance system label = some next) :
    NoErrorShown next := by
  intro hunderWay
  cases label with
  | interfere call =>
      rw [← Option.some.inj hstep] at hunderWay ⊢
      obtain ⟨row, hrow, hnone⟩ := hshown hunderWay
      exact interfere_keeps_no_error hrow hnone call
  | readPrevious =>
      simp only [advance] at hstep
      split at hstep
      · rw [← Option.some.inj hstep] at hunderWay
        cases hunderWay
      · cases hstep
  | beginRenewal trigger attemptId now =>
      simp only [advance] at hstep
      split at hstep
      · obtain ⟨account, hbegin, rfl⟩ := Option.map_eq_some_iff.mp hstep
        obtain ⟨attempts, -, haccount⟩ := Option.bind_eq_some_iff.mp hbegin
        rw [← Option.some.inj haccount]
        exact ⟨_, rfl, rfl⟩
      · cases hstep
  | readAccount =>
      simp only [advance] at hstep
      split at hstep
      next previous hexecution =>
        rw [← Option.some.inj hstep]
        exact hshown (by rw [hexecution]; rfl)
      · cases hstep
  | readStatus =>
      simp only [advance] at hstep
      split at hstep
      next previous cookie hexecution =>
        rw [← Option.some.inj hstep]
        exact hshown (by rw [hexecution]; rfl)
      · cases hstep
  | persist newCookie names nextAttemptAt now =>
      simp only [advance] at hstep
      split at hstep
      next previous cookie trigger hexecution =>
        rw [← Option.some.inj hstep] at hunderWay ⊢
        unfold persistCookieRenewal at hunderWay ⊢
        by_cases hcurrent : system.account.cookie = cookie
        · simp only [if_pos hcurrent]
          exact ⟨_, rfl, rfl⟩
        · simp only [if_neg hcurrent] at hunderWay
          cases hunderWay
      · cases hstep
  | finish message runtimeApplied now =>
      simp only [advance] at hstep
      split at hstep
      · rw [← Option.some.inj hstep] at hunderWay
        cases hunderWay
      · cases hstep
  | fail error nextAttemptAt errorSource now =>
      simp only [advance] at hstep
      split at hstep
      · rw [← Option.some.inj hstep] at hunderWay
        cases hunderWay
      · rw [← Option.some.inj hstep] at hunderWay
        cases hunderWay
      · cases hstep

theorem fail_cases {system next : RenewalSystem} {error : RunError} {nextAttemptAt now : ℕ}
    {errorSource : Option String} {previous : Option ErrorKind} {cookie : String}
    {trigger : Option RenewalTrigger}
    (hfail : advance system (.fail error nextAttemptAt errorSource now) = some next)
    (hevidence : system.execution.evidence = some (previous, cookie, trigger)) :
    system.execution.isUnderWay = true ∧
      next = recordFailure system previous trigger error nextAttemptAt errorSource now := by
  simp only [advance] at hfail
  split at hfail
  next stands hexecution =>
    rw [hexecution] at hevidence
    obtain ⟨rfl, rfl, rfl⟩ : _ ∧ _ ∧ _ := by simpa [Execution.evidence] using hevidence
    exact ⟨by rw [hexecution]; rfl, (Option.some.inj hfail).symm⟩
  next stands hexecution =>
    rw [hexecution] at hevidence
    obtain ⟨rfl, rfl, rfl⟩ : _ ∧ _ ∧ _ := by simpa [Execution.evidence] using hevidence
    exact ⟨by rw [hexecution]; rfl, (Option.some.inj hfail).symm⟩
  · cases hfail

def VerifiedBy (account : CookieAccount) (now : ℕ) : Prop :=
  ∀ verifiedAt ∈ account.renewal.bind CookieRenewal.lastVerifiedAt, verifiedAt ≤ now

section Failure

variable {system : RenewalSystem} {previous : Option ErrorKind}
  {trigger : Option RenewalTrigger} {error : RunError} {nextAttemptAt now : ℕ}
  {errorSource : Option String}

/-- A login is demanded after a confirmed expiry that is not older than the last
verification. -/
theorem manualActionRequired_recordFailure :
    manualActionRequired
        (recordFailure system previous trigger error nextAttemptAt errorSource now).account =
      true ↔ isConfirmed previous trigger error = true ∧ VerifiedBy system.account now := by
  have hkind := failureOf_errorKind previous trigger error nextAttemptAt errorSource
  have hverified : (system.account.renewalRow.lastVerifiedAt.all fun verifiedAt =>
      (some now).any fun failedAt => verifiedAt ≤ failedAt) = true ↔
        VerifiedBy system.account now := by
    unfold VerifiedBy CookieAccount.renewalRow
    cases system.account.renewal with
    | none => simp
    | some row => cases hlast : row.lastVerifiedAt <;> simp [hlast]
  simp only [manualActionRequired, recordFailure, failCookieRenewal, Option.any_some,
    Bool.and_eq_true, decide_eq_true_eq, Option.some.injEq, hkind]
  exact and_congr_right fun _ => hverified

theorem outcome_recordFailure {row : CookieRenewal}
    (hrow : system.account.renewal = some row) (hnone : row.lastErrorKind = none) :
    (recordFailure system previous trigger error nextAttemptAt errorSource
      now).account.outcome ≠ system.account.outcome := by
  simp [CookieAccount.outcome, recordFailure, failCookieRenewal, hrow, hnone]

end Failure

/-- A failure respects the cookie that is stored when it is recorded exactly if that is
the cookie of the run, or if no login and no validation came in between and the failure
is not a confirmed expiry. -/
theorem stale_failure_respected_iff {start system next : RenewalSystem}
    {labels : List RenewalStep} {error : RunError} {nextAttemptAt now : ℕ}
    {errorSource : Option String} {previous : Option ErrorKind} {cookie : String}
    {trigger : Option RenewalTrigger}
    (hrun : Run (ofPartial advance) start labels system)
    (hstart : start.execution = .idle)
    (hevidence : system.execution.evidence = some (previous, cookie, trigger))
    (hfail : advance system (.fail error nextAttemptAt errorSource now) = some next) :
    RespectsCookie cookie system next ↔
      system.account.cookie = cookie ∨
        system.verifiedSince = false ∧
          ¬ (isConfirmed previous trigger error = true ∧ VerifiedBy system.account now) := by
  have hshown : NoErrorShown system :=
    hrun.invariant NoErrorShown (fun _ _ _ => noErrorShown_of_advance) (by
      intro hunderWay
      rw [hstart] at hunderWay
      cases hunderWay)
  obtain ⟨hunderWay, rfl⟩ := fail_cases hfail hevidence
  obtain ⟨row, hrow, hnone⟩ := hshown hunderWay
  have hmanual : manualActionRequired system.account = false := by
    simp [manualActionRequired, hrow, hnone]
  constructor
  · intro hrespects
    by_cases hcookie : system.account.cookie = cookie
    · exact Or.inl hcookie
    · obtain ⟨hlogin, houtcome⟩ := hrespects hcookie
      right
      constructor
      · by_contra hverified
        exact outcome_recordFailure hrow hnone
          (houtcome (Bool.eq_true_of_not_eq_false hverified))
      · intro hconfirmed
        exact hlogin ⟨hmanual, manualActionRequired_recordFailure.mpr hconfirmed⟩
  · rintro (hcookie | ⟨hverified, hconfirmed⟩) hne
    · exact absurd hcookie hne
    · constructor
      · rintro ⟨-, hrequired⟩
        exact hconfirmed (manualActionRequired_recordFailure.mp hrequired)
      · intro hsince
        rw [hverified] at hsince
        cases hsince

def expired : RunError := .renewal .authExpired "闲鱼 Cookie 已失效"

/-- A run that fails over the cookie it has read. -/
theorem stale_failure_respected_iff_current :
    ∃ system next, Run (ofPartial advance) { account := { cookie := "unb=1" } }
        [.readPrevious, .beginRenewal .authRecovery ⟨"a1", by decide⟩ 1000, .readAccount,
          .readStatus] system ∧
      (RespectsCookie "unb=1" system next ↔
        system.account.cookie = "unb=1" ∨ system.verifiedSince = false ∧
          ¬ (isConfirmed none (some .authRecovery) expired = true ∧
            VerifiedBy system.account 5000)) := by
  have hrun : Run (ofPartial advance) { account := { cookie := "unb=1" } }
      [.readPrevious, .beginRenewal .authRecovery ⟨"a1", by decide⟩ 1000, .readAccount,
        .readStatus] _ :=
    .cons rfl (.cons rfl (.cons rfl (.cons rfl (.nil _))))
  exact ⟨_, _, hrun, stale_failure_respected_iff hrun rfl rfl
    (rfl : advance _ (.fail expired 9000 none 5000) = some _)⟩

/-- The verdict on the old cookie demands a login right after one. -/
theorem stale_failure_respected_fails :
    ¬ ∀ labels system next previous cookie trigger error nextAttemptAt errorSource now,
      Run (ofPartial advance) { account := { cookie := "unb=1" } } labels system →
        system.execution.evidence = some (previous, cookie, trigger) →
          advance system (.fail error nextAttemptAt errorSource now) = some next →
            RespectsCookie cookie system next := by
  intro hclaim
  have hrespects := hclaim
    [.readPrevious, .beginRenewal .authRecovery ⟨"a1", by decide⟩ 1000, .readAccount,
      .readStatus, .interfere (.updateCookie (some "unb=1; t=2") "qr_login" 2000),
      .interfere (.resetAfterLogin 90000 "qr_login" 2001)] _ _ none "unb=1"
    (some .authRecovery) expired 9000 none 5000
    (.cons rfl (.cons rfl (.cons rfl (.cons rfl (.cons rfl (.cons rfl (.nil _)))))))
    rfl rfl
  exact (hrespects (by decide)).1 ⟨by decide, by decide⟩

end XianyuAdmin.Cookies
