import XianyuAdmin.Core.Table
import XianyuAdmin.Core.Transition

/-!
# Cookie renewal records

An account keeps its cookie, one renewal row that says how the cookie stands with
the platform, and a row for each renewal attempt.  The renewal row points to the
attempt that is under way.  Each store function below is one transaction on the
data of one account.
-/

namespace XianyuAdmin.Cookies

/-- The values of the `state` columns of the renewal row and of the attempts. -/
inductive RenewalState
  | idle
  | running
  | applying
  | succeeded
  | failed
  | conflict
  deriving DecidableEq, Repr

inductive RenewalPhase
  | idle
  | renewing
  | persisting
  | runtime
  | completed
  deriving DecidableEq, Repr

inductive RenewalTrigger
  | manual
  | scheduled
  | authRecovery
  deriving DecidableEq, Repr

/-- The values of `last_error_kind` and of `CookieRenewalError.kind`. -/
inductive ErrorKind
  | authExpired
  | suspectedExpired
  | proxyFailed
  | verificationRequired
  | failed
  | interrupted
  | cookieConflict
  | internalError
  deriving DecidableEq, Repr

/-- An attempt id: `uuid4().hex`, never the empty string. -/
abbrev AttemptId := {text : String // text ≠ ""}

/-- A row of `xianyu_cookie_renewal_attempts`. -/
structure RenewalAttempt where
  attemptId : AttemptId
  trigger : RenewalTrigger
  state : RenewalState := .running
  phase : RenewalPhase := .renewing
  message : Option String := none
  errorKind : Option ErrorKind := none
  updatedCookieNames : List String := []
  runtimeApplied : Option Bool := none
  startedAt : ℕ
  finishedAt : Option ℕ := none
  nextAttemptAt : Option ℕ := none
  createdAt : ℕ
  updatedAt : ℕ
  deriving DecidableEq, Repr

def attemptKeys (attempt : RenewalAttempt) : List AttemptId := [attempt.attemptId]

abbrev AttemptTable := Table RenewalAttempt attemptKeys

/-- `previous.state in {"running", "applying"}`. -/
def RenewalState.isOpen : RenewalState → Bool
  | .running | .applying => true
  | .idle | .succeeded | .failed | .conflict => false

/-- A row of `xianyu_cookie_renewals`; a new one takes the column defaults. -/
structure CookieRenewal where
  state : RenewalState := .idle
  phase : Option RenewalPhase := none
  trigger : Option RenewalTrigger := none
  activeAttemptId : Option AttemptId := none
  message : Option String := none
  updatedCookieNames : List String := []
  attemptCount : ℕ := 0
  lastStartedAt : Option ℕ := none
  lastSucceededAt : Option ℕ := none
  lastVerifiedAt : Option ℕ := none
  lastVerifiedSource : Option String := none
  lastFailedAt : Option ℕ := none
  lastFinishedAt : Option ℕ := none
  lastErrorKind : Option ErrorKind := none
  lastErrorSource : Option String := none
  runtimeApplied : Option Bool := none
  nextAttemptAt : Option ℕ := none
  updatedAt : ℕ := 0
  deriving DecidableEq, Repr

structure CookieAccount where
  cookie : String
  cookieUpdatedAt : Option ℕ := none
  cookieUpdateSource : Option String := none
  renewal : Option CookieRenewal := none
  attempts : AttemptTable := Table.empty

namespace CookieAccount

def activeAttemptId (account : CookieAccount) : Option AttemptId :=
  account.renewal.bind CookieRenewal.activeAttemptId

/-- `session.get(CookieRenewalORM, ...)`, or the row that is added instead. -/
def renewalRow (account : CookieAccount) : CookieRenewal := account.renewal.getD { }

/-- An `UPDATE` of the attempt under way, if there is one. -/
def writeActive (account : CookieAccount) (change : RenewalAttempt → RenewalAttempt)
    (hchange : ∀ attempt, (change attempt).attemptId = attempt.attemptId) :
    AttemptTable :=
  account.attempts.map
    (fun attempt =>
      if account.activeAttemptId = some attempt.attemptId then change attempt else attempt)
    (by
      intro attempt
      split
      · simp only [attemptKeys, hchange]
      · rfl)

end CookieAccount

def renewalSource (trigger : Option RenewalTrigger) : String :=
  match trigger.getD .scheduled with
  | .manual => "manual_renewal"
  | .authRecovery => "auth_recovery"
  | .scheduled => "scheduled_renewal"

def interrupted (now : ℕ) (attempt : RenewalAttempt) : RenewalAttempt :=
  if attempt.state.isOpen then
    { attempt with
      state := .failed
      message := some "续期任务中断后已重新执行"
      errorKind := some .interrupted
      finishedAt := some now
      updatedAt := now }
  else attempt

theorem interrupted_attemptId (now : ℕ) (attempt : RenewalAttempt) :
    (interrupted now attempt).attemptId = attempt.attemptId := by
  unfold interrupted
  split <;> rfl

/-- `_begin_cookie_renewal_sync`; `none` when the new id is taken. -/
def beginCookieRenewal (account : CookieAccount) (trigger : RenewalTrigger)
    (attemptId : AttemptId) (now : ℕ) : Option CookieAccount := do
  let row := account.renewalRow
  let attempts ←
    (account.writeActive (interrupted now) (interrupted_attemptId now)).insert?
      { attemptId := attemptId
        trigger := trigger
        message := some "正在通过闲鱼 HTTP 接口续期"
        startedAt := now
        createdAt := now
        updatedAt := now }
  pure
    { account with
      renewal :=
        some
          { row with
            state := .running
            phase := some .renewing
            trigger := some trigger
            activeAttemptId := some attemptId
            message := some "正在通过闲鱼 HTTP 接口续期"
            updatedCookieNames := []
            attemptCount := row.attemptCount + 1
            lastStartedAt := some now
            nextAttemptAt := none
            lastErrorKind := none
            runtimeApplied := none
            updatedAt := now }
      attempts := attempts }

/-- `_persist_cookie_renewal_sync`, and whether the cookie was stored. -/
def persistCookieRenewal (account : CookieAccount) (expectedCookie newCookie : String)
    (updatedCookieNames : List String) (nextAttemptAt now : ℕ) : CookieAccount × Bool :=
  let row := account.renewalRow
  if account.cookie = expectedCookie then
    let message := "Cookie 已保存，正在更新运行时凭据"
    ({ account with
        cookie := newCookie
        cookieUpdatedAt := some now
        cookieUpdateSource := some (renewalSource row.trigger)
        renewal :=
          some
            { row with
              state := .applying
              phase := some .runtime
              message := some message
              updatedCookieNames := updatedCookieNames
              nextAttemptAt := some nextAttemptAt
              lastErrorKind := none
              runtimeApplied := none
              updatedAt := now }
        attempts :=
          account.writeActive
            (fun attempt =>
              { attempt with
                state := .applying
                phase := .runtime
                message := some message
                updatedCookieNames := updatedCookieNames
                nextAttemptAt := some nextAttemptAt
                updatedAt := now })
            (fun _ => rfl) },
      true)
  else
    let message := "Cookie 在续期期间已被更新，本次结果未覆盖"
    let retryAt := now + 60000000
    ({ account with
        renewal :=
          some
            { row with
              state := .conflict
              phase := some .completed
              message := some message
              updatedCookieNames := []
              nextAttemptAt := some retryAt
              lastFinishedAt := some now
              lastErrorKind := some .cookieConflict
              runtimeApplied := none
              activeAttemptId := none
              updatedAt := now }
        attempts :=
          account.writeActive
            (fun attempt =>
              { attempt with
                state := .conflict
                phase := .completed
                message := some message
                errorKind := some .cookieConflict
                finishedAt := some now
                nextAttemptAt := some retryAt
                updatedAt := now })
            (fun _ => rfl) },
      false)

/-- `_finish_cookie_renewal_sync`; nothing happens without a renewal row. -/
def finishCookieRenewal (account : CookieAccount) (message : String)
    (runtimeApplied : Option Bool) (now : ℕ) : CookieAccount :=
  match account.renewal with
  | none => account
  | some row =>
      { account with
        renewal :=
          some
            { row with
              state := .succeeded
              phase := some .completed
              message := some message
              attemptCount := 0
              lastSucceededAt := some now
              lastVerifiedAt := some now
              lastVerifiedSource := some (renewalSource row.trigger)
              lastFinishedAt := some now
              lastErrorKind := none
              lastErrorSource := none
              runtimeApplied := runtimeApplied
              activeAttemptId := none
              updatedAt := now }
        attempts :=
          account.writeActive
            (fun attempt =>
              { attempt with
                state := .succeeded
                phase := .completed
                message := some message
                runtimeApplied := runtimeApplied
                finishedAt := some now
                updatedAt := now })
            (fun _ => rfl) }

/-- The arguments of `_fail_cookie_renewal_sync`. -/
structure RenewalFailure where
  message : String
  nextAttemptAt : Option ℕ
  errorKind : ErrorKind
  phase : RenewalPhase
  errorSource : Option String
  deriving DecidableEq, Repr

def RenewalTrigger.text : RenewalTrigger → String
  | .manual => "manual"
  | .scheduled => "scheduled"
  | .authRecovery => "auth_recovery"

def failCookieRenewal (account : CookieAccount) (failure : RenewalFailure) (now : ℕ) :
    CookieAccount :=
  let row := account.renewalRow
  let runtimeApplied := if failure.phase = .runtime then some false else none
  { account with
    renewal :=
      some
        { row with
          state := .failed
          phase := some failure.phase
          message := some failure.message
          updatedCookieNames :=
            if failure.phase ≠ .runtime then [] else row.updatedCookieNames
          lastFailedAt := some now
          lastFinishedAt := some now
          lastErrorKind := some failure.errorKind
          lastErrorSource :=
            (failure.errorSource.filter fun source => source ≠ "").or
              (row.trigger.map RenewalTrigger.text)
          runtimeApplied := runtimeApplied
          nextAttemptAt := failure.nextAttemptAt
          activeAttemptId := none
          updatedAt := now }
    attempts :=
      account.writeActive
        (fun attempt =>
          { attempt with
            state := .failed
            phase := failure.phase
            message := some failure.message
            errorKind := some failure.errorKind
            runtimeApplied := runtimeApplied
            finishedAt := some now
            nextAttemptAt := failure.nextAttemptAt
            updatedAt := now })
        (fun _ => rfl) }

def rescheduleCookieRenewal (account : CookieAccount) (nextAttemptAt now : ℕ) :
    CookieAccount :=
  let row := account.renewal.getD { phase := some .idle }
  { account with
    renewal := some { row with nextAttemptAt := some nextAttemptAt, updatedAt := now } }

def resetCookieRenewalAfterLogin (account : CookieAccount) (nextAttemptAt : ℕ)
    (source : String) (now : ℕ) : CookieAccount :=
  let row := account.renewalRow
  { account with
    renewal :=
      some
        { row with
          state := .idle
          phase := some .idle
          trigger := none
          activeAttemptId := none
          message := some "扫码登录成功，平台 Cookie 已验证"
          updatedCookieNames := []
          attemptCount := 0
          lastVerifiedAt := some now
          lastVerifiedSource := some source
          lastErrorKind := none
          lastErrorSource := none
          runtimeApplied := some true
          nextAttemptAt := some nextAttemptAt
          updatedAt := now } }

/-- `_record_cookie_validation_sync`, and whether the validation was recorded. -/
def recordCookieValidation (account : CookieAccount) (expectedCookie newCookie : String)
    (source message : String) (now : ℕ) : CookieAccount × Bool :=
  if account.cookie ≠ expectedCookie then (account, false)
  else
    let row := account.renewalRow
    let cleared := row.state = .failed && row.lastErrorKind ≠ some .authExpired
    let replaced := newCookie ≠ expectedCookie
    ({ account with
        cookie := newCookie
        cookieUpdatedAt := if replaced then some now else account.cookieUpdatedAt
        cookieUpdateSource := if replaced then some source else account.cookieUpdateSource
        renewal :=
          some
            { row with
              state := if cleared then .idle else row.state
              phase := if cleared then some .idle else row.phase
              message := some message
              lastVerifiedAt := some now
              lastVerifiedSource := some source
              lastErrorKind := none
              lastErrorSource := none
              updatedAt := now } },
      true)

/-- The cookie branch of `_update_account_sync`. -/
def updateAccountCookie (account : CookieAccount) (cookie : Option String)
    (cookieSource : String) (now : ℕ) : CookieAccount :=
  match cookie with
  | none => account
  | some cookie =>
      if cookie = account.cookie then account
      else
        { account with
          cookie := cookie
          cookieUpdatedAt := some now
          cookieUpdateSource := some cookieSource
          renewal := account.renewal.map fun row =>
            if row.state.isOpen then row
            else
              { row with
                state := .idle
                phase := some .idle
                trigger := none
                message := some "Cookie 已更新，等待平台验证"
                updatedCookieNames := []
                attemptCount := 0
                lastSucceededAt := none
                lastVerifiedAt := none
                lastVerifiedSource := none
                nextAttemptAt := some now
                lastErrorKind := none
                lastErrorSource := none
                runtimeApplied := none
                updatedAt := now } }

/-- `_compare_and_set_account_cookie_sync` without a change of the proxy. -/
def compareAndSetAccountCookie (account : CookieAccount)
    (expectedCookie newCookie : String) (source : String) (now : ℕ) : CookieAccount :=
  if account.cookie ≠ expectedCookie ∨ expectedCookie = newCookie then account
  else
    { account with
      cookie := newCookie
      cookieUpdatedAt := some now
      cookieUpdateSource := some source }

/-- `manual_action_required` of `_cookie_renewal_to_payload`. -/
def manualActionRequired (account : CookieAccount) : Bool :=
  account.renewal.any fun row =>
    row.lastErrorKind = some .authExpired &&
      row.lastVerifiedAt.all fun verifiedAt =>
        row.lastFailedAt.any fun failedAt => verifiedAt ≤ failedAt

inductive RenewalCall
  | beginRenewal (trigger : RenewalTrigger) (attemptId : AttemptId) (now : ℕ)
  | persistRenewal (expectedCookie newCookie : String) (updatedCookieNames : List String)
      (nextAttemptAt now : ℕ)
  | finishRenewal (message : String) (runtimeApplied : Option Bool) (now : ℕ)
  | failRenewal (failure : RenewalFailure) (now : ℕ)
  | reschedule (nextAttemptAt now : ℕ)
  | resetAfterLogin (nextAttemptAt : ℕ) (source : String) (now : ℕ)
  | recordValidation (expectedCookie newCookie source message : String) (now : ℕ)
  | updateCookie (cookie : Option String) (cookieSource : String) (now : ℕ)
  | compareAndSet (expectedCookie newCookie source : String) (now : ℕ)

def applyCall (account : CookieAccount) : RenewalCall → Option CookieAccount
  | .beginRenewal trigger attemptId now => beginCookieRenewal account trigger attemptId now
  | .persistRenewal expectedCookie newCookie names nextAttemptAt now =>
      some (persistCookieRenewal account expectedCookie newCookie names nextAttemptAt now).1
  | .finishRenewal message runtimeApplied now =>
      some (finishCookieRenewal account message runtimeApplied now)
  | .failRenewal failure now => some (failCookieRenewal account failure now)
  | .reschedule nextAttemptAt now => some (rescheduleCookieRenewal account nextAttemptAt now)
  | .resetAfterLogin nextAttemptAt source now =>
      some (resetCookieRenewalAfterLogin account nextAttemptAt source now)
  | .recordValidation expectedCookie newCookie source message now =>
      some (recordCookieValidation account expectedCookie newCookie source message now).1
  | .updateCookie cookie cookieSource now =>
      some (updateAccountCookie account cookie cookieSource now)
  | .compareAndSet expectedCookie newCookie source now =>
      some (compareAndSetAccountCookie account expectedCookie newCookie source now)

def step : CookieAccount → RenewalCall → CookieAccount → Prop :=
  Transition.ofPartial applyCall

end XianyuAdmin.Cookies
