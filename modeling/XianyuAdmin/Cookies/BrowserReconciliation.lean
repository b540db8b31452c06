import XianyuAdmin.Cookies.LiveCookies

/-!
# Reconciling cookies after a browser session

When an account's browser session ends, its cookie and the stored one are validated, and the
verdicts decide which of them is kept.  Others may store cookies between any two steps.
-/

namespace XianyuAdmin.Cookies.BrowserReconciliation

open XianyuAdmin.Python

inductive Verdict
  | valid (newCookie message : String)
  | renewalError (kind text : String)
  | raised (text : String)

/-- What happens beside the run: what others leave of the stored cookie before each of its steps
(`none` is a deleted account), and what a validation says at each of them. -/
structure Surroundings where
  others : ℕ → Option String → Option String
  validator : ℕ → String → Verdict
  hasCoordinator : Bool

inductive CheckState
  | notChecked
  | valid
  | invalid
  | unknown
  deriving DecidableEq

structure CookieCheck where
  state : CheckState
  cookie : String
  /-- `result.new_cookie` -/
  newCookie : Option String := none
  message : Option String := none
  errorKind : Option String := none

inductive SyncStatus
  | failed
  | accountMismatch
  | updatedFromBrowser
  | refreshedFromBrowser
  | keptLocal
  | authRecovery
  | unknown
  deriving DecidableEq

/-- `_CookieReconcileResult` -/
structure ReconcileResult where
  syncStatus : SyncStatus
  browserStatus : CheckState
  localStatus : CheckState
  message : String

/-- A compare-and-set of the run that has succeeded. -/
structure Persisted where
  source : String
  expectedCookie : String
  newCookie : String

/-- A call of `handle_auth_expired`, and the cookie that is stored then. -/
structure Recovery where
  message : String
  stored : Option String

structure Run where
  result : ReconcileResult
  stored : Option String
  validations : List (ℕ × String) := []
  judged : List (String × CheckState) := []
  persisted : List Persisted := []
  recovery : Option Recovery := none

/-- The fields of `_ActiveSession` that are read. -/
structure ActiveSession where
  accountId : Option String
  baselineCookie : Option String

variable (around : Surroundings)

/-- `str(trans_cookies(cookie).get(name) or "")` -/
def field (name cookie : String) : String := ((transCookies cookie).get? name).getD ""

def cookieMapsEqual (left right : String) : Bool :=
  (transCookies left).entries.isPerm (transCookies right).entries

/-- `_check_web_cookie` at a step, and the validation it makes. -/
def checkWebCookie (step : ℕ) (cookie : String) : CookieCheck × List (ℕ × String) :=
  if field "unb" cookie = "" ∨ field "_m_h5_tk" cookie = "" then
    ({ state := .invalid, cookie, message := some "Cookie 缺少 Web 平台必要字段"
       errorKind := some "suspected_expired" }, [])
  else if !around.hasCoordinator then
    ({ state := .unknown, cookie, message := some "Web Cookie 验证服务未配置"
       errorKind := some "validator_unavailable" }, [])
  else
    (match around.validator step cookie with
    | .valid newCookie message =>
        { state := .valid, cookie := newCookie, newCookie := some newCookie
          message := some message }
    | .renewalError kind text =>
        { state :=
            if kind ∈ ["suspected_expired", "auth_expired", "verification_required"] then .invalid
            else .unknown
          cookie, message := some text, errorKind := some kind }
    | .raised text =>
        { state := .unknown, cookie, message := some text, errorKind := some "internal_error" },
    [(step, cookie)])

/-- `_record_cookie_validation_sync`: the stored cookie, and whether it was the expected one. -/
def recordCookieValidation (expectedCookie newCookie : String) :
    Option String → Option String × Bool
  | none => (none, false)
  | some cookie => if cookie ≠ expectedCookie then (some cookie, false) else (some newCookie, true)

/-- The attempts of `_persist_validated_browser_cookie`. -/
def persistAttempts (expectedUnb newCookie : String) :
    ℕ → ℕ → String → Option String → Option String × List Persisted
  | 0, _, _, stored => (stored, [])
  | attempts + 1, step, current, stored =>
      let (recorded, persisted) :=
        recordCookieValidation current newCookie (around.others step stored)
      if persisted then (recorded, [⟨"account_browser", current, newCookie⟩])
      else
        match around.others (step + 1) recorded with
        | none => (none, [])
        | some latest =>
            if expectedUnb ≠ "" ∧ field "unb" latest ≠ "" ∧ field "unb" latest ≠ expectedUnb then
              (some latest, [])
            else persistAttempts expectedUnb newCookie attempts (step + 2) latest (some latest)

def persistValidatedBrowserCookie (account : String) (check : CookieCheck)
    (stored : Option String) : Option String × List Persisted :=
  match around.hasCoordinator, check.newCookie with
  | true, some newCookie =>
      persistAttempts around (field "unb" account) newCookie 2 3 account stored
  | _, _ => (stored, [])

def persistValidatedLocalCookie (account : String) (check : CookieCheck)
    (stored : Option String) : Option String × List Persisted :=
  match around.hasCoordinator, check.newCookie with
  | true, some newCookie =>
      let (recorded, persisted) := recordCookieValidation account newCookie (around.others 3 stored)
      (recorded,
        if persisted then [⟨"account_browser_local_validation", account, newCookie⟩] else [])
  | _, _ => (stored, [])

/-- `check.message or check.error_kind or "异常"` -/
def describe (check : CookieCheck) : String :=
  (orElse (orElse check.message check.errorKind) (some "异常")).getD ""

/-- `_trigger_account_browser_auth_recovery` -/
def triggerAuthRecovery (browser localCheck : CookieCheck) (stored : Option String) :
    Option Recovery :=
  if around.hasCoordinator then
    some
      { message := "VNC 结束核对发现浏览器与本地 Web Cookie 均异常：浏览器=" ++ describe browser ++
          "；本地=" ++ describe localCheck
        stored := around.others 3 stored }
  else none

def checkBrowser (browserCookie captureError : Option String) : CookieCheck × List (ℕ × String) :=
  match browserCookie.filter (· ≠ "") with
  | some cookie => checkWebCookie around 1 cookie
  | none =>
      ({ state := if truthy captureError then .unknown else .invalid, cookie := ""
         message := orElse captureError (some "浏览器未返回 Cookie")
         errorKind := some (if truthy captureError then "capture_failed" else "suspected_expired") },
        [])

def checkLocal (account : String) (browserCookie : Option String) (browser : CookieCheck) :
    CookieCheck × List (ℕ × String) :=
  if truthy browserCookie ∧ cookieMapsEqual (browserCookie.getD "") account then (browser, [])
  else checkWebCookie around 2 account

def isMismatch (baseline account : String) (browserCookie : Option String) : Bool :=
  let expectedUnb :=
    if field "unb" baseline ≠ "" then field "unb" baseline else field "unb" account
  let browserUnb := field "unb" (browserCookie.getD "")
  let localUnb := field "unb" account
  (expectedUnb ≠ "" && browserUnb ≠ "" && browserUnb ≠ expectedUnb) ||
    (expectedUnb ≠ "" && localUnb ≠ "" && localUnb ≠ expectedUnb)

def decisionMessage : CheckState → String
  | .valid => "VNC 结束核对：浏览器与本地 Cookie 均正常，已采用浏览器最新 Cookie"
  | .invalid => "VNC 结束核对：浏览器 Cookie 正常、本地 Cookie 异常，已采用浏览器 Cookie"
  | _ => "VNC 结束核对：浏览器 Cookie 正常、本地状态暂未确认，已采用验证通过的浏览器 Cookie"

/-- The branches behind the two checks; `stored` is what the checks have left. -/
def settle (account : String) (browser localCheck : CookieCheck) (stored : Option String) : Run :=
  let answer (syncStatus : SyncStatus) (message : String) : ReconcileResult :=
    ⟨syncStatus, browser.state, localCheck.state, message⟩
  if browser.state = .valid then
    let (recorded, persisted) := persistValidatedBrowserCookie around account browser stored
    if persisted = [] then
      { result := answer .unknown
          "浏览器会话已关闭，Cookie 核对期间本地凭据发生变化，未完成更新"
        stored := recorded }
    else
      { result := answer
          (if cookieMapsEqual browser.cookie account then .refreshedFromBrowser
            else .updatedFromBrowser) (decisionMessage localCheck.state)
        stored := recorded, persisted }
  else if localCheck.state = .valid then
    let (recorded, persisted) := persistValidatedLocalCookie around account localCheck stored
    { result := answer .keptLocal "VNC 结束核对：浏览器 Cookie 异常，已保留本地正常 Cookie"
      stored := recorded, persisted }
  else if browser.state = .invalid ∧ localCheck.state = .invalid then
    { result := answer .authRecovery
        "VNC 结束核对：浏览器与本地 Cookie 均异常，已启动认证恢复链路"
      stored := around.others 3 stored
      recovery := triggerAuthRecovery around browser localCheck stored }
  else
    { result := answer .unknown
        "浏览器会话已关闭，Cookie 状态暂时无法确认，未覆盖本地凭据，请稍后复核"
      stored }

def checkedRun (account : String) (browserCookie captureError : Option String) : Run :=
  let (browser, browserCalls) := checkBrowser around browserCookie captureError
  let (localCheck, localCalls) := checkLocal around account browserCookie browser
  { settle around account browser localCheck (around.others 2 (around.others 1 (some account))) with
    validations := browserCalls ++ localCalls
    judged :=
      ((browserCookie.filter (· ≠ "")).map fun cookie => (cookie, browser.state)).toList ++
        [(account, localCheck.state)] }

def reconcileAccountBrowserCookie (active : ActiveSession)
    (browserCookie captureError : Option String) (stored : Option String) : Run :=
  if !truthy active.accountId then
    { result := ⟨.failed, .notChecked, .notChecked,
        "浏览器会话已关闭，但账户标识缺失，未更新 Cookie"⟩
      stored }
  else
    match around.others 0 stored with
    | none =>
        { result := ⟨.failed, .notChecked, .notChecked,
            "浏览器会话已关闭，但账户已不存在，未更新 Cookie"⟩
          stored := none }
    | some account =>
        if isMismatch (active.baselineCookie.getD "") account browserCookie then
          { result := ⟨.accountMismatch, .invalid, .unknown,
              "浏览器会话已关闭，检测到闲鱼账号不一致，已拒绝更新 Cookie"⟩
            stored := some account }
        else
          checkedRun around account browserCookie captureError

variable {around} {step : ℕ} {cookie account baseline newCookie message : String}
variable {browserCookie captureError stored : Option String} {browser localCheck : CookieCheck}

theorem field_of_mem_validations {call : ℕ × String}
    (hcall : call ∈ (checkWebCookie around step cookie).2) :
    call = (step, cookie) ∧ field "unb" cookie ≠ "" := by
  unfold checkWebCookie at hcall
  split at hcall
  · exact absurd hcall List.not_mem_nil
  · rename_i hfields
    split at hcall
    · exact absurd hcall List.not_mem_nil
    · exact ⟨List.mem_singleton.mp hcall, (not_or.mp hfields).1⟩

theorem state_of_validator (hcall : (step, cookie) ∈ (checkWebCookie around step cookie).2)
    (hvalid : around.validator step cookie = .valid newCookie message) :
    (checkWebCookie around step cookie).1.state = .valid := by
  unfold checkWebCookie at hcall ⊢
  split
  · rw [if_pos ‹_›] at hcall
    exact absurd hcall List.not_mem_nil
  · rw [if_neg ‹_›] at hcall
    split
    · rw [if_pos ‹_›] at hcall
      exact absurd hcall List.not_mem_nil
    · simp only [hvalid]

theorem newCookie_of_state (hvalid : (checkWebCookie around step cookie).1.state = .valid) :
    (step, cookie) ∈ (checkWebCookie around step cookie).2 ∧ ∃ newCookie message,
      (checkWebCookie around step cookie).1.newCookie = some newCookie ∧
        around.validator step cookie = .valid newCookie message := by
  unfold checkWebCookie at hvalid ⊢
  split at hvalid
  · cases hvalid
  · rename_i hfields
    rw [if_neg hfields]
    split at hvalid
    · cases hvalid
    · rename_i hcoordinator
      rw [if_neg hcoordinator]
      refine ⟨List.mem_singleton_self _, ?_⟩
      cases hverdict : around.validator step cookie with
      | valid found message => exact ⟨found, message, by simp only, rfl⟩
      | renewalError kind text =>
          simp only [hverdict] at hvalid
          split at hvalid <;> cases hvalid
      | raised text => simp only [hverdict, reduceCtorEq] at hvalid

theorem checkBrowser_cases (around : Surroundings) (browserCookie captureError : Option String) :
    (∃ cookie, browserCookie = some cookie ∧
      checkBrowser around browserCookie captureError = checkWebCookie around 1 cookie) ∨
    ((checkBrowser around browserCookie captureError).1.state ≠ .valid ∧
      (checkBrowser around browserCookie captureError).2 = []) := by
  cases hfilter : browserCookie.filter (· ≠ "") with
  | none =>
      simp only [checkBrowser, hfilter]
      exact .inr ⟨by split <;> nofun, trivial⟩
  | some cookie =>
      refine .inl ⟨cookie, (Option.filter_eq_some_iff.mp hfilter).1, ?_⟩
      simp only [checkBrowser, hfilter]

theorem cookieMapsEqual_self : cookieMapsEqual cookie cookie = true :=
  List.isPerm_iff.mpr (List.Perm.refl _)

/-- A cookie that the identity check has let through is the account's own. -/
theorem field_of_not_mismatch (hbaseline : field "unb" baseline ≠ "")
    (hsame : isMismatch baseline account browserCookie = false) :
    (field "unb" (browserCookie.getD "") ≠ "" →
      field "unb" (browserCookie.getD "") = field "unb" baseline) ∧
    (field "unb" account ≠ "" → field "unb" account = field "unb" baseline) := by
  simp only [isMismatch, if_pos hbaseline, Bool.or_eq_false_iff, Bool.and_eq_false_iff,
    decide_eq_false_iff_not, not_not, hbaseline, false_or] at hsame
  exact ⟨fun hne => hsame.1.resolve_left hne, fun hne => hsame.2.resolve_left hne⟩

theorem newCookie_of_mem_persistAttempts {expectedUnb current : String} {entry : Persisted}
    (attempts : ℕ)
    (hentry : entry ∈ (persistAttempts around expectedUnb newCookie attempts step current
      stored).2) : entry.newCookie = newCookie := by
  induction attempts generalizing step current stored with
  | zero => exact absurd hentry List.not_mem_nil
  | succ attempts ih =>
      rw [persistAttempts] at hentry
      dsimp only at hentry
      split at hentry
      · cases List.mem_singleton.mp hentry
        rfl
      · split at hentry
        · exact absurd hentry List.not_mem_nil
        · split at hentry
          · exact absurd hentry List.not_mem_nil
          · exact ih hentry

theorem newCookie_of_mem_browser {entry : Persisted}
    (hentry : entry ∈ (persistValidatedBrowserCookie around account browser stored).2) :
    browser.newCookie = some entry.newCookie := by
  unfold persistValidatedBrowserCookie at hentry
  split at hentry
  · rename_i found _ hfound
    rw [hfound, newCookie_of_mem_persistAttempts _ hentry]
  · exact absurd hentry List.not_mem_nil

theorem newCookie_of_mem_local {entry : Persisted}
    (hentry : entry ∈ (persistValidatedLocalCookie around account localCheck stored).2) :
    localCheck.newCookie = some entry.newCookie := by
  unfold persistValidatedLocalCookie at hentry
  split at hentry
  · rename_i found _ hfound
    dsimp only at hentry
    split at hentry
    · cases List.mem_singleton.mp hentry
      exact hfound
    · exact absurd hentry List.not_mem_nil
  · exact absurd hentry List.not_mem_nil

/-- Where the branches lead, with what each of them persists. -/
theorem settle_cases (around : Surroundings) (account : String) (browser localCheck : CookieCheck)
    (stored : Option String) :
    let run := settle around account browser localCheck stored
    (browser.state = .valid ∧ run.recovery = none ∧
      (∀ entry ∈ run.persisted, browser.newCookie = some entry.newCookie) ∧
      ((run.result.syncStatus = .unknown ∧ run.persisted = []) ∨
        ((run.result.syncStatus = .updatedFromBrowser ∨
          run.result.syncStatus = .refreshedFromBrowser) ∧ run.persisted ≠ []))) ∨
    (browser.state ≠ .valid ∧ localCheck.state = .valid ∧ run.recovery = none ∧
      run.result.syncStatus = .keptLocal ∧
      ∀ entry ∈ run.persisted, localCheck.newCookie = some entry.newCookie) ∨
    (browser.state = .invalid ∧ localCheck.state = .invalid ∧ run.persisted = [] ∧
      run.result.syncStatus = .authRecovery ∧
      run.recovery = triggerAuthRecovery around browser localCheck stored) ∨
    (browser.state ≠ .valid ∧ ¬(browser.state = .invalid ∧ localCheck.state = .invalid) ∧
      run.persisted = [] ∧ run.result.syncStatus = .unknown ∧ run.recovery = none) := by
  by_cases hbrowser : browser.state = .valid
  · refine .inl ⟨hbrowser, ?_⟩
    by_cases hnone : (persistValidatedBrowserCookie around account browser stored).2 = []
    · simp only [settle, if_pos hbrowser, if_pos hnone]
      exact ⟨trivial, fun _ hentry => absurd hentry List.not_mem_nil, .inl ⟨trivial, trivial⟩⟩
    · simp only [settle, if_pos hbrowser, if_neg hnone]
      refine ⟨trivial, fun _ hentry => newCookie_of_mem_browser hentry, .inr ⟨?_, hnone⟩⟩
      by_cases hequal : cookieMapsEqual browser.cookie account = true
      · exact .inr (if_pos hequal)
      · exact .inl (if_neg hequal)
  by_cases hlocal : localCheck.state = .valid
  · refine .inr (.inl ⟨hbrowser, hlocal, ?_⟩)
    simp only [settle, if_neg hbrowser, if_pos hlocal]
    exact ⟨trivial, trivial, fun _ hentry => newCookie_of_mem_local hentry⟩
  by_cases hinvalid : browser.state = .invalid ∧ localCheck.state = .invalid
  · refine .inr (.inr (.inl ⟨hinvalid.1, hinvalid.2, ?_⟩))
    simp only [settle, if_neg hbrowser, if_neg hlocal, if_pos hinvalid]
    exact ⟨trivial, trivial, trivial⟩
  · refine .inr (.inr (.inr ⟨hbrowser, hinvalid, ?_⟩))
    simp only [settle, if_neg hbrowser, if_neg hlocal, if_neg hinvalid]
    exact ⟨trivial, trivial, trivial⟩

structure Sound (around : Surroundings) (baseline : String) (browserCookie : Option String)
    (run : Run) : Prop where
  validated : ∀ entry ∈ run.persisted, field "unb" entry.newCookie = field "unb" baseline ∧
    ∃ call ∈ run.validations, ∃ message,
      around.validator call.1 call.2 = .valid entry.newCookie message
  updated : (run.result.syncStatus = .updatedFromBrowser ∨
      run.result.syncStatus = .refreshedFromBrowser) ↔
    ∃ entry ∈ run.persisted, ∃ call ∈ run.validations, browserCookie = some call.2 ∧
      ∃ message, around.validator call.1 call.2 = .valid entry.newCookie message
  untouched : run.result.syncStatus = .accountMismatch ∨ run.result.syncStatus = .unknown ∨
    run.result.syncStatus = .authRecovery → run.persisted = []
  recovery : ∀ recovery cookie, run.recovery = some recovery → recovery.stored = some cookie →
    (cookie, .invalid) ∈ run.judged

def NotReplaced (around : Surroundings) (active : ActiveSession)
    (browserCookie captureError stored : Option String) : Prop :=
  ∀ account latest, truthy active.accountId = true → around.hasCoordinator = true →
    around.others 0 stored = some account →
    isMismatch (active.baselineCookie.getD "") account browserCookie = false →
    (checkBrowser around browserCookie captureError).1.state = .invalid →
    (checkLocal around account browserCookie
      (checkBrowser around browserCookie captureError).1).1.state = .invalid →
    around.others 3 (around.others 2 (around.others 1 (some account))) = some latest →
    browserCookie.filter (· ≠ "") = some latest ∨ latest = account

def KeepsUnb (around : Surroundings) : Prop :=
  ∀ step cookie newCookie message, around.validator step cookie = .valid newCookie message →
    field "unb" newCookie = field "unb" cookie

theorem sound_of_untouched {run : Run} (hpersisted : run.persisted = [])
    (hrecovery : run.recovery = none)
    (hstatus : run.result.syncStatus ≠ .updatedFromBrowser ∧
      run.result.syncStatus ≠ .refreshedFromBrowser) :
    Sound around baseline browserCookie run where
  validated entry hentry := absurd (hpersisted ▸ hentry) List.not_mem_nil
  updated := by
    refine iff_of_false (not_or.mpr hstatus) ?_
    rintro ⟨entry, hentry, -⟩
    exact absurd (hpersisted ▸ hentry) List.not_mem_nil
  untouched _ := hpersisted
  recovery _ _ hsome := absurd (hrecovery.symm.trans hsome) (Option.some_ne_none _).symm

theorem truthy_of_field (hfield : field "unb" cookie ≠ "") : truthy (some cookie) = true := by
  rw [truthy_some]
  rintro rfl
  exact hfield rfl

theorem sound_of_browser {run : Run} (hcall : (1, cookie) ∈ run.validations)
    (hunb : ∀ newCookie message, around.validator 1 cookie = .valid newCookie message →
      field "unb" newCookie = field "unb" baseline)
    (hverdict : ∀ entry ∈ run.persisted,
      ∃ message, around.validator 1 cookie = .valid entry.newCookie message)
    (hrecovery : run.recovery = none)
    (hstatus : (run.result.syncStatus = .unknown ∧ run.persisted = []) ∨
      ((run.result.syncStatus = .updatedFromBrowser ∨
        run.result.syncStatus = .refreshedFromBrowser) ∧ run.persisted ≠ [])) :
    Sound around baseline (some cookie) run := by
  obtain ⟨hunknown, hnil⟩ | ⟨hupdated, hne⟩ := hstatus
  · exact sound_of_untouched hnil hrecovery (by rw [hunknown]; exact ⟨nofun, nofun⟩)
  obtain ⟨first, hfirst⟩ := List.exists_mem_of_ne_nil _ hne
  constructor
  · intro entry hentry
    obtain ⟨message, hvalid⟩ := hverdict entry hentry
    exact ⟨hunb _ _ hvalid, (1, cookie), hcall, message, hvalid⟩
  · exact iff_of_true hupdated ⟨first, hfirst, (1, cookie), hcall, rfl, hverdict first hfirst⟩
  · intro hkept
    rcases hupdated with hupdated | hupdated <;> rw [hupdated] at hkept <;>
      exact absurd hkept (by decide)
  · exact fun _ _ hsome => absurd (hrecovery.symm.trans hsome) (Option.some_ne_none _).symm

theorem sound_of_local {run : Run} (hcall : (2, account) ∈ run.validations)
    (hunb : ∀ newCookie message, around.validator 2 account = .valid newCookie message →
      field "unb" newCookie = field "unb" baseline)
    (hverdict : ∀ entry ∈ run.persisted,
      ∃ message, around.validator 2 account = .valid entry.newCookie message)
    (hrecovery : run.recovery = none) (hstatus : run.result.syncStatus = .keptLocal)
    (hbrowser : ∀ call ∈ run.validations, browserCookie = some call.2 →
      ∀ newCookie message, around.validator call.1 call.2 ≠ .valid newCookie message) :
    Sound around baseline browserCookie run := by
  constructor
  · intro entry hentry
    obtain ⟨message, hvalid⟩ := hverdict entry hentry
    exact ⟨hunb _ _ hvalid, (2, account), hcall, message, hvalid⟩
  · refine iff_of_false (by rw [hstatus]; decide) ?_
    rintro ⟨entry, -, call, hmem, hsame, message, hvalid⟩
    exact hbrowser call hmem hsame _ message hvalid
  · exact fun hkept => absurd (hstatus ▸ hkept) (by decide)
  · exact fun _ _ hsome => absurd (hrecovery.symm.trans hsome) (Option.some_ne_none _).symm

/-- Behind the identity check, all depends on what is stored when the recovery is triggered. -/
theorem checkedRun_iff (hkeeps : KeepsUnb around) (hbaseline : field "unb" baseline ≠ "")
    (hsame : isMismatch baseline account browserCookie = false) :
    Sound around baseline browserCookie
        (checkedRun around account browserCookie captureError) ↔
      (around.hasCoordinator = true →
        (checkBrowser around browserCookie captureError).1.state = .invalid →
        (checkLocal around account browserCookie
          (checkBrowser around browserCookie captureError).1).1.state = .invalid →
        ∀ latest, around.others 3 (around.others 2 (around.others 1 (some account))) =
            some latest →
          browserCookie.filter (· ≠ "") = some latest ∨ latest = account) := by
  obtain ⟨hbrowserUnb, hlocalUnb⟩ := field_of_not_mismatch hbaseline hsame
  have hbranches := settle_cases around account
    (checkBrowser around browserCookie captureError).1
    (checkLocal around account browserCookie
      (checkBrowser around browserCookie captureError).1).1
    (around.others 2 (around.others 1 (some account)))
  have hvalidations : (checkedRun around account browserCookie captureError).validations =
      (checkBrowser around browserCookie captureError).2 ++
        (checkLocal around account browserCookie
          (checkBrowser around browserCookie captureError).1).2 := rfl
  rcases hbranches with ⟨hvalid, hrecovery, hnew, hstatus⟩ |
    ⟨hother, hvalid, hrecovery, hstatus, hnew⟩ |
    ⟨hbrowser, hlocal, hnil, hstatus, hrecovery⟩ | ⟨-, hnot, hnil, hstatus, hrecovery⟩
  · refine iff_of_true ?_ fun _ hinvalid => ?_
    · obtain ⟨cookie, rfl, hcheck⟩ | ⟨hother, -⟩ :=
        checkBrowser_cases around browserCookie captureError
      · rw [hcheck] at hvalid
        obtain ⟨hcall, newCookie, message, hfound, hverdict⟩ := newCookie_of_state hvalid
        rw [hcheck] at hvalidations
        refine sound_of_browser (hvalidations ▸ List.mem_append_left _ hcall) ?_ ?_ hrecovery
          hstatus
        · intro found text htext
          rw [hkeeps _ _ _ _ htext]
          exact hbrowserUnb (field_of_mem_validations hcall).2
        · intro entry hentry
          cases hfound.symm.trans (hcheck ▸ hnew entry hentry)
          exact ⟨message, hverdict⟩
      · exact absurd hvalid hother
    · rw [hvalid] at hinvalid
      cases hinvalid
  · refine iff_of_true ?_ fun _ _ hinvalid => ?_
    · have hunequal : ¬(truthy browserCookie = true ∧
          cookieMapsEqual (browserCookie.getD "") account = true) := by
        intro hequal
        rw [checkLocal, if_pos hequal] at hvalid
        exact hother hvalid
      have hcheck : checkLocal around account browserCookie
          (checkBrowser around browserCookie captureError).1 = checkWebCookie around 2 account :=
        if_neg hunequal
      rw [hcheck] at hvalid hvalidations
      obtain ⟨hcall, newCookie, message, hfound, hverdict⟩ := newCookie_of_state hvalid
      refine sound_of_local (hvalidations ▸ List.mem_append_right _ hcall) ?_ ?_ hrecovery
        hstatus ?_
      · intro found text htext
        rw [hkeeps _ _ _ _ htext]
        exact hlocalUnb (field_of_mem_validations hcall).2
      · intro entry hentry
        cases hfound.symm.trans (hcheck ▸ hnew entry hentry)
        exact ⟨message, hverdict⟩
      · rintro call hmem rfl found text htext
        rw [hvalidations, List.mem_append] at hmem
        rcases hmem with hmem | hmem
        · obtain ⟨cookie, -, hbrowser⟩ | ⟨-, hnone⟩ :=
            checkBrowser_cases around (some call.2) captureError
          · rw [hbrowser] at hmem hother
            obtain ⟨rfl, -⟩ := field_of_mem_validations hmem
            exact hother (state_of_validator hmem htext)
          · rw [hnone] at hmem
            exact List.not_mem_nil hmem
        · obtain ⟨rfl, hfield⟩ := field_of_mem_validations hmem
          exact hunequal ⟨truthy_of_field hfield, cookieMapsEqual_self⟩
    · rw [hvalid] at hinvalid
      cases hinvalid
  · have hjudged (latest : String) :
        (latest, CheckState.invalid) ∈
            (checkedRun around account browserCookie captureError).judged ↔
          browserCookie.filter (· ≠ "") = some latest ∨ latest = account := by
      simp [checkedRun, hbrowser, hlocal]
    have hkept : ∀ hcoordinator : around.hasCoordinator = true,
        (checkedRun around account browserCookie captureError).recovery =
          some { message := _, stored := _ } := fun hcoordinator =>
      hrecovery.trans (if_pos hcoordinator)
    constructor
    · intro hsound hcoordinator _ _ latest hlatest
      exact (hjudged latest).mp (hsound.recovery _ latest (hkept hcoordinator) hlatest)
    · intro hstored
      refine ⟨fun entry hentry => absurd (hnil ▸ hentry) List.not_mem_nil, ?_, fun _ => hnil, ?_⟩
      · refine iff_of_false (fun hupdated => ?_) ?_
        · exact absurd (hstatus ▸ hupdated) (by decide)
        · rintro ⟨entry, hentry, -⟩
          exact absurd (hnil ▸ hentry) List.not_mem_nil
      · intro recovery latest hsome hlatest
        by_cases hcoordinator : around.hasCoordinator = true
        · cases (hkept hcoordinator).symm.trans hsome
          exact (hjudged latest).mpr (hstored hcoordinator hbrowser hlocal latest hlatest)
        · cases (hrecovery.trans (if_neg hcoordinator)).symm.trans hsome
  · refine iff_of_true (sound_of_untouched hnil hrecovery ?_) fun _ hbrowser hlocal =>
      absurd ⟨hbrowser, hlocal⟩ hnot
    exact ⟨fun hupdated => absurd (hstatus.symm.trans hupdated) (by decide),
      fun hupdated => absurd (hstatus.symm.trans hupdated) (by decide)⟩

/-- A run is sound exactly if no other cookie is stored while both cookies are found invalid. -/
theorem reconcile_account_browser_cookie_iff (around : Surroundings) (active : ActiveSession)
    (browserCookie captureError stored : Option String) (hkeeps : KeepsUnb around)
    (hbaseline : field "unb" (active.baselineCookie.getD "") ≠ "") :
    Sound around (active.baselineCookie.getD "") browserCookie
        (reconcileAccountBrowserCookie around active browserCookie captureError stored) ↔
      NotReplaced around active browserCookie captureError stored := by
  unfold reconcileAccountBrowserCookie NotReplaced
  by_cases hid : truthy active.accountId = true
  · rw [if_neg (by simp [hid])]
    cases hstored : around.others 0 stored with
    | none => exact iff_of_true (sound_of_untouched rfl rfl ⟨nofun, nofun⟩) nofun
    | some account =>
        dsimp only
        cases hsame : isMismatch (active.baselineCookie.getD "") account browserCookie with
        | true =>
            rw [if_pos rfl]
            refine iff_of_true (sound_of_untouched rfl rfl ⟨nofun, nofun⟩) ?_
            rintro _ _ - - ⟨⟩ hother
            cases hsame.symm.trans hother
        | false =>
            rw [if_neg Bool.false_ne_true, checkedRun_iff hkeeps hbaseline hsame]
            constructor
            · rintro hchecked _ latest - hcoordinator ⟨⟩ - hbrowser hlocal hlatest
              exact hchecked hcoordinator hbrowser hlocal latest hlatest
            · intro hreplaced hcoordinator hbrowser hlocal latest hlatest
              exact hreplaced account latest hid hcoordinator rfl hsame hbrowser hlocal hlatest
  · rw [if_pos (by simp [hid])]
    exact iff_of_true (sound_of_untouched rfl rfl ⟨nofun, nofun⟩)
      fun _ _ htruthy => absurd htruthy hid

def loginDuringValidation : Surroundings where
  others step stored := if step = 2 then some "unb=1; _m_h5_tk=fresh" else stored
  validator _ _ := .renewalError "auth_expired" "FAIL_SYS_SESSION_EXPIRED"
  hasCoordinator := true

def quiet : Surroundings where
  others _ stored := stored
  validator _ cookie := .valid cookie "Cookie 有效"
  hasCoordinator := true

def vncSession : ActiveSession := ⟨some "account", some "unb=1; _m_h5_tk=old"⟩

theorem keepsUnb_loginDuringValidation : KeepsUnb loginDuringValidation := nofun

theorem keepsUnb_quiet : KeepsUnb quiet := by
  rintro _ _ _ _ ⟨⟩
  rfl

theorem reconciliation_of_quiet_run :
    Sound quiet "unb=1; _m_h5_tk=old" (some "unb=1; _m_h5_tk=new")
      (reconcileAccountBrowserCookie quiet vncSession (some "unb=1; _m_h5_tk=new") none
        (some "unb=1; _m_h5_tk=old")) := by
  refine (reconcile_account_browser_cookie_iff quiet vncSession (some "unb=1; _m_h5_tk=new") none
    (some "unb=1; _m_h5_tk=old") keepsUnb_quiet (by decide)).mpr ?_
  rintro account latest - - ⟨⟩ - - - ⟨⟩
  exact .inr rfl

theorem fresh_cookie_is_recovered :
    ¬∀ (around : Surroundings) (active : ActiveSession)
      (browserCookie captureError stored : Option String), KeepsUnb around →
        field "unb" (active.baselineCookie.getD "") ≠ "" →
        Sound around (active.baselineCookie.getD "") browserCookie
          (reconcileAccountBrowserCookie around active browserCookie captureError stored) := by
  intro hsound
  have hrun := hsound loginDuringValidation vncSession (some "unb=1; _m_h5_tk=browser") none
    (some "unb=1; _m_h5_tk=old") keepsUnb_loginDuringValidation (by decide)
  have hjudged := hrun.recovery _ "unb=1; _m_h5_tk=fresh" rfl rfl
  revert hjudged
  decide

end XianyuAdmin.Cookies.BrowserReconciliation
