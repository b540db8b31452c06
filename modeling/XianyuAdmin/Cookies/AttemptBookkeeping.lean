import XianyuAdmin.Cookies.RenewalRecords

/-!
# The attempt that is under way

The pointer of the renewal row and the states of the attempts tell the same story:
an attempt is open exactly when the row points to it.  A call that takes the
pointer away closes the attempt with it, with one exception: the reset after a
login only clears the pointer.
-/

namespace XianyuAdmin.Cookies

open XianyuAdmin.Transition

variable {account next start final : CookieAccount}

structure Bookkeeping (account : CookieAccount) : Prop where
  atMostOne : ∀ left ∈ account.attempts.rows, ∀ right ∈ account.attempts.rows,
    left.state.isOpen → right.state.isOpen → left = right
  named : ∀ attemptId, account.activeAttemptId = some attemptId ↔
    ∃ attempt ∈ account.attempts.rows,
      attempt.state.isOpen ∧ attempt.attemptId = attemptId

/-- The second half says it all: ids are unique. -/
theorem bookkeeping_of_named
    (hnamed : ∀ attemptId, account.activeAttemptId = some attemptId ↔
      ∃ attempt ∈ account.attempts.rows,
        attempt.state.isOpen ∧ attempt.attemptId = attemptId) : Bookkeeping account where
  atMostOne := by
    intro left hleft right hright hleftOpen hrightOpen
    have hleftActive := (hnamed left.attemptId).mpr ⟨left, hleft, hleftOpen, rfl⟩
    have hrightActive := (hnamed right.attemptId).mpr ⟨right, hright, hrightOpen, rfl⟩
    have hsame : left.attemptId = right.attemptId :=
      Option.some.inj (hleftActive.symm.trans hrightActive)
    exact Table.eq_of_key hleft hright (List.mem_singleton.mpr rfl)
      (List.mem_singleton.mpr hsame)
  named := hnamed

theorem bookkeeping_new (cookie : String) : Bookkeeping { cookie := cookie } :=
  bookkeeping_of_named fun attemptId => by simp [CookieAccount.activeAttemptId]

theorem Bookkeeping.closed (hkept : Bookkeeping account) {attempt : RenewalAttempt}
    (hattempt : attempt ∈ account.attempts.rows)
    (hother : account.activeAttemptId ≠ some attempt.attemptId) :
    attempt.state.isOpen = false := by
  rw [← Bool.not_eq_true]
  intro hopen
  exact hother ((hkept.named _).mpr ⟨attempt, hattempt, hopen, rfl⟩)

section WriteActive

variable {change : RenewalAttempt → RenewalAttempt}

def changedActive (account : CookieAccount) (change : RenewalAttempt → RenewalAttempt) :
    List RenewalAttempt :=
  account.attempts.rows.map fun attempt =>
    if account.activeAttemptId = some attempt.attemptId then change attempt else attempt

theorem closed_of_changedActive (hkept : Bookkeeping account)
    (hcloses : ∀ attempt, (change attempt).state.isOpen = false)
    {attempt : RenewalAttempt} (hattempt : attempt ∈ changedActive account change) :
    attempt.state.isOpen = false := by
  obtain ⟨before, hbefore, rfl⟩ := List.mem_map.mp hattempt
  by_cases hactive : account.activeAttemptId = some before.attemptId
  · rw [if_pos hactive]
    exact hcloses before
  · rw [if_neg hactive]
    exact hkept.closed hbefore hactive

theorem bookkeeping_of_close (hkept : Bookkeeping account)
    (hpointer : next.activeAttemptId = none)
    (hattempts : next.attempts.rows = changedActive account change)
    (hcloses : ∀ attempt, (change attempt).state.isOpen = false) : Bookkeeping next := by
  apply bookkeeping_of_named
  intro attemptId
  rw [hpointer, hattempts]
  constructor
  · intro hsome
    cases hsome
  · rintro ⟨attempt, hattempt, hopen, -⟩
    rw [closed_of_changedActive hkept hcloses hattempt] at hopen
    cases hopen

/-- The pointer stays and the attempt under way stays open. -/
theorem bookkeeping_of_keep (hkept : Bookkeeping account)
    (hpointer : next.activeAttemptId = account.activeAttemptId)
    (hattempts : next.attempts.rows = changedActive account change)
    (hopens : ∀ attempt, (change attempt).state.isOpen = true)
    (hchange : ∀ attempt, (change attempt).attemptId = attempt.attemptId) :
    Bookkeeping next := by
  apply bookkeeping_of_named
  intro attemptId
  rw [hpointer, hattempts]
  constructor
  · intro hactive
    obtain ⟨attempt, hattempt, -, hid⟩ := (hkept.named attemptId).mp hactive
    have hnamesIt : account.activeAttemptId = some attempt.attemptId := by
      rw [hactive, hid]
    refine ⟨change attempt, ?_, hopens attempt, (hchange attempt).trans hid⟩
    exact List.mem_map.mpr ⟨attempt, hattempt, if_pos hnamesIt⟩
  · rintro ⟨attempt, hattempt, hopen, hid⟩
    obtain ⟨before, hbefore, rfl⟩ := List.mem_map.mp hattempt
    by_cases hactive : account.activeAttemptId = some before.attemptId
    · rw [if_pos hactive] at hid
      rw [hactive, ← hid, hchange]
    · rw [if_neg hactive, hkept.closed hbefore hactive] at hopen
      cases hopen

end WriteActive

/-- Neither the pointer nor the attempts are written. -/
theorem bookkeeping_of_same (hkept : Bookkeeping account)
    (hpointer : next.activeAttemptId = account.activeAttemptId)
    (hattempts : next.attempts = account.attempts) : Bookkeeping next := by
  apply bookkeeping_of_named
  intro attemptId
  rw [hpointer, hattempts]
  exact hkept.named attemptId

theorem interrupted_closes (now : ℕ) (attempt : RenewalAttempt) :
    (interrupted now attempt).state.isOpen = false := by
  unfold interrupted
  by_cases hopen : attempt.state.isOpen = true
  · rw [if_pos hopen]
    rfl
  · rw [if_neg hopen]
    exact Bool.eq_false_iff.mpr hopen

/-- The new attempt is the only one that is open. -/
theorem bookkeeping_begin {trigger : RenewalTrigger} {attemptId : AttemptId} {now : ℕ}
    (hkept : Bookkeeping account)
    (hbegin : beginCookieRenewal account trigger attemptId now = some next) :
    Bookkeeping next := by
  obtain ⟨attempts, hinsert, hnext⟩ := Option.bind_eq_some_iff.mp hbegin
  have hrows := Table.rows_of_insert? hinsert
  rw [← Option.some.inj hnext]
  apply bookkeeping_of_named
  intro named
  constructor
  · intro hactive
    have hsame : attemptId = named := Option.some.inj hactive
    simp only [hrows]
    exact ⟨_, List.mem_append_right _ (List.mem_singleton.mpr rfl), rfl, hsame⟩
  · rintro ⟨attempt, hattempt, hopen, hid⟩
    simp only [hrows] at hattempt
    rcases List.mem_append.mp hattempt with hold | hnew
    · rw [closed_of_changedActive hkept (interrupted_closes now) hold] at hopen
      cases hopen
    · rw [← hid, List.mem_singleton.mp hnew]
      rfl

theorem bookkeeping_persist (hkept : Bookkeeping account) (expectedCookie newCookie : String)
    (names : List String) (nextAttemptAt now : ℕ) :
    Bookkeeping
      (persistCookieRenewal account expectedCookie newCookie names nextAttemptAt now).1 := by
  unfold persistCookieRenewal
  by_cases hcurrent : account.cookie = expectedCookie
  · rw [if_pos hcurrent]
    refine bookkeeping_of_keep hkept ?_ rfl (fun _ => rfl) fun _ => rfl
    cases hrenewal : account.renewal <;>
      simp [CookieAccount.activeAttemptId, CookieAccount.renewalRow, hrenewal]
  · rw [if_neg hcurrent]
    exact bookkeeping_of_close hkept rfl rfl fun _ => rfl

theorem bookkeeping_finish (hkept : Bookkeeping account) (message : String)
    (runtimeApplied : Option Bool) (now : ℕ) :
    Bookkeeping (finishCookieRenewal account message runtimeApplied now) := by
  unfold finishCookieRenewal
  cases hrenewal : account.renewal with
  | none => exact hkept
  | some row => exact bookkeeping_of_close hkept rfl rfl fun _ => rfl

theorem bookkeeping_fail (hkept : Bookkeeping account) (failure : RenewalFailure)
    (now : ℕ) : Bookkeeping (failCookieRenewal account failure now) :=
  bookkeeping_of_close hkept rfl rfl fun _ => rfl

theorem bookkeeping_reschedule (hkept : Bookkeeping account) (nextAttemptAt now : ℕ) :
    Bookkeeping (rescheduleCookieRenewal account nextAttemptAt now) := by
  refine bookkeeping_of_same hkept ?_ rfl
  cases hrenewal : account.renewal <;>
    simp [CookieAccount.activeAttemptId, rescheduleCookieRenewal, hrenewal]

theorem bookkeeping_validation (hkept : Bookkeeping account)
    (expectedCookie newCookie source message : String) (now : ℕ) :
    Bookkeeping
      (recordCookieValidation account expectedCookie newCookie source message now).1 := by
  unfold recordCookieValidation
  split
  · exact hkept
  · refine bookkeeping_of_same hkept ?_ rfl
    cases hrenewal : account.renewal <;>
      simp [CookieAccount.activeAttemptId, CookieAccount.renewalRow, hrenewal]

theorem bookkeeping_updateCookie (hkept : Bookkeeping account) (cookie : Option String)
    (cookieSource : String) (now : ℕ) :
    Bookkeeping (updateAccountCookie account cookie cookieSource now) := by
  unfold updateAccountCookie
  cases cookie with
  | none => exact hkept
  | some cookie =>
      by_cases hsame : cookie = account.cookie
      · simpa only [if_pos hsame] using hkept
      · simp only [if_neg hsame]
        refine bookkeeping_of_same hkept ?_ rfl
        cases hrenewal : account.renewal with
        | none => simp [CookieAccount.activeAttemptId, hrenewal]
        | some row =>
            by_cases hopen : row.state.isOpen = true <;>
              simp [CookieAccount.activeAttemptId, hrenewal, hopen]

theorem bookkeeping_compareAndSet (hkept : Bookkeeping account)
    (expectedCookie newCookie source : String) (now : ℕ) :
    Bookkeeping (compareAndSetAccountCookie account expectedCookie newCookie source now) := by
  unfold compareAndSetAccountCookie
  split
  · exact hkept
  · exact bookkeeping_of_same hkept rfl rfl

theorem bookkeeping_reset_iff (hkept : Bookkeeping account) (nextAttemptAt : ℕ)
    (source : String) (now : ℕ) :
    Bookkeeping (resetCookieRenewalAfterLogin account nextAttemptAt source now) ↔
      account.activeAttemptId = none := by
  constructor
  · intro hreset
    by_contra hactive
    obtain ⟨attemptId, hattemptId⟩ := Option.ne_none_iff_exists'.mp hactive
    have hopen := (hkept.named attemptId).mp hattemptId
    have hpointer : none = some attemptId := (hreset.named attemptId).mpr hopen
    cases hpointer
  · intro hactive
    exact bookkeeping_of_same hkept hactive.symm rfl

def ResetsIdle (account : CookieAccount) : RenewalCall → Prop
  | .resetAfterLogin _ _ _ => account.activeAttemptId = none
  | _ => True

theorem bookkeeping_of_step {call : RenewalCall} (hkept : Bookkeeping account)
    (hidle : ResetsIdle account call) (hstep : step account call next) :
    Bookkeeping next := by
  cases call with
  | beginRenewal trigger attemptId now => exact bookkeeping_begin hkept hstep
  | persistRenewal expectedCookie newCookie names nextAttemptAt now =>
      rw [← Option.some.inj hstep]
      exact bookkeeping_persist hkept expectedCookie newCookie names nextAttemptAt now
  | finishRenewal message runtimeApplied now =>
      rw [← Option.some.inj hstep]
      exact bookkeeping_finish hkept message runtimeApplied now
  | failRenewal failure now =>
      rw [← Option.some.inj hstep]
      exact bookkeeping_fail hkept failure now
  | reschedule nextAttemptAt now =>
      rw [← Option.some.inj hstep]
      exact bookkeeping_reschedule hkept nextAttemptAt now
  | resetAfterLogin nextAttemptAt source now =>
      rw [← Option.some.inj hstep]
      exact (bookkeeping_reset_iff hkept nextAttemptAt source now).mpr hidle
  | recordValidation expectedCookie newCookie source message now =>
      rw [← Option.some.inj hstep]
      exact bookkeeping_validation hkept expectedCookie newCookie source message now
  | updateCookie cookie cookieSource now =>
      rw [← Option.some.inj hstep]
      exact bookkeeping_updateCookie hkept cookie cookieSource now
  | compareAndSet expectedCookie newCookie source now =>
      rw [← Option.some.inj hstep]
      exact bookkeeping_compareAndSet hkept expectedCookie newCookie source now

/-- In a run in which no login is reset under an attempt, at most one attempt is open
at any time, and the renewal row names it. -/
theorem renewal_attempts_bookkept {calls : List RenewalCall}
    (hrun : Run (restrict step ResetsIdle) start calls final)
    (hstart : Bookkeeping start) : Bookkeeping final :=
  hrun.invariant Bookkeeping
    (fun _ _ _ hkept hstep => bookkeeping_of_step hkept hstep.1 hstep.2) hstart

/-- An attempt that ends before the next login. -/
theorem renewal_attempts_bookkept_login :
    ∃ final, Run step { cookie := "unb=1" }
        [.beginRenewal .manual ⟨"a1", by decide⟩ 1000,
          .failRenewal
            { message := "闲鱼续期接口请求超时", nextAttemptAt := some 9000,
              errorKind := .failed, phase := .renewing, errorSource := none } 2000,
          .resetAfterLogin 90000 "qr_login" 3000] final ∧
      Bookkeeping final := by
  have hrun : Run (restrict step ResetsIdle) { cookie := "unb=1" }
      [.beginRenewal .manual ⟨"a1", by decide⟩ 1000,
        .failRenewal
          { message := "闲鱼续期接口请求超时", nextAttemptAt := some 9000,
            errorKind := .failed, phase := .renewing, errorSource := none } 2000,
        .resetAfterLogin 90000 "qr_login" 3000] _ :=
    .cons ⟨trivial, rfl⟩ (.cons ⟨trivial, rfl⟩ (.cons ⟨rfl, rfl⟩ (.nil _)))
  exact ⟨_, hrun.forget, renewal_attempts_bookkept hrun (bookkeeping_new "unb=1")⟩

/-- A login during an attempt leaves the attempt running for ever. -/
theorem renewal_attempts_bookkept_fails :
    ¬ ∀ calls final, Run step { cookie := "unb=1" } calls final → Bookkeeping final := by
  intro hclaim
  have hkept := hclaim
    [.beginRenewal .manual ⟨"a1", by decide⟩ 1000, .resetAfterLogin 90000 "qr_login" 2000] _
    (.cons rfl (.cons rfl (.nil _)))
  have hnamed := (hkept.named ⟨"a1", by decide⟩).mpr ⟨_, List.mem_cons_self, rfl, rfl⟩
  cases hnamed

end XianyuAdmin.Cookies
