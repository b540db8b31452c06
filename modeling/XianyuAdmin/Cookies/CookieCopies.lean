import XianyuAdmin.Cookies.LiveCookies
import XianyuAdmin.Core.Copies

/-!
# The stored cookie follows the live one

The stored cookie is a copy of the live one that follows by compare-and-set.  A report that
was overtaken finds another cookie, and the session takes the stored one.  The copy goes
astray where the store accepts a report that is no longer current: of a cookie that was not
applied, or that was applied over another one than the expected, or replaced since.
-/

namespace XianyuAdmin.Cookies

open Transition

def Report.isCurrent (epoch : ℕ) (report : Report) : Bool :=
  report.appliedOver = some report.expected && report.epoch = epoch

namespace CookieTask

def change (epoch : ℕ) : CookieTask → Option (String × String)
  | .reporting report =>
      if report.isCurrent epoch then some (report.expected, report.updated) else none
  | .waiting _ _ | .exchanging _ _ | .rereading _ | .replacing _ | .ended => none

def isConflict : CookieTask → Bool
  | .rereading _ | .replacing _ => true
  | .waiting _ _ | .exchanging _ _ | .reporting _ | .ended => false

def isUnsettled (epoch : ℕ) : CookieTask → Bool
  | .reporting report => !report.isCurrent epoch
  | .rereading _ | .replacing _ => true
  | .waiting _ _ | .exchanging _ _ | .ended => false

def holdsLock : CookieTask → Bool
  | .exchanging _ _ => true
  | .reporting report => report.holdsLock
  | .rereading holdsLock => holdsLock
  | .waiting _ _ | .replacing _ | .ended => false

end CookieTask

/-- The store accepts no report but of a cookie that was applied, and while the session runs
none but a current one, with no conflict to be resolved; and a stored cookie that the session
does not take is of an enabled account. -/
def acceptsCurrent (state : CookieState) : CookieStep → Prop
  | .compares index =>
      ∀ report, state.tasks[index]? = some (.reporting report) →
        state.stored = report.expected →
        report.appliedOver ≠ none ∧
          (state.running = true → report.isCurrent state.epoch = true ∧
            ∀ task ∈ state.tasks, task.isConflict = false)
  | .replaces index enabled =>
      ∀ cookie, state.tasks[index]? = some (.replacing cookie) → state.running = true →
        isReplacement state.myId cookie = true ∨ enabled = true
  | .begins _ | .acquires _ | .finishes _ _ | .rereads _ | .stops | .drops _ => True

structure FollowsLive (state : CookieState) : Prop where
  own : isOwn state.myId state.stored = true
  same : state.running = true → (∀ task ∈ state.tasks, task = .ended) →
    state.stored = state.live

/-- `XianyuAccountSession(account)`, with the stored cookie. -/
def CookieState.start (cookie : String) : Option CookieState :=
  ((transCookies cookie).get? "unb").map fun myId =>
    { myId := myId, stored := cookie, live := cookie }

variable {myId expected updated : String} {exchange : Exchange} {operation : Operation}

variable {cookie : String}

theorem ownChange_eq_some (h : ownChange myId expected updated = some cookie) :
    cookie = updated ∧ isChanged expected updated = true ∧ isOwn myId updated = true := by
  unfold ownChange at h
  split at h
  · rename_i hboth
    cases h
    exact ⟨rfl, by simpa using hboth⟩
  · cases h

theorem applied_reportChanged (myId expected : String) (exchange : Exchange) :
    (reportChanged myId expected exchange).applied = none ∨
      ∃ cookie, (reportChanged myId expected exchange).applied = some cookie ∧
        (reportChanged myId expected exchange).reported = some cookie ∧
        isOwn myId cookie = true := by
  by_cases hwithout : exchange.isWithout = true
  · simp [reportChanged, hwithout]
  · cases happlied : ownChange myId expected (sessionCookiesText exchange.jar) with
    | none => simp [reportChanged, hwithout, happlied]
    | some cookie =>
        obtain ⟨rfl, hchanged, hown⟩ := ownChange_eq_some happlied
        simp [reportChanged, hwithout, happlied, hchanged, hown]

theorem applied_reportApplied (myId expected : String) (exchange : Exchange) :
    (reportApplied myId expected exchange).applied = none ∨
      ∃ cookie, (reportApplied myId expected exchange).applied = some cookie ∧
        (reportApplied myId expected exchange).reported = some cookie ∧
        isOwn myId cookie = true := by
  by_cases hwithout : exchange.isWithout = true
  · simp [reportApplied, hwithout]
  · cases happlied : ownChange myId expected (sessionCookiesText exchange.jar) with
    | none => simp [reportApplied, hwithout, happlied]
    | some cookie =>
        obtain ⟨rfl, -, hown⟩ := ownChange_eq_some happlied
        simp [reportApplied, hwithout, happlied, hown]

theorem applied_refreshToken (myId expected : String) (exchange : Exchange) :
    (refreshToken myId expected exchange).applied = none ∨
      ∃ cookie, (refreshToken myId expected exchange).applied = some cookie ∧
        ((refreshToken myId expected exchange).reported = some cookie ∨
          (refreshToken myId expected exchange).reported = none ∧ cookie = expected) ∧
        isOwn myId cookie = true := by
  by_cases hrefused : (exchange.isWithout || sessionCookiesText exchange.jar = "" ||
      !isOwn myId (sessionCookiesText exchange.jar)) = true
  · exact .inl (by simp only [refreshToken, if_pos hrefused])
  · have hown : isOwn myId (sessionCookiesText exchange.jar) = true := by
      simp only [Bool.or_eq_true, not_or, Bool.not_eq_true, Bool.not_eq_false'] at hrefused
      exact hrefused.2
    refine .inr ⟨sessionCookiesText exchange.jar, ?_, ?_, hown⟩
    · simp only [refreshToken, if_neg hrefused]
    · simp only [refreshToken, if_neg hrefused]
      by_cases hsame : sessionCookiesText exchange.jar = expected
      · exact .inr ⟨if_neg (by simpa using hsame), hsame⟩
      · exact .inl (if_pos hsame)

theorem applied_outcome (myId expected : String) (exchange : Exchange) (operation : Operation) :
    (operation.outcome myId expected exchange).applied = none ∨
      ∃ cookie, (operation.outcome myId expected exchange).applied = some cookie ∧
        ((operation.outcome myId expected exchange).reported = some cookie ∨
          (operation.outcome myId expected exchange).reported = none ∧ cookie = expected ∧
            operation.readsEarly = false) ∧
        isOwn myId cookie = true := by
  have hreported : ∀ outcome : Outcome, (outcome.applied = none ∨
      ∃ cookie, outcome.applied = some cookie ∧ outcome.reported = some cookie ∧
        isOwn myId cookie = true) →
      outcome.applied = none ∨ ∃ cookie, outcome.applied = some cookie ∧
        (outcome.reported = some cookie ∨ outcome.reported = none ∧ cookie = expected ∧
          operation.readsEarly = false) ∧ isOwn myId cookie = true := by
    rintro outcome (hnone | ⟨cookie, happlied, hreported, hown⟩)
    · exact .inl hnone
    · exact .inr ⟨cookie, happlied, .inl hreported, hown⟩
  cases operation with
  | getOrderHeadinfo => exact hreported _ (applied_reportChanged myId expected exchange)
  | uploadImage => exact hreported _ (applied_reportChanged myId expected exchange)
  | runIdentityQuery => exact hreported _ (applied_reportApplied myId expected exchange)
  | platformBlacklist => exact hreported _ (applied_reportApplied myId expected exchange)
  | getImToken => exact hreported _ (applied_reportApplied myId expected exchange)
  | refreshToken =>
      rcases applied_refreshToken myId expected exchange with hnone | ⟨cookie, happlied, hreport, hown⟩
      · exact .inl hnone
      · refine .inr ⟨cookie, happlied, hreport.imp_right fun hsame => ?_, hown⟩
        exact ⟨hsame.1, hsame.2, rfl⟩

/-- What every step preserves that lets the store accept current reports only. -/
structure Follows (state : CookieState) : Prop where
  own : isOwn state.myId state.stored = true
  reports : ∀ report, .reporting report ∈ state.tasks →
    (report.appliedOver ≠ none → isOwn state.myId report.updated = true) ∧
      report.epoch ≤ state.epoch
  holder : ∀ index task, state.tasks[index]? = some task → task.holdsLock = true →
    state.holder = some index
  late : ∀ operation expected, .waiting operation expected ∈ state.tasks →
    operation.readsEarly = false → expected = none
  fresh : ∀ operation expected, .exchanging operation expected ∈ state.tasks →
    operation.readsEarly = false → expected = state.live
  replacing : state.running = true → ∀ cookie, .replacing cookie ∈ state.tasks →
    cookie = state.stored
  settled : state.running = true →
    Balanced (CookieTask.change state.epoch) state.stored state.live state.tasks ∨
      ∃ task ∈ state.tasks, task.isUnsettled state.epoch = true

variable {state next : CookieState} {index : ℕ} {old new : CookieTask}

theorem Follows.followsLive (h : Follows state) : FollowsLive state where
  own := h.own
  same := fun hrunning hended => by
    rcases h.settled hrunning with hbalanced | ⟨task, htask, hunsettled⟩
    · exact hbalanced.eq fun task htask => by rw [hended task htask]; rfl
    · rw [hended task htask] at hunsettled
      cases hunsettled

theorem follows_start (hstart : CookieState.start cookie = some state) : Follows state := by
  obtain ⟨myId, hmyId, rfl⟩ := Option.map_eq_some_iff.mp hstart
  exact
    { own := by simp [isOwn, hmyId]
      reports := nofun
      holder := nofun
      late := nofun
      fresh := nofun
      replacing := nofun
      settled := fun _ => .inl (Balanced.self cookie nofun) }

/-- A task that stays unsettled is there after another one was written. -/
theorem unsettled_set {tasks : List CookieTask} {epoch : ℕ} (new : CookieTask)
    (hold : tasks[index]? = some old) (hsettled : old.isUnsettled epoch = false)
    (hunsettled : ∃ task ∈ tasks, task.isUnsettled epoch = true) :
    ∃ task ∈ tasks.set index new, task.isUnsettled epoch = true := by
  obtain ⟨task, htask, hstate⟩ := hunsettled
  refine ⟨task, ?_, hstate⟩
  obtain ⟨other, hother⟩ := List.mem_iff_getElem?.mp htask
  have hne : index ≠ other := by
    rintro rfl
    rw [hold] at hother
    cases hother
    rw [hsettled] at hstate
    cases hstate
  exact List.mem_iff_getElem?.mpr ⟨other, by rw [List.getElem?_set_ne hne, hother]⟩

theorem mem_set_self {tasks : List CookieTask} (new : CookieTask)
    (hold : tasks[index]? = some old) : new ∈ tasks.set index new :=
  List.mem_iff_getElem?.mpr
    ⟨index, by rw [List.getElem?_set_self (List.getElem?_eq_some_iff.mp hold).1]⟩

/-- A step writes one task, and what of the rest the invariant speaks about. -/
structure Writes (state next : CookieState) (index : ℕ) (old new : CookieTask) : Prop where
  old : state.tasks[index]? = some old
  tasks : next.tasks = state.tasks.set index new
  myId : next.myId = state.myId
  own : isOwn state.myId next.stored = true
  epoch : state.epoch ≤ next.epoch
  report : ∀ report, new = .reporting report →
    (report.appliedOver ≠ none → isOwn state.myId report.updated = true) ∧
      report.epoch ≤ next.epoch
  holder : ∀ other, other ≠ index → state.holder = some other → next.holder = some other
  holds : new.holdsLock = true → next.holder = some index
  notWaiting : ∀ operation expected, new ≠ .waiting operation expected
  live : next.live = state.live ∨ ∀ other, other ≠ index → state.holder ≠ some other
  exchanging : ∀ operation expected, new = .exchanging operation expected →
    operation.readsEarly = false → expected = next.live
  running : next.running = true → state.running = true
  replacing : ∀ cookie, new = .replacing cookie → cookie = next.stored
  stored : next.running = true →
    next.stored = state.stored ∨ ∀ task ∈ state.tasks, task.isConflict = false
  settled : next.running = true →
    Balanced (CookieTask.change next.epoch) next.stored next.live next.tasks ∨
      ∃ task ∈ next.tasks, task.isUnsettled next.epoch = true

theorem Follows.write (h : Follows state) (hwrites : Writes state next index old new) :
    Follows next := by
  have htask : ∀ {other : ℕ} {task : CookieTask}, next.tasks[other]? = some task →
      other = index ∧ task = new ∨ other ≠ index ∧ state.tasks[other]? = some task := by
    intro other task hget
    rw [hwrites.tasks] at hget
    by_cases heq : other = index
    · subst heq
      rw [List.getElem?_set_self (List.getElem?_eq_some_iff.mp hwrites.old).1] at hget
      exact .inl ⟨rfl, (Option.some.inj hget).symm⟩
    · rw [List.getElem?_set_ne (Ne.symm heq)] at hget
      exact .inr ⟨heq, hget⟩
  have hmem : ∀ {task : CookieTask}, task ∈ next.tasks → task = new ∨
      ∃ other, other ≠ index ∧ state.tasks[other]? = some task := by
    intro task hmember
    obtain ⟨other, hother⟩ := List.mem_iff_getElem?.mp hmember
    rcases htask hother with ⟨-, hnew⟩ | ⟨hne, hbefore⟩
    · exact .inl hnew
    · exact .inr ⟨other, hne, hbefore⟩
  exact
    { own := hwrites.myId ▸ hwrites.own
      reports := fun report hreport => by
        rw [hwrites.myId]
        rcases hmem hreport with hnew | ⟨other, -, hbefore⟩
        · exact hwrites.report report hnew.symm
        · obtain ⟨hown, hepoch⟩ := h.reports report (List.mem_of_getElem? hbefore)
          exact ⟨hown, hepoch.trans hwrites.epoch⟩
      holder := fun other task hget hholds => by
        rcases htask hget with ⟨rfl, rfl⟩ | ⟨hne, hbefore⟩
        · exact hwrites.holds hholds
        · exact hwrites.holder other hne (h.holder other task hbefore hholds)
      late := fun operation expected hwaiting => by
        rcases hmem hwaiting with hnew | ⟨other, -, hbefore⟩
        · exact absurd hnew.symm (hwrites.notWaiting operation expected)
        · exact h.late operation expected (List.mem_of_getElem? hbefore)
      fresh := fun operation expected hexchanging => by
        rcases hmem hexchanging with hnew | ⟨other, hne, hbefore⟩
        · exact hwrites.exchanging operation expected hnew.symm
        · have hholder := h.holder other _ hbefore rfl
          rw [hwrites.live.resolve_right fun hnone => hnone other hne hholder]
          exact h.fresh operation expected (List.mem_of_getElem? hbefore)
      replacing := fun hrunning cookie hreplacing => by
        rcases hmem hreplacing with hnew | ⟨other, -, hbefore⟩
        · exact hwrites.replacing cookie hnew.symm
        · have hmember := List.mem_of_getElem? hbefore
          rw [(hwrites.stored hrunning).resolve_right fun hnone =>
            absurd (hnone _ hmember) (by simp [CookieTask.isConflict])]
          exact h.replacing (hwrites.running hrunning) cookie hmember
      settled := hwrites.settled }

theorem Follows.begin (h : Follows state) (operation : Operation) {expected : Option String}
    (hlate : operation.readsEarly = false → expected = none) :
    Follows { state with tasks := state.tasks ++ [.waiting operation expected] } := by
  have hmem : ∀ {task : CookieTask}, task ∈ state.tasks ++ [.waiting operation expected] →
      task ∈ state.tasks ∨ task = .waiting operation expected := fun hmember =>
    (List.mem_append.mp hmember).imp_right List.mem_singleton.mp
  exact
    { own := h.own
      reports := fun report hreport => h.reports report ((hmem hreport).resolve_right nofun)
      holder := fun other task hget hholds => by
        rcases Nat.lt_or_ge other state.tasks.length with hlt | hge
        · rw [List.getElem?_append_left hlt] at hget
          exact h.holder other task hget hholds
        · obtain rfl : task = .waiting operation expected := by
            rw [List.getElem?_append_right hge] at hget
            exact List.mem_singleton.mp (List.mem_of_getElem? hget)
          cases hholds
      late := fun other early hwaiting => by
        rcases hmem hwaiting with hbefore | hnew
        · exact h.late other early hbefore
        · cases hnew
          exact hlate
      fresh := fun other early hexchanging =>
        h.fresh other early ((hmem hexchanging).resolve_right nofun)
      replacing := fun hrunning cookie hreplacing =>
        h.replacing hrunning cookie ((hmem hreplacing).resolve_right nofun)
      settled := fun hrunning => by
        rcases h.settled hrunning with hbalanced | ⟨task, htask, hunsettled⟩
        · exact .inl (hbalanced.append rfl)
        · exact .inr ⟨task, List.mem_append_left _ htask, hunsettled⟩ }

theorem Follows.acquire (h : Follows state) {expected : Option String}
    (hold : state.tasks[index]? = some (.waiting operation expected))
    (hfree : state.holder = none) :
    Follows ({ state with holder := some index }.setTask index
      (.exchanging operation (expected.getD state.live))) :=
  h.write
    { old := hold
      tasks := rfl
      myId := rfl
      own := h.own
      epoch := le_rfl
      report := nofun
      holder := fun other _ hother => absurd (hfree.symm.trans hother) nofun
      holds := fun _ => rfl
      notWaiting := nofun
      live := .inl rfl
      exchanging := fun other early heq hlate => by
        cases heq
        rw [h.late operation expected (List.mem_of_getElem? hold) hlate]
        rfl
      running := id
      replacing := nofun
      stored := fun _ => .inl rfl
      settled := fun hrunning => by
        rcases h.settled hrunning with hbalanced | hunsettled
        · exact .inl (hbalanced.keep hold rfl)
        · exact .inr (unsettled_set _ hold rfl hunsettled) }

theorem Follows.release_holder (h : Follows state) (hold : state.tasks[index]? = some old)
    (holdsLock : Bool) (hholds : holdsLock = true → old.holdsLock = true) (other : ℕ)
    (hne : other ≠ index) (hother : state.holder = some other) :
    (if holdsLock then none else state.holder) = some other := by
  split
  · rename_i hreleases
    have hindex := h.holder index old hold (hholds hreleases)
    rw [hother] at hindex
    exact absurd (Option.some.inj hindex) hne
  · exact hother

theorem Follows.finishSilent (h : Follows state)
    (hold : state.tasks[index]? = some (.exchanging operation expected)) :
    Follows ((state.release true).setTask index .ended) :=
  h.write
    { old := hold
      tasks := rfl
      myId := rfl
      own := h.own
      epoch := le_rfl
      report := nofun
      holder := h.release_holder hold true fun _ => rfl
      holds := nofun
      notWaiting := nofun
      live := .inl rfl
      exchanging := nofun
      running := id
      replacing := nofun
      stored := fun _ => .inl rfl
      settled := fun hrunning => by
        rcases h.settled hrunning with hbalanced | hunsettled
        · exact .inl (hbalanced.keep hold rfl)
        · exact .inr (unsettled_set _ hold rfl hunsettled) }

theorem Follows.finishReport (h : Follows state) {applied : Option String}
    (hold : state.tasks[index]? = some (.exchanging operation expected))
    (happlied : applied = none ∨ applied = some updated ∧ isOwn state.myId updated = true) :
    Follows (({ state with live := applied.getD state.live }.release
        (!operation.reportsLocked)).setTask index
      (.reporting
        { expected := expected
          updated := updated
          holdsLock := operation.reportsLocked
          appliedOver := applied.map fun _ => state.live
          epoch := state.epoch })) := by
  have hholder := h.holder index _ hold rfl
  refine h.write
    { old := hold
      tasks := rfl
      myId := rfl
      own := h.own
      epoch := le_rfl
      report := fun report heq => ?_
      holder := h.release_holder hold (!operation.reportsLocked) fun _ => rfl
      holds := fun hlocked => ?_
      notWaiting := nofun
      live := .inr fun other hne hother => hne (Option.some.inj (hother.symm.trans hholder))
      exchanging := nofun
      running := id
      replacing := nofun
      stored := fun _ => .inl rfl
      settled := fun hrunning => ?_ }
  · cases heq
    refine ⟨fun hsome => ?_, le_rfl⟩
    rcases happlied with rfl | ⟨-, hown⟩
    · exact absurd rfl hsome
    · exact hown
  · have hreports : operation.reportsLocked = true := hlocked
    simp [CookieState.setTask, CookieState.release, hreports, hholder]
  · rcases happlied with rfl | ⟨rfl, -⟩
    · exact .inr ⟨_, mem_set_self _ hold, by simp [CookieTask.isUnsettled, Report.isCurrent]⟩
    · by_cases hfresh : expected = state.live
      · subst hfresh
        rcases h.settled hrunning with hbalanced | hunsettled
        · refine .inl (hbalanced.change hold rfl ?_)
          simp [CookieTask.change, Report.isCurrent, CookieState.setTask, CookieState.release]
        · exact .inr (unsettled_set _ hold rfl hunsettled)
      · refine .inr ⟨_, mem_set_self _ hold, ?_⟩
        simp [CookieTask.isUnsettled, Report.isCurrent, Ne.symm hfresh]

theorem Follows.finish (h : Follows state)
    (hold : state.tasks[index]? = some (.exchanging operation expected)) (exchange : Exchange) :
    Follows (state.finish index operation expected exchange) := by
  have happlied := applied_outcome state.myId expected exchange operation
  unfold CookieState.finish
  simp only
  cases hreported : (operation.outcome state.myId expected exchange).reported with
  | none =>
      have hlive : (operation.outcome state.myId expected exchange).applied.getD state.live =
          state.live := by
        rcases happlied with hnone | ⟨cookie, hcookie, hreport, -⟩
        · rw [hnone]
          rfl
        · rcases hreport with hsome | ⟨-, hexpected, hlate⟩
          · rw [hreported] at hsome
            cases hsome
          · rw [hcookie, hexpected]
            exact h.fresh operation expected (List.mem_of_getElem? hold) hlate
      rw [hlive]
      exact h.finishSilent hold
  | some updated =>
      refine h.finishReport hold ?_
      rcases happlied with hnone | ⟨cookie, hcookie, hreport, hown⟩
      · exact .inl hnone
      · rcases hreport with hsome | ⟨hnone, -⟩
        · rw [hreported] at hsome
          cases hsome
          exact .inr ⟨hcookie, hown⟩
        · rw [hreported] at hnone
          cases hnone

theorem Follows.accept (h : Follows state) {report : Report}
    (hold : state.tasks[index]? = some (.reporting report))
    (hstored : state.stored = report.expected)
    (hallowed : acceptsCurrent state (.compares index)) :
    Follows (({ state with stored := report.updated }.release report.holdsLock).setTask index
      .ended) := by
  obtain ⟨hsome, hcurrent⟩ := hallowed report hold hstored
  have hmember := List.mem_of_getElem? hold
  refine h.write
    { old := hold
      tasks := rfl
      myId := rfl
      own := (h.reports report hmember).1 hsome
      epoch := le_rfl
      report := nofun
      holder := h.release_holder hold report.holdsLock id
      holds := nofun
      notWaiting := nofun
      live := .inl rfl
      exchanging := nofun
      running := id
      replacing := nofun
      stored := fun hrunning => .inr (hcurrent hrunning).2
      settled := fun hrunning => ?_ }
  have hcurrent := (hcurrent hrunning).1
  have hchange : CookieTask.change state.epoch (.reporting report) =
      some (state.stored, report.updated) := by
    rw [CookieTask.change, if_pos hcurrent, hstored]
  rcases h.settled hrunning with hbalanced | hunsettled
  · exact .inl (hbalanced.accept hold hchange rfl)
  · have hsettled : CookieTask.isUnsettled state.epoch (.reporting report) = false := by
      simp [CookieTask.isUnsettled, hcurrent]
    exact .inr (unsettled_set _ hold hsettled hunsettled)

theorem Follows.compare (h : Follows state) {report : Report}
    (hold : state.tasks[index]? = some (.reporting report))
    (hallowed : acceptsCurrent state (.compares index)) :
    Follows (state.compare index report) := by
  unfold CookieState.compare
  split
  · rename_i hstored
    exact h.accept hold hstored hallowed
  · exact h.write
      { old := hold
        tasks := rfl
        myId := rfl
        own := h.own
        epoch := le_rfl
        report := nofun
        holder := fun _ _ hother => hother
        holds := fun hholds => h.holder index _ hold hholds
        notWaiting := nofun
        live := .inl rfl
        exchanging := nofun
        running := id
        replacing := nofun
        stored := fun _ => .inl rfl
        settled := fun _ => .inr ⟨_, mem_set_self _ hold, rfl⟩ }

theorem stored_ne_empty (h : Follows state) : state.stored ≠ "" := by
  intro hempty
  have hown := h.own
  rw [hempty] at hown
  cases hown

/-- After a conflict the session is to take the stored cookie. -/
theorem Follows.reread (h : Follows state) {holdsLock : Bool}
    (hold : state.tasks[index]? = some (.rereading holdsLock)) :
    Follows (state.reread index holdsLock) := by
  unfold CookieState.reread
  rw [if_neg (stored_ne_empty h)]
  exact h.write
    { old := hold
      tasks := rfl
      myId := rfl
      own := h.own
      epoch := le_rfl
      report := nofun
      holder := h.release_holder hold holdsLock id
      holds := nofun
      notWaiting := nofun
      live := .inl rfl
      exchanging := nofun
      running := id
      replacing := fun cookie heq => by
        cases heq
        rfl
      stored := fun _ => .inl rfl
      settled := fun _ => .inr ⟨_, mem_set_self _ hold, rfl⟩ }

/-- A task ends in a session that does not run, or will not any more. -/
theorem Follows.endStopped (h : Follows state) (hold : state.tasks[index]? = some old)
    (holdsLock : Bool) (hholds : holdsLock = true → old.holdsLock = true) :
    Follows ({ state with running := false }.release holdsLock |>.setTask index .ended) :=
  h.write
    { old := hold
      tasks := rfl
      myId := rfl
      own := h.own
      epoch := le_rfl
      report := nofun
      holder := h.release_holder hold holdsLock hholds
      holds := nofun
      notWaiting := nofun
      live := .inl rfl
      exchanging := nofun
      running := nofun
      replacing := nofun
      stored := nofun
      settled := nofun }

theorem stopped_eq (hstopped : state.running = false) :
    ({ state with running := false } : CookieState) = state := by
  cases state
  simp_all

theorem Follows.replace (h : Follows state) {enabled : Bool}
    (hold : state.tasks[index]? = some (.replacing cookie)) (hfree : state.holder = none)
    (hallowed : acceptsCurrent state (.replaces index enabled)) :
    Follows (state.replace index cookie enabled) := by
  unfold CookieState.replace
  cases hrunning : state.running with
  | false =>
      have hended := h.endStopped hold false nofun
      rw [stopped_eq hrunning] at hended
      exact hended
  | true =>
      have hcookie := h.replacing hrunning cookie (List.mem_of_getElem? hold)
      simp only [Bool.not_true, Bool.false_eq_true, if_false]
      split
      · refine h.write
          { old := hold
            tasks := rfl
            myId := rfl
            own := h.own
            epoch := Nat.le_succ _
            report := nofun
            holder := fun _ _ hother => hother
            holds := nofun
            notWaiting := nofun
            live := .inr fun other _ hother => absurd (hfree.symm.trans hother) nofun
            exchanging := nofun
            running := fun _ => hrunning
            replacing := nofun
            stored := fun _ => .inl rfl
            settled := fun _ => .inl ?_ }
        have hnone : ∀ task ∈ state.tasks.set index .ended,
            CookieTask.change (state.epoch + 1) task = none := by
          intro task htask
          cases task with
          | reporting report =>
              have hbefore := (List.mem_or_eq_of_mem_set htask).resolve_right nofun
              have hepoch := (h.reports report hbefore).2
              have hpast : report.epoch ≠ state.epoch + 1 := by omega
              simp [CookieTask.change, Report.isCurrent, hpast]
          | waiting _ _ | exchanging _ _ | rereading _ | replacing _ | ended => rfl
        rw [hcookie]
        exact Balanced.self state.stored hnone
      · rename_i hrefused
        rw [(hallowed cookie hold hrunning).resolve_left hrefused]
        exact h.endStopped hold false nofun

theorem Follows.stop (h : Follows state) : Follows { state with running := false } where
  own := h.own
  reports := h.reports
  holder := h.holder
  late := h.late
  fresh := h.fresh
  replacing := nofun
  settled := nofun

theorem follows_step {step : CookieStep} (h : Follows state)
    (hstep : restrict cookieStep acceptsCurrent state step next) : Follows next := by
  obtain ⟨hallowed, happly⟩ := hstep
  cases step with
  | begins operation =>
      cases happly
      refine h.begin operation fun hlate => ?_
      rw [hlate]
      rfl
  | acquires index =>
      simp only [cookieStep, ofPartial, CookieState.apply] at happly
      split at happly
      · rename_i operation expected hold hfree
        cases happly
        exact h.acquire hold hfree
      · cases happly
  | finishes index exchange =>
      simp only [cookieStep, ofPartial, CookieState.apply] at happly
      split at happly
      · rename_i operation expected hold
        cases happly
        exact h.finish hold exchange
      · cases happly
  | compares index =>
      simp only [cookieStep, ofPartial, CookieState.apply] at happly
      split at happly
      · rename_i report hold
        cases happly
        exact h.compare hold hallowed
      · cases happly
  | rereads index =>
      simp only [cookieStep, ofPartial, CookieState.apply] at happly
      split at happly
      · rename_i holdsLock hold
        cases happly
        exact h.reread hold
      · cases happly
  | replaces index enabled =>
      simp only [cookieStep, ofPartial, CookieState.apply] at happly
      split at happly
      · rename_i cookie hold hfree
        cases happly
        exact h.replace hold hfree hallowed
      · cases happly
  | stops =>
      cases happly
      exact h.stop
  | drops index =>
      simp only [cookieStep, ofPartial, CookieState.apply] at happly
      split at happly
      · rename_i report hold hstopped
        cases happly
        have hended := h.endStopped hold report.holdsLock id
        rw [stopped_eq hstopped] at hended
        exact hended
      · cases happly

/-- As long as the store accepts no report that is not current any more, the stored cookie is
the account's own, and it is the live one whenever nothing is in progress. -/
theorem stored_cookie_follows_live (cookie : String) (start : CookieState)
    (hstart : CookieState.start cookie = some start) (steps : List CookieStep)
    (final : CookieState)
    (hrun : Run (restrict cookieStep acceptsCurrent) start steps final) :
    FollowsLive final :=
  (hrun.invariant Follows (fun _ _ _ h hstep => follows_step h hstep)
    (follows_start hstart)).followsLive

def jarOf (entries : List (String × String)) : CookieMap := Dict.ofEntries entries

def sellerCookie : String := "unb=1; _m_h5_tk=a"

def sellerState : CookieState where
  myId := "1"
  stored := sellerCookie
  live := sellerCookie

/-- A query gets a new cookie, which the store accepts. -/
theorem renewed_cookie_follows :
    ∃ final, Run (restrict cookieStep acceptsCurrent) sellerState
        [.begins .runIdentityQuery, .acquires 0,
          .finishes 0 { jar := jarOf [("unb", "1"), ("_m_h5_tk", "b")] }, .compares 0] final ∧
      FollowsLive final ∧ final.stored = "unb=1; _m_h5_tk=b" := by
  have hrun : ∃ final, Run (restrict cookieStep acceptsCurrent) sellerState
        [.begins .runIdentityQuery, .acquires 0,
          .finishes 0 { jar := jarOf [("unb", "1"), ("_m_h5_tk", "b")] }, .compares 0] final ∧
      final.stored = "unb=1; _m_h5_tk=b" := by
    refine ⟨_, .cons ⟨trivial, rfl⟩ (.cons ⟨trivial, rfl⟩ (.cons ⟨trivial, rfl⟩
      (.cons ⟨?_, rfl⟩ (.nil _)))), rfl⟩
    intro report hget _
    cases hget
    refine ⟨nofun, fun _ => ⟨rfl, fun task htask => ?_⟩⟩
    obtain rfl := List.mem_singleton.mp htask
    rfl
  obtain ⟨final, hrun, hstored⟩ := hrun
  exact ⟨final, hrun, stored_cookie_follows_live sellerCookie sellerState rfl _ final hrun, hstored⟩

/-- A query for an order finds another account's cookie in the jar: it is not applied, and
the store accepts it. -/
theorem foreign_cookie_stored :
    ∃ steps final, Run cookieStep sellerState steps final ∧
      (∀ task ∈ final.tasks, task = .ended) ∧ final.running = true ∧
      isOwn final.myId final.stored = false ∧ final.live = sellerCookie ∧
      ¬FollowsLive final := by
  have hrun : ∃ final, Run cookieStep sellerState
      [.begins .getOrderHeadinfo, .acquires 0,
        .finishes 0 { jar := jarOf [("unb", "2"), ("_m_h5_tk", "b")] }, .compares 0] final ∧
      final.tasks = [.ended] ∧ final.running = true ∧
      isOwn final.myId final.stored = false ∧ final.live = sellerCookie :=
    ⟨_, run_ofPartial_iff.mpr rfl, rfl, rfl, rfl, rfl⟩
  obtain ⟨final, hrun, htasks, hrunning, hown, hlive⟩ := hrun
  refine ⟨_, final, hrun, fun task htask => ?_, hrunning, hown, hlive, fun hfollows => ?_⟩
  · rw [htasks] at htask
    exact List.mem_singleton.mp htask
  · rw [hfollows.own] at hown
    cases hown

theorem overtaken_report_accepted :
    ∃ steps final, Run cookieStep sellerState steps final ∧
      (∀ task ∈ final.tasks, task = .ended) ∧ final.running = true ∧
      final.stored = "unb=1; _m_h5_tk=b" ∧ final.live = sellerCookie := by
  have hrun : ∃ final, Run cookieStep sellerState
      [.begins .refreshToken, .acquires 0,
        .finishes 0 { jar := jarOf [("unb", "1"), ("_m_h5_tk", "b")] },
        .begins .refreshToken, .acquires 1,
        .finishes 1 { jar := jarOf [("unb", "1"), ("_m_h5_tk", "c")] },
        .compares 1, .rereads 1, .replaces 1 true, .compares 0] final ∧
      final.tasks = [.ended, .ended] ∧ final.running = true ∧
      final.stored = "unb=1; _m_h5_tk=b" ∧ final.live = sellerCookie :=
    ⟨_, run_ofPartial_iff.mpr rfl, rfl, rfl, rfl, rfl⟩
  obtain ⟨final, hrun, htasks, hrunning, hstored, hlive⟩ := hrun
  refine ⟨_, final, hrun, fun task htask => ?_, hrunning, hstored, hlive⟩
  rw [htasks] at htask
  simpa using htask

end XianyuAdmin.Cookies
