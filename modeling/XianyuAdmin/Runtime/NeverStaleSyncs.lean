import XianyuAdmin.Runtime.CoalescedSyncs

/-!
# Syncs that are not stale

A fetch in progress is always in the table, so there is one at most.  A finished fetch leaves the
table when its first caller is resumed; if none is left it stays, and a call that comes long after
gets its outcome.
-/

namespace XianyuAdmin.Runtime

open XianyuAdmin.Python
open Transition

variable {Result Failure : Type} {table next : SyncTable Result Failure} {window : ℕ}

namespace SyncTable

section Fields

variable {index fetch : ℕ} {caller : SyncCall Result Failure} {outcome : Except Failure Result}

@[simp] theorem now_setCall : (table.setCall index caller).now = table.now := rfl
@[simp] theorem task_setCall : (table.setCall index caller).task = table.task := rfl
@[simp] theorem cache_setCall : (table.setCall index caller).cache = table.cache := rfl
@[simp] theorem outcomes_setCall : (table.setCall index caller).outcomes = table.outcomes := rfl
@[simp] theorem fetchCount_setCall :
    (table.setCall index caller).fetchCount = table.fetchCount := rfl
@[simp] theorem calls_setCall :
    (table.setCall index caller).calls = Function.update table.calls index (some caller) := rfl

@[simp] theorem now_settle : (table.settle fetch outcome).now = table.now := by
  cases outcome <;> rfl

@[simp] theorem task_settle :
    (table.settle fetch outcome).task = if table.task = some fetch then none else table.task := by
  cases outcome <;> rfl

@[simp] theorem outcomes_settle : (table.settle fetch outcome).outcomes = table.outcomes := by
  cases outcome <;> rfl

@[simp] theorem fetchCount_settle :
    (table.settle fetch outcome).fetchCount = table.fetchCount := by
  cases outcome <;> rfl

@[simp] theorem calls_settle : (table.settle fetch outcome).calls = table.calls := by
  cases outcome <;> rfl

theorem calls_setCall_settle : ((table.settle fetch outcome).setCall index caller).calls =
    Function.update table.calls index (some caller) := by
  simp

/-- What is kept was there, or is kept now. -/
theorem cache_settle {cached : ℕ × Result}
    (hcached : (table.settle fetch outcome).cache = some cached) :
    table.cache = some cached ∨ cached.1 = table.now := by
  cases outcome with
  | error failure => exact .inl hcached
  | ok result =>
      cases hcached
      exact .inr rfl

end Fields

inductive Calls (window : ℕ) (online : Bool) (pending : ℕ) (table : SyncTable Result Failure)
    (index : ℕ) : SyncTable Result Failure → Prop
  | cached {cached : ℕ × Result} (hcached : table.cache = some cached)
      (hfresh : table.now - cached.1 ≤ window) :
      Calls window online pending table index (table.setCall index
        { startedLate := table.isLate window, phase := .ended (.returns cached.2) })
  | starts (htask : table.task = none) :
      Calls window online pending table index
        (SyncTable.setCall
          { table with task := some table.fetchCount, fetchCount := table.fetchCount + 1 } index
          { startedLate := table.isLate window
            started := some table.fetchCount
            phase := .awaits table.fetchCount })
  | joins {fetch : ℕ} (htask : table.task = some fetch) (hrunning : table.outcomes fetch = none) :
      Calls window online pending table index (table.setCall index
        { startedLate := table.isLate window, phase := .awaits fetch })
  | finds {fetch : ℕ} {outcome : Except Failure Result × ℕ} (htask : table.task = some fetch)
      (hdone : table.outcomes fetch = some outcome) :
      Calls window online pending table index ((table.settle fetch outcome.1).setCall index
        { startedLate := table.isLate window, phase := .ended (.ofOutcome outcome.1) })
  | refused (text : String) (hrefused : online = false ∨ 8 ≤ pending) :
      Calls window online pending table index (table.setCall index
        { startedLate := table.isLate window, phase := .ended (.refused text) })

theorem calls_call (window : ℕ) (online : Bool) (pending : ℕ) (table : SyncTable Result Failure)
    (index : ℕ) :
    Calls window online pending table index (table.call window online pending index) := by
  unfold call
  dsimp only
  split
  · rename_i honline
    exact .refused _ (.inl (by simpa using honline))
  · split
    · rename_i cached hcached
      obtain ⟨hcached, hfresh⟩ := Option.filter_eq_some_iff.mp hcached
      exact .cached hcached (of_decide_eq_true hfresh)
    · split
      · rename_i htask
        split
        · rename_i hpending
          exact .refused _ (.inr hpending)
        · exact .starts htask
      · rename_i fetch htask
        split
        · rename_i hrunning
          exact .joins htask hrunning
        · rename_i outcome hdone
          exact .finds htask hdone

end SyncTable

structure Registered (table : SyncTable Result Failure) : Prop where
  fresh : ∀ fetch, table.fetchCount ≤ fetch → table.outcomes fetch = none
  taskLt : ∀ fetch, table.task = some fetch → fetch < table.fetchCount
  running : ∀ fetch, table.IsRunning fetch → table.task = some fetch

theorem registered_new : Registered ({ } : SyncTable Result Failure) where
  fresh := fun _ _ => rfl
  taskLt := nofun
  running := fun _ hrunning => absurd hrunning.1 (Nat.not_lt_zero _)

variable {fetch : ℕ} {caller : SyncCall Result Failure}

/-- Only a finished fetch is removed. -/
theorem Registered.pop (h : Registered table) (hdone : (table.outcomes fetch).isSome)
    (hfetchCount : next.fetchCount = table.fetchCount)
    (houtcomes : next.outcomes = table.outcomes)
    (htask : next.task = if table.task = some fetch then none else table.task) :
    Registered next where
  fresh := by
    rw [hfetchCount, houtcomes]
    exact h.fresh
  taskLt := by
    rw [hfetchCount, htask]
    intro other hother
    split at hother
    · cases hother
    · exact h.taskLt other hother
  running := by
    intro other hother
    rw [SyncTable.IsRunning, hfetchCount, houtcomes] at hother
    rw [htask, if_neg, h.running other hother]
    intro hpopped
    rw [h.running other hother, Option.some.injEq] at hpopped
    rw [← hpopped, hother.2] at hdone
    cases hdone

theorem Registered.same (h : Registered table) (hfetchCount : next.fetchCount = table.fetchCount)
    (houtcomes : next.outcomes = table.outcomes) (htask : next.task = table.task) :
    Registered next where
  fresh := by
    rw [hfetchCount, houtcomes]
    exact h.fresh
  taskLt := by
    rw [hfetchCount, htask]
    exact h.taskLt
  running := by
    unfold SyncTable.IsRunning
    rw [hfetchCount, houtcomes, htask]
    exact h.running

theorem Registered.calls (h : Registered table) {index : ℕ} {online : Bool} {pending : ℕ}
    (hcalls : SyncTable.Calls window online pending table index next) : Registered next := by
  cases hcalls with
  | cached => exact h.same rfl rfl rfl
  | joins => exact h.same rfl rfl rfl
  | refused => exact h.same rfl rfl rfl
  | finds htask hdone =>
      exact h.pop (by rw [hdone]; rfl) (by simp) (by simp) (by simp)
  | starts htask =>
      refine ⟨fun fetch hfetch => h.fresh fetch (by simp at hfetch; omega), ?_, ?_⟩
      · intro fetch hfetch
        simp at hfetch
        simp [← hfetch]
      · intro fetch hrunning
        simp only [SyncTable.IsRunning, SyncTable.fetchCount_setCall,
          SyncTable.outcomes_setCall] at hrunning
        rcases Nat.lt_succ_iff_lt_or_eq.mp hrunning.1 with hbefore | rfl
        · have hnone := h.running fetch ⟨hbefore, hrunning.2⟩
          rw [htask] at hnone
          cases hnone
        · rfl

theorem Registered.step (h : Registered table) {act : SyncAct Result Failure}
    (hstep : SyncStep (SyncTable.call window) table act next) : Registered next := by
  cases hstep with
  | calls => exact h.calls (SyncTable.calls_call window _ _ table _)
  | resumes _ _ hdone => exact h.pop (by rw [hdone]; rfl) (by simp) (by simp) (by simp)
  | ticks => exact h.same rfl rfl rfl
  | cancels =>
      split
      · rename_i hdone
        exact h.pop hdone rfl rfl rfl
      · exact h.same rfl rfl rfl
  | @finishes fetch outcome hrunning =>
      refine ⟨fun other hother => ?_, h.taskLt, fun other hother => ?_⟩
      · have hne : other ≠ fetch := fun heq => absurd hother (not_le.mpr (heq ▸ hrunning.1))
        dsimp only
        rw [Function.update_of_ne hne]
        exact h.fresh other hother
      · have hne : other ≠ fetch := by
          rintro rfl
          have hnone := hother.2
          dsimp only at hnone
          rw [Function.update_self] at hnone
          cases hnone
        refine h.running other ⟨hother.1, ?_⟩
        rw [← hother.2]
        exact (Function.update_of_ne hne _ _).symm

/-- Whatever happens, one fetch is in progress at most. -/
theorem Registered.oneRunning (h : Registered table) {left right : ℕ}
    (hleft : table.IsRunning left) (hright : table.IsRunning right) : left = right := by
  have htasks := (h.running left hleft).symm.trans (h.running right hright)
  exact Option.some.inj htasks

structure CallerOk (table : SyncTable Result Failure) (caller : SyncCall Result Failure) :
    Prop where
  awaits : ∀ fetch outcome, caller.phase = .awaits fetch → table.outcomes fetch = some outcome →
    outcome.2 = table.now
  late : caller.startedLate = true → ∃ fetch, caller.started = some fetch ∧
    (caller.phase = .awaits fetch ∨ caller.phase = .ended .cancelled ∨
      ∃ outcome, table.outcomes fetch = some outcome ∧
        caller.phase = .ended (.ofOutcome outcome.1))

theorem CallerOk.same (h : CallerOk table caller) (hnow : next.now = table.now)
    (houtcomes : next.outcomes = table.outcomes) :
    CallerOk next caller where
  awaits := by
    rw [hnow, houtcomes]
    exact h.awaits
  late := by
    rw [houtcomes]
    exact h.late

theorem callerOk_ended {answer : SyncAnswer Result Failure}
    (hended : caller.phase = .ended answer) (hlate : caller.startedLate = false) :
    CallerOk table caller where
  awaits := by
    rw [hended]
    nofun
  late := by
    rw [hlate]
    nofun

structure Tidy (table : SyncTable Result Failure) : Prop extends Registered table where
  callers : ∀ index caller, table.calls index = some caller → CallerOk table caller
  awaited : ∀ fetch outcome, table.task = some fetch → table.outcomes fetch = some outcome →
    ∃ index caller, table.calls index = some caller ∧ caller.phase = .awaits fetch
  stamp : ∀ cached, table.cache = some cached →
    ∃ fetch outcome, table.outcomes fetch = some outcome ∧ outcome.2 = cached.1

theorem tidy_new : Tidy ({ } : SyncTable Result Failure) where
  toRegistered := registered_new
  callers := nofun
  awaited := nofun
  stamp := nofun

theorem lt_of_isLate (h : Registered table) (hlate : table.isLate window = true)
    {outcome : Except Failure Result × ℕ} (hdone : table.outcomes fetch = some outcome) :
    outcome.2 + window < table.now := by
  have hlt : fetch < table.fetchCount := by
    by_contra hge
    rw [h.fresh fetch (not_lt.mp hge)] at hdone
    cases hdone
  have hany := of_decide_eq_true hlate fetch hlt
  rw [hdone, Option.any_some, decide_eq_true_eq] at hany
  exact hany

theorem isLate_eq_false_of_running (h : Registered table) (htask : table.task = some fetch)
    (hrunning : table.outcomes fetch = none) :
    table.isLate window = false := by
  rw [SyncTable.isLate, decide_eq_false_iff_not]
  intro hall
  have hany := hall fetch (h.taskLt fetch htask)
  rw [hrunning] at hany
  cases hany

theorem callers_update {index : ℕ}
    (hcallers : ∀ index caller, table.calls index = some caller → CallerOk next caller)
    (hcaller : CallerOk next caller)
    (hcalls : next.calls = Function.update table.calls index (some caller)) :
    ∀ index caller, next.calls index = some caller → CallerOk next caller := by
  intro other found hfound
  rw [hcalls] at hfound
  by_cases hother : other = index
  · rw [hother, Function.update_self, Option.some.injEq] at hfound
    rwa [← hfound]
  · rw [Function.update_of_ne hother] at hfound
    exact hcallers other found hfound

theorem Tidy.calls (h : Tidy table) {index pending : ℕ} (hfresh : table.calls index = none)
    (hpending : pending < 8)
    (hcalls : SyncTable.Calls window true pending table index next) : Tidy next := by
  have hregistered := h.toRegistered.calls hcalls
  have hother : ∀ {other : ℕ} {caller new : SyncCall Result Failure},
      table.calls other = some caller →
        Function.update table.calls index (some new) other = some caller := by
    intro other caller new hcaller
    rw [Function.update_of_ne, hcaller]
    rintro rfl
    rw [hfresh] at hcaller
    cases hcaller
  cases hcalls with
  | @cached cached hcached hwithin =>
      obtain ⟨fetch, outcome, houtcome, hstamp⟩ := h.stamp cached hcached
      have hnotLate : table.isLate window = false := by
        rw [← Bool.not_eq_true]
        intro hlate
        have hlt := lt_of_isLate h.toRegistered hlate houtcome
        omega
      refine ⟨hregistered, callers_update (fun other caller hcaller =>
        (h.callers other caller hcaller).same rfl rfl) (callerOk_ended rfl hnotLate) rfl, ?_,
        h.stamp⟩
      intro fetch outcome htask houtcome
      obtain ⟨other, caller, hcaller, hawaits⟩ := h.awaited fetch outcome htask houtcome
      exact ⟨other, caller, hother hcaller, hawaits⟩
  | starts htask =>
      refine ⟨hregistered, callers_update (fun other caller hcaller =>
        (h.callers other caller hcaller).same rfl rfl) ⟨?_, fun _ => ⟨_, rfl, .inl rfl⟩⟩ rfl, ?_,
        h.stamp⟩
      · intro fetch outcome hawaits houtcome
        cases hawaits
        rw [SyncTable.outcomes_setCall, h.fresh _ le_rfl] at houtcome
        cases houtcome
      · intro fetch outcome htaken houtcome
        cases htaken
        rw [SyncTable.outcomes_setCall, h.fresh _ le_rfl] at houtcome
        cases houtcome
  | @joins fetch htask hrunning =>
      have hnotLate : table.isLate window = false :=
        isLate_eq_false_of_running h.toRegistered htask hrunning
      refine ⟨hregistered, callers_update (fun other caller hcaller =>
        (h.callers other caller hcaller).same rfl rfl) ⟨?_, by simp [hnotLate]⟩ rfl, ?_, h.stamp⟩
      · intro other outcome hawaits houtcome
        cases hawaits
        rw [SyncTable.outcomes_setCall, hrunning] at houtcome
        cases houtcome
      · intro other outcome htaken houtcome
        obtain ⟨index, caller, hcaller, hawaits⟩ := h.awaited other outcome htaken houtcome
        exact ⟨index, caller, hother hcaller, hawaits⟩
  | @finds fetch outcome htask hdone =>
      obtain ⟨other, caller, hcaller, hawaits⟩ := h.awaited fetch outcome htask hdone
      have hnow := (h.callers other caller hcaller).awaits fetch outcome hawaits hdone
      have hnotLate : table.isLate window = false := by
        rw [← Bool.not_eq_true]
        intro hlate
        have hlt := lt_of_isLate h.toRegistered hlate hdone
        omega
      refine ⟨hregistered, callers_update (fun other caller hcaller =>
        (h.callers other caller hcaller).same (by simp) (by simp)) (callerOk_ended rfl hnotLate)
        SyncTable.calls_setCall_settle, ?_, ?_⟩
      · intro other found htaken
        simp [htask] at htaken
      · intro cached hcached
        rw [SyncTable.outcomes_setCall, SyncTable.outcomes_settle]
        rcases SyncTable.cache_settle hcached with hbefore | hkept
        · exact h.stamp cached hbefore
        · exact ⟨fetch, outcome, hdone, by rw [hnow, hkept]⟩
  | refused text hrefused =>
      rcases hrefused with honline | hmany
      · cases honline
      · exact absurd hpending (not_lt.mpr hmany)

theorem Tidy.finishes (h : Tidy table) {fetch : ℕ} {outcome : Except Failure Result}
    (hrunning : table.IsRunning fetch)
    (hkeeps : ∃ index caller, table.calls index = some caller ∧ caller.phase = .awaits fetch)
    (hregistered : Registered
      { table with
        outcomes := Function.update table.outcomes fetch (some (outcome, table.now)) }) :
    Tidy
      { table with
        outcomes := Function.update table.outcomes fetch (some (outcome, table.now)) } := by
  have hkept : ∀ {other : ℕ} {found : Except Failure Result × ℕ},
      table.outcomes other = some found →
        Function.update table.outcomes fetch (some (outcome, table.now)) other = some found := by
    intro other found hfound
    rw [Function.update_of_ne, hfound]
    rintro rfl
    rw [hrunning.2] at hfound
    cases hfound
  refine ⟨hregistered, fun index caller hcaller => ⟨?_, fun hlate => ?_⟩, ?_, ?_⟩
  · intro other found hawaits hfound
    dsimp only at hfound
    by_cases hother : other = fetch
    · rw [hother, Function.update_self, Option.some.injEq] at hfound
      rw [← hfound]
    · rw [Function.update_of_ne hother] at hfound
      exact (h.callers index caller hcaller).awaits other found hawaits hfound
  · obtain ⟨own, hown, hphase⟩ := (h.callers index caller hcaller).late hlate
    refine ⟨own, hown, hphase.imp_right (Or.imp_right ?_)⟩
    rintro ⟨found, hfound, hanswer⟩
    exact ⟨found, hkept hfound, hanswer⟩
  · intro other found htask hfound
    dsimp only at hfound
    by_cases hother : other = fetch
    · rw [hother]
      exact hkeeps
    · rw [Function.update_of_ne hother] at hfound
      exact h.awaited other found htask hfound
  · intro cached hcached
    obtain ⟨other, found, hfound, hstamp⟩ := h.stamp cached hcached
    exact ⟨other, found, hkept hfound, hstamp⟩

theorem Tidy.awaited_of_gone (h : Tidy table) {index other : ℕ} {gone : SyncCall Result Failure}
    {outcome : Except Failure Result × ℕ} (hcaller : table.calls index = some caller)
    (hawaits : caller.phase = .awaits fetch) (hother : other ≠ fetch)
    (htask : table.task = some other) (hdone : table.outcomes other = some outcome) :
    ∃ index' caller', Function.update table.calls index (some gone) index' = some caller' ∧
      caller'.phase = .awaits other := by
  obtain ⟨index', caller', hcaller', hawaits'⟩ := h.awaited other outcome htask hdone
  refine ⟨index', caller', ?_, hawaits'⟩
  rw [Function.update_of_ne, hcaller']
  rintro rfl
  rw [hcaller, Option.some.injEq] at hcaller'
  rw [← hcaller', hawaits, CallPhase.awaits.injEq] at hawaits'
  exact hother hawaits'.symm

theorem task_of_pop {other : ℕ}
    (htask : (if table.task = some fetch then none else table.task) = some other) :
    other ≠ fetch ∧ table.task = some other := by
  split at htask
  · cases htask
  · rename_i hne
    refine ⟨?_, htask⟩
    rintro rfl
    exact hne htask

theorem Tidy.resumes (h : Tidy table) {index instant : ℕ} {outcome : Except Failure Result}
    (hcaller : table.calls index = some caller) (hawaits : caller.phase = .awaits fetch)
    (hdone : table.outcomes fetch = some (outcome, instant))
    (hregistered : Registered ((table.settle fetch outcome).setCall index
      { caller with phase := .ended (.ofOutcome outcome) })) :
    Tidy ((table.settle fetch outcome).setCall index
      { caller with phase := .ended (.ofOutcome outcome) }) := by
  refine ⟨hregistered, callers_update (fun other found hfound =>
    (h.callers other found hfound).same (by simp) (by simp)) ⟨?_, fun hlate => ?_⟩
    SyncTable.calls_setCall_settle, ?_, ?_⟩
  · nofun
  · obtain ⟨own, hown, hphase⟩ := (h.callers index caller hcaller).late hlate
    rw [hawaits] at hphase
    rcases hphase with hown' | hcancelled | ⟨_, -, hanswered⟩
    · rw [CallPhase.awaits.injEq] at hown'
      subst hown'
      exact ⟨fetch, hown, .inr (.inr ⟨(outcome, instant), by simpa using hdone, rfl⟩)⟩
    · cases hcancelled
    · cases hanswered
  · intro other found htask hfound
    rw [SyncTable.task_setCall, SyncTable.task_settle] at htask
    rw [SyncTable.outcomes_setCall, SyncTable.outcomes_settle] at hfound
    obtain ⟨hne, htask⟩ := task_of_pop htask
    rw [SyncTable.calls_setCall, SyncTable.calls_settle]
    exact h.awaited_of_gone hcaller hawaits hne htask hfound
  · intro cached hcached
    rw [SyncTable.outcomes_setCall, SyncTable.outcomes_settle]
    rcases SyncTable.cache_settle hcached with hbefore | hkept
    · exact h.stamp cached hbefore
    · have hnow := (h.callers index caller hcaller).awaits fetch _ hawaits hdone
      exact ⟨fetch, _, hdone, by rw [hnow, hkept]⟩

theorem Tidy.cancels (h : Tidy table) {index : ℕ} (hcaller : table.calls index = some caller)
    (hawaits : caller.phase = .awaits fetch) (hregistered : Registered
      ((if (table.outcomes fetch).isSome then table.popTask fetch else table).setCall index
        { caller with phase := .ended .cancelled })) :
    Tidy
      ((if (table.outcomes fetch).isSome then table.popTask fetch else table).setCall index
        { caller with phase := .ended .cancelled }) := by
  set popped := if (table.outcomes fetch).isSome then table.popTask fetch else table with hpopped
  have hsame : popped.now = table.now ∧ popped.outcomes = table.outcomes ∧
      popped.cache = table.cache ∧ popped.calls = table.calls := by
    rw [hpopped]
    split <;> exact ⟨rfl, rfl, rfl, rfl⟩
  obtain ⟨hnow, houtcomes, hcache, hcalls⟩ := hsame
  refine ⟨hregistered, callers_update (fun other found hfound =>
    (h.callers other found hfound).same hnow houtcomes) ⟨?_, fun hlate => ?_⟩
    (by rw [SyncTable.calls_setCall, hcalls]), ?_, ?_⟩
  · nofun
  · obtain ⟨own, hown, -⟩ := (h.callers index caller hcaller).late hlate
    exact ⟨own, hown, .inr (.inl rfl)⟩
  · intro other found htask hfound
    rw [SyncTable.outcomes_setCall, houtcomes] at hfound
    rw [SyncTable.task_setCall, hpopped] at htask
    rw [SyncTable.calls_setCall, hcalls]
    split at htask
    · obtain ⟨hne, htask⟩ := task_of_pop htask
      exact h.awaited_of_gone hcaller hawaits hne htask hfound
    · rename_i hrunning
      have hne : other ≠ fetch := by
        rintro rfl
        exact hrunning (by rw [hfound]; rfl)
      exact h.awaited_of_gone hcaller hawaits hne htask hfound
  · rw [SyncTable.cache_setCall, SyncTable.outcomes_setCall, hcache, houtcomes]
    exact h.stamp

theorem Tidy.ticks (h : Tidy table) {duration : ℕ}
    (hresumed : ∀ index caller, table.calls index = some caller → ¬ table.IsWoken caller) :
    Tidy { table with now := table.now + duration } := by
  refine ⟨h.toRegistered.same rfl rfl rfl, fun index caller hcaller => ⟨?_, ?_⟩, h.awaited,
    h.stamp⟩
  · intro fetch outcome hawaits houtcome
    refine absurd ⟨fetch, hawaits, ?_⟩ (hresumed index caller hcaller)
    dsimp only at houtcome
    rw [houtcome]
    rfl
  · exact (h.callers index caller hcaller).late

theorem Tidy.step (h : Tidy table) {act : SyncAct Result Failure} (hkeeps : keepsCallers table act)
    (hstep : SyncStep (SyncTable.call window) table act next) : Tidy next := by
  have hregistered := h.toRegistered.step hstep
  cases hstep with
  | @calls index online pending hfresh =>
      obtain ⟨rfl, hpending⟩ := hkeeps
      exact h.calls hfresh hpending (SyncTable.calls_call window true pending table index)
  | finishes hrunning => exact h.finishes hrunning hkeeps hregistered
  | resumes hcaller hawaits hdone => exact h.resumes hcaller hawaits hdone hregistered
  | cancels hcaller hawaits => exact h.cancels hcaller hawaits hregistered
  | ticks => exact h.ticks hkeeps

/-- One fetch is in progress at most, in every run. -/
theorem oneRunning_of_run {acts : List (SyncAct Result Failure)} {left right : ℕ}
    (hrun : Run (SyncStep (SyncTable.call window)) { } acts table)
    (hleft : table.IsRunning left) (hright : table.IsRunning right) : left = right :=
  (hrun.invariant Registered (fun _ _ _ hregistered hstep => hregistered.step hstep)
    registered_new).oneRunning hleft hright

theorem neverStale_of_run {acts : List (SyncAct Result Failure)}
    (hrun : Run (restrict (SyncStep (SyncTable.call window)) keepsCallers) { } acts table) :
    NeverStale table := by
  have htidy := hrun.invariant Tidy (fun _ _ _ htidy hstep => htidy.step hstep.1 hstep.2) tidy_new
  exact ⟨fun _ _ => htidy.toRegistered.oneRunning,
    fun index caller hcaller => (htidy.callers index caller hcaller).late⟩

/-- While every fetch keeps a caller to its end, and callers are resumed when they are woken, no
call of `sync_messages` or `sync_conversations` is answered with an old fetch. -/
theorem coalesced_syncs_never_stale (acts : List (SyncAct Result Failure))
    (table : SyncTable Result Failure) :
    (Run (restrict (SyncStep SyncTable.syncMessages) keepsCallers) { } acts table →
        NeverStale table) ∧
      (Run (restrict (SyncStep SyncTable.syncConversations) keepsCallers) { } acts table →
        NeverStale table) :=
  ⟨neverStale_of_run, neverStale_of_run⟩

/-- A late call starts a fetch, and awaits it. -/
theorem late_call_starts_fetch : ∃ table : SyncTable ℕ Unit,
    Run (SyncStep SyncTable.syncMessages) { }
      [.calls 0 true 0, .finishes 0 (.ok 7), .resumes 0, .ticks (seconds 10), .calls 1 true 0]
      table ∧
    table.calls 1 = some { startedLate := true, started := some 1, phase := .awaits 1 } ∧
    NeverStale table := by
  have hrun : ∃ table : SyncTable ℕ Unit,
      Run (restrict (SyncStep SyncTable.syncMessages) keepsCallers) { }
        [.calls 0 true 0, .finishes 0 (.ok 7), .resumes 0, .ticks (seconds 10), .calls 1 true 0]
        table ∧
      table.calls 1 = some { startedLate := true, started := some 1, phase := .awaits 1 } := by
    refine ⟨_, .cons ⟨⟨rfl, by decide⟩, .calls rfl⟩
      (.cons ⟨⟨0, _, rfl, rfl⟩, .finishes ⟨by decide, rfl⟩⟩
        (.cons ⟨trivial, .resumes rfl rfl rfl⟩
          (.cons ⟨fun index caller hcaller => ?_, .ticks _ _⟩
            (.cons ⟨⟨rfl, by decide⟩, .calls rfl⟩ (.nil _))))), rfl⟩
    rintro ⟨fetch, hawaits, -⟩
    by_cases hindex : index = 0
    · subst hindex
      cases hcaller
      cases hawaits
    · rw [SyncTable.calls_setCall, Function.update_of_ne hindex, SyncTable.calls_settle] at hcaller
      have hfirst : Function.update (fun _ => none) 0
          (some { startedLate := true, started := some 0, phase := .awaits 0 }) index =
            some caller := hcaller
      rw [Function.update_of_ne hindex] at hfirst
      cases hfirst
  obtain ⟨table, hrun, hcall⟩ := hrun
  exact ⟨table, hrun.forget, hcall, (coalesced_syncs_never_stale _ table).1 hrun⟩

/-- The one caller of a fetch is cancelled; ten seconds later a call gets the result of it. -/
theorem cancelled_caller_leaves_fetch : ∃ table : SyncTable ℕ Unit,
    Run (SyncStep SyncTable.syncMessages) { }
      [.calls 0 true 0, .cancels 0, .finishes 0 (.ok 7), .ticks (seconds 10), .calls 1 true 0]
      table ∧
    table.calls 1 = some { startedLate := true, phase := .ended (.returns 7) } ∧
    ¬ NeverStale table := by
  refine ⟨_, .cons (.calls rfl) (.cons (.cancels rfl rfl) (.cons (.finishes ⟨by decide, rfl⟩)
    (.cons (.ticks _ _) (.cons (.calls rfl) (.nil _))))), rfl, fun hstale => ?_⟩
  obtain ⟨fetch, hstarted, -⟩ := hstale.late 1 _ rfl rfl
  cases hstarted

end XianyuAdmin.Runtime
