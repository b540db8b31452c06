import XianyuAdmin.Tasks.BackgroundTask

/-!
# Lease fencing of one task row

Any number of workers, the stale sweeper and the retry endpoint act on the same
row in any order.  A worker may repeat an irreversible external call only if it
can claim the row a second time, so the file proves what must have happened
between two claims and that a worker whose claim is over can no longer write.
-/

namespace XianyuAdmin.LeaseFencing

open XianyuAdmin.Python
open XianyuAdmin.TaskStore

/-- The calls that reach the row, with everything the caller and the clock
choose. -/
inductive TaskOp
  | claim (worker : WorkerId) (leaseSeconds : ℤ) (now : ℕ)
  | renew (worker : WorkerId) (leaseSeconds : ℤ) (now : ℕ)
  | finish (worker : WorkerId) (status : String) (result : Option Json)
      (error : Option String) (now : ℕ)
  | sweep (now : Option ℕ) (clock : ℕ)
  | reset (now : ℕ)

/-- What an accepted call did to the row. -/
inductive TaskEvent
  | claimed (worker : WorkerId)
  | renewed (worker : WorkerId)
  | finished (worker : WorkerId) (status : TaskStatus)
  | swept
  | reset
  deriving DecidableEq

/-- The row after the call, or `none` when the call was rejected. -/
def attempt (row : BackgroundTask) : TaskOp → Option BackgroundTask
  | .claim worker leaseSeconds now =>
      claimBackgroundTask (some worker) leaseSeconds now row
  | .renew worker leaseSeconds now =>
      renewBackgroundTaskLease worker leaseSeconds now row
  | .finish worker status result error now =>
      finishBackgroundTask status result error (some worker) now row
  | .sweep now clock => failStaleBackgroundTask now clock row
  | .reset now => resetBackgroundTaskForRetry now row

def eventOf : TaskOp → TaskEvent
  | .claim worker _ _ => .claimed worker
  | .renew worker _ _ => .renewed worker
  | .finish worker status _ _ _ => .finished worker (normalizedStatus status)
  | .sweep _ _ => .swept
  | .reset _ => .reset

/-- A rejected call leaves the row as it was. -/
def apply (row : BackgroundTask) (op : TaskOp) : BackgroundTask :=
  (attempt row op).getD row

def runOps (row : BackgroundTask) (ops : List TaskOp) : BackgroundTask :=
  ops.foldl apply row

/-- The accepted calls of a run, in order. -/
def events : BackgroundTask → List TaskOp → List TaskEvent
  | _, [] => []
  | row, op :: ops =>
      match attempt row op with
      | none => events row ops
      | some next => eventOf op :: events next ops

@[simp]
theorem runOps_nil (row : BackgroundTask) : runOps row [] = row := rfl

variable {row : BackgroundTask} {op : TaskOp} {worker : WorkerId}

theorem runOps_cons_of_rejected (ops : List TaskOp) (hreject : attempt row op = none) :
    runOps row (op :: ops) = runOps row ops := by
  simp [runOps, apply, hreject]

variable {next : BackgroundTask}

theorem runOps_cons_of_accepted (ops : List TaskOp) (haccept : attempt row op = some next) :
    runOps row (op :: ops) = runOps next ops := by
  simp [runOps, apply, haccept]

theorem events_cons_of_rejected (ops : List TaskOp) (hreject : attempt row op = none) :
    events row (op :: ops) = events row ops := by
  simp [events, hreject]

theorem events_cons_of_accepted (ops : List TaskOp) (haccept : attempt row op = some next) :
    events row (op :: ops) = eventOf op :: events next ops := by
  simp [events, haccept]

theorem finish_of_worker (worker : WorkerId) (status : String)
    (result : Option Json) (error : Option String) (now : ℕ) (row : BackgroundTask) :
    attempt row (.finish worker status result error now) =
      finishClaimedTask worker (normalizedStatus status) result error now row := by
  simp [attempt, finishBackgroundTask, worker.property]

theorem attempt_cases (haccept : attempt row op = some next) :
    (∃ worker, eventOf op = .claimed worker ∧ row.status = .pending ∧
        next.status = .running ∧ next.workerId = some worker.1 ∧
        next.attemptCount = row.attemptCount + 1) ∨
      (∃ worker, eventOf op = .renewed worker ∧ OwnedBy worker row ∧
        next.status = row.status ∧ next.workerId = row.workerId ∧
        next.attemptCount = row.attemptCount) ∨
      (∃ worker status, eventOf op = .finished worker status ∧
        OwnedBy worker row ∧ next.status = status ∧
        next.workerId = (if status = .pending then none else row.workerId) ∧
        next.attemptCount = row.attemptCount) ∨
      (eventOf op = .swept ∧ row.status = .running ∧ next.status = .failed ∧
        next.workerId = row.workerId ∧
        next.attemptCount = row.attemptCount) ∨
      (eventOf op = .reset ∧ row.status = .failed ∧ next.status = .pending ∧
        next.workerId = none ∧ next.attemptCount = row.attemptCount) := by
  cases op with
  | claim worker leaseSeconds now =>
      obtain ⟨hpending, -, hstatus, hworker, hcount⟩ := claim_eq_some haccept
      exact .inl ⟨worker, rfl, hpending, hstatus, hworker, hcount⟩
  | renew worker leaseSeconds now =>
      obtain ⟨howned, hstatus, hworker, hcount⟩ := renew_eq_some haccept
      exact .inr (.inl ⟨worker, rfl, howned, hstatus, hworker, hcount⟩)
  | finish worker status result error now =>
      rw [finish_of_worker] at haccept
      obtain ⟨howned, hstatus, hworker, hcount⟩ := finishClaimed_eq_some haccept
      exact .inr (.inr (.inl
        ⟨worker, _, rfl, howned, hstatus, hworker, hcount⟩))
  | sweep now clock =>
      obtain ⟨hrunning, -, hstatus, hworker, hcount⟩ := failStale_eq_some haccept
      exact .inr (.inr (.inr (.inl ⟨rfl, hrunning, hstatus, hworker, hcount⟩)))
  | reset now =>
      obtain ⟨hfailed, hstatus, hworker, hcount⟩ := reset_eq_some haccept
      exact .inr (.inr (.inr (.inr ⟨rfl, hfailed, hstatus, hworker, hcount⟩)))

/-- Ownership is only ever acquired by a claim. -/
theorem ownedBy_of_attempt (haccept : attempt row op = some next) (howned : OwnedBy worker next) :
    OwnedBy worker row ∨ eventOf op = .claimed worker := by
  obtain ⟨hrunning, hworker⟩ := howned
  rcases attempt_cases haccept with
    ⟨claimer, hevent, -, -, hnext, -⟩ | ⟨_, -, -, hstatus, hnext, -⟩ |
    ⟨_, status, -, hfinisher, hstatus, hnext, -⟩ | ⟨-, -, hstatus, -⟩ |
    ⟨-, -, hstatus, -⟩
  · rw [hnext] at hworker
    have hsame : claimer = worker := Subtype.ext (Option.some.inj hworker)
    exact .inr (hsame ▸ hevent)
  · exact .inl ⟨hstatus ▸ hrunning, hnext ▸ hworker⟩
  · -- a finish that keeps the row running leaves the worker column alone
    rw [hnext, if_neg (by rw [← hstatus, hrunning]; decide)] at hworker
    exact .inl ⟨hfinisher.1, hworker⟩
  · rw [hstatus] at hrunning
    cases hrunning
  · rw [hstatus] at hrunning
    cases hrunning

theorem not_ownedBy_runOps (ops : List TaskOp) :
    ∀ row, ¬ OwnedBy worker row → .claimed worker ∉ events row ops →
      ¬ OwnedBy worker (runOps row ops) := by
  induction ops with
  | nil =>
      intro row hlost _
      exact hlost
  | cons op ops ih =>
      intro row hlost hnone
      cases haccept : attempt row op with
      | none =>
          rw [events_cons_of_rejected ops haccept] at hnone
          rw [runOps_cons_of_rejected ops haccept]
          exact ih row hlost hnone
      | some next =>
          rw [events_cons_of_accepted ops haccept, List.mem_cons, not_or] at hnone
          rw [runOps_cons_of_accepted ops haccept]
          refine ih next (fun howned => ?_) hnone.2
          rcases ownedBy_of_attempt haccept howned with howned | hevent
          · exact hlost howned
          · exact hnone.1 hevent.symm

/-- The first claim was given up: its worker put the row back to `pending`, or
its worker or the sweeper ended it and the row was later reset. -/
def Released (worker : WorkerId) (between : List TaskEvent) : Prop :=
  .finished worker .pending ∈ between ∨
    ∃ ended, (ended = .swept ∨
        ∃ status, status.isFinal ∧ ended = .finished worker status) ∧
      [ended, .reset].Sublist between

theorem Released.cons {between : List TaskEvent} (hreleased : Released worker between)
    (event : TaskEvent) :
    Released worker (event :: between) := by
  rcases hreleased with hpending | ⟨ended, hended, hsublist⟩
  · exact .inl (List.mem_cons_of_mem _ hpending)
  · exact .inr ⟨ended, hended, hsublist.cons _⟩

/-- A finished row becomes claimable only through a reset. -/
theorem reset_mem_of_final (ops : List TaskOp) :
    ∀ row, row.status.isFinal = true →
      (runOps row ops).status = .pending → .reset ∈ events row ops := by
  induction ops with
  | nil =>
      intro row hfinal hpending
      rw [runOps_nil] at hpending
      simp [hpending, TaskStatus.isFinal] at hfinal
  | cons op ops ih =>
      intro row hfinal hpending
      cases haccept : attempt row op with
      | none =>
          rw [runOps_cons_of_rejected ops haccept] at hpending
          rw [events_cons_of_rejected ops haccept]
          exact ih row hfinal hpending
      | some next =>
          rw [events_cons_of_accepted ops haccept]
          have hrunning : row.status ≠ .running := by
            intro hstatus
            simp [hstatus, TaskStatus.isFinal] at hfinal
          rcases attempt_cases haccept with
            ⟨_, -, hstatus, -⟩ | ⟨_, -, howned, -⟩ | ⟨_, _, -, howned, -⟩ |
            ⟨-, hstatus, -⟩ | ⟨hevent, -⟩
          · simp [hstatus, TaskStatus.isFinal] at hfinal
          · exact absurd howned.1 hrunning
          · exact absurd howned.1 hrunning
          · exact absurd hstatus hrunning
          · exact hevent ▸ List.mem_cons_self

theorem released_of_ownedBy (ops : List TaskOp) :
    ∀ row, OwnedBy worker row → (runOps row ops).status = .pending →
      Released worker (events row ops) := by
  induction ops with
  | nil =>
      intro row howned hpending
      rw [runOps_nil, howned.1] at hpending
      cases hpending
  | cons op ops ih =>
      intro row howned hpending
      cases haccept : attempt row op with
      | none =>
          rw [runOps_cons_of_rejected ops haccept] at hpending
          rw [events_cons_of_rejected ops haccept]
          exact ih row howned hpending
      | some next =>
          rw [runOps_cons_of_accepted ops haccept] at hpending
          rw [events_cons_of_accepted ops haccept]
          obtain ⟨hrunning, hworker⟩ := howned
          rcases attempt_cases haccept with
            ⟨_, -, hstatus, -⟩ | ⟨_, -, -, hstatus, hnext, -⟩ |
            ⟨finisher, status, hevent, hfinisher, hstatus, hnext, -⟩ |
            ⟨hevent, -, hstatus, -⟩ | ⟨-, hstatus, -⟩
          · rw [hrunning] at hstatus
            cases hstatus
          · exact (ih next ⟨hstatus ▸ hrunning, hnext ▸ hworker⟩ hpending).cons _
          · have hsame : finisher = worker :=
              Subtype.ext (Option.some.inj (hfinisher.2.symm.trans hworker))
            subst hsame
            rw [hevent]
            cases hfinal : status.isFinal with
            | true =>
                have hreset := reset_mem_of_final ops next (hstatus ▸ hfinal)
                  hpending
                exact .inr ⟨_, .inr ⟨status, hfinal, rfl⟩,
                  (List.singleton_sublist.mpr hreset).cons_cons _⟩
            | false =>
                cases status with
                | pending => exact .inl List.mem_cons_self
                | running =>
                    exact (ih next ⟨hstatus, by simpa [hworker] using hnext⟩
                      hpending).cons _
                | success => cases hfinal
                | failed => cases hfinal
                | cancelled => cases hfinal
          · have hreset := reset_mem_of_final ops next (by rw [hstatus]; rfl)
              hpending
            rw [hevent]
            exact .inr ⟨_, .inl rfl,
              (List.singleton_sublist.mpr hreset).cons_cons _⟩
          · rw [hrunning] at hstatus
            cases hstatus

def TaskEvent.isClaim : TaskEvent → Bool
  | .claimed _ => true
  | .renewed _ | .finished _ _ | .swept | .reset => false

theorem attemptCount_runOps (ops : List TaskOp) :
    ∀ row, (runOps row ops).attemptCount =
      row.attemptCount + (events row ops).countP TaskEvent.isClaim := by
  induction ops with
  | nil => simp [events]
  | cons op ops ih =>
      intro row
      cases haccept : attempt row op with
      | none =>
          rw [runOps_cons_of_rejected ops haccept,
            events_cons_of_rejected ops haccept, ih]
      | some next =>
          rw [runOps_cons_of_accepted ops haccept,
            events_cons_of_accepted ops haccept, ih, List.countP_cons]
          rcases attempt_cases haccept with
            ⟨_, hevent, -, -, -, hcount⟩ | ⟨_, hevent, -, -, -, hcount⟩ |
            ⟨_, _, hevent, -, -, -, hcount⟩ | ⟨hevent, -, -, -, hcount⟩ |
            ⟨hevent, -, -, -, hcount⟩
          · simp only [hevent, hcount, TaskEvent.isClaim, if_true]
            omega
          all_goals simp [hevent, hcount, TaskEvent.isClaim]

def IsCallOf (worker : WorkerId) : TaskOp → Prop
  | .renew caller _ _ => caller = worker
  | .finish caller _ _ _ _ => caller = worker
  | .claim _ _ _ | .sweep _ _ | .reset _ => False

theorem attempt_eq_none_of_not_ownedBy (hcall : IsCallOf worker op) (hlost : ¬ OwnedBy worker row) :
    attempt row op = none := by
  cases op with
  | renew caller leaseSeconds now =>
      obtain rfl : caller = worker := hcall
      exact if_neg hlost
  | finish caller status result error now =>
      obtain rfl : caller = worker := hcall
      rw [finish_of_worker]
      exact if_neg hlost
  | claim => exact hcall.elim
  | sweep => exact hcall.elim
  | reset => exact hcall.elim

/-- The events after which a claim of `worker` counts as over, when every
accepted finish counts. -/
def EndsClaim (worker : WorkerId) : TaskEvent → Prop
  | .claimed other => other ≠ worker
  | .finished finisher _ => finisher = worker
  | .swept => True
  | .renewed _ | .reset => False

/-- The same, without the finish that writes `running` again. -/
def LeavesRunning (worker : WorkerId) : TaskEvent → Prop
  | .finished finisher status => finisher = worker ∧ status ≠ .running
  | event => EndsClaim worker event

structure Fenced (Ends : WorkerId → TaskEvent → Prop) (start : BackgroundTask) :
    Prop where
  released : ∀ before first leaseSeconds now claimed between second
    leaseSeconds' now',
    attempt (runOps start before) (.claim first leaseSeconds now) = some claimed →
    attempt (runOps claimed between) (.claim second leaseSeconds' now') ≠ none →
    Released first (events claimed between)
  rejected : ∀ before op ended worker between call,
    attempt (runOps start before) op = some ended → Ends worker (eventOf op) →
    .claimed worker ∉ events ended between → IsCallOf worker call →
    attempt (runOps ended between) call = none ∧
      apply (runOps ended between) call = runOps ended between
  /-- `attempt_count` is the number of successful claims. -/
  attempts : ∀ ops, (runOps start ops).attemptCount =
    (events start ops).countP TaskEvent.isClaim
  sweep : ∀ ops lease now clock,
    (runOps start ops).leaseExpiresAt = some lease → now.getD clock < lease →
    attempt (runOps start ops) (.sweep now clock) = none

theorem not_ownedBy_of_leavesRunning {ended : BackgroundTask}
    (haccept : attempt row op = some ended) (hends : LeavesRunning worker (eventOf op)) :
    ¬ OwnedBy worker ended := by
  rintro ⟨hrunning, hworker⟩
  rcases attempt_cases haccept with
    ⟨claimer, hevent, -, -, hnext, -⟩ | ⟨_, hevent, -⟩ |
    ⟨_, status, hevent, -, hstatus, -⟩ | ⟨-, -, hstatus, -⟩ | ⟨hevent, -⟩
  · rw [hevent] at hends
    rw [hnext] at hworker
    exact hends (Subtype.ext (Option.some.inj hworker))
  · rw [hevent] at hends
    exact hends
  · rw [hevent] at hends
    exact hends.2 (hstatus ▸ hrunning)
  · rw [hstatus] at hrunning
    cases hrunning
  · rw [hevent] at hends
    exact hends

/-- Every task row, from its insertion on, is fenced: a finish with any status
but `running`, a sweep and a claim by another worker all end a claim. -/
theorem task_lease_fenced (request : CreatePayload) (taskId : String)
    (created : ℕ) : Fenced LeavesRunning (newTask request taskId created) where
  released := by
    intro before first leaseSeconds now claimed between second leaseSeconds' now'
      hfirst hsecond
    obtain ⟨-, -, hrunning, hworker, -⟩ := claim_eq_some hfirst
    apply released_of_ownedBy between claimed ⟨hrunning, hworker⟩
    obtain ⟨again, hagain⟩ := Option.ne_none_iff_exists'.mp hsecond
    exact (claim_eq_some hagain).1
  rejected := by
    intro before op ended worker between call haccept hends hnone hcall
    have hlost := not_ownedBy_runOps between ended
      (not_ownedBy_of_leavesRunning haccept hends) hnone
    have hreject := attempt_eq_none_of_not_ownedBy hcall hlost
    exact ⟨hreject, by rw [apply, hreject]; rfl⟩
  attempts := by
    intro ops
    rw [attemptCount_runOps]
    simp [newTask]
  sweep := by
    intro ops lease now clock hlease hlater
    by_contra hswept
    obtain ⟨failed, hfailed⟩ := Option.ne_none_iff_exists'.mp hswept
    obtain ⟨-, ⟨expired, hexpired, hle⟩, -⟩ := failStale_eq_some hfailed
    rw [hlease] at hexpired
    obtain rfl := Option.some.inj hexpired
    omega

/-- A finish with status `running` is accepted and leaves the worker in
charge: its next renewal succeeds without another claim. -/
theorem running_finish_keeps_claim :
    ¬ ∀ request taskId created,
      Fenced EndsClaim (newTask request taskId created) := by
  intro hfenced
  let worker : WorkerId := ⟨"worker-1", by decide⟩
  let request : CreatePayload :=
    { accountId := none, taskType := "account.check", dedupeKey := none
      payload := none, runAfter := none }
  obtain ⟨ended, hended⟩ : ∃ ended,
      attempt (runOps (newTask request "task-1" 0) [.claim worker 60 0])
        (.finish worker "running" none none 1) = some ended := ⟨_, rfl⟩
  have hrejected := ((hfenced request "task-1" 0).rejected
    [.claim worker 60 0] (.finish worker "running" none none 1) ended worker []
    (.renew worker 60 2) hended rfl (by simp [events]) rfl).1
  obtain rfl := Option.some.inj hended
  cases hrejected

end XianyuAdmin.LeaseFencing
