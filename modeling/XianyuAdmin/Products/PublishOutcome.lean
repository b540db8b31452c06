import XianyuAdmin.Cookies.AccountCookies
import XianyuAdmin.Orders.ActionOutcome
import XianyuAdmin.Products.PublishTasks

/-!
# How a publish task ends

A worker sets a pending task to running, has the platform publish the product in a
thread, merges the cookies of the responses and records the outcome in the task.  One
`try` statement covers all of this, and its handlers record a failure.  How the
collaborators behave is given from outside: each await may return, raise or be
cancelled, and a transaction that was submitted may be committed although its await is
interrupted.
-/

namespace XianyuAdmin.Products

open XianyuAdmin.Cookies (CookieMap cleanUpdates)
open XianyuAdmin.Orders (Interruption WriteEnd)
open XianyuAdmin.Procedure
open XianyuAdmin.Python

/-- `ProductPublishError` -/
structure PublishError where
  kind : String
  text : String
  retryable : Bool := false
  uncertain : Bool := false
  cookieUpdates : CookieMap := Dict.empty
  rawResponse : Json := .obj []

inductive PublishFailure
  | productPublish (error : PublishError)
  | interrupted (interruption : Interruption)

def raised (className text : String) : PublishFailure :=
  .interrupted (.exception className text)

/-- `ProductPublishResult` -/
structure PublishResult where
  itemId : Option String
  itemUrl : Option String
  verified : Bool
  cookieUpdates : CookieMap := Dict.empty
  rawResponse : Json := .obj []

/-- What `publisher.publish` raises in its thread, where nothing is cancelled. -/
inductive PublishException
  | productPublish (error : PublishError)
  | other (className text : String)

def PublishException.failure : PublishException → PublishFailure
  | .productPublish error => .productPublish error
  | .other className text => raised className text

def PublishException.isUncertain : PublishException → Bool
  | .productPublish error => error.uncertain
  | .other _ _ => false

/-- The await of `run_platform_blocking(publisher.publish, request)`. -/
inductive PublishCall
  /-- The executor is saturated or shut down; nothing is published. -/
  | refused (className text : String)
  | ended (outcome : Except PublishException PublishResult)
  | cancelled (outcome : Option (Except PublishException PublishResult))

/-- How `publisher.publish` ended, if it did. -/
def PublishCall.outcome? : PublishCall → Option (Except PublishException PublishResult)
  | .refused _ _ => none
  | .ended outcome => some outcome
  | .cancelled outcome => outcome

/-- What `merge_account_cookie_updates` raises once it has something to merge. -/
inductive MergeFailure
  | cookieConflict (text : String)
  | interrupted (interruption : Interruption)

def MergeFailure.failure : MergeFailure → PublishFailure
  | .cookieConflict text => .productPublish { kind := "cookie_conflict", text := text }
  | .interrupted interruption => .interrupted interruption

/-- `merge_account_cookie_updates`, of which only the end matters: without updates there is
nothing to await. -/
def mergeAccountCookieUpdates {State Failure : Type} (failure : MergeFailure → Failure)
    (updates : CookieMap) (merged : Except MergeFailure Bool) : Procedure State Failure Bool :=
  if cleanUpdates updates = [] then pure false else answer (merged.mapError failure)

def Merged (updates : CookieMap) (merged : Except MergeFailure Bool) : Prop :=
  cleanUpdates updates = [] ∨ ∃ changed, merged = .ok changed

theorem mergeAccountCookieUpdates_ends {State Failure : Type} {state : State}
    (failure : MergeFailure → Failure) (updates : CookieMap)
    (merged : Except MergeFailure Bool) :
    Ends (mergeAccountCookieUpdates failure updates merged) state
      (fun _ next => Merged updates merged ∧ next = state)
      (fun raised next => ¬Merged updates merged ∧ next = state ∧
        ∃ error, merged = .error error ∧ raised = failure error) := by
  unfold mergeAccountCookieUpdates Merged
  by_cases hnone : cleanUpdates updates = []
  · simp [hnone]
  · cases merged with
    | ok changed => simp [hnone, Except.mapError]
    | error error => simp [hnone, Except.mapError]

/-- What `_request_from_snapshot` raises. -/
inductive RequestFailure
  | invalid (kind text : String)
  | interrupted (interruption : Interruption)

def RequestFailure.failure : RequestFailure → PublishFailure
  | .invalid kind text => .productPublish { kind := kind, text := text }
  | .interrupted interruption => .interrupted interruption

structure TaskWrite where
  writeEnd : WriteEnd
  now : ℕ

/-- The awaits of `execute_product_publish`, in their order. -/
structure Collaborators where
  foundTask : Except Interruption Unit
  foundAccount : Except Interruption Unit
  /-- Entering `account_publish_lock`. -/
  locked : Except Interruption Unit
  foundAgain : Except Interruption Unit
  start : TaskWrite
  startedRealtime : Except Interruption Unit
  request : Except RequestFailure Unit
  /-- `publisher_factory(_to_core_account(account), ...)`, which is not awaited. -/
  publisher : Except (String × String) Unit
  /-- The phases that are reported from the thread. -/
  progress : List (String × TaskWrite)
  publish : PublishCall
  mergeSuccess : Except MergeFailure Bool
  writeSuccess : TaskWrite
  successRealtime : Except Interruption Unit
  mergeError : Except MergeFailure Bool
  writeError : TaskWrite
  errorRealtime : Except Interruption Unit
  writeInternal : TaskWrite
  internalRealtime : Except Interruption Unit

def progressOutcome (phase : String) : ExecutionOutcome where
  status := some .running
  phase := some phase

def startingOutcome : ExecutionOutcome := progressOutcome "starting"

def successOutcome (result : PublishResult) : ExecutionOutcome where
  status := some (if result.verified then .success else .verificationRequired)
  phase := some (if result.verified then "completed" else "verification_required")
  itemId := result.itemId
  itemUrl := result.itemUrl
  failureKind := if result.verified then none else some "verification_required"
  error :=
    if result.verified then none
    else some "商品已返回 ID，但列表核验未通过，请到闲鱼确认"
  rawResult := some result.rawResponse
  retryable := some false
  resultCertainty :=
    some (if result.verified then "confirmed_success" else "published_unconfirmed")

def errorOutcome (error : PublishError) : ExecutionOutcome where
  status := some (if error.uncertain then .verificationRequired else .failed)
  phase := some (if error.uncertain then "verification_required" else "failed")
  failureKind := some error.kind
  error := some error.text
  rawResult := some error.rawResponse
  retryable := some (error.retryable && !error.uncertain)
  resultCertainty := some (if error.uncertain then "result_unknown" else "confirmed_failed")

def internalOutcome (text : String) : ExecutionOutcome where
  status := some .failed
  phase := some "failed"
  failureKind := some "internal"
  error := some text
  retryable := some false
  resultCertainty := some "confirmed_failed"

abbrev PublishProcedure := Procedure Database PublishFailure

section Service

variable (collaborators : Collaborators) (accountId : String) (taskId : Identifier)

def awaitEnd (result : Except Interruption Unit) : PublishProcedure Unit :=
  answer (result.mapError .interrupted)

/-- `store.update_product_publish_task_after_execute`. -/
def awaitUpdate (write : TaskWrite) (outcome : ExecutionOutcome) :
    PublishProcedure (Option PublishTask) := do
  let database ← get
  let updated := updateAfterExecute database write.now accountId taskId outcome
  match write.writeEnd with
  | .returned =>
      set updated.2
      pure updated.1
  | .interrupted committed interruption =>
      set (if committed then updated.2 else database)
      throw (.interrupted interruption)

/-- `update_progress`: the thread waits for the update and goes on however it ends. -/
def updateProgress : List (String × TaskWrite) → PublishProcedure Unit
  | [] => pure ()
  | (phase, write) :: rest => do
      tryCatch (do let _ ← awaitUpdate accountId taskId write (progressOutcome phase))
        fun _ => pure ()
      updateProgress rest

/-- The await of the thread in which `publisher.publish` runs. -/
def runPublish : PublishProcedure PublishResult :=
  match collaborators.publish with
  | .refused className text => throw (raised className text)
  | .ended outcome => do
      updateProgress accountId taskId collaborators.progress
      answer (outcome.mapError PublishException.failure)
  | .cancelled _ => do
      updateProgress accountId taskId collaborators.progress
      throw (.interrupted .cancelled)

/-- `_publish_task_realtime` of a task that was updated. -/
def publishRealtime (updated : Option PublishTask) (published : Except Interruption Unit) :
    PublishProcedure Unit :=
  if updated.isSome then awaitEnd published else pure ()

def recordPublished (result : PublishResult) : PublishProcedure (PublishTask × Bool) := do
  let cookieChanged ← mergeAccountCookieUpdates MergeFailure.failure result.cookieUpdates
    collaborators.mergeSuccess
  let updated ← awaitUpdate accountId taskId collaborators.writeSuccess (successOutcome result)
  match updated with
  | none => throw (raised "RuntimeError" "product publish task disappeared after execution")
  | some task => do
      awaitEnd collaborators.successRealtime
      pure (task, cookieChanged)

/-- The body of the `try` statement.  Closing the publisher's session raises nothing. -/
def publishAndRecord : PublishProcedure (PublishTask × Bool) := do
  answer (collaborators.request.mapError RequestFailure.failure)
  answer (collaborators.publisher.mapError fun error => raised error.1 error.2)
  let result ← runPublish collaborators accountId taskId
  recordPublished collaborators accountId taskId result

/-- The two `except` clauses, which raise again what they caught. -/
def recordFailure (failure : PublishFailure) : PublishProcedure (PublishTask × Bool) :=
  match failure with
  | .productPublish error => do
      let _ ← mergeAccountCookieUpdates MergeFailure.failure error.cookieUpdates
        collaborators.mergeError
      let updated ← awaitUpdate accountId taskId collaborators.writeError (errorOutcome error)
      publishRealtime updated collaborators.errorRealtime
      throw failure
  | .interrupted (.exception _ text) => do
      let updated ← awaitUpdate accountId taskId collaborators.writeInternal
        (internalOutcome text)
      publishRealtime updated collaborators.internalRealtime
      throw failure
  | .interrupted .cancelled => throw failure

/-- `store.get_product_publish_task`. -/
def getTask (database : Database) : Option PublishTask :=
  (database.task? taskId).filter fun task => task.accountId = accountId

def raiseError (text : String) {Value : Type} : PublishProcedure Value :=
  throw (raised "ValueError" text)

/-- The part of `execute_product_publish` under the lock.  Leaving the lock writes
nothing. -/
def executeLocked : PublishProcedure (PublishTask × Bool) := do
  awaitEnd collaborators.foundAgain
  let database ← get
  match getTask accountId taskId database with
  | none => raiseError "product publish task not found"
  | some task =>
      if task.status ≠ .pending then pure (task, false)
      else do
        let starting ← awaitUpdate accountId taskId collaborators.start startingOutcome
        publishRealtime starting collaborators.startedRealtime
        tryCatch (publishAndRecord collaborators accountId taskId)
          (recordFailure collaborators accountId taskId)

def executeProductPublish : PublishProcedure (PublishTask × Bool) := do
  awaitEnd collaborators.foundTask
  let database ← get
  match getTask accountId taskId database with
  | none => raiseError "product publish task not found"
  | some task =>
      if task.status ≠ .pending then pure (task, false)
      else if task.mode ≠ "platform_api" then
        raiseError ("unsupported product publish mode: " ++ task.mode)
      else do
        awaitEnd collaborators.foundAccount
        if (database.accounts.lookup accountId).isNone then raiseError "account not found"
        else do
          awaitEnd collaborators.locked
          executeLocked collaborators accountId taskId

end Service

def Stored (accountId : String) (taskId : Identifier) (task : PublishTask)
    (database : Database) : Prop :=
  database.task? taskId = some task ∧ task.accountId = accountId

def Shows (accountId : String) (taskId : Identifier) (outcome : ExecutionOutcome)
    (database : Database) : Prop :=
  ∃ (before : PublishTask) (now : ℕ),
    Stored accountId taskId (before.afterExecute now outcome) database

def IsRunning (accountId : String) (taskId : Identifier) (database : Database) : Prop :=
  ∃ task, Stored accountId taskId task database ∧ task.status = .running

theorem task?_updateTask {database : Database} {taskId : Identifier} {task : PublishTask}
    {update : PublishTask → PublishTask}
    (hkeys : ∀ task, taskKeys (update task) = taskKeys task)
    (htask : database.task? taskId = some task) :
    (updateTask database taskId update hkeys).task? taskId = some (update task) := by
  have hid : task.taskId = taskId := (Database.task?_eq_some_iff.mp htask).2
  unfold Database.task? at htask ⊢
  unfold updateTask
  rw [Table.lookup_map, htask]
  simp [hid]

theorem stored_updateAfterExecute {database : Database} {accountId : String}
    {taskId : Identifier} {task : PublishTask}
    (hstored : Stored accountId taskId task database) (now : ℕ) (outcome : ExecutionOutcome) :
    (updateAfterExecute database now accountId taskId outcome).1 =
        some (task.afterExecute now outcome) ∧
      Stored accountId taskId (task.afterExecute now outcome)
        (updateAfterExecute database now accountId taskId outcome).2 := by
  have hupdated := task?_updateTask (taskKeys_afterExecute now outcome) hstored.1
  unfold updateAfterExecute
  rw [hstored.1]
  simp only [hstored.2, ne_eq, not_true_eq_false, if_false]
  split
  · exact ⟨rfl, hupdated, hstored.2⟩
  · exact ⟨rfl, hupdated, hstored.2⟩

section Ends

variable {collaborators : Collaborators} {accountId : String} {taskId : Identifier}
  {task : PublishTask} {database : Database}

theorem awaitUpdate_ends (hstored : Stored accountId taskId task database) (write : TaskWrite)
    (outcome : ExecutionOutcome) :
    Ends (awaitUpdate accountId taskId write outcome) database
      (fun updated next => write.writeEnd = .returned ∧ updated.isSome = true ∧
        Stored accountId taskId (task.afterExecute write.now outcome) next)
      (fun failure next => ∃ committed interruption,
        write.writeEnd = .interrupted committed interruption ∧
        failure = .interrupted interruption ∧
        if committed then Stored accountId taskId (task.afterExecute write.now outcome) next
        else next = database) := by
  obtain ⟨hsome, hupdated⟩ := stored_updateAfterExecute hstored write.now outcome
  simp only [awaitUpdate, ends_bind, ends_get]
  cases hend : write.writeEnd with
  | returned =>
      simp only [ends_bind, ends_set, ends_pure]
      exact ⟨trivial, by rw [hsome]; rfl, hupdated⟩
  | interrupted committed interruption =>
      simp only [ends_bind, ends_set, ends_throw]
      refine ⟨committed, interruption, rfl, rfl, ?_⟩
      cases committed with
      | true => exact hupdated
      | false => exact rfl

theorem ends_awaitEnd {result : Except Interruption Unit} {returns : Unit → Database → Prop}
    {raises : PublishFailure → Database → Prop} :
    Ends (awaitEnd result) database returns raises ↔
      match result with
      | .ok value => returns value database
      | .error interruption => raises (.interrupted interruption) database := by
  cases result <;> exact ends_answer

/-- The reports of the thread leave the task running and raise nothing. -/
theorem updateProgress_ends (progress : List (String × TaskWrite))
    (hrunning : IsRunning accountId taskId database) :
    Ends (updateProgress accountId taskId progress) database
      (fun _ next => IsRunning accountId taskId next) (fun _ _ => False) := by
  induction progress generalizing database with
  | nil => exact hrunning
  | cons report rest ih =>
      obtain ⟨task, hstored, hstatus⟩ := hrunning
      simp only [updateProgress, ends_bind, ends_tryCatch, ends_pure]
      apply (awaitUpdate_ends hstored report.2 (progressOutcome report.1)).mono
      · rintro updated next ⟨-, -, hwritten⟩
        exact ih ⟨_, hwritten, rfl⟩
      · rintro failure next ⟨committed, interruption, -, -, hnext⟩
        cases committed with
        | true => exact ih ⟨_, hnext, rfl⟩
        | false => exact ih (hnext ▸ ⟨task, hstored, hstatus⟩)

theorem publishRealtime_throw_ends (updated : Option PublishTask)
    (published : Except Interruption Unit) (failure : PublishFailure) :
    Ends (do publishRealtime updated published; throw failure :
        PublishProcedure (PublishTask × Bool)) database
      (fun _ _ => False) (fun _ next => next = database) := by
  simp only [publishRealtime, ends_bind, ends_throw]
  split
  · rw [ends_awaitEnd]
    cases published with
    | ok value => exact rfl
    | error interruption => exact rfl
  · exact rfl

theorem recordError_ends (hstored : Stored accountId taskId task database)
    (error : PublishError) :
    Ends (recordFailure collaborators accountId taskId (.productPublish error)) database
      (fun _ _ => False)
      (fun _ next =>
        (Merged error.cookieUpdates collaborators.mergeError ∧
          collaborators.writeError.writeEnd.takesEffect = true ∧
          Shows accountId taskId (errorOutcome error) next) ∨
        (¬(Merged error.cookieUpdates collaborators.mergeError ∧
          collaborators.writeError.writeEnd.takesEffect = true) ∧ next = database)) := by
  simp only [recordFailure]
  rw [ends_bind]
  apply (mergeAccountCookieUpdates_ends _ _ _).mono
  · rintro changed merged ⟨hmerged, rfl⟩
    rw [ends_bind]
    apply (awaitUpdate_ends hstored collaborators.writeError (errorOutcome error)).mono
    · rintro updated next ⟨hend, -, hwritten⟩
      refine (publishRealtime_throw_ends _ _ _).mono (fun _ _ h => h) fun _ last hlast => ?_
      exact .inl ⟨hmerged, by rw [hend]; rfl, task, _, hlast ▸ hwritten⟩
    · rintro failure next ⟨committed, interruption, hend, -, hnext⟩
      rw [hend]
      cases committed with
      | true => exact .inl ⟨hmerged, rfl, task, _, hnext⟩
      | false => exact .inr ⟨fun h => Bool.noConfusion h.2, hnext⟩
  · rintro failure next ⟨hconflict, hnext, -⟩
    exact .inr ⟨fun h => hconflict h.1, hnext⟩

/-- The handler of any other exception records a failure of its own. -/
theorem recordInternal_ends (hstored : Stored accountId taskId task database)
    (className text : String) :
    Ends (recordFailure collaborators accountId taskId (raised className text)) database
      (fun _ _ => False)
      (fun _ next =>
        if collaborators.writeInternal.writeEnd.takesEffect then
          Shows accountId taskId (internalOutcome text) next
        else next = database) := by
  simp only [recordFailure, raised]
  rw [ends_bind]
  apply (awaitUpdate_ends hstored collaborators.writeInternal (internalOutcome text)).mono
  · rintro updated next ⟨hend, -, hwritten⟩
    refine (publishRealtime_throw_ends _ _ _).mono (fun _ _ h => h) fun _ last hlast => ?_
    rw [hend]
    exact ⟨task, _, hlast ▸ hwritten⟩
  · rintro failure next ⟨committed, interruption, hend, -, hnext⟩
    rw [hend]
    cases committed with
    | true => exact ⟨task, _, hnext⟩
    | false => exact hnext

end Ends

/-- The task is not left running, its failure is certain only if `publisher.publish`
raised an exception that leaves no doubt, and an item that was published is stored. -/
def TruthfulOutcome (taskId : Identifier)
    (outcome : Option (Except PublishException PublishResult)) (database : Database) : Prop :=
  ∃ task, database.task? taskId = some task ∧ task.status ≠ .running ∧
    (task.resultCertainty = some "confirmed_failed" →
      ∃ exception, outcome = some (.error exception) ∧ exception.isUncertain = false) ∧
    (∀ result itemId, outcome = some (.ok result) → result.itemId = some itemId → itemId ≠ "" →
      task.itemId = some itemId ∧
        (task.status = .success ∨ task.status = .verificationRequired))

/-- How `publisher.publish` ended, if it was called and did end. -/
def Collaborators.published (collaborators : Collaborators) :
    Option (Except PublishException PublishResult) :=
  match collaborators.start.writeEnd, collaborators.startedRealtime, collaborators.request,
      collaborators.publisher with
  | .returned, .ok (), .ok (), .ok () => collaborators.publish.outcome?
  | _, _, _, _ => none

def SuccessStands (collaborators : Collaborators) (result : PublishResult) : Prop :=
  Merged result.cookieUpdates collaborators.mergeSuccess ∧
    collaborators.writeSuccess.writeEnd.takesEffect = true ∧
    (((∃ className text, collaborators.writeSuccess.writeEnd =
          .interrupted true (.exception className text)) ∨
        (collaborators.writeSuccess.writeEnd = .returned ∧ ∃ className text,
          collaborators.successRealtime = .error (.exception className text))) →
      collaborators.writeInternal.writeEnd.takesEffect = false)

/-- The update for an exception that `publisher.publish` raised is committed. -/
def FailureStands (collaborators : Collaborators) : PublishException → Prop
  | .productPublish error =>
      Merged error.cookieUpdates collaborators.mergeError ∧
        collaborators.writeError.writeEnd.takesEffect = true
  | .other _ _ => collaborators.writeInternal.writeEnd.takesEffect = true

/-- The platform is asked to publish, its answer is awaited, and the update that fits the
answer is committed and stands. -/
def Recorded (collaborators : Collaborators) : Prop :=
  collaborators.start.writeEnd = .returned ∧ collaborators.startedRealtime = .ok () ∧
    collaborators.request = .ok () ∧ collaborators.publisher = .ok () ∧
    match collaborators.publish with
    | .ended (.ok result) => SuccessStands collaborators result
    | .ended (.error exception) => FailureStands collaborators exception
    | .refused _ _ | .cancelled _ => False

section Truth

variable {accountId : String} {taskId : Identifier} {database : Database}
  {outcome : Option (Except PublishException PublishResult)}

theorem not_truthful_of_running (hrunning : IsRunning accountId taskId database) :
    ¬TruthfulOutcome taskId outcome database := by
  obtain ⟨task, hstored, hstatus⟩ := hrunning
  rintro ⟨found, hfound, hended, -⟩
  rw [hstored.1] at hfound
  exact hended (Option.some.inj hfound ▸ hstatus)

theorem not_truthful_of_certain {written : ExecutionOutcome}
    (hshows : Shows accountId taskId written database)
    (hcertain : written.resultCertainty = some "confirmed_failed")
    (hnone : ∀ exception, outcome ≠ some (.error exception)) :
    ¬TruthfulOutcome taskId outcome database := by
  obtain ⟨before, now, hstored⟩ := hshows
  rintro ⟨found, hfound, -, hraised, -⟩
  rw [hstored.1] at hfound
  have hcertainty : found.resultCertainty = some "confirmed_failed" := by
    rw [← Option.some.inj hfound]
    simp [PublishTask.afterExecute, hcertain]
  obtain ⟨exception, heq, -⟩ := hraised hcertainty
  exact hnone exception heq

theorem truthful_of_success {result : PublishResult}
    (hshows : Shows accountId taskId (successOutcome result) database) :
    TruthfulOutcome taskId (some (.ok result)) database := by
  obtain ⟨before, now, hstored⟩ := hshows
  have hstatus : (before.afterExecute now (successOutcome result)).status = .success ∨
      (before.afterExecute now (successOutcome result)).status = .verificationRequired := by
    cases hverified : result.verified
    · exact .inr (by simp [PublishTask.afterExecute, successOutcome, hverified])
    · exact .inl (by simp [PublishTask.afterExecute, successOutcome, hverified])
  refine ⟨_, hstored.1, fun hrunning => ?_, fun hcertain => ?_, ?_⟩
  · rcases hstatus with h | h <;> rw [h] at hrunning <;> cases hrunning
  · cases hverified : result.verified <;>
      simp [PublishTask.afterExecute, successOutcome, hverified] at hcertain
  · intro same itemId heq hitem hne
    cases heq
    refine ⟨?_, hstatus⟩
    simp [PublishTask.afterExecute, successOutcome, hitem, orElse, truthy, hne]

theorem truthful_of_error {error : PublishError}
    (hshows : Shows accountId taskId (errorOutcome error) database) :
    TruthfulOutcome taskId (some (.error (.productPublish error))) database := by
  obtain ⟨before, now, hstored⟩ := hshows
  refine ⟨_, hstored.1, fun hrunning => ?_, fun hcertain => ⟨_, rfl, ?_⟩, fun _ _ h => ?_⟩
  · cases huncertain : error.uncertain <;>
      simp [PublishTask.afterExecute, errorOutcome, huncertain] at hrunning
  · cases huncertain : error.uncertain
    · exact huncertain
    · simp [PublishTask.afterExecute, errorOutcome, huncertain] at hcertain
  · cases h

theorem truthful_of_internal {className text shown : String}
    (hshows : Shows accountId taskId (internalOutcome shown) database) :
    TruthfulOutcome taskId (some (.error (.other className text))) database := by
  obtain ⟨before, now, hstored⟩ := hshows
  refine ⟨_, hstored.1, fun hrunning => ?_, fun _ => ⟨_, rfl, rfl⟩, fun _ _ h => ?_⟩
  · cases hrunning
  · cases h

end Truth

section Outcome

variable {collaborators : Collaborators} {accountId : String} {taskId : Identifier}
  {task : PublishTask} {database : Database}

theorem not_truthful_after_handler (hrunning : IsRunning accountId taskId database)
    {failure : PublishFailure}
    (hcertain : ∀ error, failure = .productPublish error → error.uncertain = false)
    {outcome : Option (Except PublishException PublishResult)}
    (hnone : ∀ exception, outcome ≠ some (.error exception)) :
    Ends (recordFailure collaborators accountId taskId failure) database
      (fun _ next => ¬TruthfulOutcome taskId outcome next)
      (fun _ next => ¬TruthfulOutcome taskId outcome next) := by
  obtain ⟨task, hstored, hstatus⟩ := id hrunning
  cases failure with
  | productPublish error =>
      apply (recordError_ends hstored error).mono
      · exact fun _ _ h => h.elim
      · rintro _ next (⟨-, -, hshows⟩ | ⟨-, rfl⟩)
        · exact not_truthful_of_certain hshows (by simp [errorOutcome, hcertain error rfl]) hnone
        · exact not_truthful_of_running hrunning
  | interrupted interruption =>
      cases interruption with
      | cancelled => exact not_truthful_of_running hrunning
      | exception className text =>
          apply (recordInternal_ends hstored className text).mono
          · exact fun _ _ h => h.elim
          · intro _ next hnext
            split at hnext
            · exact not_truthful_of_certain hnext rfl hnone
            · exact hnext ▸ not_truthful_of_running hrunning

theorem truthful_after_late_exception {result : PublishResult}
    (hshows : Shows accountId taskId (successOutcome result) database)
    (className text : String) :
    Ends (recordFailure collaborators accountId taskId (raised className text)) database
      (fun _ _ => False)
      (fun _ next => TruthfulOutcome taskId (some (.ok result)) next ↔
        collaborators.writeInternal.writeEnd.takesEffect = false) := by
  obtain ⟨before, now, hstored⟩ := id hshows
  apply (recordInternal_ends hstored className text).mono
  · exact fun _ _ h => h
  · intro _ next hnext
    cases heffect : collaborators.writeInternal.writeEnd.takesEffect with
    | true =>
        rw [heffect, if_pos rfl] at hnext
        exact iff_of_false
          (not_truthful_of_certain hnext rfl fun _ h => by cases h) Bool.noConfusion
    | false =>
        rw [heffect, if_neg Bool.noConfusion] at hnext
        exact iff_of_true (hnext ▸ truthful_of_success hshows) rfl

/-- After the platform published the product. -/
theorem recordPublished_ends {result : PublishResult}
    (hrunning : IsRunning accountId taskId database) :
    Ends (tryCatch (recordPublished collaborators accountId taskId result)
        (recordFailure collaborators accountId taskId)) database
      (fun _ next => TruthfulOutcome taskId (some (.ok result)) next ↔
        SuccessStands collaborators result)
      (fun _ next => TruthfulOutcome taskId (some (.ok result)) next ↔
        SuccessStands collaborators result) := by
  obtain ⟨task, hstored, hstatus⟩ := id hrunning
  have hfails : ∀ (failure : PublishFailure) (hcertain : ∀ error,
        failure = .productPublish error → error.uncertain = false),
      ¬SuccessStands collaborators result →
      Ends (recordFailure collaborators accountId taskId failure) database
        (fun _ next => TruthfulOutcome taskId (some (.ok result)) next ↔
          SuccessStands collaborators result)
        (fun _ next => TruthfulOutcome taskId (some (.ok result)) next ↔
          SuccessStands collaborators result) := by
    intro failure hcertain hnot
    exact (not_truthful_after_handler hrunning hcertain fun _ h => by cases h).mono
      (fun _ _ h => iff_of_false h hnot) fun _ _ h => iff_of_false h hnot
  simp only [recordPublished, ends_tryCatch]
  rw [ends_bind]
  apply (mergeAccountCookieUpdates_ends _ _ _).mono
  · rintro changed merged ⟨hmerged, rfl⟩
    rw [ends_bind]
    apply (awaitUpdate_ends hstored collaborators.writeSuccess (successOutcome result)).mono
    · rintro updated next ⟨hend, hsome, hwritten⟩
      obtain ⟨updatedTask, rfl⟩ := Option.isSome_iff_exists.mp hsome
      have hshows : Shows accountId taskId (successOutcome result) next := ⟨task, _, hwritten⟩
      have hstands : SuccessStands collaborators result ↔
          ((∃ className text,
            collaborators.successRealtime = .error (.exception className text)) →
              collaborators.writeInternal.writeEnd.takesEffect = false) := by
        simp [SuccessStands, hmerged, hend, WriteEnd.takesEffect]
      simp only [ends_bind, ends_awaitEnd]
      cases hrealtime : collaborators.successRealtime with
      | ok value =>
          exact iff_of_true (truthful_of_success hshows)
            (hstands.mpr fun ⟨_, _, h⟩ => by rw [hrealtime] at h; cases h)
      | error interruption =>
          cases interruption with
          | cancelled =>
              exact iff_of_true (truthful_of_success hshows)
                (hstands.mpr fun ⟨_, _, h⟩ => by rw [hrealtime] at h; cases h)
          | exception className text =>
              apply (truthful_after_late_exception hshows className text).mono
              · exact fun _ _ h => h.elim
              · intro _ last hlast
                rw [hlast, hstands, hrealtime]
                simp
    · rintro failure next ⟨committed, interruption, hend, rfl, hnext⟩
      cases committed with
      | false =>
          rw [if_neg Bool.noConfusion] at hnext
          subst hnext
          refine hfails _ (fun _ h => by cases h) fun hstands => ?_
          have heffect := hstands.2.1
          rw [hend] at heffect
          cases heffect
      | true =>
          have hshows : Shows accountId taskId (successOutcome result) next :=
            ⟨task, _, hnext⟩
          have hstands : SuccessStands collaborators result ↔
              ((∃ className text, interruption = .exception className text) →
                collaborators.writeInternal.writeEnd.takesEffect = false) := by
            simp [SuccessStands, hmerged, hend, WriteEnd.takesEffect]
          cases interruption with
          | cancelled =>
              exact iff_of_true (truthful_of_success hshows)
                (hstands.mpr fun ⟨_, _, h⟩ => by cases h)
          | exception className text =>
              apply (truthful_after_late_exception hshows className text).mono
              · exact fun _ _ h => h.elim
              · intro _ last hlast
                rw [hlast, hstands]
                simp
  · rintro failure next ⟨hconflict, rfl, raised, -, rfl⟩
    refine hfails _ (fun error herror => ?_) fun hstands => hconflict hstands.1
    cases raised with
    | cookieConflict text =>
        cases herror
        rfl
    | interrupted interruption => cases herror

/-- After the platform call raised. -/
theorem recordException_ends (hrunning : IsRunning accountId taskId database)
    (exception : PublishException) :
    Ends (recordFailure collaborators accountId taskId exception.failure) database
      (fun _ _ => False)
      (fun _ next => TruthfulOutcome taskId (some (.error exception)) next ↔
        FailureStands collaborators exception) := by
  obtain ⟨task, hstored, hstatus⟩ := id hrunning
  cases exception with
  | productPublish error =>
      apply (recordError_ends hstored error).mono
      · exact fun _ _ h => h
      · rintro _ last (⟨hmerged, heffect, hshows⟩ | ⟨hnot, rfl⟩)
        · exact iff_of_true (truthful_of_error hshows) ⟨hmerged, heffect⟩
        · exact iff_of_false (not_truthful_of_running hrunning) hnot
  | other className text =>
      apply (recordInternal_ends hstored className text).mono
      · exact fun _ _ h => h
      · intro _ last hlast
        split at hlast
        · rename_i heffect
          exact iff_of_true (truthful_of_internal hlast) heffect
        · rename_i heffect
          exact iff_of_false (hlast ▸ not_truthful_of_running hrunning) heffect

theorem publishAndRecord_ends (hrunning : IsRunning accountId taskId database)
    (hstarted : collaborators.start.writeEnd = .returned)
    (hrealtime : collaborators.startedRealtime = .ok ()) :
    Ends (tryCatch (publishAndRecord collaborators accountId taskId)
        (recordFailure collaborators accountId taskId)) database
      (fun _ next => TruthfulOutcome taskId collaborators.published next ↔
        Recorded collaborators)
      (fun _ next => TruthfulOutcome taskId collaborators.published next ↔
        Recorded collaborators) := by
  have hfails : ∀ (failure : PublishFailure) (next : Database),
      IsRunning accountId taskId next →
      (∀ error, failure = .productPublish error → error.uncertain = false) →
      (∀ exception, collaborators.published ≠ some (.error exception)) →
      ¬Recorded collaborators →
      Ends (recordFailure collaborators accountId taskId failure) next
        (fun _ last => TruthfulOutcome taskId collaborators.published last ↔
          Recorded collaborators)
        (fun _ last => TruthfulOutcome taskId collaborators.published last ↔
          Recorded collaborators) := by
    intro failure next hnext hcertain hnone hnot
    exact (not_truthful_after_handler hnext hcertain hnone).mono
      (fun _ _ h => iff_of_false h hnot) fun _ _ h => iff_of_false h hnot
  simp only [publishAndRecord, ends_tryCatch, ends_bind, ends_answer]
  cases hrequest : collaborators.request with
  | error failure =>
      have hnone : collaborators.published = none := by
        simp [Collaborators.published, hrequest]
      refine hfails _ _ hrunning (fun error herror => ?_) (fun _ h => by simp [hnone] at h)
        fun h => by simp [Recorded, hrequest] at h
      cases failure with
      | invalid kind text =>
          cases herror
          rfl
      | interrupted interruption => cases herror
  | ok value =>
      simp only [Except.mapError]
      cases hpublisher : collaborators.publisher with
      | error error =>
          have hnone : collaborators.published = none := by
            simp [Collaborators.published, hpublisher]
          exact hfails _ _ hrunning (fun _ h => by cases h) (fun _ h => by simp [hnone] at h)
            fun h => by simp [Recorded, hpublisher] at h
      | ok value =>
          have hpublished : collaborators.published = collaborators.publish.outcome? := by
            simp [Collaborators.published, hstarted, hrealtime, hrequest, hpublisher]
          simp only [Except.mapError, runPublish]
          cases hpublish : collaborators.publish with
          | refused className text =>
              refine hfails _ _ hrunning (fun _ h => by cases h) (fun _ h => ?_)
                fun h => by simp [Recorded, hpublish] at h
              rw [hpublished, hpublish] at h
              cases h
          | cancelled outcome =>
              simp only [ends_bind, ends_throw]
              apply (updateProgress_ends collaborators.progress hrunning).mono
              · exact fun _ next hnext => iff_of_false (not_truthful_of_running hnext)
                  fun h => by simp [Recorded, hpublish] at h
              · exact fun _ _ h => h.elim
          | ended outcome =>
              simp only [ends_bind, ends_answer]
              apply (updateProgress_ends collaborators.progress hrunning).mono
              · intro _ next hnext
                have hreached : collaborators.published = some outcome := by
                  rw [hpublished, hpublish]
                  rfl
                rw [hreached]
                cases outcome with
                | ok result =>
                    have hrecorded : Recorded collaborators ↔
                        SuccessStands collaborators result := by
                      simp [Recorded, hstarted, hrealtime, hrequest, hpublisher, hpublish]
                    rw [hrecorded]
                    exact ends_tryCatch.mp (recordPublished_ends hnext)
                | error exception =>
                    have hrecorded : Recorded collaborators ↔
                        FailureStands collaborators exception := by
                      simp [Recorded, hstarted, hrealtime, hrequest, hpublisher, hpublish]
                    rw [hrecorded]
                    exact (recordException_ends hnext exception).mono
                      (fun _ _ h => h.elim) fun _ _ h => h
              · exact fun _ _ h => h.elim

structure SetsRunning (collaborators : Collaborators) (accountId : String)
    (taskId : Identifier) (database : Database) : Prop where
  task : ∃ task, Stored accountId taskId task database ∧ task.status = .pending ∧
    task.mode = "platform_api"
  account : (database.accounts.lookup accountId).isSome = true
  foundTask : collaborators.foundTask = .ok ()
  foundAccount : collaborators.foundAccount = .ok ()
  locked : collaborators.locked = .ok ()
  foundAgain : collaborators.foundAgain = .ok ()
  start : collaborators.start.writeEnd.takesEffect = true

/-- Once the task is set to running, its outcome is truthful exactly when the update that
fits the platform's answer is committed and stands. -/
theorem publish_truthful_iff (hrunning : SetsRunning collaborators accountId taskId database) :
    TruthfulOutcome taskId collaborators.published
        ((executeProductPublish collaborators accountId taskId).after database) ↔
      Recorded collaborators := by
  obtain ⟨⟨task, hstored, hpending, hmode⟩, haccount, hfound, hfoundAccount, hlocked, hagain,
    hstart⟩ := hrunning
  have hget : getTask accountId taskId database = some task := by
    simp [getTask, hstored.1, hstored.2]
  suffices hends : Ends (executeProductPublish collaborators accountId taskId) database
      (fun _ next => TruthfulOutcome taskId collaborators.published next ↔
        Recorded collaborators)
      (fun _ next => TruthfulOutcome taskId collaborators.published next ↔
        Recorded collaborators) from ends_after.mp hends
  simp only [executeProductPublish, executeLocked, ends_bind, ends_awaitEnd, ends_get, hfound,
    hget, hpending, hmode, ne_eq, not_true_eq_false, if_false, hfoundAccount,
    Option.isNone_iff_eq_none, hlocked, hagain]
  rw [if_neg (by simpa [Option.isNone_iff_eq_none, Option.isSome_iff_ne_none] using haccount)]
  simp only [ends_bind, ends_awaitEnd, ends_get, hget, hpending, not_true_eq_false, if_false]
  apply (awaitUpdate_ends hstored collaborators.start startingOutcome).mono
  · rintro starting next ⟨hend, hsome, hwritten⟩
    have hnext : IsRunning accountId taskId next := ⟨_, hwritten, rfl⟩
    rw [publishRealtime, if_pos hsome, ends_awaitEnd]
    cases hrealtime : collaborators.startedRealtime with
    | ok value => exact publishAndRecord_ends hnext hend hrealtime
    | error interruption =>
        exact iff_of_false (not_truthful_of_running hnext)
          fun h => by simp [Recorded, hrealtime] at h
  · rintro _ next ⟨committed, interruption, hend, -, hnext⟩
    rw [hend] at hstart
    cases hstart
    exact iff_of_false (not_truthful_of_running ⟨_, hnext, rfl⟩)
      fun h => by simp [Recorded, hend] at h

end Outcome

def publishedResult : PublishResult where
  itemId := some "9001"
  itemUrl := some "https://www.goofish.com/item?id=9001"
  verified := true
  cookieUpdates := Dict.ofEntries [("unb", "2202")]

def returningCollaborators : Collaborators where
  foundTask := .ok ()
  foundAccount := .ok ()
  locked := .ok ()
  foundAgain := .ok ()
  start := { writeEnd := .returned, now := 1 }
  startedRealtime := .ok ()
  request := .ok ()
  publisher := .ok ()
  progress := [("publishing", { writeEnd := .returned, now := 2 })]
  publish := .ended (.ok publishedResult)
  mergeSuccess := .ok true
  writeSuccess := { writeEnd := .returned, now := 3 }
  successRealtime := .ok ()
  mergeError := .ok true
  writeError := { writeEnd := .returned, now := 3 }
  errorRealtime := .ok ()
  writeInternal := { writeEnd := .returned, now := 3 }
  internalRealtime := .ok ()

def pendingTask : PublishTask where
  taskId := { text := "task-1", ne_empty := by decide }
  accountId := "seller"

def pendingDatabase : Database where
  accounts := .singleton { accountId := "seller" }
  drafts := Table.empty
  assets := Table.empty
  tasks := .singleton pendingTask
  taskAssets := Table.empty
  groups := Table.empty
  groupAccounts := []
  addresses := Table.empty
  usages := Table.empty

theorem setsRunning_pending {collaborators : Collaborators}
    (hfound : collaborators.foundTask = .ok ()) (haccount : collaborators.foundAccount = .ok ())
    (hlocked : collaborators.locked = .ok ()) (hagain : collaborators.foundAgain = .ok ())
    (hstart : collaborators.start.writeEnd.takesEffect = true) :
    SetsRunning collaborators "seller" pendingTask.taskId pendingDatabase where
  task := ⟨pendingTask, ⟨rfl, rfl⟩, rfl, rfl⟩
  account := rfl
  foundTask := hfound
  foundAccount := haccount
  locked := hlocked
  foundAgain := hagain
  start := hstart

theorem returned_publish_truthful :
    TruthfulOutcome pendingTask.taskId (some (.ok publishedResult))
      ((executeProductPublish returningCollaborators "seller" pendingTask.taskId).after
        pendingDatabase) :=
  (publish_truthful_iff (setsRunning_pending rfl rfl rfl rfl rfl)).mpr
    ⟨rfl, rfl, rfl, rfl, .inr ⟨true, rfl⟩, rfl, by
      rintro (⟨_, _, hend⟩ | ⟨-, _, _, hrealtime⟩)
      · cases hend
      · cases hrealtime⟩

/-- A product that is published while the cookies of its response conflict with those of
the account is recorded as certainly not published. -/
theorem conflict_denies_published :
    ¬ ∀ (collaborators : Collaborators) (accountId : String) (taskId : Identifier)
      (database : Database), SetsRunning collaborators accountId taskId database →
      TruthfulOutcome taskId collaborators.published
        ((executeProductPublish collaborators accountId taskId).after database) := by
  intro htruthful
  obtain ⟨task, htask, -, hraised, -⟩ := htruthful
    { returningCollaborators with
      mergeSuccess :=
        .error (.cookieConflict "商品操作响应 Cookie 的 unb 与当前账户不一致") }
    "seller" pendingTask.taskId pendingDatabase (setsRunning_pending rfl rfl rfl rfl rfl)
  have hcertain : task.resultCertainty = some "confirmed_failed" := by
    rw [← Option.some.inj htask]
    rfl
  obtain ⟨exception, hexception, -⟩ := hraised hcertain
  cases hexception

end XianyuAdmin.Products
