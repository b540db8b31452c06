import XianyuAdmin.Core.Procedure
import XianyuAdmin.Orders.OrderOperations

/-!
# How an order action ends

Once the operation of an action is recorded, the service calls the platform,
merges the cookies of the call and finishes the operation.  Each of these awaits
may return, raise or be cancelled; the executor waits for a database transaction
that was submitted, so that a cancelled or failed await may have committed.  How
they behave is given from outside, and the status the operation is left in is
computed from it.
-/

namespace XianyuAdmin.Orders

open XianyuAdmin.Python
open XianyuAdmin.Procedure

/-- What an await of the account store or of the repository ends with when it
does not return. -/
inductive Interruption
  | exception (className text : String)
  | cancelled
  deriving DecidableEq, Repr

structure OrderActionError where
  text : String
  uncertain : Bool := false
  rawResponse : List (String × Json) := []

structure OrderActionResult where
  success : Bool
  message : String
  platformCode : Option String := none
  alreadyApplied : Bool := false
  rawResponse : List (String × Json) := []

/-- What the platform client may end with besides a result. -/
inductive Raised
  | orderAction (error : OrderActionError)
  | interrupted (interruption : Interruption)

/-- `except Exception` catches it. -/
def Raised.isException : Raised → Bool
  | .interrupted .cancelled => false
  | _ => true

/-- The await of a transaction: it returned, or it was interrupted and the
transaction was committed or not. -/
inductive WriteEnd
  | returned
  | interrupted (committed : Bool) (interruption : Interruption)

/-- The transaction was committed. -/
def WriteEnd.takesEffect : WriteEnd → Bool
  | .returned => true
  | .interrupted committed _ => committed

/-- The behaviour of everything that `execute` awaits once it creates the
operation, and what `uuid4` and the clock supply. -/
structure Collaborators where
  /-- The await of `repository.create`, after its transaction. -/
  created : Except Interruption Unit
  execute : Except Raised OrderActionResult
  mergeSuccess : Except Interruption Unit
  finishSuccess : WriteEnd
  readbackOrder : Except Interruption Unit
  /-- `_refresh_platform_state` of the readback. -/
  refresh : OrderRow → OrderStore → OrderStore × Except Raised Unit
  mergeError : Except Interruption Unit
  finishError : WriteEnd
  finishUncertain : WriteEnd
  currentOrder : Except Interruption Unit
  operationId : String
  eventPk : String
  createdAt : ℕ
  finishedAt : ℕ

/-- The parts of `OrderOperationExecuteRequest` that are recorded. -/
structure ExecuteRequest where
  action : OrderAction
  idempotencyKey : String
  feedback : Option String := none
  closeReason : Option String := none
  trackingNo : Option String := none
  carrierCode : Option String := none
  refundReasonId : Option String := none

def requestSummary (request : ExecuteRequest) : List (String × Json) :=
  let forAction := fun (action : OrderAction) (value : Option String) =>
    if request.action = action then value.elim .null .str else .null
  [("action", .str request.action.text),
    ("feedback", forAction .rateBuyer request.feedback),
    ("close_reason", forAction .closeOrder request.closeReason),
    ("tracking_no", forAction .offlineShipping request.trackingNo),
    ("carrier_code", forAction .offlineShipping request.carrierCode),
    ("refund_reason_id", forAction .refuseRefund request.refundReasonId)]

/-- The arguments of `repository.create` for a request on the order `refreshed`. -/
def operationRequest (orderPk : String) (refreshed : OrderRow)
    (request : ExecuteRequest) (requestedBy : Option String) : OperationRequest where
  orderPk := orderPk
  accountId := refreshed.accountId
  platformOrderId := refreshed.platformOrderId.getD ""
  action := request.action
  idempotencyKey := request.idempotencyKey
  requestedBy := requestedBy
  preStatus := refreshed.status
  requestSummary := requestSummary request

def resultSummary (result : OrderActionResult) : List (String × Json) :=
  [("success", .bool result.success), ("already_applied", .bool result.alreadyApplied),
    ("platform_code", result.platformCode.elim .null .str),
    ("ret", Json.get result.rawResponse "ret")]

/-- `text.split("::", 1)[0]`. -/
def beforeColons : List Char → List Char
  | [] => []
  | char :: chars =>
      if "::".toList.isPrefixOf (char :: chars) then []
      else char :: beforeColons chars

/-- `_response_code`; the platform sends a list of strings. -/
def responseCode (response : List (String × Json)) : Option String :=
  match Json.get response "ret" with
  | .arr (first :: _) =>
      some (String.ofList
        (beforeColons (first.scalarText.getD (Json.dumps first)).toList))
  | _ => none

def successResult (result : OrderActionResult) : OperationResult where
  status := .succeeded
  message := some result.message
  error := none
  platformCode := result.platformCode
  postStatus := none
  responseSummary := resultSummary result
  applyActionState := true

def errorResult (error : OrderActionError) (refreshed : OrderRow) : OperationResult where
  status := if error.uncertain then .uncertain else .failed
  message := none
  error := some error.text
  platformCode := responseCode error.rawResponse
  postStatus := some refreshed.status
  responseSummary := [("ret", Json.get error.rawResponse "ret")]

def uncertainResult (className text : String) (refreshed : OrderRow) :
    OperationResult where
  status := .uncertain
  message := none
  error := some (className ++ ": " ++ text)
  platformCode := none
  postStatus := some refreshed.status
  responseSummary := [("exception", .str className)]

abbrev ActionProcedure := Procedure OrderDatabase Raised

section Service

variable (collaborators : Collaborators)

def awaitEnd (result : Except Interruption Unit) : ActionProcedure Unit :=
  answer (result.mapError .interrupted)

def raiseValueError (text : String) {Value : Type} : ActionProcedure Value :=
  throw (.interrupted (.exception "ValueError" text))

/-- `repository.finish`. -/
def awaitFinish (writeEnd : WriteEnd) (operationId : String)
    (result : OperationResult) : ActionProcedure OrderOperation := do
  let database ← get
  let finished := finishOperation database operationId result collaborators.eventPk
    collaborators.finishedAt
  match writeEnd with
  | .returned =>
      match finished with
      | none => raiseValueError "order operation not found"
      | some next =>
          set next
          match next.operation operationId with
          | some row => pure row
          | none => raiseValueError "order operation not found"
  | .interrupted committed interruption =>
      set (if committed then finished.getD database else database)
      throw (.interrupted interruption)

def bestEffortReadback (orderPk : String) : ActionProcedure Unit :=
  tryCatch
    (do
      awaitEnd collaborators.readbackOrder
      let database ← get
      match database.store.get orderPk with
      | none => pure ()
      | some order =>
          let refreshed := collaborators.refresh order database.store
          set { database with store := refreshed.1 }
          answer refreshed.2)
    fun failure => if failure.isException then pure () else throw failure

def recordSuccess (operationId : String) (result : OrderActionResult) :
    ActionProcedure OrderOperation := do
  awaitEnd collaborators.mergeSuccess
  awaitFinish collaborators collaborators.finishSuccess operationId
    (successResult result)

/-- The body of the `try` around the platform call. -/
def performAction (orderPk operationId : String) : ActionProcedure OrderOperation := do
  let result ← answer collaborators.execute
  let operation ← recordSuccess collaborators operationId result
  bestEffortReadback collaborators orderPk
  pure operation

/-- The two `except` clauses. -/
def recordFailure (operationId : String) (refreshed : OrderRow) :
    Raised → ActionProcedure OrderOperation
  | .orderAction error => do
      awaitEnd collaborators.mergeError
      awaitFinish collaborators collaborators.finishError operationId
        (errorResult error refreshed)
  | .interrupted (.exception className text) =>
      awaitFinish collaborators collaborators.finishUncertain operationId
        (uncertainResult className text refreshed)
  | .interrupted .cancelled => throw (.interrupted .cancelled)

/-- `current = await self.store.get_order(order_pk)` and the result. -/
def returnCurrent (orderPk : String) (operation : OrderOperation) :
    ActionProcedure (OrderOperation × OrderRow) := do
  awaitEnd collaborators.currentOrder
  let database ← get
  match database.store.get orderPk with
  | some current => pure (operation, current)
  | none => throw (.interrupted (.exception "AssertionError" ""))

/-- `execute` from the creation of the operation on; `refreshed` is the order
that passed the preflight. -/
def executeRecorded (orderPk : String) (refreshed : OrderRow)
    (request : ExecuteRequest) (requestedBy : Option String) :
    ActionProcedure (OrderOperation × OrderRow) := do
  let database ← get
  match createOperation database (operationRequest orderPk refreshed request requestedBy)
      collaborators.operationId collaborators.createdAt with
  | .orderNotFound => raiseValueError "order not found"
  | .conflict =>
      throw (.interrupted (.exception "OrderActionConflict" "该订单已有操作正在执行"))
  | .integrityError => throw (.interrupted (.exception "IntegrityError" ""))
  | .existing row => do
      awaitEnd collaborators.created
      returnCurrent collaborators orderPk row
  | .created next row => do
      set next
      awaitEnd collaborators.created
      let operation ← tryCatch (performAction collaborators orderPk row.operationId)
        (recordFailure collaborators row.operationId refreshed)
      returnCurrent collaborators orderPk operation

end Service

def StatusIs (operationId : String) (status : OperationStatus)
    (database : OrderDatabase) : Prop :=
  ∃ row, database.operation operationId = some row ∧ row.status = status

theorem StatusIs.of_operations {operationId : String} {status : OperationStatus}
    {database next : OrderDatabase} (hstatus : StatusIs operationId status database)
    (hoperations : next.operations = database.operations) :
    StatusIs operationId status next := by
  obtain ⟨row, hrow, hstatus⟩ := hstatus
  refine ⟨row, ?_, hstatus⟩
  rw [OrderDatabase.operation, hoperations]
  exact hrow

/-- The status a finish leaves in place of `before`. -/
def WriteEnd.status (writeEnd : WriteEnd) (written before : OperationStatus) :
    OperationStatus :=
  if writeEnd.takesEffect then written else before

def Collaborators.uncertainStatus (collaborators : Collaborators)
    (before : OperationStatus) : OperationStatus :=
  collaborators.finishUncertain.status .uncertain before

def Collaborators.successStatus (collaborators : Collaborators) : OperationStatus :=
  match collaborators.mergeSuccess with
  | .error .cancelled => .processing
  | .error (.exception _ _) => collaborators.uncertainStatus .processing
  | .ok () =>
      match collaborators.finishSuccess with
      | .returned => .succeeded
      | .interrupted committed .cancelled => if committed then .succeeded else .processing
      | .interrupted committed (.exception _ _) =>
          collaborators.uncertainStatus (if committed then .succeeded else .processing)

/-- The status in which `execute` leaves the operation it created. -/
def Collaborators.recordedStatus (collaborators : Collaborators) : OperationStatus :=
  match collaborators.created, collaborators.execute with
  | .error _, _ => .processing
  | .ok (), .ok _ => collaborators.successStatus
  | .ok (), .error (.orderAction error) =>
      match collaborators.mergeError with
      | .ok () =>
          collaborators.finishError.status
            (if error.uncertain then .uncertain else .failed) .processing
      | .error _ => .processing
  | .ok (), .error (.interrupted (.exception _ _)) =>
      collaborators.uncertainStatus .processing
  | .ok (), .error (.interrupted .cancelled) => .processing

section Ends

variable {collaborators : Collaborators} {operationId : String}
  {database : OrderDatabase} {before : OperationStatus}

theorem ends_awaitEnd {result : Except Interruption Unit}
    {returns : Unit → OrderDatabase → Prop} {raises : Raised → OrderDatabase → Prop} :
    Ends (awaitEnd result) database returns raises ↔
      match result with
      | .ok value => returns value database
      | .error interruption => raises (.interrupted interruption) database := by
  cases result <;> exact ends_answer

theorem awaitFinish_ends {writeEnd : WriteEnd} {result : OperationResult}
    (hstored : StatusIs operationId before database) :
    Ends (awaitFinish collaborators writeEnd operationId result) database
      (fun _ next => writeEnd = .returned ∧ StatusIs operationId result.status next)
      (fun failure next => ∃ committed interruption,
        writeEnd = .interrupted committed interruption ∧
        failure = .interrupted interruption ∧
        StatusIs operationId (if committed then result.status else before) next) := by
  obtain ⟨stored, hlookup, hbefore⟩ := hstored
  obtain ⟨next, hfinish⟩ := exists_finishOperation hlookup result
    collaborators.eventPk collaborators.finishedAt
  have hstatus : StatusIs operationId result.status next :=
    operation_finishOperation hfinish
  simp only [awaitFinish, ends_bind, ends_get, hfinish]
  cases writeEnd with
  | returned =>
      obtain ⟨row, hrow, hwritten⟩ := hstatus
      simp only [ends_bind, ends_set, hrow, ends_pure]
      exact ⟨trivial, row, hrow, hwritten⟩
  | interrupted committed interruption =>
      simp only [ends_bind, ends_set, ends_throw]
      refine ⟨committed, interruption, rfl, rfl, ?_⟩
      cases committed with
      | true => exact hstatus
      | false => exact ⟨stored, hlookup, hbefore⟩

theorem bestEffortReadback_ends (orderPk : String) :
    Ends (bestEffortReadback collaborators orderPk) database
      (fun _ next => next.operations = database.operations)
      (fun failure next => next.operations = database.operations ∧
        failure = .interrupted .cancelled) := by
  have hhandler : ∀ (failure : Raised) (next : OrderDatabase),
      next.operations = database.operations →
      Ends (if failure.isException then pure () else throw failure : ActionProcedure Unit)
        next
        (fun _ next => next.operations = database.operations)
        (fun failure next => next.operations = database.operations ∧
          failure = .interrupted .cancelled) := by
    intro failure next hnext
    cases failure with
    | orderAction error => exact hnext
    | interrupted interruption =>
        cases interruption with
        | exception className text => exact hnext
        | cancelled => exact ⟨hnext, rfl⟩
  simp only [bestEffortReadback, ends_tryCatch, ends_bind, ends_awaitEnd]
  cases collaborators.readbackOrder with
  | error interruption => exact hhandler _ database rfl
  | ok value =>
      simp only [ends_get]
      split
      · exact rfl
      · rename_i order horder
        simp only [ends_bind, ends_set, ends_answer]
        split
        · trivial
        · exact hhandler _ _ rfl

/-- The handler of other exceptions. -/
theorem recordUncertain_ends {className text : String} {refreshed : OrderRow}
    (hstored : StatusIs operationId before database) :
    Ends (recordFailure collaborators operationId refreshed
        (.interrupted (.exception className text))) database
      (fun _ => StatusIs operationId (collaborators.uncertainStatus before))
      (fun _ => StatusIs operationId (collaborators.uncertainStatus before)) := by
  apply (awaitFinish_ends hstored).mono
  · rintro _ next ⟨hend, hstatus⟩
    rw [Collaborators.uncertainStatus, hend]
    exact hstatus
  · rintro _ next ⟨committed, interruption, hend, -, hstatus⟩
    rw [Collaborators.uncertainStatus, hend]
    exact hstatus

theorem recordedAction_ends {orderPk : String} {refreshed : OrderRow}
    (hcreated : collaborators.created = .ok ())
    (hstored : StatusIs operationId .processing database) :
    Ends (tryCatch (performAction collaborators orderPk operationId)
        (recordFailure collaborators operationId refreshed)) database
      (fun _ => StatusIs operationId collaborators.recordedStatus)
      (fun _ => StatusIs operationId collaborators.recordedStatus) := by
  simp only [performAction, recordSuccess, ends_tryCatch, ends_bind, ends_answer]
  unfold Collaborators.recordedStatus
  rw [hcreated]
  cases hexecute : collaborators.execute with
  | error failure =>
      cases failure with
      | interrupted interruption =>
          cases interruption with
          | exception className text => exact recordUncertain_ends hstored
          | cancelled => exact hstored
      | orderAction error =>
          simp only [recordFailure, ends_bind, ends_awaitEnd]
          cases collaborators.mergeError with
          | error interruption => exact hstored
          | ok value =>
              apply (awaitFinish_ends hstored).mono
              · rintro _ next ⟨hend, hstatus⟩
                simp only [hend]
                exact hstatus
              · rintro _ next ⟨committed, interruption, hend, -, hstatus⟩
                simp only [hend]
                exact hstatus
  | ok result =>
      simp only [ends_awaitEnd, Collaborators.successStatus]
      cases collaborators.mergeSuccess with
      | error interruption =>
          cases interruption with
          | exception className text => exact recordUncertain_ends hstored
          | cancelled => exact hstored
      | ok value =>
          apply (awaitFinish_ends hstored).mono
          · rintro operation next ⟨hend, hstatus⟩
            simp only [hend]
            apply (bestEffortReadback_ends orderPk).mono
            · intro _ final hfinal
              exact hstatus.of_operations hfinal
            · rintro _ final ⟨hfinal, rfl⟩
              exact hstatus.of_operations hfinal
          · rintro _ next ⟨committed, interruption, hend, rfl, hstatus⟩
            simp only [hend]
            cases interruption with
            | exception className text => exact recordUncertain_ends hstatus
            | cancelled => exact hstatus

end Ends

/-- The operation is not in process, it is succeeded only if the platform call
returned, and failed only if that call raised a certain `OrderActionError`. -/
def TruthfulOutcome (operationId : String) (call : Except Raised OrderActionResult)
    (database : OrderDatabase) : Prop :=
  ∃ row, database.operation operationId = some row ∧ row.status ≠ .processing ∧
    (row.status = .succeeded → ∃ result, call = .ok result) ∧
    (row.status = .failed →
      ∃ error, call = .error (.orderAction error) ∧ error.uncertain = false)

def SuccessRecorded (collaborators : Collaborators) : Prop :=
  (collaborators.mergeSuccess = .ok () ∧
      collaborators.finishSuccess.takesEffect = true) ∨
    (((∃ className text,
          collaborators.mergeSuccess = .error (.exception className text)) ∨
        (collaborators.mergeSuccess = .ok () ∧ ∃ className text,
          collaborators.finishSuccess = .interrupted false (.exception className text))) ∧
      collaborators.finishUncertain.takesEffect = true)

def Recorded (collaborators : Collaborators) : Prop :=
  collaborators.created = .ok () ∧
    ((∃ result, collaborators.execute = .ok result ∧ SuccessRecorded collaborators) ∨
      (∃ error, collaborators.execute = .error (.orderAction error) ∧
        collaborators.mergeError = .ok () ∧
        collaborators.finishError.takesEffect = true) ∨
      (∃ className text,
        collaborators.execute = .error (.interrupted (.exception className text)) ∧
        collaborators.finishUncertain.takesEffect = true))

theorem WriteEnd.status_ne_processing {writeEnd : WriteEnd}
    {written : OperationStatus} (hwritten : written ≠ .processing) :
    writeEnd.status written .processing ≠ .processing ↔ writeEnd.takesEffect = true := by
  unfold WriteEnd.status
  split
  · rename_i heffect
    exact iff_of_true hwritten heffect
  · rename_i heffect
    exact iff_of_false (fun hne => hne rfl) heffect

theorem WriteEnd.status_eq {writeEnd : WriteEnd} {written before status : OperationStatus}
    (hstatus : writeEnd.status written before = status) :
    status = written ∨ status = before := by
  unfold WriteEnd.status at hstatus
  split at hstatus
  · exact .inl hstatus.symm
  · exact .inr hstatus.symm

theorem successStatus_ne_processing {collaborators : Collaborators} :
    collaborators.successStatus ≠ .processing ↔ SuccessRecorded collaborators := by
  have huncertain : collaborators.finishUncertain.status .uncertain .processing ≠
      .processing ↔ collaborators.finishUncertain.takesEffect = true :=
    WriteEnd.status_ne_processing (by decide)
  have hcommitted : collaborators.finishUncertain.status .uncertain .succeeded ≠
      .processing := by
    intro hstatus
    rcases WriteEnd.status_eq hstatus with h | h <;> cases h
  unfold Collaborators.successStatus SuccessRecorded Collaborators.uncertainStatus
  cases collaborators.mergeSuccess with
  | error interruption =>
      cases interruption with
      | exception className text => simp [huncertain]
      | cancelled => simp
  | ok value =>
      cases collaborators.finishSuccess with
      | returned => simp [WriteEnd.takesEffect]
      | interrupted committed interruption =>
          cases committed with
          | true => cases interruption <;> simp [WriteEnd.takesEffect, hcommitted]
          | false =>
              cases interruption with
              | exception className text => simp [WriteEnd.takesEffect, huncertain]
              | cancelled => simp [WriteEnd.takesEffect]

theorem recordedStatus_ne_processing {collaborators : Collaborators} :
    collaborators.recordedStatus ≠ .processing ↔ Recorded collaborators := by
  have huncertain : collaborators.finishUncertain.status .uncertain .processing ≠
      .processing ↔ collaborators.finishUncertain.takesEffect = true :=
    WriteEnd.status_ne_processing (by decide)
  unfold Collaborators.recordedStatus Recorded Collaborators.uncertainStatus
  cases collaborators.created with
  | error interruption => simp
  | ok value =>
      cases collaborators.execute with
      | ok result => simp [successStatus_ne_processing]
      | error failure =>
          cases failure with
          | orderAction error =>
              have hwritten : (if error.uncertain then OperationStatus.uncertain
                  else .failed) ≠ .processing := by
                split <;> decide
              cases collaborators.mergeError with
              | error interruption => simp
              | ok value => simp [WriteEnd.status_ne_processing hwritten]
          | interrupted interruption =>
              cases interruption with
              | exception className text => simp [huncertain]
              | cancelled => simp

/-- The status never says more about the platform call than is true. -/
theorem successStatus_ne_failed (collaborators : Collaborators) :
    collaborators.successStatus ≠ .failed := by
  have huncertain : ∀ before, before ≠ OperationStatus.failed →
      collaborators.uncertainStatus before ≠ .failed := by
    intro before hbefore hstatus
    rcases WriteEnd.status_eq hstatus with h | h
    · cases h
    · exact hbefore h.symm
  unfold Collaborators.successStatus
  split
  · decide
  · exact huncertain _ (by decide)
  · split
    · decide
    · split <;> decide
    · exact huncertain _ (by split <;> decide)

theorem recordedStatus_truthful (collaborators : Collaborators) :
    (collaborators.recordedStatus = .succeeded →
        ∃ result, collaborators.execute = .ok result) ∧
      (collaborators.recordedStatus = .failed →
        ∃ error, collaborators.execute = .error (.orderAction error) ∧
          error.uncertain = false) := by
  have huncertain : ∀ status, collaborators.uncertainStatus .processing = status →
      status = .uncertain ∨ status = .processing := fun _ => WriteEnd.status_eq
  unfold Collaborators.recordedStatus
  cases hexecute : collaborators.execute with
  | ok result =>
      refine ⟨fun _ => ⟨result, rfl⟩, fun hfailed => ?_⟩
      cases hcreated : collaborators.created with
      | error interruption => simp [hcreated] at hfailed
      | ok value =>
          simp only [hcreated] at hfailed
          exact absurd hfailed (successStatus_ne_failed collaborators)
  | error failure =>
      cases hcreated : collaborators.created with
      | error interruption => simp
      | ok value =>
          cases failure with
          | interrupted interruption =>
              cases interruption with
              | cancelled => simp
              | exception className text =>
                  constructor <;> intro hstatus <;>
                    rcases huncertain _ hstatus with h | h <;> cases h
          | orderAction error =>
              cases hmerge : collaborators.mergeError with
              | error interruption => simp
              | ok value =>
                  constructor
                  · intro hstatus
                    rcases WriteEnd.status_eq hstatus with h | h
                    · split at h <;> cases h
                    · cases h
                  · intro hstatus
                    rcases WriteEnd.status_eq hstatus with h | h
                    · refine ⟨error, rfl, ?_⟩
                      by_contra huncertainError
                      rw [if_pos (Bool.not_eq_false _ ▸ huncertainError)] at h
                      cases h
                    · cases h

theorem executeRecorded_ends {collaborators : Collaborators} {database created : OrderDatabase}
    {orderPk : String} {refreshed : OrderRow} {request : ExecuteRequest}
    {requestedBy : Option String} {row : OrderOperation}
    (hcreate : createOperation database
      (operationRequest orderPk refreshed request requestedBy)
      collaborators.operationId collaborators.createdAt = .created created row) :
    Ends (executeRecorded collaborators orderPk refreshed request requestedBy) database
      (fun _ => StatusIs collaborators.operationId collaborators.recordedStatus)
      (fun _ => StatusIs collaborators.operationId collaborators.recordedStatus) := by
  obtain ⟨rfl, hstored⟩ := operation_of_created hcreate
  have hprocessing : StatusIs collaborators.operationId .processing created :=
    ⟨_, hstored, rfl⟩
  simp only [executeRecorded, ends_bind, ends_get, hcreate, ends_set, ends_awaitEnd]
  cases hcreated : collaborators.created with
  | error interruption =>
      simp only [Collaborators.recordedStatus, hcreated]
      exact hprocessing
  | ok value =>
      apply (recordedAction_ends hcreated hprocessing).mono
      · intro operation next hnext
        simp only [returnCurrent, ends_bind, ends_awaitEnd, ends_get]
        cases collaborators.currentOrder with
        | error interruption => exact hnext
        | ok value =>
            cases next.store.get orderPk with
            | some current => exact hnext
            | none => exact hnext
      · exact fun _ next hnext => hnext

/-- The operation of an action reaches a truthful terminal status exactly when
the awaits let a finish take effect. -/
theorem operation_truthful_iff {collaborators : Collaborators}
    {database created : OrderDatabase} {orderPk : String} {refreshed : OrderRow}
    {request : ExecuteRequest} {requestedBy : Option String} {row : OrderOperation}
    (hcreate : createOperation database
      (operationRequest orderPk refreshed request requestedBy)
      collaborators.operationId collaborators.createdAt = .created created row) :
    TruthfulOutcome collaborators.operationId collaborators.execute
        ((executeRecorded collaborators orderPk refreshed request requestedBy).after
          database) ↔
      Recorded collaborators := by
  obtain ⟨final, hfinal, hstatus⟩ := ends_after.mp (executeRecorded_ends hcreate)
  obtain ⟨hsucceeded, hfailed⟩ := recordedStatus_truthful collaborators
  rw [← recordedStatus_ne_processing]
  constructor
  · rintro ⟨found, hfound, hended, -⟩
    rw [hfinal] at hfound
    rw [← hstatus, Option.some.inj hfound]
    exact hended
  · intro hended
    rw [← hstatus] at hended hsucceeded hfailed
    exact ⟨final, hfinal, hended, hsucceeded, hfailed⟩

def returningCollaborators : Collaborators where
  created := .ok ()
  execute := .ok { success := true, message := "发货成功" }
  mergeSuccess := .ok ()
  finishSuccess := .returned
  readbackOrder := .ok ()
  refresh := fun _ store => (store, .ok ())
  mergeError := .ok ()
  finishError := .returned
  finishUncertain := .returned
  currentOrder := .ok ()
  operationId := "operation-1"
  eventPk := "event-1"
  createdAt := 1
  finishedAt := 2

def paidOrder : OrderRow where
  orderPk := "order-1"
  accountId := "seller"
  platformOrderId := some "1001"
  tradeRole := some .seller
  conversationId := "chat-1"
  status := .paidWaitingDelivery
  createdAt := 0
  updatedAt := 0

def paidDatabase : OrderDatabase where
  store :=
    { orders := { rows := [paidOrder], unique := List.pairwise_singleton _ _ }
      events := [] }
  operations := Table.empty

def shippingRequest : ExecuteRequest where
  action := .confirmShipping
  idempotencyKey := "key-1"

theorem returned_action_truthful :
    TruthfulOutcome "operation-1" returningCollaborators.execute
      ((executeRecorded returningCollaborators "order-1" paidOrder shippingRequest
        none).after paidDatabase) :=
  (operation_truthful_iff rfl).mpr
    ⟨rfl, .inl ⟨{ success := true, message := "发货成功" }, rfl, .inl ⟨rfl, rfl⟩⟩⟩

/-- A request that is cancelled during the platform call leaves its operation
in process. -/
theorem cancelled_call_leaves_processing :
    ¬ ∀ (collaborators : Collaborators) (database : OrderDatabase) (orderPk : String)
      (refreshed : OrderRow) (request : ExecuteRequest) (requestedBy : Option String)
      (created : OrderDatabase) (row : OrderOperation),
      createOperation database (operationRequest orderPk refreshed request requestedBy)
        collaborators.operationId collaborators.createdAt = .created created row →
      TruthfulOutcome collaborators.operationId collaborators.execute
        ((executeRecorded collaborators orderPk refreshed request requestedBy).after
          database) := by
  intro htruthful
  obtain ⟨row, hrow, hended, -⟩ := htruthful
    { returningCollaborators with execute := .error (.interrupted .cancelled) }
    paidDatabase "order-1" paidOrder shippingRequest none _ _ rfl
  have hprocessing : row.status = .processing := by
    rw [← Option.some.inj hrow]
    rfl
  exact hended hprocessing

end XianyuAdmin.Orders
