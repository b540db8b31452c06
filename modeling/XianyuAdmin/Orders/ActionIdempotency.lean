import XianyuAdmin.Core.Transition
import XianyuAdmin.Orders.ActionOutcome

/-!
# Concurrent order actions

Any number of calls of `execute` run against one database, in one process or in
several.  A call is at one of its program points and a step takes it to the next
one; the database transactions are single steps, and nothing else orders the
calls.  The operations whose platform call was made are recorded.
-/

namespace XianyuAdmin.Orders

open XianyuAdmin.Python
open XianyuAdmin.Procedure
open XianyuAdmin.Transition

structure ActionRequest where
  orderPk : String
  request : ExecuteRequest
  requestedBy : Option String := none

structure ExecuteBehaviour extends Collaborators where
  readOrder : Except Interruption Unit
  readKey : Except Interruption Unit
  preflight : OrderRow → OrderStore → OrderStore × Except Raised OrderRow

/-- Where a call of `execute` is. -/
inductive ActionPoint
  | start
  | checking (order : OrderRow)
  | refreshing (order : OrderRow)
  | creating (refreshed : OrderRow)
  | calling (refreshed : OrderRow) (operation : OrderOperation)
  | succeeding (refreshed : OrderRow) (operation : OrderOperation)
      (result : OrderActionResult)
  | failing (refreshed : OrderRow) (operation : OrderOperation) (failure : Raised)
  | readingBack (operation : OrderOperation)
  | reading (operation : OrderOperation)
  | returned (operation : OrderOperation)
  | raised (failure : Raised)

/-- The operation the call works on or returns. -/
def ActionPoint.operation? : ActionPoint → Option OrderOperation
  | .calling _ operation | .succeeding _ operation _ | .failing _ operation _
  | .readingBack operation | .reading operation | .returned operation => some operation
  | _ => none

def ActionPoint.calling? : ActionPoint → Option OrderOperation
  | .calling _ operation => some operation
  | _ => none

/-- One await of `execute` and the code up to the next one; `none` when the call
is over. -/
def awaitAt (request : ActionRequest) (behaviour : ExecuteBehaviour) :
    ActionPoint → Option (ActionProcedure ActionPoint)
  | .start => some do
      awaitEnd behaviour.readOrder
      let database ← get
      match database.store.get request.orderPk with
      | none => raiseValueError "order not found"
      | some order => pure (.checking order)
  | .checking order => some do
      awaitEnd behaviour.readKey
      let database ← get
      match getByIdempotency database order.accountId request.request.idempotencyKey with
      | none => pure (.refreshing order)
      | some existing =>
          if existing.orderPk ≠ request.orderPk ∨
              existing.action ≠ request.request.action then
            throw (.interrupted
              (.exception "OrderActionConflict" "幂等键已用于其他订单操作"))
          else pure (.reading existing)
  | .refreshing order => some do
      let database ← get
      let refreshed := behaviour.preflight order database.store
      set { database with store := refreshed.1 }
      let row ← answer refreshed.2
      pure (.creating row)
  | .creating refreshed => some do
      let database ← get
      match createOperation database
          (operationRequest request.orderPk refreshed request.request
            request.requestedBy)
          behaviour.operationId behaviour.createdAt with
      | .orderNotFound => raiseValueError "order not found"
      | .conflict => throw (.interrupted
          (.exception "OrderActionConflict" "该订单已有操作正在执行"))
      | .integrityError => throw (.interrupted (.exception "IntegrityError" ""))
      | .existing row => do
          awaitEnd behaviour.created
          pure (.reading row)
      | .created next row => do
          set next
          awaitEnd behaviour.created
          pure (.calling refreshed row)
  | .calling refreshed operation => some
      (match behaviour.execute with
      | .ok result => pure (.succeeding refreshed operation result)
      | .error failure => pure (.failing refreshed operation failure))
  | .succeeding refreshed operation result => some
      (tryCatch
        (do
          let row ← recordSuccess behaviour.toCollaborators operation.operationId result
          pure (.readingBack row))
        fun failure => pure (.failing refreshed operation failure))
  | .failing refreshed operation failure => some do
      let row ← recordFailure behaviour.toCollaborators operation.operationId refreshed
        failure
      pure (.reading row)
  | .readingBack operation => some do
      bestEffortReadback behaviour.toCollaborators request.orderPk
      pure (.reading operation)
  | .reading operation => some do
      let result ← returnCurrent behaviour.toCollaborators request.orderPk operation
      pure (.returned result.1)
  | .returned _ | .raised _ => none

def advance (await : ActionProcedure ActionPoint) (database : OrderDatabase) :
    OrderDatabase × ActionPoint :=
  match await.outcome database with
  | (.ok point, next) => (next, point)
  | (.error failure, next) => (next, .raised failure)

variable {Call : Type} [DecidableEq Call]

structure ActionState (Call : Type) where
  database : OrderDatabase
  point : Call → ActionPoint
  executed : List OrderOperation

inductive ActionLabel (Call : Type)
  | call (call : Call)
  | others (store : OrderStore)

variable (requests : Call → ActionRequest) (behaviours : Call → ExecuteBehaviour)

def actionStep (state : ActionState Call) : ActionLabel Call → Option (ActionState Call)
  | .call call =>
      (awaitAt (requests call) (behaviours call) (state.point call)).map fun await =>
        { database := (advance await state.database).1
          point := Function.update state.point call (advance await state.database).2
          executed := state.executed ++ (state.point call).calling?.toList }
  | .others store => some { state with database := { state.database with store := store } }

def ActionState.initial (database : OrderDatabase) : ActionState Call where
  database := database
  point := fun _ => .start
  executed := []

structure SameOperation (left right : OrderOperation) : Prop where
  operationId : right.operationId = left.operationId
  orderPk : right.orderPk = left.orderPk
  accountId : right.accountId = left.accountId
  action : right.action = left.action
  idempotencyKey : right.idempotencyKey = left.idempotencyKey

theorem SameOperation.refl (row : OrderOperation) : SameOperation row row :=
  ⟨rfl, rfl, rfl, rfl, rfl⟩

theorem SameOperation.trans {first second third : OrderOperation}
    (hfirst : SameOperation first second) (hsecond : SameOperation second third) :
    SameOperation first third :=
  ⟨hsecond.operationId.trans hfirst.operationId, hsecond.orderPk.trans hfirst.orderPk,
    hsecond.accountId.trans hfirst.accountId, hsecond.action.trans hfirst.action,
    hsecond.idempotencyKey.trans hfirst.idempotencyKey⟩

def Stored (database : OrderDatabase) (operation : OrderOperation) : Prop :=
  ∃ row ∈ database.operations.rows, SameOperation operation row

def Settles (before after : OrderDatabase) : Prop :=
  List.Forall₂ (fun row next => SameOperation row next ∧
      (next.status = .processing → row.status = .processing))
    before.operations.rows after.operations.rows

theorem Settles.of_operations {before after : OrderDatabase}
    (hsame : after.operations = before.operations) : Settles before after := by
  rw [Settles, hsame, List.forall₂_same]
  exact fun row _ => ⟨SameOperation.refl row, id⟩

theorem Settles.refl (database : OrderDatabase) : Settles database database :=
  Settles.of_operations rfl

theorem Settles.exists_after {before after : OrderDatabase}
    (hsettles : Settles before after) {row : OrderOperation}
    (hrow : row ∈ before.operations.rows) :
    ∃ next ∈ after.operations.rows, SameOperation row next := by
  obtain ⟨index, hindex, rfl⟩ := List.getElem_of_mem hrow
  have hlength := hsettles.length_eq
  refine ⟨after.operations.rows[index], List.getElem_mem _, ?_⟩
  exact (List.forall₂_iff_get.mp hsettles).2 index hindex (hlength ▸ hindex) |>.1

theorem Settles.exists_before {before after : OrderDatabase}
    (hsettles : Settles before after) {next : OrderOperation}
    (hnext : next ∈ after.operations.rows) :
    ∃ row ∈ before.operations.rows, SameOperation row next ∧
      (next.status = .processing → row.status = .processing) := by
  obtain ⟨index, hindex, rfl⟩ := List.getElem_of_mem hnext
  have hbefore : index < before.operations.rows.length := hsettles.length_eq ▸ hindex
  exact ⟨before.operations.rows[index], List.getElem_mem _,
    (List.forall₂_iff_get.mp hsettles).2 index hbefore hindex⟩

theorem Stored.settles {before after : OrderDatabase} {operation : OrderOperation}
    (hstored : Stored before operation) (hsettles : Settles before after) :
    Stored after operation := by
  obtain ⟨row, hrow, hsame⟩ := hstored
  obtain ⟨next, hnext, hstill⟩ := hsettles.exists_after hrow
  exact ⟨next, hnext, hsame.trans hstill⟩

theorem Stored.of_operation {database : OrderDatabase} {operationId : String}
    {row : OrderOperation} (hrow : database.operation operationId = some row) :
    Stored database row :=
  ⟨row, (OrderDatabase.operation_eq_some_iff.mp hrow).1, SameOperation.refl row⟩

section Procedures

variable {collaborators : Collaborators} {database : OrderDatabase}
  {operationId : String}

theorem settles_finishOperation {next : OrderDatabase} {result : OperationResult}
    {eventPk : String} {now : ℕ} (hended : result.status ≠ .processing)
    (hfinish : finishOperation database operationId result eventPk now = some next) :
    Settles database next := by
  obtain ⟨-, appliedStatus, hoperations⟩ := finishOperation_eq_some hfinish
  rw [Settles, hoperations]
  show List.Forall₂ _ _ (List.map _ database.operations.rows)
  rw [List.forall₂_map_right_iff, List.forall₂_same]
  intro row _
  split
  · exact ⟨⟨rfl, rfl, rfl, rfl, rfl⟩, fun hprocessing => absurd hprocessing hended⟩
  · exact ⟨SameOperation.refl row, id⟩

theorem awaitFinish_settles {writeEnd : WriteEnd} {result : OperationResult}
    (hended : result.status ≠ .processing) :
    Ends (awaitFinish collaborators writeEnd operationId result) database
      (fun row next => next.operation operationId = some row ∧ Settles database next)
      (fun _ next => Settles database next) := by
  simp only [awaitFinish, ends_bind, ends_get]
  cases hfinish : finishOperation database operationId result collaborators.eventPk
      collaborators.finishedAt with
  | none =>
      cases writeEnd with
      | returned => exact Settles.refl database
      | interrupted committed interruption =>
          cases committed with
          | true => exact Settles.refl database
          | false => exact Settles.refl database
  | some next =>
      have hsettles := settles_finishOperation hended hfinish
      cases writeEnd with
      | returned =>
          simp only [ends_bind, ends_set]
          cases hrow : next.operation operationId with
          | none => exact hsettles
          | some row => exact ⟨hrow, hsettles⟩
      | interrupted committed interruption =>
          cases committed with
          | true => exact hsettles
          | false => exact Settles.refl database

theorem recordSuccess_settles {result : OrderActionResult} :
    Ends (recordSuccess collaborators operationId result) database
      (fun row next => next.operation operationId = some row ∧ Settles database next)
      (fun _ next => Settles database next) := by
  simp only [recordSuccess, ends_bind, ends_awaitEnd]
  cases collaborators.mergeSuccess with
  | error interruption => exact Settles.refl database
  | ok value =>
      have hended : (successResult result).status ≠ .processing := by
        simp only [successResult, ne_eq, reduceCtorEq, not_false_eq_true]
      exact awaitFinish_settles hended

theorem recordFailure_settles {refreshed : OrderRow} {failure : Raised} :
    Ends (recordFailure collaborators operationId refreshed failure) database
      (fun row next => next.operation operationId = some row ∧ Settles database next)
      (fun _ next => Settles database next) := by
  cases failure with
  | orderAction error =>
      simp only [recordFailure, ends_bind, ends_awaitEnd]
      cases collaborators.mergeError with
      | error interruption => exact Settles.refl database
      | ok value =>
          have hended : (errorResult error refreshed).status ≠ .processing := by
            simp only [errorResult]
            split <;> decide
          exact awaitFinish_settles hended
  | interrupted interruption =>
      cases interruption with
      | cancelled => exact Settles.refl database
      | exception className text =>
          have hended : (uncertainResult className text refreshed).status ≠
              .processing := by
            simp only [uncertainResult, ne_eq, reduceCtorEq, not_false_eq_true]
          exact awaitFinish_settles hended

theorem returnCurrent_ends {orderPk : String} {operation : OrderOperation} :
    Ends (returnCurrent collaborators orderPk operation) database
      (fun result next => next = database ∧ result.1 = operation)
      (fun _ next => next = database) := by
  simp only [returnCurrent, ends_bind, ends_awaitEnd, ends_get]
  cases collaborators.currentOrder with
  | error interruption => trivial
  | ok value =>
      cases database.store.get orderPk with
      | none => rfl
      | some current => exact ⟨rfl, rfl⟩

end Procedures

def Answers (request : ActionRequest) (operation : OrderOperation) : Prop :=
  operation.orderPk = request.orderPk ∧ operation.action = request.request.action

theorem Answers.same {request : ActionRequest} {left right : OrderOperation}
    (hanswers : Answers request left) (hsame : SameOperation left right) :
    Answers request right :=
  ⟨hsame.orderPk.trans hanswers.1, hsame.action.trans hanswers.2⟩

/-- The create of the call is about to return the operation `existing`, which
holds the idempotency key already. -/
structure TakesExisting (request : ActionRequest) (behaviour : ExecuteBehaviour)
    (database : OrderDatabase) (point : ActionPoint) (existing : OrderOperation) :
    Prop where
  returns : behaviour.created = .ok ()
  order : ∃ order, database.store.get request.orderPk = some order
  idle : activeOperation database request.orderPk = none
  key : ∃ refreshed, point = .creating refreshed ∧
    getByIdempotency database refreshed.accountId request.request.idempotencyKey =
      some existing

def Acquired (request : ActionRequest) (behaviour : ExecuteBehaviour)
    (database : OrderDatabase) (point : ActionPoint) (next : OrderDatabase)
    (operation : OrderOperation) : Prop :=
  Stored next operation ∧
    ((∃ earlier, point.operation? = some earlier ∧ SameOperation earlier operation) ∨
      Answers request operation ∨
      TakesExisting request behaviour database point operation)

/-- What an await does: it creates an operation, it calls the platform, or it
does neither. -/
inductive Advanced (request : ActionRequest) (behaviour : ExecuteBehaviour)
    (database : OrderDatabase) : ActionPoint → OrderDatabase → ActionPoint → Prop
  | quiet {point after : ActionPoint} {next : OrderDatabase}
      (hbefore : point.calling? = none) (hafter : after.calling? = none)
      (hsettles : Settles database next)
      (hoperation : ∀ operation, after.operation? = some operation →
        Acquired request behaviour database point next operation) :
      Advanced request behaviour database point next after
  | created {refreshed : OrderRow} {after : ActionPoint} {next : OrderDatabase}
      {row : OrderOperation}
      (hcreate : createOperation database
        (operationRequest request.orderPk refreshed request.request
          request.requestedBy)
        behaviour.operationId behaviour.createdAt = .created next row)
      (hafter : after = .calling refreshed row ∨ ∃ failure, after = .raised failure) :
      Advanced request behaviour database (.creating refreshed) next after
  | called {refreshed : OrderRow} {operation : OrderOperation} {after : ActionPoint}
      (hafter : after.calling? = none) (hoperation : after.operation? = some operation) :
      Advanced request behaviour database (.calling refreshed operation) database after

section Advance

variable {request : ActionRequest} {behaviour : ExecuteBehaviour}
  {database : OrderDatabase} {point : ActionPoint}

theorem advance_ends {await : ActionProcedure ActionPoint}
    {property : OrderDatabase → ActionPoint → Prop}
    (hends : Ends await database (fun point next => property next point)
      (fun failure next => property next (.raised failure))) :
    property (advance await database).1 (advance await database).2 := by
  unfold Ends at hends
  unfold advance
  split
  · rename_i houtcome
    rw [houtcome] at hends
    exact hends
  · rename_i houtcome
    rw [houtcome] at hends
    exact hends

variable {after : ActionPoint} {next : OrderDatabase}

/-- A quiet await that leaves the call without an operation. -/
theorem Advanced.dropped (hbefore : point.calling? = none) (hcalling : after.calling? = none)
    (hoperation : after.operation? = none) (hsettles : Settles database next) :
    Advanced request behaviour database point next after := by
  apply Advanced.quiet hbefore hcalling hsettles
  intro operation hsome
  rw [hoperation] at hsome
  cases hsome

theorem Advanced.settled {operation row : OrderOperation} (hbefore : point.calling? = none)
    (hcalling : after.calling? = none) (hpoint : point.operation? = some operation)
    (hstored : Stored database operation) (hafter : after.operation? = some row)
    (hrow : next.operation operation.operationId = some row) (hsettles : Settles database next) :
    Advanced request behaviour database point next after := by
  apply Advanced.quiet hbefore hcalling hsettles
  intro found hfound
  obtain rfl : row = found := Option.some.inj (hafter.symm.trans hfound)
  obtain ⟨stored, hmem, hsame⟩ := hstored.settles hsettles
  obtain ⟨hrowMem, hrowId⟩ := OrderDatabase.operation_eq_some_iff.mp hrow
  obtain rfl : stored = row := Table.eq_of_key hmem hrowMem
    (operationId_mem_operationKeys.mpr hsame.operationId)
    (operationId_mem_operationKeys.mpr hrowId)
  exact ⟨Stored.of_operation hrow, .inl ⟨operation, hpoint, hsame⟩⟩

theorem Advanced.kept {operation : OrderOperation} (hbefore : point.calling? = none)
    (hcalling : after.calling? = none) (hpoint : point.operation? = some operation)
    (hstored : Stored database operation) (hafter : after.operation? = some operation)
    (hsettles : Settles database next) :
    Advanced request behaviour database point next after := by
  apply Advanced.quiet hbefore hcalling hsettles
  intro found hfound
  obtain rfl : operation = found := Option.some.inj (hafter.symm.trans hfound)
  exact ⟨hstored.settles hsettles, .inl ⟨operation, hpoint, SameOperation.refl _⟩⟩

theorem advanced_awaitAt {await : ActionProcedure ActionPoint}
    (hawait : awaitAt request behaviour point = some await)
    (hstored : ∀ operation, point.operation? = some operation →
      Stored database operation) :
    Advanced request behaviour database point (advance await database).1
      (advance await database).2 := by
  apply advance_ends
  cases point with
  | returned operation => cases hawait
  | raised failure => cases hawait
  | start =>
      obtain rfl := Option.some.inj hawait
      simp only [ends_bind, ends_awaitEnd, ends_get]
      cases behaviour.readOrder with
      | error interruption => exact .dropped rfl rfl rfl (Settles.refl database)
      | ok value =>
          cases database.store.get request.orderPk with
          | none => exact .dropped rfl rfl rfl (Settles.refl database)
          | some order => exact .dropped rfl rfl rfl (Settles.refl database)
  | checking order =>
      obtain rfl := Option.some.inj hawait
      simp only [ends_bind, ends_awaitEnd, ends_get]
      cases behaviour.readKey with
      | error interruption => exact .dropped rfl rfl rfl (Settles.refl database)
      | ok value =>
          cases hkey : getByIdempotency database order.accountId
              request.request.idempotencyKey with
          | none => exact .dropped rfl rfl rfl (Settles.refl database)
          | some existing =>
              simp only
              split
              · exact .dropped rfl rfl rfl (Settles.refl database)
              · rename_i hmatches
                apply Advanced.quiet rfl rfl (Settles.refl database)
                intro found hfound
                obtain rfl : existing = found := Option.some.inj hfound
                rw [not_or, not_not, not_not] at hmatches
                exact ⟨⟨existing, Table.mem_of_lookup hkey, SameOperation.refl _⟩,
                  .inr (.inl hmatches)⟩
  | refreshing order =>
      obtain rfl := Option.some.inj hawait
      simp only [ends_bind, ends_get, ends_set, ends_answer]
      cases (behaviour.preflight order database.store).2 with
      | error failure => exact .dropped rfl rfl rfl (Settles.of_operations rfl)
      | ok row => exact .dropped rfl rfl rfl (Settles.of_operations rfl)
  | creating refreshed =>
      obtain rfl := Option.some.inj hawait
      simp only [ends_bind, ends_get]
      cases hcreate : createOperation database
          (operationRequest request.orderPk refreshed request.request
            request.requestedBy)
          behaviour.operationId behaviour.createdAt with
      | orderNotFound => exact .dropped rfl rfl rfl (Settles.refl database)
      | conflict => exact .dropped rfl rfl rfl (Settles.refl database)
      | integrityError => exact .dropped rfl rfl rfl (Settles.refl database)
      | existing row =>
          simp only [ends_bind, ends_awaitEnd]
          cases hreturns : behaviour.created with
          | error interruption => exact .dropped rfl rfl rfl (Settles.refl database)
          | ok value =>
              obtain ⟨horder, hidle, hkey⟩ := createOperation_existing hcreate
              apply Advanced.quiet rfl rfl (Settles.refl database)
              intro found hfound
              obtain rfl : row = found := Option.some.inj hfound
              exact ⟨⟨row, Table.mem_of_lookup hkey, SameOperation.refl _⟩,
                .inr (.inr ⟨hreturns, horder, hidle, refreshed, rfl, hkey⟩)⟩
      | created next row =>
          simp only [ends_bind, ends_set, ends_awaitEnd]
          cases behaviour.created with
          | error interruption => exact .created hcreate (.inr ⟨_, rfl⟩)
          | ok value => exact .created hcreate (.inl rfl)
  | calling refreshed operation =>
      obtain rfl := Option.some.inj hawait
      cases behaviour.execute with
      | ok result => exact .called rfl rfl
      | error failure => exact .called rfl rfl
  | succeeding refreshed operation result =>
      obtain rfl := Option.some.inj hawait
      rw [ends_tryCatch, ends_bind]
      apply recordSuccess_settles.mono
      · intro row next hnext
        exact .settled rfl rfl rfl (hstored _ rfl) rfl hnext.1 hnext.2
      · intro failure next hnext
        exact .kept rfl rfl rfl (hstored _ rfl) rfl hnext
  | failing refreshed operation failure =>
      obtain rfl := Option.some.inj hawait
      rw [ends_bind]
      apply recordFailure_settles.mono
      · intro row next hnext
        exact .settled rfl rfl rfl (hstored _ rfl) rfl hnext.1 hnext.2
      · intro failure next hnext
        exact .dropped rfl rfl rfl hnext
  | readingBack operation =>
      obtain rfl := Option.some.inj hawait
      rw [ends_bind]
      apply (bestEffortReadback_ends request.orderPk).mono
      · intro value next hnext
        exact .kept rfl rfl rfl (hstored _ rfl) rfl (Settles.of_operations hnext)
      · intro failure next hnext
        exact .dropped rfl rfl rfl (Settles.of_operations hnext.1)
  | reading operation =>
      obtain rfl := Option.some.inj hawait
      rw [ends_bind]
      apply returnCurrent_ends.mono
      · rintro result next ⟨rfl, hresult⟩
        exact .kept rfl rfl rfl (hstored _ rfl) (congrArg some hresult)
          (Settles.refl next)
      · rintro failure next rfl
        exact .dropped rfl rfl rfl (Settles.refl next)

end Advance

/-- The columns of `uq_xianyu_order_operations_idempotency`. -/
def operationKey (operation : OrderOperation) : String × String :=
  (operation.accountId, operation.idempotencyKey)

theorem SameOperation.operationKey {left right : OrderOperation}
    (hsame : SameOperation left right) : operationKey right = operationKey left :=
  Prod.ext hsame.accountId hsame.idempotencyKey

def OneProcessing (database : OrderDatabase) : Prop :=
  ∀ row ∈ database.operations.rows, ∀ other ∈ database.operations.rows,
    row.status = .processing → other.status = .processing →
    row.orderPk = other.orderPk → row = other

theorem OneProcessing.settles {before after : OrderDatabase}
    (hone : OneProcessing before) (hsettles : Settles before after) :
    OneProcessing after := by
  intro row hrow other hother hprocessing hotherProcessing horder
  obtain ⟨earlier, hearlier, hsame, hstatus⟩ := hsettles.exists_before hrow
  obtain ⟨rival, hrival, hrivalSame, hrivalStatus⟩ := hsettles.exists_before hother
  have horders : earlier.orderPk = rival.orderPk := by
    rw [← hsame.orderPk, horder, hrivalSame.orderPk]
  obtain rfl : earlier = rival := hone earlier hearlier rival hrival
    (hstatus hprocessing) (hrivalStatus hotherProcessing) horders
  exact Table.eq_of_key hrow hother (operationId_mem_operationKeys.mpr hsame.operationId)
    (operationId_mem_operationKeys.mpr hrivalSame.operationId)

section Insert

variable {database next : OrderDatabase} {row : OrderOperation}
  (hinsert : database.operations.insert? row = some next.operations)

include hinsert

variable {operation : OrderOperation}

theorem mem_insert_iff :
    operation ∈ next.operations.rows ↔
      operation ∈ database.operations.rows ∨ operation = row := by
  rw [Table.rows_of_insert? hinsert, List.mem_append, List.mem_singleton]

theorem Stored.insert (hstored : Stored database operation) : Stored next operation := by
  obtain ⟨stored, hmem, hsame⟩ := hstored
  exact ⟨stored, (mem_insert_iff hinsert).mpr (.inl hmem), hsame⟩

theorem Stored.operationKey_ne (hstored : Stored database operation) :
    operationKey operation ≠ operationKey row := by
  obtain ⟨stored, hmem, hsame⟩ := hstored
  intro hkey
  rw [← hsame.operationKey] at hkey
  obtain ⟨haccount, hidempotency⟩ := Prod.mk.inj hkey
  exact Table.noClash_of_insert? hinsert stored hmem
    (.idempotency row.accountId row.idempotencyKey)
    (idempotency_mem_operationKeys.mpr ⟨haccount, hidempotency⟩)
    (idempotency_mem_operationKeys.mpr ⟨rfl, rfl⟩)

theorem OneProcessing.insert (hone : OneProcessing database)
    (hidle : activeOperation database row.orderPk = none) : OneProcessing next := by
  have hfree : ∀ stored ∈ database.operations.rows, stored.status = .processing →
      stored.orderPk ≠ row.orderPk := by
    intro stored hmem hprocessing horder
    have hnot := List.find?_eq_none.mp hidle stored hmem
    simp [hprocessing, horder] at hnot
  intro left hleft right hright hleftProcessing hrightProcessing horder
  rcases (mem_insert_iff hinsert).mp hleft with hleft | rfl
  · rcases (mem_insert_iff hinsert).mp hright with hright | rfl
    · exact hone left hleft right hright hleftProcessing hrightProcessing horder
    · exact absurd horder (hfree left hleft hleftProcessing)
  · rcases (mem_insert_iff hinsert).mp hright with hright | rfl
    · exact absurd horder.symm (hfree right hright hrightProcessing)
    · rfl

end Insert

def CallingApart (point : Call → ActionPoint) : Prop :=
  ∀ call other operation rival, (point call).calling? = some operation →
    (point other).calling? = some rival → call ≠ other →
    operationKey operation ≠ operationKey rival

theorem CallingApart.update {point : Call → ActionPoint} {call : Call}
    {after : ActionPoint} (hapart : CallingApart point)
    (hafter : ∀ operation other rival, after.calling? = some operation → other ≠ call →
      (point other).calling? = some rival → operationKey operation ≠ operationKey rival) :
    CallingApart (Function.update point call after) := by
  intro left right operation rival hleft hright hne
  by_cases hleftCall : left = call
  · subst hleftCall
    rw [Function.update_self] at hleft
    rw [Function.update_of_ne hne.symm] at hright
    exact hafter operation right rival hleft hne.symm hright
  · rw [Function.update_of_ne hleftCall] at hleft
    by_cases hrightCall : right = call
    · subst hrightCall
      rw [Function.update_self] at hright
      exact (hafter rival left operation hright hleftCall hleft).symm
    · rw [Function.update_of_ne hrightCall] at hright
      exact hapart left right operation rival hleft hright hne

structure SafeActions (database : OrderDatabase) (point : Call → ActionPoint)
    (executed : List OrderOperation) : Prop where
  executedOnce : (executed.map operationKey).Nodup
  executedStored : ∀ operation ∈ executed, Stored database operation
  ownStored : ∀ call operation, (point call).operation? = some operation →
    Stored database operation
  callingFresh : ∀ call operation, (point call).calling? = some operation →
    operationKey operation ∉ executed.map operationKey
  callingApart : CallingApart point
  oneProcessing : OneProcessing database

theorem ActionPoint.operation_of_calling {point : ActionPoint}
    {operation : OrderOperation} (hcalling : point.calling? = some operation) :
    point.operation? = some operation := by
  cases point <;> simp_all [calling?, operation?]

theorem ActionPoint.not_calling {point : ActionPoint} (hnone : point.calling? = none)
    (operation : OrderOperation) : point.calling? ≠ some operation := by
  rw [hnone]
  exact (Option.some_ne_none operation).symm

section Step

variable {requests behaviours} {database next : OrderDatabase}
  {point : Call → ActionPoint} {executed : List OrderOperation} {call : Call}
  {after : ActionPoint}

theorem SafeActions.quiet (hsafe : SafeActions database point executed)
    (hcalling : after.calling? = none) (hsettles : Settles database next)
    (hoperation : ∀ operation, after.operation? = some operation →
      Stored next operation) :
    SafeActions next (Function.update point call after) executed where
  executedOnce := hsafe.executedOnce
  executedStored operation hmem := (hsafe.executedStored operation hmem).settles hsettles
  ownStored :=
    (Function.forall_update_iff point fun _ point =>
      ∀ operation, point.operation? = some operation → Stored next operation).mpr
      ⟨hoperation, fun other _ operation hsome =>
        (hsafe.ownStored other operation hsome).settles hsettles⟩
  callingFresh :=
    (Function.forall_update_iff point fun _ point =>
      ∀ operation, point.calling? = some operation →
        operationKey operation ∉ executed.map operationKey).mpr
      ⟨fun operation hsome => absurd hsome (ActionPoint.not_calling hcalling operation),
        fun other _ => hsafe.callingFresh other⟩
  callingApart := hsafe.callingApart.update fun operation _ _ hsome =>
    absurd hsome (ActionPoint.not_calling hcalling operation)
  oneProcessing := hsafe.oneProcessing.settles hsettles

theorem SafeActions.created {row : OrderOperation}
    (hsafe : SafeActions database point executed)
    (hinsert : database.operations.insert? row = some next.operations)
    (hidle : activeOperation database row.orderPk = none)
    (hafter : ∀ operation, after.operation? = some operation → operation = row) :
    SafeActions next (Function.update point call after) executed where
  executedOnce := hsafe.executedOnce
  executedStored operation hmem := (hsafe.executedStored operation hmem).insert hinsert
  ownStored :=
    (Function.forall_update_iff point fun _ point =>
      ∀ operation, point.operation? = some operation → Stored next operation).mpr
      ⟨fun operation hsome => ⟨row, (mem_insert_iff hinsert).mpr (.inr rfl),
          hafter operation hsome ▸ SameOperation.refl row⟩,
        fun other _ operation hsome =>
          (hsafe.ownStored other operation hsome).insert hinsert⟩
  callingFresh :=
    (Function.forall_update_iff point fun _ point =>
      ∀ operation, point.calling? = some operation →
        operationKey operation ∉ executed.map operationKey).mpr
      ⟨fun operation hsome hmem => by
        obtain rfl := hafter operation (ActionPoint.operation_of_calling hsome)
        obtain ⟨earlier, hearlier, hkey⟩ := List.mem_map.mp hmem
        exact (hsafe.executedStored earlier hearlier).operationKey_ne hinsert hkey,
        fun other _ => hsafe.callingFresh other⟩
  callingApart := hsafe.callingApart.update fun operation other rival hsome _ hrival => by
    obtain rfl := hafter operation (ActionPoint.operation_of_calling hsome)
    have hstored := hsafe.ownStored other rival (ActionPoint.operation_of_calling hrival)
    exact (hstored.operationKey_ne hinsert).symm
  oneProcessing := hsafe.oneProcessing.insert hinsert hidle

theorem SafeActions.called {operation : OrderOperation}
    (hsafe : SafeActions database point executed)
    (hbefore : (point call).calling? = some operation)
    (hafter : after.calling? = none) (hoperation : after.operation? = some operation) :
    SafeActions database (Function.update point call after)
      (executed ++ [operation]) where
  executedOnce := by
    rw [List.map_append, List.map_singleton, List.nodup_append]
    refine ⟨hsafe.executedOnce, List.nodup_singleton _, ?_⟩
    intro key hkey other hother hsame
    rw [hsame, List.mem_singleton.mp hother] at hkey
    exact hsafe.callingFresh call operation hbefore hkey
  executedStored := by
    intro earlier hmem
    rcases List.mem_append.mp hmem with hmem | hmem
    · exact hsafe.executedStored earlier hmem
    · rw [List.mem_singleton.mp hmem]
      exact hsafe.ownStored call operation (ActionPoint.operation_of_calling hbefore)
  ownStored :=
    (Function.forall_update_iff point fun _ point =>
      ∀ operation, point.operation? = some operation → Stored database operation).mpr
      ⟨fun found hsome => by
        rw [hoperation] at hsome
        rw [← Option.some.inj hsome]
        exact hsafe.ownStored call operation (ActionPoint.operation_of_calling hbefore),
        fun other _ => hsafe.ownStored other⟩
  callingFresh :=
    (Function.forall_update_iff point fun _ point =>
      ∀ found, point.calling? = some found →
        operationKey found ∉ (executed ++ [operation]).map operationKey).mpr
      ⟨fun found hsome => absurd hsome (ActionPoint.not_calling hafter found),
        fun other hother found hsome => by
          rw [List.map_append, List.mem_append, not_or]
          refine ⟨hsafe.callingFresh other found hsome, fun hmem => ?_⟩
          rw [List.map_singleton, List.mem_singleton] at hmem
          exact hsafe.callingApart other call found operation hsome hbefore hother hmem⟩
  callingApart := hsafe.callingApart.update fun found _ _ hsome =>
    absurd hsome (ActionPoint.not_calling hafter found)
  oneProcessing := hsafe.oneProcessing

theorem operation_of_ended {refreshed : OrderRow} {row : OrderOperation}
    (hafter : after = .calling refreshed row ∨ ∃ failure, after = .raised failure) :
    ∀ operation, after.operation? = some operation → operation = row := by
  intro operation hsome
  rcases hafter with rfl | ⟨failure, rfl⟩
  · exact (Option.some.inj hsome).symm
  · cases hsome

omit [DecidableEq Call] in
theorem safeActions_initial (hone : OneProcessing database) :
    SafeActions database (fun _ : Call => ActionPoint.start) [] where
  executedOnce := List.nodup_nil
  executedStored _ hmem := absurd hmem List.not_mem_nil
  ownStored _ operation hsome := absurd hsome (Option.some_ne_none operation).symm
  callingFresh _ operation hsome := absurd hsome (Option.some_ne_none operation).symm
  callingApart _ _ operation _ hsome := absurd hsome (Option.some_ne_none operation).symm
  oneProcessing := hone

theorem SafeActions.step {state next : ActionState Call} {label : ActionLabel Call}
    (hsafe : SafeActions state.database state.point state.executed)
    (hstep : actionStep requests behaviours state label = some next) :
    SafeActions next.database next.point next.executed := by
  cases label with
  | others store =>
      obtain rfl := Option.some.inj hstep
      exact ⟨hsafe.executedOnce, hsafe.executedStored, hsafe.ownStored,
        hsafe.callingFresh, hsafe.callingApart, hsafe.oneProcessing⟩
  | call call =>
      obtain ⟨await, hawait, rfl⟩ := Option.map_eq_some_iff.mp hstep
      have hadvanced : Advanced _ _ state.database _ _ _ :=
        advanced_awaitAt hawait (hsafe.ownStored call)
      show SafeActions (advance await state.database).1
        (Function.update state.point call (advance await state.database).2)
        (state.executed ++ (state.point call).calling?.toList)
      revert hadvanced
      generalize (advance await state.database).1 = nextDatabase
      generalize (advance await state.database).2 = after
      generalize hpoint : state.point call = before
      intro hadvanced
      cases hadvanced with
      | quiet hbefore hcalling hsettles hoperation =>
          rw [hbefore, Option.toList_none, List.append_nil]
          exact hsafe.quiet hcalling hsettles fun operation hsome =>
            (hoperation operation hsome).1
      | created hcreate hended =>
          obtain ⟨rfl, hidle, hinsert⟩ := createOperation_created hcreate
          show SafeActions _ _ (state.executed ++ [])
          rw [List.append_nil]
          exact hsafe.created hinsert hidle (operation_of_ended hended)
      | called hcalling hoperation =>
          exact hsafe.called (congrArg ActionPoint.calling? hpoint) hcalling hoperation

def AnswersRequests (requests : Call → ActionRequest) (point : Call → ActionPoint) :
    Prop :=
  ∀ call operation, (point call).operation? = some operation →
    Answers (requests call) operation

def ReusesKey (requests : Call → ActionRequest) (behaviours : Call → ExecuteBehaviour)
    (state : ActionState Call) : ActionLabel Call → Prop
  | .call call => ∃ existing,
      TakesExisting (requests call) (behaviours call) state.database (state.point call)
        existing ∧
      ¬ Answers (requests call) existing
  | .others _ => False

theorem AnswersRequests.step {state next : ActionState Call} {label : ActionLabel Call}
    (hanswers : AnswersRequests requests state.point)
    (hsafe : SafeActions state.database state.point state.executed)
    (hkeeps : ¬ ReusesKey requests behaviours state label)
    (hstep : actionStep requests behaviours state label = some next) :
    AnswersRequests requests next.point := by
  cases label with
  | others store =>
      obtain rfl := Option.some.inj hstep
      exact hanswers
  | call call =>
      obtain ⟨await, hawait, rfl⟩ := Option.map_eq_some_iff.mp hstep
      have hadvanced : Advanced _ _ state.database _ _ _ :=
        advanced_awaitAt hawait (hsafe.ownStored call)
      refine (Function.forall_update_iff state.point fun call point =>
        ∀ operation, point.operation? = some operation →
          Answers (requests call) operation).mpr ⟨?_, fun other _ => hanswers other⟩
      revert hadvanced
      generalize (advance await state.database).1 = nextDatabase
      generalize (advance await state.database).2 = after
      generalize hpoint : state.point call = before
      intro hadvanced operation hsome
      cases hadvanced with
      | quiet hbefore hcalling hsettles hoperation =>
          obtain ⟨-, ⟨earlier, hearlier, hsame⟩ | hown | htakes⟩ :=
            hoperation operation hsome
          · rw [← hpoint] at hearlier
            exact (hanswers call earlier hearlier).same hsame
          · exact hown
          · rw [← hpoint] at htakes
            by_contra hnot
            exact hkeeps ⟨operation, htakes, hnot⟩
      | created hcreate hended =>
          obtain ⟨hrow, -, -⟩ := createOperation_created hcreate
          rw [operation_of_ended hended operation hsome, hrow]
          exact ⟨rfl, rfl⟩
      | called hcalling hoperation =>
          rw [hoperation] at hsome
          exact hanswers call operation (by rw [hpoint]; exact hsome)

end Step

structure ActionsOnce (requests : Call → ActionRequest) (state : ActionState Call) :
    Prop where
  executedOnce : ∀ key, (state.executed.map operationKey).count key ≤ 1
  oneProcessing : OneProcessing state.database
  answered : ∀ call operation, state.point call = .returned operation →
    Answers (requests call) operation

theorem safeActions_of_run {database : OrderDatabase} {state : ActionState Call}
    {labels : List (ActionLabel Call)} (hone : OneProcessing database)
    (hrun : Run (ofPartial (actionStep requests behaviours))
      (ActionState.initial database) labels state) :
    SafeActions state.database state.point state.executed :=
  hrun.invariant (fun state => SafeActions state.database state.point state.executed)
    (fun _ _ _ hsafe hstep => hsafe.step hstep) (safeActions_initial hone)

/-- In a run in which no create returns the operation of another request, each
key leads to one platform call and each call gets its own operation. -/
theorem actions_executed_once {database : OrderDatabase} {state : ActionState Call}
    {labels : List (ActionLabel Call)} (hone : OneProcessing database)
    (hrun : Run (restrict (ofPartial (actionStep requests behaviours))
      fun state label => ¬ ReusesKey requests behaviours state label)
      (ActionState.initial database) labels state) :
    ActionsOnce requests state := by
  have hsafe := safeActions_of_run requests behaviours hone hrun.forget
  have hanswers : SafeActions state.database state.point state.executed ∧
      AnswersRequests requests state.point := by
    apply hrun.invariant fun state =>
      SafeActions state.database state.point state.executed ∧
        AnswersRequests requests state.point
    · rintro before label after ⟨hbefore, hanswers⟩ ⟨hkeeps, hstep⟩
      exact ⟨hbefore.step hstep, hanswers.step hbefore hkeeps hstep⟩
    · exact ⟨safeActions_initial hone, fun _ operation hsome =>
        absurd hsome (Option.some_ne_none operation).symm⟩
  refine ⟨List.nodup_iff_count_le_one.mp hsafe.executedOnce, hsafe.oneProcessing, ?_⟩
  intro call operation hreturned
  exact hanswers.2 call operation (congrArg ActionPoint.operation? hreturned)

def twoPaidOrders : OrderDatabase where
  store :=
    { orders :=
        { rows :=
            [paidOrder,
              { paidOrder with
                orderPk := "order-2"
                platformOrderId := some "1002" }]
          unique := by decide }
      events := [] }
  operations := Table.empty

def sharedKeyRequests (second : Bool) : ActionRequest where
  orderPk := if second then "order-2" else "order-1"
  request := shippingRequest

def returningBehaviours (second : Bool) : ExecuteBehaviour where
  toCollaborators :=
    { returningCollaborators with
      operationId := if second then "operation-2" else "operation-1" }
  readOrder := .ok ()
  readKey := .ok ()
  preflight := fun order store => (store, .ok order)

theorem oneProcessing_twoPaidOrders : OneProcessing twoPaidOrders :=
  fun _ hrow => absurd hrow List.not_mem_nil

/-- The first client alone, up to its platform call. -/
theorem single_action_executed_once :
    ∃ state : ActionState Bool, state.executed.length = 1 ∧
      ActionsOnce sharedKeyRequests state := by
  have hkeeps : ∀ state : ActionState Bool,
      (∀ refreshed, state.point false ≠ .creating refreshed) →
      ¬ ReusesKey sharedKeyRequests returningBehaviours state (.call false) := by
    rintro state hpoint ⟨existing, htakes, -⟩
    obtain ⟨refreshed, hcreating, -⟩ := htakes.key
    exact hpoint refreshed hcreating
  have hfree : ∀ state : ActionState Bool, state.database.operations.rows = [] →
      ¬ ReusesKey sharedKeyRequests returningBehaviours state (.call false) := by
    rintro state hempty ⟨existing, htakes, -⟩
    obtain ⟨refreshed, -, hkey⟩ := htakes.key
    have hmem := Table.mem_of_lookup hkey
    rw [hempty] at hmem
    exact List.not_mem_nil hmem
  refine ⟨_, ?_, actions_executed_once sharedKeyRequests returningBehaviours
    oneProcessing_twoPaidOrders
    (.cons ⟨hfree _ rfl, rfl⟩ (.cons ⟨hfree _ rfl, rfl⟩ (.cons ⟨hfree _ rfl, rfl⟩
      (.cons ⟨hfree _ rfl, rfl⟩ (.cons ⟨hkeeps _ ?_, rfl⟩ (.nil _))))))⟩
  · rfl
  · intro refreshed hcreating
    cases hcreating

/-- The second client reads the key before the first one creates its operation,
and is answered with that operation. -/
theorem shared_key_returns_other_operation :
    ¬ ∀ (requests : Bool → ActionRequest) (behaviours : Bool → ExecuteBehaviour)
      (database : OrderDatabase) (labels : List (ActionLabel Bool))
      (state : ActionState Bool), OneProcessing database →
      Run (ofPartial (actionStep requests behaviours)) (ActionState.initial database)
        labels state →
      ActionsOnce requests state := by
  intro honce
  have hrun : ∃ state, runPartial (actionStep sharedKeyRequests returningBehaviours)
      (ActionState.initial twoPaidOrders)
      ([true, true, true, false, false, false, false, false, false, false, false,
        true, true].map ActionLabel.call) = some state ∧
      ∃ operation, state.point true = .returned operation ∧
        operation.orderPk = "order-1" :=
    ⟨_, rfl, _, rfl, rfl⟩
  obtain ⟨state, hrun, operation, hreturned, horder⟩ := hrun
  have hanswers := (honce _ _ _ _ state oneProcessing_twoPaidOrders
    (run_ofPartial_iff.mpr hrun)).answered true operation hreturned
  rw [Answers, horder] at hanswers
  exact absurd hanswers.1 (by decide)

end XianyuAdmin.Orders
