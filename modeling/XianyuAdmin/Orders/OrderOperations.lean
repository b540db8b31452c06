import XianyuAdmin.Orders.OrderWriters

/-!
# Order operations

Every action a seller takes on an order is recorded as an operation before the
platform is called, under an idempotency key that is unique for the account,
and finished with the outcome of the call.  A successful operation also moves
the order to the state the action leads to.
-/

namespace XianyuAdmin.Orders

open XianyuAdmin.Python

inductive OrderAction
  | confirmShipping
  | offlineShipping
  | freeShipping
  | closeOrder
  | rateBuyer
  | refuseRefund
  deriving DecidableEq, Repr

def OrderAction.text : OrderAction → String
  | .confirmShipping => "confirm_shipping"
  | .offlineShipping => "offline_shipping"
  | .freeShipping => "free_shipping"
  | .closeOrder => "close_order"
  | .rateBuyer => "rate_buyer"
  | .refuseRefund => "refuse_refund"

inductive OperationStatus
  | processing
  | succeeded
  | failed
  | uncertain
  deriving DecidableEq, Repr

/-- A row of `xianyu_order_operations`; the JSON columns are decoded. -/
structure OrderOperation where
  operationId : String
  orderPk : String
  accountId : String
  platformOrderId : String
  action : OrderAction
  status : OperationStatus
  idempotencyKey : String
  requestedBy : Option String
  preStatus : Option OrderStatus
  postStatus : Option OrderStatus
  message : Option String
  error : Option String
  platformCode : Option String
  requestSummary : List (String × Json)
  responseSummary : List (String × Json)
  createdAt : ℕ
  updatedAt : ℕ
  startedAt : Option ℕ
  finishedAt : Option ℕ

/-- The primary key and `uq_xianyu_order_operations_idempotency`. -/
inductive OperationKey
  | operationId (operationId : String)
  | idempotency (accountId idempotencyKey : String)
  deriving DecidableEq

def operationKeys (row : OrderOperation) : List OperationKey :=
  [.operationId row.operationId, .idempotency row.accountId row.idempotencyKey]

abbrev OperationTable := Table OrderOperation operationKeys

variable {row : OrderOperation} {operationId : String} {now : ℕ}

theorem operationId_mem_operationKeys :
    .operationId operationId ∈ operationKeys row ↔ row.operationId = operationId := by
  simp [operationKeys, eq_comm]

theorem idempotency_mem_operationKeys {accountId idempotencyKey : String} :
    .idempotency accountId idempotencyKey ∈ operationKeys row ↔
      row.accountId = accountId ∧ row.idempotencyKey = idempotencyKey := by
  simp [operationKeys, eq_comm]

structure OrderDatabase where
  store : OrderStore
  operations : OperationTable

/-- `session.get(OrderOperationORM, operation_id)`. -/
def OrderDatabase.operation (database : OrderDatabase) (operationId : String) :
    Option OrderOperation :=
  database.operations.lookup (.operationId operationId)

variable {database : OrderDatabase}

theorem OrderDatabase.operation_eq_some_iff :
    database.operation operationId = some row ↔
      row ∈ database.operations.rows ∧ row.operationId = operationId := by
  rw [operation, Table.lookup_eq_some_iff, operationId_mem_operationKeys]

/-- The arguments of `OrderActionRepository.create`. -/
structure OperationRequest where
  orderPk : String
  accountId : String
  platformOrderId : String
  action : OrderAction
  idempotencyKey : String
  requestedBy : Option String
  preStatus : OrderStatus
  requestSummary : List (String × Json)

def newOperation (request : OperationRequest) (operationId : String) (now : ℕ) :
    OrderOperation where
  operationId := operationId
  orderPk := request.orderPk
  accountId := request.accountId
  platformOrderId := request.platformOrderId
  action := request.action
  status := .processing
  idempotencyKey := request.idempotencyKey
  requestedBy := request.requestedBy
  preStatus := some request.preStatus
  postStatus := none
  message := none
  error := none
  platformCode := none
  requestSummary := request.requestSummary
  responseSummary := []
  createdAt := now
  updatedAt := now
  startedAt := some now
  finishedAt := none

/-- How `_create_sync` ends: with a new operation, with the stored one that
holds the idempotency key, or with an exception. -/
inductive CreateResult
  | created (database : OrderDatabase) (row : OrderOperation)
  | existing (row : OrderOperation)
  /-- `ValueError("order not found")` -/
  | orderNotFound
  /-- `OrderActionConflict("该订单已有操作正在执行")` -/
  | conflict
  /-- The `IntegrityError` of an operation id that is taken. -/
  | integrityError

def getByIdempotency (database : OrderDatabase) (accountId idempotencyKey : String) :
    Option OrderOperation :=
  database.operations.lookup (.idempotency accountId idempotencyKey)

def activeOperation (database : OrderDatabase) (orderPk : String) :
    Option OrderOperation :=
  database.operations.rows.find? fun row =>
    row.orderPk = orderPk && row.status = .processing

/-- `_create_sync`.  The order row is locked from the check on, so that the
whole transaction is one step. -/
def createOperation (database : OrderDatabase) (request : OperationRequest)
    (operationId : String) (now : ℕ) : CreateResult :=
  match database.store.get request.orderPk, activeOperation database request.orderPk with
  | none, _ => .orderNotFound
  | some _, some _ => .conflict
  | some _, none =>
      let row := newOperation request operationId now
      match database.operations.insert? row with
      | some operations => .created { database with operations := operations } row
      | none =>
          match getByIdempotency database request.accountId request.idempotencyKey with
          | some row => .existing row
          | none => .integrityError

/-- The arguments of `OrderActionRepository.finish`. -/
structure OperationResult where
  status : OperationStatus
  message : Option String
  error : Option String
  platformCode : Option String
  postStatus : Option OrderStatus
  responseSummary : List (String × Json)
  applyActionState : Bool := false

/-- `str(request_summary.get(name) or "").strip() or current`. -/
def requestedText (summary : List (String × Json)) (name : String)
    (current : Option String) : Option String :=
  textOr (strip (Json.get summary name).textOrEmpty) current

def applyAction (action : OrderAction) (summary : List (String × Json)) (now : ℕ)
    (order : OrderRow) : OrderRow :=
  let shipped := fun (logisticsType : String) (order : OrderRow) =>
    { order with
      status := .shipped
      statusText := some "已发货"
      platformStatus := some "已发货"
      logisticsType := some logisticsType }
  let acted :=
    match action with
    | .confirmShipping => shipped "dummy" order
    | .offlineShipping =>
        { shipped "offline" order with
          carrierCode := requestedText summary "carrier_code" order.carrierCode
          trackingNo := requestedText summary "tracking_no" order.trackingNo }
    | .freeShipping => shipped "bargain_free_shipping" order
    | .closeOrder =>
        { order with
          status := .closed
          statusText := some "交易关闭"
          platformStatus := some "交易关闭" }
    | .rateBuyer => { order with sellerRateStatus := some "4" }
    | .refuseRefund =>
        { order with
          refundStatus := some "rejected"
          platformRefundActions := []
          refundRefuseOptions := [] }
  { acted with
    lastSyncedAt := some now
    syncState := .confirmed
    syncError := none
    updatedAt := now }

theorem orderKeys_applyAction (action : OrderAction) (summary : List (String × Json))
    (now : ℕ) (order : OrderRow) :
    orderKeys (applyAction action summary now order) = orderKeys order := by
  cases action <;> rfl

/-- `_finish_sync` on the row of the operation; `appliedStatus` is the status
of the order when the action was applied to it. -/
def finishOperationRow (result : OperationResult) (appliedStatus : Option OrderStatus)
    (now : ℕ) (row : OrderOperation) : OrderOperation :=
  { row with
    status := result.status
    message := result.message
    error := result.error
    platformCode := result.platformCode
    postStatus := appliedStatus.orElse fun _ => result.postStatus
    responseSummary := result.responseSummary
    updatedAt := now
    finishedAt := some now }

/-- `UPDATE` of one operation outside the unique indexes. -/
def OrderDatabase.updateOperation (database : OrderDatabase) (operationId : String)
    (update : OrderOperation → OrderOperation)
    (hkeys : ∀ row, operationKeys (update row) = operationKeys row) : OrderDatabase :=
  { database with
    operations := database.operations.map
      (fun row => if row.operationId = operationId then update row else row) (by
        intro row
        split
        · exact hkeys row
        · rfl) }

theorem OrderDatabase.operation_updateOperation (database : OrderDatabase)
    (operationId other : String) (update : OrderOperation → OrderOperation)
    (hkeys : ∀ row, operationKeys (update row) = operationKeys row) :
    (database.updateOperation operationId update hkeys).operation other =
      if other = operationId then (database.operation other).map update
      else database.operation other := by
  rw [operation, updateOperation, Table.lookup_map]
  cases hrow : database.operation other with
  | none =>
      rw [operation] at hrow
      simp [hrow]
  | some row =>
      have hid : row.operationId = other := (operation_eq_some_iff.mp hrow).2
      rw [operation] at hrow
      rw [hrow, Option.map_some, hid]
      split <;> rfl

def applyActionState (store : OrderStore) (operation : OrderOperation)
    (order : OrderRow) (result : OperationResult) (eventPk : String) (now : ℕ) :
    OrderStore :=
  let after := applyAction operation.action operation.requestSummary now order
  (store.updateOrder order.orderPk
    (applyAction operation.action operation.requestSummary now)
    (orderKeys_applyAction _ _ _)).addEvent
      (changeEvent after eventPk ("action:" ++ operation.operationId)
        ("platform_action_" ++ operation.action.text) result.message
        [("action", .str operation.action.text),
          ("previous_status", .str order.status.text),
          ("platform_code", result.platformCode.elim .null .str)] now)

/-- `_finish_sync`; `none` is `ValueError("order operation not found")`. -/
def finishOperation (database : OrderDatabase) (operationId : String)
    (result : OperationResult) (eventPk : String) (now : ℕ) : Option OrderDatabase :=
  match database.operation operationId with
  | none => none
  | some operation =>
      let applied :=
        if result.applyActionState && result.status = .succeeded then
          database.store.get operation.orderPk
        else none
      match applied with
      | none =>
          some (database.updateOperation operationId
            (finishOperationRow result none now) fun _ => rfl)
      | some order =>
          let appliedStatus :=
            (applyAction operation.action operation.requestSummary now order).status
          some
            { database.updateOperation operationId
                (finishOperationRow result (some appliedStatus) now) fun _ => rfl with
              store :=
                applyActionState database.store operation order result eventPk now }

theorem finishOperation_eq_some {next : OrderDatabase} {result : OperationResult}
    {eventPk : String}
    (hfinish : finishOperation database operationId result eventPk now = some next) :
    (∃ operation, database.operation operationId = some operation) ∧
      ∃ appliedStatus, next.operations =
        (database.updateOperation operationId
          (finishOperationRow result appliedStatus now) fun _ => rfl).operations := by
  unfold finishOperation at hfinish
  split at hfinish
  · cases hfinish
  · rename_i operation hoperation
    refine ⟨⟨operation, hoperation⟩, ?_⟩
    simp only at hfinish
    split at hfinish
    · rw [← Option.some.inj hfinish]
      exact ⟨none, rfl⟩
    · rw [← Option.some.inj hfinish]
      exact ⟨some _, rfl⟩

theorem exists_finishOperation {operation : OrderOperation}
    (hstored : database.operation operationId = some operation) (result : OperationResult)
    (eventPk : String) (now : ℕ) :
    ∃ next, finishOperation database operationId result eventPk now = some next := by
  unfold finishOperation
  rw [hstored]
  simp only
  split
  · exact ⟨_, rfl⟩
  · exact ⟨_, rfl⟩

theorem operation_finishOperation {next : OrderDatabase} {result : OperationResult}
    {eventPk : String}
    (hfinish : finishOperation database operationId result eventPk now = some next) :
    ∃ row, next.operation operationId = some row ∧ row.status = result.status := by
  obtain ⟨⟨operation, hstored⟩, appliedStatus, hoperations⟩ :=
    finishOperation_eq_some hfinish
  have hafter := database.operation_updateOperation operationId operationId
    (finishOperationRow result appliedStatus now) fun _ => rfl
  rw [if_pos rfl, hstored, Option.map_some] at hafter
  refine ⟨finishOperationRow result appliedStatus now operation, ?_, rfl⟩
  rw [OrderDatabase.operation, hoperations]
  exact hafter

variable {request : OperationRequest}

theorem createOperation_created {created : OrderDatabase}
    (hcreate : createOperation database request operationId now = .created created row) :
    row = newOperation request operationId now ∧
      activeOperation database request.orderPk = none ∧
      database.operations.insert? row = some created.operations := by
  unfold createOperation at hcreate
  split at hcreate
  · cases hcreate
  · cases hcreate
  · rename_i hactive
    simp only at hcreate
    split at hcreate
    · rename_i operations hinsert
      obtain ⟨rfl, rfl⟩ := CreateResult.created.inj hcreate
      exact ⟨rfl, hactive, hinsert⟩
    · split at hcreate <;> cases hcreate

/-- The conflict path returns whatever operation holds the key. -/
theorem createOperation_existing
    (hcreate : createOperation database request operationId now = .existing row) :
    (∃ order, database.store.get request.orderPk = some order) ∧
      activeOperation database request.orderPk = none ∧
      getByIdempotency database request.accountId request.idempotencyKey = some row := by
  unfold createOperation at hcreate
  split at hcreate
  · cases hcreate
  · cases hcreate
  · rename_i order horder hactive
    simp only at hcreate
    split at hcreate
    · cases hcreate
    · split at hcreate
      · rename_i existing hexisting
        rw [← CreateResult.existing.inj hcreate]
        exact ⟨⟨order, horder⟩, hactive, hexisting⟩
      · cases hcreate

theorem operation_of_created {created : OrderDatabase}
    (hcreate : createOperation database request operationId now = .created created row) :
    row = newOperation request operationId now ∧
      created.operation operationId = some row := by
  obtain ⟨rfl, -, hinsert⟩ := createOperation_created hcreate
  refine ⟨rfl, ?_⟩
  rw [OrderDatabase.operation, Table.lookup_of_insert? hinsert, if_pos]
  exact operationId_mem_operationKeys.mpr rfl

end XianyuAdmin.Orders
