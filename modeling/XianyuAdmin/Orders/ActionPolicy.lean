import XianyuAdmin.Orders.ActionIdempotency

/-!
# The policy of order actions

The service decides by the columns of an order which actions it offers, and
`execute` checks the decision on the snapshot that its refresh returns.  The
transaction that records the operation looks at the order again, but only for
another operation in process.
-/

namespace XianyuAdmin.Orders

open XianyuAdmin.Python
open XianyuAdmin.Procedure
open XianyuAdmin.Transition

/-- The label and the danger flag of `ACTION_META`. -/
def actionMeta : OrderAction → String × Bool
  | .confirmShipping => ("确认无物流发货", false)
  | .offlineShipping => ("自行寄件发货", false)
  | .freeShipping => ("确认免拼发货", false)
  | .closeOrder => ("关闭订单", true)
  | .rateBuyer => ("评价买家", false)
  | .refuseRefund => ("拒绝退款", true)

/-- `ACTION_META`'s keys in their order. -/
def allActions : List OrderAction :=
  [.confirmShipping, .offlineShipping, .freeShipping, .closeOrder, .rateBuyer, .refuseRefund]

def actionCapability : OrderAction → Option String
  | .confirmShipping | .offlineShipping => some "LOGISTICS_SEND"
  | .freeShipping => some "GROUPON_FREE_SHIPPING"
  | .closeOrder => some "CLOSE_ORDER"
  | .rateBuyer => some "RATE"
  | .refuseRefund => none

structure PolicyView where
  tradeRole : Option TradeRole
  platformConfirmed : Bool
  platformOrderId : Option String
  status : OrderStatus
  refundStatus : Option String
  platformCapabilities : List String
  platformShippingMethods : List String
  platformRefundActions : List String
  headinfoConfirmed : Bool
  isBargain : Bool
  itemId : Option String
  buyerUserId : Option String
  peerUserId : Option String
  sellerRateStatus : Option String
  refundId : Option String
  refundRefuseOptions : List Json

def OrderRow.policyView (row : OrderRow) : PolicyView where
  tradeRole := row.tradeRole
  platformConfirmed := row.platformConfirmed
  platformOrderId := row.platformOrderId
  status := row.status
  refundStatus := row.refundStatus
  platformCapabilities := row.platformCapabilities
  platformShippingMethods := row.platformShippingMethods
  platformRefundActions := row.platformRefundActions
  headinfoConfirmed := row.headinfoConfirmedAt.isSome
  isBargain := row.isBargain
  itemId := row.itemId
  buyerUserId := row.buyerUserId
  peerUserId := row.peerUserId
  sellerRateStatus := row.sellerRateStatus
  refundId := row.refundId
  refundRefuseOptions := row.refundRefuseOptions

def stringSet (values : List String) : List String :=
  (values.map fun value => upper (strip value)).filter (· ≠ "")

/-- `str(value or "").strip()` is empty. -/
def isBlank (value : Option String) : Bool := strip (value.getD "") = ""

namespace PolicyView

variable (view : PolicyView)

def commonReason : String :=
  if view.tradeRole ≠ some .seller then "仅支持平台已确认的卖出订单"
  else if !view.platformConfirmed then "订单尚未经过卖家列表或会话订单信息确认"
  else if isBlank view.platformOrderId then "订单缺少平台订单号"
  else ""

def normalizedRefundStatus : String := lower (strip (view.refundStatus.getD ""))

def refundFinished : Bool :=
  view.normalizedRefundStatus ∈ ["refunded", "success", "completed"]

def refundActive : Bool :=
  view.normalizedRefundStatus ∈ ["pending", "processing", "refunding", "requested"]

def capabilityReason (action : OrderAction) : String :=
  match actionCapability action with
  | some required =>
      if view.headinfoConfirmed ∧ required ∉ stringSet view.platformCapabilities then
        "平台当前未提供" ++ (actionMeta action).1 ++ "操作"
      else ""
  | none => ""

def shippingReason (own : String) : String :=
  if view.refundFinished then "订单已经退款，不能执行发货"
  else if view.status ≠ .paidWaitingDelivery then "仅待发货订单可以确认发货"
  else own

def ownReason : OrderAction → String
  | .confirmShipping => view.shippingReason
      (if "DUMMY_CONSIGN" ∉ stringSet view.platformShippingMethods then
        "平台当前未提供无需邮寄方式"
      else "")
  | .offlineShipping => view.shippingReason
      (if "OFFLINE_CONSIGN" ∉ stringSet view.platformShippingMethods then
        "平台当前未提供自行寄件方式"
      else "")
  | .freeShipping => view.shippingReason
      (if !view.isBargain then "当前订单不是小刀/免拼订单"
      else if isBlank view.itemId then "订单缺少商品 ID"
      else if isBlank (orElse view.buyerUserId view.peerUserId) then "订单缺少买家 ID"
      else "")
  | .closeOrder =>
      if view.refundActive then "退款申请处理中，不能直接关闭订单"
      else if !view.status.isEarly then "仅待付款或待发货订单可以关闭"
      else ""
  | .rateBuyer =>
      if view.status ≠ .completed then "仅交易成功订单可以评价"
      else if view.sellerRateStatus = some "4" then "订单已经评价"
      else ""
  | .refuseRefund =>
      if "REFUSE_REFUND" ∉ stringSet view.platformRefundActions then
        "平台当前未提供拒绝退款操作"
      else if isBlank view.refundId then "退款申请缺少退款单号"
      else if !view.refundActive then "当前没有待处理的退款申请"
      else if view.refundRefuseOptions.all (fun option => !(option matches .obj _)) then
        "平台尚未返回可用的拒绝原因"
      else ""

def reason (action : OrderAction) : String :=
  if view.commonReason ≠ "" then view.commonReason
  else if view.capabilityReason action ≠ "" then view.capabilityReason action
  else view.ownReason action

end PolicyView

structure ActionAvailability where
  action : OrderAction
  enabled : Bool
  reason : String
  label : String
  danger : Bool
  deriving DecidableEq, Repr

def availabilityOf (row : OrderRow) (action : OrderAction) : ActionAvailability where
  action := action
  enabled := row.policyView.reason action = ""
  reason := row.policyView.reason action
  label := (actionMeta action).1
  danger := (actionMeta action).2

def orderActionAvailability (row : OrderRow) : List ActionAvailability :=
  allActions.map (availabilityOf row)

def Enables (row : OrderRow) (action : OrderAction) : Prop :=
  ∀ availability ∈ orderActionAvailability row,
    availability.action = action → availability.enabled = true

theorem enables_iff (row : OrderRow) (action : OrderAction) :
    Enables row action ↔ row.policyView.reason action = "" := by
  have hlisted : action ∈ allActions := by cases action <;> decide
  constructor
  · intro henables
    have henabled := henables (availabilityOf row action)
      (List.mem_map_of_mem hlisted) rfl
    simpa [availabilityOf] using henabled
  · intro hreason availability hmem haction
    obtain ⟨listed, -, rfl⟩ := List.mem_map.mp hmem
    obtain rfl : listed = action := haction
    simpa [availabilityOf] using hreason

theorem Enables.congr {left right : OrderRow} (hview : left.policyView = right.policyView)
    {action : OrderAction} (henables : Enables left action) : Enables right action := by
  rw [enables_iff] at henables ⊢
  rwa [← hview]

theorem ownReason_of_enables {row : OrderRow} {action : OrderAction}
    (henables : Enables row action) : row.policyView.ownReason action = "" := by
  rw [enables_iff, PolicyView.reason] at henables
  split at henables
  · contradiction
  · split at henables
    · contradiction
    · exact henables

theorem not_enables_applyAction (action : OrderAction) (requestSummary : List (String × Json))
    (now : ℕ) (order : OrderRow) :
    ¬ Enables (applyAction action requestSummary now order) action := by
  intro henables
  have hown := ownReason_of_enables henables
  cases action with
  | confirmShipping | offlineShipping | freeShipping =>
      simp only [PolicyView.ownReason, PolicyView.shippingReason] at hown
      split at hown
      · exact absurd hown (by decide)
      · exact absurd hown (by simp [applyAction, OrderRow.policyView])
  | closeOrder =>
      simp only [PolicyView.ownReason] at hown
      split at hown
      · exact absurd hown (by decide)
      · exact absurd hown (by simp [applyAction, OrderRow.policyView, OrderStatus.isEarly])
  | rateBuyer =>
      simp only [PolicyView.ownReason] at hown
      split at hown
      · exact absurd hown (by decide)
      · exact absurd hown (by simp [applyAction, OrderRow.policyView])
  | refuseRefund =>
      exact absurd hown
        (by simp [PolicyView.ownReason, applyAction, OrderRow.policyView, stringSet])

/-- `raise OrderActionConflict(text)`. -/
def conflict (text : String) : Raised := .interrupted (.exception "OrderActionConflict" text)

structure ActionParts extends Collaborators where
  readOrder : Except Interruption Unit
  readKey : Except Interruption Unit
  /-- `_refresh_platform_state` of the preflight, after the account was read. -/
  refreshPlatformState : OrderRow → OrderStore → OrderStore × Except Raised OrderRow
  /-- `_validate_refuse_request`, which asks the platform. -/
  validateRefuseRequest : OrderRow → Except Raised Unit

def checkRefreshed (request : ExecuteRequest)
    (validateRefuseRequest : OrderRow → Except Raised Unit) (refreshed : OrderRow) :
    Except Raised OrderRow :=
  let selected := availabilityOf refreshed request.action
  if !selected.enabled then .error (conflict selected.reason)
  else if request.action = .offlineShipping ∧ !truthy request.trackingNo then
    .error (conflict "请填写快递单号")
  else if request.action = .offlineShipping ∧ !truthy request.carrierCode then
    .error (conflict "请填写快递公司编码")
  else if request.action = .refuseRefund then
    (validateRefuseRequest refreshed).map fun _ => refreshed
  else .ok refreshed

/-- A call of `execute` whose preflight refreshes the order and checks what it got. -/
def checkedBehaviour (request : ActionRequest) (parts : ActionParts) : ExecuteBehaviour where
  toCollaborators := parts.toCollaborators
  readOrder := parts.readOrder
  readKey := parts.readKey
  preflight := fun order store =>
    ((parts.refreshPlatformState order store).1,
      (parts.refreshPlatformState order store).2.bind
        (checkRefreshed request.request parts.validateRefuseRequest))

variable {refreshed : OrderRow} {request : ActionRequest} {operation : OrderOperation}

theorem enables_of_checkRefreshed {request : ExecuteRequest}
    {validateRefuseRequest : OrderRow → Except Raised Unit} {row : OrderRow}
    (hchecked : checkRefreshed request validateRefuseRequest refreshed = .ok row) :
    Enables row request.action := by
  rw [checkRefreshed] at hchecked
  split at hchecked
  · cases hchecked
  · rename_i henabled
    have hreason : refreshed.policyView.reason request.action = "" := by
      simpa [availabilityOf] using henabled
    have hsame : refreshed = row := by
      split at hchecked
      · cases hchecked
      · split at hchecked
        · cases hchecked
        · split at hchecked
          · cases hvalid : validateRefuseRequest refreshed with
            | error failure =>
                rw [hvalid] at hchecked
                cases hchecked
            | ok value =>
                rw [hvalid] at hchecked
                exact Except.ok.inj hchecked
          · exact Except.ok.inj hchecked
    rw [← hsame, enables_iff]
    exact hreason

theorem enables_of_preflight {parts : ActionParts} {order row : OrderRow} {store : OrderStore}
    (hpassed : ((checkedBehaviour request parts).preflight order store).2 = .ok row) :
    Enables row request.request.action := by
  cases hrefreshed : (parts.refreshPlatformState order store).2 with
  | error failure =>
      simp only [checkedBehaviour, hrefreshed] at hpassed
      cases hpassed
  | ok refreshed =>
      simp only [checkedBehaviour, hrefreshed] at hpassed
      exact enables_of_checkRefreshed hpassed

def createdBy (request : ActionRequest) (behaviour : ExecuteBehaviour)
    (database : OrderDatabase) : ActionPoint → Option OrderOperation
  | .creating refreshed =>
      match createOperation database
          (operationRequest request.orderPk refreshed request.request request.requestedBy)
          behaviour.operationId behaviour.createdAt with
      | .created _ row => some row
      | _ => none
  | _ => none

/-- Where an await takes a call, as far as the check and the creation go. -/
inductive Enters (request : ActionRequest) (behaviour : ExecuteBehaviour)
    (database : OrderDatabase) (point : ActionPoint) : ActionPoint → Prop
  | elsewhere {after : ActionPoint} (hcreating : ∀ refreshed, after ≠ .creating refreshed)
      (hcalling : after.calling? = none) : Enters request behaviour database point after
  | checked {order refreshed : OrderRow}
      (hpassed : (behaviour.preflight order database.store).2 = .ok refreshed) :
      Enters request behaviour database point (.creating refreshed)
  | created {refreshed : OrderRow} {operation : OrderOperation}
      (hpoint : point = .creating refreshed)
      (hcreated : createdBy request behaviour database point = some operation) :
      Enters request behaviour database point (.calling refreshed operation)

theorem enters_awaitAt {behaviour : ExecuteBehaviour} {database : OrderDatabase}
    {point : ActionPoint} {await : ActionProcedure ActionPoint}
    (hawait : awaitAt request behaviour point = some await) :
    Enters request behaviour database point (advance await database).2 := by
  suffices hends : Ends await database
      (fun after _ => Enters request behaviour database point after)
      fun failure _ => Enters request behaviour database point (.raised failure) from
    advance_ends hends
  cases point with
  | returned operation => cases hawait
  | raised failure => cases hawait
  | start =>
      obtain rfl := Option.some.inj hawait
      simp only [ends_bind, ends_awaitEnd, ends_get]
      cases behaviour.readOrder with
      | error interruption => exact .elsewhere (fun _ => ActionPoint.noConfusion) rfl
      | ok value =>
          cases database.store.get request.orderPk with
          | none => exact .elsewhere (fun _ => ActionPoint.noConfusion) rfl
          | some order => exact .elsewhere (fun _ => ActionPoint.noConfusion) rfl
  | checking order =>
      obtain rfl := Option.some.inj hawait
      simp only [ends_bind, ends_awaitEnd, ends_get]
      cases behaviour.readKey with
      | error interruption => exact .elsewhere (fun _ => ActionPoint.noConfusion) rfl
      | ok value =>
          cases getByIdempotency database order.accountId request.request.idempotencyKey with
          | none => exact .elsewhere (fun _ => ActionPoint.noConfusion) rfl
          | some existing =>
              simp only
              split
              · exact .elsewhere (fun _ => ActionPoint.noConfusion) rfl
              · exact .elsewhere (fun _ => ActionPoint.noConfusion) rfl
  | refreshing order =>
      obtain rfl := Option.some.inj hawait
      simp only [ends_bind, ends_get, ends_set, ends_answer]
      cases hpassed : (behaviour.preflight order database.store).2 with
      | error failure => exact .elsewhere (fun _ => ActionPoint.noConfusion) rfl
      | ok row => exact .checked hpassed
  | creating refreshed =>
      obtain rfl := Option.some.inj hawait
      simp only [ends_bind, ends_get]
      cases hcreate : createOperation database
          (operationRequest request.orderPk refreshed request.request request.requestedBy)
          behaviour.operationId behaviour.createdAt with
      | orderNotFound => exact .elsewhere (fun _ => ActionPoint.noConfusion) rfl
      | conflict => exact .elsewhere (fun _ => ActionPoint.noConfusion) rfl
      | integrityError => exact .elsewhere (fun _ => ActionPoint.noConfusion) rfl
      | existing row =>
          simp only [ends_bind, ends_awaitEnd]
          cases behaviour.created with
          | error interruption => exact .elsewhere (fun _ => ActionPoint.noConfusion) rfl
          | ok value => exact .elsewhere (fun _ => ActionPoint.noConfusion) rfl
      | created next row =>
          simp only [ends_bind, ends_set, ends_awaitEnd]
          cases behaviour.created with
          | error interruption => exact .elsewhere (fun _ => ActionPoint.noConfusion) rfl
          | ok value => exact .created rfl (by rw [createdBy, hcreate])
  | calling refreshed operation =>
      obtain rfl := Option.some.inj hawait
      cases behaviour.execute with
      | ok result => exact .elsewhere (fun _ => ActionPoint.noConfusion) rfl
      | error failure => exact .elsewhere (fun _ => ActionPoint.noConfusion) rfl
  | succeeding refreshed operation result =>
      obtain rfl := Option.some.inj hawait
      rw [ends_tryCatch, ends_bind]
      exact .of_forall (fun _ _ => .elsewhere (fun _ => ActionPoint.noConfusion) rfl)
        fun _ _ => .elsewhere (fun _ => ActionPoint.noConfusion) rfl
  | failing refreshed operation failure =>
      obtain rfl := Option.some.inj hawait
      rw [ends_bind]
      exact .of_forall (fun _ _ => .elsewhere (fun _ => ActionPoint.noConfusion) rfl)
        fun _ _ => .elsewhere (fun _ => ActionPoint.noConfusion) rfl
  | readingBack operation =>
      obtain rfl := Option.some.inj hawait
      rw [ends_bind]
      exact .of_forall (fun _ _ => .elsewhere (fun _ => ActionPoint.noConfusion) rfl)
        fun _ _ => .elsewhere (fun _ => ActionPoint.noConfusion) rfl
  | reading operation =>
      obtain rfl := Option.some.inj hawait
      rw [ends_bind]
      exact .of_forall (fun _ _ => .elsewhere (fun _ => ActionPoint.noConfusion) rfl)
        fun _ _ => .elsewhere (fun _ => ActionPoint.noConfusion) rfl

theorem createdBy_spec {behaviour : ExecuteBehaviour} {database : OrderDatabase}
    (hcreated : createdBy request behaviour database (.creating refreshed) = some operation) :
    operation.orderPk = request.orderPk ∧ operation.action = request.request.action ∧
      ∃ stored, database.store.get request.orderPk = some stored := by
  simp only [createdBy] at hcreated
  split at hcreated
  · rename_i next row hcreate
    obtain rfl := Option.some.inj hcreated
    obtain ⟨rfl, -, -⟩ := createOperation_created hcreate
    refine ⟨rfl, rfl, ?_⟩
    unfold createOperation at hcreate
    split at hcreate
    · cases hcreate
    · cases hcreate
    · rename_i stored hstored _
      exact ⟨stored, hstored⟩
  · cases hcreated

variable {Call : Type} [DecidableEq Call]

structure TracedState (Call : Type) where
  state : ActionState Call
  committed : List (OrderOperation × Option OrderRow)

variable (requests : Call → ActionRequest) (parts : Call → ActionParts)

def behaviours (call : Call) : ExecuteBehaviour := checkedBehaviour (requests call) (parts call)

def commitsAt (state : ActionState Call) :
    ActionLabel Call → Option (OrderOperation × Option OrderRow)
  | .call call =>
      (createdBy (requests call) (behaviours requests parts call) state.database
        (state.point call)).map fun operation =>
          (operation, state.database.store.get operation.orderPk)
  | .others _ => none

def tracedStep (traced : TracedState Call) (label : ActionLabel Call) :
    Option (TracedState Call) :=
  (actionStep requests (behaviours requests parts) traced.state label).map fun next =>
    { state := next
      committed := traced.committed ++ (commitsAt requests parts traced.state label).toList }

def TracedState.initial (database : OrderDatabase) : TracedState Call where
  state := .initial database
  committed := []

def SnapshotCurrent (traced : TracedState Call) : ActionLabel Call → Prop
  | .call call => ∀ refreshed stored, traced.state.point call = .creating refreshed →
      traced.state.database.store.get (requests call).orderPk = some stored →
        refreshed.policyView = stored.policyView
  | .others _ => True

def CommittedEnabled (committed : List (OrderOperation × Option OrderRow))
    (operation : OrderOperation) : Prop :=
  ∃ stored, (operation, some stored) ∈ committed ∧ Enables stored operation.action ∧
    ∀ requestSummary now order,
      stored ≠ applyAction operation.action requestSummary now order

def ExecutesEnabled (traced : TracedState Call) : Prop :=
  ∀ operation ∈ traced.state.executed, CommittedEnabled traced.committed operation

theorem CommittedEnabled.of_enables {committed : List (OrderOperation × Option OrderRow)}
    {stored : OrderRow} (hmem : (operation, some stored) ∈ committed)
    (henables : Enables stored operation.action) :
    CommittedEnabled committed operation := by
  refine ⟨stored, hmem, henables, fun requestSummary now order hsame => ?_⟩
  exact not_enables_applyAction operation.action requestSummary now order (hsame ▸ henables)

theorem CommittedEnabled.append {committed : List (OrderOperation × Option OrderRow)}
    (hcommitted : CommittedEnabled committed operation)
    (more : List (OrderOperation × Option OrderRow)) :
    CommittedEnabled (committed ++ more) operation := by
  obtain ⟨stored, hmem, hrest⟩ := hcommitted
  exact ⟨stored, List.mem_append_left _ hmem, hrest⟩

structure Checked (traced : TracedState Call) : Prop where
  creating : ∀ call refreshed, traced.state.point call = .creating refreshed →
    Enables refreshed (requests call).request.action
  calling : ∀ call operation, (traced.state.point call).calling? = some operation →
    CommittedEnabled traced.committed operation
  executed : ExecutesEnabled traced

omit [DecidableEq Call] in
theorem checked_initial (database : OrderDatabase) :
    Checked requests (TracedState.initial database) where
  creating := fun _ _ hpoint => by cases hpoint
  calling := fun _ _ hcalling => by cases hcalling
  executed := fun _ hmem => absurd hmem List.not_mem_nil

omit [DecidableEq Call] in
theorem committedEnabled_of_created {traced : TracedState Call} {call : Call}
    (hchecked : Checked requests traced) (hcurrent : SnapshotCurrent requests traced (.call call))
    (hpoint : traced.state.point call = .creating refreshed)
    (hcreated : createdBy (requests call) (behaviours requests parts call)
      traced.state.database (traced.state.point call) = some operation) :
    CommittedEnabled
      (traced.committed ++ (commitsAt requests parts traced.state (.call call)).toList)
      operation := by
  rw [commitsAt, hcreated]
  rw [hpoint] at hcreated
  obtain ⟨horder, haction, stored, hstored⟩ := createdBy_spec hcreated
  have hsnapshot := hcurrent refreshed stored hpoint hstored
  have henables : Enables stored operation.action := by
    rw [haction]
    exact (hchecked.creating call refreshed hpoint).congr hsnapshot
  refine CommittedEnabled.of_enables (List.mem_append_right _ ?_) henables
  simp [horder, hstored]

theorem Checked.step {traced next : TracedState Call} {label : ActionLabel Call}
    (hchecked : Checked requests traced) (hcurrent : SnapshotCurrent requests traced label)
    (hstep : tracedStep requests parts traced label = some next) : Checked requests next := by
  obtain ⟨state, hstate, rfl⟩ := Option.map_eq_some_iff.mp hstep
  cases label with
  | others store =>
      obtain rfl := Option.some.inj hstate
      exact ⟨hchecked.creating, fun call operation hcalling =>
        (hchecked.calling call operation hcalling).append _, fun operation hmem =>
          (hchecked.executed operation hmem).append _⟩
  | call call =>
      obtain ⟨await, hawait, rfl⟩ := Option.map_eq_some_iff.mp hstate
      have henters : Enters (requests call) (behaviours requests parts call)
          traced.state.database (traced.state.point call)
          (advance await traced.state.database).2 := enters_awaitAt hawait
      refine ⟨?_, ?_, ?_⟩
      · refine (Function.forall_update_iff traced.state.point fun call point =>
          ∀ refreshed, point = .creating refreshed →
            Enables refreshed (requests call).request.action).mpr
          ⟨fun refreshed hafter => ?_, fun other _ => hchecked.creating other⟩
        rw [hafter] at henters
        cases henters with
        | elsewhere hcreating => exact absurd rfl (hcreating refreshed)
        | checked hpassed => exact enables_of_preflight hpassed
      · refine (Function.forall_update_iff traced.state.point fun _ point =>
          ∀ operation, point.calling? = some operation → CommittedEnabled _ operation).mpr
          ⟨fun operation hafter => ?_, fun other _ operation hcalling =>
            (hchecked.calling other operation hcalling).append _⟩
        cases hpoint : (advance await traced.state.database).2 with
        | calling refreshed created =>
            rw [hpoint] at henters hafter
            obtain rfl : created = operation := Option.some.inj hafter
            cases henters with
            | elsewhere _ hcalling => cases hcalling
            | created hbefore hcreated =>
                exact committedEnabled_of_created requests parts hchecked hcurrent hbefore
                  hcreated
        | _ =>
            rw [hpoint] at hafter
            cases hafter
      · intro operation hmem
        rcases List.mem_append.mp hmem with hold | hnew
        · exact (hchecked.executed operation hold).append _
        · exact (hchecked.calling call operation (Option.mem_toList.mp hnew)).append _

/-- In every run in which operations are committed only on current snapshots, the platform is
called only for operations that the policy enabled when they were committed. -/
theorem executesEnabled_of_run {database : OrderDatabase} {traced : TracedState Call}
    {labels : List (ActionLabel Call)}
    (hrun : Run (restrict (ofPartial (tracedStep requests parts)) (SnapshotCurrent requests))
      (TracedState.initial database) labels traced) : ExecutesEnabled traced :=
  (hrun.invariant (Checked requests)
    (fun _ _ _ hchecked hstep => hchecked.step requests parts hstep.1 hstep.2)
    (checked_initial requests database)).executed

def shippableOrder : OrderRow :=
  { paidOrder with platformConfirmed := true, platformShippingMethods := ["DUMMY_CONSIGN"] }

def shippableDatabase : OrderDatabase where
  store :=
    { orders := { rows := [shippableOrder], unique := List.pairwise_singleton _ _ }
      events := [] }
  operations := Table.empty

def twoKeyRequests (second : Bool) : ActionRequest where
  orderPk := "order-1"
  request :=
    { action := .confirmShipping, idempotencyKey := if second then "key-2" else "key-1" }

def returningParts (second : Bool) : ActionParts where
  toCollaborators :=
    { returningCollaborators with
      operationId := if second then "operation-2" else "operation-1" }
  readOrder := .ok ()
  readKey := .ok ()
  refreshPlatformState := fun order store => (store, .ok order)
  validateRefuseRequest := fun _ => .ok ()

/-- One call alone, up to its platform call. -/
theorem executed_on_current_snapshot :
    ∃ traced : TracedState Bool, traced.state.executed.length = 1 ∧ ExecutesEnabled traced := by
  have hcurrent : ∀ traced : TracedState Bool,
      (∀ refreshed, traced.state.point false ≠ .creating refreshed) →
      SnapshotCurrent twoKeyRequests traced (.call false) :=
    fun traced hpoint refreshed _ hcreating => absurd hcreating (hpoint refreshed)
  have hruns : ∃ traced,
      Run (restrict (ofPartial (tracedStep twoKeyRequests returningParts))
        (SnapshotCurrent twoKeyRequests)) (TracedState.initial shippableDatabase)
        ([false, false, false, false, false].map .call) traced ∧
      traced.state.executed.length = 1 := by
    refine ⟨_, .cons ⟨hcurrent _ ?_, rfl⟩ (.cons ⟨hcurrent _ ?_, rfl⟩
      (.cons ⟨hcurrent _ ?_, rfl⟩ (.cons ⟨?_, rfl⟩ (.cons ⟨hcurrent _ ?_, rfl⟩ (.nil _))))),
      rfl⟩
    · exact fun _ => ActionPoint.noConfusion
    · exact fun _ => ActionPoint.noConfusion
    · exact fun _ => ActionPoint.noConfusion
    · intro refreshed stored hcreating hstored
      cases hcreating
      cases hstored
      rfl
    · exact fun _ => ActionPoint.noConfusion
  obtain ⟨traced, hrun, hexecuted⟩ := hruns
  exact ⟨traced, hexecuted, executesEnabled_of_run twoKeyRequests returningParts hrun⟩

def shippedTwice : List (ActionLabel Bool) :=
  [true, true, true, false, false, false, false, false, false, true, true].map .call

theorem shipped_twice :
    ∃ traced, Run (ofPartial (tracedStep twoKeyRequests returningParts))
      (TracedState.initial shippableDatabase) shippedTwice traced ∧
      ¬ ExecutesEnabled traced := by
  have hruns : ∃ traced, Run (ofPartial (tracedStep twoKeyRequests returningParts))
      (TracedState.initial shippableDatabase) shippedTwice traced ∧
      (∃ operation ∈ traced.state.executed, operation.operationId = "operation-2" ∧
        operation.action = .confirmShipping) ∧
      traced.committed.map (fun entry => (entry.1.operationId, entry.2.map OrderRow.status)) =
        [("operation-1", some .paidWaitingDelivery), ("operation-2", some .shipped)] :=
    ⟨_, run_ofPartial_iff.mpr rfl, ⟨_, List.mem_cons_of_mem _ List.mem_cons_self, rfl, rfl⟩, rfl⟩
  obtain ⟨traced, hrun, ⟨operation, hexecuted, hid, haction⟩, hcommitted⟩ := hruns
  refine ⟨traced, hrun, fun henabled => ?_⟩
  obtain ⟨stored, hmem, henables, -⟩ := henabled operation hexecuted
  have hentry := List.mem_map_of_mem (f := fun entry : OrderOperation × Option OrderRow =>
    (entry.1.operationId, entry.2.map OrderRow.status)) hmem
  rw [hcommitted, hid] at hentry
  have hshipped : stored.status = .shipped := by simpa using hentry
  have hown := ownReason_of_enables henables
  rw [haction] at hown
  simp only [PolicyView.ownReason, PolicyView.shippingReason] at hown
  split at hown
  · exact absurd hown (by decide)
  · exact absurd hown (by simp [OrderRow.policyView, hshipped])

end XianyuAdmin.Orders
