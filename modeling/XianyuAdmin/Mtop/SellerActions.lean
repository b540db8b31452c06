import XianyuAdmin.Mtop.PostMtop

/-!
# Order actions and catalog actions

An action posts its API once and classifies what comes back.  The orders and the
catalog have a classification each; both take some refusals for a sign that the action
has been done before.
-/

namespace XianyuAdmin.Mtop

open XianyuAdmin.Python Procedure

inductive OrderAction
  | confirmShipping
  | offlineShipping
  | freeShipping
  | closeOrder
  | rateBuyer
  | refuseRefund
  deriving DecidableEq, Repr

namespace OrderAction

def name : OrderAction → String
  | confirmShipping => "confirm_shipping"
  | offlineShipping => "offline_shipping"
  | freeShipping => "free_shipping"
  | closeOrder => "close_order"
  | rateBuyer => "rate_buyer"
  | refuseRefund => "refuse_refund"

/-- The API of `ACTION_SPECS`. -/
def api : OrderAction → String
  | confirmShipping => "mtop.taobao.idle.logistic.consign.dummy"
  | offlineShipping => "mtop.taobao.idle.logistic.consign.offline"
  | freeShipping => "mtop.idle.groupon.activity.seller.freeshipping"
  | closeOrder => "mtop.taobao.idle.trade.close.by.seller"
  | rateBuyer => "mtop.taobao.idle.rate.create"
  | refuseRefund => "mtop.taobao.idle.refund.refuse"

/-- `_action_label`. -/
def label : OrderAction → String
  | confirmShipping => "确认无物流发货"
  | offlineShipping => "自行寄件发货"
  | freeShipping => "确认免拼发货"
  | closeOrder => "关闭订单"
  | rateBuyer => "评价买家"
  | refuseRefund => "拒绝退款"

def isShipping : OrderAction → Bool
  | confirmShipping | offlineShipping | freeShipping => true
  | closeOrder | rateBuyer | refuseRefund => false

def ofName? (text : String) : Option OrderAction :=
  [confirmShipping, offlineShipping, freeShipping, closeOrder, rateBuyer, refuseRefund].find?
    fun action => action.name = text

end OrderAction

/-- The arguments of `execute` that its checks read. -/
structure OrderActionRequest where
  action : String
  orderId : String
  itemId : String := ""
  buyerId : String := ""
  feedback : String := "不错的买家，期待再次交易"
  closeReason : String := "其他原因"
  trackingNo : String := ""
  carrierCode : String := ""
  refundId : String := ""
  refundReasonId : String := ""

/-- What the payload of an action cannot do without, with its label. -/
def OrderAction.required (request : OrderActionRequest) : OrderAction → List (String × String)
  | .confirmShipping => []
  | .offlineShipping => [(request.trackingNo, "快递单号"), (request.carrierCode, "快递公司编码")]
  | .freeShipping => [(request.itemId, "商品 ID"), (request.buyerId, "买家 ID")]
  | .closeOrder => [(request.closeReason, "关闭原因")]
  | .rateBuyer => [(request.feedback, "评价内容")]
  | .refuseRefund => [(request.refundId, "退款单号"), (request.refundReasonId, "拒绝原因")]

def orderValidation (message : String) : Failure :=
  .orderAction { kind := .validation, message := message }

def required (value label : String) : Except Failure String :=
  if strip value = "" then .error (orderValidation (label ++ "不能为空")) else .ok (strip value)

def checkedAction (request : OrderActionRequest) : Except Failure (OrderAction × String) := do
  let orderId ← required request.orderId "订单号"
  match OrderAction.ofName? (strip request.action) with
  | none =>
      let shown := if strip request.action = "" then "-" else strip request.action
      .error (orderValidation ("不支持的订单操作: " ++ shown))
  | some action => do
      let _ ← (action.required request).mapM fun (value, label) => required value label
      .ok (action, orderId)

structure OrderActionResult where
  action : OrderAction
  orderId : String
  message : String
  platformCode : String
  alreadyApplied : Bool := false
  rawResponse : Json

def responseCode (response : Json) : String :=
  match retList? response with
  | some (entry :: _) => (((display entry).splitOn "::").head?).getD ""
  | _ => "UNKNOWN"

def deliveredMarkers : List String := ["ORDER_ALREADY_DELIVERY", "已发货成功"]

/-- `_from_publish_error` with `write=True`. -/
def fromPublishError (error : PlatformError) (operation : String) : Failure :=
  let uncertain := error.uncertain ||
    error.kind ∉ [.auth, .platformRejected, .riskControl, .validation]
  .orderAction
    { kind := if uncertain then .resultUnknown else error.kind
      message :=
        if uncertain then operation ++ "请求结果无法确认，禁止直接重试"
        else replaceAll "发布" operation error.message
      uncertain := uncertain
      verificationRequired := error.kind = .riskControl
      rawResponse := error.rawResponse }

def executed (action : OrderAction) (orderId : String) (response : Json) :
    OrderActionResult where
  action := action
  orderId := orderId
  message := action.label ++ "成功"
  platformCode := responseCode response
  rawResponse := response

def executeFailed (action : OrderAction) (orderId : String) :
    Failure → Exchange OrderActionResult
  | .productPublish error =>
      if action.isShipping && containsMarker (.obj error.rawResponse) deliveredMarkers then
        pure
          { action := action
            orderId := orderId
            message := "订单已经发货，无需重复操作"
            platformCode := responseCode (.obj error.rawResponse)
            alreadyApplied := true
            rawResponse := .obj error.rawResponse }
      else throw (fromPublishError error action.label)
  | .request _ =>
      throw (.orderAction
        { kind := .resultUnknown
          message := action.label ++ "请求已发出但未收到明确结果，禁止直接重试"
          uncertain := true })
  | failure => throw failure

/-- What `execute` does once the action has been checked. -/
def executeAction (platform : Platform) (action : OrderAction) (orderId : String) :
    Exchange OrderActionResult :=
  tryCatch
    (do
      let response ← postMtop platform action.api
      answer (ensureSuccess response action.label)
      pure (executed action orderId response))
    (executeFailed action orderId)

def execute (platform : Platform) (request : OrderActionRequest) :
    Exchange OrderActionResult := do
  let checked ← answer (checkedAction request)
  executeAction platform checked.1 checked.2

def ensureOperationSuccess (response : Json) (operation : String) : Except Failure Unit :=
  match ensureSuccess response operation with
  | .error (.productPublish error) =>
      .error (.productOperation
        { error with
          verificationRequired := error.kind = .riskControl
          rawResponse := response.asObject })
  | result => result

/-- What `_personal_write_request` makes of a failure. -/
def personalWriteFailed (operation : String) : Failure → Exchange Json
  | .productPublish error =>
      let uncertain : Bool := error.kind ≠ .auth
      throw (.productOperation
        { kind := if uncertain then .resultUnknown else error.kind
          message :=
            if uncertain then operation ++ "请求结果无法确认，禁止直接重试" else error.message
          uncertain := uncertain
          verificationRequired := error.kind = .riskControl
          rawResponse := error.rawResponse })
  | .request _ =>
      throw (.productOperation
        { kind := .resultUnknown
          message := operation ++ "请求已发出但未收到明确结果，禁止直接重试"
          uncertain := true })
  | failure => throw failure

def personalWriteRequest (platform : Platform) (api operation : String) : Exchange Json :=
  tryCatch
    (do
      let response ← postMtop platform api
      answer (ensureOperationSuccess response operation)
      pure response)
    (personalWriteFailed operation)

structure ProductActionItemResult where
  itemId : String
  skipped : Bool := false
  message : String
  platformCode : String
  verified : Bool
  rawResponse : Json

def itemDownshelfApi : String := "mtop.taobao.idle.item.downshelf"

def itemDeleteApi : String := "com.taobao.idle.item.delete"

def itemDeletedMarker : String := "FAIL_BIZ_ITEM_DEL_NOT_FOUND"

def personalWebCode (code : String) : String := "personal_web:" ++ code

def offlinePersonalItem (platform : Platform) (itemId : String) :
    Exchange ProductActionItemResult := do
  let response ← personalWriteRequest platform itemDownshelfApi "下架商品"
  pure
    { itemId := strip itemId
      message := "平台已受理下架，等待商品同步校正"
      platformCode := personalWebCode (responseCode response)
      verified := false
      rawResponse := response }

/-- What `delete_personal_item` makes of a failure. -/
def deleteFailed (itemId : String) : Failure → Exchange ProductActionItemResult
  | .productOperation error =>
      if containsMarker (.obj error.rawResponse) [itemDeletedMarker] then
        pure
          { itemId := strip itemId
            skipped := true
            message := "平台确认商品已经删除"
            platformCode := personalWebCode itemDeletedMarker
            verified := true
            rawResponse := .obj error.rawResponse }
      else throw (.productOperation error)
  | failure => throw failure

def deletePersonalItem (platform : Platform) (itemId : String) :
    Exchange ProductActionItemResult :=
  tryCatch
    (do
      let response ← personalWriteRequest platform itemDeleteApi "删除商品"
      pure
        { itemId := strip itemId
          message := "平台已受理删除，等待商品同步校正"
          platformCode := personalWebCode (responseCode response)
          verified := false
          rawResponse := response })
    (deleteFailed itemId)

end XianyuAdmin.Mtop
