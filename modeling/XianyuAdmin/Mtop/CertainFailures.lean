import XianyuAdmin.Mtop.ProductPublisher
import XianyuAdmin.Mtop.SellerActions
import XianyuAdmin.Mtop.WriteAnswers

/-!
# Certain failures

Each call classifies the answers to its write in code of its own.  The calls are
truthful as far as the platform puts its verdict into the list `ret` and names a token
error in refusals only: the token error is looked for in the whole answer, and an
answer without a verdict counts as a refusal.
-/

namespace XianyuAdmin.Mtop

open XianyuAdmin.Python Procedure

variable {response : Json} {session : Session}

theorem ensureSuccess_of_isSuccess (hsuccess : isSuccess response = true) (operation : String) :
    ensureSuccess response operation = .ok () := by
  rw [ensureSuccess, if_pos hsuccess]

theorem exists_errorMessage (members : List (String × Json)) :
    ∃ message, errorMessage (.obj members) = some message := by
  unfold errorMessage
  dsimp only
  split <;> exact ⟨_, rfl⟩

theorem errorMessage_eq_none (hshape : ∀ members, response ≠ .obj members) :
    errorMessage response = none := by
  cases response with
  | obj members => exact absurd rfl (hshape members)
  | null | bool | int | float | str | arr => rfl

/-- What `_ensure_success` says of an answer that is no success. -/
theorem ensureSuccess_cases (hrefused : isSuccess response = false) (operation : String) :
    (∃ members message, response = .obj members ∧ errorMessage response = some message ∧
      ensureSuccess response operation =
        .error (.productPublish (rejection response operation message))) ∨
    ((∀ members, response ≠ .obj members) ∧
      ensureSuccess response operation = .error .unexpectedShape) := by
  have hnot : ¬isSuccess response = true := by simp [hrefused]
  unfold ensureSuccess
  rw [if_neg hnot]
  by_cases hshape : ∃ members, response = .obj members
  · obtain ⟨members, rfl⟩ := hshape
    obtain ⟨message, hmessage⟩ := exists_errorMessage members
    exact .inl ⟨members, message, rfl, hmessage, by rw [hmessage]⟩
  · have hother : ∀ members, response ≠ .obj members :=
      fun members hobj => hshape ⟨members, hobj⟩
    exact .inr ⟨hother, by rw [errorMessage_eq_none hother]⟩

theorem rawResponse_rejection (response : Json) (operation message : String) :
    (rejection response operation message).rawResponse = response.asObject := by
  unfold rejection
  split_ifs <;> rfl

theorem uncertain_rejection (response : Json) (operation message : String) :
    (rejection response operation message).uncertain = false := by
  unfold rejection
  split_ifs <;> rfl

/-- An order action takes a category error for an open result. -/
theorem isUncertain_fromPublishError (response : Json) (operation message label : String) :
    (fromPublishError (rejection response operation message) label).isUncertain =
      contains categoryError message := by
  unfold fromPublishError rejection Failure.isUncertain
  split_ifs with hcategory
  · simp [hcategory]
  · simp [hcategory]
  · simp [hcategory]
  · simp [hcategory]

section Publish

variable (library : PublishLibrary) (platform : Platform)

/-- The look at the published product returns and does not publish again. -/
theorem ends_verifyItem (itemId : String) (session : Session) :
    Ends (verifyItem library platform itemId) session
      (fun _ after => after.answersTo publishApi = session.answersTo publishApi)
      fun _ _ => False := by
  have hother : itemListApi ≠ publishApi := by decide
  unfold verifyItem
  rw [ends_tryCatch, ends_bind]
  refine (ends_postMtop_of_ne hother).mono (fun result after hafter => hafter) ?_
  rintro failure after ⟨hafter, hposting⟩
  cases failure with
  | request error => exact hafter
  | productPublish error => exact hafter
  | orderAction | productOperation | imageValidation | unexpectedShape => exact hposting.elim

theorem repeatedAfterFailure_congr {api : String} {session after : Session}
    (hsame : after.answersTo api = session.answersTo api) :
    RepeatedAfterFailure api after ↔ RepeatedAfterFailure api session := by
  unfold RepeatedAfterFailure
  rw [hsame]

/-- What `publish` does with the result of its POST, inside its handlers. -/
theorem reports_publish :
    Reports publishApi (fun _ => False)
      (fun value after =>
        Ends (publishAnswered library platform value) after
          (fun _ => RepeatedAfterFailure publishApi) fun failure last =>
            Ends (publishRaised failure) last (fun _ => RepeatedAfterFailure publishApi)
              (FailureTruthful publishApi))
      fun failure after =>
        Ends (publishFailed failure) after
          (fun value last =>
            Ends (publishAnswered library platform value) last
              (fun _ => RepeatedAfterFailure publishApi) fun failure last =>
                Ends (publishRaised failure) last (fun _ => RepeatedAfterFailure publishApi)
                  (FailureTruthful publishApi))
          fun failure last =>
            Ends (publishRaised failure) last (fun _ => RepeatedAfterFailure publishApi)
              (FailureTruthful publishApi) where
  answered := by
    intro value after
    unfold publishAnswered
    rw [ends_bind, ends_answer]
    cases hsuccess : isSuccess value with
    | true =>
        rw [ensureSuccess_of_isSuccess hsuccess]
        dsimp only
        split
        · simp [publishResultUnknown, publishRaised, FailureTruthful, Failure.isUncertain]
        · rw [ends_bind]
          simp only [ends_pure, Bool.true_eq_false, false_imp_iff, and_true]
          refine ((ends_verifyItem library platform _ after).congr
            (fun _ last hlast => repeatedAfterFailure_congr hlast)
            fun _ _ hnever => hnever.elim).trans ends_after
    | false =>
        rcases ensureSuccess_cases hsuccess "发布商品" with
          ⟨members, message, -, -, hrefused⟩ | ⟨-, hrefused⟩
        · rw [hrefused]
          simp [publishRaised, FailureTruthful, Failure.isUncertain, uncertain_rejection]
        · rw [hrefused]
          simp [publishRaised, FailureTruthful, Failure.isUncertain]
  request := by
    intro error after
    simp [publishFailed, publishResultUnknown, publishRaised, FailureTruthful,
      Failure.isUncertain]
  notJson := by
    intro after
    simp [publishFailed, notJsonError, publishResultUnknown, publishRaised, FailureTruthful,
      Failure.isUncertain]
  unsigned := by
    intro after
    simp [publishFailed, missingToken, publishRaised, FailureTruthful, Failure.isUncertain]

variable (answers : List Answer)

theorem keeps_postLocation (attempt left : ℕ) :
    Keeps (fun session => session.answersTo publishApi = answers)
      (postLocation platform attempt left) := by
  have hother : locationApi ≠ publishApi := by decide
  have hfailed : ∀ attempt failure,
      Keeps (fun session => session.answersTo publishApi = answers)
        (postLocation.locationFailed attempt failure) := by
    intro attempt failure
    unfold postLocation.locationFailed
    split <;> exact keeps_throw _
  induction left generalizing attempt with
  | zero =>
      unfold postLocation
      exact (keeps_postMtop hother answers).tryCatch (hfailed attempt)
  | succ left ih =>
      unfold postLocation
      refine (keeps_postMtop hother answers).tryCatch fun failure => ?_
      split
      · split
        · exact ih (attempt + 1)
        · exact hfailed attempt _
      · exact keeps_throw _

theorem keeps_centeredLocations (selected : Json) :
    Keeps (fun session => session.answersTo publishApi = answers)
      (centeredLocations library platform selected) := by
  have hother : locationApi ≠ publishApi := by decide
  unfold centeredLocations
  split
  · refine Keeps.tryCatch ?_ fun failure => ?_
    · refine (keeps_postMtop hother answers).bind fun response => ?_
      refine (keeps_answer _).bind fun _ => ?_
      exact (keeps_answer _).bind fun data => keeps_pure _
    · split
      · exact keeps_pure _
      · exact keeps_pure _
      · exact keeps_throw _
  · exact keeps_pure _

theorem keeps_resolveLocation (location : Option Json) :
    Keeps (fun session => session.answersTo publishApi = answers)
      (resolveLocation library platform location) := by
  cases location with
  | some location => exact keeps_answer _
  | none =>
      unfold resolveLocation getDefaultLocation
      refine (keeps_postLocation platform answers 1 2).bind fun response => ?_
      refine (keeps_answer _).bind fun _ => (keeps_answer _).bind fun data => ?_
      refine (keeps_centeredLocations library platform answers _).bind fun centered => ?_
      split
      · split
        · exact keeps_pure _
        · exact keeps_throw _
      · exact keeps_throw _

theorem keeps_uploadImages (images : List ImageTransfer) :
    Keeps (fun session => session.answersTo publishApi = answers) (uploadImages images) := by
  induction images with
  | nil => exact keeps_pure _
  | cons image images ih =>
      unfold uploadImages
      refine (keeps_answer _).bind fun _ => Keeps.bind (fun session hsession => ?_) fun _ => ?_
      · rw [ends_modify]
        exact hsession
      · exact (keeps_answer _).bind fun _ => ih

theorem keeps_preparePublish (request : ProductPublishRequest) :
    Keeps (fun session => session.answersTo publishApi = answers)
      (preparePublish library platform request) := by
  have hother : categoryApi ≠ publishApi := by decide
  unfold preparePublish
  refine (keeps_resolveLocation library platform answers _).bind fun _ => ?_
  refine (keeps_uploadImages answers _).bind fun _ => ?_
  refine (keeps_postMtop hother answers).bind fun response => ?_
  exact (keeps_answer _).bind fun _ => (keeps_answer _).bind fun _ => keeps_answer _

/-- `publish` in terms of the steps before the POST. -/
theorem truthful_publish_iff (request : ProductPublishRequest) {session : Session}
    (hfresh : session.answersTo publishApi = []) :
    Truthful publishApi (publish library platform request) session ↔
      Ends
        (do
          answer (validateRequest request)
          preparePublish library platform request)
        session
        (fun _ ready =>
          signToken ready.cookie ≠ "" → Settled (fun _ => False) platform publishApi)
        fun _ _ => True := by
  unfold Truthful publish
  simp only [ends_bind, ends_tryCatch, ends_answer]
  cases validateRequest request with
  | error failure => simp [failureTruthful_of_fresh hfresh]
  | ok _ =>
      refine (keeps_preparePublish library platform [] request session hfresh).congr
        (fun _ ready hready => ?_) fun failure after hafter => ?_
      · exact ends_write_iff (reports_publish library platform) hready
      · refine iff_of_true ?_ trivial
        have hall := failureTruthful_of_fresh hafter
        cases failure with
        | imageValidation message => exact hall _
        | request error => exact hall _
        | productPublish | orderAction | productOperation | unexpectedShape => exact hall _

end Publish

def OrderAction.Excuses (action : OrderAction) (response : Json) : Prop :=
  (∃ members, response = .obj members) ∧
    (action.isShipping = true ∧ containsMarker response deliveredMarkers = true ∨
      ∃ message, errorMessage response = some message ∧ contains categoryError message = true)

/-- What `execute` makes of a refusal. -/
theorem ends_executeFailed (action : OrderAction) (orderId : String)
    {members : List (String × Json)} {message : String}
    (hmessage : errorMessage (.obj members) = some message) (operation : String)
    (after : Session) :
    Ends
        (executeFailed action orderId
          (.productPublish (rejection (.obj members) operation message)))
        after (fun _ => RepeatedAfterFailure action.api) (FailureTruthful action.api) ↔
      RepeatedAfterFailure action.api after ∧
        (¬action.Excuses (.obj members) → EachFailed action.api after) := by
  have hraw : (rejection (.obj members) operation message).rawResponse = members :=
    rawResponse_rejection _ _ _
  have hexcuses : action.Excuses (.obj members) ↔
      action.isShipping = true ∧ containsMarker (.obj members) deliveredMarkers = true ∨
        contains categoryError message = true := by
    simp [OrderAction.Excuses, hmessage]
  unfold executeFailed
  dsimp only
  rw [hraw]
  by_cases hdelivered : action.isShipping = true ∧
      containsMarker (.obj members) deliveredMarkers = true
  · rw [if_pos (by simpa using hdelivered), ends_pure]
    simp [hexcuses, hdelivered]
  · rw [if_neg (by simpa using hdelivered), ends_throw, FailureTruthful,
      isUncertain_fromPublishError, hexcuses]
    simp [hdelivered]

theorem containsMarker_deliveredMarkers_empty :
    containsMarker (.obj []) deliveredMarkers = false := by
  decide

theorem reports_execute (action : OrderAction) (orderId : String) :
    Reports action.api action.Excuses
      (fun value after =>
        Ends
          (do
            answer (ensureSuccess value action.label)
            pure (executed action orderId value))
          after (fun _ => RepeatedAfterFailure action.api) fun failure last =>
            Ends (executeFailed action orderId failure) last
              (fun _ => RepeatedAfterFailure action.api) (FailureTruthful action.api))
      fun failure after =>
        Ends (executeFailed action orderId failure) after
          (fun _ => RepeatedAfterFailure action.api) (FailureTruthful action.api) where
  answered := by
    intro value after
    rw [ends_bind, ends_answer]
    cases hsuccess : isSuccess value with
    | true =>
        rw [ensureSuccess_of_isSuccess hsuccess]
        simp
    | false =>
        rcases ensureSuccess_cases hsuccess action.label with
          ⟨members, message, rfl, hmessage, hrefused⟩ | ⟨hshape, hrefused⟩
        · rw [hrefused]
          simpa using ends_executeFailed action orderId hmessage action.label after
        · have hunexcused : ¬action.Excuses value := fun hexcuses =>
            hexcuses.1.elim fun members hobj => hshape members hobj
          rw [hrefused]
          simp [executeFailed, FailureTruthful, Failure.isUncertain, hunexcused]
  request := by
    intro error after
    simp [executeFailed, FailureTruthful, Failure.isUncertain]
  notJson := by
    intro after
    simp [executeFailed, notJsonError, containsMarker_deliveredMarkers_empty, fromPublishError,
      FailureTruthful, Failure.isUncertain]
  unsigned := by
    intro after
    simp [executeFailed, missingToken, containsMarker_deliveredMarkers_empty, fromPublishError,
      FailureTruthful, Failure.isUncertain]

theorem truthful_executeAction_iff (platform : Platform) (action : OrderAction) (orderId : String)
    (hfresh : session.answersTo action.api = []) :
    Truthful action.api (executeAction platform action orderId) session ↔
      (signToken session.cookie ≠ "" → Settled action.Excuses platform action.api) := by
  unfold Truthful executeAction
  rw [ends_tryCatch, ends_bind]
  exact ends_write_iff (reports_execute action orderId) hfresh

theorem ensureOperationSuccess_cases (hrefused : isSuccess response = false) (operation : String) :
    (∃ members error, response = .obj members ∧ error.uncertain = false ∧
      error.rawResponse = members ∧
      ensureOperationSuccess response operation = .error (.productOperation error)) ∨
    ((∀ members, response ≠ .obj members) ∧
      ensureOperationSuccess response operation = .error .unexpectedShape) := by
  unfold ensureOperationSuccess
  rcases ensureSuccess_cases hrefused operation with
    ⟨members, message, rfl, -, hrefusal⟩ | ⟨hshape, hrefusal⟩
  · rw [hrefusal]
    refine .inl ⟨members, _, rfl, ?_, ?_, rfl⟩
    · exact uncertain_rejection _ _ _
    · rfl
  · rw [hrefusal]
    exact .inr ⟨hshape, rfl⟩

/-- What `_personal_write_request` makes of its POST, for a caller that treats the
excused refusals as a success. -/
theorem reports_personalWriteRequest {api : String} (operation : String)
    {excuses : Json → Prop} {raises : Failure → Session → Prop}
    (hobject : ∀ value, excuses value → ∃ members, value = .obj members)
    (hempty : ¬excuses (.obj []))
    (hoperation : ∀ error after, raises (.productOperation error) after ↔
      RepeatedAfterFailure api after ∧
        (error.uncertain = false → ¬excuses (.obj error.rawResponse) → EachFailed api after))
    (hshape : ∀ after, raises .unexpectedShape after ↔
      RepeatedAfterFailure api after ∧ EachFailed api after) :
    Reports api excuses
      (fun value after =>
        Ends
          (do
            answer (ensureOperationSuccess value operation)
            pure value)
          after (fun _ => RepeatedAfterFailure api) fun failure last =>
            Ends (personalWriteFailed operation failure) last
              (fun _ => RepeatedAfterFailure api) raises)
      fun failure after =>
        Ends (personalWriteFailed operation failure) after
          (fun _ => RepeatedAfterFailure api) raises where
  answered := by
    intro value after
    rw [ends_bind, ends_answer]
    cases hsuccess : isSuccess value with
    | true => simp [ensureOperationSuccess, ensureSuccess_of_isSuccess hsuccess]
    | false =>
        rcases ensureOperationSuccess_cases hsuccess operation with
          ⟨members, error, rfl, hcertain, hraw, hrefused⟩ | ⟨hother, hrefused⟩
        · rw [hrefused]
          simp [personalWriteFailed, hoperation, hcertain, hraw]
        · have hunexcused : ¬excuses value := fun hexcuses =>
            (hobject value hexcuses).elim fun members hobj => hother members hobj
          rw [hrefused]
          simp [personalWriteFailed, hshape, hunexcused]
  request := by
    intro error after
    simp [personalWriteFailed, hoperation]
  notJson := by
    intro after
    simp [personalWriteFailed, notJsonError, hoperation]
  unsigned := by
    intro after
    simp [personalWriteFailed, missingToken, hoperation, hempty]

theorem truthful_offlinePersonalItem_iff (platform : Platform) (itemId : String)
    (hfresh : session.answersTo itemDownshelfApi = []) :
    Truthful itemDownshelfApi (offlinePersonalItem platform itemId) session ↔
      (signToken session.cookie ≠ "" →
        Settled (fun _ => False) platform itemDownshelfApi) := by
  unfold Truthful offlinePersonalItem personalWriteRequest
  rw [ends_bind, ends_tryCatch, ends_bind]
  refine ends_write_iff (reports_personalWriteRequest "下架商品" ?_ ?_ ?_ ?_) hfresh
  · exact fun _ hnever => hnever.elim
  · exact fun hnever => hnever
  · intro error after
    simp [FailureTruthful, Failure.isUncertain]
  · intro after
    simp [FailureTruthful, Failure.isUncertain]

def DeletionExcuses (response : Json) : Prop :=
  (∃ members, response = .obj members) ∧ containsMarker response [itemDeletedMarker] = true

theorem containsMarker_itemDeletedMarker_empty :
    containsMarker (.obj []) [itemDeletedMarker] = false := by
  decide

theorem truthful_deletePersonalItem_iff (platform : Platform) (itemId : String)
    (hfresh : session.answersTo itemDeleteApi = []) :
    Truthful itemDeleteApi (deletePersonalItem platform itemId) session ↔
      (signToken session.cookie ≠ "" → Settled DeletionExcuses platform itemDeleteApi) := by
  unfold Truthful deletePersonalItem personalWriteRequest
  rw [ends_tryCatch, ends_bind, ends_tryCatch, ends_bind]
  refine ends_write_iff (reports_personalWriteRequest "删除商品" ?_ ?_ ?_ ?_) hfresh
  · exact fun _ hexcuses => hexcuses.1
  · simp [DeletionExcuses, containsMarker_itemDeletedMarker_empty]
  · intro error after
    unfold deleteFailed
    dsimp only
    by_cases hdeleted : containsMarker (.obj error.rawResponse) [itemDeletedMarker] = true
    · rw [if_pos hdeleted, ends_pure]
      simp [DeletionExcuses, hdeleted]
    · rw [if_neg hdeleted, ends_throw]
      simp [DeletionExcuses, hdeleted, FailureTruthful, Failure.isUncertain]
  · intro after
    simp [deleteFailed, FailureTruthful, Failure.isUncertain]

inductive WriteCall
  | publish (request : ProductPublishRequest)
  | execute (request : OrderActionRequest)
  | offlinePersonalItem (itemId : String)
  | deletePersonalItem (itemId : String)

def newSession (cookie : String) : Session where
  cookie := cookie

namespace WriteCall

def action? (request : OrderActionRequest) : Option OrderAction :=
  OrderAction.ofName? (strip request.action)

def api : WriteCall → String
  | publish _ => publishApi
  | execute request => (action? request).elim "" OrderAction.api
  | offlinePersonalItem _ => itemDownshelfApi
  | deletePersonalItem _ => itemDeleteApi

/-- The answers without a verdict that the call does not report as a certain failure. -/
def Excuses : WriteCall → Json → Prop
  | publish _, _ | offlinePersonalItem _, _ => False
  | execute request, response => ∃ action, action? request = some action ∧ action.Excuses response
  | deletePersonalItem _, response => DeletionExcuses response

def beforeWrite (library : PublishLibrary) (platform : Platform) : WriteCall → Exchange Unit
  | publish request => do
      answer (validateRequest request)
      preparePublish library platform request
  | execute request => do
      let _ ← answer (checkedAction request)
      pure ()
  | offlinePersonalItem _ | deletePersonalItem _ => pure ()

def IsTruthful (library : PublishLibrary) (platform : Platform) (cookie : String)
    (call : WriteCall) : Prop :=
  match call with
  | publish request =>
      Truthful call.api (Mtop.publish library platform request) (newSession cookie)
  | execute request => Truthful call.api (Mtop.execute platform request) (newSession cookie)
  | offlinePersonalItem itemId =>
      Truthful call.api (Mtop.offlinePersonalItem platform itemId) (newSession cookie)
  | deletePersonalItem itemId =>
      Truthful call.api (Mtop.deletePersonalItem platform itemId) (newSession cookie)

def IsAnsweredWell (library : PublishLibrary) (platform : Platform) (cookie : String)
    (call : WriteCall) : Prop :=
  Ends (call.beforeWrite library platform) (newSession cookie)
    (fun _ ready => signToken ready.cookie ≠ "" → Settled call.Excuses platform call.api)
    fun _ _ => True

end WriteCall

theorem action?_of_checkedAction {request : OrderActionRequest} {checked : OrderAction × String}
    (hchecked : checkedAction request = .ok checked) :
    WriteCall.action? request = some checked.1 := by
  unfold WriteCall.action?
  unfold checkedAction at hchecked
  cases horder : required request.orderId "订单号" with
  | error failure =>
      rw [horder] at hchecked
      cases hchecked
  | ok orderId =>
      rw [horder] at hchecked
      cases haction : OrderAction.ofName? (strip request.action) with
      | none =>
          simp only [haction] at hchecked
          cases hchecked
      | some action =>
          simp only [haction] at hchecked
          cases hfields : (action.required request).mapM fun field => required field.1 field.2 with
          | error failure =>
              rw [hfields] at hchecked
              cases hchecked
          | ok fields =>
              rw [hfields] at hchecked
              cases hchecked
              rfl

theorem truthful_execute_iff (library : PublishLibrary) (platform : Platform) (cookie : String)
    (request : OrderActionRequest) :
    (WriteCall.execute request).IsTruthful library platform cookie ↔
      (WriteCall.execute request).IsAnsweredWell library platform cookie := by
  have hfresh : ∀ api, (newSession cookie).answersTo api = [] := fun _ => rfl
  unfold WriteCall.IsTruthful WriteCall.IsAnsweredWell WriteCall.beforeWrite Truthful execute
  simp only [ends_bind, ends_answer, ends_pure]
  cases hchecked : checkedAction request with
  | error failure =>
      exact iff_of_true (failureTruthful_of_fresh (hfresh _) failure) trivial
  | ok checked =>
      have haction := action?_of_checkedAction hchecked
      have hexcuses : (WriteCall.execute request).Excuses = checked.1.Excuses := by
        funext response
        simp [WriteCall.Excuses, haction]
      simp only [WriteCall.api, hexcuses, haction, Option.elim_some]
      exact truthful_executeAction_iff platform checked.1 checked.2 (hfresh _)

/-- A call repeats its write only after a definite failure and reports no failure as
certain that is not, exactly when the platform names a token error in definite failures
only and gives a verdict otherwise. -/
theorem isTruthful_iff (library : PublishLibrary) (platform : Platform) (cookie : String)
    (call : WriteCall) :
    call.IsTruthful library platform cookie ↔ call.IsAnsweredWell library platform cookie := by
  cases call with
  | publish request => exact truthful_publish_iff library platform request rfl
  | execute request => exact truthful_execute_iff library platform cookie request
  | offlinePersonalItem itemId => exact truthful_offlinePersonalItem_iff platform itemId rfl
  | deletePersonalItem itemId => exact truthful_deletePersonalItem_iff platform itemId rfl

def quotingAnswer : Json :=
  .obj [("ret", .arr [.str "SUCCESS::调用成功"]),
    ("data", .obj [("feedback", .str "FAIL_SYS_SESSION_EXPIRED")])]

def quotingPlatform : Platform := fun _ number =>
  { answer :=
      if number = 0 then .json quotingAnswer
      else .json (.obj [("ret", .arr [.str "FAIL_BIZ_RATED::已评价"])])
    cookie := "token_1" }

def quotedRequest : OrderActionRequest where
  action := "rate_buyer"
  orderId := "1001"
  feedback := "FAIL_SYS_SESSION_EXPIRED"

def asciiLibrary : PublishLibrary where
  isFloat _ := true
  isFar _ _ := false
  isDigit := Char.isDigit

theorem checkedAction_quotedRequest :
    checkedAction quotedRequest = .ok (.rateBuyer, "1001") := by
  rfl

theorem containsMarker_quotingAnswer :
    containsMarker quotingAnswer tokenErrorMarkers = true := by
  decide +kernel

theorem not_definitelyFailed_quotingAnswer : ¬(Answer.json quotingAnswer).DefinitelyFailed := by
  rintro ⟨ret, hret, hfailed⟩
  cases hret
  revert hfailed
  decide

theorem not_isTruthful_of_quoting :
    ¬(WriteCall.execute quotedRequest).IsTruthful asciiLibrary quotingPlatform "token_1" := by
  rw [truthful_execute_iff, WriteCall.IsAnsweredWell, WriteCall.beforeWrite, ends_bind,
    ends_answer, checkedAction_quotedRequest]
  intro hsettled
  have hsigned : signToken "token_1" ≠ "" := by decide
  have hanswers := hsettled hsigned
  unfold Settled at hanswers
  have htokenError : (quotingPlatform (WriteCall.execute quotedRequest).api 0).answer.isTokenError =
      true := containsMarker_quotingAnswer
  rw [if_pos htokenError] at hanswers
  exact not_definitelyFailed_quotingAnswer hanswers.1

end XianyuAdmin.Mtop
