import XianyuAdmin.Products.PublishOutcome

/-!
# Product operation runs

A run syncs the products of an account from the platform, or it polishes, takes offline
or deletes products one by one.  Each result is recorded as an item of the run, and the
run is finished with a summary that counts the results.  How the platform's client and
the merge of its cookies behave is given from outside.
-/

namespace XianyuAdmin.Products

open XianyuAdmin.Cookies (CookieMap)
open XianyuAdmin.Orders (Interruption)
open XianyuAdmin.Procedure

inductive RunOperation
  | sync
  | polish
  | offline
  | delete
  deriving DecidableEq, Repr

/-- `ProductOperationStatus` -/
inductive RunStatus
  | pending
  | running
  | success
  | partialSuccess
  | failed
  | verificationRequired
  deriving DecidableEq, Repr

/-- A row of `xianyu_product_operation_runs`. -/
structure OperationRun where
  runId : String
  accountId : String
  operation : RunOperation
  status : RunStatus := .pending
  fullSync : Bool := false
  requestedItemIds : List String := []
  totalCount : ℕ := 0
  successCount : ℕ := 0
  failedCount : ℕ := 0
  skippedCount : ℕ := 0
  error : Option String := none
  startedAt : Option ℕ := none
  finishedAt : Option ℕ := none
  updatedAt : ℕ := 0

inductive ItemStatus
  | success
  | skipped
  | failed
  | verificationRequired
  deriving DecidableEq, Repr

/-- A row of `xianyu_product_operation_items`. -/
structure OperationItem where
  runId : String
  itemId : String
  status : ItemStatus
  message : Option String
  platformCode : Option String

inductive PlatformStatus
  | selling
  | offline
  | deleted
  | notSelling
  deriving DecidableEq, Repr

/-- A row of `xianyu_product_items`. -/
structure ProductItem where
  accountId : String
  itemId : String
  title : String := ""
  price : String := ""
  categoryId : Option String := none
  coverUrl : Option String := none
  detailUrl : Option String := none
  platformItemStatus : Option String := none
  wantCount : Option ℤ := none
  wantText : Option String := none
  platformStatus : PlatformStatus := .selling
  syncState : String := "current"
  missingSyncCount : ℕ := 0
  lastSeenAt : Option ℕ := none
  lastSyncedAt : Option ℕ := none
  lastPolishedAt : Option ℕ := none
  lastPolishedOn : Option String := none
  publishedAt : Option ℕ := none
  publishedAtSource : String := "unknown"
  rawData : Option Json := none
  createdAt : ℕ := 0
  updatedAt : ℕ := 0

abbrev ProductTable := Table ProductItem fun product => [(product.accountId, product.itemId)]

structure OperationDatabase where
  accounts : Table Account fun account => [account.accountId]
  runs : Table OperationRun fun run => [run.runId]
  items : List OperationItem
  products : ProductTable

def OperationRun.start (run : OperationRun) (now : ℕ) : OperationRun :=
  if run.status = .pending then
    { run with status := .running, startedAt := some now, updatedAt := now }
  else run

theorem runId_start (run : OperationRun) (now : ℕ) : (run.start now).runId = run.runId := by
  unfold OperationRun.start
  split <;> rfl

def startRun (database : OperationDatabase) (now : ℕ) (runId : String) :
    Option OperationRun × OperationDatabase :=
  ((database.runs.lookup runId).map fun run => run.start now,
    { database with
      runs := database.runs.map
        (fun run => if run.runId = runId then run.start now else run)
        (by intro run; split <;> simp [runId_start]) })

structure Summary where
  status : RunStatus
  total : ℕ
  success : ℕ
  failed : ℕ
  skipped : ℕ
  error : Option String

def OperationRun.finish (run : OperationRun) (now : ℕ) (summary : Summary) : OperationRun :=
  { run with
    status := summary.status
    totalCount := summary.total
    successCount := summary.success
    failedCount := summary.failed
    skippedCount := summary.skipped
    error := summary.error
    finishedAt := some now
    updatedAt := now }

def finishRun (database : OperationDatabase) (now : ℕ) (runId : String) (summary : Summary) :
    Option OperationRun × OperationDatabase :=
  ((database.runs.lookup runId).map fun run => run.finish now summary,
    { database with
      runs := database.runs.map
        (fun run => if run.runId = runId then run.finish now summary else run)
        (by intro run; split <;> rfl) })

def addRunItem (item : OperationItem) (database : OperationDatabase) : OperationDatabase :=
  { database with items := database.items ++ [item] }

def updateProduct (accountId itemId : String) (update : ProductItem → ProductItem)
    (hkeys : ∀ product, ((update product).accountId, (update product).itemId) =
      (product.accountId, product.itemId))
    (database : OperationDatabase) : OperationDatabase :=
  { database with
    products := database.products.map
      (fun product =>
        if product.accountId = accountId ∧ product.itemId = itemId then update product
        else product)
      (by intro product; split <;> simp [hkeys]) }

def markItemStatus (now : ℕ) (accountId itemId : String) (status : PlatformStatus)
    (pendingConfirmation : Bool) : OperationDatabase → OperationDatabase :=
  updateProduct accountId itemId
    (fun product =>
      { product with
        platformStatus := status
        syncState := if pendingConfirmation then "pending_confirmation" else "current"
        missingSyncCount := 0
        updatedAt := now })
    fun _ => rfl

/-- `_mark_polished_sync`; `date` is the day of `now` in Shanghai. -/
def markPolished (now : ℕ) (date accountId itemId : String) :
    OperationDatabase → OperationDatabase :=
  updateProduct accountId itemId
    (fun product =>
      { product with
        lastPolishedAt := some now
        lastPolishedOn := some date
        updatedAt := now })
    fun _ => rfl

/-- The latest products come first; PostgreSQL puts those that were never seen before
them. -/
def seenBefore : Option ℕ → Option ℕ → Bool
  | none, _ => true
  | some _, none => false
  | some left, some right => right ≤ left

def operationCandidates (database : OperationDatabase) (accountId : String)
    (itemIds : List String) (allSelling : Bool) : List ProductItem :=
  (database.products.rows.filter fun product =>
      product.accountId = accountId &&
        if allSelling then product.platformStatus = .selling
        else product.itemId ∈ itemIds).insertionSort
    fun left right => seenBefore left.lastSeenAt right.lastSeenAt

/-- `ProductOperationError` -/
structure OperationError where
  kind : String
  text : String
  retryable : Bool := false
  uncertain : Bool := false
  verificationRequired : Bool := false
  cookieUpdates : CookieMap := Dict.empty

inductive RunFailure
  | productOperation (error : OperationError)
  | interrupted (interruption : Interruption)

/-- A `ProductPublishError` of the merge is no `ProductOperationError`. -/
def MergeFailure.runFailure : MergeFailure → RunFailure
  | .cookieConflict text => .interrupted (.exception "ProductPublishError" text)
  | .interrupted interruption => .interrupted interruption

structure ActionItemResult where
  itemId : String
  success : Bool
  skipped : Bool := false
  message : String := ""
  channel : String := ""
  platformCode : Option String := none
  verified : Bool := false

structure ManagedProduct where
  itemId : String
  title : String := ""
  price : String := ""
  categoryId : String := ""
  coverUrl : String := ""
  detailUrl : String := ""
  platformItemStatus : String := ""
  wantCount : Option ℤ := none
  wantText : Option String := none
  rawData : List (String × Json) := []

structure ProductListResult where
  items : List ManagedProduct
  complete : Bool

/-- What `execute_run` calls besides the repository, and the clock. -/
structure RunCollaborators where
  locked : Except Interruption Unit
  /-- `operations_factory`, which is not awaited. -/
  client : Except (String × String) Unit
  listSellingItems : Except RunFailure ProductListResult
  /-- `polish_item`, `offline_personal_item` or `delete_personal_item`. -/
  callItem : String → Except RunFailure ActionItemResult
  /-- `client.cookie_updates()` -/
  cookieUpdates : CookieMap
  merged : Except MergeFailure Bool
  mergedError : Except MergeFailure Bool
  /-- What `apply_sync` makes of the stored products. -/
  applySync : String → List ManagedProduct → Bool → Bool → ProductTable → ProductTable
  now : ℕ
  shanghaiDate : ℕ → String

/-- What the loops count. -/
structure Tally where
  success : ℕ := 0
  failed : ℕ := 0
  skipped : ℕ := 0
  uncertain : Bool := false
  verificationRequired : Bool := false
  error : Option String := none

structure ItemHandling where
  skips : ProductItem → Bool
  /-- The write after a success. -/
  mark : String → ActionItemResult → OperationDatabase → OperationDatabase
  errorStatus : OperationError → ItemStatus
  errorCode : OperationError → String
  noteError : OperationError → Tally → Tally
  stops : OperationError → Bool
  mark_runs : ∀ itemId action database,
    (mark itemId action database).runs = database.runs
  mark_items : ∀ itemId action database,
    (mark itemId action database).items = database.items
  errorStatus_ne_success : ∀ error, errorStatus error ≠ .success
  noteError_counts : ∀ error tally, (noteError error tally).success = tally.success ∧
    (noteError error tally).failed = tally.failed ∧
    (noteError error tally).skipped = tally.skipped

/-- The answer of `execute_run`. -/
structure RunAnswer where
  ok : Bool
  uncertain : Option Bool := none
  verificationRequired : Option Bool := none
  cookieChanged : Option Bool := none
  run : Option OperationRun

abbrev RunProcedure := Procedure OperationDatabase RunFailure

section Service

variable (collaborators : RunCollaborators)

def raiseRunError {Value : Type} (text : String) : RunProcedure Value :=
  throw (.interrupted (.exception "ValueError" text))

/-- `repository.finish_run` -/
def awaitFinishRun (runId : String) (summary : Summary) :
    RunProcedure (Option OperationRun) := do
  let database ← get
  let finished := finishRun database collaborators.now runId summary
  set finished.2
  pure finished.1

def actionItem (run : OperationRun) (action : ActionItemResult) : OperationItem where
  runId := run.runId
  itemId := action.itemId
  status := if action.skipped then .skipped else if action.success then .success else .failed
  message := if action.message = "" then none else some action.message
  platformCode :=
    Python.orElse action.platformCode
      (if action.channel = "" then none else some action.channel)

def errorItem (run : OperationRun) (handling : ItemHandling) (item : ProductItem)
    (error : OperationError) : OperationItem where
  runId := run.runId
  itemId := item.itemId
  status := handling.errorStatus error
  message := some error.text
  platformCode := some (handling.errorCode error)

def skippedItem (run : OperationRun) (item : ProductItem) : OperationItem where
  runId := run.runId
  itemId := item.itemId
  status := .skipped
  message := some "今日已擦亮或商品不在售"
  platformCode := none

def recordAction (run : OperationRun) (action : ActionItemResult) : RunProcedure Unit :=
  modify (addRunItem (actionItem run action))

def Tally.count (tally : Tally) (action : ActionItemResult) : Tally :=
  if action.success then
    if action.skipped then { tally with skipped := tally.skipped + 1 }
    else { tally with success := tally.success + 1 }
  else { tally with failed := tally.failed + 1 }

def Tally.countFailed (tally : Tally) : Tally := { tally with failed := tally.failed + 1 }

def processItem (run : OperationRun) (handling : ItemHandling) (item : ProductItem)
    (tally : Tally) : RunProcedure (Tally × Bool) :=
  tryCatch
    (do
      let action ← answer (collaborators.callItem item.itemId)
      recordAction run action
      if action.success then modify (handling.mark item.itemId action)
      pure (tally.count action, true))
    fun
      | .productOperation error => do
          modify (addRunItem (errorItem run handling item error))
          pure (handling.noteError error tally.countFailed, !handling.stops error)
      | failure => throw failure

/-- The loops over the candidates. -/
def processItems (run : OperationRun) (handling : ItemHandling) :
    List ProductItem → Tally → RunProcedure Tally
  | [], tally => pure tally
  | item :: rest, tally =>
      if handling.skips item then do
        modify (addRunItem (skippedItem run item))
        processItems run handling rest { tally with skipped := tally.skipped + 1 }
      else do
        let (tally, goesOn) ← processItem collaborators run handling item tally
        if goesOn then processItems run handling rest tally else pure tally

def abortKinds : List String := ["auth", "risk_control", "cookie_conflict"]

/-- What `_execute_polish` does with an item. -/
def polishHandling (run : OperationRun) : ItemHandling where
  skips := fun item =>
    item.platformStatus ≠ .selling ||
      item.lastPolishedOn = some (collaborators.shanghaiDate collaborators.now)
  mark := fun itemId _ =>
    markPolished collaborators.now (collaborators.shanghaiDate collaborators.now)
      run.accountId itemId
  errorStatus := fun _ => .failed
  errorCode := fun error => error.kind
  noteError := fun error tally =>
    if error.kind ∈ abortKinds then { tally with error := some error.text } else tally
  stops := fun error => error.kind ∈ abortKinds
  mark_runs := fun _ _ _ => rfl
  mark_items := fun _ _ _ => rfl
  errorStatus_ne_success := fun _ => ItemStatus.noConfusion
  noteError_counts := by
    intro error tally
    split <;> exact ⟨rfl, rfl, rfl⟩

/-- What `_execute_offline` and `_execute_delete` do with an item; `marked` is the product
that the second write is about. -/
def removalHandling (run : OperationRun) (status : PlatformStatus)
    (marked : String → ActionItemResult → String) : ItemHandling where
  skips := fun _ => false
  mark := fun itemId action =>
    markItemStatus collaborators.now run.accountId (marked itemId action) status
      (!action.verified)
  errorStatus := fun error =>
    if error.uncertain || error.verificationRequired then .verificationRequired else .failed
  errorCode := fun error => "personal_web:" ++ error.kind
  noteError := fun error tally =>
    { tally with
      uncertain := tally.uncertain || error.uncertain
      verificationRequired := tally.verificationRequired || error.verificationRequired
      error := some error.text }
  stops := fun error =>
    error.uncertain || error.verificationRequired || error.retryable ||
      error.kind ∈ abortKinds
  mark_runs := fun _ _ _ => rfl
  mark_items := fun _ _ _ => rfl
  errorStatus_ne_success := by
    intro error
    split <;> exact ItemStatus.noConfusion
  noteError_counts := fun _ _ => ⟨rfl, rfl, rfl⟩

def offlineHandling (run : OperationRun) : ItemHandling :=
  removalHandling collaborators run .offline fun _ action => action.itemId

def deleteHandling (run : OperationRun) : ItemHandling :=
  removalHandling collaborators run .deleted fun itemId _ => itemId

/-- `_execute_sync` -/
def executeSync (run : OperationRun) : RunProcedure RunAnswer := do
  let result ← answer collaborators.listSellingItems
  modify fun database =>
    { database with
      products := collaborators.applySync run.accountId result.items run.fullSync
        result.complete database.products }
  let finished ← awaitFinishRun collaborators run.runId
    { status := .success
      total := result.items.length
      success := result.items.length
      failed := 0
      skipped := 0
      error := none }
  pure { ok := true, run := finished }

/-- The summary of `_finish_action_run`. -/
def actionSummary (total : ℕ) (tally : Tally) : Summary where
  status :=
    if tally.success ≠ 0 && tally.failed ≠ 0 then .partialSuccess
    else if tally.failed ≠ 0 && tally.success = 0 && tally.skipped = 0 then .failed
    else .success
  total := total
  success := tally.success
  failed := tally.failed
  skipped := tally.skipped
  error := tally.error

def candidatesOf (run : OperationRun) (database : OperationDatabase) : List ProductItem :=
  operationCandidates database run.accountId run.requestedItemIds
    (run.operation = .polish && run.requestedItemIds.isEmpty)

def executePolish (run : OperationRun) : RunProcedure RunAnswer := do
  let database ← get
  let candidates := candidatesOf run database
  let tally ← processItems collaborators run (polishHandling collaborators run) candidates {}
  let summary := actionSummary candidates.length tally
  let finished ← awaitFinishRun collaborators run.runId summary
  pure
    { ok := summary.status = .success || summary.status = .partialSuccess
      run := finished }

/-- The summary at the end of `_execute_offline` and `_execute_delete`: what was not
reached counts as skipped. -/
def removalSummary (total : ℕ) (tally : Tally) : Summary where
  status :=
    if tally.uncertain || tally.verificationRequired then .verificationRequired
    else if tally.success ≠ 0 && tally.failed ≠ 0 then .partialSuccess
    else if tally.failed = 0 then .success
    else .failed
  total := total
  success := tally.success
  failed := tally.failed
  skipped := max tally.skipped (total - tally.success - tally.failed)
  error := tally.error

/-- The end of `_execute_offline` and `_execute_delete`. -/
def finishRemoval (run : OperationRun) (total : ℕ) (tally : Tally) :
    RunProcedure RunAnswer := do
  let summary := removalSummary total tally
  let finished ← awaitFinishRun collaborators run.runId summary
  pure
    { ok := summary.status = .success || summary.status = .partialSuccess
      uncertain := some tally.uncertain
      verificationRequired := some tally.verificationRequired
      run := finished }

def executeOffline (run : OperationRun) : RunProcedure RunAnswer := do
  let database ← get
  let candidates := candidatesOf run database
  let selling := candidates.filter fun item => item.platformStatus = .selling
  let tally ← processItems collaborators run (offlineHandling collaborators run) selling
    { skipped := candidates.length - selling.length }
  finishRemoval collaborators run candidates.length tally

def executeDelete (run : OperationRun) : RunProcedure RunAnswer := do
  let database ← get
  let candidates := candidatesOf run database
  let tally ← processItems collaborators run (deleteHandling collaborators run) candidates {}
  finishRemoval collaborators run candidates.length tally

def executeOperation (run : OperationRun) : RunProcedure RunAnswer :=
  match run.operation with
  | .sync => executeSync collaborators run
  | .polish => executePolish collaborators run
  | .offline => executeOffline collaborators run
  | .delete => executeDelete collaborators run

/-- The body of the `try` statement. -/
def performRun (run : OperationRun) : RunProcedure RunAnswer := do
  let result ← executeOperation collaborators run
  let cookieChanged ← mergeAccountCookieUpdates MergeFailure.runFailure
    collaborators.cookieUpdates collaborators.merged
  pure { result with cookieChanged := some cookieChanged }

def failureSummary (run : OperationRun) (status : RunStatus) (text : String) : Summary where
  status := status
  total := run.requestedItemIds.length
  success := 0
  failed := run.requestedItemIds.length
  skipped := 0
  error := some text

/-- `exc.cookie_updates or client.cookie_updates()` -/
def errorUpdates (error : OperationError) : CookieMap :=
  if error.cookieUpdates.entries = [] then collaborators.cookieUpdates
  else error.cookieUpdates

/-- The two `except` clauses. -/
def recordRunFailure (run : OperationRun) : RunFailure → RunProcedure RunAnswer
  | .productOperation error => do
      let cookieChanged ← mergeAccountCookieUpdates MergeFailure.runFailure
        (errorUpdates collaborators error) collaborators.mergedError
      let finished ← awaitFinishRun collaborators run.runId
        (failureSummary run
          (if error.uncertain || error.verificationRequired then .verificationRequired
            else .failed)
          error.text)
      pure
        { ok := false
          uncertain := some error.uncertain
          verificationRequired := some error.verificationRequired
          cookieChanged := some cookieChanged
          run := finished }
  | .interrupted (.exception className text) => do
      let _ ← awaitFinishRun collaborators run.runId (failureSummary run .failed text)
      throw (.interrupted (.exception className text))
  | .interrupted .cancelled => throw (.interrupted .cancelled)

def executeRun (runId : String) : RunProcedure RunAnswer := do
  let database ← get
  let started := startRun database collaborators.now runId
  match started.1 with
  | none => raiseRunError "product operation run not found"
  | some run => do
      set started.2
      if run.status ≠ .running && run.status ≠ .pending then
        pure
          { ok := run.status = .success || run.status = .partialSuccess
            run := some run }
      else if (database.accounts.lookup run.accountId).isNone then
        raiseRunError "account not found"
      else do
        answer (collaborators.locked.mapError .interrupted)
        answer (collaborators.client.mapError fun error =>
          .interrupted (.exception error.1 error.2))
        tryCatch (performRun collaborators run) (recordRunFailure collaborators run)

end Service

end XianyuAdmin.Products
