import XianyuAdmin.Core.Lineage
import XianyuAdmin.Products.ProductRecords

/-!
# Publish tasks

A publish task is created from a draft or directly from a form; a failed task may
be retried by a new task that replaces it in the catalog; a finished one may be
removed from the catalog.  Every call is one transaction: it returns an answer
with the database it leaves, or fails and leaves none.
-/

namespace XianyuAdmin.Products

open XianyuAdmin.Python

/-- `ProductPublishTaskCreatePayload`. -/
structure TaskCreatePayload where
  draftId : String
  mode : String := "manual_export"
  idempotencyKey : Option String := none

/-- `ProductPublishJobCreatePayload`; its validator accepts only references to
assets. -/
structure JobCreatePayload where
  title : String := ""
  description : String := ""
  price : String := ""
  originalPrice : Option String := none
  stock : ℕ := 1
  categoryHint : Option String := none
  images : List String
  deliveryChoice : String := "free_shipping"
  postPrice : Option String := none
  canSelfPickup : Bool := false
  locationMode : LocationMode := .accountDefault
  location : Json := .null
  locationGroupId : Option String := none
  uploadSessionId : Option String := none
  idempotencyKey : String
  images_are_assets : ∀ imageRef ∈ images, (assetIdOf imageRef).isSome

/-- What a call draws: new identifiers, and a number that stands for
`secrets.choice`. -/
structure Drawn where
  taskId : Identifier
  usageId : Identifier
  uniqueCode : String
  pick : ℕ

def updateTask (database : Database) (taskId : Identifier)
    (update : PublishTask → PublishTask)
    (hkeys : ∀ task, taskKeys (update task) = taskKeys task) : Database :=
  { database with
    tasks := database.tasks.map
      (fun task => if task.taskId = taskId then update task else task)
      (by intro task; split <;> simp [hkeys]) }

def insertTask (database : Database) (task : PublishTask) : Except Failure Database :=
  (orIntegrityError (database.tasks.insert? task)).map fun tasks =>
    { database with tasks := tasks }

def ImageAsset.retain (asset : ImageAsset) (now : ℕ) : ImageAsset :=
  let retainUntil := now + days 30
  { asset with
    state := .retained
    lastReferencedAt := some now
    expiresAt := some (max (asset.expiresAt.getD retainUntil) retainUntil) }

def retainAsset (now : ℕ) (taskId : Identifier) (ordinal : ℕ) (assetId : String)
    (database : Database) : Except Failure Database :=
  (orIntegrityError
    (database.taskAssets.insert?
      { taskId := taskId
        assetId := assetId
        ordinal := ordinal
        retainUntil := some (now + days 30)
        createdAt := now })).map fun taskAssets =>
    { database with
      taskAssets := taskAssets
      assets := database.assets.map
        (fun asset => if asset.assetId = assetId then asset.retain now else asset)
        (by intro asset; split <;> rfl) }

def retainAssets (now : ℕ) (taskId : Identifier) :
    List (String × ℕ) → Database → Except Failure Database
  | [], database => .ok database
  | (assetId, ordinal) :: rest, database =>
      (retainAsset now taskId ordinal assetId database).bind
        (retainAssets now taskId rest)

def retainImages (now : ℕ) (accountId : String) (taskId : Identifier) :
    List (String × ℕ) → Database → Except Failure Database
  | [], database => .ok database
  | (imageRef, ordinal) :: rest, database =>
      match assetIdOf imageRef with
      | none => retainImages now accountId taskId rest database
      | some assetId =>
          match database.assets.lookup assetId with
          | none => raiseValueError ("商品图片资产不存在: " ++ imageRef)
          | some asset =>
              if asset.accountId ≠ accountId then
                raiseValueError ("商品图片资产不存在: " ++ imageRef)
              else
                (retainAsset now taskId ordinal assetId database).bind
                  (retainImages now accountId taskId rest)

def recentAddressIds (database : Database) (group : AddressGroup) (accountId : String) :
    List String :=
  (((database.usages.rows.filter fun usage =>
      usage.groupId = group.groupId && usage.accountId = accountId).insertionSort
    fun left right => right.selectedAt ≤ left.selectedAt).take group.avoidRecentCount).map
    AddressUsage.addressId

def chooseAddress (database : Database) (accountId groupId : String) (pick : ℕ) :
    Except Failure Address :=
  match database.groups.lookup groupId with
  | none => raiseValueError "随机地址分组不存在或已停用"
  | some group =>
      if !group.enabled then raiseValueError "随机地址分组不存在或已停用"
      else if (group.groupId, accountId) ∉ database.groupAccounts then
        raiseValueError "当前账户未绑定到该地址分组"
      else
        let addresses := database.addresses.rows.filter fun address =>
          address.groupId = group.groupId && address.enabled
        let recentIds := recentAddressIds database group accountId
        let fresh := addresses.filter fun address => address.addressId ∉ recentIds
        let eligible := if fresh.isEmpty then addresses else fresh
        let minimumUseCount := (eligible.map Address.useCount).min?.getD 0
        let leastUsed := eligible.filter fun address => address.useCount = minimumUseCount
        match leastUsed[pick % leastUsed.length]? with
        | none => raiseValueError "地址分组内没有启用的地址"
        | some address => .ok address

def Address.location (address : Address) : Json :=
  .obj
    [("prov", .str address.prov), ("city", .str address.city), ("area", .str address.area),
      ("division_id", .str address.divisionId), ("longitude", .float address.longitude),
      ("latitude", .float address.latitude), ("poi_id", .str address.poiId),
      ("poi_name", .str address.poiName)]

def recordUsage (now : ℕ) (drawn : Drawn) (accountId draftId : String) :
    Option Address → Database → Except Failure Database
  | none, database => .ok database
  | some selected, database =>
      (orIntegrityError
        (database.usages.insert?
          { usageId := drawn.usageId
            groupId := selected.groupId
            addressId := selected.addressId
            accountId := accountId
            draftId := draftId
            taskId := drawn.taskId
            selectedAt := now
            updatedAt := now })).map fun usages =>
        { database with
          usages := usages
          addresses := database.addresses.map
            (fun address =>
              if address.addressId = selected.addressId then
                { address with
                  useCount := address.useCount + 1
                  lastUsedAt := some now
                  updatedAt := now }
              else address)
            (by intro address; split <;> rfl) }

/-- What `_create_product_publish_task_sync` keeps of a draft. -/
def Draft.snapshot (draft : Draft) (location : Json) (selected : Option Address)
    (uniqueCode : String) : Snapshot where
  title := draft.title
  description := draft.description
  price := draft.price
  originalPrice := draft.originalPrice
  stock := draft.stock
  categoryHint := draft.categoryHint
  images := draft.images
  deliveryChoice := draft.deliveryChoice
  postPrice := draft.postPrice
  canSelfPickup := draft.canSelfPickup
  locationMode := draft.locationMode
  location := location
  locationGroupId := draft.locationGroupId
  selectedAddressId := selected.map Address.addressId
  uniqueCode := uniqueCode

def markDraftReady (now : ℕ) (draftId : String) (database : Database) : Database :=
  { database with
    drafts := database.drafts.map
      (fun draft =>
        if draft.draftId = draftId then { draft with status := .ready, updatedAt := now }
        else draft)
      (by intro draft; split <;> rfl) }

/-- The address of a draft in the mode `group_random`. -/
def draftAddress (database : Database) (draft : Draft) (accountId : String) (pick : ℕ) :
    Except Failure (Option Address) :=
  if draft.locationMode = .groupRandom then
    match draft.locationGroupId with
    | none => raiseValueError "草稿未选择随机地址分组"
    | some groupId =>
        if groupId = "" then raiseValueError "草稿未选择随机地址分组"
        else (chooseAddress database accountId groupId pick).map some
  else .ok none

def draftTask (now : ℕ) (drawn : Drawn) (accountId : String) (payload : TaskCreatePayload)
    (draft : Draft) (location : Json) (selected : Option Address) : PublishTask where
  taskId := drawn.taskId
  accountId := accountId
  draftId := draft.draftId
  mode := payload.mode
  uniqueCode := some drawn.uniqueCode
  idempotencyKey := orElse payload.idempotencyKey (some drawn.taskId.text)
  snapshot := draft.snapshot (selected.elim location Address.location) selected
    drawn.uniqueCode
  createdAt := now
  updatedAt := now

def createProductPublishTask (database : Database) (now : ℕ) (drawn : Drawn)
    (accountId : String) (payload : TaskCreatePayload) (resolvedLocation : Json) :
    Except Failure (Option PublishTask × Database) :=
  match (payload.idempotencyKey.filter (· ≠ "")).bind (database.taskByKey? accountId) with
  | some existing => .ok (some existing, database)
  | none =>
      match database.drafts.lookup payload.draftId with
      | none => .ok (none, database)
      | some draft =>
          if draft.accountId ≠ accountId || draft.status = .archived then
            .ok (none, database)
          else do
            let selected ← draftAddress database draft accountId drawn.pick
            let task := draftTask now drawn accountId payload draft
              (resolvedLocation.or draft.location) selected
            let database ← insertTask database task
            let database ←
              retainImages now accountId task.taskId draft.images.zipIdx database
            let database ← recordUsage now drawn accountId draft.draftId selected database
            return (some task, markDraftReady now draft.draftId database)

/-- The address of a form in the mode `group_random`. -/
def directAddress (database : Database) (payload : JobCreatePayload) (accountId : String)
    (pick : ℕ) : Except Failure (Option Address) :=
  if payload.locationMode = .groupRandom then
    (chooseAddress database accountId (payload.locationGroupId.getD "") pick).map some
  else .ok none

def directAsset (database : Database) (accountId : String) (payload : JobCreatePayload)
    (imageRef : String) : Except Failure String :=
  let assetId := (assetIdOf imageRef).getD imageRef
  match database.assets.lookup assetId with
  | none => raiseValueError ("商品图片资产不存在: " ++ assetId)
  | some asset =>
      if asset.accountId ≠ accountId then raiseValueError ("商品图片资产不存在: " ++ assetId)
      else if asset.state = .deleting then
        raiseValueError ("商品图片正在清理: " ++ asset.originalFilename)
      else if truthy payload.uploadSessionId && truthy asset.uploadSessionId &&
          asset.uploadSessionId ≠ payload.uploadSessionId then
        raiseValueError "商品图片不属于当前上传会话"
      else .ok assetId

/-- The row that a form gives. -/
def directTask (now : ℕ) (drawn : Drawn) (accountId : String) (payload : JobCreatePayload)
    (selected : Option Address) : PublishTask where
  taskId := drawn.taskId
  accountId := accountId
  uniqueCode := some drawn.uniqueCode
  idempotencyKey := some payload.idempotencyKey
  snapshot :=
    { title := payload.title
      description := payload.description
      price := payload.price
      originalPrice := payload.originalPrice
      stock := payload.stock
      categoryHint := payload.categoryHint
      images := payload.images
      deliveryChoice := payload.deliveryChoice
      postPrice := payload.postPrice
      canSelfPickup := payload.canSelfPickup
      locationMode := payload.locationMode
      location := selected.elim payload.location Address.location
      locationGroupId := payload.locationGroupId
      selectedAddressId := selected.map Address.addressId
      uniqueCode := drawn.uniqueCode }
  createdAt := now
  updatedAt := now

def createDirectProductPublishTask (database : Database) (now : ℕ) (drawn : Drawn)
    (accountId : String) (payload : JobCreatePayload) :
    Except Failure (Option PublishTask × Database) :=
  match database.taskByKey? accountId payload.idempotencyKey with
  | some existing => .ok (some existing, database)
  | none =>
      match database.accounts.lookup accountId with
      | none => .ok (none, database)
      | some account =>
          if !account.enabled then raiseValueError "当前账户已禁用，不能发布商品"
          else do
            let selected ← directAddress database payload accountId drawn.pick
            let assetIds ← payload.images.mapM (directAsset database accountId payload)
            let task := directTask now drawn accountId payload selected
            let database ← insertTask database task
            let database ← retainAssets now task.taskId assetIds.zipIdx database
            let database ← recordUsage now drawn accountId "" selected database
            return (some task, database)

def referencesOf (database : Database) (taskId : Identifier) : List TaskAsset :=
  (database.taskAssets.rows.filter fun taskAsset => taskAsset.taskId = taskId).insertionSort
    fun left right => left.ordinal ≤ right.ordinal

def retryAssetIds (database : Database) (source : PublishTask) : List String :=
  let assetIds := (referencesOf database source.taskId).map TaskAsset.assetId
  if assetIds.isEmpty then source.snapshot.images.filterMap assetIdOf else assetIds

def retryAsset (database : Database) (accountId assetId : String) : Except Failure String :=
  if (database.assets.lookup assetId).any fun asset => asset.accountId = accountId then
    .ok assetId
  else raiseValueError "原发布素材已被清理，无法直接重试"

def retryTask (now : ℕ) (drawn : Drawn) (accountId idempotencyKey : String)
    (source : PublishTask) : PublishTask where
  taskId := drawn.taskId
  accountId := accountId
  draftId := source.draftId
  mode := source.mode
  uniqueCode := some drawn.uniqueCode
  idempotencyKey := some idempotencyKey
  snapshot := { source.snapshot with uniqueCode := drawn.uniqueCode }
  retryOfTaskId := some source.taskId
  attemptNo := some (source.attempt + 1)
  createdAt := now
  updatedAt := now

def PublishTask.hide (task : PublishTask) (now : ℕ) : PublishTask :=
  { task with catalogHiddenAt := some now, updatedAt := now }

theorem taskKeys_hide (now : ℕ) (task : PublishTask) :
    taskKeys (task.hide now) = taskKeys task := rfl

def PublishTask.mayRetry (task : PublishTask) : Bool :=
  let legacyRetryable := task.retryable.isNone && task.failureKind = some "network"
  task.status = .failed && (task.retryable = some true || legacyRetryable)

/-- `_retry_product_publish_task_sync`.  A snapshot that is stored is always a
`dict`, so the test for that does not fail. -/
def retryProductPublishTask (database : Database) (now : ℕ) (drawn : Drawn)
    (accountId : String) (taskId : Identifier) (idempotencyKey : String) :
    Except Failure (Option PublishTask × Database) :=
  match database.taskByKey? accountId idempotencyKey with
  | some existing =>
      if existing.retryOfTaskId ≠ some taskId then
        raiseValueError "该重试请求标识已被其他发布任务使用"
      else .ok (some existing, database)
  | none =>
      match database.task? taskId with
      | none => .ok (none, database)
      | some source =>
          if source.accountId ≠ accountId then .ok (none, database)
          else if source.catalogHiddenAt.isSome then
            raiseValueError "该发布任务已有后续尝试或已从列表移除"
          else if !source.mayRetry then
            raiseValueError "该发布任务不允许直接重试，请先查看失败原因"
          else do
            let assetIds ←
              (retryAssetIds database source).mapM (retryAsset database accountId)
            let task := retryTask now drawn accountId idempotencyKey source
            let database ← insertTask
              (updateTask database source.taskId (fun task => task.hide now)
                (taskKeys_hide now)) task
            let database ← retainAssets now task.taskId assetIds.zipIdx database
            return (some task, database)

def hideProductPublishTask (database : Database) (now : ℕ) (accountId : String)
    (taskId : Identifier) : Except Failure (Option Bool × Database) :=
  match database.task? taskId with
  | none => .ok (none, database)
  | some task =>
      if task.accountId ≠ accountId then .ok (none, database)
      else if task.catalogHiddenAt.isSome then .ok (some true, database)
      else if task.status ≠ .failed && task.status ≠ .cancelled then
        raiseValueError "仅发布失败或已取消的任务可以从列表移除"
      else if task.resultCertainty = some "published_unconfirmed" ||
          task.resultCertainty = some "result_unknown" then
        raiseValueError "发布结果尚未确认，不能移除；请先执行核检"
      else
        .ok (some true,
          updateTask database taskId (fun task => task.hide now) (taskKeys_hide now))

/-- The arguments of `_update_product_publish_task_after_execute_sync`. -/
structure ExecutionOutcome where
  /-- A status outside the known ones is `failed`. -/
  status : Option PublishStatus
  phase : Option String := none
  itemId : Option String := none
  itemUrl : Option String := none
  failureKind : Option String := none
  error : Option String := none
  rawResult : Option Json := none
  retryable : Option Bool := none
  resultCertainty : Option String := none

def PublishTask.afterExecute (task : PublishTask) (now : ℕ) (outcome : ExecutionOutcome) :
    PublishTask :=
  let status := outcome.status.getD .failed
  { task with
    status := status
    phase := orElse outcome.phase task.phase
    itemId := orElse outcome.itemId task.itemId
    itemUrl := orElse outcome.itemUrl task.itemUrl
    failureKind := outcome.failureKind
    error := outcome.error
    retryable := outcome.retryable <|> task.retryable
    resultCertainty := outcome.resultCertainty <|> task.resultCertainty
    rawResult := outcome.rawResult <|> task.rawResult
    updatedAt := now
    startedAt :=
      if status = .running && task.startedAt.isNone then some now else task.startedAt
    finishedAt := if status.isLive then task.finishedAt else some now }

theorem taskKeys_afterExecute (now : ℕ) (outcome : ExecutionOutcome) (task : PublishTask) :
    taskKeys (task.afterExecute now outcome) = taskKeys task := rfl

def lastRetention (taskAssets : List TaskAsset) (assetId : String) : Option ℕ :=
  ((taskAssets.filter fun taskAsset => taskAsset.assetId = assetId).filterMap
    TaskAsset.retainUntil).max?

/-- The references of a finished task run until `retainUntil`, and their assets
until the latest of all references to them. -/
def retainFinished (taskId : Identifier) (retainUntil : ℕ) (database : Database) :
    Database :=
  let taskAssets := database.taskAssets.map
    (fun taskAsset =>
      if taskAsset.taskId = taskId then { taskAsset with retainUntil := some retainUntil }
      else taskAsset)
    (by intro taskAsset; split <;> rfl)
  let isReferenced (assetId : String) : Bool :=
    taskAssets.rows.any fun taskAsset =>
      taskAsset.taskId = taskId && taskAsset.assetId = assetId
  { database with
    taskAssets := taskAssets
    assets := database.assets.map
      (fun asset =>
        if isReferenced asset.assetId then
          { asset with
            expiresAt :=
              some ((lastRetention taskAssets.rows asset.assetId).getD retainUntil) }
        else asset)
      (by intro asset; split <;> rfl) }

def markUsage (now : ℕ) (taskId : Identifier) (status : String) (database : Database) :
    Database :=
  { database with
    usages := database.usages.map
      (fun usage =>
        if usage.taskId = taskId then { usage with status := status, updatedAt := now }
        else usage)
      (by intro usage; split <;> rfl) }

def PublishStatus.text : PublishStatus → String
  | .pending => "pending"
  | .running => "running"
  | .success => "success"
  | .verificationRequired => "verification_required"
  | .failed => "failed"
  | .cancelled => "cancelled"

/-- `_update_product_publish_task_after_execute_sync`. -/
def updateAfterExecute (database : Database) (now : ℕ) (accountId : String)
    (taskId : Identifier) (outcome : ExecutionOutcome) : Option PublishTask × Database :=
  match database.task? taskId with
  | none => (none, database)
  | some stored =>
      if stored.accountId ≠ accountId then (none, database)
      else
        let task := stored.afterExecute now outcome
        let database := updateTask database taskId (fun task => task.afterExecute now outcome)
          (taskKeys_afterExecute now outcome)
        if task.status.isLive then (some task, database)
        else
          let retentionDays :=
            if task.status = .verificationRequired || task.retryable = some true then 30
            else 7
          (some task,
            markUsage now taskId task.status.text
              (retainFinished taskId (now + days retentionDays) database))

def PublishTask.attemptKey (task : PublishTask) : ℕ ×ₗ ℕ ×ₗ String :=
  toLex (task.attempt, toLex (task.createdAt, task.taskId.text))

/-- The order in which the rows are read. -/
def PublishTask.createdKey (task : PublishTask) : ℕ ×ₗ String :=
  toLex (task.createdAt, task.taskId.text)

def byKey {Key : Type} [LinearOrder Key] (key : PublishTask → Key)
    (tasks : List PublishTask) : List PublishTask :=
  tasks.insertionSort fun left right => key left ≤ key right

def listProductPublishTaskAttempts (database : Database) (accountId : String)
    (taskId : Identifier) : Option (List PublishTask) :=
  match database.task? taskId with
  | none => none
  | some selected =>
      if selected.accountId ≠ accountId then none
      else
        let rows := byKey PublishTask.createdKey
          (database.tasks.rows.filter fun task => task.accountId = accountId)
        let rootId := Lineage.climb PublishTask.taskId PublishTask.retryOfTaskId rows
          (rows.length + 1) [] selected.taskId
        let chainIds := Lineage.gatherAll PublishTask.taskId PublishTask.retryOfTaskId rows
          (rows.length + 1) [rootId]
        some (byKey PublishTask.attemptKey
          (rows.filter fun task => task.taskId ∈ chainIds))

end XianyuAdmin.Products
