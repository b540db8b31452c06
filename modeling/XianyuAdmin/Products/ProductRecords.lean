import XianyuAdmin.Core.Json
import XianyuAdmin.Core.Table

/-!
# Products, their images and their publish tasks

A draft lists image references; an image asset is a stored file with an expiry
date.  A publish task keeps a snapshot of what is to be published, and one
reference for each asset of the snapshot, with the date until which the asset is
retained.  A task may get its address from a group of addresses, of which the
account's most recent ones are avoided.
-/

namespace XianyuAdmin.Products

open XianyuAdmin.Python

/-- `timedelta(days=...)` in microseconds. -/
def days (count : ℕ) : ℕ := seconds (86400 * count)

def assetRef (assetId : String) : String := "asset:" ++ assetId

/-- The asset id behind `asset:`, if the reference starts so. -/
def assetIdOf (imageRef : String) : Option String :=
  ("asset:".toList.isPrefixOf? imageRef.toList).map String.ofList

theorem assetIdOf_eq_some_iff {imageRef assetId : String} :
    assetIdOf imageRef = some assetId ↔ imageRef = assetRef assetId := by
  unfold assetIdOf assetRef
  rw [Option.map_eq_some_iff]
  constructor
  · rintro ⟨rest, hrest, rfl⟩
    have happend := List.isPrefixOf?_eq_some_iff_append_eq.mp hrest
    apply String.ext
    simpa using happend.symm
  · rintro rfl
    exact ⟨assetId.toList, List.isPrefixOf?_eq_some_iff_append_eq.mpr (by simp), by simp⟩

/-- A row of `xianyu_accounts`. -/
structure Account where
  accountId : String
  enabled : Bool := true
  deriving DecidableEq, Repr

inductive DraftStatus
  | draft
  | ready
  | archived
  deriving DecidableEq, Repr

inductive LocationMode
  | accountDefault
  | region
  | selected
  | groupRandom
  deriving DecidableEq, Repr

/-- A row of `xianyu_product_drafts`; the JSON columns are decoded. -/
structure Draft where
  draftId : String
  accountId : String
  title : String := ""
  description : String := ""
  price : String := ""
  originalPrice : Option String := none
  stock : ℕ := 1
  categoryId : Option String := none
  categoryHint : Option String := none
  images : List String := []
  deliveryChoice : String := "free_shipping"
  postPrice : Option String := none
  canSelfPickup : Bool := false
  locationMode : LocationMode := .accountDefault
  location : Json := .null
  locationGroupId : Option String := none
  status : DraftStatus := .draft
  createdAt : ℕ := 0
  updatedAt : ℕ := 0

inductive AssetState
  | staged
  | retained
  | deleting
  deriving DecidableEq, Repr

/-- A row of `xianyu_product_image_assets`. -/
structure ImageAsset where
  assetId : String
  accountId : String
  originalFilename : String := "product-image.jpg"
  uploadSessionId : Option String := none
  state : AssetState := .staged
  expiresAt : Option ℕ := none
  lastReferencedAt : Option ℕ := none
  createdAt : ℕ := 0
  deriving DecidableEq, Repr

/-- What is to be published, as it was when the task was created. -/
structure Snapshot where
  title : String := ""
  description : String := ""
  price : String := ""
  originalPrice : Option String := none
  stock : ℕ := 1
  categoryHint : Option String := none
  images : List String := []
  deliveryChoice : String := "free_shipping"
  postPrice : Option String := none
  canSelfPickup : Bool := false
  locationMode : LocationMode := .accountDefault
  location : Json := .null
  locationGroupId : Option String := none
  selectedAddressId : Option String := none
  uniqueCode : String := ""

inductive PublishStatus
  | pending
  | running
  | success
  | verificationRequired
  | failed
  | cancelled
  deriving DecidableEq, Repr

/-- A task that is waiting for a worker or being executed. -/
def PublishStatus.isLive : PublishStatus → Bool
  | .pending | .running => true
  | .success | .verificationRequired | .failed | .cancelled => false

/-- A row of `xianyu_product_publish_tasks`. -/
structure PublishTask where
  taskId : Identifier
  accountId : String
  draftId : String := ""
  mode : String := "platform_api"
  status : PublishStatus := .pending
  phase : Option String := some "pending"
  uniqueCode : Option String := none
  idempotencyKey : Option String := none
  snapshot : Snapshot := {}
  itemId : Option String := none
  itemUrl : Option String := none
  failureKind : Option String := none
  error : Option String := none
  rawResult : Option Json := none
  retryOfTaskId : Option Identifier := none
  attemptNo : Option ℕ := some 1
  retryable : Option Bool := none
  resultCertainty : Option String := none
  catalogHiddenAt : Option ℕ := none
  createdAt : ℕ := 0
  updatedAt : ℕ := 0
  startedAt : Option ℕ := none
  finishedAt : Option ℕ := none

/-- `task.attempt_no or 1`. -/
def PublishTask.attempt (task : PublishTask) : ℕ :=
  match task.attemptNo with
  | none | some 0 => 1
  | some attemptNo => attemptNo

/-- A row of `xianyu_product_publish_task_assets`. -/
structure TaskAsset where
  taskId : Identifier
  assetId : String
  ordinal : ℕ := 0
  retainUntil : Option ℕ := none
  createdAt : ℕ := 0
  deriving DecidableEq

/-- A row of `xianyu_publish_address_groups`. -/
structure AddressGroup where
  groupId : String
  enabled : Bool := true
  avoidRecentCount : ℕ := 3
  deriving DecidableEq, Repr

/-- A row of `xianyu_publish_addresses`. -/
structure Address where
  addressId : String
  groupId : String
  prov : String := ""
  city : String := ""
  area : String := ""
  divisionId : String := ""
  /-- The numbers, as printed. -/
  longitude : String := ""
  latitude : String := ""
  poiId : String := ""
  poiName : String := ""
  enabled : Bool := true
  useCount : ℕ := 0
  lastUsedAt : Option ℕ := none
  updatedAt : ℕ := 0
  deriving DecidableEq, Repr

/-- A row of `xianyu_publish_address_usages`. -/
structure AddressUsage where
  usageId : Identifier
  groupId : String
  addressId : String
  accountId : String
  draftId : String := ""
  taskId : Identifier
  status : String := "selected"
  selectedAt : ℕ := 0
  updatedAt : ℕ := 0
  deriving DecidableEq

inductive TaskKey
  | id (taskId : Identifier)
  | idempotency (accountId idempotencyKey : String)
  deriving DecidableEq

def taskKeys (task : PublishTask) : List TaskKey :=
  .id task.taskId ::
    (task.idempotencyKey.map fun key => TaskKey.idempotency task.accountId key).toList

inductive UsageKey
  | id (usageId : Identifier)
  | task (taskId : Identifier)
  deriving DecidableEq

def usageKeys (usage : AddressUsage) : List UsageKey :=
  [.id usage.usageId, .task usage.taskId]

structure Database where
  accounts : Table Account fun account => [account.accountId]
  drafts : Table Draft fun draft => [draft.draftId]
  assets : Table ImageAsset fun asset => [asset.assetId]
  tasks : Table PublishTask taskKeys
  taskAssets : Table TaskAsset fun taskAsset => [(taskAsset.taskId, taskAsset.assetId)]
  groups : Table AddressGroup fun group => [group.groupId]
  /-- `xianyu_publish_address_group_accounts`. -/
  groupAccounts : List (String × String)
  addresses : Table Address fun address => [address.addressId]
  usages : Table AddressUsage usageKeys

/-- What ends a call without committing anything. -/
inductive Failure
  | valueError (message : String)
  | integrityError
  deriving DecidableEq, Repr

def raiseValueError {Value : Type*} (message : String) : Except Failure Value :=
  .error (.valueError message)

def orIntegrityError {Value : Type*} (inserted : Option Value) : Except Failure Value :=
  match inserted with
  | some value => .ok value
  | none => .error .integrityError

namespace Database

/-- `session.get(ProductPublishTaskORM, task_id)`. -/
def task? (database : Database) (taskId : Identifier) : Option PublishTask :=
  database.tasks.lookup (.id taskId)

def taskByKey? (database : Database) (accountId idempotencyKey : String) :
    Option PublishTask :=
  database.tasks.lookup (.idempotency accountId idempotencyKey)

end Database

@[simp]
theorem id_mem_taskKeys {task : PublishTask} {taskId : Identifier} :
    TaskKey.id taskId ∈ taskKeys task ↔ task.taskId = taskId := by
  unfold taskKeys
  cases task.idempotencyKey <;> simp [eq_comm]

theorem Database.task?_eq_some_iff {database : Database} {taskId : Identifier}
    {task : PublishTask} :
    database.task? taskId = some task ↔ task ∈ database.tasks.rows ∧ task.taskId = taskId := by
  unfold task?
  rw [Table.lookup_eq_some_iff, id_mem_taskKeys]

/-- Tasks are told apart by their ids. -/
theorem Database.task_eq_of_id {database : Database} {left right : PublishTask}
    (hleft : left ∈ database.tasks.rows) (hright : right ∈ database.tasks.rows)
    (hid : left.taskId = right.taskId) : left = right :=
  Table.eq_of_key hleft hright (id_mem_taskKeys.mpr hid) (id_mem_taskKeys.mpr rfl)

end XianyuAdmin.Products
