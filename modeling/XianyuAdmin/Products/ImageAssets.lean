import XianyuAdmin.Products.PublishTasks

/-!
# Image assets and drafts

Uploaded images are assets.  Three calls delete them: one by its id, those of an
upload session that was given up, and those whose expiry date has passed.  A
reference of a task to a deleted asset goes with it.
-/

namespace XianyuAdmin.Products

open XianyuAdmin.Python

/-- `_create_product_draft_sync`; the location is the one the region catalog
gives. -/
def createProductDraft (database : Database) (now : ℕ) (draftId accountId : String)
    (payload : Draft) : Except Failure (Option Draft × Database) :=
  if (database.accounts.lookup accountId).isNone then .ok (none, database)
  else
    let draft :=
      { payload with
        draftId := draftId
        accountId := accountId
        createdAt := now
        updatedAt := now }
    (orIntegrityError (database.drafts.insert? draft)).map fun drafts =>
      (some draft, { database with drafts := drafts })

/-- `ProductDraftUpdatePayload`; a field that is `none` is not given. -/
structure DraftUpdate where
  title : Option String := none
  description : Option String := none
  price : Option String := none
  originalPrice : Option String := none
  stock : Option ℕ := none
  categoryId : Option String := none
  categoryHint : Option String := none
  images : Option (List String) := none
  deliveryChoice : Option String := none
  postPrice : Option String := none
  canSelfPickup : Option Bool := none
  locationMode : Option LocationMode := none
  location : Option Json := none
  locationGroupId : Option (Option String) := none
  status : Option DraftStatus := none

def Draft.update (draft : Draft) (now : ℕ) (payload : DraftUpdate) : Draft :=
  { draft with
    title := payload.title.getD draft.title
    description := payload.description.getD draft.description
    price := payload.price.getD draft.price
    originalPrice := payload.originalPrice <|> draft.originalPrice
    stock := payload.stock.getD draft.stock
    categoryId := payload.categoryId <|> draft.categoryId
    categoryHint := payload.categoryHint <|> draft.categoryHint
    images := payload.images.getD draft.images
    deliveryChoice := payload.deliveryChoice.getD draft.deliveryChoice
    postPrice := payload.postPrice <|> draft.postPrice
    canSelfPickup := payload.canSelfPickup.getD draft.canSelfPickup
    locationMode := payload.locationMode.getD draft.locationMode
    location := payload.location.getD draft.location
    locationGroupId := payload.locationGroupId.getD draft.locationGroupId
    status := payload.status.getD draft.status
    updatedAt := now }

def updateProductDraft (database : Database) (now : ℕ) (accountId draftId : String)
    (payload : DraftUpdate) : Option Draft × Database :=
  match database.drafts.lookup draftId with
  | none => (none, database)
  | some stored =>
      if stored.accountId ≠ accountId then (none, database)
      else
        (some (stored.update now payload),
          { database with
            drafts := database.drafts.map
              (fun draft =>
                if draft.draftId = draftId then draft.update now payload else draft)
              (by intro draft; split <;> rfl) })

def deleteProductDraft (database : Database) (accountId draftId : String) :
    Bool × Database :=
  match database.drafts.lookup draftId with
  | none => (false, database)
  | some stored =>
      if stored.accountId ≠ accountId then (false, database)
      else
        (true,
          { database with
            drafts := database.drafts.delete fun draft => draft.draftId = draftId })

def createProductImageAsset (database : Database) (now : ℕ)
    (accountId assetId originalFilename : String) (uploadSessionId : Option String) :
    Except Failure (Option ImageAsset × Database) :=
  if (database.accounts.lookup accountId).isNone then .ok (none, database)
  else
    let filename := String.ofList (originalFilename.toList.take 255)
    let asset : ImageAsset :=
      { assetId := assetId
        accountId := accountId
        originalFilename := if filename = "" then "product-image.jpg" else filename
        uploadSessionId := uploadSessionId
        state := .staged
        expiresAt := some (now + seconds (24 * 3600))
        createdAt := now }
    (orIntegrityError (database.assets.insert? asset)).map fun assets =>
      (some asset, { database with assets := assets })

def Database.deleteAssets (database : Database) (assetIds : List String) : Database :=
  { database with
    assets := database.assets.delete fun asset => asset.assetId ∈ assetIds
    taskAssets := database.taskAssets.delete fun taskAsset => taskAsset.assetId ∈ assetIds }

namespace Database

/-- A reference that keeps the asset at `now`: its date is unset or still to
come. -/
def isRetained (database : Database) (now : ℕ) (assetId : String) : Bool :=
  database.taskAssets.rows.any fun taskAsset =>
    taskAsset.assetId = assetId && taskAsset.retainUntil.all fun retainUntil => now < retainUntil

def isListed (database : Database) (accountId assetId : String) : Bool :=
  database.drafts.rows.any fun draft =>
    draft.accountId = accountId && assetRef assetId ∈ draft.images

/-- `images.like('%asset:...%')` over the drafts of the account.  An id has only
hex digits, so the text of the list contains it when the text of one of its
references does. -/
def isMentioned (database : Database) (accountId assetId : String) : Bool :=
  database.drafts.rows.any fun draft =>
    draft.accountId = accountId && draft.images.any (contains (assetRef assetId))

def isPublished (database : Database) (accountId assetId : String) : Bool :=
  database.tasks.rows.any fun task =>
    task.accountId = accountId && task.status.isLive &&
      assetRef assetId ∈ task.snapshot.images

end Database

inductive DeleteAnswer
  | notFound
  | inUse
  | deleted
  deriving DecidableEq, Repr

def deleteProductImageAsset (database : Database) (now : ℕ) (accountId assetId : String) :
    DeleteAnswer × Database :=
  match database.assets.lookup assetId with
  | none => (.notFound, database)
  | some asset =>
      if asset.accountId ≠ accountId then (.notFound, database)
      else if database.isListed accountId assetId then (.inUse, database)
      else if database.isRetained now assetId then (.inUse, database)
      else if database.isPublished accountId assetId then (.inUse, database)
      else (.deleted, database.deleteAssets [assetId])

/-- The assets that `_cleanup_product_upload_session_sync` deletes. -/
def abandonedAssets (database : Database) (accountId uploadSessionId : String) :
    List ImageAsset :=
  database.assets.rows.filter fun asset =>
    asset.accountId = accountId && asset.uploadSessionId = some uploadSessionId &&
      asset.state = .staged &&
      !(database.taskAssets.rows.any fun taskAsset => taskAsset.assetId = asset.assetId) &&
      !database.isMentioned accountId asset.assetId

def cleanupProductUploadSession (database : Database) (accountId uploadSessionId : String) :
    List String × Database :=
  let assetIds := (abandonedAssets database accountId uploadSessionId).map ImageAsset.assetId
  (assetIds, database.deleteAssets assetIds)

/-- The rows `_cleanup_expired_product_images_sync` reads: the first to expire. -/
def expiredAssets (database : Database) (now limit : ℕ) : List ImageAsset :=
  ((database.assets.rows.filter fun asset =>
      asset.expiresAt.any fun expiresAt => expiresAt ≤ now).insertionSort
    fun left right => left.expiresAt.getD 0 ≤ right.expiresAt.getD 0).take
    (max 1 (min limit 1000))

def outdatedAssets (database : Database) (now limit : ℕ) : List ImageAsset :=
  (expiredAssets database now limit).filter fun asset =>
    !database.isRetained now asset.assetId &&
      !database.isMentioned asset.accountId asset.assetId

def cleanupExpiredProductImages (database : Database) (now limit : ℕ) :
    List (String × String) × Database :=
  let outdated := outdatedAssets database now limit
  (outdated.map fun asset => (asset.accountId, asset.assetId),
    database.deleteAssets (outdated.map ImageAsset.assetId))

end XianyuAdmin.Products
