import XianyuAdmin.Products.OperationRuns

/-!
# The catalog of an account

A sync stores the products that the platform lists and confirms the publish tasks of these;
when it has seen the whole catalog, it also counts how often a stored product was missing.  An
action marks a product as offline or deleted, and a product whose deletion is confirmed may be
removed from the local catalog.
-/

namespace XianyuAdmin.Products

open XianyuAdmin.Python

structure CatalogDatabase extends OperationDatabase where
  tasks : Table PublishTask taskKeys

def ProductItem.see (now : ℕ) (item : ManagedProduct) (row : ProductItem) : ProductItem :=
  { row with
    title := item.title
    price := item.price
    categoryId := textOr item.categoryId none
    coverUrl := textOr item.coverUrl none
    detailUrl := textOr item.detailUrl none
    platformItemStatus := textOr item.platformItemStatus none
    wantCount := item.wantCount
    wantText := item.wantText
    platformStatus := .selling
    syncState := "current"
    missingSyncCount := 0
    lastSeenAt := some now
    lastSyncedAt := some now
    rawData := some (.obj item.rawData)
    updatedAt := now }

/-- The assignments to the row of a product that a full and complete sync lacks. -/
def ProductItem.miss (now : ℕ) (row : ProductItem) : ProductItem :=
  match row.platformStatus with
  | .offline | .deleted =>
      if row.syncState = "pending_confirmation" then
        { row with syncState := "current", lastSyncedAt := some now, updatedAt := now }
      else row
  | .selling | .notSelling =>
      { row with
        missingSyncCount := row.missingSyncCount + 1
        syncState := if 2 ≤ row.missingSyncCount + 1 then "missing" else "pending_confirmation"
        platformStatus :=
          if 2 ≤ row.missingSyncCount + 1 then .notSelling else row.platformStatus
        lastSyncedAt := some now
        updatedAt := now }

theorem key_miss (now : ℕ) (row : ProductItem) :
    ((row.miss now).accountId, (row.miss now).itemId) = (row.accountId, row.itemId) := by
  unfold ProductItem.miss
  split
  · split <;> rfl
  · split <;> rfl
  · rfl
  · rfl

def ProductItem.datePublished (finishedAt : ℕ) (row : ProductItem) : ProductItem :=
  if row.publishedAtSource = "platform" then row
  else if row.publishedAt.all fun publishedAt => finishedAt < publishedAt then
    { row with publishedAt := some finishedAt, publishedAtSource := "publish_task" }
  else row

theorem key_datePublished (finishedAt : ℕ) (row : ProductItem) :
    ((row.datePublished finishedAt).accountId, (row.datePublished finishedAt).itemId) =
      (row.accountId, row.itemId) := by
  unfold ProductItem.datePublished
  split
  · rfl
  · split <;> rfl

def PublishTask.isListed (accountId : String) (seenIds : List String) (task : PublishTask) :
    Bool :=
  task.accountId = accountId && (task.itemId.any fun itemId => itemId ∈ seenIds) &&
    (task.status = .success || task.status = .verificationRequired)

def PublishTask.confirm (now : ℕ) (task : PublishTask) : PublishTask :=
  { task with
    status := .success
    phase := some "completed"
    failureKind := none
    error := none
    retryable := some false
    resultCertainty := some "confirmed_success"
    finishedAt := some (task.finishedAt.getD now)
    updatedAt := now }

section Sync

variable (now : ℕ) (accountId : String)

/-- One turn of the loop over the listed products.  The session finds the rows that were
stored before the sync, and not those it has added; `none` is the `IntegrityError` of a product
that is added twice. -/
def storeItem (persisted products : ProductTable) (item : ManagedProduct) :
    Option ProductTable :=
  match persisted.lookup (accountId, item.itemId) with
  | none =>
      products.insert?
        (ProductItem.see now item
          { accountId := accountId, itemId := item.itemId, createdAt := now })
  | some _ =>
      some (products.map
        (fun row =>
          if row.accountId = accountId ∧ row.itemId = item.itemId then row.see now item else row)
        (by intro row; split <;> rfl))

def dateProducts (tasks : List PublishTask) (products : ProductTable) : ProductTable :=
  tasks.foldl (fun products task =>
    products.map
      (fun row =>
        if row.accountId = accountId ∧ some row.itemId = task.itemId then
          row.datePublished (task.finishedAt.getD now)
        else row)
      (by intro row; split <;> simp [key_datePublished])) products

def missProducts (seenIds : List String) (products : ProductTable) : ProductTable :=
  products.map
    (fun row =>
      if row.accountId = accountId ∧ row.itemId ∉ seenIds then row.miss now else row)
    (by intro row; split <;> simp [key_miss])

def applySync (items : List ManagedProduct) (full complete : Bool)
    (database : CatalogDatabase) : Option CatalogDatabase :=
  let seenIds := items.map ManagedProduct.itemId
  (items.foldlM (storeItem now accountId database.products) database.products).map
    fun stored =>
      let confirmed := database.tasks.rows.filter (PublishTask.isListed accountId seenIds)
      let dated := dateProducts now accountId confirmed stored
      { database with
        products := if full && complete then missProducts now accountId seenIds dated else dated
        tasks := database.tasks.map
          (fun task => if task.isListed accountId seenIds then task.confirm now else task)
          (by intro task; split <;> rfl) }

/-- `_mark_item_status_sync` -/
def markCatalogItem (itemId : String) (status : PlatformStatus) (pendingConfirmation : Bool)
    (database : CatalogDatabase) : CatalogDatabase :=
  { database with
    toOperationDatabase := markItemStatus now accountId itemId status pendingConfirmation
      database.toOperationDatabase }

/-- `_delete_local_item_sync`: the number of publish tasks it hides, or the text of its
`ProductLocalCleanupConflict`. -/
def deleteLocalItem (itemId : String) (database : CatalogDatabase) :
    Except String (Option ℕ × CatalogDatabase) :=
  match database.products.lookup (accountId, itemId) with
  | none => .ok (none, database)
  | some row =>
      if row.platformStatus ≠ .deleted then
        .error "仅已从闲鱼平台删除的商品可以清理本地数据"
      else if row.syncState ≠ "current" then
        .error "平台删除结果尚未核检，请等待自动核检或手动同步"
      else
        let hides := fun task : PublishTask =>
          decide (task.accountId = accountId ∧ task.itemId = some itemId ∧
            task.catalogHiddenAt = none)
        .ok
          (some (database.tasks.rows.countP hides),
            { database with
              products := database.products.delete fun row =>
                decide (row.accountId = accountId ∧ row.itemId = itemId)
              tasks := database.tasks.map
                (fun task =>
                  if hides task then
                    { task with catalogHiddenAt := some now, updatedAt := now }
                  else task)
                (by intro task; split <;> rfl) })

end Sync

/-- What a row says about its product. -/
structure Standing where
  platformStatus : PlatformStatus
  syncState : String
  missingSyncCount : ℕ
  deriving DecidableEq

def ProductItem.standing (row : ProductItem) : Standing :=
  ⟨row.platformStatus, row.syncState, row.missingSyncCount⟩

/-- What the row of a listed product says. -/
def Standing.seen : Standing := ⟨.selling, "current", 0⟩

/-- What the row of a missing product says afterwards. -/
def Standing.missed (standing : Standing) : Standing :=
  match standing.platformStatus with
  | .offline | .deleted =>
      if standing.syncState = "pending_confirmation" then { standing with syncState := "current" }
      else standing
  | .selling | .notSelling =>
      { missingSyncCount := standing.missingSyncCount + 1
        syncState :=
          if 2 ≤ standing.missingSyncCount + 1 then "missing" else "pending_confirmation"
        platformStatus :=
          if 2 ≤ standing.missingSyncCount + 1 then .notSelling else standing.platformStatus }

theorem standing_miss (now : ℕ) (row : ProductItem) :
    (row.miss now).standing = row.standing.missed := by
  cases hstatus : row.platformStatus <;>
    simp only [ProductItem.miss, Standing.missed, ProductItem.standing, hstatus] <;>
    split <;> simp_all

theorem standing_datePublished (finishedAt : ℕ) (row : ProductItem) :
    (row.datePublished finishedAt).standing = row.standing := by
  unfold ProductItem.datePublished
  split
  · rfl
  · split <;> rfl

def Listed (accountId : String) (items : List ManagedProduct) (row : ProductItem) : Prop :=
  row.accountId = accountId ∧ row.itemId ∈ items.map ManagedProduct.itemId

def SameProduct (left right : ProductItem) : Prop :=
  left.accountId = right.accountId ∧ left.itemId = right.itemId

structure Synced (accountId : String) (items : List ManagedProduct)
    (misses : Standing → Standing) (before after : ProductTable) : Prop where
  seen : ∀ next ∈ after.rows, Listed accountId items next → next.standing = .seen
  other : ∀ next ∈ after.rows, ¬ Listed accountId items next → ∃ row ∈ before.rows,
    SameProduct row next ∧
      next.standing = if row.accountId = accountId then misses row.standing else row.standing
  kept : ∀ row ∈ before.rows, ∃ next ∈ after.rows, SameProduct row next

section Rows

variable {now : ℕ} {accountId : String}

variable {items : List ManagedProduct} {item : ManagedProduct}

theorem SameProduct.listed_iff {left right : ProductItem} (hsame : SameProduct left right) :
    Listed accountId items left ↔ Listed accountId items right := by
  rw [Listed, Listed, hsame.1, hsame.2]

theorem listed_singleton {row : ProductItem} :
    Listed accountId [item] row ↔ row.accountId = accountId ∧ row.itemId = item.itemId := by
  simp [Listed]

theorem listed_cons {row : ProductItem} :
    Listed accountId (item :: items) row ↔
      Listed accountId [item] row ∨ Listed accountId items row := by
  simp only [Listed, List.map_cons, List.mem_cons, List.map_nil, List.not_mem_nil, or_false]
  tauto

theorem synced_storeItem {persisted before after : ProductTable}
    (hstore : storeItem now accountId persisted before item = some after) :
    Synced accountId [item] id before after := by
  unfold storeItem at hstore
  split at hstore
  · have hrows := Table.rows_of_insert? hstore
    have hfresh := Table.noClash_of_insert? hstore
    refine ⟨fun next hnext hlisted => ?_, fun next hnext hlisted => ?_, fun row hrow => ?_⟩
    · rw [hrows, List.mem_append, List.mem_singleton] at hnext
      rcases hnext with hold | rfl
      · obtain ⟨haccount, hid⟩ := listed_singleton.mp hlisted
        exact absurd (by simp [ProductItem.see, haccount, hid])
          (hfresh next hold (next.accountId, next.itemId) (List.mem_singleton_self _))
      · rfl
    · rw [hrows, List.mem_append, List.mem_singleton] at hnext
      rcases hnext with hold | rfl
      · exact ⟨next, hold, ⟨rfl, rfl⟩, by split <;> rfl⟩
      · exact absurd (listed_singleton.mpr ⟨rfl, rfl⟩) hlisted
    · exact ⟨row, by rw [hrows]; exact List.mem_append_left _ hrow, rfl, rfl⟩
  · cases hstore
    refine ⟨fun next hnext hlisted => ?_, fun next hnext hlisted => ?_, fun row hrow => ?_⟩
    · obtain ⟨row, hrow, rfl⟩ := List.mem_map.mp hnext
      by_cases hkey : row.accountId = accountId ∧ row.itemId = item.itemId
      · rw [if_pos hkey]
        rfl
      · rw [if_neg hkey] at hlisted
        exact absurd (listed_singleton.mp hlisted) hkey
    · obtain ⟨row, hrow, rfl⟩ := List.mem_map.mp hnext
      by_cases hkey : row.accountId = accountId ∧ row.itemId = item.itemId
      · rw [if_pos hkey] at hlisted
        exact absurd (listed_singleton.mpr hkey) hlisted
      · rw [if_neg hkey]
        exact ⟨row, hrow, ⟨rfl, rfl⟩, by split <;> rfl⟩
    · refine ⟨_, List.mem_map_of_mem hrow, ?_⟩
      split
      · exact ⟨rfl, rfl⟩
      · exact ⟨rfl, rfl⟩

theorem SameProduct.trans {left middle right : ProductItem} (hleft : SameProduct left middle)
    (hright : SameProduct middle right) : SameProduct left right :=
  ⟨hleft.1.trans hright.1, hleft.2.trans hright.2⟩

theorem synced_foldlM {persisted : ProductTable} :
    ∀ {before after : ProductTable},
      items.foldlM (storeItem now accountId persisted) before = some after →
      Synced accountId items id before after := by
  induction items with
  | nil =>
      intro before after hfold
      cases hfold
      refine ⟨fun next _ hlisted => ?_, fun next hnext _ => ?_, fun row hrow => ?_⟩
      · exact absurd hlisted.2 List.not_mem_nil
      · exact ⟨next, hnext, ⟨rfl, rfl⟩, by split <;> rfl⟩
      · exact ⟨row, hrow, rfl, rfl⟩
  | cons item items ih =>
      intro before after hfold
      rw [List.foldlM_cons] at hfold
      obtain ⟨middle, hstore, hrest⟩ := Option.bind_eq_some_iff.mp hfold
      have hfirst := synced_storeItem hstore
      have hlater := ih hrest
      refine ⟨fun next hnext hlisted => ?_, fun next hnext hlisted => ?_, fun row hrow => ?_⟩
      · by_cases hagain : Listed accountId items next
        · exact hlater.seen next hnext hagain
        · obtain ⟨row, hrow, hsame, hstanding⟩ := hlater.other next hnext hagain
          have hitem := (listed_cons.mp hlisted).resolve_right hagain
          rw [hstanding, id, ite_self]
          exact hfirst.seen row hrow (hsame.listed_iff.mpr hitem)
      · rw [listed_cons, not_or] at hlisted
        obtain ⟨row, hrow, hsame, hstanding⟩ := hlater.other next hnext hlisted.2
        obtain ⟨stored, hstored, hfirstSame, hfirstStanding⟩ :=
          hfirst.other row hrow fun hitem => hlisted.1 (hsame.listed_iff.mp hitem)
        refine ⟨stored, hstored, hfirstSame.trans hsame, ?_⟩
        rw [hstanding, id, ite_self, hfirstStanding]
      · obtain ⟨next, hnext, hsame⟩ := hfirst.kept row hrow
        obtain ⟨last, hlast, hlastSame⟩ := hlater.kept next hnext
        exact ⟨last, hlast, hsame.trans hlastSame⟩

/-- Rows that are rewritten without a change of what they say. -/
theorem Synced.map {misses : Standing → Standing} {before stored after : ProductTable}
    {update : ProductItem → ProductItem} (h : Synced accountId items id before stored)
    (hrows : after.rows = stored.rows.map update) (hsame : ∀ row, SameProduct row (update row))
    (hseen : ∀ row, Listed accountId items row → (update row).standing = row.standing)
    (hother : ∀ row, ¬ Listed accountId items row → (update row).standing =
      if row.accountId = accountId then misses row.standing else row.standing) :
    Synced accountId items misses before after where
  seen := by
    intro next hnext hlisted
    rw [hrows] at hnext
    obtain ⟨row, hrow, rfl⟩ := List.mem_map.mp hnext
    have hrowListed := (hsame row).listed_iff.mpr hlisted
    exact (hseen row hrowListed).trans (h.seen row hrow hrowListed)
  other := by
    intro next hnext hlisted
    rw [hrows] at hnext
    obtain ⟨row, hrow, rfl⟩ := List.mem_map.mp hnext
    have hrowListed : ¬ Listed accountId items row := fun hrowListed =>
      hlisted ((hsame row).listed_iff.mp hrowListed)
    obtain ⟨stored, hstored, hstoredSame, hstanding⟩ := h.other row hrow hrowListed
    refine ⟨stored, hstored, hstoredSame.trans (hsame row), ?_⟩
    rw [hother row hrowListed, hstanding, id, ite_self, hstoredSame.1]
  kept := by
    intro row hrow
    obtain ⟨next, hnext, hnextSame⟩ := h.kept row hrow
    refine ⟨update next, ?_, hnextSame.trans (hsame next)⟩
    rw [hrows]
    exact List.mem_map_of_mem hnext

theorem synced_dateProducts {tasks : List PublishTask} :
    ∀ {before stored : ProductTable}, Synced accountId items id before stored →
      Synced accountId items id before (dateProducts now accountId tasks stored) := by
  induction tasks with
  | nil => exact id
  | cons task tasks ih =>
      intro before stored h
      have hdated : ∀ row : ProductItem,
          SameProduct row
              (if row.accountId = accountId ∧ some row.itemId = task.itemId then
                row.datePublished (task.finishedAt.getD now) else row) ∧
            (if row.accountId = accountId ∧ some row.itemId = task.itemId then
              row.datePublished (task.finishedAt.getD now) else row).standing =
              row.standing := by
        intro row
        split
        · have hkey := key_datePublished (task.finishedAt.getD now) row
          rw [Prod.mk.injEq] at hkey
          exact ⟨⟨hkey.1.symm, hkey.2.symm⟩, standing_datePublished _ _⟩
        · exact ⟨⟨rfl, rfl⟩, rfl⟩
      refine ih (h.map (Table.rows_map _ _ _) (fun row => (hdated row).1)
        (fun row _ => (hdated row).2) fun row _ => ?_)
      rw [(hdated row).2, id, ite_self]

theorem synced_missProducts {before dated : ProductTable}
    (h : Synced accountId items id before dated) :
    Synced accountId items Standing.missed before
      (missProducts now accountId (items.map ManagedProduct.itemId) dated) := by
  have hlacks : ∀ row : ProductItem, ¬ Listed accountId items row → row.accountId = accountId →
      row.accountId = accountId ∧ row.itemId ∉ items.map ManagedProduct.itemId :=
    fun row hlisted haccount => ⟨haccount, fun hitem => hlisted ⟨haccount, hitem⟩⟩
  refine h.map rfl (fun row => ?_) (fun row hlisted => ?_) fun row hlisted => ?_
  · split
    · have hkey := key_miss now row
      rw [Prod.mk.injEq] at hkey
      exact ⟨hkey.1.symm, hkey.2.symm⟩
    · exact ⟨rfl, rfl⟩
  · rw [if_neg fun hlacking => hlacking.2 hlisted.2]
  · by_cases haccount : row.accountId = accountId
    · rw [if_pos (hlacks row hlisted haccount), if_pos haccount]
      exact standing_miss now row
    · rw [if_neg fun hlacking => haccount hlacking.1, if_neg haccount]

/-- What a sync says of the products that it lacks. -/
def missing (full complete : Bool) : Standing → Standing :=
  if full && complete then Standing.missed else id

theorem synced_applySync {full complete : Bool} {before after : CatalogDatabase}
    (happly : applySync now accountId items full complete before = some after) :
    Synced accountId items (missing full complete) before.products after.products := by
  obtain ⟨stored, hfold, rfl⟩ := Option.map_eq_some_iff.mp happly
  have hdated : Synced accountId items id before.products
      (dateProducts now accountId (before.tasks.rows.filter
        (PublishTask.isListed accountId (items.map ManagedProduct.itemId))) stored) :=
    synced_dateProducts (synced_foldlM hfold)
  by_cases hcomplete : full && complete
  · simp only [missing, hcomplete, if_true]
    exact synced_missProducts hdated
  · simp only [missing, hcomplete]
    exact hdated

end Rows

end XianyuAdmin.Products
