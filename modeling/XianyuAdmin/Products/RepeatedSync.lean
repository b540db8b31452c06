import XianyuAdmin.Products.CatalogSync

/-!
# Syncs that are repeated

The catalog shifts while its pages are fetched, so a sync may be given a product twice, and a
sync may be repeated as it is.  A row then holds what its product was listed as last, and the
second sync leaves it as it is but for the times; a product that both syncs lack is counted as
missing by each.
-/

namespace XianyuAdmin.Products

open XianyuAdmin.Python

/-- A row of `xianyu_product_sync_settings`. -/
structure SyncSetting where
  accountId : String
  syncEnabled : Bool := true
  syncIntervalMinutes : ℕ := 20
  syncJitterMinutes : ℕ := 5
  fullSyncIntervalHours : ℕ := 6
  publishVerifyDelaySeconds : ℕ := 30
  autoPolishEnabled : Bool := false
  polishHour : ℕ := 8
  polishJitterMinutes : ℕ := 10
  lastSyncAt : Option ℕ := none
  lastFullSyncAt : Option ℕ := none
  lastSyncStatus : Option String := none
  lastSyncError : Option String := none
  nextSyncAt : Option ℕ := none
  lastPolishAt : Option ℕ := none
  nextPolishAt : Option ℕ := none
  createdAt : ℕ := 0
  updatedAt : ℕ := 0

structure SyncDatabase extends CatalogDatabase where
  settings : Table SyncSetting fun setting => [setting.accountId]

section Settings

variable (now jitter : ℕ)

/-- `_next_sync`, with the number of minutes that `random.randint` answers. -/
def SyncSetting.nextSync (setting : SyncSetting) : Option ℕ :=
  if setting.syncEnabled then
    some (now + seconds (60 * (max 5 setting.syncIntervalMinutes + jitter)))
  else none

def SyncSetting.synced (full complete : Bool) (setting : SyncSetting) : SyncSetting :=
  { setting with
    lastSyncAt := some now
    lastFullSyncAt := if full && complete then some now else setting.lastFullSyncAt
    lastSyncStatus := some "success"
    lastSyncError := none
    nextSyncAt := setting.nextSync now jitter
    updatedAt := now }

/-- `_get_or_create_setting`, and the assignments. -/
def syncSetting (accountId : String) (full complete : Bool)
    (settings : Table SyncSetting fun setting => [setting.accountId]) :
    Option (Table SyncSetting fun setting => [setting.accountId]) :=
  match settings.lookup accountId with
  | none =>
      settings.insert?
        (SyncSetting.synced now jitter full complete
          { accountId := accountId, createdAt := now })
  | some _ =>
      some (settings.map
        (fun setting =>
          if setting.accountId = accountId then setting.synced now jitter full complete
          else setting)
        (by intro setting; split <;> rfl))

/-- `_apply_sync_sync`, with the settings. -/
def applyWholeSync (accountId : String) (items : List ManagedProduct) (full complete : Bool)
    (database : SyncDatabase) : Option SyncDatabase := do
  let catalog ← applySync now accountId items full complete database.toCatalogDatabase
  let settings ← syncSetting now jitter accountId full complete database.settings
  pure { database with toCatalogDatabase := catalog, settings := settings }

end Settings

def NewListedOnce (accountId : String) (items : List ManagedProduct) (products : ProductTable) :
    Prop :=
  ((items.map ManagedProduct.itemId).filter fun itemId =>
    (products.lookup (accountId, itemId)).isNone).Nodup

instance (accountId : String) (items : List ManagedProduct) (products : ProductTable) :
    Decidable (NewListedOnce accountId items products) :=
  inferInstanceAs (Decidable (List.Nodup _))

def LastListed (items : List ManagedProduct) (item : ManagedProduct) : Prop :=
  ∃ earlier later, items = earlier ++ item :: later ∧
    item.itemId ∉ later.map ManagedProduct.itemId

def ProductItem.Shows (now : ℕ) (item : ManagedProduct) (row : ProductItem) : Prop :=
  row.see now item = row

def ProductItem.touch (later : ℕ) (row : ProductItem) : ProductItem :=
  { row with lastSeenAt := some later, lastSyncedAt := some later, updatedAt := later }

variable {row : ProductItem}

theorem ProductItem.Shows.see {now later : ℕ} {item : ManagedProduct} (h : row.Shows now item) :
    row.see later item = row.touch later := by
  rw [← h]
  rfl

theorem shows_see (now : ℕ) (item : ManagedProduct) (row : ProductItem) :
    (row.see now item).Shows now item := rfl

theorem ProductItem.Shows.datePublished {now finishedAt : ℕ} {item : ManagedProduct}
    (h : row.Shows now item) : (row.datePublished finishedAt).Shows now item := by
  rw [Shows] at h ⊢
  unfold ProductItem.datePublished
  split
  · exact h
  · split
    · rw [← h]
      rfl
    · exact h

section Storing

variable {now : ℕ} {accountId : String} {persisted before after : ProductTable}
  {item : ManagedProduct} {items : List ManagedProduct}

theorem mem_keys_iff {row : ProductItem} {itemId : String} :
    (accountId, itemId) ∈ [(row.accountId, row.itemId)] ↔
      row.accountId = accountId ∧ row.itemId = itemId := by
  rw [List.mem_singleton, Prod.mk.injEq]
  exact ⟨fun h => ⟨h.1.symm, h.2.symm⟩, fun h => ⟨h.1.symm, h.2.symm⟩⟩

theorem key_of_lookup {products : ProductTable} {itemId : String} {row : ProductItem}
    (hlookup : products.lookup (accountId, itemId) = some row) :
    row.accountId = accountId ∧ row.itemId = itemId :=
  mem_keys_iff.mp (Table.lookup_eq_some_iff.mp hlookup).2

/-- One turn finds or adds the row, and leaves the others. -/
theorem lookup_storeItem (hstore : storeItem now accountId persisted before item = some after)
    (hkept : (persisted.lookup (accountId, item.itemId)).isSome →
      (before.lookup (accountId, item.itemId)).isSome) (itemId : String) :
    if itemId = item.itemId then
      ∃ row, after.lookup (accountId, itemId) = some row ∧ row.Shows now item
    else after.lookup (accountId, itemId) = before.lookup (accountId, itemId) := by
  unfold storeItem at hstore
  split at hstore
  · have hlookup := Table.lookup_of_insert? hstore (accountId, itemId)
    simp only [mem_keys_iff] at hlookup
    split
    · rename_i hid
      rw [if_pos ⟨rfl, hid.symm⟩] at hlookup
      exact ⟨_, hlookup, shows_see now item _⟩
    · rename_i hid
      rwa [if_neg fun hkey => hid hkey.2.symm] at hlookup
  · rename_i hpersisted
    rw [hpersisted] at hkept
    obtain ⟨row, hrow⟩ := Option.isSome_iff_exists.mp (hkept rfl)
    cases hstore
    rw [Table.lookup_map]
    split
    · rename_i hid
      subst hid
      rw [hrow, Option.map_some, if_pos (key_of_lookup hrow)]
      exact ⟨_, rfl, shows_see now item row⟩
    · rename_i hid
      cases hfound : before.lookup (accountId, itemId) with
      | none => rfl
      | some found =>
          rw [Option.map_some, if_neg]
          rw [(key_of_lookup hfound).2]
          exact fun hkey => hid hkey.2

theorem exists_storeItem
    (hfree : persisted.lookup (accountId, item.itemId) = none →
      before.lookup (accountId, item.itemId) = none) :
    ∃ after, storeItem now accountId persisted before item = some after := by
  unfold storeItem
  split
  · rename_i hnone
    refine Table.exists_insert?_of_fresh fun key hkey => ?_
    rw [List.mem_singleton] at hkey
    rw [hkey]
    exact hfree hnone
  · exact ⟨_, rfl⟩

/-- Rows that were stored are found, and new products that are still to come are not. -/
structure Pending (accountId : String) (persisted products : ProductTable)
    (items : List ManagedProduct) : Prop where
  kept : ∀ itemId, (persisted.lookup (accountId, itemId)).isSome →
    (products.lookup (accountId, itemId)).isSome
  free : ∀ itemId ∈ items.map ManagedProduct.itemId,
    persisted.lookup (accountId, itemId) = none → products.lookup (accountId, itemId) = none
  once : NewListedOnce accountId items persisted

theorem Pending.storeItem (h : Pending accountId persisted before (item :: items))
    (hstore : Products.storeItem now accountId persisted before item = some after) :
    Pending accountId persisted after items := by
  have hlookup := lookup_storeItem hstore (h.kept item.itemId)
  have honce := h.once
  rw [NewListedOnce, List.map_cons, List.filter_cons] at honce
  refine ⟨fun itemId hstored => ?_, fun itemId hitem hnone => ?_, ?_⟩
  · have hfound := hlookup itemId
    split at hfound
    · obtain ⟨row, hrow, -⟩ := hfound
      rw [hrow]
      rfl
    · rw [hfound]
      exact h.kept itemId hstored
  · have hfound := hlookup itemId
    split at hfound
    · rename_i hid
      subst hid
      rw [if_pos (by rw [hnone]; rfl), List.nodup_cons] at honce
      exact absurd (List.mem_filter.mpr ⟨hitem, by rw [hnone]; rfl⟩) honce.1
    · rw [hfound]
      exact h.free itemId (List.mem_cons_of_mem _ hitem) hnone
  · split at honce
    · exact (List.nodup_cons.mp honce).2
    · exact honce

theorem Pending.foldlM (h : Pending accountId persisted before items) :
    ∃ after, items.foldlM (Products.storeItem now accountId persisted) before = some after ∧
      (∀ item, LastListed items item →
        ∃ row, after.lookup (accountId, item.itemId) = some row ∧ row.Shows now item) ∧
      ∀ itemId ∉ items.map ManagedProduct.itemId,
        after.lookup (accountId, itemId) = before.lookup (accountId, itemId) := by
  induction items generalizing before with
  | nil =>
      refine ⟨before, rfl, fun item hlast => ?_, fun _ _ => rfl⟩
      obtain ⟨earlier, later, hitems, -⟩ := hlast
      simp at hitems
  | cons item items ih =>
      obtain ⟨middle, hstore⟩ :
          ∃ middle, Products.storeItem now accountId persisted before item = some middle :=
        exists_storeItem (h.free item.itemId (by simp))
      have hlookup := lookup_storeItem hstore (h.kept item.itemId)
      obtain ⟨after, hfold, hshows, hother⟩ := ih (h.storeItem hstore)
      refine ⟨after, ?_, fun last hlast => ?_, fun itemId hitem => ?_⟩
      · rw [List.foldlM_cons, hstore]
        exact hfold
      · obtain ⟨earlier, later, hitems, hlater⟩ := hlast
        cases earlier with
        | nil =>
            cases hitems
            rw [hother item.itemId hlater]
            simpa using hlookup item.itemId
        | cons first earlier =>
            cases hitems
            exact hshows last ⟨earlier, later, rfl, hlater⟩
      · rw [List.map_cons, List.mem_cons, not_or] at hitem
        have hfound := hlookup itemId
        rw [if_neg hitem.1] at hfound
        rw [hother itemId hitem.2, hfound]

end Storing

def ProductItem.IsDatedBy (finishedAt : ℕ) (row : ProductItem) : Prop :=
  row.publishedAtSource = "platform" ∨ ∃ date, row.publishedAt = some date ∧ date ≤ finishedAt

theorem ProductItem.IsDatedBy.datePublished_eq {finishedAt : ℕ} (h : row.IsDatedBy finishedAt) :
    row.datePublished finishedAt = row := by
  unfold ProductItem.datePublished
  rcases h with hplatform | ⟨date, hdate, hle⟩
  · rw [if_pos hplatform]
  · have hnotEarlier :
        ¬ (row.publishedAt.all fun publishedAt => finishedAt < publishedAt) = true := by
      simpa [hdate] using hle
    rw [if_neg hnotEarlier, ite_self]

theorem isDatedBy_datePublished (finishedAt : ℕ) (row : ProductItem) :
    (row.datePublished finishedAt).IsDatedBy finishedAt := by
  unfold ProductItem.datePublished
  split
  · rename_i hplatform
    exact .inl hplatform
  · split
    · exact .inr ⟨finishedAt, rfl, le_rfl⟩
    · rename_i hnotEarlier
      cases hdate : row.publishedAt with
      | none => simp [hdate] at hnotEarlier
      | some date => exact .inr ⟨date, hdate, by simpa [hdate] using hnotEarlier⟩

/-- A date is replaced by an earlier one only. -/
theorem ProductItem.IsDatedBy.datePublished {finishedAt other : ℕ} (h : row.IsDatedBy other) :
    (row.datePublished finishedAt).IsDatedBy other := by
  unfold ProductItem.datePublished
  split
  · exact h
  · rename_i hplatform
    split
    · rename_i hearlier
      obtain ⟨date, hdate, hle⟩ := h.resolve_left hplatform
      rw [hdate, Option.all_some, decide_eq_true_eq] at hearlier
      exact .inr ⟨finishedAt, rfl, hearlier.le.trans hle⟩
    · exact h

def ProductItem.IsOf (accountId : String) (task : PublishTask) (row : ProductItem) : Prop :=
  row.accountId = accountId ∧ some row.itemId = task.itemId

instance (accountId : String) (task : PublishTask) (row : ProductItem) :
    Decidable (row.IsOf accountId task) :=
  inferInstanceAs (Decidable (_ ∧ _))

def dateRow (now : ℕ) (accountId : String) (tasks : List PublishTask) (row : ProductItem) :
    ProductItem :=
  tasks.foldl (fun row task =>
    if row.IsOf accountId task then row.datePublished (task.finishedAt.getD now) else row) row

section Dating

variable {now : ℕ} {accountId : String} {tasks : List PublishTask} {row : ProductItem}

theorem rows_dateProducts {products : ProductTable} :
    (dateProducts now accountId tasks products).rows =
      products.rows.map (dateRow now accountId tasks) := by
  induction tasks generalizing products with
  | nil => exact (List.map_id _).symm
  | cons task tasks ih =>
      rw [dateProducts, List.foldl_cons, ← dateProducts, ih, Table.rows_map, List.map_map]
      rfl

variable {task : PublishTask}

theorem isOf_datePublished {finishedAt : ℕ} :
    (row.datePublished finishedAt).IsOf accountId task ↔ row.IsOf accountId task := by
  have hkey := key_datePublished finishedAt row
  rw [Prod.mk.injEq] at hkey
  rw [ProductItem.IsOf, ProductItem.IsOf, hkey.1, hkey.2]

theorem dateRow_cons :
    dateRow now accountId (task :: tasks) row = dateRow now accountId tasks
      (if row.IsOf accountId task then row.datePublished (task.finishedAt.getD now) else row) :=
  rfl

theorem key_dateRow :
    ((dateRow now accountId tasks row).accountId, (dateRow now accountId tasks row).itemId) =
      (row.accountId, row.itemId) := by
  induction tasks generalizing row with
  | nil => rfl
  | cons first tasks ih =>
      rw [dateRow_cons, ih]
      split
      · exact key_datePublished _ row
      · rfl

theorem isOf_dateRow :
    (dateRow now accountId tasks row).IsOf accountId task ↔ row.IsOf accountId task := by
  have hkey : ((dateRow now accountId tasks row).accountId,
      (dateRow now accountId tasks row).itemId) = (row.accountId, row.itemId) := key_dateRow
  rw [Prod.mk.injEq] at hkey
  rw [ProductItem.IsOf, ProductItem.IsOf, hkey.1, hkey.2]

theorem ProductItem.IsDatedBy.dateRow {other : ℕ} (h : row.IsDatedBy other) :
    (dateRow now accountId tasks row).IsDatedBy other := by
  induction tasks generalizing row with
  | nil => exact h
  | cons task tasks ih =>
      rw [dateRow_cons]
      split
      · exact ih h.datePublished
      · exact ih h

theorem isDatedBy_dateRow (htask : task ∈ tasks) (hrow : row.IsOf accountId task) :
    (dateRow now accountId tasks row).IsDatedBy (task.finishedAt.getD now) := by
  induction tasks generalizing row with
  | nil => cases htask
  | cons first tasks ih =>
      rw [dateRow_cons]
      rcases List.mem_cons.mp htask with rfl | hlater
      · rw [if_pos hrow]
        exact (isDatedBy_datePublished _ row).dateRow
      · split
        · exact ih hlater (isOf_datePublished.mpr hrow)
        · exact ih hlater hrow

theorem dateRow_eq_self (h : ∀ task ∈ tasks, row.IsOf accountId task →
      row.IsDatedBy (task.finishedAt.getD now)) : dateRow now accountId tasks row = row := by
  induction tasks with
  | nil => rfl
  | cons task tasks ih =>
      rw [List.forall_mem_cons] at h
      rw [dateRow_cons]
      split
      · rename_i hrow
        rw [(h.1 hrow).datePublished_eq]
        exact ih h.2
      · exact ih h.2

theorem ProductItem.Shows.dateRow {seenAt : ℕ} {item : ManagedProduct} (h : row.Shows seenAt item) :
    (dateRow now accountId tasks row).Shows seenAt item := by
  induction tasks generalizing row with
  | nil => exact h
  | cons task tasks ih =>
      rw [dateRow_cons]
      split
      · exact ih h.datePublished
      · exact ih h

end Dating

theorem confirm_confirm (now later : ℕ) (task : PublishTask) :
    (task.confirm now).confirm later = { task.confirm now with updatedAt := later } := rfl

def repeatRow (later : ℕ) (accountId : String) (seenIds : List String) (misses : Bool)
    (row : ProductItem) : ProductItem :=
  if row.accountId = accountId ∧ row.itemId ∈ seenIds then row.touch later
  else if misses ∧ row.accountId = accountId then row.miss later
  else row

structure Repeated (later jitter : ℕ) (accountId : String) (items : List ManagedProduct)
    (full complete : Bool) (synced again : SyncDatabase) : Prop where
  products : again.products.rows = synced.products.rows.map
    (repeatRow later accountId (items.map ManagedProduct.itemId) (full && complete))
  tasks : again.tasks.rows = synced.tasks.rows.map fun task =>
    if task.isListed accountId (items.map ManagedProduct.itemId) then
      { task with updatedAt := later }
    else task
  settings : again.settings.rows = synced.settings.rows.map fun setting =>
    if setting.accountId = accountId then
      { setting with
        lastSyncAt := some later
        lastFullSyncAt := if full && complete then some later else setting.lastFullSyncAt
        nextSyncAt := setting.nextSync later jitter
        updatedAt := later }
    else setting
  accounts : again.accounts = synced.accounts
  runs : again.runs = synced.runs
  items : again.items = synced.items

/-- What a sync leaves for the next one. -/
structure Settled (now : ℕ) (accountId : String) (items : List ManagedProduct)
    (database : CatalogDatabase) : Prop where
  shows : ∀ item, LastListed items item → ∃ row,
    database.products.lookup (accountId, item.itemId) = some row ∧ row.Shows now item
  confirmed : ∀ task ∈ database.tasks.rows,
    task.isListed accountId (items.map ManagedProduct.itemId) → task.confirm now = task
  dated : ∀ task ∈ database.tasks.rows,
    task.isListed accountId (items.map ManagedProduct.itemId) → ∀ row ∈ database.products.rows,
      row.IsOf accountId task → row.IsDatedBy (task.finishedAt.getD now)

def seeRow (now : ℕ) (accountId : String) (items : List ManagedProduct) (row : ProductItem) :
    ProductItem :=
  items.foldl (fun row item =>
    if row.accountId = accountId ∧ row.itemId = item.itemId then row.see now item else row) row

section Repeating

variable {now later : ℕ} {accountId : String} {items : List ManagedProduct}
  {item : ManagedProduct} {row : ProductItem} {persisted before : ProductTable}

theorem seeRow_cons : seeRow now accountId (item :: items) row = seeRow now accountId items
    (if row.accountId = accountId ∧ row.itemId = item.itemId then row.see now item else row) :=
  rfl

theorem seeRow_of_not_listed (hrow : ¬ Listed accountId items row) :
    seeRow now accountId items row = row := by
  induction items with
  | nil => rfl
  | cons first items ih =>
      rw [listed_cons, not_or, listed_singleton] at hrow
      rw [seeRow_cons, if_neg hrow.1]
      exact ih hrow.2

theorem seeRow_of_lastListed (hlast : LastListed items item)
    (hrow : row.accountId = accountId ∧ row.itemId = item.itemId) :
    seeRow now accountId items row = row.see now item := by
  induction items generalizing row with
  | nil =>
      obtain ⟨earlier, later, hitems, -⟩ := hlast
      simp at hitems
  | cons first items ih =>
      obtain ⟨earlier, later, hitems, hlater⟩ := hlast
      cases earlier with
      | nil =>
          cases hitems
          rw [seeRow_cons, if_pos hrow]
          refine seeRow_of_not_listed fun hlisted => hlater ?_
          rw [← hrow.2]
          exact hlisted.2
      | cons _ earlier =>
          cases hitems
          have hlast : LastListed (earlier ++ item :: later) item := ⟨earlier, later, rfl, hlater⟩
          rw [seeRow_cons]
          split
          · exact ih hlast hrow
          · exact ih hlast hrow

theorem exists_lastListed {itemId : String} (hlisted : itemId ∈ items.map ManagedProduct.itemId) :
    ∃ item, LastListed items item ∧ item.itemId = itemId := by
  induction items with
  | nil => cases hlisted
  | cons first items ih =>
      by_cases hagain : itemId ∈ items.map ManagedProduct.itemId
      · obtain ⟨item, ⟨earlier, later, rfl, hlater⟩, hid⟩ := ih hagain
        exact ⟨item, ⟨first :: earlier, later, rfl, hlater⟩, hid⟩
      · rw [List.map_cons, List.mem_cons] at hlisted
        have hid := hlisted.resolve_right hagain
        subst hid
        exact ⟨first, ⟨[], items, rfl, hagain⟩, rfl⟩

theorem foldlM_of_stored
    (hstored : ∀ item ∈ items, (persisted.lookup (accountId, item.itemId)).isSome) :
    ∃ after, items.foldlM (storeItem now accountId persisted) before = some after ∧
      after.rows = before.rows.map (seeRow now accountId items) := by
  induction items generalizing before with
  | nil => exact ⟨before, rfl, (List.map_id _).symm⟩
  | cons item items ih =>
      rw [List.forall_mem_cons] at hstored
      obtain ⟨stored, hfound⟩ := Option.isSome_iff_exists.mp hstored.1
      rw [List.foldlM_cons, storeItem, hfound]
      obtain ⟨after, hfold, hrows⟩ := ih hstored.2
      exact ⟨after, hfold, by rw [hrows, Table.rows_map, List.map_map]; rfl⟩

theorem listed_of_isOf {task : PublishTask}
    (htask : task.isListed accountId (items.map ManagedProduct.itemId) = true)
    (hrow : row.IsOf accountId task) : Listed accountId items row := by
  simp only [PublishTask.isListed, Bool.and_eq_true] at htask
  rw [← hrow.2, Option.any_some] at htask
  exact ⟨hrow.1, of_decide_eq_true htask.1.2⟩

/-- Before the missing products are counted, a row that is stored changes its times only. -/
theorem Settled.dateRow_seeRow {synced : CatalogDatabase} (h : Settled now accountId items synced)
    (hrow : row ∈ synced.products.rows) :
    dateRow later accountId
        (synced.tasks.rows.filter
          (PublishTask.isListed accountId (items.map ManagedProduct.itemId)))
        (seeRow later accountId items row) =
      if row.accountId = accountId ∧ row.itemId ∈ items.map ManagedProduct.itemId then
        row.touch later
      else row := by
  by_cases hlisted : row.accountId = accountId ∧ row.itemId ∈ items.map ManagedProduct.itemId
  · obtain ⟨item, hlast, hid⟩ := exists_lastListed hlisted.2
    obtain ⟨found, hfound, hshows⟩ := h.shows item hlast
    have hkey : (accountId, item.itemId) ∈ [(row.accountId, row.itemId)] :=
      mem_keys_iff.mpr ⟨hlisted.1, hid.symm⟩
    rw [Table.lookup_eq_some_iff.mpr ⟨hrow, hkey⟩, Option.some.injEq] at hfound
    subst hfound
    rw [if_pos hlisted, seeRow_of_lastListed hlast ⟨hlisted.1, hid.symm⟩, hshows.see]
    refine dateRow_eq_self fun task htask hof => ?_
    obtain ⟨htask, hconfirmed⟩ := List.mem_filter.mp htask
    have hdated : row.IsDatedBy (task.finishedAt.getD now) :=
      h.dated task htask hconfirmed row hrow hof
    rw [← h.confirmed task htask hconfirmed] at hdated ⊢
    exact hdated
  · rw [if_neg hlisted, seeRow_of_not_listed hlisted]
    refine dateRow_eq_self fun task htask hof => ?_
    exact absurd (listed_of_isOf (List.mem_filter.mp htask).2 hof) hlisted

/-- Applied once more, the same sync sets times and counts the missing products again. -/
theorem Settled.applySync {full complete : Bool} {synced : CatalogDatabase}
    (h : Settled now accountId items synced) :
    ∃ again, applySync later accountId items full complete synced = some again ∧
      again.products.rows = synced.products.rows.map
        (repeatRow later accountId (items.map ManagedProduct.itemId) (full && complete)) ∧
      again.tasks.rows = synced.tasks.rows.map (fun task =>
        if task.isListed accountId (items.map ManagedProduct.itemId) then
          { task with updatedAt := later }
        else task) ∧
      again.accounts = synced.accounts ∧ again.runs = synced.runs ∧
      again.items = synced.items := by
  have hstored : ∀ item ∈ items,
      (synced.products.lookup (accountId, item.itemId)).isSome := by
    intro item hitem
    obtain ⟨last, hlast, hid⟩ := exists_lastListed (List.mem_map_of_mem hitem)
    obtain ⟨found, hfound, -⟩ := h.shows last hlast
    rw [← hid, hfound]
    rfl
  obtain ⟨stored, hfold, hrows⟩ := foldlM_of_stored hstored
  rw [Products.applySync, hfold, Option.map_some]
  have hdated : (dateProducts later accountId (synced.tasks.rows.filter
      (PublishTask.isListed accountId (items.map ManagedProduct.itemId))) stored).rows =
        synced.products.rows.map fun row =>
          if row.accountId = accountId ∧ row.itemId ∈ items.map ManagedProduct.itemId then
            row.touch later
          else row := by
    rw [rows_dateProducts, hrows, List.map_map]
    exact List.map_congr_left fun row hrow => h.dateRow_seeRow hrow
  refine ⟨_, rfl, ?_, ?_, rfl, rfl, rfl⟩
  · by_cases hmisses : full && complete
    · simp only [hmisses, if_true, missProducts, Table.rows_map, hdated, List.map_map]
      refine List.map_congr_left fun row _ => ?_
      by_cases hlisted : row.accountId = accountId ∧ row.itemId ∈ items.map ManagedProduct.itemId
      · simp only [Function.comp, repeatRow, if_pos hlisted]
        exact if_neg fun hlacks => hlacks.2 hlisted.2
      · simp only [Function.comp, repeatRow, if_neg hlisted, true_and]
        refine if_congr ⟨fun hlacks => hlacks.1, fun haccount => ⟨haccount, ?_⟩⟩ rfl rfl
        exact fun hid => hlisted ⟨haccount, hid⟩
    · simp only [hmisses, Bool.false_eq_true, if_false]
      rw [hdated]
      refine List.map_congr_left fun row _ => ?_
      simp only [repeatRow, Bool.false_eq_true, false_and, if_false]
  · rw [Table.rows_map]
    refine List.map_congr_left fun task htask => ?_
    split
    · rename_i hconfirmed
      rw [← h.confirmed task htask hconfirmed, confirm_confirm]
    · rfl

theorem mem_missProducts_iff {products : ProductTable} (hlisted : Listed accountId items row) :
    row ∈ (missProducts now accountId (items.map ManagedProduct.itemId) products).rows ↔
      row ∈ products.rows := by
  rw [missProducts, Table.rows_map, List.mem_map]
  constructor
  · rintro ⟨found, hfound, rfl⟩
    split
    · rename_i hlacks
      rw [if_pos hlacks] at hlisted
      have hkey := key_miss now found
      rw [Prod.mk.injEq] at hkey
      exact absurd (hkey.2 ▸ hlisted.2) hlacks.2
    · exact hfound
  · exact fun hrow => ⟨row, hrow, if_neg fun hlacks => hlacks.2 hlisted.2⟩

theorem NewListedOnce.applySync {full complete : Bool} {database : CatalogDatabase}
    (hnew : NewListedOnce accountId items database.products) :
    ∃ synced, applySync now accountId items full complete database = some synced ∧
      Settled now accountId items synced := by
  have hpending : Pending accountId database.products database.products items :=
    ⟨fun _ hfound => hfound, fun _ _ hnone => hnone, hnew⟩
  obtain ⟨stored, hfold, hshows, -⟩ :
      ∃ stored, items.foldlM (storeItem now accountId database.products) database.products =
          some stored ∧ _ := hpending.foldlM
  rw [Products.applySync, hfold, Option.map_some]
  set confirmed := database.tasks.rows.filter
    (PublishTask.isListed accountId (items.map ManagedProduct.itemId)) with hconfirmed
  have hrows : ∀ row, Listed accountId items row →
      (row ∈ (if full && complete then
          missProducts now accountId (items.map ManagedProduct.itemId)
            (dateProducts now accountId confirmed stored)
        else dateProducts now accountId confirmed stored).rows ↔
        ∃ found ∈ stored.rows, dateRow now accountId confirmed found = row) := by
    intro row hlisted
    rw [← List.mem_map, ← rows_dateProducts]
    split
    · exact mem_missProducts_iff hlisted
    · rfl
  refine ⟨_, rfl, fun item hlast => ?_, ?_, ?_⟩
  · obtain ⟨found, hfound, hitem⟩ := hshows item hlast
    have hkey := key_of_lookup hfound
    have hdated : (accountId, item.itemId) ∈
        [((dateRow now accountId confirmed found).accountId,
          (dateRow now accountId confirmed found).itemId)] := by
      rw [key_dateRow]
      exact mem_keys_iff.mpr hkey
    have hlisted : Listed accountId items (dateRow now accountId confirmed found) := by
      obtain ⟨earlier, later, rfl, -⟩ := hlast
      refine ⟨(mem_keys_iff.mp hdated).1, ?_⟩
      rw [(mem_keys_iff.mp hdated).2]
      exact List.mem_map_of_mem (by simp)
    exact ⟨_, Table.lookup_eq_some_iff.mpr
      ⟨(hrows _ hlisted).mpr ⟨found, Table.mem_of_lookup hfound, rfl⟩, hdated⟩, hitem.dateRow⟩
  · intro task htask hlisted
    obtain ⟨before, hbefore, rfl⟩ := List.mem_map.mp htask
    split
    · rfl
    · rename_i hother
      rw [if_neg hother] at hlisted
      exact absurd hlisted hother
  · intro task htask hlisted row hrow hof
    obtain ⟨found, hfound, rfl⟩ := (hrows row (listed_of_isOf hlisted hof)).mp hrow
    obtain ⟨before, hbefore, rfl⟩ := List.mem_map.mp htask
    split at hlisted
    · rename_i hbeforeListed
      rw [if_pos hbeforeListed] at hof ⊢
      have hfoundOf : found.IsOf accountId before := isOf_dateRow.mp hof
      have hdated : (dateRow now accountId confirmed found).IsDatedBy
          (before.finishedAt.getD now) :=
        isDatedBy_dateRow (List.mem_filter.mpr ⟨hbefore, hbeforeListed⟩) hfoundOf
      exact hdated
    · rename_i hother
      exact absurd hlisted hother

theorem synced_synced {jitter : ℕ} {full complete : Bool} (setting : SyncSetting) :
    (setting.synced now jitter full complete).synced now jitter full complete =
      setting.synced now jitter full complete := by
  cases hfull : full && complete <;> simp only [SyncSetting.synced, hfull] <;> rfl

theorem exists_syncSetting (now jitter : ℕ) (accountId : String) (full complete : Bool)
    (settings : Table SyncSetting fun setting => [setting.accountId]) :
    ∃ synced, syncSetting now jitter accountId full complete settings = some synced ∧
      (synced.lookup accountId).isSome ∧
      ∀ setting ∈ synced.rows, setting.accountId = accountId →
        setting.synced now jitter full complete = setting := by
  unfold syncSetting
  split
  · rename_i hnone
    obtain ⟨synced, hinsert⟩ : ∃ synced, settings.insert? (SyncSetting.synced now jitter full
        complete { accountId := accountId, createdAt := now }) = some synced := by
      refine Table.exists_insert?_of_fresh fun key hkey => ?_
      rw [List.mem_singleton.mp hkey]
      exact hnone
    refine ⟨synced, hinsert, ?_, fun setting hsetting haccount => ?_⟩
    · have hself : accountId ∈ [(SyncSetting.synced now jitter full complete
          { accountId := accountId, createdAt := now }).accountId] := List.mem_singleton_self _
      rw [Table.lookup_of_insert? hinsert accountId, if_pos hself]
      rfl
    · rw [Table.rows_of_insert? hinsert, List.mem_append, List.mem_singleton] at hsetting
      rcases hsetting with hstored | rfl
      · rw [← haccount] at hnone
        exact absurd (List.mem_singleton_self _)
          (Table.lookup_eq_none_iff.mp hnone setting hstored)
      · exact synced_synced _
  · rename_i stored hstored
    refine ⟨_, rfl, by rw [Table.lookup_map, hstored]; rfl, fun setting hsetting haccount => ?_⟩
    obtain ⟨before, -, rfl⟩ := List.mem_map.mp hsetting
    split
    · exact synced_synced before
    · rename_i hother
      rw [if_neg hother] at haccount
      exact absurd haccount hother

theorem syncSetting_of_synced {jitter laterJitter : ℕ} {full complete : Bool}
    {settings : Table SyncSetting fun setting => [setting.accountId]}
    (hstored : (settings.lookup accountId).isSome)
    (hsynced : ∀ setting ∈ settings.rows, setting.accountId = accountId →
      setting.synced now jitter full complete = setting) :
    ∃ again, syncSetting later laterJitter accountId full complete settings = some again ∧
      again.rows = settings.rows.map fun setting =>
        if setting.accountId = accountId then
          { setting with
            lastSyncAt := some later
            lastFullSyncAt := if full && complete then some later else setting.lastFullSyncAt
            nextSyncAt := setting.nextSync later laterJitter
            updatedAt := later }
        else setting := by
  obtain ⟨stored, hfound⟩ := Option.isSome_iff_exists.mp hstored
  rw [syncSetting, hfound]
  refine ⟨_, rfl, ?_⟩
  rw [Table.rows_map]
  refine List.map_congr_left fun setting hsetting => ?_
  split
  · rename_i haccount
    rw [← hsynced setting hsetting haccount]
    rfl
  · rfl

end Repeating

def OneRow (accountId itemId : String) (products : ProductTable) (row : ProductItem) : Prop :=
  (products.rows.filter fun stored => stored.accountId = accountId ∧ stored.itemId = itemId) =
    [row]

theorem oneRow_of_lookup {accountId itemId : String} {products : ProductTable}
    (hlookup : products.lookup (accountId, itemId) = some row) :
    OneRow accountId itemId products row := by
  have hkey := key_of_lookup hlookup
  have hmem : row ∈ products.rows.filter fun stored =>
      stored.accountId = accountId ∧ stored.itemId = itemId :=
    List.mem_filter.mpr ⟨Table.mem_of_lookup hlookup, decide_eq_true hkey⟩
  have hall : ∀ stored ∈ products.rows.filter fun stored =>
      stored.accountId = accountId ∧ stored.itemId = itemId, stored = row := by
    intro stored hstored
    obtain ⟨hstored, hstoredKey⟩ := List.mem_filter.mp hstored
    exact Table.eq_of_key hstored (Table.mem_of_lookup hlookup)
      (mem_keys_iff.mpr (of_decide_eq_true hstoredKey)) (mem_keys_iff.mpr hkey)
  have hpairwise := products.unique.filter fun stored =>
    decide (stored.accountId = accountId ∧ stored.itemId = itemId)
  unfold OneRow
  cases hfilter : products.rows.filter fun stored =>
      stored.accountId = accountId ∧ stored.itemId = itemId with
  | nil =>
      rw [hfilter] at hmem
      cases hmem
  | cons first rest =>
      rw [hfilter] at hall hpairwise
      rw [List.forall_mem_cons] at hall
      cases rest with
      | nil => rw [hall.1]
      | cons second rest =>
          have hsecond := hall.2 second (by simp)
          have hclash := (List.pairwise_cons.mp hpairwise).1 second (by simp)
          rw [hall.1, hsecond] at hclash
          exact absurd (List.mem_singleton_self _) (hclash _ (List.mem_singleton_self _))

/-- A sync commits where no new product is listed twice.  It leaves one row for each listed
product, with what the product was listed as last, and repeated it changes times, but for the
products that a full and complete sync lacks. -/
theorem sync_repeats (now later jitter laterJitter : ℕ) (accountId : String)
    (items : List ManagedProduct) (full complete : Bool) (database : SyncDatabase)
    (hnew : NewListedOnce accountId items database.products) :
    ∃ synced, applyWholeSync now jitter accountId items full complete database = some synced ∧
      (∀ item, LastListed items item →
        ∃ row, OneRow accountId item.itemId synced.products row ∧ row.Shows now item) ∧
      ∃ again,
        applyWholeSync later laterJitter accountId items full complete synced = some again ∧
          Repeated later laterJitter accountId items full complete synced again := by
  obtain ⟨catalog, hcatalog, hsettled⟩ :
      ∃ catalog, applySync now accountId items full complete database.toCatalogDatabase =
        some catalog ∧ Settled now accountId items catalog := hnew.applySync
  obtain ⟨settings, hsettings, hstored, hsynced⟩ :=
    exists_syncSetting now jitter accountId full complete database.settings
  obtain ⟨again, hagain, hproducts, htasks, haccounts, hruns, hitems⟩ :
      ∃ again, applySync later accountId items full complete catalog = some again ∧ _ :=
    hsettled.applySync
  obtain ⟨againSettings, hagainSettings, hrows⟩ :
      ∃ again, syncSetting later laterJitter accountId full complete settings = some again ∧ _ :=
    syncSetting_of_synced hstored hsynced
  refine ⟨{ toCatalogDatabase := catalog, settings := settings }, ?_, fun item hlast => ?_,
    { toCatalogDatabase := again, settings := againSettings }, ?_, ?_⟩
  · simp [applyWholeSync, hcatalog, hsettings]
  · obtain ⟨row, hrow, hshows⟩ := hsettled.shows item hlast
    exact ⟨row, oneRow_of_lookup hrow, hshows⟩
  · simp [applyWholeSync, hagain, hagainSettings]
  · exact
      { products := hproducts
        tasks := htasks
        settings := hrows
        accounts := haccounts
        runs := hruns
        items := hitems }

def storedCatalog (itemId : String) : SyncDatabase where
  accounts := Table.empty
  runs := Table.empty
  items := []
  products := ⟨[{ accountId := "1", itemId := itemId }], List.pairwise_singleton _ _⟩
  tasks := Table.empty
  settings := Table.empty

/-- The stored product may be listed twice. -/
theorem sync_repeats_stored_twice :
    ∃ synced, applyWholeSync 5 0 "1"
        [{ itemId := "a", title := "old" }, { itemId := "a", title := "new" }] true true
        (storedCatalog "a") = some synced ∧
      ∃ row, OneRow "1" "a" synced.products row ∧ row.title = "new" := by
  obtain ⟨synced, hsynced, hshows, -⟩ := sync_repeats 5 9 0 0 "1"
    [{ itemId := "a", title := "old" }, { itemId := "a", title := "new" }] true true
    (storedCatalog "a") (by decide)
  obtain ⟨row, hrow, hnew⟩ := hshows { itemId := "a", title := "new" }
    ⟨[{ itemId := "a", title := "old" }], [], rfl, List.not_mem_nil⟩
  exact ⟨synced, hsynced, row, hrow, (congrArg ProductItem.title hnew).symm⟩

/-- A new product that is listed twice is refused, and a sync that is repeated counts a product
that it lacks once more. -/
theorem repeated_item_refused :
    applyWholeSync 5 0 "1" [{ itemId := "a" }, { itemId := "a" }] true true (storedCatalog "b") =
        none ∧
      (((applyWholeSync 5 0 "1" [{ itemId := "a" }] true true (storedCatalog "b")).bind
          fun synced => synced.products.lookup ("1", "b")).map ProductItem.standing =
        some ⟨.selling, "pending_confirmation", 1⟩) ∧
      ((((applyWholeSync 5 0 "1" [{ itemId := "a" }] true true (storedCatalog "b")).bind
          (applyWholeSync 9 0 "1" [{ itemId := "a" }] true true)).bind
          fun again => again.products.lookup ("1", "b")).map ProductItem.standing =
        some ⟨.notSelling, "missing", 2⟩) := by
  refine ⟨?_, ?_, ?_⟩
  · rfl
  · decide
  · decide

end XianyuAdmin.Products
