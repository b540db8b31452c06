import XianyuAdmin.Products.ProductCalls

/-!
# Images in use

Every asset of a snapshot is referenced by the task as long as it exists.  So the
calls that look for references, or for tasks that are pending or running, spare
the images of such tasks; the sweep over expired images looks for references
that have not lapsed, and a task may be pending or running longer than that.
-/

namespace XianyuAdmin.Products

open Transition Python

def Covered (database : Database) : Prop :=
  ∀ task ∈ database.tasks.rows, ∀ assetId accountId,
    assetRef assetId ∈ task.snapshot.images → (assetId, accountId) ∈ database.owners →
      accountId = task.accountId ∧ (task.taskId, assetId) ∈ database.references

variable {database : Database} {assetId : String} {asset : ImageAsset}

theorem owner_unique {left right : String} (hleft : (assetId, left) ∈ database.owners)
    (hright : (assetId, right) ∈ database.owners) :
    left = right := by
  obtain ⟨leftAsset, hleftRow, hleftEq⟩ := List.mem_map.mp hleft
  obtain ⟨rightAsset, hrightRow, hrightEq⟩ := List.mem_map.mp hright
  rw [Prod.mk.injEq] at hleftEq hrightEq
  have hsame : leftAsset = rightAsset := Table.eq_of_key hleftRow hrightRow
    (List.mem_singleton.mpr hleftEq.1.symm) (List.mem_singleton.mpr hrightEq.1.symm)
  rw [← hleftEq.2, ← hrightEq.2, hsame]

theorem mem_referencesOf_iff {taskId : Identifier} {taskAsset : TaskAsset} :
    taskAsset ∈ referencesOf database taskId ↔
      taskAsset ∈ database.taskAssets.rows ∧ taskAsset.taskId = taskId := by
  unfold referencesOf
  rw [List.mem_insertionSort, List.mem_filter, decide_eq_true_iff]

theorem mem_retryAssetIds {source : PublishTask}
    (hreference : (source.taskId, assetId) ∈ database.references) :
    assetId ∈ retryAssetIds database source := by
  obtain ⟨taskAsset, hstored, heq⟩ := List.mem_map.mp hreference
  rw [Prod.mk.injEq] at heq
  have hmem : assetId ∈ (referencesOf database source.taskId).map TaskAsset.assetId :=
    List.mem_map.mpr ⟨taskAsset, mem_referencesOf_iff.mpr ⟨hstored, heq.1⟩, heq.2⟩
  unfold retryAssetIds
  dsimp only
  split
  · rename_i hnone
    rw [List.isEmpty_iff.mp hnone] at hmem
    cases hmem
  · exact hmem

theorem covered_of_effect {before after : Database} {deleted : List String}
    (hcovered : Covered before) (heffect : Effect before after deleted) : Covered after := by
  intro task htask assetId accountId hlisted howner
  cases heffect with
  | rewrites change hrewrites =>
      rw [hrewrites.tasks] at htask
      rw [hrewrites.owners] at howner
      obtain ⟨stored, hstored, rfl⟩ := List.mem_map.mp htask
      have hkeeps := hrewrites.keeps stored
      rw [hkeeps.snapshot] at hlisted
      rw [hkeeps.accountId, hkeeps.taskId, hrewrites.references]
      exact hcovered stored hstored assetId accountId hlisted howner
  | createsFirst created assetIds hcreates =>
      rw [hcreates.tasks, List.map_id] at htask
      rw [hcreates.owners] at howner
      rw [hcreates.references]
      rcases List.mem_append.mp htask with hold | hnew
      · obtain ⟨haccount, hreference⟩ := hcovered task hold assetId accountId hlisted howner
        exact ⟨haccount, List.mem_append_left _ hreference⟩
      · rw [List.mem_singleton.mp hnew] at hlisted ⊢
        obtain ⟨hmem, howned⟩ := hcreates.covers assetId hlisted
        exact ⟨owner_unique howner howned,
          List.mem_append_right _ (List.mem_map.mpr ⟨assetId, hmem, rfl⟩)⟩
  | retries now source created assetIds hretries =>
      obtain ⟨-, -, haccount, hsnapshot⟩ := hretries.retry
      rw [hretries.tasks] at htask
      rw [hretries.owners] at howner
      rw [hretries.references]
      rcases List.mem_append.mp htask with hold | hnew
      · obtain ⟨stored, hstored, rfl⟩ := List.mem_map.mp hold
        have hkeeps := PublishTask.keeps_ite source.taskId
          (fun stored => stored.keeps_hide now) stored
        rw [hkeeps.snapshot] at hlisted
        rw [hkeeps.accountId, hkeeps.taskId]
        obtain ⟨howned, hreference⟩ := hcovered stored hstored assetId accountId hlisted howner
        exact ⟨howned, List.mem_append_left _ hreference⟩
      · -- the references of the source are copied
        rw [List.mem_singleton.mp hnew] at hlisted ⊢
        rw [hsnapshot] at hlisted
        obtain ⟨howned, hreference⟩ :=
          hcovered source hretries.stored assetId accountId hlisted howner
        have hmem : assetId ∈ assetIds := hretries.assets ▸ mem_retryAssetIds hreference
        exact ⟨howned.trans haccount.symm,
          List.mem_append_right _ (List.mem_map.mpr ⟨assetId, hmem, rfl⟩)⟩
  | uploads uploadedId uploaderId htasks howners hreferences hfresh =>
      rw [htasks] at htask
      rw [howners] at howner
      rw [hreferences]
      rcases List.mem_append.mp howner with hold | hnew
      · exact hcovered task htask assetId accountId hlisted hold
      · have hsame : assetId = uploadedId := (Prod.mk.inj (List.mem_singleton.mp hnew)).1
        exact absurd (hsame ▸ hlisted) (hfresh task htask)
  | deletes deletedIds htasks howners hreferences =>
      rw [htasks] at htask
      rw [howners] at howner
      rw [hreferences]
      obtain ⟨hexists, hkept⟩ := List.mem_filter.mp howner
      obtain ⟨haccount, hreference⟩ := hcovered task htask assetId accountId hlisted hexists
      exact ⟨haccount, List.mem_filter.mpr ⟨hreference, hkept⟩⟩

theorem covered_of_step {before after : Database} {label : Option Call}
    (hcovered : Covered before) (hstep : step before label after) : Covered after :=
  covered_of_effect hcovered (effect_of_step hstep)

theorem covered_of_no_tasks (hnone : database.tasks.rows = []) : Covered database := by
  intro task htask
  rw [hnone] at htask
  cases htask

def Call.now : Call → ℕ
  | .createDraft now .. | .updateDraft now .. | .deleteDraft now .. | .createAsset now ..
  | .deleteAsset now .. | .cleanupSession now .. | .cleanupExpired now .. | .createTask now ..
  | .createDirectTask now .. | .retryTask now .. | .hideTask now .. | .updateTask now .. => now

structure IsUnused (database : Database) (now : ℕ) (asset : ImageAsset) : Prop where
  unlisted : ∀ draft ∈ database.drafts.rows, draft.accountId = asset.accountId →
    assetRef asset.assetId ∉ draft.images
  unpublished : ∀ task ∈ database.tasks.rows, task.status.isLive = true →
    assetRef asset.assetId ∉ task.snapshot.images
  lapsed : ∀ taskAsset ∈ database.taskAssets.rows, taskAsset.assetId = asset.assetId →
    ∃ retainUntil, taskAsset.retainUntil = some retainUntil ∧ retainUntil ≤ now

def SparesUsed (before : Database) (label : Option Call) (after : Database) : Prop :=
  ∀ call, label = some call → ∀ asset ∈ before.assets.rows,
    (∀ kept ∈ after.assets.rows, kept.assetId ≠ asset.assetId) →
      IsUnused before call.now asset

/-- A sweep over expired images comes upon none of a task that is pending or
running, unless a reference or a draft of its account still holds it. -/
def LeavesLive (database : Database) : Option Call → Prop
  | some (.cleanupExpired now limit) =>
      ∀ asset ∈ expiredAssets database now limit, ∀ task ∈ database.tasks.rows,
        task.status.isLive = true → assetRef asset.assetId ∈ task.snapshot.images →
          database.isRetained now asset.assetId = true ∨
            database.isMentioned asset.accountId asset.assetId = true
  | _ => True

theorem mem_owners (hasset : asset ∈ database.assets.rows) :
    (asset.assetId, asset.accountId) ∈ database.owners :=
  List.mem_map.mpr ⟨asset, hasset, rfl⟩

theorem asset_eq_of_id {left right : ImageAsset} (hleft : left ∈ database.assets.rows)
    (hright : right ∈ database.assets.rows) (hid : left.assetId = right.assetId) : left = right :=
  Table.eq_of_key hleft hright (List.mem_singleton.mpr hid.symm) (List.mem_singleton_self _)

theorem Effect.gone_iff {before after : Database} {deleted : List String}
    (heffect : Effect before after deleted) (hasset : asset ∈ before.assets.rows) :
    (∀ kept ∈ after.assets.rows, kept.assetId ≠ asset.assetId) ↔ asset.assetId ∈ deleted := by
  have hgone : (∀ kept ∈ after.assets.rows, kept.assetId ≠ asset.assetId) ↔
      ∀ accountId, (asset.assetId, accountId) ∉ after.owners := by
    constructor
    · intro hkept accountId howner
      obtain ⟨kept, hstored, heq⟩ := List.mem_map.mp howner
      exact hkept kept hstored (Prod.mk.inj heq).1
    · intro hnone kept hstored hid
      exact hnone kept.accountId (hid ▸ mem_owners hstored)
  have hstays : ∀ {owners : List (String × String)}, before.owners ⊆ owners →
      ¬∀ accountId, (asset.assetId, accountId) ∉ owners :=
    fun hsubset hnone => hnone asset.accountId (hsubset (mem_owners hasset))
  rw [hgone]
  cases heffect with
  | rewrites change hrewrites =>
      simpa [hrewrites.owners] using hstays (List.Subset.refl _)
  | createsFirst task assetIds hcreates =>
      simpa [hcreates.owners] using hstays (List.Subset.refl _)
  | retries now source task assetIds hretries =>
      simpa [hretries.owners] using hstays (List.Subset.refl _)
  | uploads assetId accountId _ howners =>
      have hin := hstays (List.subset_append_left before.owners [(assetId, accountId)])
      rw [howners]
      exact ⟨fun hnone => absurd hnone hin, fun hmem => by cases hmem⟩
  | deletes assetIds _ howners =>
      rw [howners]
      constructor
      · intro hnone
        by_contra hkept
        exact hnone asset.accountId
          (List.mem_filter.mpr ⟨mem_owners hasset, by simpa using hkept⟩)
      · intro hdeleted accountId howner
        have hkept := (List.mem_filter.mp howner).2
        simp [hdeleted] at hkept

theorem lapsed_of_not_isRetained {now : ℕ} (hretained : database.isRetained now assetId = false) :
    ∀ taskAsset ∈ database.taskAssets.rows, taskAsset.assetId = assetId →
      ∃ retainUntil, taskAsset.retainUntil = some retainUntil ∧ retainUntil ≤ now := by
  intro taskAsset hstored hid
  have hnone := List.any_eq_false.mp hretained taskAsset hstored
  cases hdate : taskAsset.retainUntil with
  | none => simp [hid, hdate] at hnone
  | some retainUntil => exact ⟨retainUntil, rfl, by simpa [hid, hdate] using hnone⟩

theorem contains_self (text : String) : contains text text = true := by
  refine List.any_eq_true.mpr ⟨text.toList, ?_, by simp⟩
  exact (List.mem_tails _ _).mpr (List.suffix_refl _)

theorem unlisted_of_not_isMentioned {accountId : String}
    (hmentioned : database.isMentioned accountId assetId = false) :
    ∀ draft ∈ database.drafts.rows, draft.accountId = accountId →
      assetRef assetId ∉ draft.images := by
  intro draft hstored haccount hlisted
  have hnone := List.any_eq_false.mp hmentioned draft hstored
  have hmention : draft.images.any (contains (assetRef assetId)) = true :=
    List.any_eq_true.mpr ⟨_, hlisted, contains_self _⟩
  simp [haccount, hmention] at hnone

theorem Covered.account_eq (hcovered : Covered database) (hasset : asset ∈ database.assets.rows)
    {task : PublishTask} (htask : task ∈ database.tasks.rows)
    (hlisted : assetRef asset.assetId ∈ task.snapshot.images) :
    task.accountId = asset.accountId :=
  (hcovered task htask _ _ hlisted (mem_owners hasset)).1.symm

theorem isUnused_of_deleted (hcovered : Covered database) {now : ℕ} {accountId : String}
    (hasset : asset ∈ database.assets.rows)
    (hdeleted : asset.assetId ∈ (Call.deleteAsset now accountId assetId).deletedIds database) :
    IsUnused database now asset := by
  simp only [Call.deletedIds] at hdeleted
  rcases deleteProductImageAsset_cases database now accountId assetId with
    ⟨hkept, -⟩ | ⟨hanswer, -, howner, hlisted, hretained, hpublished⟩
  · rw [if_neg hkept] at hdeleted
    cases hdeleted
  · rw [if_pos hanswer, List.mem_singleton] at hdeleted
    subst hdeleted
    have haccount : accountId = asset.accountId := owner_unique howner (mem_owners hasset)
    subst haccount
    refine ⟨fun draft hdraft haccount hin => ?_, fun task htask hlive hin => ?_,
      lapsed_of_not_isRetained hretained⟩
    · have hnone := List.any_eq_false.mp hlisted draft hdraft
      simp [haccount, hin] at hnone
    · have hnone := List.any_eq_false.mp hpublished task htask
      simp [hcovered.account_eq hasset htask hin, hlive, hin] at hnone

theorem isUnused_of_abandoned (hcovered : Covered database) {now : ℕ}
    {accountId uploadSessionId : String}
    (habandoned : asset ∈ abandonedAssets database accountId uploadSessionId) :
    IsUnused database now asset := by
  obtain ⟨hasset, htests⟩ := List.mem_filter.mp habandoned
  simp only [Bool.and_eq_true, decide_eq_true_eq, Bool.not_eq_true'] at htests
  obtain ⟨⟨⟨⟨haccount, -⟩, -⟩, hunreferenced⟩, hmentioned⟩ := htests
  rw [← haccount] at hmentioned
  have hnone : ∀ taskAsset ∈ database.taskAssets.rows, taskAsset.assetId ≠ asset.assetId :=
    fun taskAsset hstored hid => List.any_eq_false.mp hunreferenced taskAsset hstored (by simpa)
  refine ⟨unlisted_of_not_isMentioned hmentioned, fun task htask _ hin => ?_,
    fun taskAsset hstored hid => absurd hid (hnone taskAsset hstored)⟩
  obtain ⟨-, hreference⟩ := hcovered task htask _ _ hin (mem_owners hasset)
  obtain ⟨taskAsset, hstored, heq⟩ := List.mem_map.mp hreference
  exact hnone taskAsset hstored (Prod.mk.inj heq).2

/-- The sweep spares what is in use exactly when it leaves live tasks their images. -/
theorem isUnused_of_outdated_iff {now limit : ℕ} :
    (∀ asset ∈ outdatedAssets database now limit, IsUnused database now asset) ↔
      LeavesLive database (some (.cleanupExpired now limit)) := by
  constructor
  · intro hunused asset hexpired task htask hlive hin
    by_contra hheld
    rw [not_or, Bool.not_eq_true, Bool.not_eq_true] at hheld
    have houtdated : asset ∈ outdatedAssets database now limit :=
      List.mem_filter.mpr ⟨hexpired, by simp [hheld.1, hheld.2]⟩
    exact (hunused asset houtdated).unpublished task htask hlive hin
  · intro hleaves asset houtdated
    obtain ⟨hexpired, htests⟩ := List.mem_filter.mp houtdated
    simp only [Bool.and_eq_true, Bool.not_eq_true'] at htests
    refine ⟨unlisted_of_not_isMentioned htests.2, fun task htask hlive hin => ?_,
      lapsed_of_not_isRetained htests.1⟩
    have hheld := hleaves asset hexpired task htask hlive hin
    simp [htests.1, htests.2] at hheld

theorem forall_deleted_iff {assets : List ImageAsset} (hsubset : assets ⊆ database.assets.rows)
    {property : ImageAsset → Prop} :
    (∀ asset ∈ database.assets.rows, asset.assetId ∈ assets.map ImageAsset.assetId →
        property asset) ↔
      ∀ asset ∈ assets, property asset := by
  constructor
  · intro hall asset hasset
    exact hall asset (hsubset hasset) (List.mem_map_of_mem hasset)
  · intro hall asset hstored hid
    obtain ⟨deleted, hdeleted, hsame⟩ := List.mem_map.mp hid
    exact asset_eq_of_id (hsubset hdeleted) hstored hsame ▸ hall deleted hdeleted

theorem outdatedAssets_subset (database : Database) (now limit : ℕ) :
    outdatedAssets database now limit ⊆ database.assets.rows := by
  intro asset houtdated
  have hexpired := List.mem_of_mem_take (List.mem_of_mem_filter houtdated)
  exact List.mem_of_mem_filter ((List.mem_insertionSort _).mp hexpired)

theorem sparesUsed_iff {before after : Database} {label : Option Call}
    (hcovered : Covered before) (hstep : step before label after) :
    SparesUsed before label after ↔ LeavesLive before label := by
  have hgone := fun {asset : ImageAsset} (hasset : asset ∈ before.assets.rows) =>
    (effect_of_step hstep).gone_iff hasset
  cases label with
  | none => simp [SparesUsed, LeavesLive]
  | some call =>
      have hspares : SparesUsed before (some call) after ↔
          ∀ asset ∈ before.assets.rows, asset.assetId ∈ call.deletedIds before →
            IsUnused before call.now asset := by
        unfold SparesUsed
        simp only [Option.some.injEq, forall_eq']
        exact forall₂_congr fun asset hasset => imp_congr_left (hgone hasset)
      rw [hspares]
      cases call with
      | deleteAsset now accountId assetId =>
          simp only [LeavesLive, iff_true]
          exact fun asset hasset hdeleted => isUnused_of_deleted hcovered hasset hdeleted
      | cleanupSession now accountId uploadSessionId =>
          simp only [LeavesLive, iff_true]
          exact (forall_deleted_iff List.filter_sublist.subset).mpr fun asset habandoned =>
            isUnused_of_abandoned hcovered habandoned
      | cleanupExpired now limit =>
          exact (forall_deleted_iff (outdatedAssets_subset before now limit)).trans
            isUnused_of_outdated_iff
      | createDraft => simp [Call.deletedIds, LeavesLive]
      | updateDraft => simp [Call.deletedIds, LeavesLive]
      | deleteDraft => simp [Call.deletedIds, LeavesLive]
      | createAsset => simp [Call.deletedIds, LeavesLive]
      | createTask => simp [Call.deletedIds, LeavesLive]
      | createDirectTask => simp [Call.deletedIds, LeavesLive]
      | retryTask => simp [Call.deletedIds, LeavesLive]
      | hideTask => simp [Call.deletedIds, LeavesLive]
      | updateTask => simp [Call.deletedIds, LeavesLive]

/-- A run that starts without tasks deletes only what is unused exactly when its
sweeps leave live tasks their images. -/
theorem sparesUsed_run_iff {start database : Database} {labels : List (Option Call)}
    (hstart : start.tasks.rows = []) :
    Run (fun before label after => step before label after ∧ SparesUsed before label after)
        start labels database ↔
      Run (restrict step LeavesLive) start labels database := by
  refine run_congr Covered (fun before label after hcovered => ?_)
    (fun before label after hcovered hstep => covered_of_step hcovered hstep.1)
    (covered_of_no_tasks hstart)
  rw [and_comm]
  exact and_congr_left fun hstep => sparesUsed_iff hcovered hstep

/-- A sweep deletes an image that was uploaded and given up. -/
theorem sparesUsed_run_of_sweep :
    ∃ database, database.assets.rows = [] ∧
      Run (fun before label after => step before label after ∧ SparesUsed before label after)
        openShop
        [some (.createAsset 0 "shop" "a1" "front.jpg" none),
          some (.cleanupExpired (days 2) 100)] database := by
  refine ⟨_, ?_, (sparesUsed_run_iff rfl).mpr (.cons ⟨trivial, ?_, rfl⟩
    (.cons ⟨?_, trivial, rfl⟩ (.nil _)))⟩
  · rfl
  · intro task htask
    cases htask
  · intro asset _ task htask
    cases htask

def waitingCalls : List Call :=
  [.createAsset 0 "shop" "a1" "front.jpg" none,
    .createDirectTask 1 (shopDraws "t1" (by decide)) "shop"
      { images := ["asset:a1"], idempotencyKey := "k1", images_are_assets := by decide }]

/-- A task that waits for more than thirty days loses its image. -/
theorem not_sparesUsed_of_long_wait :
    ∃ before after, Run step openShop (waitingCalls.map some) before ∧
      step before (some (.cleanupExpired (days 31) 100)) after ∧
      ¬SparesUsed before (some (.cleanupExpired (days 31) 100)) after := by
  let before := waitingCalls.foldl applyCall openShop
  have hrun : Run step openShop (waitingCalls.map some) before := by
    refine .cons ⟨?_, rfl⟩ (.cons ⟨trivial, rfl⟩ (.nil _))
    intro task htask
    cases htask
  refine ⟨before, _, hrun, ⟨trivial, rfl⟩, fun hspares => ?_⟩
  have hasset : ∃ asset ∈ before.assets.rows, asset.assetId = "a1" := by decide
  have htask : ∃ task ∈ before.tasks.rows, task.status.isLive = true ∧
      assetRef "a1" ∈ task.snapshot.images := by decide
  have hgone : (applyCall before (.cleanupExpired (days 31) 100)).assets.rows = [] := by rfl
  obtain ⟨asset, hstored, hid⟩ := hasset
  obtain ⟨task, hwaits, hlive, hlisted⟩ := htask
  have hunused := hspares _ rfl asset hstored (by simp [hgone])
  exact hunused.unpublished task hwaits hlive (hid ▸ hlisted)

end XianyuAdmin.Products
