import XianyuAdmin.Core.Returns
import XianyuAdmin.Core.Transition
import XianyuAdmin.Products.ImageAssets

/-!
# The calls on products

The calls on drafts, images and publish tasks make up one system.  One lemma says
all that a step can do to tasks, to the references of tasks to assets and to the
owners of assets; everything proved about runs rests on it.
-/

namespace XianyuAdmin.Products

open XianyuAdmin.Python XianyuAdmin.Transition

inductive Call
  | createDraft (now : ℕ) (draftId accountId : String) (payload : Draft)
  | updateDraft (now : ℕ) (accountId draftId : String) (payload : DraftUpdate)
  | deleteDraft (now : ℕ) (accountId draftId : String)
  | createAsset (now : ℕ) (accountId assetId originalFilename : String)
      (uploadSessionId : Option String)
  | deleteAsset (now : ℕ) (accountId assetId : String)
  | cleanupSession (now : ℕ) (accountId uploadSessionId : String)
  | cleanupExpired (now limit : ℕ)
  | createTask (now : ℕ) (drawn : Drawn) (accountId : String) (payload : TaskCreatePayload)
      (resolvedLocation : Json)
  | createDirectTask (now : ℕ) (drawn : Drawn) (accountId : String)
      (payload : JobCreatePayload)
  | retryTask (now : ℕ) (drawn : Drawn) (accountId : String) (taskId : Identifier)
      (idempotencyKey : String)
  | hideTask (now : ℕ) (accountId : String) (taskId : Identifier)
  | updateTask (now : ℕ) (accountId : String) (taskId : Identifier)
      (outcome : ExecutionOutcome)

def committed {Answer : Type} (database : Database) :
    Except Failure (Answer × Database) → Database
  | .ok (_, after) => after
  | .error _ => database

def applyCall (database : Database) : Call → Database
  | .createDraft now draftId accountId payload =>
      committed database (createProductDraft database now draftId accountId payload)
  | .updateDraft now accountId draftId payload =>
      (updateProductDraft database now accountId draftId payload).2
  | .deleteDraft _ accountId draftId => (deleteProductDraft database accountId draftId).2
  | .createAsset now accountId assetId originalFilename uploadSessionId =>
      committed database
        (createProductImageAsset database now accountId assetId originalFilename
          uploadSessionId)
  | .deleteAsset now accountId assetId =>
      (deleteProductImageAsset database now accountId assetId).2
  | .cleanupSession _ accountId uploadSessionId =>
      (cleanupProductUploadSession database accountId uploadSessionId).2
  | .cleanupExpired now limit => (cleanupExpiredProductImages database now limit).2
  | .createTask now drawn accountId payload resolvedLocation =>
      committed database
        (createProductPublishTask database now drawn accountId payload resolvedLocation)
  | .createDirectTask now drawn accountId payload =>
      committed database
        (createDirectProductPublishTask database now drawn accountId payload)
  | .retryTask now drawn accountId taskId idempotencyKey =>
      committed database
        (retryProductPublishTask database now drawn accountId taskId idempotencyKey)
  | .hideTask now accountId taskId =>
      committed database (hideProductPublishTask database now accountId taskId)
  | .updateTask now accountId taskId outcome =>
      (updateAfterExecute database now accountId taskId outcome).2

/-- A new asset id is a fresh `uuid4().hex`: no snapshot names it yet. -/
def Call.DrawsFresh (database : Database) : Call → Prop
  | .createAsset _ _ assetId _ _ =>
      ∀ task ∈ database.tasks.rows, assetRef assetId ∉ task.snapshot.images
  | _ => True

/-- One step: a call, or a change of accounts and addresses by other services. -/
def step (database : Database) : Option Call → Database → Prop
  | some call, after => call.DrawsFresh database ∧ applyCall database call = after
  | none, after =>
      after.drafts = database.drafts ∧ after.assets = database.assets ∧
        after.tasks = database.tasks ∧ after.taskAssets = database.taskAssets

theorem orIntegrityError_eq_ok {Value : Type} {inserted : Option Value} {value : Value} :
    orIntegrityError inserted = .ok value ↔ inserted = some value := by
  cases inserted <;> simp [orIntegrityError]

/-- A loop that collects answers succeeds when each of its turns does. -/
theorem mapM_eq_ok_iff {Item Value : Type} {check : Item → Except Failure Value}
    {items : List Item} {values : List Value} :
    items.mapM check = .ok values ↔
      List.Forall₂ (fun item value => check item = .ok value) items values := by
  induction items generalizing values with
  | nil => cases values <;> simp [pure, Except.pure]
  | cons first rest ih =>
      rw [List.mapM_cons, List.forall₂_cons_left_iff]
      constructor
      · intro hloop
        obtain ⟨value, hfirst, hloop⟩ := bind_eq_ok_iff.mp hloop
        obtain ⟨others, hrest, hvalues⟩ := bind_eq_ok_iff.mp hloop
        cases hvalues
        exact ⟨value, others, hfirst, ih.mp hrest, rfl⟩
      · rintro ⟨value, others, hfirst, hrest, rfl⟩
        exact bind_eq_ok_iff.mpr ⟨value, hfirst, bind_eq_ok_iff.mpr ⟨others, ih.mpr hrest, rfl⟩⟩

theorem exists_of_forall₂ {Item Value : Type} {related : Item → Value → Prop}
    {items : List Item} {values : List Value} (hall : List.Forall₂ related items values)
    {item : Item} (hitem : item ∈ items) : ∃ value ∈ values, related item value := by
  induction hall with
  | nil => cases hitem
  | cons hrelated _ ih =>
      rcases List.mem_cons.mp hitem with rfl | hrest
      · exact ⟨_, List.mem_cons_self, hrelated⟩
      · obtain ⟨value, hvalue, hfound⟩ := ih hrest
        exact ⟨value, List.mem_cons_of_mem _ hvalue, hfound⟩

def Database.owners (database : Database) : List (String × String) :=
  database.assets.rows.map fun asset => (asset.assetId, asset.accountId)

def Database.references (database : Database) : List (Identifier × String) :=
  database.taskAssets.rows.map fun taskAsset => (taskAsset.taskId, taskAsset.assetId)

structure AddsReferences (before after : Database) (added : List (Identifier × String)) :
    Prop where
  tasks : after.tasks = before.tasks
  owners : after.owners = before.owners
  references : after.references = before.references ++ added

theorem AddsReferences.refl (database : Database) : AddsReferences database database [] where
  tasks := rfl
  owners := rfl
  references := (List.append_nil _).symm

theorem AddsReferences.trans {first second third : Database}
    {left right : List (Identifier × String)} (hleft : AddsReferences first second left)
    (hright : AddsReferences second third right) :
    AddsReferences first third (left ++ right) where
  tasks := hright.tasks.trans hleft.tasks
  owners := hright.owners.trans hleft.owners
  references := by
    calc
      third.references = second.references ++ right := hright.references
      _ = first.references ++ (left ++ right) := by
            rw [hleft.references, List.append_assoc]

variable {database before after : Database} {now : ℕ} {taskId : Identifier} {accountId : String}
  {drawn : Drawn} {answer : Option PublishTask}

theorem owners_map {update : ImageAsset → ImageAsset}
    (hsame : ∀ asset, (update asset).assetId = asset.assetId ∧
      (update asset).accountId = asset.accountId) :
    (database.assets.rows.map update).map (fun asset => (asset.assetId, asset.accountId)) =
      database.owners := by
  unfold Database.owners
  rw [List.map_map]
  refine List.map_congr_left fun asset _ => ?_
  simp [hsame asset]

theorem references_map {update : TaskAsset → TaskAsset}
    (hsame : ∀ taskAsset, (update taskAsset).taskId = taskAsset.taskId ∧
      (update taskAsset).assetId = taskAsset.assetId) :
    (database.taskAssets.rows.map update).map
        (fun taskAsset => (taskAsset.taskId, taskAsset.assetId)) = database.references := by
  unfold Database.references
  rw [List.map_map]
  refine List.map_congr_left fun taskAsset _ => ?_
  simp [hsame taskAsset]

theorem owners_retainFinished (taskId : Identifier) (retainUntil : ℕ) (database : Database) :
    (retainFinished taskId retainUntil database).owners = database.owners :=
  owners_map fun asset => ⟨by split <;> rfl, by split <;> rfl⟩

theorem references_retainFinished (taskId : Identifier) (retainUntil : ℕ)
    (database : Database) :
    (retainFinished taskId retainUntil database).references = database.references :=
  references_map fun taskAsset => ⟨by split <;> rfl, by split <;> rfl⟩

theorem addsReferences_retainAsset {ordinal : ℕ} {assetId : String}
    (hretain : retainAsset now taskId ordinal assetId before = .ok after) :
    AddsReferences before after [(taskId, assetId)] := by
  obtain ⟨taskAssets, hinsert, rfl⟩ := map_eq_ok_iff.mp hretain
  have hrows := Table.rows_of_insert? (orIntegrityError_eq_ok.mp hinsert)
  refine ⟨rfl, ?_, ?_⟩
  · exact owners_map fun asset => by split <;> exact ⟨rfl, rfl⟩
  · simp [Database.references, hrows]

theorem addsReferences_retainAssets {assetIds : List (String × ℕ)}
    (hretain : retainAssets now taskId assetIds before = .ok after) :
    AddsReferences before after
      ((assetIds.map Prod.fst).map fun assetId => (taskId, assetId)) := by
  induction assetIds generalizing before with
  | nil =>
      cases hretain
      exact .refl _
  | cons first rest ih =>
      obtain ⟨assetId, ordinal⟩ := first
      obtain ⟨middle, hfirst, hrest⟩ := bind_eq_ok_iff.mp hretain
      exact (addsReferences_retainAsset hfirst).trans (ih hrest)

/-- The references a draft's task gets, and what the loop has checked. -/
theorem addsReferences_retainImages {images : List (String × ℕ)}
    (hretain : retainImages now accountId taskId images before = .ok after) :
    AddsReferences before after
        (((images.map Prod.fst).filterMap assetIdOf).map fun assetId => (taskId, assetId)) ∧
      ∀ assetId, assetRef assetId ∈ images.map Prod.fst →
        (assetId, accountId) ∈ before.owners := by
  induction images generalizing before with
  | nil =>
      cases hretain
      exact ⟨.refl _, by simp⟩
  | cons first rest ih =>
      obtain ⟨imageRef, ordinal⟩ := first
      unfold retainImages at hretain
      cases hid : assetIdOf imageRef with
      | none =>
          simp only [hid] at hretain
          obtain ⟨hadds, howned⟩ := ih hretain
          refine ⟨by simpa [hid] using hadds, fun assetId hlisted => ?_⟩
          rcases List.mem_cons.mp hlisted with heq | hlisted
          · rw [assetIdOf_eq_some_iff.mpr heq.symm] at hid
            cases hid
          · exact howned assetId hlisted
      | some firstId =>
          simp only [hid] at hretain
          cases hasset : before.assets.lookup firstId with
          | none => simp [hasset, raiseValueError] at hretain
          | some asset =>
              by_cases howner : asset.accountId = accountId
              · simp only [hasset, howner, ne_eq, not_true_eq_false, if_false] at hretain
                obtain ⟨middle, hfirst, hrest⟩ := bind_eq_ok_iff.mp hretain
                have hadd := addsReferences_retainAsset hfirst
                obtain ⟨hadds, howned⟩ := ih hrest
                refine ⟨by simpa [hid] using hadd.trans hadds, fun assetId hlisted => ?_⟩
                rcases List.mem_cons.mp hlisted with heq | hlisted
                · have hmem := Table.lookup_eq_some_iff.mp hasset
                  have hfound : firstId = assetId := by
                    rw [assetIdOf_eq_some_iff.mpr heq.symm] at hid
                    exact (Option.some.inj hid).symm
                  refine List.mem_map.mpr ⟨asset, hmem.1, ?_⟩
                  rw [howner, ← hfound, List.mem_singleton.mp hmem.2]
                · exact hadd.owners ▸ howned assetId hlisted
              · simp [hasset, howner, raiseValueError] at hretain

theorem addsReferences_recordUsage {draftId : String} {selected : Option Address}
    (hrecord : recordUsage now drawn accountId draftId selected before = .ok after) :
    AddsReferences before after [] := by
  cases selected with
  | none =>
      cases hrecord
      exact .refl _
  | some address =>
      obtain ⟨usages, -, rfl⟩ := map_eq_ok_iff.mp hrecord
      exact ⟨rfl, rfl, (List.append_nil _).symm⟩

theorem rows_of_insertTask {task : PublishTask} (hinsert : insertTask before task = .ok after) :
    after.tasks.rows = before.tasks.rows ++ [task] ∧
      (∀ stored ∈ before.tasks.rows, stored.taskId ≠ task.taskId) ∧
      after.owners = before.owners ∧ after.references = before.references := by
  obtain ⟨tasks, hinserted, rfl⟩ := map_eq_ok_iff.mp hinsert
  have hinserted := orIntegrityError_eq_ok.mp hinserted
  refine ⟨Table.rows_of_insert? hinserted, fun stored hstored hid => ?_, rfl, rfl⟩
  exact Table.noClash_of_insert? hinserted stored hstored (.id task.taskId)
    (id_mem_taskKeys.mpr hid) (id_mem_taskKeys.mpr rfl)

/-- A task is added, the stored ones are changed by `change`, and the new task
gets a reference to each of these assets. -/
structure Creates (before after : Database) (change : PublishTask → PublishTask)
    (task : PublishTask) (assetIds : List String) : Prop where
  tasks : after.tasks.rows = before.tasks.rows.map change ++ [task]
  isNew : ∀ stored ∈ before.tasks.rows, stored.taskId ≠ task.taskId
  visible : task.catalogHiddenAt = none
  owners : after.owners = before.owners
  references : after.references =
    before.references ++ assetIds.map fun assetId => (task.taskId, assetId)

structure CreatesFirst (before after : Database) (task : PublishTask)
    (assetIds : List String) : Prop extends Creates before after id task assetIds where
  first : task.retryOfTaskId = none ∧ task.attemptNo = some 1
  covers : ∀ assetId, assetRef assetId ∈ task.snapshot.images →
    assetId ∈ assetIds ∧ (assetId, task.accountId) ∈ before.owners

theorem createProductPublishTask_cases {payload : TaskCreatePayload} {resolvedLocation : Json}
    (hcreate : createProductPublishTask before now drawn accountId payload resolvedLocation =
      .ok (answer, after)) :
    after = before ∨ ∃ task assetIds, CreatesFirst before after task assetIds := by
  unfold createProductPublishTask at hcreate
  split at hcreate
  · cases hcreate
    exact .inl rfl
  · split at hcreate
    · cases hcreate
      exact .inl rfl
    · rename_i draft _
      split at hcreate
      · cases hcreate
        exact .inl rfl
      · obtain ⟨selected, -, hcreate⟩ := bind_eq_ok_iff.mp hcreate
        obtain ⟨inserted, hinsert, hcreate⟩ := bind_eq_ok_iff.mp hcreate
        obtain ⟨retained, hretain, hcreate⟩ := bind_eq_ok_iff.mp hcreate
        obtain ⟨recorded, hrecord, hcreate⟩ := bind_eq_ok_iff.mp hcreate
        cases hcreate
        right
        obtain ⟨htasks, hisNew, howners, hreferences⟩ := rows_of_insertTask hinsert
        obtain ⟨hretained, howned⟩ := addsReferences_retainImages hretain
        rw [List.zipIdx_map_fst] at hretained howned
        have hadds := hretained.trans (addsReferences_recordUsage hrecord)
        refine ⟨_, draft.images.filterMap assetIdOf,
          ⟨⟨?_, hisNew, rfl, ?_, ?_⟩, ⟨rfl, rfl⟩, ?_⟩⟩
        · rw [List.map_id, ← htasks, ← hadds.tasks]
          rfl
        · rw [← howners, ← hadds.owners]
          rfl
        · rw [← hreferences, ← List.append_nil (List.map _ _), ← hadds.references]
          rfl
        · intro assetId hlisted
          exact ⟨List.mem_filterMap.mpr ⟨_, hlisted, assetIdOf_eq_some_iff.mpr rfl⟩,
            howners ▸ howned assetId hlisted⟩

theorem directAsset_eq_ok {imageRef assetId : String} {payload : JobCreatePayload}
    (hasset : directAsset before accountId payload imageRef = .ok assetId) :
    assetId = (assetIdOf imageRef).getD imageRef ∧ (assetId, accountId) ∈ before.owners := by
  unfold directAsset at hasset
  generalize hname : (assetIdOf imageRef).getD imageRef = name at hasset
  cases hlookup : before.assets.lookup name with
  | none => simp [hlookup, raiseValueError] at hasset
  | some asset =>
      have hstored := Table.lookup_eq_some_iff.mp hlookup
      have howner : asset.accountId = accountId := by
        by_contra hother
        simp [hlookup, hother, raiseValueError] at hasset
      have hid : name = assetId := by
        simp only [hlookup, howner, ne_eq, not_true_eq_false, if_false] at hasset
        split at hasset
        · cases hasset
        · split at hasset
          · cases hasset
          · exact Except.ok.inj hasset
      refine ⟨hid.symm, List.mem_map.mpr ⟨asset, hstored.1, ?_⟩⟩
      rw [howner, ← hid, List.mem_singleton.mp hstored.2]

theorem createDirectProductPublishTask_cases {payload : JobCreatePayload}
    (hcreate : createDirectProductPublishTask before now drawn accountId payload =
      .ok (answer, after)) :
    after = before ∨ ∃ task assetIds, CreatesFirst before after task assetIds := by
  unfold createDirectProductPublishTask at hcreate
  split at hcreate
  · cases hcreate
    exact .inl rfl
  · split at hcreate
    · cases hcreate
      exact .inl rfl
    · split at hcreate
      · cases hcreate
      · obtain ⟨selected, -, hcreate⟩ := bind_eq_ok_iff.mp hcreate
        obtain ⟨assetIds, hassets, hcreate⟩ := bind_eq_ok_iff.mp hcreate
        obtain ⟨inserted, hinsert, hcreate⟩ := bind_eq_ok_iff.mp hcreate
        obtain ⟨retained, hretain, hcreate⟩ := bind_eq_ok_iff.mp hcreate
        obtain ⟨recorded, hrecord, hcreate⟩ := bind_eq_ok_iff.mp hcreate
        cases hcreate
        right
        obtain ⟨htasks, hisNew, howners, hreferences⟩ := rows_of_insertTask hinsert
        have hretained := addsReferences_retainAssets hretain
        rw [List.zipIdx_map_fst] at hretained
        have hadds := hretained.trans (addsReferences_recordUsage hrecord)
        refine ⟨_, assetIds, ⟨⟨?_, hisNew, rfl, ?_, ?_⟩, ⟨rfl, rfl⟩, ?_⟩⟩
        · rw [List.map_id, ← htasks, ← hadds.tasks]
        · rw [← howners, ← hadds.owners]
        · rw [← hreferences, ← List.append_nil (List.map _ _), ← hadds.references]
        · intro assetId hlisted
          obtain ⟨found, hfound, hasset⟩ :=
            exists_of_forall₂ (mapM_eq_ok_iff.mp hassets) hlisted
          have hdirect := directAsset_eq_ok hasset
          rw [assetIdOf_eq_some_iff.mpr rfl, Option.getD_some] at hdirect
          exact ⟨hdirect.1 ▸ hfound, hdirect.1 ▸ hdirect.2⟩

/-- The new task retries `source`, which leaves the catalog. -/
structure Retries (before after : Database) (now : ℕ) (source task : PublishTask)
    (assetIds : List String) : Prop
    extends Creates before after
      (fun stored => if stored.taskId = source.taskId then stored.hide now else stored)
      task assetIds where
  stored : source ∈ before.tasks.rows
  shown : source.catalogHiddenAt = none
  retry : task.retryOfTaskId = some source.taskId ∧
    task.attemptNo = some (source.attempt + 1) ∧ task.accountId = source.accountId ∧
    task.snapshot.images = source.snapshot.images
  assets : assetIds = retryAssetIds before source

theorem retryAsset_eq_ok {assetId retried : String}
    (hretry : retryAsset before accountId assetId = .ok retried) : assetId = retried := by
  unfold retryAsset at hretry
  split at hretry
  · exact Except.ok.inj hretry
  · cases hretry

theorem retryProductPublishTask_cases {idempotencyKey : String}
    (hretry : retryProductPublishTask before now drawn accountId taskId idempotencyKey =
      .ok (answer, after)) :
    after = before ∨ ∃ source task assetIds, Retries before after now source task assetIds := by
  unfold retryProductPublishTask at hretry
  split at hretry
  · split at hretry
    · cases hretry
    · cases hretry
      exact .inl rfl
  · split at hretry
    · cases hretry
      exact .inl rfl
    · rename_i source hsource
      split at hretry
      · cases hretry
        exact .inl rfl
      · rename_i howner
        split at hretry
        · cases hretry
        · rename_i hshown
          split at hretry
          · cases hretry
          · obtain ⟨assetIds, hassets, hretry⟩ := bind_eq_ok_iff.mp hretry
            obtain ⟨inserted, hinsert, hretry⟩ := bind_eq_ok_iff.mp hretry
            obtain ⟨retained, hretain, hretry⟩ := bind_eq_ok_iff.mp hretry
            cases hretry
            right
            obtain ⟨htasks, hisNew, howners, hreferences⟩ := rows_of_insertTask hinsert
            have hadds := addsReferences_retainAssets hretain
            rw [List.zipIdx_map_fst] at hadds
            have hsame : retryAssetIds before source = assetIds := by
              rw [← List.forall₂_eq_eq_eq]
              exact (mapM_eq_ok_iff.mp hassets).imp fun _ _ => retryAsset_eq_ok
            refine ⟨source, retryTask now drawn accountId idempotencyKey source, assetIds,
              ⟨?_, fun stored hstored => ?_, rfl, ?_, ?_⟩,
              (Database.task?_eq_some_iff.mp hsource).1, by simpa using hshown,
              ⟨rfl, rfl, (not_ne_iff.mp howner).symm, rfl⟩, hsame.symm⟩
            · rw [hadds.tasks, htasks]
              rfl
            · have hnew := hisNew _ (List.mem_map_of_mem hstored)
              split at hnew
              · exact hnew
              · exact hnew
            · exact hadds.owners.trans howners
            · rw [hadds.references, hreferences]
              rfl

/-- What no call changes about a stored task. -/
structure PublishTask.Keeps (before after : PublishTask) : Prop where
  taskId : after.taskId = before.taskId
  accountId : after.accountId = before.accountId
  retryOfTaskId : after.retryOfTaskId = before.retryOfTaskId
  attemptNo : after.attemptNo = before.attemptNo
  snapshot : after.snapshot = before.snapshot
  staysHidden : before.catalogHiddenAt ≠ none → after.catalogHiddenAt ≠ none

theorem PublishTask.Keeps.refl (task : PublishTask) : task.Keeps task :=
  ⟨rfl, rfl, rfl, rfl, rfl, id⟩

theorem PublishTask.keeps_hide (task : PublishTask) (now : ℕ) : task.Keeps (task.hide now) :=
  ⟨rfl, rfl, rfl, rfl, rfl, fun _ => Option.some_ne_none now⟩

theorem PublishTask.keeps_afterExecute (task : PublishTask) (now : ℕ)
    (outcome : ExecutionOutcome) : task.Keeps (task.afterExecute now outcome) :=
  ⟨rfl, rfl, rfl, rfl, rfl, id⟩

theorem PublishTask.keeps_ite {update : PublishTask → PublishTask} (taskId : Identifier)
    (hkeeps : ∀ task : PublishTask, task.Keeps (update task)) (task : PublishTask) :
    task.Keeps (if task.taskId = taskId then update task else task) := by
  by_cases hid : task.taskId = taskId
  · rw [if_pos hid]
    exact hkeeps task
  · rw [if_neg hid]
    exact .refl task

/-- Stored tasks are rewritten, and nothing else of interest happens. -/
structure Rewrites (before after : Database) (change : PublishTask → PublishTask) : Prop where
  keeps : ∀ task : PublishTask, task.Keeps (change task)
  tasks : after.tasks.rows = before.tasks.rows.map change
  owners : after.owners = before.owners
  references : after.references = before.references

theorem rewrites_updateTask {update : PublishTask → PublishTask}
    {hkeys : ∀ task, taskKeys (update task) = taskKeys task}
    (hkeeps : ∀ task : PublishTask, task.Keeps (update task)) :
    Rewrites database (updateTask database taskId update hkeys)
      (fun task => if task.taskId = taskId then update task else task) where
  keeps := PublishTask.keeps_ite taskId hkeeps
  tasks := rfl
  owners := rfl
  references := rfl

def Call.deletedIds (database : Database) : Call → List String
  | .deleteAsset now accountId assetId =>
      if (deleteProductImageAsset database now accountId assetId).1 = .deleted then [assetId]
      else []
  | .cleanupSession _ accountId uploadSessionId =>
      (abandonedAssets database accountId uploadSessionId).map ImageAsset.assetId
  | .cleanupExpired now limit => (outdatedAssets database now limit).map ImageAsset.assetId
  | _ => []

/-- All that a step can do to tasks, to the owners of assets and to references; the
list is that of the assets it deletes. -/
inductive Effect (before after : Database) : List String → Prop
  | rewrites (change : PublishTask → PublishTask) (hrewrites : Rewrites before after change) :
      Effect before after []
  | createsFirst (task : PublishTask) (assetIds : List String)
      (hcreates : CreatesFirst before after task assetIds) : Effect before after []
  | retries (now : ℕ) (source task : PublishTask) (assetIds : List String)
      (hretries : Retries before after now source task assetIds) : Effect before after []
  | uploads (assetId accountId : String) (htasks : after.tasks = before.tasks)
      (howners : after.owners = before.owners ++ [(assetId, accountId)])
      (hreferences : after.references = before.references)
      (hfresh : ∀ task ∈ before.tasks.rows, assetRef assetId ∉ task.snapshot.images) :
      Effect before after []
  | deletes (assetIds : List String) (htasks : after.tasks = before.tasks)
      (howners : after.owners = before.owners.filter fun owner => owner.1 ∉ assetIds)
      (hreferences : after.references =
        before.references.filter fun reference => reference.2 ∉ assetIds) :
      Effect before after assetIds

/-- A step that leaves tasks, assets and references alone. -/
theorem Effect.idle (htasks : after.tasks = before.tasks) (hassets : after.assets = before.assets)
    (htaskAssets : after.taskAssets = before.taskAssets) :
    Effect before after [] :=
  .rewrites id
    { keeps := PublishTask.Keeps.refl
      tasks := by rw [htasks, List.map_id]
      owners := by rw [Database.owners, hassets, Database.owners]
      references := by rw [Database.references, htaskAssets, Database.references] }

theorem effect_deleteAssets (database : Database) (assetIds : List String) :
    Effect database (database.deleteAssets assetIds) assetIds := by
  refine .deletes assetIds rfl ?_ ?_
  · simp [Database.owners, Database.deleteAssets, Table.delete, List.filter_map,
      Function.comp_def]
  · simp [Database.references, Database.deleteAssets, Table.delete, List.filter_map,
      Function.comp_def]

theorem deleteProductImageAsset_cases (database : Database) (now : ℕ)
    (accountId assetId : String) :
    (deleteProductImageAsset database now accountId assetId).1 ≠ .deleted ∧
        (deleteProductImageAsset database now accountId assetId).2 = database ∨
      (deleteProductImageAsset database now accountId assetId).1 = .deleted ∧
        (deleteProductImageAsset database now accountId assetId).2 =
          database.deleteAssets [assetId] ∧
        (assetId, accountId) ∈ database.owners ∧
        database.isListed accountId assetId = false ∧
        database.isRetained now assetId = false ∧
        database.isPublished accountId assetId = false := by
  unfold deleteProductImageAsset
  cases hlookup : database.assets.lookup assetId with
  | none => exact .inl ⟨by simp, rfl⟩
  | some asset =>
      dsimp only
      split_ifs with hother hlisted hretained hpublished
      · exact .inl ⟨by simp, rfl⟩
      · exact .inl ⟨by simp, rfl⟩
      · exact .inl ⟨by simp, rfl⟩
      · exact .inl ⟨by simp, rfl⟩
      · have hstored := Table.lookup_eq_some_iff.mp hlookup
        have howner : (assetId, accountId) ∈ database.owners := by
          refine List.mem_map.mpr ⟨asset, hstored.1, ?_⟩
          rw [List.mem_singleton.mp hstored.2, not_ne_iff.mp hother]
        exact .inr ⟨rfl, rfl, howner, by simpa using hlisted, by simpa using hretained,
          by simpa using hpublished⟩

theorem effect_applyCall {call : Call} (hfresh : call.DrawsFresh database) :
    Effect database (applyCall database call) (call.deletedIds database) := by
  have hstays : Effect database database [] := .idle rfl rfl rfl
  cases call with
  | createDraft now draftId accountId payload =>
      simp only [applyCall]
      cases hanswer : createProductDraft database now draftId accountId payload with
      | error failure => exact hstays
      | ok answer =>
          unfold createProductDraft at hanswer
          split at hanswer
          · cases hanswer
            exact hstays
          · obtain ⟨drafts, -, rfl⟩ := map_eq_ok_iff.mp hanswer
            exact .idle rfl rfl rfl
  | updateDraft now accountId draftId payload =>
      simp only [applyCall, updateProductDraft]
      split
      · exact hstays
      · split
        · exact hstays
        · exact .idle rfl rfl rfl
  | deleteDraft now accountId draftId =>
      simp only [applyCall, deleteProductDraft]
      split
      · exact hstays
      · split
        · exact hstays
        · exact .idle rfl rfl rfl
  | createAsset now accountId assetId originalFilename uploadSessionId =>
      simp only [applyCall]
      cases hanswer : createProductImageAsset database now accountId assetId originalFilename
          uploadSessionId with
      | error failure => exact hstays
      | ok answer =>
          unfold createProductImageAsset at hanswer
          split at hanswer
          · cases hanswer
            exact hstays
          · obtain ⟨assets, hinsert, rfl⟩ := map_eq_ok_iff.mp hanswer
            have hrows := Table.rows_of_insert? (orIntegrityError_eq_ok.mp hinsert)
            refine .uploads assetId accountId rfl ?_ rfl hfresh
            simp [committed, Database.owners, hrows]
  | deleteAsset now accountId assetId =>
      simp only [applyCall, Call.deletedIds]
      rcases deleteProductImageAsset_cases database now accountId assetId with
        ⟨hkept, hsame⟩ | ⟨hdeleted, hafter, -⟩
      · rw [if_neg hkept, hsame]
        exact hstays
      · rw [if_pos hdeleted, hafter]
        exact effect_deleteAssets database [assetId]
  | cleanupSession now accountId uploadSessionId => exact effect_deleteAssets database _
  | cleanupExpired now limit => exact effect_deleteAssets database _
  | createTask now drawn accountId payload resolvedLocation =>
      simp only [applyCall]
      cases hanswer :
          createProductPublishTask database now drawn accountId payload resolvedLocation with
      | error failure => exact hstays
      | ok answer =>
          rcases createProductPublishTask_cases hanswer with hsame | ⟨task, assetIds, hcreates⟩
          · exact hsame ▸ hstays
          · exact .createsFirst task assetIds hcreates
  | createDirectTask now drawn accountId payload =>
      simp only [applyCall]
      cases hanswer : createDirectProductPublishTask database now drawn accountId payload with
      | error failure => exact hstays
      | ok answer =>
          rcases createDirectProductPublishTask_cases hanswer with
            hsame | ⟨task, assetIds, hcreates⟩
          · exact hsame ▸ hstays
          · exact .createsFirst task assetIds hcreates
  | retryTask now drawn accountId taskId idempotencyKey =>
      simp only [applyCall]
      cases hanswer : retryProductPublishTask database now drawn accountId taskId
          idempotencyKey with
      | error failure => exact hstays
      | ok answer =>
          rcases retryProductPublishTask_cases hanswer with
            hsame | ⟨source, task, assetIds, hretries⟩
          · exact hsame ▸ hstays
          · exact .retries now source task assetIds hretries
  | hideTask now accountId taskId =>
      simp only [applyCall]
      cases hanswer : hideProductPublishTask database now accountId taskId with
      | error failure => exact hstays
      | ok answer =>
          unfold hideProductPublishTask at hanswer
          split at hanswer
          · cases hanswer
            exact hstays
          · split_ifs at hanswer
            · cases hanswer
              exact hstays
            · cases hanswer
              exact hstays
            · cases hanswer
            · cases hanswer
            · cases hanswer
              exact .rewrites _ (@rewrites_updateTask database taskId
                (fun task => task.hide now) (taskKeys_hide now) fun task => task.keeps_hide now)
  | updateTask now accountId taskId outcome =>
      have hrewrites := @rewrites_updateTask database taskId
        (fun task => task.afterExecute now outcome) (taskKeys_afterExecute now outcome)
        (fun task => task.keeps_afterExecute now outcome)
      simp only [applyCall, updateAfterExecute]
      split
      · exact hstays
      · split
        · exact hstays
        · split
          · exact .rewrites _ hrewrites
          · exact .rewrites _
              ⟨hrewrites.keeps, hrewrites.tasks, owners_retainFinished .., references_retainFinished ..⟩

theorem effect_of_step {label : Option Call} (hstep : step before label after) :
    Effect before after (label.elim [] (Call.deletedIds before)) := by
  cases label with
  | none => exact .idle hstep.2.2.1 hstep.2.1 hstep.2.2.2
  | some call => exact hstep.2 ▸ effect_applyCall hstep.1

def openShop : Database where
  accounts := .singleton { accountId := "shop" }
  drafts := .empty
  assets := .empty
  tasks := .empty
  taskAssets := .empty
  groups := .empty
  groupAccounts := []
  addresses := .empty
  usages := .empty

def shopDraws (name : String) (hname : name ≠ "") : Drawn where
  taskId := ⟨name, hname⟩
  usageId := ⟨name, hname⟩
  uniqueCode := name
  pick := 0

end XianyuAdmin.Products
