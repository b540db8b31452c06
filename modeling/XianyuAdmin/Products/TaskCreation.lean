import XianyuAdmin.Products.ProductCalls

/-!
# Creating publish tasks

A task is created from a draft or from a form, at most once for each key; its images are retained,
and a random address avoids those the account has used last.
-/

namespace XianyuAdmin.Products

open XianyuAdmin.Python XianyuAdmin.Transition

def AddressUsage.isOf (usage : AddressUsage) (groupId accountId : String) : Bool :=
  usage.groupId = groupId && usage.accountId = accountId

def DistinctTimes (database : Database) : Prop :=
  ∀ groupId accountId,
    (database.usages.rows.filter (·.isOf groupId accountId)).Pairwise fun left right =>
      left.selectedAt ≠ right.selectedAt

def enabledAddresses (database : Database) (groupId : String) : List Address :=
  database.addresses.rows.filter fun address => address.groupId = groupId && address.enabled

def laterUsages (database : Database) (groupId accountId : String) (time : ℕ) :
    List AddressUsage :=
  (database.usages.rows.filter (·.isOf groupId accountId)).filter fun usage =>
    time < usage.selectedAt

structure Picks (database : Database) (accountId groupId : String) (address : Address) : Prop where
  stored : address ∈ enabledAddresses database groupId
  group : ∃ group, database.groups.lookup groupId = some group ∧ group.enabled = true ∧
    (groupId, accountId) ∈ database.groupAccounts ∧
    (group.avoidRecentCount < (enabledAddresses database groupId).length →
      ∀ usage ∈ database.usages.rows, usage.isOf groupId accountId = true →
        (laterUsages database groupId accountId usage.selectedAt).length <
          group.avoidRecentCount →
        address.addressId ≠ usage.addressId)

def referenced (database : Database) (taskId : Identifier) : List String :=
  (database.taskAssets.rows.filter fun taskAsset => taskAsset.taskId = taskId).map
    TaskAsset.assetId

def OwnsAsset (database : Database) (accountId assetId : String) : Prop :=
  ∃ asset, database.assets.lookup assetId = some asset ∧ asset.accountId = accountId

/-- An own asset is named again, and no reference before it is to be refused. -/
def RepeatsFrom (database : Database) (accountId : String) : List String → List String → Prop
  | _, [] => False
  | seen, imageRef :: rest =>
      match assetIdOf imageRef with
      | none => RepeatsFrom database accountId seen rest
      | some assetId =>
          OwnsAsset database accountId assetId ∧
            (assetId ∈ seen ∨ RepeatsFrom database accountId (seen ++ [assetId]) rest)

/-- The two calls, with what they are given and draw. -/
inductive Creation
  | fromDraft (now : ℕ) (drawn : Drawn) (accountId : String) (payload : TaskCreatePayload)
      (resolvedLocation : Json)
  | direct (now : ℕ) (drawn : Drawn) (accountId : String) (payload : JobCreatePayload)

namespace Creation

def call : Creation → Call
  | fromDraft now drawn accountId payload resolvedLocation =>
      .createTask now drawn accountId payload resolvedLocation
  | direct now drawn accountId payload => .createDirectTask now drawn accountId payload

def accountId : Creation → String
  | fromDraft _ _ accountId _ _ | direct _ _ accountId _ => accountId

def drawn : Creation → Drawn
  | fromDraft _ drawn _ _ _ | direct _ drawn _ _ => drawn

def key : Creation → Option String
  | fromDraft _ _ _ payload _ => payload.idempotencyKey.filter (· ≠ "")
  | direct _ _ _ payload => some payload.idempotencyKey

def answer (database : Database) : Creation → Except Failure (Option PublishTask × Database)
  | fromDraft now drawn accountId payload resolvedLocation =>
      createProductPublishTask database now drawn accountId payload resolvedLocation
  | direct now drawn accountId payload =>
      createDirectProductPublishTask database now drawn accountId payload

def stored? (database : Database) (creation : Creation) : Option PublishTask :=
  creation.key.bind (database.taskByKey? creation.accountId)

/-- What `uuid4` draws is nowhere in the database. -/
structure DrawsFresh (database : Database) (creation : Creation) : Prop where
  task : database.task? creation.drawn.taskId = none
  key : database.taskByKey? creation.accountId creation.drawn.taskId.text = none
  references : referenced database creation.drawn.taskId = []
  usage : database.usages.lookup (.id creation.drawn.usageId) = none
  usageOfTask : database.usages.lookup (.task creation.drawn.taskId) = none

def RepeatsAsset (database : Database) (creation : Creation) : Prop :=
  creation.stored? database = none ∧
    match creation with
    | fromDraft _ drawn accountId payload _ =>
        ∃ draft selected, database.drafts.lookup payload.draftId = some draft ∧
          draft.accountId = accountId ∧ draft.status ≠ .archived ∧
          draftAddress database draft accountId drawn.pick = .ok selected ∧
          RepeatsFrom database accountId [] draft.images
    | direct _ drawn accountId payload =>
        ∃ account selected assetIds, database.accounts.lookup accountId = some account ∧
          account.enabled = true ∧
          directAddress database payload accountId drawn.pick = .ok selected ∧
          payload.images.mapM (directAsset database accountId payload) = .ok assetIds ∧
          ¬assetIds.Nodup

structure CalledAt (start : Database) (labels : List (Option Call)) (database : Database)
    (creation : Creation) : Prop where
  run : ∃ before rest, labels = before ++ some creation.call :: rest ∧
    Run step start before database
  fresh : creation.DrawsFresh database
  times : DistinctTimes database

structure Adds (database after : Database) (creation : Creation) (task : PublishTask) : Prop where
  rows : after.tasks.rows = database.tasks.rows ++ [task]
  isNew : ∀ stored ∈ database.tasks.rows, stored.taskId ≠ task.taskId
  pending : task.status = .pending
  address : task.snapshot.locationMode = .groupRandom →
    ∃ address, task.snapshot.selectedAddressId = some address.addressId ∧
      Picks database creation.accountId (task.snapshot.locationGroupId.getD "") address

/-- What a creation answers: the task of an earlier one with its key, else a new task, or nothing
or a `ValueError` and then nothing is changed. -/
structure SoundAt (database : Database) (creation : Creation) : Prop where
  repeated : ∀ (earlier : Creation) (middle next : Database) (task : PublishTask)
      (labels : List (Option Call)) (key : String),
    earlier.answer middle = .ok (some task, next) → Run step next labels database →
    earlier.accountId = creation.accountId → earlier.key = some key →
    creation.key = some key →
    ∃ kept, kept.taskId = task.taskId ∧ creation.answer database = .ok (some kept, database)
  other : creation.stored? database = none →
    (∃ task after, creation.answer database = .ok (some task, after) ∧
      Adds database after creation task) ∨
    (creation.answer database = .ok (none, database) ∨
      ∃ message, creation.answer database = .error (.valueError message)) ∧
    applyCall database creation.call = database

end Creation

variable {database after : Database} {accountId groupId : String} {pick now : ℕ} {drawn : Drawn}
variable {address : Address} {group : AddressGroup}

/-- A use that few others follow is among the last ones. -/
theorem mem_recentAddressIds (hdistinct : DistinctTimes database) {usage : AddressUsage}
    (husage : usage ∈ database.usages.rows) (hof : usage.isOf group.groupId accountId = true)
    (hlater : (laterUsages database group.groupId accountId usage.selectedAt).length <
      group.avoidRecentCount) :
    usage.addressId ∈ recentAddressIds database group accountId := by
  let uses := database.usages.rows.filter (·.isOf group.groupId accountId)
  let sorted := uses.insertionSort fun left right => right.selectedAt ≤ left.selectedAt
  have hperm : sorted.Perm uses := List.perm_insertionSort _ _
  refine List.mem_map_of_mem ?_
  change usage ∈ sorted.take group.avoidRecentCount
  by_contra hmissing
  have hmem : usage ∈ sorted := hperm.mem_iff.mpr (List.mem_filter.mpr ⟨husage, hof⟩)
  rw [← List.take_append_drop group.avoidRecentCount sorted, List.mem_append] at hmem
  have hdrop := hmem.resolve_left hmissing
  have : Std.Total fun left right : AddressUsage => right.selectedAt ≤ left.selectedAt :=
    ⟨fun left right => Nat.le_total right.selectedAt left.selectedAt⟩
  have : IsTrans AddressUsage fun left right => right.selectedAt ≤ left.selectedAt :=
    ⟨fun _ _ _ hfirst hsecond => hsecond.trans hfirst⟩
  have hle : sorted.Pairwise fun left right => right.selectedAt ≤ left.selectedAt :=
    List.pairwise_insertionSort _ _
  have hne : sorted.Pairwise fun left right => left.selectedAt ≠ right.selectedAt :=
    hperm.symm.pairwise (hdistinct group.groupId accountId) fun hleft => hleft.symm
  have hlt := hle.imp₂ (fun left right hbound hdiffer =>
    Nat.lt_of_le_of_ne hbound (Ne.symm hdiffer)) hne
  rw [← List.take_append_drop group.avoidRecentCount sorted, List.pairwise_append] at hlt
  have hfront : ∀ other ∈ sorted.take group.avoidRecentCount,
      usage.selectedAt < other.selectedAt := fun other hother => hlt.2.2 other hother usage hdrop
  have hlong : group.avoidRecentCount ≤ sorted.length := by
    by_contra hshort
    rw [List.drop_of_length_le (by omega)] at hdrop
    exact List.not_mem_nil hdrop
  have hcount : group.avoidRecentCount ≤
      (laterUsages database group.groupId accountId usage.selectedAt).length := calc
    group.avoidRecentCount = (sorted.take group.avoidRecentCount).length :=
      (List.length_take_of_le hlong).symm
    _ = ((sorted.take group.avoidRecentCount).filter fun other =>
          usage.selectedAt < other.selectedAt).length := by
      rw [List.filter_eq_self.mpr fun other hother => decide_eq_true (hfront other hother)]
    _ ≤ (sorted.filter fun other => usage.selectedAt < other.selectedAt).length :=
      ((List.take_sublist _ _).filter _).length_le
    _ = (laterUsages database group.groupId accountId usage.selectedAt).length :=
      (hperm.filter _).length_eq
  omega

theorem length_recentAddressIds_le :
    (recentAddressIds database group accountId).length ≤ group.avoidRecentCount := by
  rw [recentAddressIds, List.length_map]
  exact List.length_take_le _ _

theorem exists_fresh
    (hmany : group.avoidRecentCount < (enabledAddresses database groupId).length) :
    (enabledAddresses database groupId).filter (fun address =>
      address.addressId ∉ recentAddressIds database group accountId) ≠ [] := by
  intro hnone
  have hnodup : ((enabledAddresses database groupId).map Address.addressId).Nodup := by
    refine List.pairwise_map.mpr ((database.addresses.unique.sublist List.filter_sublist).imp ?_)
    intro left right hclash heq
    exact hclash left.addressId List.mem_cons_self (heq ▸ List.mem_cons_self)
  have hsubset : (enabledAddresses database groupId).map Address.addressId ⊆
      recentAddressIds database group accountId := by
    intro addressId hmem
    obtain ⟨address, haddress, rfl⟩ := List.mem_map.mp hmem
    simpa using List.filter_eq_nil_iff.mp hnone address haddress
  have hlength := (List.subperm_of_subset hnodup hsubset).length_le
  rw [List.length_map] at hlength
  exact absurd (hmany.trans_le (hlength.trans length_recentAddressIds_le)) (lt_irrefl _)

theorem picks_of_chooseAddress (hdistinct : DistinctTimes database)
    (hchoose : chooseAddress database accountId groupId pick = .ok address) :
    Picks database accountId groupId address := by
  unfold chooseAddress at hchoose
  cases hgroup : database.groups.lookup groupId with
  | none => simp [hgroup, raiseValueError] at hchoose
  | some group =>
      have hid : group.groupId = groupId :=
        (List.mem_singleton.mp (Table.lookup_eq_some_iff.mp hgroup).2).symm
      subst hid
      simp only [hgroup] at hchoose
      split at hchoose
      · cases hchoose
      · rename_i henabled
        split at hchoose
        · cases hchoose
        · rename_i hbound
          split at hchoose
          · cases hchoose
          · rename_i found hfound
            cases hchoose
            have hmem := List.mem_of_mem_filter (List.mem_of_getElem? hfound)
            have hstored : address ∈ enabledAddresses database group.groupId := by
              split at hmem
              · exact hmem
              · exact List.mem_of_mem_filter hmem
            refine ⟨hstored, group, hgroup, by simpa using henabled, not_not.mp hbound,
              fun hmany usage husage hof hlater heq => ?_⟩
            have hrecent := mem_recentAddressIds hdistinct husage hof hlater
            rw [if_neg] at hmem
            · have hfresh := List.of_mem_filter hmem
              exact of_decide_eq_true hfresh (heq ▸ hrecent)
            · rw [List.isEmpty_iff]
              exact exists_fresh hmany

variable {Value Next : Type} {taskId : Identifier} {assetId : String} {ordinal : ℕ}
variable {base : Database}

theorem bind_ne_integrityError {head : Except Failure Value} {next : Value → Except Failure Next} :
    head.bind next ≠ .error .integrityError ↔
      head ≠ .error .integrityError ∧ ∀ value, head = .ok value →
        next value ≠ .error .integrityError := by
  cases head with
  | ok value => simp [Except.bind]
  | error failure => simp [Except.bind]

theorem retainAsset_of_mem (hmem : assetId ∈ referenced database taskId) :
    retainAsset now taskId ordinal assetId database = .error .integrityError := by
  obtain ⟨stored, hstored, rfl⟩ := List.mem_map.mp hmem
  obtain ⟨hrow, hid⟩ := List.mem_filter.mp hstored
  cases of_decide_eq_true hid
  have hnone : database.taskAssets.insert?
      { taskId := stored.taskId
        assetId := stored.assetId
        ordinal := ordinal
        retainUntil := some (now + days 30)
        createdAt := now } = none := by
    rw [Table.insert?, dif_neg]
    exact fun hfresh => hfresh stored hrow _ List.mem_cons_self List.mem_cons_self
  rw [retainAsset, hnone]
  rfl

theorem retainAsset_of_not_mem (now ordinal : ℕ) (hmem : assetId ∉ referenced database taskId) :
    ∃ after, retainAsset now taskId ordinal assetId database = .ok after ∧
      referenced after taskId = referenced database taskId ++ [assetId] ∧
      ∀ accountId other, OwnsAsset after accountId other ↔ OwnsAsset database accountId other := by
  have hfresh : ∀ key ∈ [(taskId, assetId)], database.taskAssets.lookup key = none := by
    intro key hkey
    cases List.mem_singleton.mp hkey
    refine Table.lookup_eq_none_iff.mpr fun stored hstored hsame => hmem ?_
    have heq := List.mem_singleton.mp hsame
    refine List.mem_map.mpr ⟨stored, List.mem_filter.mpr ⟨hstored, ?_⟩, ?_⟩
    · exact decide_eq_true (congrArg Prod.fst heq).symm
    · exact (congrArg Prod.snd heq).symm
  let row : TaskAsset :=
    { taskId := taskId
      assetId := assetId
      ordinal := ordinal
      retainUntil := some (now + days 30)
      createdAt := now }
  have hretain : ∃ after, retainAsset now taskId ordinal assetId database = .ok after := by
    obtain ⟨taskAssets, hinsert⟩ : ∃ taskAssets, database.taskAssets.insert? row = some taskAssets :=
      Table.exists_insert?_of_fresh hfresh
    rw [retainAsset, hinsert]
    exact ⟨_, rfl⟩
  obtain ⟨after, hafter⟩ := hretain
  refine ⟨after, hafter, ?_⟩
  obtain ⟨taskAssets, hinsert, rfl⟩ := map_eq_ok_iff.mp hafter
  refine ⟨?_, fun accountId other => ?_⟩
  · simp [referenced, Table.rows_of_insert? (orIntegrityError_eq_ok.mp hinsert)]
  · simp only [OwnsAsset, Table.lookup_map, Option.map_eq_some_iff]
    constructor
    · rintro ⟨_, ⟨asset, hlookup, rfl⟩, howner⟩
      refine ⟨asset, hlookup, ?_⟩
      split at howner <;> exact howner
    · rintro ⟨asset, hlookup, howner⟩
      refine ⟨_, ⟨asset, hlookup, rfl⟩, ?_⟩
      split <;> exact howner

theorem retainImages_ne_iff (images : List String) (first : ℕ)
    (howns : ∀ assetId, OwnsAsset database accountId assetId ↔ OwnsAsset base accountId assetId) :
    retainImages now accountId taskId (images.zipIdx first) database ≠ .error .integrityError ↔
      ¬RepeatsFrom base accountId (referenced database taskId) images := by
  induction images generalizing first database with
  | nil => simp [retainImages, RepeatsFrom]
  | cons imageRef rest ih =>
      rw [List.zipIdx_cons, retainImages, RepeatsFrom]
      cases hid : assetIdOf imageRef with
      | none => exact ih (first + 1) howns
      | some assetId =>
          dsimp only
          rw [← howns assetId]
          cases hlookup : database.assets.lookup assetId with
          | none =>
              refine iff_of_true (by simp [raiseValueError]) ?_
              rintro ⟨⟨asset, hasset, -⟩, -⟩
              cases hlookup.symm.trans hasset
          | some asset =>
              by_cases howner : asset.accountId = accountId
              · have howned : OwnsAsset database accountId assetId := ⟨asset, hlookup, howner⟩
                rw [and_iff_right howned]
                simp only [howner, ne_eq, not_true_eq_false, if_false]
                by_cases hmem : assetId ∈ referenced database taskId
                · rw [retainAsset_of_mem hmem]
                  exact iff_of_false (fun hne => hne rfl) fun hnot => hnot (.inl hmem)
                · obtain ⟨after, hretain, hreferenced, hsame⟩ :=
                    retainAsset_of_not_mem now first hmem
                  rw [hretain, or_iff_right hmem, ← hreferenced]
                  exact ih (first + 1) fun other => (hsame accountId other).trans (howns other)
              · simp only [howner, ne_eq, not_false_eq_true, if_true]
                refine iff_of_true (by simp [raiseValueError]) ?_
                rintro ⟨⟨other, hother, hsame⟩, -⟩
                cases hlookup.symm.trans hother
                exact howner hsame

theorem retainAssets_ne_iff (assetIds : List String) (first : ℕ) :
    retainAssets now taskId (assetIds.zipIdx first) database ≠ .error .integrityError ↔
      (∀ assetId ∈ assetIds, assetId ∉ referenced database taskId) ∧ assetIds.Nodup := by
  induction assetIds generalizing first database with
  | nil => simp [retainAssets]
  | cons assetId rest ih =>
      rw [List.zipIdx_cons, retainAssets, List.forall_mem_cons, List.nodup_cons]
      by_cases hmem : assetId ∈ referenced database taskId
      · rw [retainAsset_of_mem hmem]
        exact iff_of_false (fun hne => hne rfl) fun hall => hall.1.1 hmem
      · obtain ⟨after, hretain, hreferenced, -⟩ := retainAsset_of_not_mem now first hmem
        rw [hretain, and_iff_right hmem]
        refine (ih (first + 1)).trans ?_
        simp only [hreferenced, List.mem_append, List.mem_singleton, not_or]
        constructor
        · rintro ⟨hfresh, hnodup⟩
          exact ⟨fun other hother => (hfresh other hother).1,
            fun hsame => (hfresh assetId hsame).2 rfl, hnodup⟩
        · rintro ⟨hfresh, hnew, hnodup⟩
          exact ⟨fun other hother => ⟨hfresh other hother, fun heq => hnew (heq ▸ hother)⟩,
            hnodup⟩

variable {task : PublishTask} {selected : Option Address} {draft : Draft} {draftId : String}
variable {payload : JobCreatePayload} {creation earlier : Creation} {answer : Option PublishTask}

theorem chooseAddress_ne : chooseAddress database accountId groupId pick ≠ .error .integrityError := by
  unfold chooseAddress raiseValueError
  split
  · nofun
  · split
    · nofun
    · split
      · nofun
      · dsimp only
        split <;> nofun

theorem map_ne_integrityError {head : Except Failure Value} {change : Value → Next}
    (hne : head ≠ .error .integrityError) : head.map change ≠ .error .integrityError := by
  cases head with
  | ok value => nofun
  | error failure =>
      rintro ⟨⟩
      exact hne rfl

theorem draftAddress_ne : draftAddress database draft accountId pick ≠ .error .integrityError := by
  unfold draftAddress raiseValueError
  split
  · split
    · nofun
    · split
      · nofun
      · exact map_ne_integrityError chooseAddress_ne
  · nofun

theorem directAddress_ne :
    directAddress database payload accountId pick ≠ .error .integrityError := by
  unfold directAddress
  split
  · exact map_ne_integrityError chooseAddress_ne
  · nofun

theorem directAssets_ne (images : List String) :
    images.mapM (directAsset database accountId payload) ≠ .error .integrityError := by
  induction images with
  | nil => nofun
  | cons imageRef rest ih =>
      rw [List.mapM_cons]
      refine bind_ne_integrityError.mpr ⟨?_, fun assetId _ =>
        bind_ne_integrityError.mpr ⟨ih, fun _ _ => nofun⟩⟩
      unfold directAsset raiseValueError
      dsimp only
      split
      · nofun
      · split_ifs <;> nofun

theorem insertTask_of_fresh (hfresh : ∀ key ∈ taskKeys task, database.tasks.lookup key = none) :
    ∃ inserted, insertTask database task = .ok inserted ∧ inserted.usages = database.usages ∧
      inserted.taskAssets = database.taskAssets ∧ inserted.assets = database.assets := by
  obtain ⟨tasks, hinsert⟩ := Table.exists_insert?_of_fresh hfresh
  refine ⟨{ database with tasks := tasks }, ?_, rfl, rfl, rfl⟩
  rw [insertTask, hinsert]
  rfl

theorem recordUsage_ne
    (hfresh : ∀ key ∈ [UsageKey.id drawn.usageId, .task drawn.taskId],
      database.usages.lookup key = none) :
    recordUsage now drawn accountId draftId selected database ≠ .error .integrityError := by
  cases selected with
  | none => nofun
  | some address =>
      refine map_ne_integrityError ?_
      let row : AddressUsage :=
        { usageId := drawn.usageId
          groupId := address.groupId
          addressId := address.addressId
          accountId := accountId
          draftId := draftId
          taskId := drawn.taskId
          selectedAt := now
          updatedAt := now }
      obtain ⟨usages, hinsert⟩ : ∃ usages, database.usages.insert? row = some usages :=
        Table.exists_insert?_of_fresh hfresh
      rw [hinsert]
      nofun

theorem usages_of_retainImages {images : List (String × ℕ)}
    (hretain : retainImages now accountId taskId images database = .ok after) :
    after.usages = database.usages := by
  induction images generalizing database with
  | nil =>
      cases hretain
      rfl
  | cons first rest ih =>
      obtain ⟨imageRef, ordinal⟩ := first
      unfold retainImages at hretain
      split at hretain
      · exact ih hretain
      · split at hretain
        · cases hretain
        · split at hretain
          · cases hretain
          · obtain ⟨middle, hfirst, hrest⟩ := bind_eq_ok_iff.mp hretain
            obtain ⟨taskAssets, -, rfl⟩ := map_eq_ok_iff.mp hfirst
            have hsame := ih hrest
            exact hsame

theorem usages_of_retainAssets {assetIds : List (String × ℕ)}
    (hretain : retainAssets now taskId assetIds database = .ok after) :
    after.usages = database.usages := by
  induction assetIds generalizing database with
  | nil =>
      cases hretain
      rfl
  | cons first rest ih =>
      obtain ⟨middle, hfirst, hrest⟩ := bind_eq_ok_iff.mp hretain
      obtain ⟨taskAssets, -, rfl⟩ := map_eq_ok_iff.mp hfirst
      have hsame := ih hrest
      exact hsame

/-- Behind the checks, only the references of the task to its images can be refused. -/
theorem transaction_ne_iff {retain : Database → Except Failure Database}
    {result : Database → Option PublishTask × Database} {inserted : Database}
    (hinsert : insertTask database task = .ok inserted)
    (husages : inserted.usages = database.usages)
    (hretain : ∀ retained, retain inserted = .ok retained → retained.usages = inserted.usages)
    (hfresh : ∀ key ∈ [UsageKey.id drawn.usageId, .task drawn.taskId],
      database.usages.lookup key = none) :
    ((insertTask database task).bind fun inserted => (retain inserted).bind fun retained =>
        (recordUsage now drawn accountId draftId selected retained).bind fun recorded =>
          .ok (result recorded)) ≠ .error .integrityError ↔
      retain inserted ≠ .error .integrityError := by
  rw [hinsert]
  change (retain inserted).bind _ ≠ .error .integrityError ↔ _
  refine bind_ne_integrityError.trans (and_iff_left fun retained hok => ?_)
  refine bind_ne_integrityError.mpr ⟨recordUsage_ne ?_, fun _ _ => nofun⟩
  rw [hretain retained hok, husages]
  exact hfresh

variable {before : Database} {label : Option Call} {labels : List (Option Call)}

def KeepsKeys (before after : Database) : Prop :=
  ∀ stored ∈ before.tasks.rows, ∃ kept ∈ after.tasks.rows, taskKeys kept = taskKeys stored

theorem keepsKeys_of_tasks (htasks : after.tasks = before.tasks) : KeepsKeys before after :=
  fun stored hstored => ⟨stored, htasks ▸ hstored, rfl⟩

theorem keepsKeys_of_rows {change : PublishTask → PublishTask} {added : List PublishTask}
    (hkeys : ∀ task, taskKeys (change task) = taskKeys task)
    (hrows : after.tasks.rows = before.tasks.rows.map change ++ added) :
    KeepsKeys before after := by
  intro stored hstored
  refine ⟨change stored, ?_, hkeys stored⟩
  rw [hrows]
  exact List.mem_append_left _ (List.mem_map_of_mem hstored)

theorem keepsKeys_updateTask {update : PublishTask → PublishTask}
    (hkeys : ∀ task, taskKeys (update task) = taskKeys task) :
    KeepsKeys before (updateTask before taskId update hkeys) := by
  refine keepsKeys_of_rows (fun task => ?_) (List.append_nil _).symm
  split
  · exact hkeys task
  · rfl

/-- What holds of the database and of each that may be committed holds after the call. -/
theorem committed_of {Kept : Database → Prop} {result : Except Failure (Value × Database)}
    (hstays : Kept database)
    (hcommit : ∀ value after, result = .ok (value, after) → Kept after) :
    Kept (committed database result) := by
  cases result with
  | error failure => exact hstays
  | ok answer => exact hcommit answer.1 answer.2 rfl

theorem keepsKeys_of_createsFirst {assetIds : List String}
    (hcreates : CreatesFirst before after task assetIds) : KeepsKeys before after :=
  keepsKeys_of_rows (fun _ => rfl) hcreates.tasks

theorem keepsKeys_applyCall (call : Call) : KeepsKeys before (applyCall before call) := by
  have hstays : KeepsKeys before before := keepsKeys_of_tasks rfl
  cases call with
  | createDraft now draftId accountId payload =>
      refine committed_of hstays fun value after hanswer => ?_
      unfold createProductDraft at hanswer
      split at hanswer
      · cases hanswer
        exact hstays
      · obtain ⟨drafts, -, hafter⟩ := map_eq_ok_iff.mp hanswer
        cases hafter
        exact keepsKeys_of_tasks rfl
  | updateDraft now accountId draftId payload =>
      simp only [applyCall, updateProductDraft]
      split
      · exact hstays
      · split
        · exact hstays
        · exact keepsKeys_of_tasks rfl
  | deleteDraft now accountId draftId =>
      simp only [applyCall, deleteProductDraft]
      split
      · exact hstays
      · split
        · exact hstays
        · exact keepsKeys_of_tasks rfl
  | createAsset now accountId assetId originalFilename uploadSessionId =>
      refine committed_of hstays fun value after hanswer => ?_
      unfold createProductImageAsset at hanswer
      split at hanswer
      · cases hanswer
        exact hstays
      · obtain ⟨assets, -, hafter⟩ := map_eq_ok_iff.mp hanswer
        cases hafter
        exact keepsKeys_of_tasks rfl
  | deleteAsset now accountId assetId =>
      rcases deleteProductImageAsset_cases before now accountId assetId with
        ⟨-, hsame⟩ | ⟨-, hafter, -⟩
      · exact keepsKeys_of_tasks (congrArg Database.tasks hsame)
      · simp only [applyCall, hafter]
        exact keepsKeys_of_tasks rfl
  | cleanupSession now accountId uploadSessionId => exact keepsKeys_of_tasks rfl
  | cleanupExpired now limit => exact keepsKeys_of_tasks rfl
  | createTask now drawn accountId payload resolvedLocation =>
      refine committed_of hstays fun value after hanswer => ?_
      rcases createProductPublishTask_cases hanswer with hsame | ⟨task, assetIds, hcreates⟩
      · exact hsame ▸ hstays
      · exact keepsKeys_of_createsFirst hcreates
  | createDirectTask now drawn accountId payload =>
      refine committed_of hstays fun value after hanswer => ?_
      rcases createDirectProductPublishTask_cases hanswer with hsame | ⟨task, assetIds, hcreates⟩
      · exact hsame ▸ hstays
      · exact keepsKeys_of_createsFirst hcreates
  | retryTask now drawn accountId taskId idempotencyKey =>
      refine committed_of hstays fun value after hanswer => ?_
      rcases retryProductPublishTask_cases hanswer with hsame | ⟨source, task, assetIds, hretries⟩
      · exact hsame ▸ hstays
      · refine keepsKeys_of_rows (fun stored => ?_) hretries.tasks
        split <;> rfl
  | hideTask now accountId taskId =>
      refine committed_of hstays fun value after hanswer => ?_
      unfold hideProductPublishTask at hanswer
      split at hanswer
      · cases hanswer
        exact hstays
      · split_ifs at hanswer
        · cases hanswer
          exact hstays
        · cases hanswer
          exact hstays
        · cases hanswer
        · cases hanswer
        · cases hanswer
          exact keepsKeys_updateTask _
  | updateTask now accountId taskId outcome =>
      have hupdate := @keepsKeys_updateTask taskId before
        (fun task => task.afterExecute now outcome) (taskKeys_afterExecute now outcome)
      simp only [applyCall, updateAfterExecute]
      split
      · exact hstays
      · split
        · exact hstays
        · split
          · exact hupdate
          · exact hupdate

theorem keepsKeys_of_run (hrun : Run step before labels after) : KeepsKeys before after := by
  refine hrun.relates KeepsKeys (fun _ => keepsKeys_of_tasks rfl) ?_ ?_
  · intro first second third hfirst hsecond stored hstored
    obtain ⟨middle, hmiddle, hkeys⟩ := hfirst stored hstored
    obtain ⟨kept, hkept, hsame⟩ := hsecond middle hmiddle
    exact ⟨kept, hkept, hsame.trans hkeys⟩
  · rintro state (_ | call) next hstep
    · exact keepsKeys_of_tasks hstep.2.2.1
    · exact hstep.2 ▸ keepsKeys_applyCall call

variable {form : TaskCreatePayload} {resolvedLocation : Json}

theorem picks_of_draftAddress (hdistinct : DistinctTimes database)
    (hselect : draftAddress database draft accountId pick = .ok selected)
    (hmode : draft.locationMode = .groupRandom) :
    ∃ address, selected = some address ∧
      Picks database accountId (draft.locationGroupId.getD "") address := by
  rw [draftAddress, if_pos hmode] at hselect
  split at hselect
  · cases hselect
  · rename_i groupId hgroup
    rw [hgroup]
    split at hselect
    · cases hselect
    · obtain ⟨address, hchoose, hsome⟩ := map_eq_ok_iff.mp hselect
      exact ⟨address, hsome.symm, picks_of_chooseAddress hdistinct hchoose⟩

theorem picks_of_directAddress (hdistinct : DistinctTimes database)
    (hselect : directAddress database payload accountId pick = .ok selected)
    (hmode : payload.locationMode = .groupRandom) :
    ∃ address, selected = some address ∧
      Picks database accountId (payload.locationGroupId.getD "") address := by
  rw [directAddress, if_pos hmode] at hselect
  obtain ⟨address, hchoose, hsome⟩ := map_eq_ok_iff.mp hselect
  exact ⟨address, hsome.symm, picks_of_chooseAddress hdistinct hchoose⟩

inductive Answered (database : Database) (creation : Creation) :
    Option PublishTask → Database → Prop
  | stored (task : PublishTask) (hstored : creation.stored? database = some task) :
      Answered database creation (some task) database
  | absent (hnone : creation.stored? database = none) : Answered database creation none database
  | added (task : PublishTask) (after : Database) (hnone : creation.stored? database = none)
      (hadds : DistinctTimes database → creation.Adds database after task)
      (hrow : task ∈ after.tasks.rows)
      (hkey : ∀ key, creation.key = some key →
        TaskKey.idempotency creation.accountId key ∈ taskKeys task) :
      Answered database creation (some task) after

theorem mem_taskKeys_of_key {key : String} (haccount : task.accountId = accountId)
    (hkey : task.idempotencyKey = some key) : TaskKey.idempotency accountId key ∈ taskKeys task := by
  simp [taskKeys, haccount, hkey]

theorem answered_of_draft
    (hcreate : createProductPublishTask database now drawn accountId form resolvedLocation =
      .ok (answer, after)) :
    Answered database (.fromDraft now drawn accountId form resolvedLocation) answer after := by
  unfold createProductPublishTask at hcreate
  split at hcreate
  · rename_i existing hstored
    cases hcreate
    exact .stored existing hstored
  · rename_i hnone
    split at hcreate
    · cases hcreate
      exact .absent hnone
    · rename_i draft _
      split at hcreate
      · cases hcreate
        exact .absent hnone
      · obtain ⟨selected, hselect, hcreate⟩ := bind_eq_ok_iff.mp hcreate
        obtain ⟨inserted, hinsert, hcreate⟩ := bind_eq_ok_iff.mp hcreate
        obtain ⟨retained, hretain, hcreate⟩ := bind_eq_ok_iff.mp hcreate
        obtain ⟨recorded, hrecord, hcreate⟩ := bind_eq_ok_iff.mp hcreate
        cases hcreate
        obtain ⟨hrows, hisNew, -⟩ := rows_of_insertTask hinsert
        have htasks := (addsReferences_recordUsage hrecord).tasks.trans
          (addsReferences_retainImages hretain).1.tasks
        have hafter : (markDraftReady now draft.draftId recorded).tasks.rows = _ :=
          (congrArg Table.rows htasks).trans hrows
        refine .added _ _ hnone (fun hdistinct => ⟨hafter, hisNew, rfl, fun hmode => ?_⟩)
          (hafter ▸ List.mem_append_right _ List.mem_cons_self) fun key hkey => ?_
        · obtain ⟨address, rfl, hpicks⟩ := picks_of_draftAddress hdistinct hselect hmode
          exact ⟨address, rfl, hpicks⟩
        · obtain ⟨hgiven, hnonempty⟩ := Option.filter_eq_some_iff.mp hkey
          refine mem_taskKeys_of_key rfl ?_
          change orElse form.idempotencyKey _ = some key
          rw [hgiven, orElse, if_pos (truthy_some.mpr (of_decide_eq_true hnonempty))]

theorem answered_of_direct
    (hcreate : createDirectProductPublishTask database now drawn accountId payload =
      .ok (answer, after)) :
    Answered database (.direct now drawn accountId payload) answer after := by
  unfold createDirectProductPublishTask at hcreate
  split at hcreate
  · rename_i existing hstored
    cases hcreate
    exact .stored existing hstored
  · rename_i hnone
    split at hcreate
    · cases hcreate
      exact .absent hnone
    · split at hcreate
      · cases hcreate
      · obtain ⟨selected, hselect, hcreate⟩ := bind_eq_ok_iff.mp hcreate
        obtain ⟨assetIds, hassets, hcreate⟩ := bind_eq_ok_iff.mp hcreate
        obtain ⟨inserted, hinsert, hcreate⟩ := bind_eq_ok_iff.mp hcreate
        obtain ⟨retained, hretain, hcreate⟩ := bind_eq_ok_iff.mp hcreate
        obtain ⟨recorded, hrecord, hcreate⟩ := bind_eq_ok_iff.mp hcreate
        cases hcreate
        obtain ⟨hrows, hisNew, -⟩ := rows_of_insertTask hinsert
        have htasks := (addsReferences_recordUsage hrecord).tasks.trans
          (addsReferences_retainAssets hretain).tasks
        have hafter := (congrArg Table.rows htasks).trans hrows
        refine .added _ _ hnone (fun hdistinct => ⟨hafter, hisNew, rfl, fun hmode => ?_⟩)
          (hafter ▸ List.mem_append_right _ List.mem_cons_self) fun key hkey => ?_
        · obtain ⟨address, rfl, hpicks⟩ := picks_of_directAddress hdistinct hselect hmode
          exact ⟨address, rfl, hpicks⟩
        · exact mem_taskKeys_of_key rfl hkey

theorem answered (hanswer : creation.answer database = .ok (answer, after)) :
    Answered database creation answer after := by
  cases creation with
  | fromDraft now drawn accountId payload resolvedLocation => exact answered_of_draft hanswer
  | direct now drawn accountId payload => exact answered_of_direct hanswer

theorem answer_of_stored (hstored : creation.stored? database = some task) :
    creation.answer database = .ok (some task, database) := by
  cases creation with
  | fromDraft now drawn accountId payload resolvedLocation =>
      change createProductPublishTask database now drawn accountId payload resolvedLocation = _
      unfold createProductPublishTask
      rw [show (payload.idempotencyKey.filter (· ≠ "")).bind (database.taskByKey? accountId) =
        some task from hstored]
  | direct now drawn accountId payload =>
      change createDirectProductPublishTask database now drawn accountId payload = _
      unfold createDirectProductPublishTask
      rw [show database.taskByKey? accountId payload.idempotencyKey = some task from hstored]

theorem fresh_draftTask (draft : Draft) (location : Json) (selected : Option Address)
    (hfresh : (Creation.fromDraft now drawn accountId form resolvedLocation).DrawsFresh database)
    (hnone : (Creation.fromDraft now drawn accountId form resolvedLocation).stored? database = none) :
    ∀ key ∈ taskKeys (draftTask now drawn accountId form draft location selected),
      database.tasks.lookup key = none := by
  intro key hkey
  rcases List.mem_cons.mp hkey with rfl | hkey
  · exact hfresh.task
  · obtain ⟨given, hgiven, rfl⟩ := Option.map_eq_some_iff.mp (Option.mem_toList.mp hkey)
    change orElse form.idempotencyKey (some drawn.taskId.text) = some given at hgiven
    unfold orElse at hgiven
    split at hgiven
    · rename_i htruthy
      have hkept : form.idempotencyKey.filter (· ≠ "") = some given := by
        rw [hgiven] at htruthy ⊢
        simpa [truthy, Option.filter] using htruthy
      exact (congrArg (Option.bind · (database.taskByKey? accountId)) hkept).symm.trans hnone
    · cases hgiven
      exact hfresh.key

theorem fresh_directTask (selected : Option Address)
    (hfresh : (Creation.direct now drawn accountId payload).DrawsFresh database)
    (hnone : (Creation.direct now drawn accountId payload).stored? database = none) :
    ∀ key ∈ taskKeys (directTask now drawn accountId payload selected),
      database.tasks.lookup key = none := by
  intro key hkey
  rcases List.mem_cons.mp hkey with rfl | hkey
  · exact hfresh.task
  · cases List.mem_singleton.mp hkey
    exact hnone

theorem fresh_usage (hfresh : creation.DrawsFresh database) :
    ∀ key ∈ [UsageKey.id creation.drawn.usageId, .task creation.drawn.taskId],
      database.usages.lookup key = none := by
  intro key hkey
  rcases List.mem_pair.mp hkey with rfl | rfl
  · exact hfresh.usage
  · exact hfresh.usageOfTask

/-- No error of the first part is a broken constraint, so one can only come from the second. -/
theorem bind_ne_iff {head : Except Failure Value} {next : Value → Except Failure Next}
    (hhead : head ≠ .error .integrityError) :
    head.bind next ≠ .error .integrityError ↔
      ∀ value, head = .ok value → next value ≠ .error .integrityError :=
  bind_ne_integrityError.trans (and_iff_right hhead)

theorem draft_ne_iff
    (hfresh : (Creation.fromDraft now drawn accountId form resolvedLocation).DrawsFresh database) :
    createProductPublishTask database now drawn accountId form resolvedLocation ≠
        .error .integrityError ↔
      ¬(Creation.fromDraft now drawn accountId form resolvedLocation).RepeatsAsset database := by
  unfold createProductPublishTask
  split
  · rename_i existing hstored
    refine iff_of_true nofun fun hrepeats => ?_
    cases hstored.symm.trans hrepeats.1
  · rename_i hnone
    split
    · rename_i hmissing
      refine iff_of_true nofun ?_
      rintro ⟨-, draft, selected, hdraft, -⟩
      cases hmissing.symm.trans hdraft
    · rename_i draft hdraft
      split
      · rename_i hrefused
        refine iff_of_true nofun ?_
        rintro ⟨-, other, selected, hother, howner, hactive, -⟩
        cases hdraft.symm.trans hother
        simp [howner, hactive] at hrefused
      · rename_i haccepted
        have hchecked : draft.accountId = accountId ∧ draft.status ≠ .archived := by
          simpa using haccepted
        have hrepeats : (∀ selected, draftAddress database draft accountId drawn.pick = .ok selected →
            ¬RepeatsFrom database accountId [] draft.images) ↔
            ¬(Creation.fromDraft now drawn accountId form resolvedLocation).RepeatsAsset database := by
          constructor
          · rintro hall ⟨-, other, selected, hother, -, -, hselect, hfrom⟩
            cases hdraft.symm.trans hother
            exact hall selected hselect hfrom
          · intro hnot selected hselect hfrom
            exact hnot ⟨hnone, draft, selected, hdraft, hchecked.1, hchecked.2, hselect, hfrom⟩
        refine (bind_ne_iff draftAddress_ne).trans ((forall₂_congr fun selected _ => ?_).trans hrepeats)
        obtain ⟨inserted, hinsert, husages, htaskAssets, hassets⟩ :=
          insertTask_of_fresh (fresh_draftTask draft (resolvedLocation.or draft.location) selected
            hfresh hnone)
        refine (transaction_ne_iff hinsert husages (fun _ => usages_of_retainImages)
          (fresh_usage hfresh)).trans ?_
        have hreferences : referenced inserted drawn.taskId = [] := by
          rw [referenced, htaskAssets]
          exact hfresh.references
        rw [← hreferences]
        refine retainImages_ne_iff draft.images 0 fun assetId => ?_
        rw [OwnsAsset, hassets]
        rfl

theorem direct_ne_iff (hfresh : (Creation.direct now drawn accountId payload).DrawsFresh database) :
    createDirectProductPublishTask database now drawn accountId payload ≠
        .error .integrityError ↔
      ¬(Creation.direct now drawn accountId payload).RepeatsAsset database := by
  unfold createDirectProductPublishTask
  split
  · rename_i existing hstored
    refine iff_of_true nofun fun hrepeats => ?_
    cases hstored.symm.trans hrepeats.1
  · rename_i hnone
    split
    · rename_i hmissing
      refine iff_of_true nofun ?_
      rintro ⟨-, account, selected, assetIds, haccount, -⟩
      cases hmissing.symm.trans haccount
    · rename_i account haccount
      split
      · rename_i hrefused
        refine iff_of_true (by simp [raiseValueError]) ?_
        rintro ⟨-, other, selected, assetIds, hother, henabled, -⟩
        cases haccount.symm.trans hother
        simp [henabled] at hrefused
      · rename_i haccepted
        have henabled : account.enabled = true := by simpa using haccepted
        have hrepeats : (∀ selected, directAddress database payload accountId drawn.pick = .ok selected →
            ∀ assetIds, payload.images.mapM (directAsset database accountId payload) = .ok assetIds →
            assetIds.Nodup) ↔
            ¬(Creation.direct now drawn accountId payload).RepeatsAsset database := by
          constructor
          · rintro hall ⟨-, other, selected, assetIds, -, -, hselect, hassets, htwice⟩
            exact htwice (hall selected hselect assetIds hassets)
          · intro hnot selected hselect assetIds hassets
            by_contra htwice
            exact hnot ⟨hnone, account, selected, assetIds, haccount, henabled, hselect, hassets,
              htwice⟩
        refine (bind_ne_iff directAddress_ne).trans ((forall₂_congr fun selected _ => ?_).trans hrepeats)
        refine (bind_ne_iff (directAssets_ne payload.images)).trans
          (forall₂_congr fun assetIds _ => ?_)
        obtain ⟨inserted, hinsert, husages, htaskAssets, -⟩ :=
          insertTask_of_fresh (fresh_directTask selected hfresh hnone)
        refine (transaction_ne_iff hinsert husages (fun _ => usages_of_retainAssets)
          (fresh_usage hfresh)).trans ?_
        have hreferences : referenced inserted drawn.taskId = [] := by
          rw [referenced, htaskAssets]
          exact hfresh.references
        refine (retainAssets_ne_iff assetIds 0).trans (and_iff_right fun assetId _ => ?_)
        exact hreferences ▸ List.not_mem_nil

theorem answer_ne_iff (hfresh : creation.DrawsFresh database) :
    creation.answer database ≠ .error .integrityError ↔ ¬creation.RepeatsAsset database := by
  cases creation with
  | fromDraft now drawn accountId payload resolvedLocation => exact draft_ne_iff hfresh
  | direct now drawn accountId payload => exact direct_ne_iff hfresh

theorem repeated_of_run {middle next : Database} {key : String}
    (hanswer : earlier.answer middle = .ok (some task, next)) (hrun : Run step next labels database)
    (haccount : earlier.accountId = creation.accountId) (hearlier : earlier.key = some key)
    (hkey : creation.key = some key) :
    ∃ kept, kept.taskId = task.taskId ∧ creation.answer database = .ok (some kept, database) := by
  have hmade : task ∈ next.tasks.rows ∧
      TaskKey.idempotency earlier.accountId key ∈ taskKeys task := by
    cases answered hanswer with
    | stored task hstored =>
        rw [Creation.stored?, hearlier] at hstored
        exact Table.lookup_eq_some_iff.mp hstored
    | added task after _ _ hrow hkeys => exact ⟨hrow, hkeys key hearlier⟩
  obtain ⟨kept, hkept, hsame⟩ := keepsKeys_of_run hrun task hmade.1
  refine ⟨kept, id_mem_taskKeys.mp (hsame ▸ id_mem_taskKeys.mpr rfl), answer_of_stored ?_⟩
  rw [Creation.stored?, hkey]
  exact Table.lookup_eq_some_iff.mpr ⟨hkept, haccount ▸ hsame ▸ hmade.2⟩

theorem applyCall_call : applyCall database creation.call = committed database (creation.answer database) := by
  cases creation <;> rfl

theorem soundAt_iff (hfresh : creation.DrawsFresh database) (hdistinct : DistinctTimes database) :
    creation.SoundAt database ↔ ¬creation.RepeatsAsset database := by
  constructor
  · intro hsound hrepeats
    have hfails : creation.answer database = .error .integrityError :=
      not_not.mp fun hne => (answer_ne_iff hfresh).mp hne hrepeats
    rcases hsound.other hrepeats.1 with
      ⟨task, after, hadded, -⟩ | ⟨hnone | ⟨message, herror⟩, -⟩
    · cases hfails.symm.trans hadded
    · cases hfails.symm.trans hnone
    · cases hfails.symm.trans herror
  · intro hnot
    refine ⟨fun _ _ _ _ _ _ => repeated_of_run, fun hnone => ?_⟩
    have hne := (answer_ne_iff hfresh).mpr hnot
    rw [applyCall_call]
    cases hanswer : creation.answer database with
    | error failure =>
        cases failure with
        | valueError message => exact .inr ⟨.inr ⟨message, rfl⟩, rfl⟩
        | integrityError => exact absurd hanswer hne
    | ok result =>
        obtain ⟨answer, after⟩ := result
        cases answered hanswer with
        | stored task hstored => cases hnone.symm.trans hstored
        | absent _ => exact .inr ⟨.inl rfl, rfl⟩
        | added task after _ hadds _ _ => exact .inl ⟨task, after, rfl, hadds hdistinct⟩

def repeatingForm (count : ℕ) : Creation :=
  .direct 1 (shopDraws "created" (by decide)) "shop"
    { images := List.replicate count "asset:a1"
      idempotencyKey := "publish-1"
      images_are_assets := fun _ himage => List.eq_of_mem_replicate himage ▸ by decide }

end XianyuAdmin.Products
