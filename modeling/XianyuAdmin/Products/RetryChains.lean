import XianyuAdmin.Products.ProductCalls

/-!
# Chains of attempts

A retry hides the task that it retries, and a hidden task cannot be retried.  So
the tasks form chains, whose last one alone may be in the catalog.  The listing
of attempts recovers the chain of a task from all rows of the account.
-/

namespace XianyuAdmin.Products

open Lineage Relation Transition Python

structure IsChained (tasks : List PublishTask) : Prop where
  exists_source : ∀ retry ∈ tasks, ∀ taskId, retry.retryOfTaskId = some taskId →
    ∃ source ∈ tasks, source.taskId = taskId ∧ source.accountId = retry.accountId ∧
      source.catalogHiddenAt ≠ none ∧ retry.attemptNo = some (source.attempt + 1)
  only_retry : ∀ left ∈ tasks, ∀ right ∈ tasks, ∀ taskId,
    left.retryOfTaskId = some taskId → right.retryOfTaskId = some taskId →
      left.taskId = right.taskId
  numbered : ∀ task ∈ tasks, task.attemptNo = some task.attempt

theorem PublishTask.Keeps.attempt_eq {before after : PublishTask} (hkeeps : before.Keeps after) :
    after.attempt = before.attempt := by
  unfold PublishTask.attempt
  rw [hkeeps.attemptNo]

variable {task : PublishTask} {tasks : List PublishTask} {database : Database}

theorem PublishTask.attempt_of_succ {count : ℕ} (hnumber : task.attemptNo = some (count + 1)) :
    task.attempt = count + 1 := by
  simp [PublishTask.attempt, hnumber]

theorem isChained_nil : IsChained [] where
  exists_source := by simp
  only_retry := by simp
  numbered := by simp

theorem IsChained.map (hchained : IsChained tasks) {change : PublishTask → PublishTask}
    (hkeeps : ∀ task : PublishTask, task.Keeps (change task)) :
    IsChained (tasks.map change) where
  exists_source := by
    intro retry hretry taskId hnames
    obtain ⟨stored, hstored, rfl⟩ := List.mem_map.mp hretry
    rw [(hkeeps stored).retryOfTaskId] at hnames
    obtain ⟨source, hsource, hid, haccount, hhidden, hnumber⟩ :=
      hchained.exists_source stored hstored taskId hnames
    refine ⟨change source, List.mem_map_of_mem hsource, ?_, ?_, ?_, ?_⟩
    · rw [(hkeeps source).taskId, hid]
    · rw [(hkeeps source).accountId, (hkeeps stored).accountId, haccount]
    · exact (hkeeps source).staysHidden hhidden
    · rw [(hkeeps stored).attemptNo, (hkeeps source).attempt_eq, hnumber]
  only_retry := by
    intro left hleft right hright taskId hleftNames hrightNames
    obtain ⟨leftStored, hleftStored, rfl⟩ := List.mem_map.mp hleft
    obtain ⟨rightStored, hrightStored, rfl⟩ := List.mem_map.mp hright
    rw [(hkeeps leftStored).retryOfTaskId] at hleftNames
    rw [(hkeeps rightStored).retryOfTaskId] at hrightNames
    rw [(hkeeps leftStored).taskId, (hkeeps rightStored).taskId]
    exact hchained.only_retry leftStored hleftStored rightStored hrightStored taskId
      hleftNames hrightNames
  numbered := by
    intro task htask
    obtain ⟨stored, hstored, rfl⟩ := List.mem_map.mp htask
    rw [(hkeeps stored).attemptNo, (hkeeps stored).attempt_eq]
    exact hchained.numbered stored hstored

theorem IsChained.append_first (hchained : IsChained tasks) (hfirst : task.retryOfTaskId = none)
    (hnumber : task.attemptNo = some 1) :
    IsChained (tasks ++ [task]) where
  exists_source := by
    intro retry hretry taskId hnames
    rcases List.mem_append.mp hretry with hold | hnew
    · obtain ⟨source, hsource, hrest⟩ := hchained.exists_source retry hold taskId hnames
      exact ⟨source, List.mem_append_left _ hsource, hrest⟩
    · rw [List.mem_singleton.mp hnew, hfirst] at hnames
      cases hnames
  only_retry := by
    intro left hleft right hright taskId hleftNames hrightNames
    rcases List.mem_append.mp hleft with hleftOld | hleftNew
    · rcases List.mem_append.mp hright with hrightOld | hrightNew
      · exact hchained.only_retry left hleftOld right hrightOld taskId hleftNames hrightNames
      · rw [List.mem_singleton.mp hrightNew, hfirst] at hrightNames
        cases hrightNames
    · rw [List.mem_singleton.mp hleftNew, hfirst] at hleftNames
      cases hleftNames
  numbered := by
    intro stored hstored
    rcases List.mem_append.mp hstored with hold | hnew
    · exact hchained.numbered stored hold
    · rw [List.mem_singleton.mp hnew, hnumber, PublishTask.attempt_of_succ hnumber]

theorem IsChained.append_retry (hchained : IsChained tasks) {source : PublishTask}
    (hsource : source ∈ tasks) (hretry : task.retryOfTaskId = some source.taskId)
    (hnumber : task.attemptNo = some (source.attempt + 1))
    (haccount : source.accountId = task.accountId) (hhidden : source.catalogHiddenAt ≠ none)
    (hlast : ∀ stored ∈ tasks, stored.retryOfTaskId ≠ some source.taskId) :
    IsChained (tasks ++ [task]) where
  exists_source := by
    intro retry hmem taskId hnames
    rcases List.mem_append.mp hmem with hold | hnew
    · obtain ⟨found, hfound, hrest⟩ := hchained.exists_source retry hold taskId hnames
      exact ⟨found, List.mem_append_left _ hfound, hrest⟩
    · rw [List.mem_singleton.mp hnew] at hnames ⊢
      rw [hretry] at hnames
      exact ⟨source, List.mem_append_left _ hsource, Option.some.inj hnames, haccount, hhidden,
        hnumber⟩
  only_retry := by
    intro left hleft right hright taskId hleftNames hrightNames
    rcases List.mem_append.mp hleft with hleftOld | hleftNew
    · rcases List.mem_append.mp hright with hrightOld | hrightNew
      · exact hchained.only_retry left hleftOld right hrightOld taskId hleftNames hrightNames
      · rw [List.mem_singleton.mp hrightNew, hretry] at hrightNames
        exact absurd (hleftNames.trans hrightNames.symm) (hlast left hleftOld)
    · rcases List.mem_append.mp hright with hrightOld | hrightNew
      · rw [List.mem_singleton.mp hleftNew, hretry] at hleftNames
        exact absurd (hrightNames.trans hleftNames.symm) (hlast right hrightOld)
      · rw [List.mem_singleton.mp hleftNew, List.mem_singleton.mp hrightNew]
  numbered := by
    intro stored hstored
    rcases List.mem_append.mp hstored with hold | hnew
    · exact hchained.numbered stored hold
    · rw [List.mem_singleton.mp hnew, hnumber, PublishTask.attempt_of_succ hnumber]

theorem IsChained.no_retry (hchained : IsChained database.tasks.rows)
    (htask : task ∈ database.tasks.rows) (hshown : task.catalogHiddenAt = none) :
    ∀ retry ∈ database.tasks.rows, retry.retryOfTaskId ≠ some task.taskId := by
  intro retry hretry hnames
  obtain ⟨source, hsource, hid, -, hhidden, -⟩ :=
    hchained.exists_source retry hretry task.taskId hnames
  rw [Database.task_eq_of_id hsource htask hid] at hhidden
  exact hhidden hshown

theorem isChained_of_effect {before after : Database} {deleted : List String}
    (hchained : IsChained before.tasks.rows) (heffect : Effect before after deleted) : IsChained after.tasks.rows := by
  cases heffect with
  | rewrites change hrewrites =>
      rw [hrewrites.tasks]
      exact hchained.map hrewrites.keeps
  | createsFirst task assetIds hcreates =>
      rw [hcreates.tasks, List.map_id]
      exact hchained.append_first hcreates.first.1 hcreates.first.2
  | retries now source task assetIds hretries =>
      obtain ⟨hnames, hnumber, haccount, -⟩ := hretries.retry
      let change := fun stored : PublishTask =>
        if stored.taskId = source.taskId then stored.hide now else stored
      have hkeeps : ∀ stored : PublishTask, stored.Keeps (change stored) :=
        PublishTask.keeps_ite source.taskId fun stored => stored.keeps_hide now
      have hchange : change source = source.hide now := if_pos rfl
      have hsource : source.hide now ∈ before.tasks.rows.map change :=
        hchange ▸ List.mem_map_of_mem hretries.stored
      rw [hretries.tasks]
      refine (hchained.map hkeeps).append_retry hsource hnames hnumber haccount.symm
        (Option.some_ne_none now) fun stored hstored => ?_
      obtain ⟨earlier, hearlier, rfl⟩ := List.mem_map.mp hstored
      rw [(hkeeps earlier).retryOfTaskId]
      exact hchained.no_retry hretries.stored hretries.shown earlier hearlier
  | uploads assetId accountId htasks => exact htasks ▸ hchained
  | deletes assetIds htasks => exact htasks ▸ hchained

theorem isChained_of_run {start : Database} {labels : List (Option Call)}
    (hrun : Run step start labels database) (hstart : start.tasks.rows = []) :
    IsChained database.tasks.rows :=
  hrun.invariant (fun database => IsChained database.tasks.rows)
    (fun _ _ _ hchained hstep => isChained_of_effect hchained (effect_of_step hstep))
    (hstart ▸ isChained_nil)

abbrev IsRetryOf (tasks : List PublishTask) (child source : PublishTask) : Prop :=
  Follows PublishTask.taskId PublishTask.retryOfTaskId tasks child source

abbrev SameChain (tasks : List PublishTask) (left right : PublishTask) : Prop :=
  SameLine PublishTask.taskId PublishTask.retryOfTaskId tasks left right

theorem IsChained.isLines {database : Database} (hchained : IsChained database.tasks.rows)
    {tasks : List PublishTask} {accounts : String → Prop}
    (hmem : ∀ task, task ∈ tasks ↔ task ∈ database.tasks.rows ∧ accounts task.accountId) :
    IsLines PublishTask.taskId PublishTask.retryOfTaskId PublishTask.attempt tasks where
  ident_injOn := fun _ hleft _ hright hid =>
    Database.task_eq_of_id ((hmem _).mp hleft).1 ((hmem _).mp hright).1 hid
  exists_parent := by
    intro retry hretry taskId hnames
    obtain ⟨hstored, howned⟩ := (hmem retry).mp hretry
    obtain ⟨source, hsource, hid, haccount, -⟩ :=
      hchained.exists_source retry hstored taskId hnames
    exact ⟨source, (hmem source).mpr ⟨hsource, haccount.symm ▸ howned⟩, hid⟩
  rank_eq := by
    intro retry source hfollows
    obtain ⟨stored, hstored, hid, -, -, hnumber⟩ :=
      hchained.exists_source retry ((hmem _).mp hfollows.1).1 _ hfollows.2.2
    rw [Database.task_eq_of_id hstored ((hmem _).mp hfollows.2.1).1 hid] at hnumber
    exact PublishTask.attempt_of_succ hnumber
  only_child := by
    intro left right source hleft hright
    exact Database.task_eq_of_id ((hmem _).mp hleft.1).1 ((hmem _).mp hright.1).1
      (hchained.only_retry left ((hmem _).mp hleft.1).1 right ((hmem _).mp hright.1).1 _
        hleft.2.2 hright.2.2)

theorem IsChained.account_eq (hchained : IsChained database.tasks.rows)
    {child source : PublishTask}
    (hback : ReflTransGen (IsRetryOf database.tasks.rows) child source) :
    source.accountId = child.accountId := by
  induction hback with
  | refl => rfl
  | tail _ hfollows ih =>
      obtain ⟨stored, hstored, hid, haccount, -⟩ :=
        hchained.exists_source _ hfollows.1 _ hfollows.2.2
      rw [Database.task_eq_of_id hstored hfollows.2.1 hid] at haccount
      exact haccount.trans ih

/-- So it makes no difference to look at the account's tasks only. -/
theorem IsChained.goesBack_iff (hchained : IsChained database.tasks.rows) {accountId : String}
    (hmem : ∀ task, task ∈ tasks ↔ task ∈ database.tasks.rows ∧ task.accountId = accountId)
    {child source : PublishTask} (haccount : child.accountId = accountId) :
    ReflTransGen (IsRetryOf tasks) child source ↔
      ReflTransGen (IsRetryOf database.tasks.rows) child source := by
  constructor
  · intro hback
    refine ReflTransGen.lift id (fun retry middle hfollows => ?_) _ _ hback
    exact ⟨((hmem _).mp hfollows.1).1, ((hmem _).mp hfollows.2.1).1, hfollows.2.2⟩
  · intro hback
    induction hback with
    | refl => exact .refl
    | tail hback hfollows ih =>
        refine .tail ih ⟨(hmem _).mpr ⟨hfollows.1, ?_⟩, (hmem _).mpr ⟨hfollows.2.1, ?_⟩,
          hfollows.2.2⟩
        · exact (hchained.account_eq hback).trans haccount
        · exact (hchained.account_eq (hback.tail hfollows)).trans haccount

theorem IsChained.eq_of_shown (hchained : IsChained database.tasks.rows)
    {left right : PublishTask} (hleft : left ∈ database.tasks.rows)
    (hright : right ∈ database.tasks.rows) (hchain : SameChain database.tasks.rows left right)
    (hleftShown : left.catalogHiddenAt = none) (hrightShown : right.catalogHiddenAt = none) :
    left = right := by
  have hlast : ∀ {task other : PublishTask}, task ∈ database.tasks.rows →
      task.catalogHiddenAt = none →
        ReflTransGen (IsRetryOf database.tasks.rows) other task → other = task := by
    intro task other htask hshown hback
    rcases ReflTransGen.cases_tail hback with heq | ⟨retry, -, hfollows⟩
    · exact heq.symm
    · exact absurd hfollows.2.2 (hchained.no_retry htask hshown retry hfollows.1)
  rcases hchain with hback | hback
  · exact hlast hright hrightShown hback
  · exact (hlast hleft hleftShown hback).symm

theorem mem_byKey_iff {Key : Type} [LinearOrder Key] {key : PublishTask → Key} :
    task ∈ byKey key tasks ↔ task ∈ tasks :=
  List.mem_insertionSort _

theorem pairwise_byKey {Key : Type} [LinearOrder Key] (key : PublishTask → Key)
    (tasks : List PublishTask) :
    (byKey key tasks).Pairwise fun left right => key left ≤ key right :=
  List.pairwise_insertionSort _ _

theorem nodup_tasks (database : Database) : database.tasks.rows.Nodup := by
  refine database.tasks.unique.imp fun {left right} hclash heq => ?_
  rw [heq] at hclash
  exact hclash _ (id_mem_taskKeys.mpr rfl) (id_mem_taskKeys.mpr rfl)

theorem IsChained.list_attempts (hchained : IsChained database.tasks.rows)
    (htask : task ∈ database.tasks.rows) :
    ∃ attempts,
      listProductPublishTaskAttempts database task.accountId task.taskId = some attempts ∧
      attempts.Pairwise (fun left right => left.attempt < right.attempt) ∧
      ∀ other, other ∈ attempts ↔
        other ∈ database.tasks.rows ∧ SameChain database.tasks.rows task other := by
  let rows := byKey PublishTask.createdKey
    (database.tasks.rows.filter fun stored => stored.accountId = task.accountId)
  have hmem : ∀ stored, stored ∈ rows ↔
      stored ∈ database.tasks.rows ∧ stored.accountId = task.accountId := by
    intro stored
    simp [rows, mem_byKey_iff]
  have hlines := @IsChained.isLines database hchained rows
    (fun accountId => accountId = task.accountId) hmem
  have hrow : task ∈ rows := (hmem task).mpr ⟨htask, rfl⟩
  obtain ⟨root, hroot, hclimb, hfirst, hback⟩ :=
    @climb_spec _ _ _ _ _ _ _ hlines.toIsForest (rows.length + 1) [] task hrow (by simp)
      List.nodup_nil (by simp)
  let chainIds := gatherAll PublishTask.taskId PublishTask.retryOfTaskId rows
    (rows.length + 1) [root.taskId]
  have hchain : ∀ other ∈ rows, other.taskId ∈ chainIds ↔
      SameChain database.tasks.rows task other := by
    intro other hother
    have hsame : other.accountId = task.accountId := ((hmem other).mp hother).2
    calc
      other.taskId ∈ chainIds ↔ ReflTransGen (IsRetryOf rows) other root := by
        refine mem_gatherAll_iff hlines.toIsForest (List.nodup_singleton _) (by simp) (by simp)
          ?_ other hother
        intro name hname
        exact ⟨root, hroot, (List.mem_singleton.mp hname).symm, .refl⟩
      _ ↔ SameChain rows task other := (hlines.sameLine_iff hfirst hback).symm
      _ ↔ SameChain database.tasks.rows task other :=
        or_congr (hchained.goesBack_iff hmem rfl) (hchained.goesBack_iff hmem hsame)
  let attempts := byKey PublishTask.attemptKey
    (rows.filter fun stored => stored.taskId ∈ chainIds)
  have hattempts : ∀ other, other ∈ attempts ↔
      other ∈ database.tasks.rows ∧ SameChain database.tasks.rows task other := by
    intro other
    rw [mem_byKey_iff, List.mem_filter, decide_eq_true_iff]
    constructor
    · rintro ⟨hother, hin⟩
      exact ⟨((hmem other).mp hother).1, (hchain other hother).mp hin⟩
    · rintro ⟨hstored, hsame⟩
      have haccount : other.accountId = task.accountId := by
        rcases hsame with hearlier | hlater
        · exact hchained.account_eq hearlier
        · exact (hchained.account_eq hlater).symm
      have hother : other ∈ rows := (hmem other).mpr ⟨hstored, haccount⟩
      exact ⟨hother, (hchain other hother).mpr hsame⟩
  refine ⟨attempts, ?_, ?_, hattempts⟩
  · unfold listProductPublishTaskAttempts
    rw [Database.task?_eq_some_iff.mpr ⟨htask, rfl⟩]
    simp only [ne_eq, not_true_eq_false, if_false, hclimb, attempts, chainIds, rows]
  · have hnodup : attempts.Nodup := by
      refine (List.perm_insertionSort _ _).nodup_iff.mpr (List.Nodup.filter _ ?_)
      exact (List.perm_insertionSort _ _).nodup_iff.mpr ((nodup_tasks database).filter _)
    refine ((pairwise_byKey PublishTask.attemptKey _).and hnodup).imp_of_mem ?_
    rintro left right hleft hright ⟨hkey, hne⟩
    have hle : left.attempt ≤ right.attempt := Prod.Lex.monotone_fst _ _ hkey
    refine lt_of_le_of_ne hle fun hsame => hne ?_
    -- two attempts of one chain with the same number are the same
    have hall := @IsChained.isLines database hchained database.tasks.rows (fun _ => True)
      (by simp)
    exact hall.toIsForest.eq_of_rank (hall.sameLine_of_common ((hattempts left).mp hleft).2
      ((hattempts right).mp hright).2) hsame

structure RetriesFormChains (database : Database) : Prop where
  one_retry : ∀ left right source, IsRetryOf database.tasks.rows left source →
    IsRetryOf database.tasks.rows right source → left = right
  acyclic : ∀ task, ¬TransGen (IsRetryOf database.tasks.rows) task task
  numbered : ∀ retry ∈ database.tasks.rows, ∀ taskId, retry.retryOfTaskId = some taskId →
    ∃ source, IsRetryOf database.tasks.rows retry source ∧
      ∃ attemptNo, source.attemptNo = some attemptNo ∧ retry.attemptNo = some (attemptNo + 1)
  one_shown : ∀ left ∈ database.tasks.rows, ∀ right ∈ database.tasks.rows,
    SameChain database.tasks.rows left right → left.catalogHiddenAt = none →
      right.catalogHiddenAt = none → left = right
  last_shown : ∀ task ∈ database.tasks.rows, task.catalogHiddenAt = none →
    ∀ retry, ¬IsRetryOf database.tasks.rows retry task
  listed : ∀ task ∈ database.tasks.rows, ∃ attempts,
    listProductPublishTaskAttempts database task.accountId task.taskId = some attempts ∧
    attempts.Pairwise (fun left right => left.attempt < right.attempt) ∧
    ∀ other, other ∈ attempts ↔
      other ∈ database.tasks.rows ∧ SameChain database.tasks.rows task other

theorem IsChained.retriesFormChains {database : Database}
    (hchained : IsChained database.tasks.rows) : RetriesFormChains database := by
  have hall := @IsChained.isLines database hchained database.tasks.rows (fun _ => True) (by simp)
  exact
    { one_retry := hall.only_child
      acyclic := hall.toIsForest.acyclic
      numbered := by
        intro retry hretry taskId hnames
        obtain ⟨source, hsource, rfl, -, -, hnumber⟩ :=
          hchained.exists_source retry hretry taskId hnames
        exact ⟨source, ⟨hretry, hsource, hnames⟩, source.attempt,
          hchained.numbered source hsource, hnumber⟩
      one_shown := fun left hleft right hright => hchained.eq_of_shown hleft hright
      last_shown := fun task htask hshown retry hfollows =>
        hchained.no_retry htask hshown retry hfollows.1 hfollows.2.2
      listed := fun task htask => hchained.list_attempts htask }

/-- In every run that starts without tasks, retries form chains. -/
theorem retriesFormChains_of_run {start database : Database} {labels : List (Option Call)}
    (hrun : Run step start labels database) (hstart : start.tasks.rows = []) :
    RetriesFormChains database :=
  (isChained_of_run hrun hstart).retriesFormChains

def shopCalls : List Call :=
  let first : Identifier := ⟨"first", by decide⟩
  [.createDirectTask 1 (shopDraws "first" (by decide)) "shop"
      { images := [], idempotencyKey := "k1", images_are_assets := by simp },
    .updateTask 2 "shop" first { status := some .failed, retryable := some true },
    .retryTask 3 (shopDraws "second" (by decide)) "shop" first "k2"]

theorem retriesFormChains_of_shopCalls :
    (shopCalls.foldl applyCall openShop).tasks.rows.map PublishTask.attemptNo = [some 1, some 2] ∧
      RetriesFormChains (shopCalls.foldl applyCall openShop) := by
  refine ⟨by rfl, @retriesFormChains_of_run openShop _ (shopCalls.map some) ?_ rfl⟩
  exact .cons ⟨trivial, rfl⟩ (.cons ⟨trivial, rfl⟩ (.cons ⟨trivial, rfl⟩ (.nil _)))

end XianyuAdmin.Products
