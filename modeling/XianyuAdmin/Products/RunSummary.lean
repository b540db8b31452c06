import XianyuAdmin.Products.OperationRuns

/-!
# The summary of a run agrees with its items

Each loop records an item for every product it reaches and counts the same results, so
that a summary from the counts agrees with the items.  The handlers write a summary of
their own, which agrees only where nothing has succeeded.
-/

namespace XianyuAdmin.Products

open XianyuAdmin.Orders (Interruption)
open XianyuAdmin.Procedure

def successItems (runId : String) (database : OperationDatabase) : ℕ :=
  database.items.countP fun item => item.runId = runId && item.status = .success

/-- The run has ended, its counts add up, they agree with the items, and it has failed
only if nothing succeeded; `synced` products were listed by a sync. -/
def SummaryAgrees (synced : ℕ) (runId : String) (database : OperationDatabase) : Prop :=
  ∃ run, database.runs.lookup runId = some run ∧ run.status ≠ .running ∧
    run.totalCount = run.successCount + run.failedCount + run.skippedCount ∧
    (run.operation ≠ .sync → run.successCount = successItems runId database) ∧
    (run.status = .failed →
      (run.operation = .sync → synced = 0) ∧
        (run.operation ≠ .sync → successItems runId database = 0))

structure Summary.Fits (summary : Summary) (operation : RunOperation) (synced successes : ℕ) :
    Prop where
  ended : summary.status ≠ .running
  total : summary.total = summary.success + summary.failed + summary.skipped
  success : operation ≠ .sync → summary.success = successes
  failed : summary.status = .failed →
    (operation = .sync → synced = 0) ∧ (operation ≠ .sync → successes = 0)

variable {database : OperationDatabase} {runId : String} {run : OperationRun}
  {operation : RunOperation}

theorem lookup_finishRun (hrun : database.runs.lookup runId = some run) (now : ℕ)
    (summary : Summary) :
    (finishRun database now runId summary).2.runs.lookup runId =
      some (run.finish now summary) := by
  have hid : run.runId = runId := by
    simpa [eq_comm] using (Table.lookup_eq_some_iff.mp hrun).2
  unfold finishRun
  rw [Table.lookup_map, hrun]
  simp [hid]

theorem agrees_finishRun_iff (hrun : database.runs.lookup runId = some run) (synced now : ℕ)
    (summary : Summary) :
    SummaryAgrees synced runId (finishRun database now runId summary).2 ↔
      summary.Fits run.operation synced (successItems runId database) := by
  have hfinished := lookup_finishRun hrun now summary
  constructor
  · rintro ⟨found, hfound, hended, htotal, hsuccess, hfailed⟩
    rw [hfinished] at hfound
    cases hfound
    exact ⟨hended, htotal, hsuccess, hfailed⟩
  · intro hfits
    exact ⟨_, hfinished, hfits.ended, hfits.total, hfits.success, hfits.failed⟩

theorem not_agrees_of_running {synced : ℕ} (hrun : database.runs.lookup runId = some run)
    (hrunning : run.status = .running) : ¬SummaryAgrees synced runId database := by
  rintro ⟨found, hfound, hended, -⟩
  rw [hrun] at hfound
  cases hfound
  exact hended hrunning

/-- The products that the loop has counted. -/
def Tally.total (tally : Tally) : ℕ := tally.success + tally.failed + tally.skipped

theorem fits_syncSummary (hsync : run.operation = .sync) (count synced successes : ℕ) :
    Summary.Fits
      { status := .success, total := count, success := count, failed := 0, skipped := 0,
        error := none } run.operation synced successes where
  ended := RunStatus.noConfusion
  total := rfl
  success := fun hother => absurd hsync hother
  failed := RunStatus.noConfusion

theorem fits_failureSummary_iff {status : RunStatus} (hended : status ≠ .running) {text : String}
    {synced successes : ℕ} :
    (failureSummary run status text).Fits operation synced successes ↔
      (status = .failed → operation = .sync → synced = 0) ∧
        (operation ≠ .sync → successes = 0) := by
  constructor
  · exact fun hfits => ⟨fun hfailed => (hfits.failed hfailed).1,
      fun hother => (hfits.success hother).symm⟩
  · rintro ⟨hsynced, hnone⟩
    exact ⟨hended, by simp [failureSummary], fun hother => (hnone hother).symm,
      fun hfailed => ⟨hsynced hfailed, hnone⟩⟩

theorem fits_actionSummary_iff (hother : operation ≠ .sync) {total synced successes : ℕ}
    {tally : Tally} :
    (actionSummary total tally).Fits operation synced successes ↔
      total = tally.total ∧ tally.success = successes := by
  constructor
  · exact fun hfits => ⟨hfits.total, hfits.success hother⟩
  · rintro ⟨htotal, rfl⟩
    refine ⟨?_, htotal, fun _ => rfl, fun hfailed => ⟨fun h => absurd h hother, fun _ => ?_⟩⟩
    · unfold actionSummary
      dsimp only
      split_ifs <;> exact RunStatus.noConfusion
    · simp only [actionSummary] at hfailed
      split_ifs at hfailed with hpartial hnone
      simp only [Bool.and_eq_true, decide_eq_true_eq] at hnone
      exact hnone.1.2

theorem fits_removalSummary_iff (hother : operation ≠ .sync) {total synced successes : ℕ}
    {tally : Tally} (htotal : tally.total ≤ total) :
    (removalSummary total tally).Fits operation synced successes ↔
      tally.success = successes := by
  constructor
  · exact fun hfits => hfits.success hother
  · rintro rfl
    refine ⟨?_, ?_, fun _ => rfl, fun hfailed => ⟨fun h => absurd h hother, fun _ => ?_⟩⟩
    · unfold removalSummary
      dsimp only
      split_ifs <;> exact RunStatus.noConfusion
    · unfold Tally.total at htotal
      simp only [removalSummary]
      omega
    · simp only [removalSummary] at hfailed
      split_ifs at hfailed with hdoubt hpartial hnone
      simp only [Bool.and_eq_true, decide_eq_true_eq, not_and] at hpartial
      by_contra hsome
      exact hpartial hsome hnone

def takeThrough {Entry : Type} (stops : Entry → Bool) : List Entry → List Entry
  | [] => []
  | entry :: rest => if stops entry then [entry] else entry :: takeThrough stops rest

section Loops

variable (collaborators : RunCollaborators) (handling : ItemHandling)

def succeeds (item : ProductItem) : Bool :=
  !handling.skips item &&
    match collaborators.callItem item.itemId with
    | .ok action => action.success && !action.skipped
    | .error _ => false

def escape? (item : ProductItem) : Option Interruption :=
  if handling.skips item then none
  else
    match collaborators.callItem item.itemId with
    | .error (.interrupted interruption) => some interruption
    | _ => none

def breaks (item : ProductItem) : Bool :=
  !handling.skips item &&
    match collaborators.callItem item.itemId with
    | .error (.productOperation error) => handling.stops error
    | _ => false

def reached (candidates : List ProductItem) : List ProductItem :=
  takeThrough
    (fun item => (escape? collaborators handling item).isSome ||
      breaks collaborators handling item)
    candidates

/-- What ends the loop from within. -/
def escaped? (candidates : List ProductItem) : Option Interruption :=
  (reached collaborators handling candidates).findSome? (escape? collaborators handling)

def successes (candidates : List ProductItem) : ℕ :=
  (reached collaborators handling candidates).countP (succeeds collaborators handling)

theorem reached_length_le (candidates : List ProductItem) :
    (reached collaborators handling candidates).length ≤ candidates.length := by
  unfold reached
  induction candidates with
  | nil => exact le_refl _
  | cons item rest ih =>
      unfold takeThrough
      split
      · simp
      · simpa using ih

theorem successes_eq_zero_iff (candidates : List ProductItem) :
    successes collaborators handling candidates = 0 ↔
      ∀ item ∈ reached collaborators handling candidates,
        succeeds collaborators handling item = false := by
  simp [successes, List.countP_eq_zero]

end Loops

def Records (runId : String) (count : ℕ) (database next : OperationDatabase) : Prop :=
  next.runs = database.runs ∧ successItems runId next = successItems runId database + count

theorem Records.refl (runId : String) (database : OperationDatabase) :
    Records runId 0 database database := ⟨rfl, rfl⟩

theorem Records.trans {first second : ℕ} {middle final : OperationDatabase}
    (hfirst : Records runId first database middle) (hsecond : Records runId second middle final) :
    Records runId (first + second) database final :=
  ⟨hsecond.1.trans hfirst.1, by rw [hsecond.2, hfirst.2, Nat.add_assoc]⟩

theorem records_addRunItem (database : OperationDatabase) (item : OperationItem) :
    Records item.runId (if item.status = .success then 1 else 0) database
      (addRunItem item database) := by
  refine ⟨rfl, ?_⟩
  unfold successItems addRunItem
  rw [List.countP_append, List.countP_singleton]
  simp

section Loops

variable {collaborators : RunCollaborators} {handling : ItemHandling} {run : OperationRun}
  {database : OperationDatabase}

theorem records_mark (itemId : String) (action : ActionItemResult) :
    Records run.runId 0 database (handling.mark itemId action database) :=
  ⟨handling.mark_runs .., by unfold successItems; rw [handling.mark_items]; rfl⟩

theorem total_count (tally : Tally) (action : ActionItemResult) :
    (tally.count action).total = tally.total + 1 := by
  unfold Tally.count Tally.total
  split
  · split
    · dsimp only
      omega
    · dsimp only
      omega
  · dsimp only
    omega

theorem success_count (tally : Tally) (action : ActionItemResult) :
    (tally.count action).success =
      tally.success + if action.success && !action.skipped then 1 else 0 := by
  unfold Tally.count
  cases action.success <;> cases action.skipped <;> rfl

theorem status_actionItem (run : OperationRun) (action : ActionItemResult) :
    (if (actionItem run action).status = .success then 1 else 0) =
      if action.success && !action.skipped then 1 else 0 := by
  unfold actionItem
  cases action.success <;> cases action.skipped <;> rfl

/-- A product that the loop gets to is recorded and counted once, as a success if the
platform said so. -/
theorem processItem_ends (item : ProductItem) (tally : Tally)
    (hskips : handling.skips item = false) :
    Ends (processItem collaborators run handling item tally) database
      (fun result next =>
        escape? collaborators handling item = none ∧
        result.2 = !breaks collaborators handling item ∧
        result.1.total = tally.total + 1 ∧
        result.1.success =
          tally.success + (if succeeds collaborators handling item then 1 else 0) ∧
        Records run.runId (if succeeds collaborators handling item then 1 else 0)
          database next)
      (fun failure next => next = database ∧ succeeds collaborators handling item = false ∧
        ∃ interruption, failure = .interrupted interruption ∧
          escape? collaborators handling item = some interruption) := by
  simp only [processItem, ends_tryCatch, ends_bind, ends_answer]
  cases hcall : collaborators.callItem item.itemId with
  | ok action =>
      have hsucceeds : succeeds collaborators handling item =
          (action.success && !action.skipped) := by
        simp [succeeds, hskips, hcall]
      have hescape : escape? collaborators handling item = none := by
        simp [escape?, hcall]
      have hbreaks : breaks collaborators handling item = false := by
        simp [breaks, hcall]
      have hitem : Records run.runId (if action.success && !action.skipped then 1 else 0)
          database (addRunItem (actionItem run action) database) := by
        rw [← status_actionItem run action]
        exact records_addRunItem database (actionItem run action)
      simp only [recordAction, ends_modify]
      rw [hsucceeds, hbreaks]
      split
      · simp only [ends_bind, ends_modify, ends_pure]
        exact ⟨hescape, rfl, total_count tally action, success_count tally action,
          hitem.trans (records_mark item.itemId action)⟩
      · simp only [ends_pure]
        exact ⟨hescape, rfl, total_count tally action, success_count tally action, hitem⟩
  | error failure =>
      have hsucceeds : succeeds collaborators handling item = false := by
        simp [succeeds, hcall]
      rw [hsucceeds]
      cases failure with
      | productOperation error =>
          have hbreaks : breaks collaborators handling item = handling.stops error := by
            simp [breaks, hskips, hcall]
          have hescape : escape? collaborators handling item = none := by
            simp [escape?, hcall]
          obtain ⟨hsuccess, hfailed, hskipped⟩ :=
            handling.noteError_counts error tally.countFailed
          have hitem := records_addRunItem database (errorItem run handling item error)
          rw [if_neg (show (errorItem run handling item error).status ≠ .success from
            handling.errorStatus_ne_success error)] at hitem
          simp only [ends_bind, ends_modify, ends_pure]
          refine ⟨hescape, by rw [hbreaks], ?_, ?_, hitem⟩
          · unfold Tally.total
            rw [hsuccess, hfailed, hskipped]
            simp only [Tally.countFailed]
            omega
          · rw [hsuccess]
            rfl
      | interrupted interruption =>
          simp only [ends_throw]
          exact ⟨trivial, trivial, interruption, rfl, by simp [escape?, hskips, hcall]⟩

variable {item : ProductItem}

/-- The loop goes on after the product. -/
theorem reached_cons (rest : List ProductItem)
    (hescape : escape? collaborators handling item = none)
    (hbreaks : breaks collaborators handling item = false) :
    reached collaborators handling (item :: rest) =
      item :: reached collaborators handling rest := by
  simp [reached, takeThrough, hescape, hbreaks]

theorem reached_cons_of_end (rest : List ProductItem)
    (hend : (escape? collaborators handling item).isSome = true ∨
      breaks collaborators handling item = true) :
    reached collaborators handling (item :: rest) = [item] := by
  simp only [reached, takeThrough]
  rw [if_pos (by simpa using hend)]

theorem successes_cons (rest : List ProductItem)
    (hescape : escape? collaborators handling item = none)
    (hbreaks : breaks collaborators handling item = false) :
    successes collaborators handling (item :: rest) =
      (if succeeds collaborators handling item then 1 else 0) +
        successes collaborators handling rest := by
  rw [successes, reached_cons rest hescape hbreaks, List.countP_cons, Nat.add_comm]
  rfl

theorem escaped?_cons (rest : List ProductItem)
    (hescape : escape? collaborators handling item = none)
    (hbreaks : breaks collaborators handling item = false) :
    escaped? collaborators handling (item :: rest) =
      escaped? collaborators handling rest := by
  rw [escaped?, reached_cons rest hescape hbreaks, List.findSome?_cons, hescape]
  rfl

theorem successes_cons_of_end (rest : List ProductItem)
    (hend : (escape? collaborators handling item).isSome = true ∨
      breaks collaborators handling item = true) :
    successes collaborators handling (item :: rest) =
      if succeeds collaborators handling item then 1 else 0 := by
  rw [successes, reached_cons_of_end rest hend, List.countP_singleton]

theorem escaped?_cons_of_end (rest : List ProductItem)
    (hend : (escape? collaborators handling item).isSome = true ∨
      breaks collaborators handling item = true) :
    escaped? collaborators handling (item :: rest) = escape? collaborators handling item := by
  rw [escaped?, reached_cons_of_end rest hend, List.findSome?_cons]
  cases escape? collaborators handling item <;> rfl

/-- What the loop records is what it counts, up to where it stops or is interrupted. -/
theorem processItems_ends (candidates : List ProductItem) (tally : Tally) :
    Ends (processItems collaborators run handling candidates tally) database
      (fun final next =>
        escaped? collaborators handling candidates = none ∧
        final.total = tally.total + (reached collaborators handling candidates).length ∧
        final.success = tally.success + successes collaborators handling candidates ∧
        Records run.runId (successes collaborators handling candidates) database next)
      (fun failure next =>
        Records run.runId (successes collaborators handling candidates) database next ∧
        ∃ interruption, failure = .interrupted interruption ∧
          escaped? collaborators handling candidates = some interruption) := by
  induction candidates generalizing tally database with
  | nil => exact ⟨rfl, rfl, rfl, Records.refl ..⟩
  | cons item rest ih =>
      cases hskips : handling.skips item with
      | true =>
          have hescape : escape? collaborators handling item = none := by
            simp [escape?, hskips]
          have hbreaks : breaks collaborators handling item = false := by
            simp [breaks, hskips]
          have hnone : succeeds collaborators handling item = false := by
            simp [succeeds, hskips]
          have hitem : Records run.runId 0 database
              (addRunItem (skippedItem run item) database) :=
            records_addRunItem database (skippedItem run item)
          rw [processItems, if_pos hskips]
          simp only [ends_bind, ends_modify]
          rw [successes_cons rest hescape hbreaks, escaped?_cons rest hescape hbreaks,
            reached_cons rest hescape hbreaks, hnone]
          apply (ih { tally with skipped := tally.skipped + 1 }).mono
          · rintro final next ⟨hend, htotal, hsuccess, hrecords⟩
            refine ⟨hend, ?_, ?_, hitem.trans hrecords⟩
            · rw [htotal, List.length_cons]
              simp only [Tally.total]
              omega
            · simpa using hsuccess
          · rintro failure next ⟨hrecords, hend⟩
            exact ⟨hitem.trans hrecords, hend⟩
      | false =>
          rw [processItems, if_neg (by simp [hskips]), ends_bind]
          apply (processItem_ends item tally hskips).mono
          · rintro ⟨counted, goesOn⟩ middle ⟨hescape, hgoes, htotal, hsuccess, hrecords⟩
            dsimp only at hgoes htotal hsuccess ⊢
            cases hbreaks : breaks collaborators handling item with
            | true =>
                rw [hgoes, hbreaks, successes_cons_of_end rest (.inr hbreaks),
                  escaped?_cons_of_end rest (.inr hbreaks),
                  reached_cons_of_end rest (.inr hbreaks)]
                exact ⟨hescape, htotal, hsuccess, hrecords⟩
            | false =>
                rw [hgoes, hbreaks, Bool.not_false, if_pos rfl,
                  successes_cons rest hescape hbreaks, escaped?_cons rest hescape hbreaks,
                  reached_cons rest hescape hbreaks]
                apply (ih counted).mono
                · rintro final next ⟨hend, hrest, hrestSuccess, hrestRecords⟩
                  refine ⟨hend, ?_, ?_, hrecords.trans hrestRecords⟩
                  · rw [hrest, htotal, List.length_cons]
                    omega
                  · rw [hrestSuccess, hsuccess, Nat.add_assoc]
                · rintro failure next ⟨hrestRecords, hend⟩
                  exact ⟨hrecords.trans hrestRecords, hend⟩
          · rintro failure next ⟨rfl, hnone, interruption, rfl, hescape⟩
            have hend : (escape? collaborators handling item).isSome = true :=
              Option.isSome_of_mem hescape
            rw [successes_cons_of_end rest (.inl hend), escaped?_cons_of_end rest (.inl hend),
              hnone]
            exact ⟨Records.refl .., interruption, rfl, hescape⟩

end Loops

section Run

variable (collaborators : RunCollaborators)

def MergeRaises : Prop :=
  Cookies.cleanUpdates collaborators.cookieUpdates ≠ [] ∧
    ∃ failure, collaborators.merged = .error failure ∧
      failure ≠ .interrupted .cancelled

def synced : ℕ :=
  match collaborators.listSellingItems with
  | .ok result => result.items.length
  | .error _ => 0

def SyncStands : Prop :=
  match collaborators.listSellingItems with
  | .ok result => MergeRaises collaborators → result.items = []
  | .error (.productOperation error) =>
      Merged (errorUpdates collaborators error) collaborators.mergedError
  | .error (.interrupted interruption) => interruption ≠ .cancelled

def ItemsStand (handling : ItemHandling) (candidates : List ProductItem) (toTheLast : Bool)
    (earlier : ℕ) : Prop :=
  earlier = 0 ∧
    let nothingSucceeds := ∀ item ∈ reached collaborators handling candidates,
      succeeds collaborators handling item = false
    match escaped? collaborators handling candidates with
    | some .cancelled => False
    | some (.exception _ _) => nothingSucceeds
    | none =>
        (MergeRaises collaborators → nothingSucceeds) ∧
          (toTheLast = true → ¬MergeRaises collaborators →
            (reached collaborators handling candidates).length = candidates.length)

/-- The summary of the run that is stored in `database` is written from its items. -/
def SummaryStands (database : OperationDatabase) (run : OperationRun) : Prop :=
  (database.accounts.lookup run.accountId).isSome = true ∧
    collaborators.locked = .ok () ∧ collaborators.client = .ok () ∧
    let candidates := candidatesOf run database
    let earlier := successItems run.runId database
    match run.operation with
    | .sync => SyncStands collaborators
    | .polish =>
        ItemsStand collaborators (polishHandling collaborators run) candidates true earlier
    | .offline =>
        ItemsStand collaborators (offlineHandling collaborators run)
          (candidates.filter fun item => item.platformStatus = .selling) false earlier
    | .delete =>
        ItemsStand collaborators (deleteHandling collaborators run) candidates false earlier

variable {collaborators} {run row : OperationRun} {database : OperationDatabase}

theorem awaitFinishRun_ends (runId : String) (summary : Summary)
    {returns : Option OperationRun → OperationDatabase → Prop}
    {raises : RunFailure → OperationDatabase → Prop} :
    Ends (awaitFinishRun collaborators runId summary) database returns raises ↔
      returns (finishRun database collaborators.now runId summary).1
        (finishRun database collaborators.now runId summary).2 := Iff.rfl

theorem recordException_agrees (hrow : database.runs.lookup run.runId = some row)
    (className text : String) (listed : ℕ) :
    Ends (recordRunFailure collaborators run (.interrupted (.exception className text)))
      database (fun _ _ => False)
      (fun _ next => SummaryAgrees listed run.runId next ↔
        (row.operation = .sync → listed = 0) ∧
          (row.operation ≠ .sync → successItems run.runId database = 0)) := by
  simp only [recordRunFailure, ends_bind, awaitFinishRun_ends, ends_throw]
  rw [agrees_finishRun_iff hrow, fits_failureSummary_iff RunStatus.noConfusion]
  simp

theorem merge_agrees (hrow : database.runs.lookup run.runId = some row) {listed : ℕ}
    {stands : Prop}
    (hkept : ¬MergeRaises collaborators →
      (SummaryAgrees listed run.runId database ↔ stands))
    (hlost : MergeRaises collaborators →
      ((row.operation = .sync → listed = 0) ∧
          (row.operation ≠ .sync → successItems run.runId database = 0) ↔ stands)) :
    Ends (mergeAccountCookieUpdates MergeFailure.runFailure collaborators.cookieUpdates
        collaborators.merged) database
      (fun _ next => SummaryAgrees listed run.runId next ↔ stands)
      (fun failure next =>
        Ends (recordRunFailure collaborators run failure) next
          (fun _ last => SummaryAgrees listed run.runId last ↔ stands)
          (fun _ last => SummaryAgrees listed run.runId last ↔ stands)) := by
  apply (mergeAccountCookieUpdates_ends _ _ _).mono
  · rintro changed next ⟨hmerged, rfl⟩
    refine hkept ?_
    rintro ⟨hsome, failure, hfailure, -⟩
    rcases hmerged with hnone | ⟨value, hvalue⟩
    · exact hsome hnone
    · rw [hvalue] at hfailure
      cases hfailure
  · rintro _ next ⟨hconflict, rfl, error, herror, rfl⟩
    have hsome : Cookies.cleanUpdates collaborators.cookieUpdates ≠ [] := fun hnone =>
      hconflict (.inl hnone)
    have hexception : ∀ className text, MergeFailure.runFailure error =
        .interrupted (.exception className text) → MergeRaises collaborators →
        Ends (recordRunFailure collaborators run (MergeFailure.runFailure error)) next
          (fun _ last => SummaryAgrees listed run.runId last ↔ stands)
          (fun _ last => SummaryAgrees listed run.runId last ↔ stands) := by
      intro className text hclass hraises
      rw [hclass]
      exact (recordException_agrees hrow className text listed).mono
        (fun _ _ h => h.elim) fun _ _ h => h.trans (hlost hraises)
    cases error with
    | cookieConflict text =>
        exact hexception _ _ rfl ⟨hsome, _, herror, MergeFailure.noConfusion⟩
    | interrupted interruption =>
        cases interruption with
        | exception className text =>
            exact hexception _ _ rfl ⟨hsome, _, herror, fun h => by cases h⟩
        | cancelled =>
            refine hkept ?_
            rintro ⟨-, failure, hfailure, hother⟩
            rw [herror] at hfailure
            cases hfailure
            exact hother rfl

theorem runIs_of_records {runId : String} {count : ℕ} {next : OperationDatabase}
    (hrow : database.runs.lookup runId = some row)
    (hrecords : Records runId count database next) :
    next.runs.lookup runId = some row := by
  rw [hrecords.1]
  exact hrow

theorem items_agree (hrow : database.runs.lookup run.runId = some row)
    (hother : row.operation ≠ .sync) (hrunning : row.status = .running)
    {handling : ItemHandling} {candidates : List ProductItem} {start : Tally}
    (hstart : start.success = 0) {summary : Tally → Summary} {toTheLast : Bool}
    {listed : ℕ}
    (hfits : ∀ (tally : Tally) (successes : ℕ),
      tally.total = start.total + (reached collaborators handling candidates).length →
      ((summary tally).Fits row.operation listed successes ↔
        (toTheLast = true →
            (reached collaborators handling candidates).length = candidates.length) ∧
          tally.success = successes)) :
    Ends (processItems collaborators run handling candidates start) database
      (fun tally middle =>
        Ends (mergeAccountCookieUpdates MergeFailure.runFailure collaborators.cookieUpdates
            collaborators.merged)
          (finishRun middle collaborators.now run.runId (summary tally)).2
          (fun _ next => SummaryAgrees listed run.runId next ↔
            ItemsStand collaborators handling candidates toTheLast
              (successItems run.runId database))
          (fun failure next =>
            Ends (recordRunFailure collaborators run failure) next
              (fun _ last => SummaryAgrees listed run.runId last ↔
                ItemsStand collaborators handling candidates toTheLast
                  (successItems run.runId database))
              (fun _ last => SummaryAgrees listed run.runId last ↔
                ItemsStand collaborators handling candidates toTheLast
                  (successItems run.runId database))))
      (fun failure middle =>
        Ends (recordRunFailure collaborators run failure) middle
          (fun _ last => SummaryAgrees listed run.runId last ↔
            ItemsStand collaborators handling candidates toTheLast
              (successItems run.runId database))
          (fun _ last => SummaryAgrees listed run.runId last ↔
            ItemsStand collaborators handling candidates toTheLast
              (successItems run.runId database))) := by
  apply (processItems_ends candidates start).mono
  · rintro tally middle ⟨hescaped, htotal, hsuccess, hrecords⟩
    have hmiddle := runIs_of_records hrow hrecords
    have hagrees := agrees_finishRun_iff hmiddle listed collaborators.now (summary tally)
    rw [hfits tally _ htotal] at hagrees
    have hitems : successItems run.runId
        (finishRun middle collaborators.now run.runId (summary tally)).2 =
          successItems run.runId database + successes collaborators handling candidates :=
      hrecords.2
    rw [hstart, Nat.zero_add] at hsuccess
    rw [hsuccess, hrecords.2] at hagrees
    refine merge_agrees (lookup_finishRun hmiddle _ _) ?_ ?_
    · intro hkept
      rw [hagrees]
      simp only [ItemsStand, hescaped, hkept, false_implies, not_false_eq_true, true_implies,
        true_and]
      constructor
      · exact fun ⟨hlast, hcount⟩ => ⟨by omega, hlast⟩
      · exact fun ⟨hearlier, hlast⟩ => ⟨hlast, by omega⟩
    · intro hlost
      rw [hitems]
      simp only [ItemsStand, hescaped, hlost, ← successes_eq_zero_iff, OperationRun.finish,
        hother, false_implies, true_and, ne_eq, not_false_eq_true, true_implies,
        not_true_eq_false, implies_true, and_true]
      exact Nat.add_eq_zero_iff
  · rintro _ middle ⟨hrecords, interruption, rfl, hescaped⟩
    have hmiddle := runIs_of_records hrow hrecords
    cases interruption with
    | cancelled =>
        refine iff_of_false (not_agrees_of_running hmiddle hrunning) ?_
        rintro ⟨-, hstands⟩
        rw [hescaped] at hstands
        exact hstands
    | exception className text =>
        apply (recordException_agrees hmiddle className text listed).mono
        · exact fun _ _ h => h.elim
        · intro _ last hlast
          rw [hlast, hrecords.2]
          simp only [ItemsStand, hescaped, ← successes_eq_zero_iff, hother, false_implies,
            true_and, ne_eq, not_false_eq_true, true_implies]
          exact Nat.add_eq_zero_iff

theorem sync_agrees (hrow : database.runs.lookup run.runId = some row)
    (hsync : row.operation = .sync) (hrunning : row.status = .running) :
    Ends (executeSync collaborators run) database
      (fun _ middle =>
        Ends (mergeAccountCookieUpdates MergeFailure.runFailure collaborators.cookieUpdates
            collaborators.merged) middle
          (fun _ next => SummaryAgrees (synced collaborators) run.runId next ↔
            SyncStands collaborators)
          (fun failure next =>
            Ends (recordRunFailure collaborators run failure) next
              (fun _ last => SummaryAgrees (synced collaborators) run.runId last ↔
                SyncStands collaborators)
              (fun _ last => SummaryAgrees (synced collaborators) run.runId last ↔
                SyncStands collaborators)))
      (fun failure middle =>
        Ends (recordRunFailure collaborators run failure) middle
          (fun _ last => SummaryAgrees (synced collaborators) run.runId last ↔
            SyncStands collaborators)
          (fun _ last => SummaryAgrees (synced collaborators) run.runId last ↔
            SyncStands collaborators)) := by
  simp only [executeSync]
  rw [ends_bind, ends_answer]
  cases hlist : collaborators.listSellingItems with
  | ok listed =>
      simp only [ends_bind, ends_modify, awaitFinishRun_ends, ends_pure]
      have hcount : synced collaborators = listed.items.length := by
        simp [synced, hlist]
      have hstands : SyncStands collaborators ↔
          (MergeRaises collaborators → listed.items = []) := by
        simp [SyncStands, hlist]
      rw [hstands]
      have happlied : ({ database with
          products := collaborators.applySync run.accountId listed.items run.fullSync
            listed.complete database.products } : OperationDatabase).runs.lookup run.runId =
          some row := hrow
      refine merge_agrees (lookup_finishRun happlied _ _) ?_ ?_
      · intro hkept
        refine iff_of_true ?_ fun hlost => absurd hlost hkept
        exact (agrees_finishRun_iff happlied _ _ _).mpr (fits_syncSummary hsync _ _ _)
      · intro hlost
        rw [hcount]
        simp [OperationRun.finish, hsync, hlost]
  | error failure =>
      have hnone : synced collaborators = 0 := by
        simp [synced, hlist]
      rw [hnone]
      cases failure with
      | productOperation error =>
          have hstands : SyncStands collaborators ↔
              Merged (errorUpdates collaborators error) collaborators.mergedError := by
            simp [SyncStands, hlist]
          rw [hstands]
          simp only [recordRunFailure]
          rw [ends_bind]
          apply (mergeAccountCookieUpdates_ends _ _ _).mono
          · rintro changed next ⟨hmerged, rfl⟩
            rw [ends_bind, awaitFinishRun_ends]
            refine iff_of_true ((agrees_finishRun_iff hrow _ _ _).mpr ?_) hmerged
            refine (fits_failureSummary_iff ?_).mpr ⟨fun _ _ => rfl, fun h => absurd hsync h⟩
            split <;> exact RunStatus.noConfusion
          · rintro _ next ⟨hconflict, rfl, -⟩
            exact iff_of_false (not_agrees_of_running hrow hrunning) hconflict
      | interrupted interruption =>
          have hstands : SyncStands collaborators ↔ interruption ≠ .cancelled := by
            simp [SyncStands, hlist]
          rw [hstands]
          cases interruption with
          | exception className text =>
              apply (recordException_agrees hrow className text 0).mono
              · exact fun _ _ h => h.elim
              · intro _ last hlast
                rw [hlast]
                simp [hsync]
          | cancelled =>
              exact iff_of_false (not_agrees_of_running hrow hrunning) fun h => h rfl

theorem performRun_agrees (hrow : database.runs.lookup run.runId = some run)
    (hrunning : run.status = .running)
    (haccount : (database.accounts.lookup run.accountId).isSome = true)
    (hlocked : collaborators.locked = .ok ()) (hclient : collaborators.client = .ok ()) :
    Ends (tryCatch (performRun collaborators run) (recordRunFailure collaborators run))
      database
      (fun _ next => SummaryAgrees (synced collaborators) run.runId next ↔
        SummaryStands collaborators database run)
      (fun _ next => SummaryAgrees (synced collaborators) run.runId next ↔
        SummaryStands collaborators database run) := by
  have hstands : SummaryStands collaborators database run ↔
      match run.operation with
      | .sync => SyncStands collaborators
      | .polish =>
          ItemsStand collaborators (polishHandling collaborators run)
            (candidatesOf run database) true (successItems run.runId database)
      | .offline =>
          ItemsStand collaborators (offlineHandling collaborators run)
            ((candidatesOf run database).filter fun item => item.platformStatus = .selling)
            false (successItems run.runId database)
      | .delete =>
          ItemsStand collaborators (deleteHandling collaborators run)
            (candidatesOf run database) false (successItems run.runId database) := by
    simp [SummaryStands, haccount, hlocked, hclient]
  simp only [hstands, performRun, executeOperation]
  cases hoperation : run.operation with
  | sync =>
      simp only [ends_tryCatch, ends_bind, ends_pure]
      exact sync_agrees hrow hoperation hrunning
  | polish =>
      simp only [executePolish, ends_tryCatch, ends_bind, ends_get, awaitFinishRun_ends,
        ends_pure]
      refine items_agree hrow (by simp [hoperation]) hrunning rfl fun tally count htotal => ?_
      rw [fits_actionSummary_iff (by simp [hoperation]), htotal]
      simp [Tally.total, eq_comm]
  | offline =>
      simp only [executeOffline, finishRemoval, ends_tryCatch, ends_bind, ends_get,
        awaitFinishRun_ends, ends_pure]
      refine items_agree hrow (by simp [hoperation]) hrunning rfl fun tally count htotal => ?_
      rw [fits_removalSummary_iff (by simp [hoperation])]
      · simp
      · have hle := reached_length_le collaborators (offlineHandling collaborators run)
          ((candidatesOf run database).filter fun item => item.platformStatus = .selling)
        have hfilter := List.length_filter_le
          (fun item : ProductItem => decide (item.platformStatus = .selling))
          (candidatesOf run database)
        rw [htotal]
        simp only [Tally.total]
        omega
  | delete =>
      simp only [executeDelete, finishRemoval, ends_tryCatch, ends_bind, ends_get,
        awaitFinishRun_ends, ends_pure]
      refine items_agree hrow (by simp [hoperation]) hrunning rfl fun tally count htotal => ?_
      rw [fits_removalSummary_iff (by simp [hoperation])]
      · simp
      · have hle := reached_length_le collaborators (deleteHandling collaborators run)
          (candidatesOf run database)
        rw [htotal]
        simp only [Tally.total]
        omega

theorem lookup_startRun {runId : String} (hrow : database.runs.lookup runId = some row)
    (now : ℕ) :
    (startRun database now runId).2.runs.lookup runId = some (row.start now) := by
  have hid : row.runId = runId := by
    simpa [eq_comm] using (Table.lookup_eq_some_iff.mp hrow).2
  unfold startRun
  rw [Table.lookup_map, hrow]
  simp [hid]

theorem status_start (hactive : run.status = .pending ∨ run.status = .running) (now : ℕ) :
    (run.start now).status = .running := by
  unfold OperationRun.start
  split
  · rfl
  · rename_i hnot
    exact hactive.resolve_left hnot

theorem summaryStands_start (database : OperationDatabase) (run : OperationRun) (now : ℕ) :
    SummaryStands collaborators (startRun database now run.runId).2 (run.start now) ↔
      SummaryStands collaborators database run := by
  unfold OperationRun.start
  split <;> exact Iff.rfl

/-- The summary of a run that is executed agrees with its items exactly when it is written
from them. -/
theorem summary_agrees_iff {runId : String} (hrun : database.runs.lookup runId = some run)
    (hactive : run.status = .pending ∨ run.status = .running) :
    SummaryAgrees (synced collaborators) runId
        ((executeRun collaborators runId).after database) ↔
      SummaryStands collaborators database run := by
  have hid : run.runId = runId := by
    simpa [eq_comm] using (Table.lookup_eq_some_iff.mp hrun).2
  subst hid
  have hstarted := lookup_startRun hrun collaborators.now
  have hrunning := status_start hactive collaborators.now
  have hstands : SummaryStands collaborators
      (startRun database collaborators.now run.runId).2 (run.start collaborators.now) ↔
        SummaryStands collaborators database run :=
    summaryStands_start database run collaborators.now
  rw [← hstands]
  suffices hends : Ends (executeRun collaborators run.runId) database
      (fun _ next => SummaryAgrees (synced collaborators) run.runId next ↔
        SummaryStands collaborators (startRun database collaborators.now run.runId).2
          (run.start collaborators.now))
      (fun _ next => SummaryAgrees (synced collaborators) run.runId next ↔
        SummaryStands collaborators (startRun database collaborators.now run.runId).2
          (run.start collaborators.now)) from ends_after.mp hends
  have haccounts : (startRun database collaborators.now run.runId).2.accounts =
      database.accounts := rfl
  have hfound : (startRun database collaborators.now run.runId).1 =
      some (run.start collaborators.now) := by
    simp [startRun, hrun]
  have hsame : (run.start collaborators.now).accountId = run.accountId ∧
      (run.start collaborators.now).runId = run.runId := by
    unfold OperationRun.start
    split <;> exact ⟨rfl, rfl⟩
  simp only [executeRun, ends_bind, ends_get, hfound, ends_set, hrunning, ne_eq,
    not_true_eq_false, decide_false, Bool.false_and, Bool.false_eq_true, if_false]
  rw [← haccounts]
  generalize (startRun database collaborators.now run.runId).2 = started at hstarted ⊢
  generalize run.start collaborators.now = running at hstarted hrunning hsame ⊢
  rw [← hsame.2] at hstarted ⊢
  have hleft : ∀ failure : RunFailure, ¬SummaryStands collaborators started running →
      Ends (throw failure : RunProcedure RunAnswer) started
        (fun _ next => SummaryAgrees (synced collaborators) running.runId next ↔
          SummaryStands collaborators started running)
        (fun _ next => SummaryAgrees (synced collaborators) running.runId next ↔
          SummaryStands collaborators started running) :=
    fun _ hnot => iff_of_false (not_agrees_of_running hstarted hrunning) hnot
  cases haccount : started.accounts.lookup running.accountId with
  | none => exact hleft _ fun hstands => by simpa [haccount] using hstands.1
  | some account =>
      simp only [Option.isNone_some, Bool.false_eq_true, if_false, ends_bind, ends_answer]
      cases hlocked : collaborators.locked with
      | error interruption =>
          exact hleft (.interrupted interruption) fun hstands => by
            simpa [hlocked] using hstands.2.1
      | ok value =>
          cases hclient : collaborators.client with
          | error error =>
              exact hleft (.interrupted (.exception error.1 error.2)) fun hstands => by
                simpa [hclient] using hstands.2.2.1
          | ok value =>
              exact performRun_agrees hstarted hrunning (by rw [haccount]; rfl) hlocked
                hclient

end Run

def deletionRun : OperationRun where
  runId := "run-1"
  accountId := "seller"
  operation := .delete
  requestedItemIds := ["9001", "9002"]

def sellingProduct (itemId : String) : ProductItem where
  accountId := "seller"
  itemId := itemId

def deletionDatabase : OperationDatabase where
  accounts := .singleton { accountId := "seller" }
  runs := .singleton deletionRun
  items := []
  products :=
    { rows := [sellingProduct "9001", sellingProduct "9002"]
      unique := List.pairwise_pair.mpr (by decide) }

def deletingCollaborators : RunCollaborators where
  locked := .ok ()
  client := .ok ()
  listSellingItems := .ok { items := [], complete := true }
  callItem := fun itemId => .ok { itemId := itemId, success := true, verified := true }
  cookieUpdates := Dict.empty
  merged := .ok false
  mergedError := .ok false
  applySync := fun _ _ _ _ products => products
  now := 1
  shanghaiDate := fun _ => "2025-01-01"

theorem deletion_agrees :
    SummaryAgrees (synced deletingCollaborators) "run-1"
      ((executeRun deletingCollaborators "run-1").after deletionDatabase) :=
  (summary_agrees_iff (show deletionDatabase.runs.lookup "run-1" = some deletionRun from rfl)
      (.inl rfl)).mpr
    ⟨rfl, rfl, rfl, rfl, fun hraises => absurd rfl hraises.1, fun hlast => by cases hlast⟩

/-- The second product is answered by a page that is no JSON: the run is left with no
success although the first product was deleted. -/
theorem page_hides_deletion :
    ¬ ∀ (collaborators : RunCollaborators) (database : OperationDatabase) (runId : String)
      (run : OperationRun), database.runs.lookup runId = some run →
      run.status = .pending ∨ run.status = .running →
      SummaryAgrees (synced collaborators) runId
        ((executeRun collaborators runId).after database) := by
  intro hagrees
  obtain ⟨found, hfound, -, -, hsuccess, -⟩ := hagrees
    { deletingCollaborators with
      callItem := fun itemId =>
        if itemId = "9001" then .ok { itemId := itemId, success := true, verified := true }
        else .error (.interrupted (.exception "ProductPublishError" "返回非 JSON 响应")) }
    deletionDatabase "run-1" deletionRun rfl (.inl rfl)
  have hcount : found.successCount = 0 := by
    rw [← Option.some.inj hfound]
    rfl
  have hdelete : found.operation ≠ .sync := by
    rw [← Option.some.inj hfound]
    exact RunOperation.noConfusion
  have hitems := hsuccess hdelete
  rw [hcount] at hitems
  cases hitems

end XianyuAdmin.Products
