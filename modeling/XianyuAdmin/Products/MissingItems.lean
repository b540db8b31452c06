import XianyuAdmin.Core.Transition
import XianyuAdmin.Products.CatalogSync

/-!
# Missing products

Three columns of a product say whether it is on sale, whether that is confirmed and how often
syncs lacked it.  They are a function of the history of the catalog: of what the product was
last seen or marked as, and of the number of full and complete syncs that have lacked it since.
What the catalog does with missing and deleted products is read off from that.
-/

namespace XianyuAdmin.Products

open XianyuAdmin.Transition

inductive MarkedStatus
  | offline
  | deleted
  deriving DecidableEq, Repr

def MarkedStatus.platformStatus : MarkedStatus → PlatformStatus
  | .offline => .offline
  | .deleted => .deleted

inductive CatalogCall
  | sync (items : List ManagedProduct) (full complete : Bool)
  | mark (itemId : String) (status : MarkedStatus) (pendingConfirmation : Bool)
  | deleteLocal (itemId : String)

structure CatalogRun where
  database : CatalogDatabase
  history : List CatalogCall

section Calls

variable (accountId : String)

/-- What a call makes of the catalog; `none` is a call that raises, whose transaction is rolled
back. -/
def CatalogCall.perform (now : ℕ) (database : CatalogDatabase) :
    CatalogCall → Option CatalogDatabase
  | .sync items full complete => applySync now accountId items full complete database
  | .mark itemId status pendingConfirmation =>
      some (markCatalogItem now accountId itemId status.platformStatus pendingConfirmation
        database)
  | .deleteLocal itemId => (deleteLocalItem now accountId itemId database).toOption.map Prod.snd

def CatalogRun.step (run : CatalogRun) (label : ℕ × CatalogCall) : CatalogRun :=
  match label.2.perform accountId label.1 run.database with
  | none => run
  | some database => { database := database, history := label.2 :: run.history }

end Calls

/-- What a product was last seen or marked as. -/
inductive Touch
  | seen
  | marked (status : MarkedStatus) (pendingConfirmation : Bool)

/-- The call sees or marks the product. -/
def CatalogCall.touch? (itemId : String) : CatalogCall → Option Touch
  | .sync items _ _ => if itemId ∈ items.map ManagedProduct.itemId then some .seen else none
  | .mark markedId status pendingConfirmation =>
      if markedId = itemId then some (.marked status pendingConfirmation) else none
  | .deleteLocal _ => none

def CatalogCall.isFullSync : CatalogCall → Bool
  | .sync _ full complete => full && complete
  | .mark _ _ _ | .deleteLocal _ => false

def lastTouch (itemId : String) : List CatalogCall → Option Touch
  | [] => none
  | call :: earlier => (call.touch? itemId).or (lastTouch itemId earlier)

/-- The number of full and complete syncs that lacked the product since it was last seen or
marked. -/
def lacking (itemId : String) : List CatalogCall → ℕ
  | [] => 0
  | call :: earlier =>
      if (call.touch? itemId).isSome then 0
      else if call.isFullSync then lacking itemId earlier + 1
      else lacking itemId earlier

/-- What the row of a product says after a touch and a number of syncs that lacked it. -/
def Touch.standing : Touch → ℕ → Standing
  | .seen, 0 => ⟨.selling, "current", 0⟩
  | .seen, 1 => ⟨.selling, "pending_confirmation", 1⟩
  | .seen, count + 2 => ⟨.notSelling, "missing", count + 2⟩
  | .marked status pendingConfirmation, count =>
      ⟨status.platformStatus,
        if pendingConfirmation ∧ count = 0 then "pending_confirmation" else "current", 0⟩

theorem Touch.missed_standing (touch : Touch) (count : ℕ) :
    (touch.standing count).missed = touch.standing (count + 1) := by
  cases touch with
  | seen =>
      rcases count with _ | _ | count
      · rfl
      · rfl
      · simp [Touch.standing, Standing.missed]
  | marked status pendingConfirmation =>
      cases status <;> cases pendingConfirmation <;> cases count <;>
        simp [Touch.standing, Standing.missed, MarkedStatus.platformStatus]

def FollowsHistory (accountId : String) (run : CatalogRun) : Prop :=
  ∀ row ∈ run.database.products.rows, row.accountId = accountId →
    ∃ touch, lastTouch row.itemId run.history = some touch ∧
      row.standing = touch.standing (lacking row.itemId run.history)

section Steps

variable {accountId : String} {now : ℕ} {before after : CatalogDatabase}

theorem rows_markCatalogItem (itemId : String) (status : PlatformStatus)
    (pendingConfirmation : Bool) {next : ProductItem}
    (hnext : next ∈ (markCatalogItem now accountId itemId status pendingConfirmation
      before).products.rows) :
    ∃ row ∈ before.products.rows, SameProduct row next ∧
      next.standing =
        if row.accountId = accountId ∧ row.itemId = itemId then
          ⟨status, if pendingConfirmation then "pending_confirmation" else "current", 0⟩
        else row.standing := by
  obtain ⟨row, hrow, rfl⟩ := List.mem_map.mp hnext
  refine ⟨row, hrow, ?_⟩
  split
  · exact ⟨⟨rfl, rfl⟩, rfl⟩
  · exact ⟨⟨rfl, rfl⟩, rfl⟩

variable {row : ProductItem} {itemId : String} {call : CatalogCall}

theorem kept_markCatalogItem (itemId : String) (status : PlatformStatus)
    (pendingConfirmation : Bool) (hrow : row ∈ before.products.rows) :
    ∃ next ∈ (markCatalogItem now accountId itemId status pendingConfirmation
      before).products.rows, SameProduct row next := by
  refine ⟨_, List.mem_map_of_mem hrow, ?_⟩
  split
  · exact ⟨rfl, rfl⟩
  · exact ⟨rfl, rfl⟩

/-- The cleanup removes the row of a confirmed deletion, or none. -/
theorem rows_deleteLocalItem {hidden : Option ℕ}
    (hdelete : deleteLocalItem now accountId itemId before = .ok (hidden, after)) :
    after.products.rows = before.products.rows ∨
      (∃ row ∈ before.products.rows, row.accountId = accountId ∧ row.itemId = itemId ∧
        row.platformStatus = .deleted ∧ row.syncState = "current") ∧
      ∀ row, row ∈ after.products.rows ↔ row ∈ before.products.rows ∧
        ¬ (row.accountId = accountId ∧ row.itemId = itemId) := by
  unfold deleteLocalItem at hdelete
  split at hdelete
  · cases hdelete
    exact .inl rfl
  · rename_i row hlookup
    split_ifs at hdelete with hstatus hstate
    · obtain ⟨hmem, hkey⟩ := Table.lookup_eq_some_iff.mp hlookup
      rw [List.mem_singleton, Prod.mk.injEq] at hkey
      cases hdelete
      refine .inr ⟨⟨row, hmem, hkey.1.symm, hkey.2.symm, not_not.mp hstatus,
        not_not.mp hstate⟩, fun other => ?_⟩
      rw [Table.mem_delete_iff, decide_eq_false_iff_not]

theorem deleteLocalItem_of_perform
    (hperform : (CatalogCall.deleteLocal itemId).perform accountId now before = some after) :
    ∃ hidden, deleteLocalItem now accountId itemId before = .ok (hidden, after) := by
  obtain ⟨⟨hidden, deleted⟩, hdelete, rfl⟩ := Option.map_eq_some_iff.mp hperform
  cases hresult : deleteLocalItem now accountId itemId before with
  | error text =>
      rw [hresult] at hdelete
      cases hdelete
  | ok found =>
      rw [hresult] at hdelete
      cases hdelete
      exact ⟨hidden, rfl⟩

theorem not_listed_of_touch {items : List ManagedProduct} {full complete : Bool}
    (haccount : row.accountId = accountId) :
    ((CatalogCall.sync items full complete).touch? row.itemId = none ↔
      ¬ Listed accountId items row) := by
  simp [CatalogCall.touch?, Listed, haccount]

theorem lacking_cons_of_none (history : List CatalogCall) (htouch : call.touch? itemId = none) :
    lastTouch itemId (call :: history) = lastTouch itemId history ∧
      lacking itemId (call :: history) =
        if call.isFullSync then lacking itemId history + 1 else lacking itemId history := by
  constructor
  · rw [lastTouch, htouch, Option.none_or]
  · rw [lacking, htouch]
    rfl

theorem lacking_cons_of_some {touch : Touch} (history : List CatalogCall)
    (htouch : call.touch? itemId = some touch) :
    lastTouch itemId (call :: history) = some touch ∧ lacking itemId (call :: history) = 0 := by
  constructor
  · rw [lastTouch, htouch, Option.some_or]
  · rw [lacking, htouch]
    rfl

theorem standing_of_untouched {next : ProductItem} {history : List CatalogCall}
    (hsame : SameProduct row next) (hrow : ∃ touch, lastTouch row.itemId history = some touch ∧
      row.standing = touch.standing (lacking row.itemId history))
    (htouch : call.touch? next.itemId = none)
    (hnext : next.standing = if call.isFullSync then row.standing.missed else row.standing) :
    ∃ touch, lastTouch next.itemId (call :: history) = some touch ∧
      next.standing = touch.standing (lacking next.itemId (call :: history)) := by
  obtain ⟨touch, hlast, hstanding⟩ := hrow
  obtain ⟨hlastNow, hlackingNow⟩ := lacking_cons_of_none history htouch
  refine ⟨touch, by rw [hlastNow, ← hsame.2, hlast], ?_⟩
  rw [hlackingNow, hnext, hstanding, ← hsame.2]
  split
  · exact touch.missed_standing _
  · rfl

theorem followsHistory_step {run : CatalogRun} (label : ℕ × CatalogCall)
    (h : FollowsHistory accountId run) : FollowsHistory accountId (run.step accountId label) := by
  obtain ⟨now, call⟩ := label
  unfold CatalogRun.step
  split
  · exact h
  · rename_i database hperform
    intro next hnext haccount
    cases call with
    | sync items full complete =>
        have hsynced := synced_applySync hperform
        by_cases hlisted : Listed accountId items next
        · have htouch : (CatalogCall.sync items full complete).touch? next.itemId =
              some .seen := if_pos hlisted.2
          obtain ⟨hlast, hlacking⟩ := lacking_cons_of_some run.history htouch
          exact ⟨.seen, hlast, by rw [hlacking]; exact hsynced.seen next hnext hlisted⟩
        · obtain ⟨row, hrow, hsame, hstanding⟩ := hsynced.other next hnext hlisted
          have hrowAccount := hsame.1.trans haccount
          refine standing_of_untouched hsame (h row hrow hrowAccount)
            ((not_listed_of_touch haccount).mpr hlisted) ?_
          rw [hstanding, if_pos hrowAccount, missing]
          split
          · rename_i hcomplete
            rw [CatalogCall.isFullSync, if_pos hcomplete]
          · rename_i hcomplete
            rw [CatalogCall.isFullSync, if_neg hcomplete]
            rfl
    | mark itemId status pendingConfirmation =>
        cases hperform
        obtain ⟨row, hrow, hsame, hstanding⟩ := rows_markCatalogItem _ _ _ hnext
        have hrowAccount := hsame.1.trans haccount
        by_cases hid : itemId = next.itemId
        · have htouch : (CatalogCall.mark itemId status pendingConfirmation).touch? next.itemId =
              some (.marked status pendingConfirmation) := if_pos hid
          obtain ⟨hlast, hlacking⟩ := lacking_cons_of_some run.history htouch
          refine ⟨_, hlast, ?_⟩
          rw [hlacking, hstanding, if_pos ⟨hrowAccount, hsame.2.trans hid.symm⟩]
          simp [Touch.standing]
        · refine standing_of_untouched hsame (h row hrow hrowAccount) (if_neg hid) ?_
          rw [hstanding, if_neg fun hkey => hid (hkey.2.symm.trans hsame.2)]
          rfl
    | deleteLocal itemId =>
        obtain ⟨hidden, hdelete⟩ := deleteLocalItem_of_perform hperform
        have hrow : next ∈ run.database.products.rows := by
          rcases rows_deleteLocalItem hdelete with heq | ⟨-, hiff⟩
          · exact heq ▸ hnext
          · exact ((hiff next).mp hnext).1
        exact standing_of_untouched ⟨rfl, rfl⟩ (h next hrow haccount) rfl rfl

theorem exists_same_or_deleted (hperform : call.perform accountId now before = some after)
    (hrow : row ∈ before.products.rows) :
    (∃ next ∈ after.products.rows, SameProduct row next) ∨
      call = .deleteLocal row.itemId ∧ row.platformStatus = .deleted ∧
        row.syncState = "current" := by
  cases call with
  | sync items full complete => exact .inl ((synced_applySync hperform).kept row hrow)
  | mark itemId status pendingConfirmation =>
      cases hperform
      exact .inl (kept_markCatalogItem _ _ _ hrow)
  | deleteLocal itemId =>
      obtain ⟨hidden, hdelete⟩ := deleteLocalItem_of_perform hperform
      rcases rows_deleteLocalItem hdelete with heq | ⟨⟨found, hfound, haccount, hid, hstatus,
        hstate⟩, hiff⟩
      · exact .inl ⟨row, heq ▸ hrow, rfl, rfl⟩
      · by_cases hkey : row.accountId = accountId ∧ row.itemId = itemId
        · have hsame : found = row := Table.eq_of_key hfound hrow (List.mem_singleton_self _)
            (by simp [haccount, hid, hkey])
          exact .inr ⟨by rw [hkey.2], hsame ▸ hstatus, hsame ▸ hstate⟩
        · exact .inl ⟨row, (hiff row).mpr ⟨hrow, hkey⟩, rfl, rfl⟩

end Steps

section Runs

variable {accountId : String} {start : CatalogDatabase} {labels : List (ℕ × CatalogCall)}
  {run : CatalogRun}

theorem followsHistory_run (hstart : ∀ row ∈ start.products.rows, row.accountId ≠ accountId)
    (hrun : Run (ofFunction (CatalogRun.step accountId)) ⟨start, []⟩ labels run) :
    FollowsHistory accountId run := by
  refine hrun.invariant (FollowsHistory accountId) (fun before label after h hstep => ?_) ?_
  · rw [← show before.step accountId label = after from hstep]
    exact followsHistory_step label h
  · exact fun row hrow haccount => absurd haccount (hstart row hrow)

/-- In every run from a catalog without products of the account: a product that is no longer
on sale was lacking in two full and complete syncs since it was last seen or marked; a sync
that is not full or not complete leaves alone what it does not contain; a marked product keeps
its status until a sync contains it; and a row is removed only where its product was marked as
deleted, with a verified result or with a full and complete sync that lacked it afterwards. -/
theorem missing_items_bookkept
    (hstart : ∀ row ∈ start.products.rows, row.accountId ≠ accountId)
    (hrun : Run (ofFunction (CatalogRun.step accountId)) ⟨start, []⟩ labels run) :
    (∀ row ∈ run.database.products.rows, row.accountId = accountId →
      row.platformStatus = .notSelling →
        lastTouch row.itemId run.history = some .seen ∧ 2 ≤ lacking row.itemId run.history) ∧
    (∀ now items full complete after, (full && complete) = false →
      applySync now accountId items full complete run.database = some after →
      ∀ row ∈ run.database.products.rows, row.accountId = accountId →
        row.itemId ∉ items.map ManagedProduct.itemId →
        ∃ next ∈ after.products.rows, SameProduct row next ∧ next.standing = row.standing) ∧
    (∀ row ∈ run.database.products.rows, row.accountId = accountId →
      ∀ status pendingConfirmation,
        lastTouch row.itemId run.history = some (.marked status pendingConfirmation) →
        row.platformStatus = status.platformStatus) ∧
    (∀ now (call : CatalogCall) after, call.perform accountId now run.database = some after →
      ∀ row ∈ run.database.products.rows, row.accountId = accountId →
        (∀ next ∈ after.products.rows, ¬ SameProduct row next) →
        call = .deleteLocal row.itemId ∧ ∃ pendingConfirmation,
          lastTouch row.itemId run.history = some (.marked .deleted pendingConfirmation) ∧
            (pendingConfirmation = false ∨ 1 ≤ lacking row.itemId run.history)) := by
  have hfollows := followsHistory_run hstart hrun
  refine ⟨fun row hrow haccount hstatus => ?_, fun now items full complete after hpartial happly
    row hrow haccount hitem => ?_, fun row hrow haccount status pendingConfirmation hlast => ?_,
    fun now call after hperform row hrow haccount hgone => ?_⟩
  · obtain ⟨touch, hlast, hstanding⟩ := hfollows row hrow haccount
    have hsame : (touch.standing (lacking row.itemId run.history)).platformStatus =
        .notSelling := by
      rw [← hstanding]
      exact hstatus
    cases touch with
    | marked status pendingConfirmation => cases status <;> cases hsame
    | seen =>
        refine ⟨hlast, ?_⟩
        match hcount : lacking row.itemId run.history with
        | 0 | 1 =>
            rw [hcount] at hsame
            cases hsame
        | count + 2 => exact Nat.le_add_left 2 count
  · have hsynced := synced_applySync happly
    obtain ⟨next, hnext, hsame⟩ := hsynced.kept row hrow
    have hlisted : ¬ Listed accountId items next := fun hlisted =>
      hitem (hsame.listed_iff.mpr hlisted).2
    obtain ⟨origin, horigin, horiginSame, hstanding⟩ := hsynced.other next hnext hlisted
    have heq : origin = row := Table.eq_of_key horigin hrow (List.mem_singleton_self _)
      (by simp [hsame.1, hsame.2, horiginSame.1, horiginSame.2])
    refine ⟨next, hnext, hsame, ?_⟩
    rw [hstanding, heq, missing, hpartial]
    simp
  · obtain ⟨touch, hfound, hstanding⟩ := hfollows row hrow haccount
    obtain rfl : touch = .marked status pendingConfirmation := by
      rw [hfound] at hlast
      exact Option.some.inj hlast
    exact congrArg Standing.platformStatus hstanding
  · rcases exists_same_or_deleted hperform hrow with ⟨next, hnext, hsame⟩ |
      ⟨hcall, hstatus, hstate⟩
    · exact absurd hsame (hgone next hnext)
    · refine ⟨hcall, ?_⟩
      obtain ⟨touch, hlast, hstanding⟩ := hfollows row hrow haccount
      have hplatform := congrArg Standing.platformStatus hstanding
      have hsync := congrArg Standing.syncState hstanding
      rw [show row.standing.platformStatus = .deleted from hstatus] at hplatform
      rw [show row.standing.syncState = "current" from hstate] at hsync
      cases touch with
      | seen =>
          match hcount : lacking row.itemId run.history with
          | 0 | 1 | count + 2 =>
              rw [hcount] at hplatform
              cases hplatform
      | marked status pendingConfirmation =>
          cases status with
          | offline => cases hplatform
          | deleted =>
              refine ⟨pendingConfirmation, hlast, ?_⟩
              by_contra hnot
              simp only [not_or, Bool.not_eq_false, not_le, Nat.lt_one_iff] at hnot
              rw [Touch.standing, if_pos ⟨hnot.1, hnot.2⟩] at hsync
              exact absurd hsync (by decide)

def emptyCatalog : CatalogDatabase where
  accounts := Table.empty
  runs := Table.empty
  items := []
  products := Table.empty
  tasks := Table.empty

def lackingTwice : List (ℕ × CatalogCall) :=
  [(1, .sync [{ itemId := "1" }] true true), (2, .sync [] true true), (3, .sync [] true true)]

theorem missing_items_bookkept_lackingTwice :
    ∃ run, Run (ofFunction (CatalogRun.step "seller")) ⟨emptyCatalog, []⟩ lackingTwice run ∧
      ∃ row ∈ run.database.products.rows, row.platformStatus = .notSelling ∧
        2 ≤ lacking row.itemId run.history := by
  have hrun : Run (ofFunction (CatalogRun.step "seller")) ⟨emptyCatalog, []⟩ lackingTwice
      (lackingTwice.foldl (CatalogRun.step "seller") ⟨emptyCatalog, []⟩) :=
    .cons rfl (.cons rfl (.cons rfl (.nil _)))
  have hrow : ∃ row ∈ (lackingTwice.foldl (CatalogRun.step "seller")
      ⟨emptyCatalog, []⟩).database.products.rows,
      row.accountId = "seller" ∧ row.platformStatus = .notSelling := by decide
  obtain ⟨row, hmem, haccount, hstatus⟩ := hrow
  have hstart : ∀ row ∈ emptyCatalog.products.rows, row.accountId ≠ "seller" :=
    fun row hrow => by cases hrow
  exact ⟨_, hrun, row, hmem, hstatus,
    ((missing_items_bookkept hstart hrun).1 row hmem haccount hstatus).2⟩

end Runs

end XianyuAdmin.Products
