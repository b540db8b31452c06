import XianyuAdmin.Orders.OrderListSync

/-!
# Every listed order is accounted for

A list sync counts each order once, logs an event for each order that is new or has changed,
inserts one row for each id that has none, and leaves each row as the last order of its id
says.  What a turn of the loop does is said in the terms in which the whole loop is described,
so that the description of a list is put together from those of its parts.
-/

namespace XianyuAdmin.Orders

open Function (update)
open XianyuAdmin.Python

def SyncCounts.total (counts : SyncCounts) : ℕ :=
  counts.inserted + counts.updated + counts.skipped

def SyncCounts.changed (counts : SyncCounts) : ℕ := counts.inserted + counts.updated

theorem byPlatformId_eq_none_iff {store : OrderStore} {accountId orderId : String} :
    store.byPlatformId accountId orderId = none ↔
      ∀ keys ∈ store.orders.rows.map orderKeys, .platformId accountId orderId ∉ keys := by
  rw [OrderStore.byPlatformId, Table.lookup_eq_none_iff]
  simp only [List.mem_map, forall_exists_index, and_imp, forall_apply_eq_imp_iff₂]

structure FreshIds (store : OrderStore) (ids : ℕ → SyncIds) : Prop where
  free : ∀ draw, store.get (ids draw).orderPk = none
  distinct : ∀ left right, (ids left).orderPk = (ids right).orderPk → left = right

namespace ListSync

variable {Incoming Criterion : Type}

/-- What the proofs use of the assignments: afterwards the row has the status of the order, and
it is captured and compared as `wanted` says. -/
structure Lawful (sync : ListSync Incoming Criterion) (wanted : Incoming → Criterion) :
    Prop where
  status_assign : ∀ now incoming row,
    (sync.assign now incoming row).status = sync.status incoming
  captured_assign : ∀ now incoming row,
    sync.captured (sync.assign now incoming row) = wanted incoming
  compared_assign : ∀ now incoming row,
    sync.compared incoming (sync.assign now incoming row) = wanted incoming

variable (sync : ListSync Incoming Criterion) (wanted : Incoming → Criterion)
  (accountId : String)

def listedIds (orders : List Incoming) : List String :=
  orders.map fun incoming => (sync.orderId incoming).text

def lastEntry (orders : List Incoming) (orderId : String) : Option Incoming :=
  orders.reverse.find? fun incoming => (sync.orderId incoming).text = orderId

def Lists (orders : List Incoming) (row : OrderRow) : Prop :=
  row.accountId = accountId ∧ ∃ orderId ∈ sync.listedIds orders,
    row.platformOrderId = some orderId

def Settles (incoming : Incoming) (store : OrderStore) : Prop :=
  ∃ row, store.byPlatformId accountId (sync.orderId incoming).text = some row ∧
    row.status = sync.status incoming ∧ sync.captured row = wanted incoming

structure Creates (orders : List Incoming) (before after : OrderStore)
    (created : List (String × String)) : Prop where
  nodup : (created.map Prod.snd).Nodup
  mem_iff : ∀ orderId, orderId ∈ created.map Prod.snd ↔
    orderId ∈ sync.listedIds orders ∧ before.byPlatformId accountId orderId = none
  keys_eq : after.orders.rows.map orderKeys = before.orders.rows.map orderKeys ++
    created.map fun entry => [.orderPk entry.1, .platformId accountId entry.2]

structure Covers (orders : List Incoming) (before after : ListState) : Prop where
  counted : after.counts.total = before.counts.total + orders.length
  logged : ∃ added, after.store.events = before.store.events ++ added ∧
    after.counts.changed = before.counts.changed + added.length
  created : ∃ created, sync.Creates accountId orders before.store after.store created ∧
    after.counts.inserted = before.counts.inserted + created.length
  settled : ∀ orderId incoming, sync.lastEntry orders orderId = some incoming →
    sync.Settles wanted accountId incoming after.store
  apart : ∀ row ∈ before.store.orders.rows, ¬ sync.Lists accountId orders row →
    row ∈ after.store.orders.rows

variable {sync wanted accountId}

theorem listedIds_append (front back : List Incoming) :
    sync.listedIds (front ++ back) = sync.listedIds front ++ sync.listedIds back :=
  List.map_append

theorem lastEntry_append (front back : List Incoming) (orderId : String) :
    sync.lastEntry (front ++ back) orderId =
      (sync.lastEntry back orderId).or (sync.lastEntry front orderId) := by
  rw [lastEntry, List.reverse_append, List.find?_append]
  rfl

variable {orders : List Incoming} {orderId : String} {incoming : Incoming}

theorem orderId_of_lastEntry (hlast : sync.lastEntry orders orderId = some incoming) :
    (sync.orderId incoming).text = orderId := by
  simpa using List.find?_some hlast

theorem not_mem_listedIds_of_lastEntry (hlast : sync.lastEntry orders orderId = none) :
    orderId ∉ sync.listedIds orders := by
  intro hmem
  obtain ⟨incoming, hincoming, hid⟩ := List.mem_map.mp hmem
  have habsent := List.find?_eq_none.mp hlast incoming (List.mem_reverse.mpr hincoming)
  simp [hid] at habsent

theorem Creates.byPlatformId_eq_none_iff {before after : OrderStore}
    {created : List (String × String)}
    (hcreates : sync.Creates accountId orders before after created) (orderId : String) :
    after.byPlatformId accountId orderId = none ↔
      before.byPlatformId accountId orderId = none ∧ orderId ∉ sync.listedIds orders := by
  have hkeys : after.byPlatformId accountId orderId = none ↔
      before.byPlatformId accountId orderId = none ∧ orderId ∉ created.map Prod.snd := by
    rw [Orders.byPlatformId_eq_none_iff, Orders.byPlatformId_eq_none_iff, hcreates.keys_eq]
    simp only [List.mem_append, or_imp, forall_and]
    refine and_congr_right fun _ => ⟨fun hkeys hcreated => ?_, fun hcreated keys hkeys hkey => ?_⟩
    · obtain ⟨entry, hentry, rfl⟩ := List.mem_map.mp hcreated
      exact hkeys _ (List.mem_map_of_mem hentry) (by simp)
    · obtain ⟨entry, hentry, rfl⟩ := List.mem_map.mp hkeys
      have hid : orderId = entry.2 := by simpa using hkey
      exact hcreated (hid ▸ List.mem_map_of_mem hentry)
  rw [hkeys, hcreates.mem_iff]
  tauto

theorem Creates.append {front back : List Incoming} {before middle after : OrderStore}
    {first second : List (String × String)}
    (hfirst : sync.Creates accountId front before middle first)
    (hsecond : sync.Creates accountId back middle after second) :
    sync.Creates accountId (front ++ back) before after (first ++ second) where
  nodup := by
    rw [List.map_append, List.nodup_append]
    refine ⟨hfirst.nodup, hsecond.nodup, ?_⟩
    rintro orderId hleft _ hright rfl
    have hnone := ((hsecond.mem_iff orderId).mp hright).2
    exact ((hfirst.byPlatformId_eq_none_iff orderId).mp hnone).2
      ((hfirst.mem_iff orderId).mp hleft).1
  mem_iff := by
    intro orderId
    rw [List.map_append, List.mem_append, hfirst.mem_iff, hsecond.mem_iff,
      hfirst.byPlatformId_eq_none_iff, listedIds_append, List.mem_append]
    tauto
  keys_eq := by
    rw [hsecond.keys_eq, hfirst.keys_eq, List.map_append, List.append_assoc]

theorem Settles.kept {before after : OrderStore}
    (hsettled : sync.Settles wanted accountId incoming before)
    (hother : (sync.orderId incoming).text ∉ sync.listedIds orders)
    (hapart : ∀ row ∈ before.orders.rows, ¬ sync.Lists accountId orders row →
      row ∈ after.orders.rows) : sync.Settles wanted accountId incoming after := by
  obtain ⟨row, hrow, hstatus, hcaptured⟩ := hsettled
  obtain ⟨hmem, haccount, hid⟩ := OrderStore.byPlatformId_eq_some_iff.mp hrow
  have hnot : ¬ sync.Lists accountId orders row := by
    rintro ⟨-, orderId, hlisted, heq⟩
    rw [hid, Option.some.injEq] at heq
    exact hother (heq ▸ hlisted)
  have hkept := OrderStore.byPlatformId_eq_some_iff.mpr ⟨hapart row hmem hnot, haccount, hid⟩
  exact ⟨row, hkept, hstatus, hcaptured⟩

/-- The description of a list is put together from those of its parts. -/
theorem Covers.append {front back : List Incoming} {before middle after : ListState}
    (hfront : sync.Covers wanted accountId front before middle)
    (hback : sync.Covers wanted accountId back middle after) :
    sync.Covers wanted accountId (front ++ back) before after where
  counted := by
    rw [hback.counted, hfront.counted, List.length_append, Nat.add_assoc]
  logged := by
    obtain ⟨first, hfirst, hfirstCount⟩ := hfront.logged
    obtain ⟨second, hsecond, hsecondCount⟩ := hback.logged
    refine ⟨first ++ second, ?_, ?_⟩
    · rw [hsecond, hfirst, List.append_assoc]
    · rw [hsecondCount, hfirstCount, List.length_append, Nat.add_assoc]
  created := by
    obtain ⟨first, hfirst, hfirstCount⟩ := hfront.created
    obtain ⟨second, hsecond, hsecondCount⟩ := hback.created
    refine ⟨first ++ second, hfirst.append hsecond, ?_⟩
    rw [hsecondCount, hfirstCount, List.length_append, Nat.add_assoc]
  settled := by
    intro orderId incoming hlast
    rw [lastEntry_append] at hlast
    cases hlater : sync.lastEntry back orderId with
    | some later =>
        rw [hlater, Option.some_or] at hlast
        exact hback.settled orderId incoming (hlater.trans hlast)
    | none =>
        rw [hlater, Option.none_or] at hlast
        have hother := not_mem_listedIds_of_lastEntry hlater
        rw [← orderId_of_lastEntry hlast] at hother
        exact (hfront.settled orderId incoming hlast).kept hother hback.apart
  apart := by
    intro row hrow hnot
    have hparts : ¬ sync.Lists accountId front row ∧ ¬ sync.Lists accountId back row := by
      simp only [Lists, listedIds_append, List.mem_append] at hnot ⊢
      grind
    exact hback.apart row (hfront.apart row hrow hparts.1) hparts.2

def Refers (accountId : String) (batch : List String) (state : ListState) : Prop :=
  ∀ orderId ∈ batch, state.existingMap orderId =
    (state.store.byPlatformId accountId orderId).map OrderRow.orderPk

theorem Refers.existing_eq {batch : List String} {state : ListState} {orderId : Identifier}
    (hrefers : Refers accountId batch state) (hlisted : orderId.text ∈ batch) :
    state.existing orderId = state.store.byPlatformId accountId orderId.text := by
  rw [ListState.existing, hrefers _ hlisted]
  cases hrow : state.store.byPlatformId accountId orderId.text with
  | none => rfl
  | some row =>
      exact OrderStore.get_eq_some_iff.mpr
        ⟨(OrderStore.byPlatformId_eq_some_iff.mp hrow).1, rfl⟩

theorem orderPk_assign (sync : ListSync Incoming Criterion) (now : ℕ) (incoming : Incoming)
    (row : OrderRow) : (sync.assign now incoming row).orderPk = row.orderPk := by
  rw [← orderPk_mem_orderKeys, sync.keys_assign, orderPk_mem_orderKeys]

theorem ids_assign (sync : ListSync Incoming Criterion) (now : ℕ) (incoming : Incoming)
    (row : OrderRow) {accountId : String} :
    (sync.assign now incoming row).accountId = accountId ∧
        (sync.assign now incoming row).platformOrderId = some orderId ↔
      row.accountId = accountId ∧ row.platformOrderId = some orderId := by
  rw [← platformId_mem_orderKeys, sync.keys_assign, platformId_mem_orderKeys]

theorem lists_singleton {row : OrderRow} :
    sync.Lists accountId [incoming] row ↔
      row.accountId = accountId ∧ row.platformOrderId = some (sync.orderId incoming).text := by
  simp [Lists, listedIds]

theorem lastEntry_singleton {found : Incoming}
    (hlast : sync.lastEntry [incoming] orderId = some found) : found = incoming := by
  simpa using List.mem_of_find?_eq_some hlast

structure Turns (sync : ListSync Incoming Criterion) (wanted : Incoming → Criterion)
    (accountId : String) (batch : List String) (orderPk : String) (incoming : Incoming)
    (before after : ListState) : Prop where
  covers : sync.Covers wanted accountId [incoming] before after
  refers : Refers accountId batch after
  free : ∀ other, other ≠ orderPk → before.store.get other = none → after.store.get other = none

section Turn

variable {batch : List String} {now : ℕ} {incoming : Incoming} {before after : ListState}

variable {previous : OrderRow}

theorem turns_of_stored (hlawful : sync.Lawful wanted) (hrefers : Refers accountId batch before)
    (orderPk : String)
    (hstored : before.store.byPlatformId accountId (sync.orderId incoming).text = some previous)
    (horders : after.store.orders =
      (before.store.updateOrder previous.orderPk (sync.assign now incoming)
        (sync.keys_assign now incoming)).orders) (hmap : after.existingMap = before.existingMap)
    (hcounted : after.counts.total = before.counts.total + 1)
    (hinserted : after.counts.inserted = before.counts.inserted)
    (hlogged : ∃ added, after.store.events = before.store.events ++ added ∧
      after.counts.changed = before.counts.changed + added.length) :
    sync.Turns wanted accountId batch orderPk incoming before after := by
  obtain ⟨hmem, haccount, hid⟩ := OrderStore.byPlatformId_eq_some_iff.mp hstored
  have hlookup : ∀ account orderId, after.store.byPlatformId account orderId =
      (before.store.byPlatformId account orderId).map fun row =>
        if row.orderPk = previous.orderPk then sync.assign now incoming row else row := by
    intro account orderId
    rw [← OrderStore.byPlatformId_updateOrder _ _ _ (sync.keys_assign now incoming),
      OrderStore.byPlatformId, horders]
    rfl
  refine ⟨⟨hcounted, hlogged, ⟨[], ⟨by simp, ?_, ?_⟩, hinserted⟩, ?_, ?_⟩, ?_, ?_⟩
  · intro orderId
    simp only [listedIds, List.map_nil, List.not_mem_nil, List.map_cons, List.mem_singleton,
      false_iff, not_and]
    rintro rfl hnone
    rw [hstored] at hnone
    cases hnone
  · rw [horders, List.map_nil, List.append_nil, OrderStore.updateOrder, Table.rows_map,
      List.map_map]
    refine List.map_congr_left fun row _ => ?_
    simp only [Function.comp]
    split
    · exact sync.keys_assign now incoming row
    · rfl
  · intro orderId found hlast
    rw [lastEntry_singleton hlast]
    refine ⟨sync.assign now incoming previous, ?_, hlawful.status_assign .., 
      hlawful.captured_assign ..⟩
    rw [hlookup, hstored, Option.map_some, if_pos rfl]
  · intro row hrow hnot
    rw [lists_singleton] at hnot
    have hother : row.orderPk ≠ previous.orderPk := by
      intro heq
      have hsame : row = previous := Table.eq_of_key hrow hmem
        (orderPk_mem_orderKeys.mpr heq) (orderPk_mem_orderKeys.mpr rfl)
      exact hnot (hsame ▸ ⟨haccount, hid⟩)
    rw [horders, OrderStore.updateOrder, Table.rows_map]
    exact List.mem_map.mpr ⟨row, hrow, if_neg hother⟩
  · intro orderId hlisted
    rw [hmap, hrefers orderId hlisted, hlookup, Option.map_map]
    congr 1
    funext row
    simp only [Function.comp]
    split
    · exact (orderPk_assign sync now incoming row).symm
    · rfl
  · intro other _ hnone
    have hget := OrderStore.get_updateOrder before.store previous.orderPk other
      (sync.assign now incoming) (sync.keys_assign now incoming)
    rw [hnone, Option.map_none, ite_self] at hget
    rw [OrderStore.get, horders]
    exact hget

variable [DecidableEq Criterion]

theorem exists_round_skipped (hlawful : sync.Lawful wanted)
    (hrefers : Refers accountId batch before) (hlisted : (sync.orderId incoming).text ∈ batch)
    (ids : SyncIds)
    (hstored : before.store.byPlatformId accountId (sync.orderId incoming).text = some previous)
    (hcaptured : sync.captured previous = wanted incoming) :
    ∃ after, sync.round accountId now ids incoming before = some after ∧
      sync.Turns wanted accountId batch ids.orderPk incoming before after ∧
      after.store.events = before.store.events ∧
      after.counts = { before.counts with skipped := before.counts.skipped + 1 } := by
  have hexisting := (hrefers.existing_eq hlisted).trans hstored
  have hcompared : sync.captured previous =
      sync.compared incoming (sync.assign now incoming previous) := by
    rw [hcaptured, hlawful.compared_assign]
  have hround : sync.round accountId now ids incoming before =
      some
        { before with
          store := before.store.updateOrder previous.orderPk (sync.assign now incoming)
            (sync.keys_assign now incoming)
          counts := { before.counts with skipped := before.counts.skipped + 1 } } := by
    rw [round, hexisting]
    exact if_pos hcompared
  refine ⟨_, hround, turns_of_stored hlawful hrefers ids.orderPk hstored rfl rfl rfl rfl
    ⟨[], ?_, rfl⟩, rfl, rfl⟩
  exact (List.append_nil _).symm

theorem exists_round_updated (hlawful : sync.Lawful wanted)
    (hrefers : Refers accountId batch before) (hlisted : (sync.orderId incoming).text ∈ batch)
    (ids : SyncIds)
    (hstored : before.store.byPlatformId accountId (sync.orderId incoming).text = some previous)
    (hcaptured : sync.captured previous ≠ wanted incoming) :
    ∃ after, sync.round accountId now ids incoming before = some after ∧
      sync.Turns wanted accountId batch ids.orderPk incoming before after := by
  have hexisting := (hrefers.existing_eq hlisted).trans hstored
  have hcompared : sync.captured previous ≠
      sync.compared incoming (sync.assign now incoming previous) := by
    rwa [hlawful.compared_assign]
  let written := before.store.updateOrder previous.orderPk (sync.assign now incoming)
    (sync.keys_assign now incoming)
  have hround : sync.round accountId now ids incoming before =
      some
        { before with
          store := written.addEvent
            (sync.event now ids.event incoming (sync.assign now incoming previous))
          counts := { before.counts with updated := before.counts.updated + 1 } } := by
    rw [round, hexisting]
    exact if_neg hcompared
  refine ⟨_, hround, turns_of_stored hlawful hrefers ids.orderPk hstored rfl rfl ?_ rfl
    ⟨[_], rfl, rfl⟩⟩
  simp only [SyncCounts.total]
  omega

theorem exists_round_inserted (hlawful : sync.Lawful wanted)
    (hrefers : Refers accountId batch before) (hlisted : (sync.orderId incoming).text ∈ batch)
    {ids : SyncIds} (hfree : before.store.get ids.orderPk = none)
    (hstored : before.store.byPlatformId accountId (sync.orderId incoming).text = none) :
    ∃ after, sync.round accountId now ids incoming before = some after ∧
      sync.Turns wanted accountId batch ids.orderPk incoming before after := by
  have hexisting := (hrefers.existing_eq hlisted).trans hstored
  let row := sync.assign now incoming (sync.newRow accountId ids.orderPk now incoming)
  have hpk : row.orderPk = ids.orderPk := orderPk_assign ..
  have hids : ∀ account orderId, row.accountId = account ∧ row.platformOrderId = some orderId ↔
      accountId = account ∧ (sync.orderId incoming).text = orderId := by
    intro account orderId
    rw [ids_assign, newRow, Option.some.injEq]
  obtain ⟨haccount, hid⟩ := (hids accountId _).mpr ⟨rfl, rfl⟩
  obtain ⟨inserted, hinsert⟩ : ∃ inserted, before.store.insertOrder row = some inserted := by
    refine OrderStore.exists_insertOrder (hpk ▸ hfree) fun orderId horderId => ?_
    rw [haccount, ← ((hids accountId orderId).mp ⟨haccount, horderId⟩).2]
    exact hstored
  have hrows : inserted.orders.rows = before.store.orders.rows ++ [row] := by
    obtain ⟨orders, horders, rfl⟩ := Option.map_eq_some_iff.mp hinsert
    exact Table.rows_of_insert? horders
  have hevents : inserted.events = before.store.events := by
    obtain ⟨orders, -, rfl⟩ := Option.map_eq_some_iff.mp hinsert
    rfl
  have hlookup := OrderStore.byPlatformId_insertOrder hinsert
  have hround : sync.round accountId now ids incoming before =
      some
        { store := inserted.addEvent (sync.event now ids.event incoming row)
          existingMap := update before.existingMap (sync.orderId incoming).text
            (some row.orderPk)
          counts := { before.counts with inserted := before.counts.inserted + 1 } } := by
    rw [round, hexisting]
    show (before.store.insertOrder row).map _ = _
    rw [hinsert]
    rfl
  refine ⟨_, hround, ⟨?_, ⟨[sync.event now ids.event incoming row], ?_, ?_⟩,
    ⟨[(ids.orderPk, (sync.orderId incoming).text)], ⟨?_, ?_, ?_⟩, rfl⟩, ?_, ?_⟩, ?_, ?_⟩
  · simp only [SyncCounts.total, List.length_singleton]
    omega
  · rw [← hevents]
    rfl
  · simp only [SyncCounts.changed, List.length_singleton]
    omega
  · exact List.nodup_singleton _
  · intro orderId
    simp only [List.map_cons, List.map_nil, List.mem_singleton, listedIds]
    refine ⟨fun heq => ⟨heq, heq ▸ hstored⟩, And.left⟩
  · show inserted.orders.rows.map orderKeys = _
    rw [hrows, List.map_append, List.map_singleton, List.map_singleton, sync.keys_assign]
    rfl
  · intro orderId found hlast
    rw [lastEntry_singleton hlast]
    refine ⟨row, ?_, hlawful.status_assign .., hlawful.captured_assign ..⟩
    exact (hlookup _ _).trans (if_pos ⟨haccount, hid⟩)
  · intro stored hmem _
    show stored ∈ inserted.orders.rows
    rw [hrows]
    exact List.mem_append_left _ hmem
  · intro orderId hmem
    show update before.existingMap (sync.orderId incoming).text (some row.orderPk) orderId =
      (inserted.byPlatformId accountId orderId).map OrderRow.orderPk
    rw [hlookup]
    by_cases heq : orderId = (sync.orderId incoming).text
    · rw [heq, Function.update_self, if_pos ⟨haccount, hid⟩]
      rfl
    · rw [Function.update_of_ne heq, hrefers orderId hmem,
        if_neg fun hsame => heq ((hids accountId orderId).mp hsame).2.symm]
  · intro other hother hnone
    show inserted.get other = none
    rw [OrderStore.get_insertOrder hinsert, if_neg fun heq => hother (heq.symm.trans hpk)]
    exact hnone

theorem exists_round (hlawful : sync.Lawful wanted) (hrefers : Refers accountId batch before)
    (hlisted : (sync.orderId incoming).text ∈ batch) {ids : SyncIds}
    (hfree : before.store.get ids.orderPk = none) :
    ∃ after, sync.round accountId now ids incoming before = some after ∧
      sync.Turns wanted accountId batch ids.orderPk incoming before after := by
  cases hstored : before.store.byPlatformId accountId (sync.orderId incoming).text with
  | none => exact exists_round_inserted hlawful hrefers hlisted hfree hstored
  | some previous =>
      by_cases hcaptured : sync.captured previous = wanted incoming
      · obtain ⟨after, hround, hturns, -⟩ :=
          exists_round_skipped hlawful hrefers hlisted ids hstored hcaptured
        exact ⟨after, hround, hturns⟩
      · exact exists_round_updated hlawful hrefers hlisted ids hstored hcaptured

end Turn

section Loop

variable {batch : List String} {now : ℕ}

theorem freshIds_rest {ids : ℕ → SyncIds} {before after : ListState}
    (hfresh : FreshIds before.store ids)
    (hturns : sync.Turns wanted accountId batch (ids 0).orderPk incoming before after) :
    FreshIds after.store fun draw => ids (draw + 1) where
  free := by
    intro draw
    refine hturns.free _ (fun heq => ?_) (hfresh.free _)
    exact absurd (hfresh.distinct _ _ heq) (Nat.succ_ne_zero draw)
  distinct := fun left right heq => Nat.succ_injective (hfresh.distinct _ _ heq)

theorem covers_nil (state : ListState) : sync.Covers wanted accountId [] state state where
  counted := rfl
  logged := ⟨[], (List.append_nil _).symm, rfl⟩
  created := ⟨[], ⟨List.nodup_nil, by simp [listedIds], by simp⟩, rfl⟩
  settled := fun orderId incoming hlast => by cases hlast
  apart := fun row hrow _ => hrow

variable [DecidableEq Criterion]

/-- The loop goes through every list without a violated index. -/
theorem exists_loop (hlawful : sync.Lawful wanted) :
    ∀ {ids : ℕ → SyncIds} {before : ListState}, (∀ orderId ∈ sync.listedIds orders, orderId ∈ batch) →
      Refers accountId batch before → FreshIds before.store ids →
      ∃ after, sync.loop accountId now ids orders before = some after ∧
        sync.Covers wanted accountId orders before after := by
  induction orders with
  | nil => exact fun {_ before} _ _ _ => ⟨before, rfl, covers_nil before⟩
  | cons incoming orders ih =>
      intro ids before hbatch hrefers hfresh
      obtain ⟨hlisted, hrest⟩ := List.forall_mem_cons.mp hbatch
      obtain ⟨middle, hround, hturns⟩ : ∃ middle,
          sync.round accountId now (ids 0) incoming before = some middle ∧
            sync.Turns wanted accountId batch (ids 0).orderPk incoming before middle :=
        exists_round hlawful hrefers hlisted (hfresh.free 0)
      obtain ⟨after, hloop, hcovers⟩ := ih hrest hturns.refers (freshIds_rest hfresh hturns)
      refine ⟨after, ?_, hturns.covers.append hcovers⟩
      rw [loop, hround, Option.bind_some, hloop]

theorem exists_loop_skipped (hlawful : sync.Lawful wanted) :
    ∀ {ids : ℕ → SyncIds} {before : ListState}, (sync.listedIds orders).Nodup →
      (∀ orderId ∈ sync.listedIds orders, orderId ∈ batch) → Refers accountId batch before →
      (∀ incoming ∈ orders, sync.Settles wanted accountId incoming before.store) →
      ∃ after, sync.loop accountId now ids orders before = some after ∧
        after.store.events = before.store.events ∧
        after.counts =
          { before.counts with skipped := before.counts.skipped + orders.length } := by
  induction orders with
  | nil => exact fun {_ before} _ _ _ _ => ⟨before, rfl, rfl, rfl⟩
  | cons incoming orders ih =>
      intro ids before hnodup hbatch hrefers hsettled
      obtain ⟨hnew, hnodupRest⟩ := List.nodup_cons.mp hnodup
      obtain ⟨hlisted, hrest⟩ := List.forall_mem_cons.mp hbatch
      obtain ⟨⟨previous, hstored, -, hcaptured⟩, hsettledRest⟩ :=
        List.forall_mem_cons.mp hsettled
      obtain ⟨middle, hround, hturns, hevents, hcounts⟩ : ∃ middle,
          sync.round accountId now (ids 0) incoming before = some middle ∧
            sync.Turns wanted accountId batch (ids 0).orderPk incoming before middle ∧
            middle.store.events = before.store.events ∧
            middle.counts = { before.counts with skipped := before.counts.skipped + 1 } :=
        exists_round_skipped hlawful hrefers hlisted (ids 0) hstored hcaptured
      have hstill : ∀ other ∈ orders, sync.Settles wanted accountId other middle.store := by
        intro other hother
        refine (hsettledRest other hother).kept (fun hsame => ?_) hturns.covers.apart
        have heq : (sync.orderId other).text = (sync.orderId incoming).text := by
          simpa [listedIds] using hsame
        exact hnew (List.mem_map.mpr ⟨other, hother, heq⟩)
      obtain ⟨after, hloop, heventsRest, hcountsRest⟩ :=
        ih hnodupRest hrest hturns.refers hstill
      refine ⟨after, ?_, heventsRest.trans hevents, ?_⟩
      · rw [loop, hround, Option.bind_some, hloop]
      · rw [hcountsRest, hcounts, List.length_cons, Nat.add_assoc, Nat.add_comm 1]

end Loop

structure AccountsFor (sync : ListSync Incoming Criterion) (wanted : Incoming → Criterion)
    (accountId : String) (orders : List Incoming) (before : OrderStore) (counts : SyncCounts)
    (after : OrderStore) : Prop where
  counted : counts.inserted + counts.updated + counts.skipped = orders.length
  logged : ∃ added, after.events = before.events ++ added ∧
    added.length = counts.inserted + counts.updated
  created : ∃ created, sync.Creates accountId orders before after created ∧
    created.length = counts.inserted
  settled : ∀ orderId incoming, sync.lastEntry orders orderId = some incoming →
    sync.Settles wanted accountId incoming after
  apart : ∀ row ∈ before.orders.rows, ¬ sync.Lists accountId orders row → row ∈ after.orders.rows

section Transaction

theorem refers_existingRows (orders : List Incoming) (store : OrderStore) :
    Refers accountId (sync.listedIds orders)
      { store := store, existingMap := sync.existingRows accountId orders store } :=
  fun _ hlisted => if_pos hlisted

variable [DecidableEq Criterion]

theorem exists_apply (hlawful : sync.Lawful wanted) (now : ℕ) {ids : ℕ → SyncIds}
    (orders : List Incoming) {store : OrderStore} (hfresh : FreshIds store ids) :
    ∃ counts after, sync.apply accountId now ids orders store = some (counts, after) ∧
      sync.AccountsFor wanted accountId orders store counts after := by
  obtain ⟨final, hloop, hcovers⟩ : ∃ final,
      sync.loop accountId now ids orders
          { store := store, existingMap := sync.existingRows accountId orders store } =
        some final ∧ _ :=
    exists_loop hlawful (fun _ hlisted => hlisted) (refers_existingRows orders store) hfresh
  refine ⟨final.counts, final.store, by rw [apply, hloop, Option.map_some], ?_⟩
  obtain ⟨added, hevents, hchanged⟩ := hcovers.logged
  obtain ⟨created, hcreates, hinserted⟩ := hcovers.created
  have htotal := hcovers.counted
  simp only [SyncCounts.total, SyncCounts.changed, Nat.zero_add] at htotal hchanged hinserted
  exact ⟨htotal, ⟨added, hevents, hchanged.symm⟩, ⟨created, hcreates, hinserted.symm⟩,
    hcovers.settled, hcovers.apart⟩

theorem exists_apply_skipped (hlawful : sync.Lawful wanted) (now : ℕ) (ids : ℕ → SyncIds)
    {store : OrderStore} (hnodup : (sync.listedIds orders).Nodup)
    (hsettled : ∀ incoming ∈ orders, sync.Settles wanted accountId incoming store) :
    ∃ after, sync.apply accountId now ids orders store =
        some ({ skipped := orders.length }, after) ∧ after.events = store.events := by
  obtain ⟨final, hloop, hevents, hcounts⟩ : ∃ final,
      sync.loop accountId now ids orders
          { store := store, existingMap := sync.existingRows accountId orders store } =
        some final ∧ _ ∧ _ :=
    exists_loop_skipped hlawful hnodup (fun _ hlisted => hlisted)
      (refers_existingRows orders store) hsettled
  refine ⟨final.store, ?_, hevents⟩
  rw [apply, hloop, Option.map_some, hcounts]
  simp

omit [DecidableEq Criterion] in
theorem lastEntry_of_nodup (hnodup : (sync.listedIds orders).Nodup) (hmem : incoming ∈ orders) :
    sync.lastEntry orders (sync.orderId incoming).text = some incoming := by
  cases hlast : sync.lastEntry orders (sync.orderId incoming).text with
  | none =>
      exact absurd (List.mem_map_of_mem hmem) (not_mem_listedIds_of_lastEntry hlast)
  | some found =>
      have hfound := List.mem_reverse.mp (List.mem_of_find?_eq_some hlast)
      rw [List.inj_on_of_nodup_map hnodup hfound hmem (orderId_of_lastEntry hlast)]

end Transaction

end ListSync

theorem lawful_soldSync (products : String → Option ListedProduct) :
    (soldSync products).Lawful SellerOrder.status where
  status_assign := fun _ _ _ => rfl
  captured_assign := fun _ _ _ => rfl
  compared_assign := fun _ _ _ => rfl

def BuyerOrder.state (incoming : BuyerOrder) : BoughtState :=
  (incoming.status, some .buyer, some "buyer_bought")

theorem lawful_boughtSync : boughtSync.Lawful BuyerOrder.state where
  status_assign := fun _ _ _ => rfl
  captured_assign := fun _ _ _ => rfl
  compared_assign := fun _ _ _ => rfl

/-- Both list syncs account for every order, and a list without a repeated id that is applied
again is skipped as a whole; a bought list is applied in full mode only. -/
theorem order_lists_accounted_for (accountId : String) (now : ℕ) (ids : ℕ → SyncIds)
    (store : OrderStore) (hfresh : FreshIds store ids) :
    (∀ (products : String → Option ListedProduct) (orders : List SellerOrder),
      ∃ counts after,
        applyOrdersSync products accountId now ids orders store = .ok (counts, after) ∧
        (soldSync products).AccountsFor SellerOrder.status accountId orders store counts after ∧
        (((soldSync products).listedIds orders).Nodup →
          ∀ productsAgain nowAgain idsAgain, ∃ again,
            applyOrdersSync productsAgain accountId nowAgain idsAgain orders after =
              .ok ({ inserted := 0, updated := 0, skipped := orders.length }, again) ∧
            again.events = after.events)) ∧
    (∀ orders : List BuyerOrder,
      (∃ counts after,
        applyBuyerOrdersSync accountId now ids orders "full" store = .ok (counts, after) ∧
        boughtSync.AccountsFor BuyerOrder.state accountId orders store counts after ∧
        ((boughtSync.listedIds orders).Nodup →
          ∀ nowAgain idsAgain, ∃ again,
            applyBuyerOrdersSync accountId nowAgain idsAgain orders "full" after =
              .ok ({ inserted := 0, updated := 0, skipped := orders.length }, again) ∧
            again.events = after.events)) ∧
      ∀ mode, mode ≠ "full" →
        applyBuyerOrdersSync accountId now ids orders mode store =
          .error (.valueError "bought order sync only supports full mode")) := by
  refine ⟨fun products orders => ?_, fun orders => ⟨?_, fun mode hmode => if_pos hmode⟩⟩
  · obtain ⟨counts, after, happly, haccounts⟩ :=
      ListSync.exists_apply (lawful_soldSync products) now orders hfresh
    refine ⟨counts, after, by rw [applyOrdersSync, happly]; rfl, haccounts, ?_⟩
    intro hnodup productsAgain nowAgain idsAgain
    obtain ⟨again, hagain, hevents⟩ :=
      ListSync.exists_apply_skipped (lawful_soldSync productsAgain) nowAgain idsAgain hnodup
        fun incoming hmem =>
          haccounts.settled _ incoming (ListSync.lastEntry_of_nodup hnodup hmem)
    exact ⟨again, by rw [applyOrdersSync, hagain]; rfl, hevents⟩
  · obtain ⟨counts, after, happly, haccounts⟩ :=
      ListSync.exists_apply lawful_boughtSync now orders hfresh
    refine ⟨counts, after, by rw [applyBuyerOrdersSync, happly]; rfl, haccounts, ?_⟩
    intro hnodup nowAgain idsAgain
    obtain ⟨again, hagain, hevents⟩ :=
      ListSync.exists_apply_skipped lawful_boughtSync nowAgain idsAgain hnodup
        fun incoming hmem =>
          haccounts.settled _ incoming (ListSync.lastEntry_of_nodup hnodup hmem)
    exact ⟨again, by rw [applyBuyerOrdersSync, hagain]; rfl, hevents⟩

/-- Identifiers told apart by their length. -/
def countedIds (draw : ℕ) : SyncIds where
  orderPk := String.ofList (List.replicate draw 'o')
  event := ⟨String.ofList (List.replicate draw 'e'), String.ofList (List.replicate draw 'm')⟩

def emptyOrderStore : OrderStore where
  orders := Table.empty
  events := []

theorem freshIds_countedIds : FreshIds emptyOrderStore countedIds where
  free := fun _ => rfl
  distinct := by
    intro left right heq
    have hchars : List.replicate left 'o' = List.replicate right 'o' :=
      String.ofList_injective heq
    simpa using congrArg List.length hchars

/-- A list of two sold orders and one of a bought order that is listed twice. -/
theorem order_lists_accounted_for_fresh :
    (∃ counts after,
      applyOrdersSync (fun _ => none) "seller" 1 countedIds
          [{ orderId := ⟨"1001", by decide⟩ },
            { orderId := ⟨"1002", by decide⟩, status := .shipped }] emptyOrderStore =
        .ok (counts, after) ∧
      ∃ again,
        applyOrdersSync (fun _ => none) "seller" 2 countedIds
            [{ orderId := ⟨"1001", by decide⟩ },
              { orderId := ⟨"1002", by decide⟩, status := .shipped }] after =
          .ok ({ inserted := 0, updated := 0, skipped := 2 }, again) ∧
        again.events = after.events) ∧
    ∃ counts after,
      applyBuyerOrdersSync "buyer" 1 countedIds
          [{ orderId := ⟨"1001", by decide⟩ },
            { orderId := ⟨"1001", by decide⟩, status := .shipped }] "full" emptyOrderStore =
        .ok (counts, after) ∧
      counts.inserted + counts.updated + counts.skipped = 2 := by
  obtain ⟨counts, after, hsold, -, hagain⟩ :=
    (order_lists_accounted_for "seller" 1 countedIds emptyOrderStore freshIds_countedIds).1
      (fun _ => none)
      [{ orderId := ⟨"1001", by decide⟩ },
        { orderId := ⟨"1002", by decide⟩, status := .shipped }]
  obtain ⟨⟨boughtCounts, boughtAfter, hbought, haccounts, -⟩, -⟩ :=
    (order_lists_accounted_for "buyer" 1 countedIds emptyOrderStore freshIds_countedIds).2
      [{ orderId := ⟨"1001", by decide⟩ },
        { orderId := ⟨"1001", by decide⟩, status := .shipped }]
  exact ⟨⟨counts, after, hsold, hagain (by decide) (fun _ => none) 2 countedIds⟩,
    boughtCounts, boughtAfter, hbought, haccounts.counted⟩

end XianyuAdmin.Orders
