import XianyuAdmin.Core.Transition
import XianyuAdmin.Orders.OrderOperations

/-!
# The status of a finished order

Four transactions write the status of an order.  The header and the detail page
do not replace a finished status by an early one, a message event has no such
test, and the refund states in between make every test forget that the order
was finished.  A step that writes an early status to the order is described by
the guards it passed; without such a step a finished order stays clear of the
early states.
-/

namespace XianyuAdmin.Orders

open XianyuAdmin.Python
open XianyuAdmin.Transition

inductive StatusWrite
  | event (message : EventMessage) (parsed : ParsedOrderEvent)
      (newPk eventPk : String)
  | headinfo (orderPk : String) (rawData : List (String × Json)) (newPk : String)
      (now : ℕ)
  | detail (orderPk : String) (snapshot : OrderDetailSnapshot) (ids : EventIds)
      (now : ℕ)
  | finish (operationId : String) (result : OperationResult) (eventPk : String)
      (now : ℕ)

variable (library : PythonLibrary)

def applyStatusWrite (database : OrderDatabase) : StatusWrite → OrderDatabase
  | .event message parsed newPk eventPk =>
      match upsertOrderEvent library database.store message parsed newPk eventPk with
      | some store => { database with store := store }
      | none => database
  | .headinfo orderPk rawData newPk now =>
      match applyOrderHeadinfo library database.store orderPk rawData newPk now with
      | some written => { database with store := written.1 }
      | none => database
  | .detail orderPk snapshot ids now =>
      { database with
        store :=
          (applyOrderDetailSnapshot database.store orderPk snapshot ids now).1 }
  | .finish operationId result eventPk now =>
      (finishOperation database operationId result eventPk now).getD database

/-- The guards of the transaction let an early status through to the order
`orderPk`: a message event reaches an order outside a refund, or a header or a
detail page reaches an order whose status is not finished at the moment. -/
def Reopens (orderPk : String) (database : OrderDatabase) : StatusWrite → Prop
  | .event message parsed _ _ => parsed.status.isEarly = true ∧
      ∃ order, eventOrder database.store message parsed = some order ∧
        order.orderPk = orderPk ∧ order.status.isRefund = false ∧
        (order.dataSource ≠ some "seller_sold" ∨ parsed.tradeRole = .seller)
  | .headinfo sourcePk rawData _ _ => (headinfoStatus rawData).isEarly = true ∧
      ∃ source target, database.store.get sourcePk = some source ∧
        headinfoTarget database.store source rawData = some target ∧
        target.orderPk = orderPk ∧ target.dataSource ≠ some "seller_sold" ∧
        target.status.isFinished = false
  | .detail detailPk snapshot _ _ => snapshot.status.isEarly = true ∧
      detailPk = orderPk ∧ ∃ order, database.store.get orderPk = some order ∧
        order.status.isFinished = false
  | .finish _ _ _ _ => False

theorem OrderStatus.not_refund_of_early {status : OrderStatus}
    (hearly : status.isEarly = true) : status.isRefund = false := by
  cases status <;> simp_all [OrderStatus.isEarly, OrderStatus.isRefund]

theorem OrderStatus.ne_unknown_of_early {status : OrderStatus}
    (hearly : status.isEarly = true) : status ≠ .unknown := by
  rintro rfl
  cases hearly

theorem eventSetsStatus_of_early {parsed : ParsedOrderEvent} {order : OrderRow}
    (hearly : parsed.status.isEarly = true) :
    eventSetsStatus parsed order = true ↔ order.status.isRefund = false ∧
      (order.dataSource ≠ some "seller_sold" ∨ parsed.tradeRole = .seller) := by
  simp [eventSetsStatus, OrderStatus.ne_unknown_of_early hearly,
    OrderStatus.not_refund_of_early hearly]

theorem headinfoSetsStatus_of_early {rawData : List (String × Json)}
    {target : OrderRow} (hearly : (headinfoStatus rawData).isEarly = true) :
    headinfoSetsStatus rawData target = true ↔
      target.dataSource ≠ some "seller_sold" ∧ target.status.isFinished = false := by
  simp [headinfoSetsStatus, OrderStatus.ne_unknown_of_early hearly,
    OrderStatus.not_refund_of_early hearly, hearly]

theorem detailSetsStatus_of_early {snapshot : OrderDetailSnapshot} {row : OrderRow}
    (hearly : snapshot.status.isEarly = true) :
    detailSetsStatus snapshot row = true ↔ row.status.isFinished = false := by
  simp [detailSetsStatus, OrderStatus.ne_unknown_of_early hearly, hearly]

theorem isEarly_ite_iff {guard : Bool} {written current : OrderStatus}
    (hcurrent : current.isEarly = false) :
    (if guard then written else current).isEarly = true ↔
      written.isEarly = true ∧ guard = true := by
  cases guard <;> simp [hcurrent]

section Step

variable {database : OrderDatabase} {orderPk : String} {row : OrderRow}

theorem event_reopens_iff {message : EventMessage} {parsed : ParsedOrderEvent}
    {newPk eventPk : String} (hrow : database.store.get orderPk = some row)
    (hclear : row.status.isEarly = false) :
    ∃ next, (applyStatusWrite library database
        (.event message parsed newPk eventPk)).store.get orderPk = some next ∧
      (next.status.isEarly = true ↔
        Reopens orderPk database (.event message parsed newPk eventPk)) := by
  cases horder : eventOrder database.store message parsed with
  | none =>
      have hnot : ¬ Reopens orderPk database
          (.event message parsed newPk eventPk) := by
        rintro ⟨-, order, hsome, -⟩
        rw [horder] at hsome
        cases hsome
      refine ⟨row, ?_, by simp [hclear, hnot]⟩
      simp only [applyStatusWrite]
      split
      · rename_i hwritten
        exact get_upsertOrderEvent_of_new library horder hwritten hrow
      · exact hrow
  | some order =>
      obtain ⟨written, hwritten, hget⟩ :=
        get_upsertOrderEvent library horder newPk eventPk
      have hget := hget orderPk
      by_cases hpk : order.orderPk = orderPk
      · have hsame : order = row := Option.some.inj ((OrderStore.get_eq_some_iff.mpr
          ⟨eventOrder_mem horder, hpk⟩).symm.trans hrow)
        rw [if_pos hpk.symm, hrow, Option.map_some] at hget
        refine ⟨applyOrderEvent library message parsed row, ?_, ?_⟩
        · simp only [applyStatusWrite, hwritten]
          exact hget
        · rw [applyOrderEvent_status, isEarly_ite_iff hclear]
          constructor
          · rintro ⟨hearly, hsets⟩
            exact ⟨hearly, order, horder, hpk, hsame ▸
              (eventSetsStatus_of_early hearly).mp hsets⟩
          · rintro ⟨hearly, found, hfound, -, hguards⟩
            obtain rfl : order = found :=
              Option.some.inj (horder.symm.trans hfound)
            exact ⟨hearly, hsame ▸ (eventSetsStatus_of_early hearly).mpr hguards⟩
      · have hnot : ¬ Reopens orderPk database
            (.event message parsed newPk eventPk) := by
          rintro ⟨-, found, hfound, hfoundPk, -⟩
          rw [horder] at hfound
          exact hpk (Option.some.inj hfound ▸ hfoundPk)
        rw [if_neg (fun hsame => hpk hsame.symm), hrow] at hget
        refine ⟨row, ?_, by simp [hclear, hnot]⟩
        simp only [applyStatusWrite, hwritten]
        exact hget

theorem headinfo_reopens_iff {sourcePk : String} {rawData : List (String × Json)}
    {newPk : String} {now : ℕ} (hrow : database.store.get orderPk = some row)
    (hclear : row.status.isEarly = false) :
    ∃ next, (applyStatusWrite library database
        (.headinfo sourcePk rawData newPk now)).store.get orderPk = some next ∧
      (next.status.isEarly = true ↔
        Reopens orderPk database (.headinfo sourcePk rawData newPk now)) := by
  cases hsource : database.store.get sourcePk with
  | none =>
      have hnot : ¬ Reopens orderPk database
          (.headinfo sourcePk rawData newPk now) := by
        rintro ⟨-, source, target, hsome, -⟩
        rw [hsource] at hsome
        cases hsome
      refine ⟨row, ?_, by simp [hclear, hnot]⟩
      simp only [applyStatusWrite, applyOrderHeadinfo, hsource]
      exact hrow
  | some source =>
      cases htarget : headinfoTarget database.store source rawData with
      | none =>
          have hnot : ¬ Reopens orderPk database
              (.headinfo sourcePk rawData newPk now) := by
            rintro ⟨-, found, target, hfound, hsome, -⟩
            rw [hsource] at hfound
            rw [← Option.some.inj hfound, htarget] at hsome
            cases hsome
          refine ⟨row, ?_, by simp [hclear, hnot]⟩
          simp only [applyStatusWrite]
          split
          · rename_i written happly
            obtain ⟨-, hfresh, hothers⟩ :=
              get_applyOrderHeadinfo_of_new library hsource htarget happly
            have hother : orderPk ≠ newPk := by
              rintro rfl
              rw [hfresh] at hrow
              cases hrow
            exact (hothers orderPk hother).trans hrow
          · exact hrow
      | some target =>
          obtain ⟨written, hrewrite, hwritten⟩ :=
            exists_applyOrderHeadinfo_of_target library newPk now hsource htarget
          have hmem := headinfoTarget_mem
            (OrderStore.get_eq_some_iff.mp hsource).1 htarget
          have hget := OrderStore.get_rewriteOrder hrewrite
            (applyHeadinfo_orderPk library rawData now) orderPk
          by_cases hpk : target.orderPk = orderPk
          · have hsame : target = row := Option.some.inj
              ((OrderStore.get_eq_some_iff.mpr ⟨hmem, hpk⟩).symm.trans hrow)
            rw [if_pos hpk.symm, hrow, Option.map_some] at hget
            refine ⟨applyHeadinfo library rawData now row, ?_, ?_⟩
            · simp only [applyStatusWrite, hwritten]
              exact hget
            · rw [applyHeadinfo_status, isEarly_ite_iff hclear]
              constructor
              · rintro ⟨hearly, hsets⟩
                exact ⟨hearly, source, target, hsource, htarget, hpk, hsame ▸
                  (headinfoSetsStatus_of_early hearly).mp hsets⟩
              · rintro ⟨hearly, found, named, hfound, hnamed, -, hguards⟩
                obtain rfl : source = found :=
                  Option.some.inj (hsource.symm.trans hfound)
                obtain rfl : target = named :=
                  Option.some.inj (htarget.symm.trans hnamed)
                exact ⟨hearly,
                  hsame ▸ (headinfoSetsStatus_of_early hearly).mpr hguards⟩
          · have hnot : ¬ Reopens orderPk database
                (.headinfo sourcePk rawData newPk now) := by
              rintro ⟨-, found, named, hfound, hnamed, hnamedPk, -⟩
              rw [hsource] at hfound
              rw [← Option.some.inj hfound, htarget] at hnamed
              exact hpk (Option.some.inj hnamed ▸ hnamedPk)
            rw [if_neg (fun hsame => hpk hsame.symm), hrow] at hget
            refine ⟨row, ?_, by simp [hclear, hnot]⟩
            simp only [applyStatusWrite, hwritten]
            exact hget

theorem detail_reopens_iff {detailPk : String} {snapshot : OrderDetailSnapshot}
    {ids : EventIds} {now : ℕ} (hrow : database.store.get orderPk = some row)
    (hclear : row.status.isEarly = false) :
    ∃ next, (applyStatusWrite library database
        (.detail detailPk snapshot ids now)).store.get orderPk = some next ∧
      (next.status.isEarly = true ↔
        Reopens orderPk database (.detail detailPk snapshot ids now)) := by
  by_cases hpk : detailPk = orderPk
  · subst hpk
    have hget := get_applyOrderDetailSnapshot hrow snapshot ids now detailPk
    rw [if_pos rfl, hrow, Option.map_some] at hget
    refine ⟨applyDetail snapshot now row, hget, ?_⟩
    rw [applyDetail_status, isEarly_ite_iff hclear]
    constructor
    · rintro ⟨hearly, hsets⟩
      exact ⟨hearly, rfl, row, hrow, (detailSetsStatus_of_early hearly).mp hsets⟩
    · rintro ⟨hearly, -, found, hfound, hguard⟩
      obtain rfl : row = found := Option.some.inj (hrow.symm.trans hfound)
      exact ⟨hearly, (detailSetsStatus_of_early hearly).mpr hguard⟩
  · have hnot : ¬ Reopens orderPk database (.detail detailPk snapshot ids now) :=
      fun hreopens => hpk hreopens.2.1
    refine ⟨row, ?_, by simp [hclear, hnot]⟩
    cases hdetail : database.store.get detailPk with
    | none =>
        simp only [applyStatusWrite, applyOrderDetailSnapshot, hdetail]
        exact hrow
    | some other =>
        have hget := get_applyOrderDetailSnapshot hdetail snapshot ids now orderPk
        rw [if_neg (fun hsame => hpk hsame.symm), hrow] at hget
        exact hget

theorem not_early_applyAction (action : OrderAction)
    (summary : List (String × Json)) (now : ℕ) (order : OrderRow)
    (hclear : order.status.isEarly = false) :
    (applyAction action summary now order).status.isEarly = false := by
  cases action with
  | confirmShipping | offlineShipping | freeShipping | closeOrder => rfl
  | rateBuyer | refuseRefund => exact hclear

theorem finish_not_early {operationId : String} {result : OperationResult}
    {eventPk : String} {now : ℕ} (hrow : database.store.get orderPk = some row)
    (hclear : row.status.isEarly = false) :
    ∃ next, (applyStatusWrite library database
        (.finish operationId result eventPk now)).store.get orderPk = some next ∧
      next.status.isEarly = false := by
  simp only [applyStatusWrite, finishOperation]
  cases hoperation : database.operation operationId with
  | none => exact ⟨row, hrow, hclear⟩
  | some operation =>
      simp only
      split
      · exact ⟨row, hrow, hclear⟩
      · rename_i order horder
        show ∃ next, OrderStore.get (applyActionState _ _ _ _ _ _) _ = _ ∧ _
        simp only [applyActionState, OrderStore.get_addEvent,
          OrderStore.get_updateOrder, hrow, Option.map_some]
        split
        · exact ⟨_, rfl, not_early_applyAction _ _ _ _ hclear⟩
        · exact ⟨row, rfl, hclear⟩

theorem early_after_iff (write : StatusWrite)
    (hrow : database.store.get orderPk = some row)
    (hclear : row.status.isEarly = false) :
    ∃ next, (applyStatusWrite library database write).store.get orderPk = some next ∧
      (next.status.isEarly = true ↔ Reopens orderPk database write) := by
  cases write with
  | event => exact event_reopens_iff library hrow hclear
  | headinfo => exact headinfo_reopens_iff library hrow hclear
  | detail => exact detail_reopens_iff library hrow hclear
  | finish =>
      obtain ⟨next, hnext, hstill⟩ := finish_not_early library hrow hclear
      exact ⟨next, hnext, by simp [hstill, Reopens]⟩

end Step

def ClearOfEarly (orderPk : String) (database : OrderDatabase) : Prop :=
  ∃ row, database.store.get orderPk = some row ∧ row.status.isEarly = false

theorem OrderStatus.not_early_of_finished {status : OrderStatus}
    (hfinished : status.isFinished = true) : status.isEarly = false := by
  cases status <;> simp_all [OrderStatus.isEarly, OrderStatus.isFinished]

/-- From a finished order on, a run of transactions none of which reopens the
order never shows an early status, and the next transaction gives it one
exactly when it reopens the order. -/
theorem finished_order_reopened_iff {orderPk : String} {start state : OrderDatabase}
    {writes : List StatusWrite} {row : OrderRow}
    (hrow : start.store.get orderPk = some row)
    (hfinished : row.status.isFinished = true)
    (hrun : Run (restrict (ofFunction (applyStatusWrite library))
      fun database write => ¬ Reopens orderPk database write) start writes state) :
    ClearOfEarly orderPk state ∧
      ∀ write, ClearOfEarly orderPk (applyStatusWrite library state write) ↔
        ¬ Reopens orderPk state write := by
  have hclear : ClearOfEarly orderPk state := by
    apply hrun.invariant (ClearOfEarly orderPk)
    · rintro before write after ⟨stored, hstored, hbefore⟩ ⟨hkeeps, rfl⟩
      obtain ⟨next, hnext, hiff⟩ := early_after_iff library write hstored hbefore
      refine ⟨next, hnext, ?_⟩
      rw [← Bool.not_eq_true, hiff]
      exact hkeeps
    · exact ⟨row, hrow, OrderStatus.not_early_of_finished hfinished⟩
  refine ⟨hclear, fun write => ?_⟩
  obtain ⟨stored, hstored, hbefore⟩ := hclear
  obtain ⟨next, hnext, hiff⟩ := early_after_iff library write hstored hbefore
  rw [← hiff, Bool.not_eq_true]
  constructor
  · rintro ⟨found, hfound, hstill⟩
    rw [hnext] at hfound
    exact Option.some.inj hfound ▸ hstill
  · exact fun hstill => ⟨next, hnext, hstill⟩

def shippedOrder : OrderRow where
  orderPk := "order-1"
  accountId := "seller"
  platformOrderId := some "1001"
  tradeRole := some .seller
  dataSource := some "dx_card"
  conversationId := "chat-1"
  status := .shipped
  createdAt := 0
  updatedAt := 0

def shippedDatabase : OrderDatabase where
  store :=
    { orders := { rows := [shippedOrder], unique := List.pairwise_singleton _ _ }
      events := [] }
  operations := Table.empty

def staleDetail : StatusWrite :=
  .detail "order-1" { status := .paidWaitingDelivery, statusText := "待发货" }
    ⟨"event-1", "uuid-1"⟩ 1

/-- A detail page that is behind the order does not move it back. -/
theorem stale_detail_keeps_shipped :
    ∃ state, ClearOfEarly "order-1" state ∧ ∀ write,
      ClearOfEarly "order-1" (applyStatusWrite plainLibrary state write) ↔
        ¬ Reopens "order-1" state write := by
  have hshipped : shippedDatabase.store.get "order-1" = some shippedOrder := rfl
  have hkeeps : ¬ Reopens "order-1" shippedDatabase staleDetail := by
    rintro ⟨-, -, order, horder, hguard⟩
    rw [← Option.some.inj horder] at hguard
    cases hguard
  exact ⟨_, finished_order_reopened_iff plainLibrary hshipped rfl
    (.cons ⟨hkeeps, rfl⟩ (.nil _))⟩

/-- A replayed card that asks the seller to ship puts a shipped order back to
waiting for delivery. -/
theorem replayed_card_reopens_shipped_order :
    ¬ ∀ library start writes state orderPk row,
      start.store.get orderPk = some row → row.status.isFinished = true →
      Run (ofFunction (applyStatusWrite library)) start writes state →
      ClearOfEarly orderPk state := by
  intro hclear
  obtain ⟨row, hrow, hstatus⟩ := hclear plainLibrary shippedDatabase
    [.event
      { accountId := "seller", messagePk := "message-1", conversationId := "chat-1"
        createdAt := 1 }
      { eventType := "paid", status := .paidWaitingDelivery
        statusText := "等待你发货", orderId := some "1001", tradeRole := .seller }
      "order-2" "event-1"]
    _ "order-1" shippedOrder rfl rfl (.cons rfl (.nil _))
  have hback : row.status = .paidWaitingDelivery := by
    rw [← Option.some.inj hrow]
    rfl
  rw [hback] at hstatus
  cases hstatus

end XianyuAdmin.Orders
