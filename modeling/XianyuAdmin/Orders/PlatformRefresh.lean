import XianyuAdmin.Core.Procedure
import XianyuAdmin.Orders.OrderWriters

/-!
# Refreshing an order from the platform

Before and after an action the service reads the header, the detail page, the
shipping methods and the refund of an order from the platform and stores each
answer.  The local variable `refreshed` holds the order whose ids the next
request uses, so it is part of the state and survives an exception that a
handler swallows.  The state also records every answer that was stored, with
the id it was requested with.
-/

namespace XianyuAdmin.Orders

open XianyuAdmin.Python
open XianyuAdmin.Procedure

inductive RefreshFailure
  | platform (code : String)
  /-- `OrderActionConflict` -/
  | conflict (message : String)
  | valueError (message : String)
  /-- An attribute of `None` was read. -/
  | attributeError
  | integrityError
  /-- `CancelledError`, which is not an `Exception`. -/
  | cancelled
  deriving DecidableEq, Repr

def RefreshFailure.isException : RefreshFailure → Bool
  | .cancelled => false
  | _ => true

structure Platform where
  getOrderHeadinfo : String → String → Except RefreshFailure (List (String × Json))
  getOrderDetail : String → Except RefreshFailure OrderDetailSnapshot
  getShippingOptions : String → Except RefreshFailure (List (String × Json))
  getRefundDetail : String → Except RefreshFailure (List (String × Json))
  getRefuseRefundOptions : String → Except RefreshFailure (List (String × Json))
  mergeCookies : String → String → Except RefreshFailure Unit

/-- What `uuid4` and the clock supply to one refresh. -/
structure RefreshInputs where
  newPk : String
  detailIds : EventIds
  refundIds : EventIds
  headinfoAt : ℕ
  detailAt : ℕ
  shippingAt : ℕ
  refundAt : ℕ
  refuseOptionsAt : ℕ

inductive StoredAnswer
  | headinfo (rawData : List (String × Json)) (now : ℕ) (orderPk : String)
  | detail (requested : String) (snapshot : OrderDetailSnapshot) (now : ℕ)
  /-- `none` is the empty answer the service makes up itself. -/
  | shipping (requested : Option String) (rawData : List (String × Json)) (now : ℕ)
  | refund (requested : String) (rawData : List (String × Json)) (now : ℕ)
  /-- `asked` is the order whose refund id was sent. -/
  | refuseOptions (asked : OrderRow) (rawData : List (String × Json)) (now : ℕ)

structure RefreshState where
  store : OrderStore
  refreshed : Option OrderRow
  stored : List StoredAnswer

abbrev Refresh := Procedure RefreshState RefreshFailure

section Service

variable (library : PythonLibrary) (platform : Platform) (inputs : RefreshInputs)
  (source : String) (order : OrderRow)

def setRefreshed (row : Option OrderRow) : Refresh Unit :=
  modify fun state => { state with refreshed := row }

/-- `refreshed` where one of its attributes is read. -/
def readRefreshed : Refresh OrderRow := do
  let state ← get
  match state.refreshed with
  | some row => pure row
  | none => throw .attributeError

/-- An `apply_...` call of the store: the transaction, and the order it wrote. -/
def storeAnswer (transaction : OrderStore → Option (OrderStore × Option String))
    (answer : String → StoredAnswer) : Refresh (Option OrderRow) := do
  let state ← get
  match transaction state.store with
  | none => throw .integrityError
  | some (_, none) => pure none
  | some (store, some orderPk) =>
      modify fun state =>
        { state with store := store, stored := state.stored ++ [answer orderPk] }
      pure (store.get orderPk)

/-- An `apply_...` call on the order itself, whose row becomes `refreshed`. -/
def storeOwnAnswer (transaction : OrderStore → OrderStore × Option String)
    (answer : StoredAnswer) : Refresh Unit := do
  let applied ← storeAnswer (fun store => some (transaction store)) fun _ => answer
  match applied with
  | none => throw (.valueError "order not found")
  | some row => setRefreshed (some row)

/-- The body of the `try` around the header. -/
def readHeadinfo : Refresh Unit := do
  let rawData ← answer
    (platform.getOrderHeadinfo (order.itemId.getD "") order.conversationId)
  let applied ← storeAnswer
    (fun store => applyOrderHeadinfo library store order.orderPk rawData inputs.newPk
      inputs.headinfoAt)
    (.headinfo rawData inputs.headinfoAt)
  setRefreshed applied
  match applied with
  | none => throw (.valueError "order not found")
  | some target =>
      if target.orderPk ≠ order.orderPk then
        throw (.conflict "会话返回了不同订单，已阻止平台操作")
      else
        answer (platform.mergeCookies target.accountId (source ++ "_headinfo"))

/-- `order.item_id and order.conversation_id`. -/
def hasConversation : Bool :=
  truthy order.itemId && order.conversationId ≠ ""

def refreshHeadinfo (requireHeadinfo : Bool) : Refresh Unit :=
  if hasConversation order then
    tryCatch (readHeadinfo library platform inputs source order) fun failure =>
      if requireHeadinfo || !failure.isException then throw failure else pure ()
  else if requireHeadinfo then
    throw (.conflict "订单缺少会话或商品信息，无法刷新平台操作能力")
  else pure ()

def refreshDetail : Refresh Unit := do
  let row ← readRefreshed
  let requested := row.platformOrderId.getD ""
  let snapshot ← answer (platform.getOrderDetail requested)
  answer (platform.mergeCookies row.accountId source)
  storeOwnAnswer
    (fun store => applyOrderDetailSnapshot store order.orderPk snapshot
      inputs.detailIds inputs.detailAt)
    (.detail requested snapshot inputs.detailAt)

/-- `capabilities` of `_refresh_platform_state`. -/
def platformCapabilities (row : OrderRow) : List String :=
  (row.platformCapabilities.map fun item => upper (strip item)).filter (· ≠ "")

def refreshShipping (capabilities : List String) : Refresh Unit := do
  if "LOGISTICS_SEND" ∈ capabilities then
    let row ← readRefreshed
    let requested := row.platformOrderId.getD ""
    let options ← answer (platform.getShippingOptions requested)
    storeOwnAnswer
      (fun store => applyOrderShippingOptions store order.orderPk options
        inputs.shippingAt)
      (.shipping (some requested) options inputs.shippingAt)
    let applied ← readRefreshed
    answer (platform.mergeCookies applied.accountId (source ++ "_shipping"))
  else
    let cleared ← storeAnswer
      (fun store => some (applyOrderShippingOptions store order.orderPk []
        inputs.shippingAt))
      (fun _ => .shipping none [] inputs.shippingAt)
    match cleared with
    | none => pure ()
    | some row => setRefreshed (some row)

def refreshRefuseOptions : Refresh Unit := do
  let row ← readRefreshed
  if "REFUSE_REFUND" ∈ row.platformRefundActions ∧ truthy row.refundId then
    let options ← answer (platform.getRefuseRefundOptions (row.refundId.getD ""))
    storeOwnAnswer
      (fun store => applyOrderRefuseOptions store order.orderPk options
        inputs.refuseOptionsAt)
      (.refuseOptions row options inputs.refuseOptionsAt)
  else pure ()

def asksRefund (capabilities : List String) (row : OrderRow) : Bool :=
  meets capabilities ["DEAL_REFUND", "VIEW_REFUND"] ||
    row.refundStatus ∈ [some "pending", some "processing", some "refunding"]

def refreshRefund (capabilities : List String) : Refresh Unit := do
  let row ← readRefreshed
  if asksRefund capabilities row then
    let requested := row.platformOrderId.getD ""
    let detail ← answer (platform.getRefundDetail requested)
    storeOwnAnswer
      (fun store => applyOrderRefundDetail store order.orderPk detail inputs.refundIds
        inputs.refundAt)
      (.refund requested detail inputs.refundAt)
    refreshRefuseOptions platform inputs order
    let applied ← readRefreshed
    answer (platform.mergeCookies applied.accountId (source ++ "_refund"))
  else pure ()

/-- What `_refresh_platform_state` does after the detail page. -/
def refreshOptions : Refresh OrderRow := do
  let row ← readRefreshed
  let capabilities := platformCapabilities row
  refreshShipping platform inputs source order capabilities
  refreshRefund platform inputs source order capabilities
  readRefreshed

def refreshPlatformState (requireHeadinfo : Bool) : Refresh OrderRow := do
  setRefreshed (some order)
  refreshHeadinfo library platform inputs source order requireHeadinfo
  refreshDetail platform inputs source order
  refreshOptions platform inputs source order

end Service

def StoredAnswer.applyTo (library : PythonLibrary) (row : OrderRow) :
    StoredAnswer → OrderRow
  | .headinfo rawData now orderPk =>
      if orderPk = row.orderPk then applyHeadinfo library rawData now row else row
  | .detail _ snapshot now => applyDetail snapshot now row
  | .shipping _ rawData now => applyShippingOptions rawData now row
  | .refund _ rawData now => applyRefundDetail rawData now row
  | .refuseOptions _ rawData now => applyRefuseOptions rawData now row

def SameOrder (order row : OrderRow) : Prop :=
  row.orderPk = order.orderPk ∧ row.platformOrderId = order.platformOrderId

/-- The platform gave the answer for `order`: the header stored in its row names
no other order, and the pages were requested with its own ids. -/
def StoredAnswer.About (order : OrderRow) : StoredAnswer → Prop
  | .headinfo rawData _ orderPk => orderPk = order.orderPk →
      headinfoOrderId rawData = none ∨ headinfoOrderId rawData = order.platformOrderId
  | .detail requested _ _ => requested = order.platformOrderId.getD ""
  | .shipping requested _ _ => ∀ sent, requested = some sent →
      sent = order.platformOrderId.getD ""
  | .refund requested _ _ => requested = order.platformOrderId.getD ""
  | .refuseOptions asked _ _ => SameOrder order asked

/-- `answers` were stored in turn, each in the row of its own order. -/
def replay (library : PythonLibrary) (answers : List StoredAnswer) (row : OrderRow) :
    OrderRow :=
  answers.foldl (StoredAnswer.applyTo library) row

/-- Between two states only answers about `order` were stored, and its row
changed by these answers only. -/
def KeptApart (library : PythonLibrary) (order : OrderRow)
    (before after : RefreshState) : Prop :=
  ∃ answers, after.stored = before.stored ++ answers ∧
    (∀ answer ∈ answers, answer.About order) ∧
    after.store.get order.orderPk =
      (before.store.get order.orderPk).map (replay library answers)

section Apart

variable {library : PythonLibrary} {order : OrderRow}

theorem StoredAnswer.applyTo_orderPk (row : OrderRow) (stored : StoredAnswer) :
    (stored.applyTo library row).orderPk = row.orderPk := by
  cases stored with
  | headinfo rawData now orderPk =>
      simp only [applyTo]
      split <;> rfl
  | detail | shipping | refuseOptions => rfl
  | refund => simp only [applyTo, applyRefundDetail]

variable {row : OrderRow} {store : OrderStore} {rawData : List (String × Json)} {named : String}
  {requireHeadinfo : Bool}

theorem StoredAnswer.sameOrder_applyTo {stored : StoredAnswer} (habout : stored.About order)
    (hrow : SameOrder order row) :
    SameOrder order (stored.applyTo library row) := by
  refine ⟨(applyTo_orderPk row stored).trans hrow.1, ?_⟩
  cases stored with
  | headinfo rawData now orderPk =>
      simp only [applyTo]
      split
      · rename_i hpk
        show orElse (headinfoOrderId rawData) row.platformOrderId = _
        rcases habout (hpk.trans hrow.1) with hunnamed | hown
        · rw [hunnamed, orElse_none]
          exact hrow.2
        · rw [hown, hrow.2, orElse, ite_self]
      · exact hrow.2
  | detail | shipping | refuseOptions => exact hrow.2
  | refund =>
      simp only [applyTo, applyRefundDetail]
      exact hrow.2

theorem sameOrder_replay {answers : List StoredAnswer}
    (habout : ∀ answer ∈ answers, answer.About order) (hrow : SameOrder order row) :
    SameOrder order (replay library answers row) := by
  induction answers generalizing row with
  | nil => exact hrow
  | cons answer answers ih =>
      have hfirst : SameOrder order (answer.applyTo library row) :=
        StoredAnswer.sameOrder_applyTo (habout answer (List.mem_cons_self ..)) hrow
      exact ih (fun later hlater => habout later (List.mem_cons_of_mem _ hlater)) hfirst

theorem KeptApart.refl (state : RefreshState) :
    KeptApart library order state state :=
  ⟨[], (List.append_nil _).symm, fun _ hmem => absurd hmem List.not_mem_nil, by
    show _ = Option.map id _
    rw [Option.map_id, id]⟩

theorem KeptApart.trans {first second third : RefreshState}
    (hfirst : KeptApart library order first second)
    (hsecond : KeptApart library order second third) :
    KeptApart library order first third := by
  obtain ⟨early, hearly, haboutEarly, hreplayEarly⟩ := hfirst
  obtain ⟨late, hlate, haboutLate, hreplayLate⟩ := hsecond
  refine ⟨early ++ late, ?_, ?_, ?_⟩
  · rw [hlate, hearly, List.append_assoc]
  · intro answer hanswer
    rcases List.mem_append.mp hanswer with hmem | hmem
    · exact haboutEarly answer hmem
    · exact haboutLate answer hmem
  · rw [hreplayLate, hreplayEarly, Option.map_map]
    congr 1
    funext row
    exact (List.foldl_append ..).symm

/-- The stored row of the order and `refreshed` are both the order's. -/
structure OnOrder (order : OrderRow) (state : RefreshState) : Prop where
  row : ∀ row, state.store.get order.orderPk = some row → SameOrder order row
  refreshed : ∀ row, state.refreshed = some row → SameOrder order row

theorem KeptApart.row_sameOrder {before after : RefreshState}
    (hkept : KeptApart library order before after)
    (hbefore : ∀ row, before.store.get order.orderPk = some row → SameOrder order row) :
    ∀ row, after.store.get order.orderPk = some row → SameOrder order row := by
  obtain ⟨answers, -, habout, hreplay⟩ := hkept
  intro row hrow
  rw [hreplay] at hrow
  obtain ⟨earlier, hearlier, rfl⟩ := Option.map_eq_some_iff.mp hrow
  exact sameOrder_replay habout (hbefore earlier hearlier)

/-- The transaction writes the order `orderPk` when it is stored, and nothing
otherwise. -/
structure WritesOrder (transaction : OrderStore → OrderStore × Option String)
    (orderPk : String) (update : OrderRow → OrderRow) : Prop where
  missing : ∀ store, store.get orderPk = none → transaction store = (store, none)
  present : ∀ store row, store.get orderPk = some row →
    (transaction store).2 = some orderPk ∧
      (transaction store).1.get orderPk = some (update row)

theorem writesOrder_detail (orderPk : String) (snapshot : OrderDetailSnapshot)
    (ids : EventIds) (now : ℕ) :
    WritesOrder (fun store => applyOrderDetailSnapshot store orderPk snapshot ids now)
      orderPk (applyDetail snapshot now) where
  missing store hget := by simp only [applyOrderDetailSnapshot, hget]
  present store row hget := by
    have hwritten := get_applyOrderDetailSnapshot hget snapshot ids now orderPk
    rw [if_pos rfl, hget] at hwritten
    exact ⟨by simp only [applyOrderDetailSnapshot, hget], hwritten⟩

theorem writesOrder_shipping (orderPk : String) (rawData : List (String × Json))
    (now : ℕ) :
    WritesOrder (fun store => applyOrderShippingOptions store orderPk rawData now)
      orderPk (applyShippingOptions rawData now) where
  missing store hget := by simp only [applyOrderShippingOptions, hget]
  present store row hget := by
    simp only [applyOrderShippingOptions, hget, OrderStore.get_updateOrder, if_true,
      Option.map_some, and_self]

theorem writesOrder_refund (orderPk : String) (rawData : List (String × Json))
    (ids : EventIds) (now : ℕ) :
    WritesOrder (fun store => applyOrderRefundDetail store orderPk rawData ids now)
      orderPk (applyRefundDetail rawData now) where
  missing store hget := by simp only [applyOrderRefundDetail, hget]
  present store row hget := by
    simp only [applyOrderRefundDetail, hget, true_and]
    split
    · simp only [OrderStore.get_updateOrder, if_true, hget, Option.map_some]
    · simp only [OrderStore.get_addEvent, OrderStore.get_updateOrder, if_true, hget,
        Option.map_some]

theorem writesOrder_refuseOptions (orderPk : String) (rawData : List (String × Json))
    (now : ℕ) :
    WritesOrder (fun store => applyOrderRefuseOptions store orderPk rawData now)
      orderPk (applyRefuseOptions rawData now) where
  missing store hget := by simp only [applyOrderRefuseOptions, hget]
  present store row hget := by
    simp only [applyOrderRefuseOptions, hget, OrderStore.get_updateOrder, if_true,
      Option.map_some, and_self]

variable {transaction : OrderStore → OrderStore × Option String}
  {update : OrderRow → OrderRow} {stored : StoredAnswer} {state : RefreshState}

theorem ends_storeAnswer {returns : Option OrderRow → RefreshState → Prop}
    {raises : RefreshFailure → RefreshState → Prop} {orderPk : String}
    (hwrites : WritesOrder transaction orderPk update) :
    Ends (storeAnswer (fun store => some (transaction store)) fun _ => stored) state
        returns raises ↔
      match state.store.get orderPk with
      | none => returns none state
      | some row => returns (some (update row))
          { state with
            store := (transaction state.store).1
            stored := state.stored ++ [stored] } := by
  simp only [storeAnswer, ends_bind, ends_get]
  cases hget : state.store.get orderPk with
  | none => simp only [hwrites.missing _ hget, ends_pure]
  | some row =>
      obtain ⟨hpk, hwritten⟩ := hwrites.present _ _ hget
      have hpair : transaction state.store =
          ((transaction state.store).1, some orderPk) := Prod.ext rfl hpk
      rw [hpair]
      simp only [ends_bind, ends_modify, ends_pure, hwritten]

theorem ends_storeOwnAnswer {returns : Unit → RefreshState → Prop}
    {raises : RefreshFailure → RefreshState → Prop} {orderPk : String}
    (hwrites : WritesOrder transaction orderPk update) :
    Ends (storeOwnAnswer transaction stored) state returns raises ↔
      match state.store.get orderPk with
      | none => raises (.valueError "order not found") state
      | some row => returns ()
          { store := (transaction state.store).1
            refreshed := some (update row)
            stored := state.stored ++ [stored] } := by
  simp only [storeOwnAnswer, ends_bind, ends_storeAnswer hwrites]
  cases state.store.get orderPk with
  | none => simp only [ends_throw]
  | some row => simp only [setRefreshed, ends_modify]

theorem keptApart_store (refreshed : Option OrderRow)
    (hwrites : WritesOrder transaction order.orderPk (stored.applyTo library ·))
    (habout : stored.About order) (hget : state.store.get order.orderPk = some row) :
    KeptApart library order state
      { store := (transaction state.store).1
        refreshed := refreshed
        stored := state.stored ++ [stored] } := by
  refine ⟨[stored], rfl, ?_, ?_⟩
  · intro answer hanswer
    rw [List.mem_singleton.mp hanswer]
    exact habout
  · rw [hget]
    exact (hwrites.present _ _ hget).2

theorem onOrder_store (hwrites : WritesOrder transaction order.orderPk update)
    (hrow : SameOrder order (update row)) (hget : state.store.get order.orderPk = some row) :
    OnOrder order
      { store := (transaction state.store).1
        refreshed := some (update row)
        stored := state.stored ++ [stored] } where
  row written hwritten := by
    rw [(hwrites.present _ _ hget).2] at hwritten
    exact Option.some.inj hwritten ▸ hrow
  refreshed written hwritten := Option.some.inj hwritten ▸ hrow

def Stays (library : PythonLibrary) (order : OrderRow) {Value : Type}
    (procedure : Refresh Value) : Prop :=
  ∀ state, OnOrder order state →
    Ends procedure state
      (fun _ next => KeptApart library order state next ∧ OnOrder order next)
      (fun _ next => KeptApart library order state next)

section Rules

variable {Value Other : Type}

theorem stays_pure (value : Value) : Stays library order (pure value : Refresh Value) :=
  fun state hstate => ⟨KeptApart.refl state, hstate⟩

theorem stays_answer (result : Except RefreshFailure Value) :
    Stays library order (answer result) := by
  intro state hstate
  rw [ends_answer]
  cases result with
  | ok value => exact ⟨KeptApart.refl state, hstate⟩
  | error failure => exact KeptApart.refl state

theorem Stays.bind {first : Refresh Other} {next : Other → Refresh Value}
    (hfirst : Stays library order first)
    (hnext : ∀ value, Stays library order (next value)) :
    Stays library order (first >>= next) := by
  intro state hstate
  rw [ends_bind]
  apply (hfirst state hstate).mono
  · rintro value middle ⟨hmiddle, hon⟩
    apply (hnext value middle hon).mono
    · exact fun _ final hfinal => ⟨hmiddle.trans hfinal.1, hfinal.2⟩
    · exact fun _ final hfinal => hmiddle.trans hfinal
  · exact fun _ middle hmiddle => hmiddle

/-- What follows a use of `refreshed` works with the ids of the order. -/
theorem stays_readRefreshed {next : OrderRow → Refresh Value}
    (hnext : ∀ row, SameOrder order row → Stays library order (next row)) :
    Stays library order (readRefreshed >>= next) := by
  intro state hstate
  simp only [readRefreshed, ends_bind, ends_get]
  cases hrefreshed : state.refreshed with
  | none => exact KeptApart.refl state
  | some row => exact hnext row (hstate.refreshed row hrefreshed) state hstate

theorem stays_storeOwnAnswer
    (hwrites : WritesOrder transaction order.orderPk (stored.applyTo library ·))
    (habout : stored.About order) :
    Stays library order (storeOwnAnswer transaction stored) := by
  intro state hstate
  rw [ends_storeOwnAnswer hwrites]
  cases hget : state.store.get order.orderPk with
  | none => exact KeptApart.refl state
  | some row =>
      have hrow : SameOrder order (stored.applyTo library row) :=
        StoredAnswer.sameOrder_applyTo habout (hstate.row row hget)
      exact ⟨keptApart_store _ hwrites habout hget, onOrder_store hwrites hrow hget⟩

end Rules

variable (platform : Platform) (inputs : RefreshInputs) (source : String)

theorem refreshDetail_stays :
    Stays library order (refreshDetail platform inputs source order) := by
  apply stays_readRefreshed
  intro row hrow
  apply (stays_answer _).bind
  intro snapshot
  apply (stays_answer _).bind
  intro _
  apply stays_storeOwnAnswer (writesOrder_detail _ _ _ _)
  show row.platformOrderId.getD "" = _
  rw [hrow.2]

theorem refreshShipping_stays (capabilities : List String) :
    Stays library order
      (refreshShipping platform inputs source order capabilities) := by
  unfold refreshShipping
  split
  · apply stays_readRefreshed
    intro row hrow
    apply (stays_answer _).bind
    intro options
    apply Stays.bind
    · apply stays_storeOwnAnswer (writesOrder_shipping _ _ _)
      intro sent hsent
      rw [← Option.some.inj hsent, hrow.2]
    · intro _
      exact stays_readRefreshed fun applied _ => stays_answer _
  · intro state hstate
    let empty := StoredAnswer.shipping none [] inputs.shippingAt
    have hwrites : WritesOrder _ order.orderPk (empty.applyTo library ·) :=
      writesOrder_shipping order.orderPk [] inputs.shippingAt
    have habout : empty.About order :=
      fun sent hsent => absurd hsent (Option.some_ne_none sent).symm
    rw [ends_bind, ends_storeAnswer hwrites]
    cases hget : state.store.get order.orderPk with
    | none => exact ⟨KeptApart.refl state, hstate⟩
    | some row =>
        have hrow : SameOrder order (empty.applyTo library row) :=
          StoredAnswer.sameOrder_applyTo habout (hstate.row row hget)
        exact ⟨keptApart_store _ hwrites habout hget, onOrder_store hwrites hrow hget⟩

theorem refreshRefuseOptions_stays :
    Stays library order (refreshRefuseOptions platform inputs order) := by
  apply stays_readRefreshed
  intro row hrow
  split
  · apply (stays_answer _).bind
    intro options
    exact stays_storeOwnAnswer (writesOrder_refuseOptions _ _ _) hrow
  · exact stays_pure ()

theorem refreshRefund_stays (capabilities : List String) :
    Stays library order (refreshRefund platform inputs source order capabilities) := by
  apply stays_readRefreshed
  intro row hrow
  split
  · apply (stays_answer _).bind
    intro detail
    apply Stays.bind
    · apply stays_storeOwnAnswer (writesOrder_refund _ _ _ _)
      show row.platformOrderId.getD "" = _
      rw [hrow.2]
    · intro _
      apply (refreshRefuseOptions_stays platform inputs).bind
      intro _
      exact stays_readRefreshed fun applied _ => stays_answer _
  · exact stays_pure ()

theorem refreshOptions_stays :
    Stays library order (refreshOptions platform inputs source order) := by
  apply stays_readRefreshed
  intro row _
  apply (refreshShipping_stays platform inputs source _).bind
  intro _
  apply (refreshRefund_stays platform inputs source _).bind
  intro _ state hstate
  simp only [readRefreshed, ends_bind, ends_get]
  cases state.refreshed with
  | none => exact KeptApart.refl state
  | some final => exact ⟨KeptApart.refl state, hstate⟩

variable (library)

structure DescribesOther (inputs : RefreshInputs) (order : OrderRow)
    (store : OrderStore) (rawData : List (String × Json)) (named : String) : Prop where
  names : headinfoOrderId rawData = some named
  other : order.platformOrderId ≠ some named
  writable : (store.byPlatformId order.accountId named).isSome = true ∨
    store.get inputs.newPk = none

theorem applyOrderHeadinfo_own (hget : store.get order.orderPk = some order)
    (hown : headinfoOrderId rawData = none ∨ headinfoOrderId rawData = order.platformOrderId) :
    ∃ written, applyOrderHeadinfo library store order.orderPk rawData inputs.newPk
        inputs.headinfoAt = some (written, some order.orderPk) ∧
      written.get order.orderPk =
        some (applyHeadinfo library rawData inputs.headinfoAt order) := by
  obtain ⟨written, hrewrite, hwritten⟩ := exists_applyOrderHeadinfo_of_target library
    inputs.newPk inputs.headinfoAt hget (headinfoTarget_own hown)
  have hafter := OrderStore.get_rewriteOrder hrewrite
    (applyHeadinfo_orderPk library rawData inputs.headinfoAt) order.orderPk
  rw [if_pos rfl, hget, Option.map_some] at hafter
  exact ⟨written, hwritten, hafter⟩

theorem applyOrderHeadinfo_other (hget : store.get order.orderPk = some order)
    (hother : DescribesOther inputs order store rawData named) :
    ∃ written target, applyOrderHeadinfo library store order.orderPk rawData
        inputs.newPk inputs.headinfoAt = some (written, some target.orderPk) ∧
      written.get target.orderPk = some target ∧
      written.get order.orderPk = some order ∧ target.orderPk ≠ order.orderPk ∧
      target.platformOrderId = some named ∧ target.accountId = order.accountId := by
  have htarget : headinfoTarget store order rawData = _ :=
    headinfoTarget_other hother.names hother.other
  cases hstored : store.byPlatformId order.accountId named with
  | some row =>
      rw [hstored] at htarget
      obtain ⟨hmem, haccount, hplatform⟩ := OrderStore.byPlatformId_eq_some_iff.mp hstored
      have hrow : store.get row.orderPk = some row :=
        OrderStore.get_eq_some_iff.mpr ⟨hmem, rfl⟩
      have hne : row.orderPk ≠ order.orderPk := by
        intro hsame
        rw [hsame, hget] at hrow
        rw [Option.some.inj hrow] at hother
        exact hother.other hplatform
      obtain ⟨written, hrewrite, hwritten⟩ := exists_applyOrderHeadinfo_of_target library
        inputs.newPk inputs.headinfoAt hget htarget
      have hafter := OrderStore.get_rewriteOrder hrewrite
        (applyHeadinfo_orderPk library rawData inputs.headinfoAt)
      refine ⟨written, applyHeadinfo library rawData inputs.headinfoAt row, hwritten,
        ?_, ?_, hne, applyHeadinfo_of_named library hother.names _ _, haccount⟩
      · rw [applyHeadinfo_orderPk, hafter, if_pos rfl, hrow, Option.map_some]
      · rw [hafter, if_neg hne.symm, hget]
  | none =>
      rw [hstored] at htarget
      have hfree : store.get inputs.newPk = none := by
        rcases hother.writable with hsome | hfree
        · rw [hstored] at hsome
          cases hsome
        · exact hfree
      have hne : inputs.newPk ≠ order.orderPk := by
        intro hsame
        rw [hsame, hget] at hfree
        cases hfree
      let row := applyHeadinfo library rawData inputs.headinfoAt
        (headinfoOrder order (headinfoOrderId rawData) inputs.newPk inputs.headinfoAt)
      have hplatform : row.platformOrderId = some named :=
        applyHeadinfo_of_named library hother.names _ _
      have hfresh : ∀ key ∈ orderKeys row, store.orders.lookup key = none := by
        intro key hkey
        rw [orderKeys, hplatform] at hkey
        rcases List.mem_cons.mp hkey with rfl | hkey
        · exact hfree
        · rw [List.mem_singleton.mp hkey]
          exact hstored
      obtain ⟨orders, horders⟩ := Table.exists_insert?_of_fresh hfresh
      have hinsert : store.insertOrder row = some { store with orders := orders } := by
        rw [OrderStore.insertOrder, horders, Option.map_some]
      have hafter := OrderStore.get_insertOrder hinsert
      refine ⟨{ store with orders := orders }, row, ?_, ?_, ?_, hne, hplatform, rfl⟩
      · simp only [applyOrderHeadinfo, hget, htarget]
        rw [hinsert]
        rfl
      · rw [hafter, if_pos rfl]
      · rw [hafter, if_neg (show row.orderPk ≠ order.orderPk from hne), hget]

/-- A header of another order that can neither be found nor inserted changes
nothing. -/
theorem applyOrderHeadinfo_refused (hget : store.get order.orderPk = some order)
    (hnames : headinfoOrderId rawData = some named) (hother : order.platformOrderId ≠ some named)
    (hrefused : ¬ DescribesOther inputs order store rawData named) :
    applyOrderHeadinfo library store order.orderPk rawData inputs.newPk
      inputs.headinfoAt = none := by
  have htarget : headinfoTarget store order rawData = _ :=
    headinfoTarget_other hnames hother
  have hunwritable : ¬ ((store.byPlatformId order.accountId named).isSome = true ∨
      store.get inputs.newPk = none) :=
    fun hwritable => hrefused ⟨hnames, hother, hwritable⟩
  rw [not_or, Bool.not_eq_true, Option.isSome_eq_false_iff, Option.isNone_iff_eq_none]
    at hunwritable
  rw [hunwritable.1] at htarget
  simp only [applyOrderHeadinfo, hget, htarget, Option.map_eq_none_iff]
  by_contra hsome
  obtain ⟨inserted, hinsert⟩ := Option.ne_none_iff_exists'.mp hsome
  exact hunwritable.2 (OrderStore.get_eq_none_of_insertOrder hinsert)

/-- `refreshed` is an order of the same account under the id `named`. -/
def RefreshedAs (order : OrderRow) (named : String) (state : RefreshState) : Prop :=
  ∃ row, state.refreshed = some row ∧ row.platformOrderId = some named ∧
    row.accountId = order.accountId

def HeaderOfOther (platform : Platform) (inputs : RefreshInputs) (order : OrderRow)
    (store : OrderStore) (named : String) : Prop :=
  store.get order.orderPk = some order ∧
    ∃ rawData, platform.getOrderHeadinfo (order.itemId.getD "") order.conversationId =
        .ok rawData ∧
      DescribesOther inputs order store rawData named

/-- The header of another order makes that order `refreshed` before the
identity check raises. -/
theorem readHeadinfo_of_other (hother : HeaderOfOther platform inputs order state.store named) :
    Ends (readHeadinfo library platform inputs source order) state
      (fun _ _ => False)
      (fun failure next => failure.isException = true ∧
        KeptApart library order state next ∧ RefreshedAs order named next) := by
  obtain ⟨hget, rawData, hheader, hdescribes⟩ := hother
  obtain ⟨written, target, happly, htarget, horder, hne, hnamed, haccount⟩ :=
    applyOrderHeadinfo_other library inputs hget hdescribes
  simp only [readHeadinfo, storeAnswer, setRefreshed, ends_bind, ends_answer, hheader,
    ends_get, happly, ends_modify, ends_pure, htarget, if_pos hne, ends_throw]
  refine ⟨rfl, ⟨[.headinfo rawData inputs.headinfoAt target.orderPk], rfl, ?_, ?_⟩,
    target, rfl, hnamed, haccount⟩
  · intro stored hstored
    rw [List.mem_singleton.mp hstored]
    exact fun hsame => absurd hsame hne
  · show written.get order.orderPk = _
    rw [horder, hget, Option.map_some]
    show some order = some (if target.orderPk = order.orderPk then _ else order)
    rw [if_neg hne]

theorem readHeadinfo_of_own (hstate : OnOrder order state)
    (hread : ∀ row, state.store.get order.orderPk = some row → row = order)
    (hown : ∀ named, ¬ HeaderOfOther platform inputs order state.store named) :
    Ends (readHeadinfo library platform inputs source order) state
      (fun _ next => KeptApart library order state next ∧ OnOrder order next)
      (fun _ next => KeptApart library order state next ∧ OnOrder order next) := by
  have hstill : KeptApart library order state state ∧ OnOrder order state :=
    ⟨KeptApart.refl state, hstate⟩
  simp only [readHeadinfo, ends_bind, ends_answer]
  cases hheader : platform.getOrderHeadinfo (order.itemId.getD "")
      order.conversationId with
  | error failure => exact hstill
  | ok rawData =>
      simp only [storeAnswer, setRefreshed, ends_bind, ends_get]
      cases hget : state.store.get order.orderPk with
      | none =>
          have hmissing : applyOrderHeadinfo library state.store order.orderPk rawData
              inputs.newPk inputs.headinfoAt = some (state.store, none) := by
            simp only [applyOrderHeadinfo, hget]
          simp only [hmissing, ends_pure, ends_modify, ends_throw]
          exact ⟨⟨[], (List.append_nil _).symm,
            fun _ hmem => absurd hmem List.not_mem_nil, by
              show state.store.get order.orderPk = _
              rw [hget]
              rfl⟩,
            ⟨hstate.row, fun row hrow => absurd hrow (Option.some_ne_none row).symm⟩⟩
      | some row =>
          obtain rfl := hread row hget
          by_cases hself : headinfoOrderId rawData = none ∨
              headinfoOrderId rawData = row.platformOrderId
          · obtain ⟨written, happly, hwritten⟩ :=
              applyOrderHeadinfo_own library inputs hget hself
            have hnext : SameOrder row
                (applyHeadinfo library rawData inputs.headinfoAt row) := by
              refine ⟨rfl, ?_⟩
              rw [applyHeadinfo_platformOrderId]
              rcases hself with hunnamed | hsame
              · rw [hunnamed, orElse_none]
              · rw [hsame, orElse, ite_self]
            have hkept : KeptApart library row state
                { store := written
                  refreshed :=
                    some (applyHeadinfo library rawData inputs.headinfoAt row)
                  stored := state.stored ++
                    [.headinfo rawData inputs.headinfoAt row.orderPk] } := by
              refine ⟨_, rfl, ?_, ?_⟩
              · intro stored hstored
                rw [List.mem_singleton.mp hstored]
                exact fun _ => hself
              · rw [hget]
                show written.get row.orderPk = some (if row.orderPk = row.orderPk then _
                  else row)
                rw [if_pos rfl, hwritten]
            have hon : OnOrder row
                { store := written
                  refreshed :=
                    some (applyHeadinfo library rawData inputs.headinfoAt row)
                  stored := state.stored ++
                    [.headinfo rawData inputs.headinfoAt row.orderPk] } :=
              ⟨fun found hfound => by
                rw [hwritten] at hfound
                exact Option.some.inj hfound ▸ hnext,
              fun found hfound => Option.some.inj hfound ▸ hnext⟩
            simp only [happly, ends_bind, ends_modify, ends_pure, hwritten,
              applyHeadinfo_orderPk, ne_eq, not_true_eq_false, if_false, ends_answer]
            split
            · exact ⟨hkept, hon⟩
            · exact ⟨hkept, hon⟩
          · obtain ⟨named, hnames⟩ : ∃ named, headinfoOrderId rawData = some named :=
              Option.ne_none_iff_exists'.mp fun hnone => hself (.inl hnone)
            have hother : row.platformOrderId ≠ some named :=
              fun hsame => hself (.inr (hnames.trans hsame.symm))
            have hrefused := applyOrderHeadinfo_refused library inputs hget hnames
              hother fun hdescribes => hown named ⟨hget, rawData, hheader, hdescribes⟩
            simp only [hrefused, ends_throw]
            exact hstill

/-- An optional header leaves `refreshed` at another order: the identity check
fails, and its exception is swallowed. -/
structure SwitchesTo (platform : Platform) (inputs : RefreshInputs)
    (order : OrderRow) (requireHeadinfo : Bool) (store : OrderStore)
    (named : String) : Prop where
  optional : requireHeadinfo = false
  conversation : hasConversation order = true
  header : HeaderOfOther platform inputs order store named

theorem refreshHeadinfo_of_switch
    (hswitch : SwitchesTo platform inputs order requireHeadinfo state.store named) :
    Ends (refreshHeadinfo library platform inputs source order requireHeadinfo) state
      (fun _ next => KeptApart library order state next ∧ RefreshedAs order named next)
      (fun _ _ => False) := by
  simp only [refreshHeadinfo, hswitch.conversation, if_true, ends_tryCatch]
  apply (readHeadinfo_of_other library platform inputs source hswitch.header).mono
  · exact fun _ _ hfalse => hfalse.elim
  · rintro failure next ⟨hexception, hkept, hrefreshed⟩
    simp only [hswitch.optional, hexception, Bool.not_true, Bool.or_self,
      Bool.false_eq_true, if_false, ends_pure]
    exact ⟨hkept, hrefreshed⟩

theorem refreshHeadinfo_of_no_switch (hstate : OnOrder order state)
    (hread : ∀ row, state.store.get order.orderPk = some row → row = order)
    (hstays : ∀ named, ¬ SwitchesTo platform inputs order requireHeadinfo state.store named) :
    Ends (refreshHeadinfo library platform inputs source order requireHeadinfo) state
      (fun _ next => KeptApart library order state next ∧ OnOrder order next)
      (fun _ next => KeptApart library order state next) := by
  unfold refreshHeadinfo
  by_cases hconversation : hasConversation order = true
  · rw [if_pos hconversation, ends_tryCatch]
    by_cases hother : ∃ named, HeaderOfOther platform inputs order state.store named
    · obtain ⟨named, hother⟩ := hother
      have hrequired : requireHeadinfo = true := by
        by_contra hoptional
        exact hstays named ⟨Bool.not_eq_true _ ▸ hoptional, hconversation, hother⟩
      apply (readHeadinfo_of_other library platform inputs source hother).mono
      · exact fun _ _ hfalse => hfalse.elim
      · rintro failure next ⟨-, hkept, -⟩
        simp only [hrequired, Bool.true_or, if_true, ends_throw]
        exact hkept
    · apply (readHeadinfo_of_own library platform inputs source hstate hread
        fun named hnamed => hother ⟨named, hnamed⟩).mono
      · exact fun _ _ hnext => hnext
      · intro failure next hnext
        split
        · exact hnext.1
        · exact hnext
  · rw [if_neg hconversation]
    split
    · exact KeptApart.refl state
    · exact ⟨KeptApart.refl state, hstate⟩

section Switched

variable {named : String} (hrefreshed : RefreshedAs order named state)

include hrefreshed

/-- The detail page of the order in `refreshed` is stored in the row of the
order. -/
theorem refreshDetail_of_other {snapshot : OrderDetailSnapshot} {row : OrderRow}
    (hdetail : platform.getOrderDetail named = .ok snapshot)
    (hmerge : platform.mergeCookies order.accountId source = .ok ())
    (hget : state.store.get order.orderPk = some row) (hrow : SameOrder order row) :
    Ends (refreshDetail platform inputs source order) state
      (fun _ next => OnOrder order next ∧
        next.stored = state.stored ++ [.detail named snapshot inputs.detailAt])
      (fun _ _ => False) := by
  obtain ⟨other, hother, hnamed, haccount⟩ := hrefreshed
  have hwrites := writesOrder_detail order.orderPk snapshot inputs.detailIds
    inputs.detailAt
  simp only [refreshDetail, readRefreshed, ends_bind, ends_get, hother, ends_pure,
    hnamed, Option.getD_some, ends_answer, hdetail, haccount, hmerge]
  rw [ends_storeOwnAnswer hwrites, hget]
  exact ⟨onOrder_store hwrites hrow hget, rfl⟩

/-- Without that page, or when the cookies of the request cannot be merged,
nothing is stored. -/
theorem refreshDetail_of_no_answer
    (hnone : ∀ snapshot, platform.getOrderDetail named = .ok snapshot →
      platform.mergeCookies order.accountId source ≠ .ok ()) :
    Ends (refreshDetail platform inputs source order) state (fun _ _ => False)
      (fun _ next => next = state) := by
  obtain ⟨other, hother, hnamed, haccount⟩ := hrefreshed
  simp only [refreshDetail, readRefreshed, ends_bind, ends_get, hother, ends_pure,
    hnamed, Option.getD_some, ends_answer, haccount]
  cases hdetail : platform.getOrderDetail named with
  | error failure => trivial
  | ok snapshot =>
      cases hmerge : platform.mergeCookies order.accountId source with
      | error failure => trivial
      | ok value => exact absurd hmerge (hnone snapshot hdetail)

end Switched

/-- The header switches `refreshed` to another order and the platform has a
detail page for it. -/
def TakesDetailOfOther (platform : Platform) (inputs : RefreshInputs)
    (source : String) (order : OrderRow) (requireHeadinfo : Bool)
    (store : OrderStore) : Prop :=
  ∃ named snapshot, SwitchesTo platform inputs order requireHeadinfo store named ∧
    platform.getOrderDetail named = .ok snapshot ∧
    platform.mergeCookies order.accountId source = .ok ()

/-- The state in which `_refresh_platform_state` is called. -/
def RefreshState.start (store : OrderStore) : RefreshState where
  store := store
  refreshed := none
  stored := []

theorem onOrder_start (hread : ∀ row, store.get order.orderPk = some row → row = order) :
    OnOrder order { RefreshState.start store with refreshed := some order } where
  row row hrow := by
    rw [hread row hrow]
    exact ⟨rfl, rfl⟩
  refreshed row hrow := by
    rw [← Option.some.inj hrow]
    exact ⟨rfl, rfl⟩

theorem refresh_keeps_apart (hread : ∀ row, store.get order.orderPk = some row → row = order)
    (hnot : ¬ TakesDetailOfOther platform inputs source order requireHeadinfo store) :
    Ends (refreshPlatformState library platform inputs source order requireHeadinfo)
      (RefreshState.start store)
      (fun _ => KeptApart library order (RefreshState.start store))
      (fun _ => KeptApart library order (RefreshState.start store)) := by
  let first : RefreshState := { RefreshState.start store with refreshed := some order }
  have hon : OnOrder order first := onOrder_start hread
  simp only [refreshPlatformState, setRefreshed, ends_bind, ends_modify]
  show Ends _ first _ _
  by_cases hswitch : ∃ named,
      SwitchesTo platform inputs order requireHeadinfo store named
  · obtain ⟨named, hswitch⟩ := hswitch
    have hheader : Ends _ first _ _ :=
      refreshHeadinfo_of_switch library platform inputs source hswitch
    apply hheader.mono
    · rintro _ next ⟨hkept, hrefreshed⟩
      have hnone : ∀ snapshot, platform.getOrderDetail named = .ok snapshot →
          platform.mergeCookies order.accountId source ≠ .ok () :=
        fun snapshot hdetail hmerge => hnot ⟨named, snapshot, hswitch, hdetail, hmerge⟩
      apply (refreshDetail_of_no_answer platform inputs source hrefreshed hnone).mono
      · exact fun _ _ hfalse => hfalse.elim
      · rintro _ _ rfl
        exact hkept
    · exact fun _ _ hfalse => hfalse.elim
  · apply (refreshHeadinfo_of_no_switch library platform inputs source hon hread
      fun named hnamed => hswitch ⟨named, hnamed⟩).mono
    · rintro _ next ⟨hkept, hnext⟩
      have hpages : Stays library order (do
          refreshDetail platform inputs source order
          refreshOptions platform inputs source order) :=
        (refreshDetail_stays platform inputs source).bind fun _ =>
          refreshOptions_stays platform inputs source
      have hrest := hpages next hnext
      rw [ends_bind] at hrest
      apply hrest.mono
      · intro _ middle hmiddle
        apply hmiddle.mono
        · exact fun _ final hfinal => hkept.trans hfinal.1
        · exact fun _ final hfinal => hkept.trans hfinal
      · exact fun _ final hfinal => hkept.trans hfinal
    · exact fun _ next hkept => hkept

theorem refresh_stores_other
    (htakes : TakesDetailOfOther platform inputs source order requireHeadinfo store) :
    Ends (refreshPlatformState library platform inputs source order requireHeadinfo)
      (RefreshState.start store)
      (fun _ next => ¬ KeptApart library order (RefreshState.start store) next)
      (fun _ next => ¬ KeptApart library order (RefreshState.start store) next) := by
  obtain ⟨named, snapshot, hswitch, hdetail, hmerge⟩ := htakes
  let first : RefreshState := { RefreshState.start store with refreshed := some order }
  have hget : store.get order.orderPk = some order := hswitch.header.1
  have hmixed : ∀ middle final : RefreshState,
      .detail named snapshot inputs.detailAt ∈ middle.stored →
      KeptApart library order middle final →
      ¬ KeptApart library order (RefreshState.start store) final := by
    rintro middle final hmem ⟨late, hlate, -⟩ ⟨answers, hanswers, habout, -⟩
    have hwrong : named = order.platformOrderId.getD "" := by
      refine habout (.detail named snapshot inputs.detailAt) ?_
      rw [show answers = final.stored from hanswers.symm, hlate]
      exact List.mem_append_left _ hmem
    obtain ⟨rawData, -, hdescribes⟩ := hswitch.header.2
    have hnonempty := Json.ne_empty_of_stringValue hdescribes.names
    cases hown : order.platformOrderId with
    | none =>
        rw [hown] at hwrong
        exact hnonempty hwrong
    | some own =>
        rw [hown] at hwrong
        exact hdescribes.other (hown.trans (congrArg some hwrong.symm))
  simp only [refreshPlatformState, setRefreshed, ends_bind, ends_modify]
  show Ends _ first _ _
  have hheader : Ends _ first _ _ :=
    refreshHeadinfo_of_switch library platform inputs source hswitch
  apply hheader.mono
  · rintro _ middle ⟨hkept, hrefreshed⟩
    have hrow : ∀ row, middle.store.get order.orderPk = some row →
        SameOrder order row := by
      apply hkept.row_sameOrder
      intro row hrow
      obtain rfl := Option.some.inj (hget.symm.trans hrow)
      exact ⟨rfl, rfl⟩
    obtain ⟨answers, -, -, hreplay⟩ := hkept
    have hstored : middle.store.get order.orderPk =
        some (replay library answers order) := by
      rw [hreplay]
      show Option.map _ (store.get order.orderPk) = _
      rw [hget, Option.map_some]
    apply (refreshDetail_of_other platform inputs source hrefreshed hdetail hmerge
      hstored (hrow _ hstored)).mono
    · rintro _ later ⟨hlater, hlog⟩
      have hmem : .detail named snapshot inputs.detailAt ∈ later.stored := by
        rw [hlog]
        exact List.mem_append_right _ (List.mem_singleton_self _)
      apply (refreshOptions_stays platform inputs source later hlater).mono
      · exact fun _ final hfinal => hmixed later final hmem hfinal.1
      · exact fun _ final hfinal => hmixed later final hmem hfinal
    · exact fun _ _ hfalse => hfalse.elim
  · exact fun _ _ hfalse => hfalse.elim

end Apart

def listedOrder : OrderRow where
  orderPk := "order-1"
  accountId := "seller"
  platformOrderId := some "1001"
  dataSource := some "seller_sold"
  conversationId := "chat-1"
  itemId := some "item-1"
  status := .paidWaitingDelivery
  createdAt := 0
  updatedAt := 0

def listedStore : OrderStore where
  orders := { rows := [listedOrder], unique := List.pairwise_singleton _ _ }
  events := []

/-- A platform on which the conversation has moved on to the order `2002`. -/
def movedOnPlatform : Platform where
  getOrderHeadinfo := fun _ _ => .ok [("commonData", .obj [("orderId", .str "2002")])]
  getOrderDetail := fun orderId =>
    if orderId = "2002" then .ok { status := .closed, receiverName := "second buyer" }
    else .ok { status := .paidWaitingDelivery, receiverName := "first buyer" }
  getShippingOptions := fun _ => .ok []
  getRefundDetail := fun _ => .ok []
  getRefuseRefundOptions := fun _ => .ok []
  mergeCookies := fun _ _ => .ok ()

def refreshInputs : RefreshInputs where
  newPk := "order-2"
  detailIds := ⟨"event-1", "uuid-1"⟩
  refundIds := ⟨"event-2", "uuid-2"⟩
  headinfoAt := 1
  detailAt := 2
  shippingAt := 3
  refundAt := 4
  refuseOptionsAt := 5

end XianyuAdmin.Orders
