import XianyuAdmin.Core.Transition
import XianyuAdmin.Delivery.DeliveryRecords

/-!
# One delivery for an order

The guard is evaluated when a record is prepared, and the record is inserted
later in the transaction, so that the two are separate steps of a call here.
The claim for sending has no guard.  As long as no record is inserted and no
failed record is claimed beside an active record of its order, at most one
record of an order is active.
-/

namespace XianyuAdmin.Delivery

open XianyuAdmin.Python
open XianyuAdmin.Transition

structure DeliveryState (Call : Type) where
  records : DeliveryTable
  drafts : Call → Option DeliveryRecord

inductive DeliveryStep (Call : Type)
  | prepareRecord (call : Call) (catalogue : Catalogue)
      (accountId conversationId : String) (payload : DeliveryPreparePayload)
      (recordId : String) (now : ℕ)
  | prepareOrder (call : Call) (catalogue : Catalogue) (orderPk : String)
      (payload : OrderDeliveryPreviewRequest) (recordId : String) (now : ℕ)
  | insert (call : Call)
  | claim (accountId recordId : String) (now : ℕ)
  | update (accountId recordId : String) (outcome : SendOutcome) (now : ℕ)

variable {Call : Type} [DecidableEq Call]

def applyDeliveryStep (state : DeliveryState Call) :
    DeliveryStep Call → DeliveryState Call
  | .prepareRecord call catalogue accountId conversationId payload recordId now =>
      { state with
        drafts := Function.update state.drafts call
          (draftDeliveryRecord catalogue state.records accountId conversationId payload
            recordId now) }
  | .prepareOrder call catalogue orderPk payload recordId now =>
      { state with
        drafts := Function.update state.drafts call
          (draftOrderDelivery catalogue state.records orderPk payload recordId now) }
  | .insert call =>
      match state.drafts call with
      | none => state
      | some draft =>
          { records := (state.records.insert? draft).getD state.records
            drafts := Function.update state.drafts call none }
  | .claim accountId recordId now =>
      { state with
        records :=
          (claimDeliveryRecord state.records accountId recordId now).getD state.records }
  | .update accountId recordId outcome now =>
      { state with
        records :=
          (updateAfterSend state.records accountId recordId outcome now).getD
            state.records }

omit [DecidableEq Call] in
def DeliveryState.initial : DeliveryState Call where
  records := Table.empty
  drafts := fun _ => none

def Once (statuses : DeliveryStatus → Bool) (records : DeliveryTable) : Prop :=
  ∀ left ∈ records.rows, ∀ right ∈ records.rows, statuses left.status = true →
    statuses right.status = true → left.accountId = right.accountId →
    left.orderId = right.orderId → truthy left.orderId = true → left = right

def Alone (statuses : DeliveryStatus → Bool) (records : DeliveryTable)
    (record : DeliveryRecord) : Prop :=
  ∀ rival ∈ records.rows, rival.accountId = record.accountId →
    rival.orderId = record.orderId → truthy record.orderId = true →
    rival.recordId ≠ record.recordId → statuses rival.status = false

section Once

variable {statuses : DeliveryStatus → Bool} {records next : DeliveryTable}

theorem record_eq_of_recordId {left right : DeliveryRecord}
    (hleft : left ∈ records.rows) (hright : right ∈ records.rows)
    (hid : left.recordId = right.recordId) : left = right :=
  Table.eq_of_key hleft hright (List.mem_singleton_self _)
    (List.mem_singleton.mpr hid)

theorem once_iff_alone :
    Once statuses records ↔ ∀ record ∈ records.rows,
      statuses record.status = true → Alone statuses records record := by
  constructor
  · intro honce record hrecord hstatus rival hrival haccount horder htruthy hne
    by_contra hrivalStatus
    have hsame := honce record hrecord rival hrival hstatus
      (Bool.not_eq_false _ ▸ hrivalStatus) haccount.symm horder.symm htruthy
    exact hne (congrArg DeliveryRecord.recordId hsame).symm
  · intro halone left hleft right hright hleftStatus hrightStatus haccount horder htruthy
    by_contra hne
    have hid : right.recordId ≠ left.recordId := fun hid =>
      hne (record_eq_of_recordId hleft hright hid.symm)
    have hfalse := halone left hleft hleftStatus right hright haccount.symm horder.symm
      htruthy hid
    rw [hrightStatus] at hfalse
    cases hfalse

/-- A new record with a status in `statuses` that is alone. -/
theorem Once.insert {draft : DeliveryRecord} (honce : Once statuses records)
    (hinsert : records.insert? draft = some next)
    (halone : statuses draft.status = true → Alone statuses records draft) :
    Once statuses next := by
  have hfresh : ∀ record ∈ records.rows, record.recordId ≠ draft.recordId := by
    intro record hrecord hid
    exact Table.noClash_of_insert? hinsert record hrecord record.recordId
      (List.mem_singleton_self _) (List.mem_singleton.mpr hid)
  have hrows := Table.rows_of_insert? hinsert
  rw [once_iff_alone] at honce ⊢
  intro record hrecord hstatus rival hrival haccount horder htruthy hne
  rw [hrows, List.mem_append, List.mem_singleton] at hrecord hrival
  rcases hrecord with hrecord | rfl
  · rcases hrival with hrival | rfl
    · exact honce record hrecord hstatus rival hrival haccount horder htruthy hne
    · by_contra hrivalStatus
      have hfalse := halone (Bool.not_eq_false _ ▸ hrivalStatus) record hrecord
        haccount.symm horder.symm (horder ▸ htruthy) hne.symm
      rw [hstatus] at hfalse
      cases hfalse
  · rcases hrival with hrival | rfl
    · exact halone hstatus rival hrival haccount horder htruthy hne
    · exact absurd rfl hne

theorem Once.write {update : DeliveryRecord → Option DeliveryRecord}
    {recordId : String} (honce : Once statuses records)
    (hrows : next.rows = records.rows.map fun record => (update record).getD record)
    (htarget : ∀ record written, update record = some written →
      record.recordId = recordId ∧ written.recordId = record.recordId ∧
        written.accountId = record.accountId ∧ written.orderId = record.orderId)
    (halone : ∀ record ∈ records.rows, ∀ written, update record = some written →
      statuses written.status = true →
      statuses record.status = true ∨ Alone statuses records record) :
    Once statuses next := by
  have hcolumns : ∀ record, ((update record).getD record).recordId = record.recordId ∧
      ((update record).getD record).accountId = record.accountId ∧
      ((update record).getD record).orderId = record.orderId := by
    intro record
    cases hupdate : update record with
    | none => exact ⟨rfl, rfl, rfl⟩
    | some written => exact (htarget record written hupdate).2
  have hafter : ∀ record ∈ records.rows,
      statuses ((update record).getD record).status = true →
      Alone statuses records record := by
    intro record hrecord hstatus
    cases hupdate : update record with
    | none =>
        rw [hupdate] at hstatus
        exact once_iff_alone.mp honce record hrecord hstatus
    | some written =>
        rw [hupdate] at hstatus
        rcases halone record hrecord written hupdate hstatus with hbefore | halone
        · exact once_iff_alone.mp honce record hrecord hbefore
        · exact halone
  rw [once_iff_alone]
  intro left hleft hleftStatus right hright haccount horder htruthy hne
  rw [hrows] at hleft hright
  obtain ⟨record, hrecord, rfl⟩ := List.mem_map.mp hleft
  obtain ⟨rival, hrival, rfl⟩ := List.mem_map.mp hright
  rw [(hcolumns record).2.1, (hcolumns rival).2.1] at haccount
  rw [(hcolumns record).2.2, (hcolumns rival).2.2] at horder
  rw [(hcolumns record).2.2] at htruthy
  rw [(hcolumns record).1, (hcolumns rival).1] at hne
  by_contra hrivalStatus
  have hrivalStatus := Bool.not_eq_false _ ▸ hrivalStatus
  cases hupdate : update rival with
  | none =>
      have hfalse := hafter record hrecord hleftStatus rival hrival haccount horder
        htruthy hne
      rw [hupdate] at hrivalStatus
      rw [Option.getD_none, hfalse] at hrivalStatus
      cases hrivalStatus
  | some written =>
      -- The record itself is not the one that is written.
      have hkept : update record = none := by
        by_contra hwritten
        obtain ⟨other, hother⟩ := Option.ne_none_iff_exists'.mp hwritten
        exact hne ((htarget rival written hupdate).1.trans
          (htarget record other hother).1.symm)
      have hfalse := hafter rival hrival hrivalStatus record hrecord haccount.symm
        horder.symm (horder ▸ htruthy) hne.symm
      rw [hkept, Option.getD_none, hfalse] at hleftStatus
      cases hleftStatus

theorem Once.mono {fewer : DeliveryStatus → Bool} (honce : Once statuses records)
    (hfewer : ∀ status, fewer status = true → statuses status = true) :
    Once fewer records :=
  fun left hleft right hright hleftStatus hrightStatus =>
    honce left hleft right hright (hfewer _ hleftStatus) (hfewer _ hrightStatus)

end Once

def ActsBesideActive (state : DeliveryState Call) : DeliveryStep Call → Prop
  | .insert call => ∃ draft, state.drafts call = some draft ∧
      truthy draft.orderId = true ∧
      hasActiveDeliveryRecord state.records draft.accountId draft.conversationId
        draft.cardId draft.orderId draft.itemId none = true
  | .claim accountId recordId _ => ∃ record ∈ state.records.rows,
      record.recordId = recordId ∧ record.accountId = accountId ∧
      record.status = .failed ∧ truthy record.orderId = true ∧
      hasActiveDeliveryRecord state.records accountId record.conversationId
        record.cardId record.orderId record.itemId (some record.recordId) = true
  | _ => False

def DispatchesTwice (state : DeliveryState Call) : DeliveryStep Call → Prop
  | .claim accountId recordId _ => ∃ record ∈ state.records.rows,
      record.recordId = recordId ∧ record.accountId = accountId ∧
      record.status = .failed ∧ ¬ Alone DeliveryStatus.isDispatched state.records record
  | _ => False

theorem alone_of_guard {records : DeliveryTable} {record : DeliveryRecord}
    {conversationId : String} {cardId itemId exclude : Option String}
    (hexclude : ∀ rival : DeliveryRecord, rival.recordId ≠ record.recordId →
      truthy exclude = true → some rival.recordId ≠ exclude)
    (hguard : truthy record.orderId = true →
      hasActiveDeliveryRecord records record.accountId conversationId cardId
        record.orderId itemId exclude ≠ true) :
    Alone DeliveryStatus.isActive records record := by
  intro rival hrival haccount horder htruthy hne
  by_contra hactive
  apply hguard htruthy
  rw [hasActiveDeliveryRecord, if_pos htruthy]
  apply List.any_eq_true.mpr
  refine ⟨rival, hrival, ?_⟩
  have hactive := Bool.not_eq_false _ ▸ hactive
  simp only [haccount, horder, hactive]
  cases hexcludes : truthy exclude with
  | false => simp
  | true => simp [hexclude rival hne hexcludes]

theorem Alone.mono {fewer statuses : DeliveryStatus → Bool} {records : DeliveryTable}
    {record : DeliveryRecord} (halone : Alone statuses records record)
    (hfewer : ∀ status, fewer status = true → statuses status = true) :
    Alone fewer records record := by
  intro rival hrival haccount horder htruthy hne
  by_contra hstatus
  have hfalse := halone rival hrival haccount horder htruthy hne
  rw [hfewer _ (Bool.not_eq_false _ ▸ hstatus)] at hfalse
  cases hfalse

theorem DeliveryStatus.active_of_dispatched {status : DeliveryStatus}
    (hdispatched : status.isDispatched = true) : status.isActive = true := by
  cases status <;> simp_all [isDispatched, isActive]

section Transactions

variable {statuses : DeliveryStatus → Bool} {records next : DeliveryTable}
  {accountId recordId : String} {now : ℕ}

theorem isClaimable_iff {record : DeliveryRecord} :
    isClaimable accountId recordId record = true ↔
      record.recordId = recordId ∧ record.accountId = accountId ∧
        (record.status = .pending ∨ record.status = .failed) := by
  simp [isClaimable, and_assoc]

theorem rows_claimDeliveryRecord
    (hclaim : claimDeliveryRecord records accountId recordId now = some next) :
    next.rows = records.rows.map fun record =>
      (if isClaimable accountId recordId record then some (claimed now record)
        else none).getD record := by
  unfold claimDeliveryRecord at hclaim
  split at hclaim
  · rw [← Option.some.inj hclaim]
    rfl
  · cases hclaim

theorem exists_claimDeliveryRecord {record : DeliveryRecord} (now : ℕ)
    (hrecord : record ∈ records.rows)
    (hclaimable : isClaimable accountId recordId record = true) :
    ∃ next, claimDeliveryRecord records accountId recordId now = some next := by
  unfold claimDeliveryRecord
  rw [if_pos (List.any_eq_true.mpr ⟨record, hrecord, hclaimable⟩)]
  exact ⟨_, rfl⟩

theorem Once.claim (honce : Once statuses records)
    (hclaim : claimDeliveryRecord records accountId recordId now = some next)
    (halone : ∀ record ∈ records.rows, isClaimable accountId recordId record = true →
      statuses record.status = true ∨ Alone statuses records record) :
    Once statuses next := by
  apply honce.write (rows_claimDeliveryRecord hclaim)
  · intro record written hwritten
    split at hwritten
    · rename_i hclaimable
      rw [← Option.some.inj hwritten]
      exact ⟨(isClaimable_iff.mp hclaimable).1, rfl, rfl, rfl⟩
    · cases hwritten
  · intro record hrecord written hwritten _
    split at hwritten
    · rename_i hclaimable
      exact halone record hrecord hclaimable
    · cases hwritten

theorem Once.updateAfterSend {outcome : SendOutcome} (honce : Once statuses records)
    (hsending : statuses .sending = true)
    (hupdate : updateAfterSend records accountId recordId outcome now = some next) :
    Once statuses next := by
  have hrows : next.rows = records.rows.map fun record =>
      (if isSending accountId recordId record then some (afterSend outcome now record)
        else none).getD record := by
    unfold Delivery.updateAfterSend at hupdate
    split at hupdate
    · rw [← Option.some.inj hupdate]
      rfl
    · cases hupdate
  have hstatus : ∀ record, isSending accountId recordId record = true →
      record.recordId = recordId ∧ record.status = .sending := by
    intro record hrecord
    simp only [isSending, Bool.and_eq_true, decide_eq_true_eq] at hrecord
    exact ⟨hrecord.1.1, hrecord.2⟩
  apply honce.write hrows
  · intro record written hwritten
    split at hwritten
    · rename_i hrecord
      rw [← Option.some.inj hwritten]
      exact ⟨(hstatus record hrecord).1, rfl, rfl, rfl⟩
    · cases hwritten
  · intro record _ written hwritten _
    split at hwritten
    · rename_i hrecord
      rw [(hstatus record hrecord).2]
      exact .inl hsending
    · cases hwritten

theorem pending_of_draftDeliveryRecord {catalogue : Catalogue}
    {conversationId : String} {payload : DeliveryPreparePayload}
    {draft : DeliveryRecord}
    (hdraft : draftDeliveryRecord catalogue records accountId conversationId payload
      recordId now = some draft) : draft.status = .pending := by
  simp only [draftDeliveryRecord, Option.bind_eq_bind, Option.bind_eq_some_iff] at hdraft
  obtain ⟨_, -, template, -, card, -, _, -, _, -, hdraft⟩ := hdraft
  rw [← Option.some.inj hdraft]

theorem pending_of_draftOrderDelivery {catalogue : Catalogue} {orderPk : String}
    {payload : OrderDeliveryPreviewRequest} {draft : DeliveryRecord}
    (hdraft : draftOrderDelivery catalogue records orderPk payload recordId now =
      some draft) : draft.status = .pending := by
  simp only [draftOrderDelivery, Option.bind_eq_bind, Option.bind_eq_some_iff] at hdraft
  obtain ⟨order, -, chosen, -, _, -, hdraft⟩ := hdraft
  rw [← Option.some.inj hdraft]

end Transactions

section Step

variable {state : DeliveryState Call} {step : DeliveryStep Call}

def PendingDrafts (state : DeliveryState Call) : Prop :=
  ∀ call draft, state.drafts call = some draft → draft.status = .pending

theorem PendingDrafts.update {drafts : Option DeliveryRecord} {call : Call}
    (hpending : PendingDrafts state)
    (hdrafts : ∀ draft, drafts = some draft → draft.status = .pending) :
    PendingDrafts { state with drafts := Function.update state.drafts call drafts } :=
  (Function.forall_update_iff state.drafts fun _ drafts =>
    ∀ draft, drafts = some draft → draft.status = .pending).mpr
    ⟨hdrafts, fun other _ => hpending other⟩

theorem pendingDrafts_step (hpending : PendingDrafts state) :
    PendingDrafts (applyDeliveryStep state step) := by
  cases step with
  | prepareRecord =>
      exact hpending.update fun _ => pending_of_draftDeliveryRecord
  | prepareOrder => exact hpending.update fun _ => pending_of_draftOrderDelivery
  | insert call =>
      simp only [applyDeliveryStep]
      split
      · exact hpending
      · exact hpending.update fun _ hnone => by cases hnone
  | claim | update => exact hpending

theorem activeOnce_step (honce : Once DeliveryStatus.isActive state.records)
    (hallowed : ¬ ActsBesideActive state step) :
    Once DeliveryStatus.isActive (applyDeliveryStep state step).records := by
  cases step with
  | prepareRecord | prepareOrder => exact honce
  | insert call =>
      cases hdraft : state.drafts call with
      | none => simpa only [applyDeliveryStep, hdraft] using honce
      | some draft =>
          simp only [applyDeliveryStep, hdraft]
          cases hinsert : state.records.insert? draft with
          | none => exact honce
          | some inserted =>
              apply honce.insert hinsert
              intro _
              apply alone_of_guard
                (fun _ _ (habsent : truthy none = true) => absurd habsent (by simp))
              exact fun htruthy hguard => hallowed ⟨draft, hdraft, htruthy, hguard⟩
  | claim accountId recordId now =>
      simp only [applyDeliveryStep]
      cases hclaim : claimDeliveryRecord state.records accountId recordId now with
      | none => exact honce
      | some claimed =>
          apply honce.claim hclaim
          intro record hrecord hclaimable
          obtain ⟨hid, haccount, hpending | hfailed⟩ := isClaimable_iff.mp hclaimable
          · rw [hpending]
            exact .inl rfl
          · right
            apply alone_of_guard
              (fun _ hne _ hsame => hne (Option.some.inj hsame))
            intro htruthy hguard
            rw [haccount] at hguard
            exact hallowed ⟨record, hrecord, hid, haccount, hfailed, htruthy, hguard⟩
  | update accountId recordId outcome now =>
      simp only [applyDeliveryStep]
      cases hupdate : updateAfterSend state.records accountId recordId outcome now with
      | none => exact honce
      | some updated => exact honce.updateAfterSend rfl hupdate

/-- A step hands a second record of an order out exactly when it claims a failed
record beside one that was handed out. -/
theorem deliveredOnce_step_iff (honce : Once DeliveryStatus.isActive state.records)
    (hpending : PendingDrafts state) :
    Once DeliveryStatus.isDispatched (applyDeliveryStep state step).records ↔
      ¬ DispatchesTwice state step := by
  have hdelivered : Once DeliveryStatus.isDispatched state.records :=
    honce.mono fun _ => DeliveryStatus.active_of_dispatched
  cases step with
  | prepareRecord | prepareOrder => exact iff_of_true hdelivered id
  | insert call =>
      refine iff_of_true ?_ id
      cases hdraft : state.drafts call with
      | none => simpa only [applyDeliveryStep, hdraft] using hdelivered
      | some draft =>
          simp only [applyDeliveryStep, hdraft]
          cases hinsert : state.records.insert? draft with
          | none => exact hdelivered
          | some inserted =>
              apply hdelivered.insert hinsert
              intro hdispatched
              rw [hpending call draft hdraft] at hdispatched
              cases hdispatched
  | update accountId recordId outcome now =>
      refine iff_of_true ?_ id
      simp only [applyDeliveryStep]
      cases hupdate : updateAfterSend state.records accountId recordId outcome now with
      | none => exact hdelivered
      | some updated => exact hdelivered.updateAfterSend rfl hupdate
  | claim accountId recordId now =>
      simp only [applyDeliveryStep]
      constructor
      · rintro hafter ⟨record, hrecord, hid, haccount, hfailed, hrivals⟩
        have hclaimable : isClaimable accountId recordId record = true :=
          isClaimable_iff.mpr ⟨hid, haccount, .inr hfailed⟩
        obtain ⟨next, hclaim⟩ := exists_claimDeliveryRecord now hrecord hclaimable
        rw [hclaim] at hafter
        apply hrivals
        intro rival hrival hrivalAccount horder htruthy hne
        have hmem : claimed now record ∈ next.rows := by
          rw [rows_claimDeliveryRecord hclaim]
          exact List.mem_map.mpr ⟨record, hrecord, by rw [if_pos hclaimable]; rfl⟩
        have hrivalMem : rival ∈ next.rows := by
          have hother : isClaimable accountId recordId rival ≠ true :=
            fun hrivalClaimable =>
              hne ((isClaimable_iff.mp hrivalClaimable).1.trans hid.symm)
          rw [rows_claimDeliveryRecord hclaim]
          exact List.mem_map.mpr ⟨rival, hrival, by rw [if_neg hother]; rfl⟩
        exact once_iff_alone.mp hafter (claimed now record) hmem rfl rival hrivalMem
          hrivalAccount horder htruthy hne
      · intro hallowed
        cases hclaim : claimDeliveryRecord state.records accountId recordId now with
        | none => exact hdelivered
        | some claimed =>
            apply hdelivered.claim hclaim
            intro record hrecord hclaimable
            right
            obtain ⟨hid, haccount, hpending | hfailed⟩ := isClaimable_iff.mp hclaimable
            · have hactive : record.status.isActive = true := by
                rw [hpending]
                rfl
              exact (once_iff_alone.mp honce record hrecord hactive).mono
                fun _ => DeliveryStatus.active_of_dispatched
            · by_contra hrival
              exact hallowed ⟨record, hrecord, hid, haccount, hfailed, hrival⟩

end Step

/-- Until a record is inserted, or a failed one claimed, beside an active record
of its order, no order has two records that were handed out, and the next step
hands a second one out exactly when it claims a failed record beside one that
was handed out. -/
theorem delivered_once {state : DeliveryState Call} {steps : List (DeliveryStep Call)}
    (hrun : Run (restrict (ofFunction applyDeliveryStep)
      fun state step => ¬ ActsBesideActive state step)
      DeliveryState.initial steps state) :
    Once DeliveryStatus.isDispatched state.records ∧
      ∀ step, Once DeliveryStatus.isDispatched (applyDeliveryStep state step).records ↔
        ¬ DispatchesTwice state step := by
  have hsound : Once DeliveryStatus.isActive state.records ∧ PendingDrafts state := by
    apply hrun.invariant fun state =>
      Once DeliveryStatus.isActive state.records ∧ PendingDrafts state
    · rintro before step after ⟨honce, hpending⟩ ⟨hallowed, rfl⟩
      exact ⟨activeOnce_step honce hallowed, pendingDrafts_step hpending⟩
    · exact ⟨fun _ hmem => absurd hmem List.not_mem_nil, fun _ _ hnone => by cases hnone⟩
  exact ⟨hsound.1.mono fun _ => DeliveryStatus.active_of_dispatched,
    fun step => deliveredOnce_step_iff hsound.1 hsound.2⟩

def sellerCatalogue : Catalogue where
  accounts := ["seller"]
  templates := []
  cards := []
  orders := { orders := Table.empty, events := [] }

def prepareByHand (recordId : String) (now : ℕ) : DeliveryStep Unit :=
  .prepareRecord () sellerCatalogue "seller" "chat-1"
    { receiverUserId := "buyer", content := some "code", orderId := some "1001" }
    recordId now

/-- A record that is prepared, claimed and sent. -/
theorem sent_record_delivered_once :
    ∃ state : DeliveryState Unit, state.records.rows.length = 1 ∧
      Once DeliveryStatus.isDispatched state.records := by
  have hprepare : ∀ state : DeliveryState Unit, ∀ recordId now,
      ¬ ActsBesideActive state (prepareByHand recordId now) := fun _ _ _ => id
  have hinsert : ∀ state : DeliveryState Unit, state.records.rows = [] →
      ¬ ActsBesideActive state (.insert ()) := by
    rintro state hempty ⟨draft, -, htruthy, hguard⟩
    rw [hasActiveDeliveryRecord, if_pos htruthy, hempty] at hguard
    cases hguard
  have hclaim : ∀ state : DeliveryState Unit, ∀ accountId recordId now,
      (∀ record ∈ state.records.rows, record.status ≠ .failed) →
      ¬ ActsBesideActive state (.claim accountId recordId now) := by
    rintro state accountId recordId now hnone ⟨record, hrecord, -, -, hfailed, -⟩
    exact hnone record hrecord hfailed
  refine ⟨_, ?_, (delivered_once
    (.cons ⟨hprepare _ "record-1" 1, rfl⟩ (.cons ⟨hinsert _ rfl, rfl⟩
      (.cons ⟨hclaim _ "seller" "record-1" 2 ?_, rfl⟩
        (.cons ⟨(id : ¬ ActsBesideActive _ (.update "seller" "record-1"
          { status := "sent" } 3)), rfl⟩ (.nil _)))))).1⟩
  · rfl
  · intro record hrecord hfailed
    rw [List.mem_singleton.mp hrecord] at hfailed
    cases hfailed

/-- A failed record that is claimed again after another one was sent. -/
theorem failed_record_claimed_after_sent :
    ¬ ∀ (state : DeliveryState Unit) (steps : List (DeliveryStep Unit)),
      Run (ofFunction applyDeliveryStep) DeliveryState.initial steps state →
      Once DeliveryStatus.isDispatched state.records := by
  intro honce
  have hrun := honce _
    [prepareByHand "record-1" 1, .insert (), .claim "seller" "record-1" 2,
      .update "seller" "record-1" { status := "failed" } 3,
      prepareByHand "record-2" 4, .insert (), .claim "seller" "record-2" 5,
      .update "seller" "record-2" { status := "sent" } 6,
      .claim "seller" "record-1" 7]
    (.cons rfl (.cons rfl (.cons rfl (.cons rfl (.cons rfl (.cons rfl (.cons rfl
      (.cons rfl (.cons rfl (.nil _))))))))))
  have hsame := hrun _ (List.mem_cons_self ..) _
    (List.mem_cons_of_mem _ (List.mem_cons_self ..)) rfl rfl rfl rfl rfl
  have hid : "record-1" = "record-2" := congrArg DeliveryRecord.recordId hsame
  exact absurd hid (by decide)

end XianyuAdmin.Delivery
