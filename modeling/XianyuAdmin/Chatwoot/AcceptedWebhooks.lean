import XianyuAdmin.Chatwoot.WebhookAcceptance
import XianyuAdmin.Core.Transition

/-!
# No accepted webhook is lost

Chatwoot delivers webhooks and delivers them again, and between two deliveries
the settings are edited and tasks are worked on.  The state remembers which
delivery ids were answered while the platform was enabled, which of them have a
record of their own, and which of these were recorded by a run that did not get
to the task.
-/

namespace XianyuAdmin.Chatwoot.AcceptedWebhooks

open XianyuAdmin.LeaseFencing
open XianyuAdmin.Procedure
open XianyuAdmin.Python
open XianyuAdmin.TaskStore
open XianyuAdmin.Transition

/-- The tables, and the history of the deliveries by their whole ids. -/
structure State where
  world : World
  answered : List String
  /-- Stored by a run of their own. -/
  recorded : List String
  /-- Stored by a run that was stopped before the task, or while the platform was
  disabled. -/
  unfinished : List String

/-- A delivery, or what happens between deliveries. -/
inductive Label
  | deliver (delivery : Delivery)
  | edit (settings : Settings)
  | create (request : CreatePayload) (taskId : String) (now : ℕ)
  | work (taskId : String) (op : TaskOp)
  | finish (deliveryId status : String) (error : Option String)

variable (library : WebhookLibrary)

/-- One run of `accept_chatwoot_webhook`. -/
def accept (delivery : Delivery) (world : World) : Except AcceptFailure WebhookAnswer × World :=
  let ended := (acceptChatwootWebhook library delivery).outcome ⟨world, 0⟩
  (ended.1, ended.2.state)

def storesRecord (delivery : Delivery) (world next : World) : Bool :=
  !(world.events.lookup (recordKey (delivery.deliveryId library))).isSome &&
    (next.events.lookup (recordKey (delivery.deliveryId library))).isSome

def noted (happened : Bool) (id : String) (history : List String) : List String :=
  if happened then history ++ [id] else history

/-- The state after a run that left `next` and answered or not. -/
def State.after (delivery : Delivery) (answered : Bool) (next : World) (state : State) : State :=
  let id := delivery.deliveryId library
  let stores := storesRecord library delivery state.world next
  { world := next
    answered := noted (answered && state.world.settings.enabled) id state.answered
    recorded := noted stores id state.recorded
    unfinished := noted
      (stores && !(state.world.settings.enabled && decide (delivery.ReachesTask library)))
      id state.unfinished }

def State.deliver (delivery : Delivery) (state : State) : State :=
  let (answer, next) := accept library delivery state.world
  state.after library delivery answer.isOk next

def IsOther (request : CreatePayload) : Prop :=
  ∀ key ∈ request.dedupeKey, ¬ "chatwoot-webhook:".toList <+: key.toList

instance (request : CreatePayload) : Decidable (IsOther request) :=
  inferInstanceAs (Decidable (∀ key ∈ request.dedupeKey, _))

/-- The state after a step; a new task takes an id that `uuid4` has not made before. -/
def apply (state : State) : Label → Option State
  | .deliver delivery =>
      if ∀ row ∈ state.world.tasks.rows, row.taskId ≠ delivery.taskId then
        some (state.deliver library delivery)
      else none
  | .edit settings => some { state with world := { state.world with settings := settings } }
  | .create request taskId now =>
      if IsOther request then
        match createBackgroundTask state.world.settings.accountList request taskId now
            state.world.tasks with
        | .inserted _ tasks => some { state with world := { state.world with tasks := tasks } }
        | .missingAccount | .existing _ | .collision => some state
      else none
  | .work taskId op =>
      some { state with
        world := { state.world with tasks := onTable state.world.tasks taskId op } }
  | .finish deliveryId status error =>
      some { state with
        world := { state.world with
          events := finishWebhook deliveryId status error state.world.events } }

/-- No webhook has been delivered yet. -/
def start (settings : Settings) (tasks : TaskTable) : State where
  world := ⟨settings, .empty, tasks⟩
  answered := []
  recorded := []
  unfinished := []

def IsTaskOf (id : String) (row : BackgroundTask) : Prop :=
  row.taskType = chatwootWebhookTask ∧ row.payload = some (webhookTaskPayload id)

structure NeverLost (state : State) : Prop where
  record : ∀ id ∈ state.answered, id ∈ state.recorded ∧
    (state.world.events.lookup (recordKey id)).isSome
  task : ∀ id ∈ state.answered, ∃ row ∈ state.world.tasks.rows, IsTaskOf id row
  apart : ∀ left ∈ state.answered, ∀ right ∈ state.answered, left ≠ right →
    ∀ row, IsTaskOf left row → ¬ IsTaskOf right row

/-- A delivery is allowed when the platform is disabled, or when it stops before it looks
for its record.  Otherwise a record under its key was stored by a run for the same
delivery id that was neither stopped before the task nor made while the platform was
disabled; and with no such record, no other delivery with the same dedupe key got a
task. -/
def Allowed (state : State) : Label → Prop
  | .deliver delivery =>
      let id := delivery.deliveryId library
      state.world.settings.enabled → ReachesRecord library delivery state.world →
        if (state.world.events.lookup (recordKey id)).isSome then
          id ∈ state.recorded ∧ id ∉ state.unfinished
        else
          (library.decode delivery.rawBody).isSome → delivery.ReachesTask library →
            ∀ other ∈ state.recorded, other ∉ state.unfinished →
              webhookDedupeKey other ≠ webhookDedupeKey id
  | .edit _ | .create _ _ _ | .work _ _ | .finish _ _ _ => True

variable {library}

variable {delivery : Delivery} {world : World} {row : BackgroundTask} {state : State}
  {tasks : TaskTable} {id : String}

theorem acceptEnd_accept (hfresh : ∀ row ∈ world.tasks.rows, row.taskId ≠ delivery.taskId) :
    AcceptEnd library delivery world (accept library delivery world).1.isOk
      (accept library delivery world).2 := by
  have hends := ends_acceptChatwootWebhook library hfresh
  unfold Ends at hends
  unfold accept
  split at hends
  · rename_i hend
    rw [hend]
    exact hends
  · rename_i hend
    rw [hend]
    exact hends

theorem accept_of_not_reachesRecord (hstops : ¬ ReachesRecord library delivery world) :
    (accept library delivery world).1.isOk = false ∧
      (accept library delivery world).2 = world := by
  have hends := ends_accept_of_not_reachesRecord hstops
  unfold Ends at hends
  unfold accept
  split at hends
  · exact hends.elim
  · rename_i hend
    rw [hend]
    exact ⟨rfl, hends⟩

/-- The deliveries whose run of their own got to the task. -/
def State.Finished (state : State) (id : String) : Prop :=
  id ∈ state.recorded ∧ id ∉ state.unfinished

structure Sound (state : State) : Prop where
  stored : ∀ id ∈ state.recorded, (state.world.events.lookup (recordKey id)).isSome
  tasked : ∀ id, state.Finished id → ∃ row ∈ state.world.tasks.rows, IsTaskOf id row
  keyed : ∀ row ∈ state.world.tasks.rows, ∀ key, row.dedupeKey = some key →
    "chatwoot-webhook:".toList <+: key.toList →
    ∃ id, state.Finished id ∧ webhookDedupeKey id = key
  apart : ∀ left right, state.Finished left → state.Finished right →
    webhookDedupeKey left = webhookDedupeKey right → left = right
  answered : ∀ id ∈ state.answered, state.Finished id
  unfinished : ∀ id ∈ state.unfinished, id ∈ state.recorded

theorem prefix_webhookDedupeKey (id : String) :
    "chatwoot-webhook:".toList <+: (webhookDedupeKey id).toList := by
  obtain ⟨kept, -, hkept⟩ := toList_webhookDedupeKey id
  exact ⟨kept, hkept.symm⟩

theorem webhookDedupeKey_congr {left right : String} (hkey : recordKey left = recordKey right) :
    webhookDedupeKey left = webhookDedupeKey right := by
  have htake : left.toList.take 160 = right.toList.take 160 := by
    have hchars := congrArg String.toList hkey
    simpa only [recordKey, cut, String.toList_ofList] using hchars
  have hcut : cut 140 left = cut 140 right := by
    have hshort := congrArg (List.take 140) htake
    rw [List.take_take, List.take_take] at hshort
    exact congrArg String.ofList hshort
  rw [webhookDedupeKey, webhookDedupeKey, hcut]

theorem recordKey_of_isTaskOf {left right : String} (hleft : IsTaskOf left row)
    (hright : IsTaskOf right row) :
    recordKey left = recordKey right := by
  have hpayload := hleft.2.symm.trans hright.2
  simpa [webhookTaskPayload] using hpayload

/-- The invariant says that nothing was lost. -/
theorem Sound.neverLost (hsound : Sound state) : NeverLost state where
  record id hid := ⟨(hsound.answered id hid).1, hsound.stored id (hsound.answered id hid).1⟩
  task id hid := hsound.tasked id (hsound.answered id hid)
  apart left hleft right hright hne _ htaskLeft htaskRight :=
    hne (hsound.apart left right (hsound.answered left hleft) (hsound.answered right hright)
      (webhookDedupeKey_congr (recordKey_of_isTaskOf htaskLeft htaskRight)))

/-- Tasks with the same requests carry the same facts about webhooks. -/
theorem Sound.sameRequests (hsound : Sound state) (htasks : SameRequests state.world.tasks tasks) :
    Sound { state with world := { state.world with tasks := tasks } } where
  stored := hsound.stored
  tasked id hid := by
    obtain ⟨row, hrow, htype, hpayload⟩ := hsound.tasked id hid
    obtain ⟨image, himage, hsame⟩ := htasks.2 row hrow
    exact ⟨image, himage, hsame.2.2.1.trans htype, hsame.2.2.2.trans hpayload⟩
  keyed row hrow key hkey hprefix := by
    obtain ⟨origin, horigin, hsame⟩ := htasks.1 row hrow
    exact hsound.keyed origin horigin key (hsame.2.1.symm.trans hkey) hprefix
  apart := hsound.apart
  answered := hsound.answered
  unfinished := hsound.unfinished

/-- A task of another type is added. -/
theorem Sound.insert (hsound : Sound state)
    (htasks : tasks.rows = state.world.tasks.rows ++ [row])
    (hother : ∀ key, row.dedupeKey = some key → ¬ "chatwoot-webhook:".toList <+: key.toList) :
    Sound { state with world := { state.world with tasks := tasks } } where
  stored := hsound.stored
  tasked id hid := by
    obtain ⟨stored, hstored, htask⟩ := hsound.tasked id hid
    exact ⟨stored, by simp [htasks, hstored], htask⟩
  keyed stored hstored key hkey hprefix := by
    rcases List.mem_append.mp (htasks ▸ hstored) with hold | hnew
    · exact hsound.keyed stored hold key hkey hprefix
    · rw [List.mem_singleton.mp hnew] at hkey
      exact absurd hprefix (hother key hkey)
  apart := hsound.apart
  answered := hsound.answered
  unfinished := hsound.unfinished

/-- Records stay. -/
theorem Sound.events (hsound : Sound state) {events : EventTable}
    (hevents : ∀ key, (events.lookup key).isSome = (state.world.events.lookup key).isSome) :
    Sound { state with world := { state.world with events := events } } where
  stored id hid := (hevents _).trans (hsound.stored id hid)
  tasked := hsound.tasked
  keyed := hsound.keyed
  apart := hsound.apart
  answered := hsound.answered
  unfinished := hsound.unfinished

theorem sound_start (settings : Settings)
    (hother : ∀ row ∈ tasks.rows, ∀ key, row.dedupeKey = some key →
      ¬ "chatwoot-webhook:".toList <+: key.toList) :
    Sound (start settings tasks) where
  stored := fun _ hid => by cases hid
  tasked := fun _ hid => by cases hid.1
  keyed row hrow key hkey hprefix := absurd hprefix (hother row hrow key hkey)
  apart := fun _ _ hleft => by cases hleft.1
  answered := fun _ hid => by cases hid
  unfinished := fun _ hid => by cases hid

@[simp]
theorem noted_false (id : String) (history : List String) : noted false id history = history := rfl

@[simp]
theorem noted_true (id : String) (history : List String) :
    noted true id history = history ++ [id] := rfl

theorem mem_noted {happened : Bool} {other : String} {history : List String} :
    other ∈ noted happened id history ↔ other ∈ history ∨ happened = true ∧ other = id := by
  cases happened <;> simp

theorem Sound.answer (hsound : Sound state) {happened : Bool}
    (hfinished : happened = true → state.Finished id) :
    Sound { state with answered := noted happened id state.answered } where
  stored := hsound.stored
  tasked := hsound.tasked
  keyed := hsound.keyed
  apart := hsound.apart
  answered other hother := by
    rcases mem_noted.mp hother with hold | ⟨hhappened, rfl⟩
    · exact hsound.answered other hold
    · exact hfinished hhappened
  unfinished := hsound.unfinished

/-- The record of a delivery that is new. -/
theorem not_recorded (hsound : Sound state)
    (hfree : state.world.events.lookup (recordKey id) = none) : id ∉ state.recorded := by
  intro hrecorded
  have hstored := hsound.stored id hrecorded
  rw [hfree] at hstored
  cases hstored

/-- A run that stored its record and did not get to the task changes no finished
delivery. -/
theorem Sound.abandon (hsound : Sound state) {events : EventTable}
    (hfree : state.world.events.lookup (recordKey id) = none)
    (hevents : ∀ key, (events.lookup key).isSome =
      (decide (key = recordKey id) || (state.world.events.lookup key).isSome)) :
    Sound
      { state with
        world := { state.world with events := events }
        recorded := state.recorded ++ [id]
        unfinished := state.unfinished ++ [id] } := by
  have hnew := not_recorded hsound hfree
  have hfinished : ∀ other, (other ∈ state.recorded ++ [id] ∧
      other ∉ state.unfinished ++ [id]) ↔ state.Finished other := by
    intro other
    simp only [State.Finished, List.mem_append, List.mem_singleton, not_or]
    constructor
    · rintro ⟨hrecorded | hid, hopen, hother⟩
      · exact ⟨hrecorded, hopen⟩
      · exact absurd hid hother
    · rintro ⟨hrecorded, hopen⟩
      exact ⟨.inl hrecorded, hopen, fun hid => hnew (hid ▸ hrecorded)⟩
  exact
    { stored := by
        intro other hother
        rw [hevents, Bool.or_eq_true, decide_eq_true_eq]
        rcases List.mem_append.mp hother with hold | hid
        · exact .inr (hsound.stored other hold)
        · exact .inl (List.mem_singleton.mp hid ▸ rfl)
      tasked := fun other hother => hsound.tasked other ((hfinished other).mp hother)
      keyed := by
        intro row hrow key hkey hprefix
        obtain ⟨other, hother, hsame⟩ := hsound.keyed row hrow key hkey hprefix
        exact ⟨other, (hfinished other).mpr hother, hsame⟩
      apart := fun left right hleft hright =>
        hsound.apart left right ((hfinished left).mp hleft) ((hfinished right).mp hright)
      answered := fun other hother => (hfinished other).mpr (hsound.answered other hother)
      unfinished := by
        intro other hother
        rcases List.mem_append.mp hother with hold | hid
        · exact List.mem_append_left _ (hsound.unfinished other hold)
        · exact List.mem_append_right _ hid }

theorem Sound.finish (hsound : Sound state) {events : EventTable}
    (hfree : state.world.events.lookup (recordKey id) = none)
    (hevents : ∀ key, (events.lookup key).isSome =
      (decide (key = recordKey id) || (state.world.events.lookup key).isSome))
    (htasks : tasks.rows = state.world.tasks.rows ++ [row]) (htask : IsTaskOf id row)
    (hkey : row.dedupeKey = some (webhookDedupeKey id))
    (hother : ∀ other, state.Finished other → webhookDedupeKey other ≠ webhookDedupeKey id) :
    Sound
      { state with
        world := { state.world with events := events, tasks := tasks }
        recorded := state.recorded ++ [id] } := by
  have hopen : id ∉ state.unfinished := fun hid =>
    not_recorded hsound hfree (hsound.unfinished id hid)
  have hfinished : ∀ other, (other ∈ state.recorded ++ [id] ∧ other ∉ state.unfinished) ↔
      state.Finished other ∨ other = id := by
    intro other
    simp only [State.Finished, List.mem_append, List.mem_singleton]
    constructor
    · rintro ⟨hrecorded | hid, hother⟩
      · exact .inl ⟨hrecorded, hother⟩
      · exact .inr hid
    · rintro (⟨hrecorded, hother⟩ | rfl)
      · exact ⟨.inl hrecorded, hother⟩
      · exact ⟨.inr rfl, hopen⟩
  exact
    { stored := by
        intro other hmem
        rw [hevents, Bool.or_eq_true, decide_eq_true_eq]
        rcases List.mem_append.mp hmem with hold | hid
        · exact .inr (hsound.stored other hold)
        · exact .inl (List.mem_singleton.mp hid ▸ rfl)
      tasked := by
        intro other hmem
        rcases (hfinished other).mp hmem with hold | rfl
        · obtain ⟨stored, hstored, hstoredTask⟩ := hsound.tasked other hold
          exact ⟨stored, by simp [htasks, hstored], hstoredTask⟩
        · exact ⟨row, by simp [htasks], htask⟩
      keyed := by
        intro stored hstored key hstoredKey hprefix
        rcases List.mem_append.mp (htasks ▸ hstored) with hold | hnew
        · obtain ⟨other, hmem, hsame⟩ := hsound.keyed stored hold key hstoredKey hprefix
          exact ⟨other, (hfinished other).mpr (.inl hmem), hsame⟩
        · rw [List.mem_singleton.mp hnew, hkey] at hstoredKey
          exact ⟨id, (hfinished id).mpr (.inr rfl), Option.some.inj hstoredKey⟩
      apart := by
        intro left right hleft hright hsame
        rcases (hfinished left).mp hleft with holdLeft | hidLeft
        · rcases (hfinished right).mp hright with holdRight | hidRight
          · exact hsound.apart left right holdLeft holdRight hsame
          · exact absurd (hidRight ▸ hsame) (hother left holdLeft)
        · rcases (hfinished right).mp hright with holdRight | hidRight
          · exact absurd (hidLeft ▸ hsame.symm) (hother right holdRight)
          · exact hidLeft.trans hidRight.symm
      answered := fun other hmem => (hfinished other).mpr (.inl (hsound.answered other hmem))
      unfinished := fun other hmem => List.mem_append_left _ (hsound.unfinished other hmem) }

theorem storesRecord_of_recorded {events : EventTable}
    (hrecord : Recorded library delivery world events) (settings : Settings) (tasks : TaskTable) :
    storesRecord library delivery world ⟨settings, events, tasks⟩ = true := by
  simp [storesRecord, hrecord.2.1, hrecord.2.2]

theorem storesRecord_self (delivery : Delivery) (world : World) :
    storesRecord library delivery world world = false := by
  simp [storesRecord]

theorem after_rejected (delivery : Delivery) (state : State) :
    state.after library delivery false state.world = state := by
  simp only [State.after, storesRecord_self, Bool.false_and, noted_false]

/-- What one run leaves is sound, when a positive answer or a new task is covered by the
condition. -/
theorem Sound.after (hsound : Sound state) {answered : Bool} {next : World}
    (hend : AcceptEnd library delivery state.world answered next)
    (hstored : answered = true → state.world.settings.enabled →
      (state.world.events.lookup (recordKey (delivery.deliveryId library))).isSome →
      state.Finished (delivery.deliveryId library))
    (hfresh : state.world.settings.enabled → (library.decode delivery.rawBody).isSome →
      state.world.events.lookup (recordKey (delivery.deliveryId library)) = none →
      delivery.ReachesTask library → ∀ other, state.Finished other →
        webhookDedupeKey other ≠ webhookDedupeKey (delivery.deliveryId library)) :
    Sound (state.after library delivery answered next) := by
  cases hend with
  | rejected =>
      rw [after_rejected]
      exact hsound
  | duplicate hfound =>
      simp only [State.after, storesRecord_self, Bool.false_and, noted_false]
      refine hsound.answer fun henabled => hstored rfl ?_ hfound
      simpa using henabled
  | recorded hrecord hcut =>
      have hclosed : (state.world.settings.enabled &&
          decide (delivery.ReachesTask library)) = false := by
        cases henabled : state.world.settings.enabled with
        | false => rfl
        | true => simpa using (hcut henabled).2
      have hsilent : (answered && state.world.settings.enabled) = false := by
        cases henabled : state.world.settings.enabled with
        | false => simp
        | true => simpa using (hcut henabled).1
      simp only [State.after, storesRecord_of_recorded hrecord, hclosed, hsilent,
        Bool.not_false, Bool.and_true, noted_false, noted_true]
      exact hsound.abandon hrecord.2.1 hrecord.2.2
  | found hrecord henabled hreached hrow hkey htasks =>
      obtain ⟨other, hother, hsame⟩ := hsound.keyed _ hrow _ hkey (prefix_webhookDedupeKey _)
      exact absurd hsame (hfresh henabled hrecord.1 hrecord.2.1 hreached other hother)
  | created hrecord henabled hreached hinserted htasks =>
      have hother := hfresh henabled hrecord.1 hrecord.2.1 hreached
      have hfinished := (hsound.finish hrecord.2.1 hrecord.2.2 hinserted ⟨rfl, rfl⟩ rfl
        hother).sameRequests htasks
      have hopen : (state.world.settings.enabled &&
          decide (delivery.ReachesTask library)) = true := by
        simp [henabled, hreached]
      simp only [State.after, storesRecord_of_recorded hrecord, hopen, Bool.not_true,
        Bool.and_false, noted_false, noted_true]
      refine hfinished.answer fun _ => ⟨List.mem_append_right _ (List.mem_singleton_self _), ?_⟩
      exact fun hid => not_recorded hsound hrecord.2.1 (hsound.unfinished _ hid)

theorem Sound.deliver (hsound : Sound state)
    (hallowed : Allowed library state (.deliver delivery))
    (hfresh : ∀ row ∈ state.world.tasks.rows, row.taskId ≠ delivery.taskId) :
    Sound (state.deliver library delivery) := by
  by_cases hreaches : ReachesRecord library delivery state.world
  · refine hsound.after (acceptEnd_accept hfresh) ?_ ?_
    · intro _ henabled hstored
      have hcondition := hallowed henabled hreaches
      rwa [if_pos hstored] at hcondition
    · intro henabled hdecode hfree hreached other hother
      have hcondition := hallowed henabled hreaches
      rw [if_neg (by simp [hfree])] at hcondition
      exact hcondition hdecode hreached other hother.1 hother.2
  · have hstops := accept_of_not_reachesRecord hreaches
    simp only [State.deliver, hstops.1, hstops.2, after_rejected]
    exact hsound

/-- What a step that meets the condition preserves. -/
theorem sound_step {next : State} {label : Label} (hsound : Sound state)
    (hallowed : Allowed library state label) (hstep : ofPartial (apply library) state label next) :
    Sound next := by
  cases label with
  | deliver delivery =>
      simp only [ofPartial, apply] at hstep
      split at hstep
      · rename_i hfresh
        cases hstep
        exact hsound.deliver hallowed hfresh
      · cases hstep
  | edit settings =>
      cases hstep
      exact ⟨hsound.stored, hsound.tasked, hsound.keyed, hsound.apart, hsound.answered,
        hsound.unfinished⟩
  | create request taskId now =>
      simp only [ofPartial, apply] at hstep
      split at hstep
      · rename_i hother
        split at hstep
        · rename_i hcreate
          cases hstep
          have hinserted := inserted_of_create hcreate
          refine hsound.insert hinserted.2 fun key hkey => hother key ?_
          rwa [hinserted.1] at hkey
        · cases hstep
          exact hsound
        · cases hstep
          exact hsound
        · cases hstep
          exact hsound
      · cases hstep
  | work taskId op =>
      cases hstep
      exact hsound.sameRequests (sameRequests_onTable _ _ _)
  | finish deliveryId status error =>
      cases hstep
      exact hsound.events (lookup_finishWebhook_isSome _ _ _ _)

/-- No accepted webhook is lost in a run whose deliveries all meet the condition. -/
theorem never_lost (library : WebhookLibrary) {settings : Settings} {tasks : TaskTable}
    {labels : List Label} {final : State}
    (hother : ∀ row ∈ tasks.rows, ∀ key, row.dedupeKey = some key →
      ¬ "chatwoot-webhook:".toList <+: key.toList)
    (hrun : Run (restrict (ofPartial (apply library)) (Allowed library)) (start settings tasks)
      labels final) :
    NeverLost final := by
  have hsound := hrun.invariant Sound
    (fun _ _ _ hsound hstep => sound_step hsound hstep.1 hstep.2) (sound_start settings hother)
  exact hsound.neverLost

def sampleBody : Bytes := [123, 34, 105, 110, 98, 111, 120, 95, 105, 100, 34, 58, 55, 125]

def sampleSignature : String :=
  "bb63352d82ea0141d8796619c3c05b7d61ce51ea91ae681fd8d4713e20080491"

def sampleLibrary : WebhookLibrary where
  loads raw := if raw = sampleBody then .ok (.obj [("inbox_id", .int 7)]) else .error true
  decode raw := if raw = sampleBody then some "\x7b\"inbox_id\":7\x7d" else none
  encode text := text.toList.map fun char => UInt8.ofNat char.toNat
  sha256 _ := "2ee04c31d46cb273c7137d54a664f6fc5f86c352217c0d0142fb032e1a91c91d"
  hmacSha256 _ _ := sampleSignature
  isDigit text := text = "100"
  int
    | .int value => .ok value
    | .str "100" => .ok 100
    | _ => .error .notAnInteger
  str := Json.dumps
  decrypt text := some text
  loadsText _ := none
  epochSeconds _ := some none
  isTimestamp _ := true
  urlSuffix _ := some ""

def sampleSettings : Settings :=
  { Settings.empty with
    config := some ⟨true, false, 120, "https://chatwoot.example", some 1, some "token"⟩
    bindings := .singleton ⟨"account", 7, "identifier", "secret", none, none⟩ }

/-- A delivery whose process ends after `limit` operations on the database. -/
def sampleDelivery (taskId : String) (limit : Option ℕ) : Delivery where
  rawBody := sampleBody
  signature := some ("sha256=" ++ sampleSignature)
  timestamp := some "100"
  deliveryHeader := some "d-1"
  clock := 100
  now := 0
  taskId := taskId
  queued := some true
  limit := limit
  crashes := true

/-- The process ends between the record and the task; the redelivery is answered as a
duplicate, and no task is ever created. -/
theorem lost_after_crash :
    ∃ final, Run (ofPartial (apply sampleLibrary)) (start sampleSettings .empty)
        [.deliver (sampleDelivery "t-1" (some 3)), .deliver (sampleDelivery "t-2" none)] final ∧
      ¬ NeverLost final := by
  refine ⟨_, run_ofPartial_iff.mpr rfl, fun hkept => ?_⟩
  obtain ⟨row, hrow, -⟩ := hkept.task "d-1" (List.mem_singleton_self _)
  exact List.not_mem_nil hrow

/-- The same delivery without a crash has its task, also after the redelivery. -/
theorem never_lost_redelivered :
    ∃ final, Run (restrict (ofPartial (apply sampleLibrary)) (Allowed sampleLibrary))
        (start sampleSettings .empty)
        [.deliver (sampleDelivery "t-1" none), .deliver (sampleDelivery "t-2" none)] final ∧
      final.answered = ["d-1", "d-1"] ∧ NeverLost final := by
  have hruns : ∃ final, Run (restrict (ofPartial (apply sampleLibrary)) (Allowed sampleLibrary))
        (start sampleSettings .empty)
        [.deliver (sampleDelivery "t-1" none), .deliver (sampleDelivery "t-2" none)] final ∧
      final.answered = ["d-1", "d-1"] := by
    refine ⟨_, .cons ⟨?_, rfl⟩ (.cons ⟨?_, rfl⟩ (.nil _)), rfl⟩
    · intro _ _
      decide
    · intro _ _
      decide
  obtain ⟨final, hrun, hanswered⟩ := hruns
  exact ⟨final, hrun, hanswered, never_lost sampleLibrary (fun _ hrow => by cases hrow) hrun⟩
end XianyuAdmin.Chatwoot.AcceptedWebhooks
