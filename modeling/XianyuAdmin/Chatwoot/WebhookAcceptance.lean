import XianyuAdmin.Chatwoot.ChatwootRecords
import XianyuAdmin.Core.Interruption
import XianyuAdmin.Tasks.TaskCreation

/-!
# Accepting a webhook

`accept_chatwoot_webhook` verifies a delivery against the secret of the inbox
it names, stores it under its delivery id, and creates the task that will
execute it.  The record and the task are two transactions, and the process may
stop, or raise, between any two of its operations on the database.
-/

namespace XianyuAdmin.Chatwoot

open XianyuAdmin.Procedure
open XianyuAdmin.Python
open XianyuAdmin.TaskStore

/-- One request to the webhook route, with what the process reads and meets while it
handles it. -/
structure Delivery where
  rawBody : Bytes
  signature : Option String
  timestamp : Option String
  deliveryHeader : Option String
  /-- `int(time.time())` -/
  clock : ℤ
  now : ℕ
  /-- `uuid.uuid4().hex` -/
  taskId : String
  /-- `result.queued` of the Redis enqueue; `none` when it raises. -/
  queued : Option Bool
  /-- After how many operations on the database the run is stopped, if it is. -/
  limit : Option ℕ
  /-- The process ends there; otherwise the operation raises. -/
  crashes : Bool

/-- How a run ends that does not answer. -/
inductive AcceptFailure
  | permissionError (message : String)
  | integrationError (message : String)
  | exception
  | crash
  deriving DecidableEq

/-- `ChatwootWebhookAcceptedPayload` -/
structure WebhookAnswer where
  duplicate : Bool
  deliveryId : String
  deriving DecidableEq

/-- The tables `accept_chatwoot_webhook` works on. -/
structure World where
  settings : Settings
  events : EventTable
  tasks : TaskTable

abbrev Accepting := Procedure (Counted World) AcceptFailure

variable (library : WebhookLibrary)

namespace Delivery

def stopped (delivery : Delivery) : AcceptFailure :=
  if delivery.crashes then .crash else .exception

/-- `_string(delivery_header) or f"fallback-{digest}"` -/
def deliveryId (delivery : Delivery) : String :=
  if stringOf delivery.deliveryHeader = "" then
    "fallback-" ++ library.sha256 delivery.rawBody
  else stringOf delivery.deliveryHeader

end Delivery

def cut (count : ℕ) (text : String) : String :=
  String.ofList (text.toList.take count)

/-- `delivery_id[:160]` -/
def recordKey (deliveryId : String) : String := cut 160 deliveryId

def orRaise {Value : Type} (value : Option Value) : Accepting Value :=
  match value with
  | some value => pure value
  | none => throw .exception

def chatwootWebhookTask : String := "chatwoot.process_webhook"

/-- `{"delivery_id": delivery_id[:160]}` -/
def webhookTaskPayload (deliveryId : String) : Json :=
  .obj [("delivery_id", .str (recordKey deliveryId))]

def webhookTaskRequest (mapping : Option ConversationMap) (deliveryId : String) :
    CreatePayload where
  accountId := mapping.map ConversationMap.accountId
  taskType := chatwootWebhookTask
  dedupeKey := some ("chatwoot-webhook:" ++ cut 140 deliveryId)
  payload := some (webhookTaskPayload deliveryId)
  runAfter := none

def maxWebhookBytes : ℕ := 2 * 1024 * 1024

def parseBody (rawBody : Bytes) : Except AcceptFailure Members :=
  if maxWebhookBytes < rawBody.length then
    .error (.integrationError "Webhook 请求体超过 2 MB")
  else
    match library.loads rawBody with
    | .error true => .error (.integrationError "Webhook JSON 格式无效")
    | .error false => .error .exception
    | .ok (.obj members) => .ok members
    | .ok _ => .error (.integrationError "Webhook 数据必须是 JSON 对象")

/-- The part of `accept_chatwoot_webhook` that decides whether the delivery is genuine. -/
def verifyDelivery (delivery : Delivery) : Accepting (Members × ChatwootConfig) := do
  let parsed ← answer (parseBody library delivery.rawBody)
  match ← orRaise (extractChatwootInboxId library parsed) with
  | none => throw (.permissionError "Chatwoot webhook is missing a managed inbox id")
  | some inboxId => do
      let secret ← query delivery.limit delivery.stopped fun world : World =>
        getConfigSecret library inboxId world.settings.bindings
      if truthy secret then
        let verified ← orRaise (verifyChatwootSignature library (secret.getD "")
          delivery.rawBody delivery.signature delivery.timestamp delivery.clock)
        if verified then
          let payloadAccountId ← orRaise (extractChatwootAccountId library parsed)
          match ← query delivery.limit delivery.stopped fun world : World =>
            world.settings.config with
          | none => throw (.permissionError "Chatwoot config not found")
          | some config =>
              if payloadAccountId ≠ none ∧ config.chatwootAccountId ≠ payloadAccountId then
                throw (.permissionError "Chatwoot account does not match config")
              else pure (parsed, config)
        else throw (.permissionError "invalid Chatwoot webhook signature")
      else throw (.permissionError "Chatwoot inbox is not managed by this integration")

/-- `record_webhook` as `accept_chatwoot_webhook` calls it. -/
def recordDelivery (delivery : Delivery) (parsed : Members) (world : World) :
    Except AcceptFailure (Bool × World) :=
  let eventName := string library (Json.get parsed "event")
  match recordWebhook library (recordKey (delivery.deliveryId library))
      (if eventName = "" then "unknown" else eventName)
      (library.sha256 delivery.rawBody) delivery.rawBody world.events with
  | none => .error .exception
  | some none => .ok (false, world)
  | some (some events) => .ok (true, { world with events := events })

/-- `create_background_task` with the request of the delivery. -/
def createDeliveryTask (delivery : Delivery) (mapping : Option ConversationMap)
    (world : World) : Except AcceptFailure (Option BackgroundTask × World) :=
  match (webhookTaskRequest mapping (delivery.deliveryId library)).validate with
  | none => .error .exception
  | some request =>
      match createBackgroundTask world.settings.accountList request delivery.taskId
          delivery.now world.tasks with
      | .missingAccount => .ok (none, world)
      | .existing row => .ok (some row, world)
      | .inserted row tasks => .ok (some row, { world with tasks := tasks })
      | .collision => .error .exception

/-- Pushing the task to Redis, under `except Exception`. -/
def enqueueDeliveryTask (delivery : Delivery) (task : BackgroundTask) : Accepting Unit :=
  tryCatch
    (match delivery.queued with
    | none => throw .exception
    | some false => pure ()
    | some true =>
        operation delivery.limit delivery.stopped fun world : World =>
          .ok ((), { world with tasks := markTaskQueued task.taskId delivery.now world.tasks }))
    fun failure => if failure = .crash then throw failure else pure ()

def createAndEnqueue (delivery : Delivery) (mapping : Option ConversationMap) :
    Accepting WebhookAnswer := do
  match ← operation delivery.limit delivery.stopped
      (createDeliveryTask library delivery mapping) with
  | none => throw (.integrationError "无法创建 Chatwoot Webhook 后台任务")
  | some task =>
      enqueueDeliveryTask delivery task
      pure ⟨false, recordKey (delivery.deliveryId library)⟩

/-- The part of `accept_chatwoot_webhook` behind the record of a new delivery. -/
def dispatchDelivery (delivery : Delivery) (parsed : Members) (config : ChatwootConfig) :
    Accepting WebhookAnswer := do
  let deliveryId := recordKey (delivery.deliveryId library)
  if config.enabled then
    match extractChatwootConversationId library parsed with
    | none => createAndEnqueue library delivery none
    | some remoteConversationId => do
        let mapping ← query delivery.limit delivery.stopped fun world : World =>
          getConversationMapByRemoteGlobal remoteConversationId
            world.settings.conversationMaps
        createAndEnqueue library delivery mapping
  else
    operation delivery.limit delivery.stopped fun world : World =>
      .ok ((), { world with
        events := finishWebhook deliveryId "ignored" (some "platform config disabled")
          world.events })
    pure ⟨false, deliveryId⟩

def acceptChatwootWebhook (delivery : Delivery) : Accepting WebhookAnswer := do
  let (parsed, config) ← verifyDelivery library delivery
  let created ← operation delivery.limit delivery.stopped (recordDelivery library delivery parsed)
  if created then dispatchDelivery library delivery parsed config
  else pure ⟨true, recordKey (delivery.deliveryId library)⟩

def webhookDedupeKey (deliveryId : String) : String :=
  strip ("chatwoot-webhook:" ++ cut 140 deliveryId)

theorem length_cut_le (count : ℕ) (text : String) : (cut count text).length ≤ count := by
  rw [cut, String.length_ofList, List.length_take]
  exact Nat.min_le_left _ _

/-- Nothing in front of the id is stripped. -/
theorem toList_webhookDedupeKey (deliveryId : String) :
    ∃ kept, kept.length ≤ 140 ∧
      (webhookDedupeKey deliveryId).toList = "chatwoot-webhook:".toList ++ kept := by
  obtain ⟨kept, hkept, hstrip⟩ := toList_strip_append "chatwoot-webhook:"
    (cut 140 deliveryId) (by decide) (by decide)
  exact ⟨kept, hkept.trans (length_cut_le 140 deliveryId), hstrip⟩

theorem webhookDedupeKey_ne_empty (deliveryId : String) : webhookDedupeKey deliveryId ≠ "" := by
  intro hempty
  obtain ⟨kept, -, hkept⟩ := toList_webhookDedupeKey deliveryId
  have hlength := congrArg List.length hkept
  rw [hempty, List.length_append] at hlength
  have hfront : "chatwoot-webhook:".toList.length = 17 := rfl
  rw [hfront, String.toList_empty, List.length_nil] at hlength
  omega

theorem stripOrNone_of_strip {text : String} (hstrip : strip text = text) (hne : text ≠ "") :
    stripOrNone text = some text := by
  rw [stripOrNone, hstrip, if_neg hne]

def storedRequest (mapping : Option ConversationMap) (deliveryId : String) : CreatePayload :=
  { webhookTaskRequest mapping deliveryId with
    dedupeKey := some (webhookDedupeKey deliveryId) }

theorem validate_webhookTaskRequest {mapping : Option ConversationMap}
    (haccount : ∀ row ∈ mapping, row.accountId ≠ "" ∧ strip row.accountId = row.accountId ∧
      row.accountId.length ≤ 64) (deliveryId : String) :
    (webhookTaskRequest mapping deliveryId).validate =
      some (storedRequest mapping deliveryId) := by
  obtain ⟨kept, hlength, hkept⟩ := toList_webhookDedupeKey deliveryId
  have hkeyLength : (webhookDedupeKey deliveryId).length = 17 + kept.length := by
    rw [← String.length_toList, hkept, List.length_append]
    rfl
  have hkey : normalizeString (some ("chatwoot-webhook:" ++ cut 140 deliveryId)) =
      some (webhookDedupeKey deliveryId) := by
    simp only [normalizeString, Option.bind_some, stripOrNone]
    exact if_neg (webhookDedupeKey_ne_empty deliveryId)
  have htype : stripOrNone chatwootWebhookTask = some chatwootWebhookTask := by decide
  have hid : normalizeString (mapping.map ConversationMap.accountId) =
      mapping.map ConversationMap.accountId := by
    cases mapping with
    | none => rfl
    | some row =>
        have hrow := haccount row rfl
        rw [Option.map_some, normalizeString, Option.bind_some,
          stripOrNone_of_strip hrow.2.1 hrow.1]
  have hbounds : (storedRequest mapping deliveryId).InBounds := by
    have htypeLength : chatwootWebhookTask.length ≤ 120 := by decide
    refine ⟨?_, htypeLength, ?_⟩
    · intro accountId haccountId
      obtain ⟨row, hrow, rfl⟩ := Option.map_eq_some_iff.mp haccountId
      exact (haccount row hrow).2.2
    · intro key hmem
      have hsame : webhookDedupeKey deliveryId = key := Option.some.inj hmem
      rw [← hsame, hkeyLength]
      omega
  simp only [CreatePayload.validate, webhookTaskRequest, htype, hid, hkey]
  exact if_pos hbounds

def Delivery.operationsBeforeTask (delivery : Delivery) : ℕ :=
  match parseBody library delivery.rawBody with
  | .ok parsed => if (extractChatwootConversationId library parsed).isSome then 4 else 3
  | .error _ => 3

def Delivery.ReachesTask (delivery : Delivery) : Prop :=
  Within delivery.limit (delivery.operationsBeforeTask library)

instance (delivery : Delivery) : Decidable (delivery.ReachesTask library) :=
  inferInstanceAs (Decidable (Within _ _))

def Recorded (delivery : Delivery) (world : World) (events : EventTable) : Prop :=
  (library.decode delivery.rawBody).isSome ∧
    world.events.lookup (recordKey (delivery.deliveryId library)) = none ∧
    ∀ key, (events.lookup key).isSome =
      (decide (key = recordKey (delivery.deliveryId library)) ||
        (world.events.lookup key).isSome)

/-- Everything a run on `world` can leave, and whether it answered. -/
inductive AcceptEnd (delivery : Delivery) (world : World) : Bool → World → Prop
  | rejected : AcceptEnd delivery world false world
  | duplicate
      (hstored : (world.events.lookup (recordKey (delivery.deliveryId library))).isSome) :
      AcceptEnd delivery world true world
  | recorded {events : EventTable} {answered : Bool}
      (hrecord : Recorded library delivery world events)
      (hcut : world.settings.enabled → answered = false ∧ ¬ delivery.ReachesTask library) :
      AcceptEnd delivery world answered { world with events := events }
  | found {events : EventTable} {tasks : TaskTable} {row : BackgroundTask} {answered : Bool}
      (hrecord : Recorded library delivery world events)
      (henabled : world.settings.enabled) (hreached : delivery.ReachesTask library)
      (hrow : row ∈ world.tasks.rows)
      (hkey : row.dedupeKey = some (webhookDedupeKey (delivery.deliveryId library)))
      (htasks : SameRequests world.tasks tasks) :
      AcceptEnd delivery world answered { world with events := events, tasks := tasks }
  | created {events : EventTable} {inserted tasks : TaskTable} {answered : Bool}
      {mapping : Option ConversationMap}
      (hrecord : Recorded library delivery world events)
      (henabled : world.settings.enabled) (hreached : delivery.ReachesTask library)
      (hinserted : inserted.rows = world.tasks.rows ++
        [newTask (storedRequest mapping (delivery.deliveryId library)) delivery.taskId
          delivery.now])
      (htasks : SameRequests inserted tasks) :
      AcceptEnd delivery world answered { world with events := events, tasks := tasks }

variable {library}
variable {delivery : Delivery} {world : World}

theorem ends_orRaise {Value : Type} {value : Option Value} {current : Counted World}
    {returns : Value → Counted World → Prop} {raises : AcceptFailure → Counted World → Prop} :
    Ends (orRaise value) current returns raises ↔
      match value with
      | some value => returns value current
      | none => raises .exception current := by
  cases value <;> rfl

/-- Verification reads two rows and writes nothing. -/
theorem ends_verifyDelivery :
    Ends (verifyDelivery library delivery) ⟨world, 0⟩
      (fun result after => after = ⟨world, 2⟩ ∧ world.settings.config = some result.2 ∧
        parseBody library delivery.rawBody = .ok result.1)
      (fun _ after => after.state = world) := by
  simp only [verifyDelivery, ends_bind, ends_answer]
  split
  swap
  · trivial
  rename_i parsed hparsed
  simp only [ends_orRaise]
  split
  swap
  · trivial
  split
  · exact ends_throw.mpr rfl
  simp only [ends_bind, ends_query]
  split
  swap
  · trivial
  split
  swap
  · exact ends_throw.mpr rfl
  simp only [ends_bind, ends_orRaise]
  split
  swap
  · trivial
  split
  swap
  · exact ends_throw.mpr rfl
  simp only [ends_bind, ends_orRaise]
  split
  swap
  · trivial
  simp only [ends_query]
  split
  swap
  · trivial
  split
  · exact ends_throw.mpr rfl
  · rename_i config hconfig
    split
    · exact ends_throw.mpr rfl
    · exact ends_pure.mpr ⟨rfl, hconfig, hparsed⟩

theorem ends_enqueueDeliveryTask {task : BackgroundTask} {done : ℕ} :
    Ends (enqueueDeliveryTask delivery task) ⟨world, done⟩
      (fun _ after => ∃ tasks, SameRequests world.tasks tasks ∧
        after.state = { world with tasks := tasks })
      (fun _ after => ∃ tasks, SameRequests world.tasks tasks ∧
        after.state = { world with tasks := tasks }) := by
  have hsame : ∃ tasks, SameRequests world.tasks tasks ∧
      world = { world with tasks := tasks } := ⟨_, .refl _, rfl⟩
  have hhandler : ∀ failure, Ends
      (if failure = .crash then throw failure else pure () : Accepting Unit) ⟨world, done⟩
      (fun _ after => ∃ tasks, SameRequests world.tasks tasks ∧
        after.state = { world with tasks := tasks })
      (fun _ after => ∃ tasks, SameRequests world.tasks tasks ∧
        after.state = { world with tasks := tasks }) := by
    intro failure
    split
    · exact ends_throw.mpr hsame
    · exact ends_pure.mpr hsame
  simp only [enqueueDeliveryTask, ends_tryCatch]
  split
  · exact ends_throw.mpr (hhandler _)
  · exact ends_pure.mpr hsame
  · rw [ends_operation]
    split
    · exact ⟨_, sameRequests_markTaskQueued task.taskId delivery.now world.tasks, rfl⟩
    · exact hhandler _

theorem accountId_of_mapping {settings : Settings} {mapping : ConversationMap}
    (hmapping : mapping ∈ settings.conversationMaps.rows) :
    mapping.accountId ∈ settings.accountList ∧ mapping.accountId ≠ "" ∧
      strip mapping.accountId = mapping.accountId ∧ mapping.accountId.length ≤ 64 := by
  obtain ⟨account, haccount, hid⟩ := settings.owned mapping hmapping
  refine ⟨List.mem_map.mpr ⟨account, haccount, hid⟩, ?_⟩
  rw [← hid]
  exact settings.accountIds account haccount

theorem createDeliveryTask_cases (library : WebhookLibrary) (world : World)
    {mapping : Option ConversationMap}
    (hmapping : ∀ row ∈ mapping, row ∈ world.settings.conversationMaps.rows)
    (hfresh : ∀ row ∈ world.tasks.rows, row.taskId ≠ delivery.taskId) :
    (∃ row ∈ world.tasks.rows,
        row.dedupeKey = some (webhookDedupeKey (delivery.deliveryId library)) ∧
        createDeliveryTask library delivery mapping world = .ok (some row, world)) ∨
      ∃ tasks : TaskTable, tasks.rows = world.tasks.rows ++
          [newTask (storedRequest mapping (delivery.deliveryId library)) delivery.taskId
            delivery.now] ∧
        createDeliveryTask library delivery mapping world =
          .ok (some (newTask (storedRequest mapping (delivery.deliveryId library))
            delivery.taskId delivery.now), { world with tasks := tasks }) := by
  have hvalidate := validate_webhookTaskRequest
    (fun row hrow => (accountId_of_mapping (hmapping row hrow)).2)
    (delivery.deliveryId library)
  have haccount : ∀ accountId ∈ (storedRequest mapping (delivery.deliveryId library)).accountId,
      accountId ∈ world.settings.accountList := by
    intro accountId haccountId
    obtain ⟨row, hrow, rfl⟩ := Option.map_eq_some_iff.mp haccountId
    exact (accountId_of_mapping (hmapping row hrow)).1
  have hdedupe : (storedRequest mapping (delivery.deliveryId library)).dedupeKey ≠ some "" := by
    intro hempty
    exact webhookDedupeKey_ne_empty _ (Option.some.inj hempty)
  rcases create_cases delivery.now haccount hdedupe hfresh with
    ⟨row, hrow, hkey, hcreate⟩ | ⟨tasks, htasks, hcreate⟩
  · exact .inl ⟨row, hrow, hkey, by simp only [createDeliveryTask, hvalidate, hcreate]⟩
  · exact .inr ⟨tasks, htasks, by simp only [createDeliveryTask, hvalidate, hcreate]⟩

variable {events : EventTable}

theorem ends_createAndEnqueue (mapping : Option ConversationMap)
    (hmapping : ∀ row ∈ mapping, row ∈ world.settings.conversationMaps.rows)
    (hrecord : Recorded library delivery world events) (henabled : world.settings.enabled)
    (hfresh : ∀ row ∈ world.tasks.rows, row.taskId ≠ delivery.taskId) :
    Ends (createAndEnqueue library delivery mapping)
      ⟨{ world with events := events }, delivery.operationsBeforeTask library⟩
      (fun _ after => AcceptEnd library delivery world true after.state)
      (fun _ after => AcceptEnd library delivery world false after.state) := by
  simp only [createAndEnqueue, ends_bind, ends_operation]
  split
  · rename_i hreached
    rcases createDeliveryTask_cases library { world with events := events } hmapping hfresh with
      ⟨row, hrow, hkey, hcreate⟩ | ⟨inserted, hinserted, hcreate⟩
    · simp only [hcreate, ends_bind, ends_pure]
      refine ends_enqueueDeliveryTask.mono ?_ ?_
      · rintro _ after ⟨tasks, htasks, hafter⟩
        rw [hafter]
        exact .found hrecord henabled hreached hrow hkey htasks
      · rintro _ after ⟨tasks, htasks, hafter⟩
        rw [hafter]
        exact .found hrecord henabled hreached hrow hkey htasks
    · simp only [hcreate, ends_bind, ends_pure]
      refine ends_enqueueDeliveryTask.mono ?_ ?_
      · rintro _ after ⟨tasks, htasks, hafter⟩
        rw [hafter]
        exact .created hrecord henabled hreached hinserted htasks
      · rintro _ after ⟨tasks, htasks, hafter⟩
        rw [hafter]
        exact .created hrecord henabled hreached hinserted htasks
  · rename_i hstopped
    exact .recorded hrecord fun _ => ⟨rfl, hstopped⟩

theorem Recorded.finish (hrecord : Recorded library delivery world events) (status : String)
    (error : Option String) :
    Recorded library delivery world
      (finishWebhook (recordKey (delivery.deliveryId library)) status error events) :=
  ⟨hrecord.1, hrecord.2.1, fun key =>
    (lookup_finishWebhook_isSome _ _ _ _ key).trans (hrecord.2.2 key)⟩

/-- Behind the record of a new delivery, the task is created unless the platform is
disabled or the run is stopped before. -/
theorem ends_dispatchDelivery {parsed : Members} {config : ChatwootConfig}
    (hparsed : parseBody library delivery.rawBody = .ok parsed)
    (hconfig : world.settings.config = some config)
    (hrecord : Recorded library delivery world events)
    (hfresh : ∀ row ∈ world.tasks.rows, row.taskId ≠ delivery.taskId) :
    Ends (dispatchDelivery library delivery parsed config) ⟨{ world with events := events }, 3⟩
      (fun _ after => AcceptEnd library delivery world true after.state)
      (fun _ after => AcceptEnd library delivery world false after.state) := by
  have henabled : world.settings.enabled = config.enabled := by
    simp [Settings.enabled, hconfig]
  simp only [dispatchDelivery]
  split
  · rename_i hon
    cases hconversation : extractChatwootConversationId library parsed with
    | none =>
        have hcount : delivery.operationsBeforeTask library = 3 := by
          simp [Delivery.operationsBeforeTask, hparsed, hconversation]
        rw [← hcount]
        exact ends_createAndEnqueue none (fun row hrow => by cases hrow) hrecord
          (henabled.trans hon) hfresh
    | some remoteConversationId =>
        have hcount : delivery.operationsBeforeTask library = 4 := by
          simp [Delivery.operationsBeforeTask, hparsed, hconversation]
        simp only [ends_bind, ends_query]
        split
        · have hend := ends_createAndEnqueue
            (getConversationMapByRemoteGlobal remoteConversationId
              world.settings.conversationMaps)
            (fun row hrow => Table.mem_of_lookup hrow) hrecord (henabled.trans hon) hfresh
          rwa [hcount] at hend
        · rename_i hstopped
          refine .recorded hrecord fun _ => ⟨rfl, fun hreaches => hstopped ?_⟩
          exact Within.of_le hreaches (by omega)
  · rename_i hoff
    have hdisabled : ¬ world.settings.enabled := by rwa [henabled]
    simp only [ends_bind, ends_operation]
    split
    · exact .recorded (hrecord.finish _ _) fun hon => absurd hon hdisabled
    · exact .recorded hrecord fun hon => absurd hon hdisabled

theorem recordDelivery_cases (library : WebhookLibrary) (delivery : Delivery)
    (parsed : Members) (world : World) :
    (∃ failure, recordDelivery library delivery parsed world = .error failure) ∨
      (recordDelivery library delivery parsed world = .ok (false, world) ∧
        (world.events.lookup (recordKey (delivery.deliveryId library))).isSome) ∨
      ∃ events, recordDelivery library delivery parsed world =
        .ok (true, { world with events := events }) ∧ Recorded library delivery world events := by
  simp only [recordDelivery]
  rcases recordWebhook_cases library (recordKey (delivery.deliveryId library)) _ _ _
    world.events with ⟨hanswer, hstored⟩ | hanswer | ⟨events, hanswer, hrecord⟩
  · rw [hanswer]
    exact .inr (.inl ⟨rfl, hstored⟩)
  · rw [hanswer]
    exact .inl ⟨_, rfl⟩
  · rw [hanswer]
    exact .inr (.inr ⟨events, rfl, hrecord⟩)

/-- Everything that one run of `accept_chatwoot_webhook` can do. -/
theorem ends_acceptChatwootWebhook (library : WebhookLibrary)
    (hfresh : ∀ row ∈ world.tasks.rows, row.taskId ≠ delivery.taskId) :
    Ends (acceptChatwootWebhook library delivery) ⟨world, 0⟩
      (fun _ after => AcceptEnd library delivery world true after.state)
      (fun _ after => AcceptEnd library delivery world false after.state) := by
  simp only [acceptChatwootWebhook, ends_bind]
  refine ends_verifyDelivery.mono ?_ ?_
  · rintro ⟨parsed, config⟩ after ⟨rfl, hconfig, hparsed⟩
    rw [ends_operation]
    split
    · rcases recordDelivery_cases library delivery parsed world with
        ⟨failure, hrecorded⟩ | ⟨hrecorded, hstored⟩ | ⟨events, hrecorded, hrecord⟩
      · simp only [hrecorded]
        exact .rejected
      · simp only [hrecorded]
        exact .duplicate hstored
      · simp only [hrecorded]
        exact ends_dispatchDelivery hparsed hconfig hrecord hfresh
    · exact .rejected
  · intro _ after hafter
    rw [hafter]
    exact .rejected

def ReachesRecord (library : WebhookLibrary) (delivery : Delivery) (world : World) : Prop :=
  Within delivery.limit 2 ∧
    Ends (verifyDelivery library delivery) ⟨world, 0⟩ (fun _ _ => True) (fun _ _ => False)

/-- A run that does not get to the record raises and leaves everything as it was. -/
theorem ends_accept_of_not_reachesRecord {library : WebhookLibrary}
    (hstops : ¬ ReachesRecord library delivery world) :
    Ends (acceptChatwootWebhook library delivery) ⟨world, 0⟩
      (fun _ _ => False) (fun _ after => after.state = world) := by
  simp only [acceptChatwootWebhook, ends_bind]
  by_cases hwithin : Within delivery.limit 2
  · have hraises := ends_verifyDelivery.of_not_returns fun hgenuine => hstops ⟨hwithin, hgenuine⟩
    exact hraises.mono (fun _ _ hfalse => hfalse.elim) fun _ _ hafter => hafter
  · refine ends_verifyDelivery.mono ?_ fun _ _ hafter => hafter
    rintro ⟨parsed, config⟩ after ⟨rfl, -, -⟩
    rw [ends_operation, if_neg hwithin]

end XianyuAdmin.Chatwoot
