import XianyuAdmin.Pushes.PayloadDefined
import XianyuAdmin.Pushes.PushFrames

/-!
# What a frame can do to the receiver

The parser of a frame has no handler of its own: what a converter raises on one entry takes
the other entries of the frame with it, and then the worker and the connection.  A frame is
received without that exactly if it is an object with headers, and every entry of its sync
package can be parsed.
-/

namespace XianyuAdmin.Pushes

open XianyuAdmin.Messages (tabulated)
open XianyuAdmin.Python

variable {library : PushLibrary} {session : PushSession}

variable (library) in
/-- `_decode_sync_data` is defined. -/
def DataDefined (data : Json) : Prop :=
  Decodes library data true ∧
    ∀ text decrypted, data = .str text → decodeJsonValue library data true = .ok none →
      library.decrypt text = some decrypted → Decodes library (.str decrypted) false

variable (library) in
def EntryDefined (entry : Json) : Prop :=
  DataDefined library (entryData entry) ∧
    ∀ payload, decodeSyncData library (entryData entry) = .ok (some payload) →
      PayloadDefined library payload

/-- The value is a list or a string. -/
def isSliceable : Json → Bool
  | .arr _ | .str _ => true
  | .null | .bool _ | .int _ | .float _ | .obj _ => false

def entriesOf (frame : Members) : List Json :=
  (iterate (syncEntries frame)).toOption.getD []

variable (library session) in
def entryEvents (frame : Members) : List ChatMessageEvent :=
  (entriesOf frame).filterMap (foundIn (parseEntry library session))

theorem returns_decrypt_iff (text : String) (decoded : Option Members) :
    Returns (match decoded with
      | some members => pure (some members)
      | none =>
          match library.decrypt text with
          | none => pure none
          | some decrypted => decodeJsonValue library (.str decrypted) false) ↔
      (decoded = none → ∀ decrypted, library.decrypt text = some decrypted →
        Decodes library (.str decrypted) false) := by
  cases decoded with
  | some members => simp
  | none =>
      cases hdecrypt : library.decrypt text with
      | none => simp
      | some decrypted => simp [returns_decodeJsonValue_iff]

theorem returns_decodeSyncData_iff (data : Json) :
    Returns (decodeSyncData library data) ↔ DataDefined library data := by
  unfold decodeSyncData DataDefined
  cases data with
  | str text =>
      refine (returns_bind (returns_decodeJsonValue_iff _ _) fun decoded _ =>
        returns_decrypt_iff text decoded).trans ?_
      · refine and_congr_right fun _ => ⟨fun hrest found decrypted htext hnone => ?_, ?_⟩
        · cases htext
          exact hrest none hnone rfl decrypted
        · rintro hrest _ hnone rfl decrypted
          exact hrest text decrypted rfl hnone
  | null | bool _ | int _ | float _ | arr _ | obj _ => simp [Decodes]

theorem returns_parseDecoded_iff (decoded : Option Members) :
    Returns (match decoded with
      | none => pure none
      | some payload => parsePushPayload library session payload) ↔
      ∀ payload, decoded = some payload → PayloadDefined library payload := by
  cases decoded with
  | none => simp
  | some payload => simp [returns_parsePushPayload_iff]

theorem returns_parseEntry_iff (entry : Json) :
    Returns (parseEntry library session entry) ↔ EntryDefined library entry := by
  refine (returns_bind (returns_decodeSyncData_iff _) fun decoded _ =>
    returns_parseDecoded_iff decoded).trans ?_
  · refine and_congr_right fun _ => ⟨fun hrest payload hdecode => ?_, ?_⟩
    · exact hrest _ hdecode payload rfl
    · rintro hrest _ hdecode payload rfl
      exact hrest payload hdecode

theorem parseEntry_eq_findNext :
    parseEntry library session =
      findNext (fun entry => decodeSyncData library (entryData entry))
        (parsePushPayload library session) := by
  funext entry
  simp only [parseEntry, findNext]
  exact bind_congr fun decoded => by cases decoded <;> rfl

theorem parseChatEvents_eq_ok_iff {frame : Members} {events : List ChatMessageEvent} :
    parseChatEvents library session frame = .ok events ↔
      isIterable (syncEntries frame) = true ∧
        (∀ entry ∈ entriesOf frame, EntryDefined library entry) ∧
        events = entryEvents library session frame := by
  have hiterable := returns_iterate_iff (syncEntries frame)
  simp only [parseChatEvents, extractSyncPayloads, entriesOf, entryEvents]
  cases hentries : iterate (syncEntries frame) with
  | error error =>
      rw [hentries] at hiterable
      refine iff_of_false ?_ fun h => not_returns_error _ (hiterable.mpr h.1)
      exact fun hreturns => nomatch hreturns
  | ok entries =>
      rw [hentries] at hiterable
      have hloop : (collect (fun entry => decodeSyncData library (entryData entry)) entries >>=
          collect (parsePushPayload library session)) = .ok events ↔ _ :=
        collect_bind_collect_iff
      refine (hloop.trans collect_eq_ok_iff).trans ?_
      simp only [← parseEntry_eq_findNext, returns_parseEntry_iff, hiterable.mp (returns_ok _),
        true_and, Except.toOption, Option.getD_some]

variable {receiver : Receiver} {raw : String} {frame : Members}

def HeadersReadable : Json → Prop
  | .obj frame =>
      (Json.get frame "headers").isTrue = true → isObject (Json.get frame "headers") = true
  | _ => False

variable (library) in
def FrameDefined (frame : Members) : Prop :=
  isSliceable (syncEntries frame) = true ∧
    ∀ entry ∈ entriesOf frame, EntryDefined library entry

variable (library) in
def RawDefined (receiver : Receiver) (raw : String) : Prop :=
  ∀ frame, library.loads raw = .ok frame →
    HeadersReadable frame ∧
      (resolvesPending library receiver.isPending frame.asObject = false →
        receiver.hasCallback = true → FrameDefined library frame.asObject)

variable (library session) in
structure IsTotal (receiver : Receiver) (raw : String) : Prop where
  receives : ∀ sent error,
    handleRawMessage library receiver raw sent ≠ .error (.raised error)
  processes : ∀ sent frame,
    handleRawMessage library receiver raw sent = .ok (.processes frame) ∨
        handleRawMessage library receiver raw sent = .ok (.queues frame) →
      ∀ waits,
        (∀ error, (processPushFrame library session frame waits).2 ≠ .raised error) ∧
          (waits.parseCancelled = false → (∀ index, waits.callback index ≠ .cancelled) →
            (processPushFrame library session frame waits).1 =
              entryEvents library session frame)

theorem returns_ackFrame_iff (generatedMid : String) (frame : Json) :
    Returns (ackFrame generatedMid frame) ↔ HeadersReadable frame := by
  rw [ackFrame, returns_map]
  cases frame with
  | obj frame =>
      unfold ackHeaders HeadersReadable
      by_cases htrue : (Json.get frame "headers").isTrue = true
      · simp only [htrue, if_true, forall_const]
        cases Json.get frame "headers" <;> simp [isObject]
      · simp [htrue]
  | null | bool _ | int _ | float _ | str _ | arr _ => simp [ackHeaders, HeadersReadable]

theorem returns_pushFrameSummary_iff (frame : Members) :
    Returns (pushFrameSummary frame) ↔ isSliceable (syncEntries frame) = true := by
  rw [pushFrameSummary, returns_map]
  cases syncEntries frame <;> simp [firstEntries, isSliceable]

theorem isIterable_of_isSliceable {value : Json} (hvalue : isSliceable value = true) :
    isIterable value = true := by
  cases value <;> first | rfl | exact hvalue

theorem handEvents_ne_raised (callback : ℕ → CallbackEnd) (index : ℕ)
    (events : List ChatMessageEvent) (error : PyError) :
    (handEvents callback index events).2 ≠ .raised error := by
  induction events generalizing index with
  | nil => simp [handEvents]
  | cons event rest ih =>
      by_cases hcancelled : callback index = .cancelled
      · simp [handEvents, hcancelled]
      · simpa [handEvents, hcancelled] using ih (index + 1)

theorem handEvents_of_uncancelled {callback : ℕ → CallbackEnd}
    (huncancelled : ∀ index, callback index ≠ .cancelled) (index : ℕ)
    (events : List ChatMessageEvent) :
    (handEvents callback index events).1 = events := by
  induction events generalizing index with
  | nil => rfl
  | cons event rest ih => simp [handEvents, huncancelled index, ih (index + 1)]

theorem processPushFrame_of_defined (hframe : FrameDefined library frame) (waits : PushWaits) :
    processPushFrame library session frame waits =
      if waits.parseCancelled then ([], .cancelled)
      else handEvents waits.callback 0 (entryEvents library session frame) := by
  obtain ⟨summary, hsummary⟩ := (returns_pushFrameSummary_iff frame).mpr hframe.1
  have hparse : parseChatEvents library session frame =
      .ok (entryEvents library session frame) :=
    parseChatEvents_eq_ok_iff.mpr ⟨isIterable_of_isSliceable hframe.1, hframe.2, rfl⟩
  simp only [processPushFrame, hsummary, hparse]

theorem defined_of_processPushFrame {waits : PushWaits} (hwaits : waits.parseCancelled = false)
    (hprocess : ∀ error, (processPushFrame library session frame waits).2 ≠ .raised error) :
    FrameDefined library frame := by
  unfold processPushFrame at hprocess
  cases hsummary : pushFrameSummary frame with
  | error error =>
      rw [hsummary] at hprocess
      exact absurd rfl (hprocess error)
  | ok summary =>
      cases hparse : parseChatEvents library session frame with
      | error error =>
          rw [hsummary, hwaits, hparse] at hprocess
          exact absurd rfl (hprocess error)
      | ok events =>
          exact ⟨(returns_pushFrameSummary_iff frame).mp ⟨summary, hsummary⟩,
            (parseChatEvents_eq_ok_iff.mp hparse).2.1⟩

theorem handleRawMessage_cases (receiver : Receiver)
    (hreadable : ∀ loaded, library.loads raw = .ok loaded → HeadersReadable loaded) (sent : Except Orders.Interruption Unit) :
    handleRawMessage library receiver raw sent = .ok .ignored ∨
      ∃ loaded, library.loads raw = .ok loaded ∧
        handleRawMessage library receiver raw sent =
          (sent.mapError HandleError.transport).map fun _ =>
            dispatchFrame library receiver loaded.asObject := by
  unfold handleRawMessage
  cases hloads : library.loads raw with
  | error error => exact .inl rfl
  | ok loaded =>
      obtain ⟨acknowledgement, hack⟩ :=
        (returns_ackFrame_iff receiver.generatedMid loaded).mpr (hreadable loaded hloads)
      refine .inr ⟨loaded, rfl, ?_⟩
      simp only [hack]
      cases sent <;> rfl

theorem readable_of_handleRawMessage {loaded : Json} (hloads : library.loads raw = .ok loaded)
    (hreceives : ∀ error,
      handleRawMessage library receiver raw (.ok ()) ≠ .error (.raised error)) :
    HeadersReadable loaded := by
  refine (returns_ackFrame_iff receiver.generatedMid loaded).mp ?_
  unfold handleRawMessage at hreceives
  rw [hloads] at hreceives
  cases hack : ackFrame receiver.generatedMid loaded with
  | ok acknowledgement => exact returns_ok acknowledgement
  | error error =>
      simp only [hack] at hreceives
      exact absurd rfl (hreceives error)

/-- A frame comes to a worker or to the receiver itself, if it answers no request and there
is a callback. -/
theorem dispatchFrame_iff (loaded : Members) :
    (dispatchFrame library receiver loaded = .processes frame ∨
        dispatchFrame library receiver loaded = .queues frame) ↔
      resolvesPending library receiver.isPending loaded = false ∧
        receiver.hasCallback = true ∧ loaded = frame := by
  unfold dispatchFrame
  cases resolvesPending library receiver.isPending loaded <;>
    cases receiver.hasCallback <;> cases receiver.hasWorkers <;> simp

/-- The receiver and the workers survive a frame, and no entry suppresses the events of
another one, exactly if the frame has readable headers and entries that can be parsed. -/
theorem push_total_iff :
    IsTotal library session receiver raw ↔ RawDefined library receiver raw := by
  constructor
  · intro htotal loaded hloads
    have hreadable := readable_of_handleRawMessage hloads (htotal.receives (.ok ()))
    refine ⟨hreadable, fun hresolves hcallback => ?_⟩
    have hdispatch := (dispatchFrame_iff loaded.asObject).mpr ⟨hresolves, hcallback, rfl⟩
    obtain ⟨acknowledgement, hack⟩ :=
      (returns_ackFrame_iff receiver.generatedMid loaded).mpr hreadable
    have hhandled : handleRawMessage library receiver raw (.ok ()) =
        .ok (dispatchFrame library receiver loaded.asObject) := by
      simp only [handleRawMessage, hloads, hack]
    have hprocess := htotal.processes (.ok ()) loaded.asObject
      (by simpa only [hhandled, Except.ok.injEq] using hdispatch) ⟨false, fun _ => .returned⟩
    exact defined_of_processPushFrame rfl hprocess.1
  · intro hdefined
    have hcases := handleRawMessage_cases receiver fun loaded hloads => (hdefined loaded hloads).1
    constructor
    · intro sent error
      rcases hcases sent with hignored | ⟨loaded, -, hhandled⟩
      · rw [hignored]
        exact nofun
      · rw [hhandled]
        cases sent <;> exact nofun
    · intro sent frame hframe waits
      have hreaches : FrameDefined library frame := by
        rcases hcases sent with hignored | ⟨loaded, hloads, hhandled⟩
        · simp [hignored] at hframe
        · cases sent with
          | error interruption => simp [hhandled, Except.map, Except.mapError] at hframe
          | ok sent =>
              rw [hhandled] at hframe
              have hdispatch : dispatchFrame library receiver loaded.asObject = .processes frame ∨
                  dispatchFrame library receiver loaded.asObject = .queues frame := by
                simpa [Except.map, Except.mapError] using hframe
              obtain ⟨hresolves, hcallback, rfl⟩ := (dispatchFrame_iff _).mp hdispatch
              exact (hdefined loaded hloads).2 hresolves hcallback
      rw [processPushFrame_of_defined hreaches waits]
      constructor
      · intro error
        cases waits.parseCancelled with
        | true => exact nofun
        | false => exact handEvents_ne_raised _ _ _ error
      · intro hparse huncancelled
        rw [hparse]
        exact handEvents_of_uncancelled huncancelled _ _

/-- A text with two entries, of which the first has `NaN` for its instant. -/
def nanText : String :=
  "\x7b\"body\":\x7b\"syncPushPackage\":\x7b\"data\":[" ++
    "\x7b\"data\":\x7b\"1\":\x7b\"2\":\"chat\",\"5\":NaN\x7d\x7d\x7d," ++
    "\x7b\"data\":\x7b\"1\":\x7b\"2\":\"chat\",\"10\":\x7b\"reminderContent\":\"hi\"" ++
    "\x7d\x7d\x7d\x7d]\x7d\x7d\x7d"

def nanEntry : Json :=
  .obj [("data", .obj [("1", .obj [("2", .str "chat"), ("5", .float "nan")])])]

def greetingEntry : Json :=
  .obj [("data", .obj
    [("1", .obj [("2", .str "chat"), ("10", .obj [("reminderContent", .str "hi")])])])]

def nanFrame : Members :=
  [("body", .obj [("syncPushPackage", .obj [("data", .arr [nanEntry, greetingEntry])])])]

def nanLibrary : PushLibrary where
  loads text := if text = nanText then .ok (.obj nanFrame) else .error .jsonDecodeError
  base64Text _ := none
  decrypt _ := none
  str _ := ""
  isDigit _ := false
  int _ := none
  truncate _ := 0
  query _ := some []
  plainText := id
  texts := tabulated []
  recursionLimit := 900

def nanReceiver : Receiver where
  generatedMid := "1 0"
  isPending _ := false
  hasCallback := true
  hasWorkers := true

def nanSession : PushSession where
  accountId := "account"
  myId := "2200"

/-- The instant of one entry suppresses the greeting in another and ends the worker. -/
theorem nan_instant_suppresses_greeting :
    handleRawMessage nanLibrary nanReceiver nanText (.ok ()) = .ok (.queues nanFrame) ∧
      (entryEvents nanLibrary nanSession nanFrame).map (·.content) = ["hi"] ∧
      processPushFrame nanLibrary nanSession nanFrame ⟨false, fun _ => .returned⟩ =
        ([], .raised .valueError) ∧
      ¬IsTotal nanLibrary nanSession nanReceiver nanText := by
  have hqueues : handleRawMessage nanLibrary nanReceiver nanText (.ok ()) =
      .ok (.queues nanFrame) := by
    simp only [handleRawMessage, nanLibrary, if_true]
    rfl
  have hraises : processPushFrame nanLibrary nanSession nanFrame ⟨false, fun _ => .returned⟩ =
      ([], .raised .valueError) := by
    rfl
  refine ⟨hqueues, by rfl, hraises, fun htotal => ?_⟩
  have hprocess := (htotal.processes _ nanFrame (.inr hqueues) ⟨false, fun _ => .returned⟩).1
  rw [hraises] at hprocess
  exact hprocess .valueError rfl

end XianyuAdmin.Pushes
