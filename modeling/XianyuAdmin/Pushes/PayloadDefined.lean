import XianyuAdmin.Core.Returns
import XianyuAdmin.Pushes.PushPayloads

/-!
# The payloads that can be parsed

Each converter is defined on some values and raises on the others: `int` on `NaN`, infinite
floats and digits that are not decimal, `json.loads` on text it cannot represent, a loop on
what is no collection, a recursion on what is nested too deeply.  A payload can be parsed
when every converter that the parse comes to is defined on what it is applied to.
-/

namespace XianyuAdmin.Pushes

open XianyuAdmin.Messages
open XianyuAdmin.Python

variable (library : PushLibrary)

/-- `json.loads` returns, or raises a `JSONDecodeError`. -/
def Loads (text : String) : Prop :=
  ∀ error, library.loads text ≠ .error (.other error)

def IsObjectText (text : String) : Prop :=
  ∃ members, library.loads text = .ok (.obj members)

def CandidatesLoad : List String → Prop
  | [] => True
  | candidate :: rest =>
      Loads library candidate ∧ (¬IsObjectText library candidate → CandidatesLoad rest)

/-- `_decode_json_value` is defined. -/
def Decodes (value : Json) (base64Allowed : Bool) : Prop :=
  match value with
  | .str text => text ≠ "" → CandidatesLoad library (candidates library text base64Allowed)
  | _ => True

/-- `int(value)` is defined where `_as_int` calls it. -/
def IntDefined : Json → Prop
  | .float text => text ≠ "nan" ∧ text ≠ "inf" ∧ text ≠ "-inf"
  | .str text => library.isDigit text = true → (library.int text).isSome = true
  | _ => True

/-- `_as_int` finds a number. -/
def isNumber : Json → Bool
  | .bool _ | .int _ | .float _ => true
  | .str text => library.isDigit text
  | .null | .arr _ | .obj _ => false

/-- The value is a list, a string or a `dict`. -/
def isIterable : Json → Bool
  | .arr _ | .str _ | .obj _ => true
  | .null | .bool _ | .int _ | .float _ => false

variable {library}

theorem returns_firstObject_iff (texts : List String) :
    Returns (firstObject library texts) ↔ CandidatesLoad library texts := by
  induction texts with
  | nil => simp [firstObject, CandidatesLoad]
  | cons candidate rest ih =>
      unfold firstObject CandidatesLoad Loads IsObjectText
      split
      · rename_i members hloads
        simp [hloads]
      · rename_i value hvalue hloads
        simp only [hloads, reduceCtorEq, Except.ok.injEq, ne_eq, not_false_eq_true, implies_true,
          true_and, ih]
        refine ⟨fun hrest _ => hrest, fun hrest => hrest ?_⟩
        rintro ⟨members, rfl⟩
        exact hvalue members rfl
      · rename_i hloads
        simp [hloads, ih]
      · rename_i error hloads
        simp [hloads]

theorem returns_decodeJsonValue_iff (value : Json) (base64Allowed : Bool) :
    Returns (decodeJsonValue library value base64Allowed) ↔
      Decodes library value base64Allowed := by
  unfold decodeJsonValue Decodes
  split
  · simp
  · rename_i text
    by_cases hempty : text = ""
    · simp [hempty]
    · simp [hempty, returns_firstObject_iff]
  · rename_i hother hstr
    split
    · rename_i text
      exact absurd rfl (hstr text)
    · simp

theorem returns_decodeNonEmpty_iff (value : Json) :
    Returns (decodeNonEmpty library value) ↔ Decodes library value true := by
  rw [decodeNonEmpty, returns_map, returns_decodeJsonValue_iff]

theorem returns_asDict_iff (value : Json) :
    Returns (asDict library value) ↔ Decodes library value false := by
  rw [asDict, returns_map, returns_decodeJsonValue_iff]

theorem returns_intOfFloat_iff (text : String) :
    Returns (intOfFloat library text) ↔ text ≠ "nan" ∧ text ≠ "inf" ∧ text ≠ "-inf" := by
  unfold intOfFloat
  split
  · rename_i hnan
    simp [hnan]
  · rename_i hnan
    split
    · rename_i hinfinite
      rcases hinfinite with hinf | hinf <;> simp [hinf]
    · rename_i hfinite
      simp [hnan, not_or.mp hfinite]

theorem returns_asInt_iff (value : Json) :
    Returns (asInt library value) ↔ IntDefined library value := by
  cases value with
  | float text => simp only [asInt, IntDefined, returns_map, returns_intOfFloat_iff]
  | str text =>
      by_cases hdigit : library.isDigit text = true
      · cases hint : library.int text <;> simp [asInt, IntDefined, hdigit, hint]
      · simp [asInt, IntDefined, hdigit]
  | null | bool _ | int _ | arr _ | obj _ => simp [asInt, IntDefined]

/-- `_as_int` returns a number or `None`, as the value is one or not. -/
theorem isSome_of_asInt {value : Json} {number : Option ℤ}
    (hint : asInt library value = .ok number) : number.isSome = isNumber library value := by
  cases value with
  | float text =>
      simp only [asInt] at hint
      cases hfloat : intOfFloat library text with
      | error error =>
          rw [hfloat] at hint
          cases hint
      | ok found =>
          rw [hfloat] at hint
          cases hint
          rfl
  | str text =>
      simp only [asInt] at hint
      by_cases hdigit : library.isDigit text = true
      · cases hfound : library.int text with
        | none => simp [hdigit, hfound] at hint
        | some found =>
            simp only [hdigit, hfound, if_true, Option.elim_some] at hint
            cases hint
            simp [isNumber, hdigit]
      · simp only [hdigit, Bool.false_eq_true, if_false] at hint
        cases hint
        simp [isNumber, hdigit]
  | null | bool _ | int _ | arr _ | obj _ =>
      cases hint
      rfl

theorem returns_iterate_iff (value : Json) :
    Returns (iterate value) ↔ isIterable value = true := by
  cases value <;> simp [iterate, isIterable]

/-- `int(value)` of a content type raises nothing but what is caught. -/
def ContentTypeDefined (value : Json) : Prop :=
  match value with
  | .float text => text ≠ "inf" ∧ text ≠ "-inf"
  | _ => True

variable (library) in
def isTextCard (decoded : Members) : Bool :=
  isObject (Json.get decoded "textCard") &&
    (contentTypeInt library (Json.get decoded "contentType")).toOption = some (some 6)

def PicsDefined (decoded : Members) : Prop :=
  match Json.get decoded "image" with
  | .obj image => hasKey image "pics" = true → isIterable (Json.get image "pics") = true
  | _ => True

variable (library) in
def MediaDefined (decoded : Members) (urls : List String) : Prop :=
  urls = [] → equalsInt (Json.get decoded "contentType") 2 = false →
    isAudio decoded = true → IntDefined library (audioDuration (Json.get decoded "audio"))

variable (library) in
/-- `_interpret_content` is defined. -/
def ContentDefined (decoded : Members) : Prop :=
  ContentTypeDefined (Json.get decoded "contentType") ∧
    (isTextCard library decoded = false → plainContent library decoded = none →
      PicsDefined decoded ∧ ∀ pics, imagePics decoded = .ok pics →
        MediaDefined library decoded (imageUrls library decoded pics))

theorem returns_contentTypeInt_iff (value : Json) :
    Returns (contentTypeInt library value) ↔ ContentTypeDefined value := by
  cases value with
  | float text =>
      unfold contentTypeInt ContentTypeDefined intOfFloat
      by_cases hnan : text = "nan"
      · simp [hnan]
      · by_cases hinfinite : text = "inf" ∨ text = "-inf"
        · rcases hinfinite with hinf | hinf <;> simp [hinf]
        · simp [hnan, not_or.mp hinfinite]
  | null | bool _ | int _ | str _ | arr _ | obj _ => simp [contentTypeInt, ContentTypeDefined]

theorem isSome_textCardContent (decoded : Members) (contentType : Option ℤ) :
    (textCardContent library decoded contentType).isSome =
      (isObject (Json.get decoded "textCard") && contentType = some 6) := by
  unfold textCardContent
  cases Json.get decoded "textCard" with
  | obj textCard =>
      by_cases hsix : contentType = some 6
      · simp only [hsix, ne_eq, not_true_eq_false, if_false, isObject, Bool.true_and, decide_true]
        split_ifs <;> rfl
      · simp [hsix]
  | null | bool _ | int _ | float _ | str _ | arr _ => simp [isObject]

theorem isSome_of_parseTextCardContent {decoded : Members} {textCard : Option String}
    (hparse : parseTextCardContent library decoded = .ok textCard) :
    textCard.isSome = isTextCard library decoded := by
  unfold parseTextCardContent at hparse
  unfold isTextCard
  cases hint : contentTypeInt library (Json.get decoded "contentType") with
  | error error =>
      rw [hint] at hparse
      cases hparse
  | ok contentType =>
      rw [hint] at hparse
      cases hparse
      rw [isSome_textCardContent]
      simp [Except.toOption]

theorem returns_imagePics_iff (decoded : Members) :
    Returns (imagePics decoded) ↔ PicsDefined decoded := by
  unfold imagePics PicsDefined
  cases Json.get decoded "image" with
  | obj image =>
      by_cases hpics : hasKey image "pics" = true
      · simp [hpics, returns_iterate_iff]
      · simp [hpics]
  | null | bool _ | int _ | float _ | str _ | arr _ => simp

theorem returns_interpretMedia_iff (decoded fallback : Members) (urls : List String) :
    Returns (interpretMedia library decoded fallback urls) ↔
      MediaDefined library decoded urls := by
  unfold interpretMedia MediaDefined
  by_cases hurls : urls = []
  · cases htwo : equalsInt (Json.get decoded "contentType") 2 with
    | true => simp [hurls]
    | false =>
        cases haudio : isAudio decoded with
        | true => simp [hurls, returns_asInt_iff]
        | false => simp [hurls]
  · simp [hurls]

theorem returns_interpretContent_iff (decoded fallback : Members) :
    Returns (interpretContent library decoded fallback) ↔ ContentDefined library decoded := by
  have hcard : Returns (parseTextCardContent library decoded) ↔
      ContentTypeDefined (Json.get decoded "contentType") := by
    rw [parseTextCardContent, returns_map, returns_contentTypeInt_iff]
  refine returns_bind_and hcard fun textCard hparse => ?_
  have hsome := isSome_of_parseTextCardContent hparse
  cases textCard with
  | some text => simp [← hsome]
  | none =>
      cases hplain : plainContent library decoded with
      | some text => simp
      | none =>
          have hnone : isTextCard library decoded = false := hsome.symm
          refine Iff.trans ?_ ⟨fun hdefined _ _ => hdefined, fun hdefined => hdefined hnone rfl⟩
          exact returns_bind (returns_imagePics_iff decoded) fun pics _ =>
            returns_interpretMedia_iff decoded fallback (imageUrls library decoded pics)

theorem returns_interpretPushed_iff (decoded nested metadata : Members) :
    Returns (interpretPushed library decoded nested metadata) ↔
      ContentDefined library decoded := by
  rw [interpretPushed, returns_map, returns_interpretContent_iff]

variable (library) in
def NestedDefined (value : Json) (Absent : Prop) : Prop :=
  Decodes library value true ∧ ∀ decoded, decodeNonEmpty library value = .ok decoded →
    match decoded with
    | some content => ContentDefined library content
    | none => Absent

variable (library) in
/-- `_parse_push_content` is defined. -/
def PushContentDefined (messageNode : Members) : Prop :=
  match nestedContent messageNode with
  | .obj nested =>
      NestedDefined library (Json.get nested "5")
        ((Json.get nested "2").isTrue = false →
          NestedDefined library (Json.get nested "1") True)
  | _ => True

theorem returns_parsePushContent_iff (messageNode metadata : Members) :
    Returns (parsePushContent library messageNode metadata) ↔
      PushContentDefined library messageNode := by
  unfold parsePushContent PushContentDefined
  cases nestedContent messageNode with
  | obj nested =>
      refine returns_bind (returns_decodeNonEmpty_iff _) fun decoded _ => ?_
      cases decoded with
      | some content => exact returns_interpretPushed_iff content nested metadata
      | none =>
          by_cases hcard : (Json.get nested "2").isTrue = true
          · simp [hcard]
          · simp only [hcard, Bool.false_eq_true, if_false, forall_const]
            refine returns_bind (returns_decodeNonEmpty_iff _) fun decoded _ => ?_
            cases decoded with
            | some content => exact returns_interpretPushed_iff content nested metadata
            | none => simp
  | null | bool _ | int _ | float _ | str _ | arr _ => simp

variable (library) in
def hasVoice (decoded : Option Members) : Bool :=
  match Json.get (decoded.getD []) "audio" with
  | .obj audio => strip (strOrEmpty library (Json.get audio "url")) ≠ ""
  | _ => false

variable (library) in
def VoiceDefined (decoded : Option Members) : Prop :=
  hasVoice library decoded = true →
    let audio := (Json.get (decoded.getD []) "audio").asObject
    IntDefined library ((Json.get audio "sizeBytes").or (Json.get audio "size")) ∧
      IntDefined library (Json.get audio "duration")

variable (library) in
/-- The loop of `_parse_push_attachments` is defined. -/
def AttachmentsDefined (nested : Members) : List String → Prop
  | [] => True
  | key :: rest =>
      Decodes library (Json.get nested key) true ∧
        ∀ decoded, decodeJsonValue library (Json.get nested key) true = .ok decoded →
          VoiceDefined library decoded ∧
            (hasVoice library decoded = false → AttachmentsDefined nested rest)

variable (library) in
/-- `_parse_push_attachments` is defined. -/
def PushAttachmentsDefined (messageNode : Members) : Prop :=
  match nestedContent messageNode with
  | .obj nested => AttachmentsDefined library nested ["5", "1"]
  | _ => True

theorem returns_audioAttachment_iff (decoded : Option Members) :
    Returns (audioAttachment library decoded) ↔ VoiceDefined library decoded := by
  unfold audioAttachment VoiceDefined hasVoice
  cases Json.get (decoded.getD []) "audio" with
  | obj audio =>
      by_cases hurl : strip (strOrEmpty library (Json.get audio "url")) = ""
      · simp [hurl]
      · simp only [hurl, if_false, ne_eq, not_false_eq_true, decide_true, forall_const,
          Json.asObject]
        refine returns_bind_and (returns_asInt_iff _) fun _ _ => ?_
        refine (returns_bind_and (returns_asInt_iff _) fun _ _ => iff_of_true ?_ trivial).trans
          (and_iff_left trivial)
        exact returns_pure _
  | null | bool _ | int _ | float _ | str _ | arr _ => simp

theorem isSome_of_audioAttachment {decoded : Option Members}
    {attachment : Option ChatMediaAttachment}
    (haudio : audioAttachment library decoded = .ok attachment) :
    attachment.isSome = hasVoice library decoded := by
  unfold audioAttachment at haudio
  unfold hasVoice
  cases hvalue : Json.get (decoded.getD []) "audio" with
  | obj audio =>
      simp only [hvalue] at haudio ⊢
      by_cases hurl : strip (strOrEmpty library (Json.get audio "url")) = ""
      · simp only [hurl, if_true] at haudio
        cases haudio
        simp [hurl]
      · simp only [hurl, if_false] at haudio
        cases hsize : asInt library ((Json.get audio "sizeBytes").or (Json.get audio "size")) with
        | error error =>
            rw [hsize] at haudio
            cases haudio
        | ok sizeBytes =>
            rw [hsize] at haudio
            cases hduration : asInt library (Json.get audio "duration") with
            | error error =>
                rw [hduration] at haudio
                cases haudio
            | ok durationSeconds =>
                rw [hduration] at haudio
                cases haudio
                simp [hurl]
  | null | bool _ | int _ | float _ | str _ | arr _ =>
      simp only [hvalue] at haudio
      cases haudio
      rfl

theorem returns_firstAttachment_iff (nested : Members) (keys : List String) :
    Returns (firstAttachment library nested keys) ↔ AttachmentsDefined library nested keys := by
  induction keys with
  | nil => simp [firstAttachment, AttachmentsDefined]
  | cons key rest ih =>
      refine returns_bind (returns_decodeJsonValue_iff _ _) fun decoded _ => ?_
      refine returns_bind_and (returns_audioAttachment_iff decoded) fun attachment haudio => ?_
      rw [← isSome_of_audioAttachment haudio]
      cases attachment with
      | some attachment => simp
      | none => simpa using ih

theorem returns_parsePushAttachments_iff (messageNode : Members) :
    Returns (parsePushAttachments library messageNode) ↔
      PushAttachmentsDefined library messageNode := by
  unfold parsePushAttachments PushAttachmentsDefined
  cases nestedContent messageNode with
  | obj nested => exact returns_firstAttachment_iff nested _
  | null | bool _ | int _ | float _ | str _ | arr _ => simp

variable (library) in
/-- The loop of `_message_id_from_meta` is defined. -/
def MetaIdDefined (metadata : Members) : List String → Prop
  | [] => True
  | key :: rest =>
      Decodes library (Json.get metadata key) false ∧
        ∀ nested, asDict library (Json.get metadata key) = .ok nested →
          (Json.get nested "messageId").isTrue = false → MetaIdDefined metadata rest

variable (library) in
def MessageIdDefined (given : Json) (metadata : Members) : Prop :=
  given.isTrue = false → MetaIdDefined library metadata ["bizTag", "extJson"]

variable (library) in
/-- The loop of `_extract_created_at_ms` is defined. -/
def FirstIntDefined (messageNode : Members) : List String → Prop
  | [] => True
  | key :: rest =>
      IntDefined library (Json.get messageNode key) ∧
        (isNumber library (Json.get messageNode key) = false →
          FirstIntDefined messageNode rest)

variable (library) in
/-- `_extract_created_at_ms` is defined. -/
def CreatedAtDefined (messageNode : Members) : Prop :=
  FirstIntDefined library messageNode ["5", "createAt", "createdAt", "time", "timestamp"]

theorem returns_firstMessageId_iff (metadata : Members) (keys : List String) :
    Returns (firstMessageId library metadata keys) ↔ MetaIdDefined library metadata keys := by
  induction keys with
  | nil => simp [firstMessageId, MetaIdDefined]
  | cons key rest ih =>
      refine returns_bind (returns_asDict_iff _) fun nested _ => ?_
      cases hid : (Json.get nested "messageId").isTrue with
      | true => simp
      | false => simpa using ih

theorem returns_extractPushMessageId_iff (messageNode metadata : Members) :
    Returns (extractPushMessageId library messageNode metadata) ↔
      MessageIdDefined library ((Json.get messageNode "3").or (Json.get metadata "messageId"))
        metadata := by
  unfold extractPushMessageId MessageIdDefined messageIdFromMeta
  cases hgiven : ((Json.get messageNode "3").or (Json.get metadata "messageId")).isTrue with
  | true => simp [hgiven]
  | false => simp [hgiven, returns_firstMessageId_iff]

theorem returns_systemMessageId_iff (payload metadata : Members) :
    Returns (systemMessageId library payload metadata) ↔
      MessageIdDefined library (Json.get payload "3") metadata := by
  unfold systemMessageId MessageIdDefined messageIdFromMeta
  cases hgiven : (Json.get payload "3").isTrue with
  | true => simp [hgiven]
  | false => simp [hgiven, returns_firstMessageId_iff]

theorem returns_firstInt_iff (messageNode : Members) (keys : List String) :
    Returns (firstInt library messageNode keys) ↔
      FirstIntDefined library messageNode keys := by
  induction keys with
  | nil => simp [firstInt, FirstIntDefined]
  | cons key rest ih =>
      refine returns_bind_and (returns_asInt_iff _) fun number hint => ?_
      rw [← isSome_of_asInt hint]
      cases number with
      | some value => simp
      | none => simpa using ih

/-- The loop of `_extract_item_id` over a list is defined. -/
def FirstItemIdDefined (extract : Json → Except PyError (Option String)) (Defined : Json → Prop) :
    List Json → Prop
  | [] => True
  | value :: rest =>
      Defined value ∧ ∀ itemId, extract value = .ok itemId →
        itemId.bind textOrNone = none → FirstItemIdDefined extract Defined rest

/-- The loop of `_extract_item_id` over a `dict` is defined. -/
def MemberItemIdDefined (extract : Json → Except PyError (Option String))
    (Defined : Json → Prop) : Members → Prop
  | [] => True
  | (key, value) :: rest =>
      ((key = "itemId" || key = "item_id") && value.isTrue) = false →
        Defined value ∧ ∀ itemId, extract value = .ok itemId →
          itemId.bind textOrNone = none → MemberItemIdDefined extract Defined rest

variable (library) in
/-- `_extract_item_id` is defined on what it comes to. -/
def ItemIdDefined : ℕ → Json → Prop
  | 0, _ => False
  | depth + 1, .obj members =>
      MemberItemIdDefined (extractItemId library depth) (ItemIdDefined depth) members
  | depth + 1, .arr items =>
      FirstItemIdDefined (extractItemId library depth) (ItemIdDefined depth) items
  | depth + 1, .str text =>
      itemIdOfUrl library (strip text) = none →
        Decodes library (.str (strip text)) true ∧
          ∀ decoded, decodeJsonValue library (.str (strip text)) true = .ok decoded →
            ∀ members, decoded = some members → ItemIdDefined depth (.obj members)
  | _ + 1, _ => True

theorem returns_firstItemId_iff {extract : Json → Except PyError (Option String)}
    {Defined : Json → Prop} (hextract : ∀ value, Returns (extract value) ↔ Defined value)
    (values : List Json) :
    Returns (firstItemId extract values) ↔ FirstItemIdDefined extract Defined values := by
  induction values with
  | nil => simp [firstItemId, FirstItemIdDefined]
  | cons value rest ih =>
      refine returns_bind (hextract value) fun itemId _ => ?_
      cases hfound : itemId.bind textOrNone with
      | some found => simp
      | none => simpa using ih

theorem returns_firstMemberItemId_iff {extract : Json → Except PyError (Option String)}
    {Defined : Json → Prop} (hextract : ∀ value, Returns (extract value) ↔ Defined value)
    (members : Members) :
    Returns (firstMemberItemId library extract members) ↔
      MemberItemIdDefined extract Defined members := by
  induction members with
  | nil => simp [firstMemberItemId, MemberItemIdDefined]
  | cons member rest ih =>
      obtain ⟨key, value⟩ := member
      unfold firstMemberItemId MemberItemIdDefined
      cases hitem : (key = "itemId" || key = "item_id") && value.isTrue with
      | true => simp
      | false =>
          simp only [Bool.false_eq_true, if_false, forall_const]
          refine returns_bind (hextract value) fun itemId _ => ?_
          cases hfound : itemId.bind textOrNone with
          | some found => simp
          | none => simpa using ih

theorem returns_extractItemId_iff (depth : ℕ) (value : Json) :
    Returns (extractItemId library depth value) ↔ ItemIdDefined library depth value := by
  induction depth generalizing value with
  | zero => simp [extractItemId, ItemIdDefined]
  | succ depth ih =>
      cases value with
      | obj members => exact returns_firstMemberItemId_iff ih members
      | arr items => exact returns_firstItemId_iff ih items
      | str text =>
          unfold extractItemId ItemIdDefined
          cases hurl : itemIdOfUrl library (strip text) with
          | some itemId => simp
          | none =>
              simp only [forall_const]
              refine returns_bind (returns_decodeJsonValue_iff _ _) fun decoded _ => ?_
              cases decoded with
              | none => simp
              | some members => simpa using ih (.obj members)
      | null | bool _ | int _ | float _ => simp [extractItemId, ItemIdDefined]

variable (library) in
structure ChatDefined (payload messageNode : Members) : Prop where
  content : PushContentDefined library messageNode
  messageId : MessageIdDefined library
    ((Json.get messageNode "3").or (Json.get (Json.get messageNode "10").asObject "messageId"))
    (Json.get messageNode "10").asObject
  itemId : ItemIdDefined library library.recursionLimit (.obj payload)
  createdAt : CreatedAtDefined library messageNode
  attachments : PushAttachmentsDefined library messageNode

variable (library) in
structure SystemDefined (payload metadata : Members) : Prop where
  messageId : MessageIdDefined library (Json.get payload "3") metadata
  itemId : ItemIdDefined library library.recursionLimit (.obj payload)
  createdAt : CreatedAtDefined library payload

variable (library) in
/-- `_parse_push_payload` is defined. -/
def PayloadDefined (payload : Members) : Prop :=
  match Json.get payload "1", Json.get payload "4" with
  | .obj messageNode, _ =>
      stripGoofish library (Json.get messageNode "2") ≠ "" →
        ChatDefined library payload messageNode
  | .str _, .obj metadata =>
      stripGoofish library (Json.get payload "2") ≠ "" →
        SystemDefined library payload metadata
  | _, _ => True

theorem returns_parseChatMessage_iff (session : PushSession) (payload messageNode : Members) :
    Returns (parseChatMessage library session payload messageNode) ↔
      (stripGoofish library (Json.get messageNode "2") ≠ "" →
        ChatDefined library payload messageNode) := by
  unfold parseChatMessage
  by_cases hid : stripGoofish library (Json.get messageNode "2") = ""
  · simp [hid]
  · have hparts : ChatDefined library payload messageNode ↔
        PushContentDefined library messageNode ∧
          MessageIdDefined library ((Json.get messageNode "3").or
            (Json.get (Json.get messageNode "10").asObject "messageId"))
            (Json.get messageNode "10").asObject ∧
          ItemIdDefined library library.recursionLimit (.obj payload) ∧
          CreatedAtDefined library messageNode ∧
          PushAttachmentsDefined library messageNode ∧ True :=
      ⟨fun h => ⟨h.content, h.messageId, h.itemId, h.createdAt, h.attachments, trivial⟩,
        fun ⟨hcontent, hmessageId, hitemId, hcreatedAt, hattachments, _⟩ =>
          ⟨hcontent, hmessageId, hitemId, hcreatedAt, hattachments⟩⟩
    rw [if_neg hid, forall_prop_of_true hid, hparts]
    refine returns_bind_and (returns_parsePushContent_iff _ _) fun _ _ => ?_
    refine returns_bind_and (returns_extractPushMessageId_iff _ _) fun _ _ => ?_
    refine returns_bind_and (returns_extractItemId_iff _ _) fun _ _ => ?_
    refine returns_bind_and (returns_firstInt_iff _ _) fun _ _ => ?_
    refine returns_bind_and (returns_parsePushAttachments_iff _) fun _ _ => ?_
    exact iff_of_true (returns_pure _) trivial

theorem returns_parseSystemMessage_iff (session : PushSession) (payload metadata : Members) :
    Returns (parseSystemMessage library session payload metadata) ↔
      (stripGoofish library (Json.get payload "2") ≠ "" →
        SystemDefined library payload metadata) := by
  unfold parseSystemMessage
  by_cases hid : stripGoofish library (Json.get payload "2") = ""
  · simp [hid]
  · have hparts : SystemDefined library payload metadata ↔
        MessageIdDefined library (Json.get payload "3") metadata ∧
          ItemIdDefined library library.recursionLimit (.obj payload) ∧
          CreatedAtDefined library payload ∧ True :=
      ⟨fun h => ⟨h.messageId, h.itemId, h.createdAt, trivial⟩,
        fun ⟨hmessageId, hitemId, hcreatedAt, _⟩ => ⟨hmessageId, hitemId, hcreatedAt⟩⟩
    rw [if_neg hid, forall_prop_of_true hid, hparts]
    refine returns_bind_and (returns_systemMessageId_iff _ _) fun _ _ => ?_
    refine returns_bind_and (returns_extractItemId_iff _ _) fun _ _ => ?_
    refine returns_bind_and (returns_firstInt_iff _ _) fun _ _ => ?_
    exact iff_of_true (returns_pure _) trivial

theorem returns_parsePushPayload_iff (session : PushSession) (payload : Members) :
    Returns (parsePushPayload library session payload) ↔ PayloadDefined library payload := by
  unfold parsePushPayload PayloadDefined
  cases Json.get payload "1" with
  | obj messageNode => exact returns_parseChatMessage_iff session payload messageNode
  | str text =>
      cases Json.get payload "4" with
      | obj metadata => exact returns_parseSystemMessage_iff session payload metadata
      | null | bool _ | int _ | float _ | str _ | arr _ => simp
  | null | bool _ | int _ | float _ | arr _ => simp

end XianyuAdmin.Pushes
