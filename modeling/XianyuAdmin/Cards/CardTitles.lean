import XianyuAdmin.Cards.CardParser

/-!
# Titles and keys of parsed cards

A parsed title is missing or has text, because a scalar of a payload is stripped and a number
is printed as some text.  The cards of one message have different keys.
-/

namespace XianyuAdmin

/-- A value whose numbers are printed as some text. -/
inductive Json.Printed : Json → Prop
  | null : Json.Printed .null
  | bool (value : Bool) : Json.Printed (.bool value)
  | int (value : ℤ) : Json.Printed (.int value)
  | float {text : String} (hne : text ≠ "") : Json.Printed (.float text)
  | str (text : String) : Json.Printed (.str text)
  | arr {items : List Json} (hitems : ∀ item ∈ items, Json.Printed item) :
      Json.Printed (.arr items)
  | obj {members : List (String × Json)} (hmembers : ∀ member ∈ members, Json.Printed member.2) :
      Json.Printed (.obj members)

namespace Cards

open XianyuAdmin.Python

/-- The decoders of the standard library: what `json.loads` returns is printed. -/
structure JsonDecoders extends Decoders where
  printed : ∀ text value, loads text = some value → value.Printed

def PrintedMembers (node : Members) : Prop := ∀ member ∈ node, member.2.Printed

theorem printed_get {node : Members} (hnode : PrintedMembers node) (name : String) :
    (Json.get node name).Printed := by
  cases hfound : node.find? fun member => member.1 = name with
  | none => simpa [Json.get, hfound] using Json.Printed.null
  | some member => simpa [Json.get, hfound] using hnode member (List.mem_of_find?_eq_some hfound)

theorem printed_asObject {value : Json} (hvalue : value.Printed) : PrintedMembers value.asObject := by
  cases hvalue with
  | obj hmembers => exact hmembers
  | _ => exact fun member hmem => absurd hmem List.not_mem_nil

theorem normalizeScalar_ne_empty {value : Json} (hvalue : value.Printed) :
    normalizeScalar value ≠ some "" := by
  cases hvalue with
  | null => exact fun hempty => by cases hempty
  | bool value => cases value <;> decide
  | int value =>
      intro hempty
      have hchars := congrArg String.toList (Option.some.inj hempty)
      cases value with
      | ofNat count => simp [toString, Int.repr] at hchars
      | negSucc count => simp [toString, Int.repr] at hchars
  | float hne => exact fun hempty => hne (Option.some.inj hempty)
  | str text =>
      intro hempty
      simp only [normalizeScalar, stripOrNone] at hempty
      split at hempty
      · cases hempty
      · rename_i hne
        exact hne (Option.some.inj hempty)
  | arr _ => exact fun hempty => by cases hempty
  | obj _ => exact fun hempty => by cases hempty

section Walk

variable (decoders : JsonDecoders)

theorem printed_decodeEmbeddedValue {value : Json} (hvalue : value.Printed) :
    (decodeEmbeddedValue decoders.toDecoders value).Printed := by
  cases hvalue with
  | str text =>
      have hmaybe : ∀ found, maybeJson decoders.toDecoders text = some found → found.Printed := by
        intro found hfound
        simp only [maybeJson] at hfound
        split at hfound
        · exact decoders.printed _ _ hfound
        · cases hfound
      have hbase : ∀ found, base64Json decoders.toDecoders (strip text) = some found →
          found.Printed := by
        intro found hfound
        simp only [base64Json] at hfound
        split at hfound
        · cases hfound
        · obtain ⟨decoded, -, hloaded⟩ := Option.bind_eq_some_iff.mp hfound
          split at hloaded
          · exact decoders.printed _ _ hloaded
          · cases hloaded
      rw [decodeEmbeddedValue]
      cases hfirst : maybeJson decoders.toDecoders text with
      | some found => exact hmaybe found hfirst
      | none =>
          cases hsecond : base64Json decoders.toDecoders (strip text) with
          | some found => exact hbase found hsecond
          | none => exact .str text
  | null => exact .null
  | bool value => exact .bool value
  | int value => exact .int value
  | float hne => exact .float hne
  | arr hitems => exact .arr hitems
  | obj hmembers => exact .obj hmembers

theorem printed_of_mem_walkFrom {levels : ℕ} {value found : Json} (hvalue : value.Printed)
    (hfound : found ∈ walkFrom decoders.toDecoders levels value) : found.Printed := by
  induction levels generalizing value with
  | zero => exact absurd hfound List.not_mem_nil
  | succ levels ih =>
      have hdecoded := printed_decodeEmbeddedValue decoders hvalue
      rw [walkFrom] at hfound
      rcases List.mem_cons.mp hfound with rfl | hbelow
      · exact hdecoded
      · cases hdecoded' : decodeEmbeddedValue decoders.toDecoders value with
        | obj members =>
            rw [hdecoded'] at hdecoded hbelow
            obtain ⟨member, hmember, hwalk⟩ := List.mem_flatMap.mp hbelow
            cases hdecoded with
            | obj hmembers => exact ih (hmembers member hmember) hwalk
        | arr items =>
            rw [hdecoded'] at hdecoded hbelow
            obtain ⟨item, hitem, hwalk⟩ := List.mem_flatMap.mp hbelow
            cases hdecoded with
            | arr hitems => exact ih (hitems item hitem) hwalk
        | null => rw [hdecoded'] at hbelow; exact absurd hbelow List.not_mem_nil
        | bool _ => rw [hdecoded'] at hbelow; exact absurd hbelow List.not_mem_nil
        | int _ => rw [hdecoded'] at hbelow; exact absurd hbelow List.not_mem_nil
        | float _ => rw [hdecoded'] at hbelow; exact absurd hbelow List.not_mem_nil
        | str _ => rw [hdecoded'] at hbelow; exact absurd hbelow List.not_mem_nil

theorem printed_of_mem_dictNodes {value : Json} (hvalue : value.Printed) {node : Members}
    (hnode : node ∈ dictNodes decoders.toDecoders value) : PrintedMembers node := by
  obtain ⟨found, hfound, hmembers⟩ := List.mem_filterMap.mp hnode
  have hprinted := printed_of_mem_walkFrom decoders hvalue hfound
  cases hprinted with
  | obj hall =>
      cases hmembers
      exact hall
  | _ => cases hmembers

end Walk

theorem firstValue_ne_empty {node : Members} (hnode : PrintedMembers node) (keys : List String) :
    firstValue node keys ≠ some "" := by
  intro hempty
  obtain ⟨key, -, hvalue⟩ := List.exists_of_findSome?_eq_some hempty
  obtain ⟨actual, -, hscalar⟩ := Option.bind_eq_some_iff.mp hvalue
  exact normalizeScalar_ne_empty (printed_get hnode actual) hscalar

theorem title_parseDictNode {orders : KeyOrders} {node : Members} (hnode : PrintedMembers node)
    {card : ParsedMessageCard} (hcard : parseDictNode orders node = some card) :
    card.title ≠ some "" := by
  have htitle : card.title = firstValue node orders.title := by
    simp only [parseDictNode] at hcard
    split at hcard
    · cases hcard
    · split at hcard
      · cases hcard
        rfl
      · split at hcard
        · cases hcard
          rfl
        · cases hcard
  rw [htitle]
  exact firstValue_ne_empty hnode _

section Events

variable (decoders : JsonDecoders)

/-- The loop of `_nested_value`. -/
theorem printed_foldl_get {keys : List String} {current : Option Json} {found : Json}
    (hcurrent : ∀ value, current = some value → value.Printed)
    (hfound : keys.foldl (fun current key => current.bind fun found =>
      match found with
      | .obj members => some (Json.get members key)
      | _ => none) current = some found) : found.Printed := by
  induction keys generalizing current with
  | nil => exact hcurrent found hfound
  | cons key rest ih =>
      refine ih ?_ hfound
      intro next hnext
      obtain ⟨value, hvalue, hmember⟩ := Option.bind_eq_some_iff.mp hnext
      have hprinted := hcurrent value hvalue
      cases hprinted with
      | obj hmembers =>
          cases hmember
          exact printed_get hmembers key
      | _ => cases hmember

theorem printed_nestedValue {value found : Json} (hvalue : value.Printed) {keys : List String}
    (hfound : nestedValue value keys = some found) : found.Printed :=
  printed_foldl_get (fun _ hother => Option.some.inj hother ▸ hvalue) hfound

theorem printed_nestedDict {value : Json} (hvalue : value.Printed) (keys : List String) :
    PrintedMembers (nestedDict value keys) := by
  rw [nestedDict]
  cases hnested : nestedValue value keys with
  | none => exact printed_asObject .null
  | some found => exact printed_asObject (printed_nestedValue hvalue hnested)

theorem printed_getD {found : Option Members}
    (hfound : ∀ members, found = some members → PrintedMembers members) :
    PrintedMembers (found.getD []) := by
  cases found with
  | none => exact fun member hmem => absurd hmem List.not_mem_nil
  | some members => exact hfound members rfl

theorem printed_findCustom {payload : Json} (hpayload : payload.Printed) :
    PrintedMembers (findCustom decoders.toDecoders payload) := by
  refine printed_getD fun custom hfound => ?_
  obtain ⟨node, hnode, hcustom⟩ := List.exists_of_findSome?_eq_some hfound
  have hprinted := printed_get (printed_of_mem_dictNodes decoders hpayload hnode) "custom"
  cases hvalue : Json.get node "custom" with
  | obj members =>
      rw [hvalue] at hcustom hprinted
      simp only at hcustom
      split at hcustom
      · cases hcustom
        exact printed_asObject hprinted
      · cases hcustom
  | _ => rw [hvalue] at hcustom; cases hcustom

theorem printed_decodeCustomData {value : Json} (hvalue : value.Printed) :
    PrintedMembers (decodeCustomData decoders.toDecoders value) := by
  have hloose : ∀ text, PrintedMembers
      ((((decoders.decodeLoose (strip text)).bind decoders.loads).map Json.asObject).getD []) := by
    intro text
    cases hloaded : (decoders.decodeLoose (strip text)).bind decoders.loads with
    | none => exact fun member hmem => absurd hmem List.not_mem_nil
    | some found =>
        obtain ⟨decoded, -, hfound⟩ := Option.bind_eq_some_iff.mp hloaded
        exact printed_asObject (decoders.printed _ _ hfound)
  cases hvalue with
  | obj hmembers => exact hmembers
  | str text =>
      rw [decodeCustomData]
      cases hmaybe : maybeJson decoders.toDecoders text with
      | none => exact hloose text
      | some found =>
          have hprinted : found.Printed := by
            simp only [maybeJson] at hmaybe
            split at hmaybe
            · exact decoders.printed _ _ hmaybe
            · cases hmaybe
          cases hprinted with
          | obj hmembers => exact hmembers
          | _ => exact hloose text
  | _ => exact fun member hmem => absurd hmem List.not_mem_nil

theorem printed_eventPayload {payload read : Json} (hpayload : payload.Printed)
    (hread : eventPayload decoders.toDecoders payload = some read) : read.Printed := by
  cases hpayload with
  | obj hmembers =>
      cases hread
      exact .obj hmembers
  | str text =>
      rw [eventPayload, Option.filter_eq_some_iff] at hread
      have hmaybe := hread.1
      simp only [maybeJson] at hmaybe
      split at hmaybe
      · exact decoders.printed _ _ hmaybe
      · cases hmaybe
  | _ => cases hread

theorem title_orderCard (links : Links) (orders : KeyOrders) (content : String)
    (fallbackItemId fallbackPeerUserId : Option String) {payload : Json}
    (hpayload : payload.Printed) {event : ParsedOrderEvent}
    (hevent : parseOrderEvent decoders.toDecoders links orders payload content fallbackItemId
      fallbackPeerUserId = some event) :
    (orderCard event).title ≠ some "" := by
  obtain ⟨read, hread, horder⟩ := Option.bind_eq_some_iff.mp hevent
  have hprinted := printed_eventPayload decoders hpayload hread
  obtain ⟨-, hfields⟩ := Option.ite_none_left_eq_some.mp horder
  have htitle : event.title =
      normalizeScalar (Json.get (exContentOf decoders.toDecoders read) "title") :=
    (congrArg ParsedOrderEvent.title (Option.some.inj hfields)).symm
  rw [orderCard, htitle]
  refine normalizeScalar_ne_empty (printed_get ?_ "title")
  exact printed_asObject (printed_get (printed_nestedDict (.obj (printed_decodeCustomData decoders
    (printed_get (printed_findCustom decoders hprinted) "data"))) _) "exContent")

end Events

theorem addCard_mem {cards : List ParsedMessageCard} {card found : ParsedMessageCard}
    (hfound : found ∈ addCard cards card) : found ∈ cards ∨ found = card := by
  simp only [addCard] at hfound
  split at hfound
  · exact .inl hfound
  · exact (List.mem_append.mp hfound).imp_right List.mem_singleton.mp

theorem nodup_addCard {cards : List ParsedMessageCard} (card : ParsedMessageCard)
    (hnodup : (cards.map ParsedMessageCard.key).Nodup) :
    ((addCard cards card).map ParsedMessageCard.key).Nodup := by
  simp only [addCard]
  split
  · exact hnodup
  · rename_i hnew
    rw [List.map_append, List.nodup_append]
    refine ⟨hnodup, List.nodup_singleton _, ?_⟩
    intro first hfirst second hsecond hsame
    rw [List.map_singleton, List.mem_singleton] at hsecond
    exact hnew (hsecond ▸ hsame ▸ hfirst)

section Parsed

variable (decoders : JsonDecoders) (links : Links) (orders : KeyOrders) (content : String)
  (fallbackItemId : Option String) (payload : Json)

theorem nodup_parseMessageCards :
    ((parseMessageCards decoders.toDecoders links orders payload content fallbackItemId).map
      ParsedMessageCard.key).Nodup := by
  have hfold : ∀ parsed cards : List ParsedMessageCard,
      (cards.map ParsedMessageCard.key).Nodup →
        ((parsed.foldl addCard cards).map ParsedMessageCard.key).Nodup := by
    intro parsed
    induction parsed with
    | nil => exact fun cards hcards => hcards
    | cons card rest ih => exact fun cards hcards => ih _ (nodup_addCard card hcards)
  rw [parseMessageCards, List.map_take]
  refine List.Nodup.sublist (List.take_sublist _ _) ?_
  cases parseOrderEvent decoders.toDecoders links orders payload content fallbackItemId none with
  | none => exact hfold _ [] List.nodup_nil
  | some event => exact nodup_addCard _ (hfold _ [] List.nodup_nil)

theorem title_of_mem_parseMessageCards {payload : Json} (hpayload : payload.Printed)
    {card : ParsedMessageCard}
    (hcard : card ∈ parseMessageCards decoders.toDecoders links orders payload content
      fallbackItemId) : card.title ≠ some "" := by
  have hfold : ∀ parsed cards : List ParsedMessageCard,
      card ∈ parsed.foldl addCard cards → card ∈ parsed ∨ card ∈ cards := by
    intro parsed
    induction parsed with
    | nil => exact fun cards hmem => .inr hmem
    | cons first rest ih =>
        intro cards hmem
        rcases ih _ hmem with hrest | hadded
        · exact .inl (List.mem_cons_of_mem _ hrest)
        · rcases addCard_mem hadded with hbefore | rfl
          · exact .inr hbefore
          · exact .inl List.mem_cons_self
  have hnodes : card ∈ ((dictNodes decoders.toDecoders payload).filterMap
      (parseDictNode orders)).foldl addCard [] → card.title ≠ some "" := by
    intro hmem
    rcases hfold _ _ hmem with hparsed | hnone
    · obtain ⟨node, hnode, hread⟩ := List.mem_filterMap.mp hparsed
      exact title_parseDictNode (printed_of_mem_dictNodes decoders hpayload hnode) hread
    · exact absurd hnone List.not_mem_nil
  have hmem := List.mem_of_mem_take hcard
  cases hevent : parseOrderEvent decoders.toDecoders links orders payload content fallbackItemId
      none with
  | none =>
      rw [hevent] at hmem
      exact hnodes hmem
  | some event =>
      rw [hevent] at hmem
      rcases addCard_mem hmem with hnode | rfl
      · exact hnodes hnode
      · exact title_orderCard decoders links orders content fallbackItemId none hpayload hevent

end Parsed

end Cards

end XianyuAdmin
