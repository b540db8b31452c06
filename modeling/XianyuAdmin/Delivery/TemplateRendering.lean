import XianyuAdmin.Core.Placeholders
import XianyuAdmin.Delivery.DeliveryRecords

/-!
# Rendering a delivery template

`_render_delivery_template` replaces its seven placeholders one after the other
on the growing text.  That is one simultaneous substitution exactly as long as
no value brings a further placeholder into the text.
-/

namespace XianyuAdmin.Delivery

open XianyuAdmin.Placeholders
open XianyuAdmin.Python

/-- The `values` of `_render_delivery_template`. -/
def templateEntries (values : TemplateValues) : List (String × String) :=
  [("receiver_user_id", values.receiverUserId), ("conversation_id", values.conversationId),
    ("item_id", values.itemId.getD ""), ("order_id", values.orderId.getD ""),
    ("card_title", values.cardTitle.getD ""), ("card_status", values.cardStatus.getD ""),
    ("peer_name", values.peerName.getD "")]

def templateNames : List String :=
  ["receiver_user_id", "conversation_id", "item_id", "order_id", "card_title", "card_status",
    "peer_name"]

def renderedAtOnce (template : String) (values : TemplateValues) : String :=
  strip (String.ofList
    (substitute templateNames (putIn (templateEntries values)) template.toList))

/-- The loop of `_render_delivery_template` over the values in another order. -/
def renderedInOrder (order : List (String × String)) (template : String) : String :=
  strip (String.ofList (replaceEach order template.toList))

structure RendersAtOnce (template : String) (values : TemplateValues) : Prop where
  result : renderDeliveryTemplate template values = renderedAtOnce template values
  anyOrder : ∀ order, order.Perm (templateEntries values) →
    renderedInOrder order template = renderedAtOnce template values
  neverExpanded : ∀ before entry after, (before ++ entry :: after).Perm (templateEntries values) →
    Unchanged entry.1 template.toList (replaceEach before template.toList)

def ValuesInert (template : String) (values : TemplateValues) : Prop :=
  ∀ before entry after, (before ++ entry :: after).Perm (templateEntries values) →
    Unchanged entry.1 template.toList
      (substitute templateNames (putIn before) template.toList)

theorem isName_templateNames : ∀ name ∈ templateNames, IsName name := by
  decide

theorem templateEntries_names (values : TemplateValues) :
    (templateEntries values).map Prod.fst = templateNames := rfl

theorem foldl_replaceAll (entries : List (String × String)) (template : String) :
    entries.foldl (fun rendered entry =>
        replaceAll ("\x7b" ++ entry.1 ++ "\x7d") entry.2 rendered) template =
      String.ofList (replaceEach entries template.toList) := by
  induction entries generalizing template with
  | nil => simp [replaceEach]
  | cons entry entries ih =>
      rw [List.foldl_cons, ih]
      simp [replaceEach, replaceAll, token, String.toList_append]

/-- The function is the loop in the order of its dictionary. -/
theorem renderDeliveryTemplate_eq (template : String) (values : TemplateValues) :
    renderDeliveryTemplate template values =
      renderedInOrder (templateEntries values) template := by
  rw [renderedInOrder, ← foldl_replaceAll]
  rfl

theorem replaceEach_eq_of_perm {template : String} {values : TemplateValues}
    {entries rest : List (String × String)}
    (hperm : (entries ++ rest).Perm (templateEntries values))
    (hsteps : ∀ before entry after, (before ++ entry :: after).Perm (templateEntries values) →
      Unchanged entry.1 template.toList (replaceEach before template.toList) ∨
        Unchanged entry.1 template.toList
          (substitute templateNames (putIn before) template.toList)) :
    replaceEach entries template.toList =
      substitute templateNames (putIn entries) template.toList := by
  have hnames := (hperm.map Prod.fst).trans (.of_eq (templateEntries_names values))
  rw [List.map_append] at hnames
  have hnodup : templateNames.Nodup := by decide
  refine replaceEach_eq_substitute isName_templateNames ?_
    ((hnames.nodup_iff.mpr hnodup).of_append_left) _ ?_
  · exact fun entry hentry => hnames.subset
      (List.mem_append_left _ (List.mem_map_of_mem hentry))
  · intro before entry after hsplit
    refine hsteps before entry (after ++ rest) ?_
    rw [hsplit, List.append_assoc, List.cons_append] at hperm
    exact hperm

theorem putIn_of_perm {values : TemplateValues} {order : List (String × String)}
    (hperm : order.Perm (templateEntries values)) : putIn order = putIn (templateEntries values) := by
  have hnodup : (order.map Prod.fst).Nodup := by
    rw [(hperm.map Prod.fst).nodup_iff, templateEntries_names]
    decide
  funext name
  rw [putIn, putIn, lookup_perm hperm hnodup]

/-- Rendering is one simultaneous substitution exactly if the values are inert. -/
theorem rendersAtOnce_iff (template : String) (values : TemplateValues) :
    RendersAtOnce template values ↔ ValuesInert template values := by
  constructor
  · intro hrenders before entry after hperm
    have hsame := replaceEach_eq_of_perm hperm fun before entry after hperm =>
      .inl (hrenders.neverExpanded before entry after hperm)
    rw [← hsame]
    exact hrenders.neverExpanded before entry after hperm
  · intro hinert
    have horder : ∀ order, order.Perm (templateEntries values) →
        renderedInOrder order template = renderedAtOnce template values := by
      intro order hperm
      have hall : (order ++ []).Perm (templateEntries values) := by rwa [List.append_nil]
      have hsame := replaceEach_eq_of_perm hall fun before entry after hperm =>
        .inr (hinert before entry after hperm)
      rw [renderedInOrder, hsame, renderedAtOnce, putIn_of_perm hperm]
    refine ⟨?_, horder, fun before entry after hperm => ?_⟩
    · rw [renderDeliveryTemplate_eq]
      exact horder _ (.refl _)
    · have hsame := replaceEach_eq_of_perm hperm fun before entry after hperm =>
        .inr (hinert before entry after hperm)
      rw [hsame]
      exact hinert before entry after hperm

/-- A card title with a placeholder is expanded. -/
theorem card_title_expanded :
    ¬ RendersAtOnce "\x7bcard_title\x7d"
      { receiverUserId := "u", conversationId := "c", itemId := none, orderId := none
        cardTitle := some "\x7bpeer_name\x7d", cardStatus := none, peerName := some "bob" } := by
  intro hrenders
  exact absurd hrenders.result (by decide)

end XianyuAdmin.Delivery
