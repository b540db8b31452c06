import Mathlib

/-!
# Deliveries that announce their gaps

A source produces events one after the other.  A receiver with little room gets most of them;
where it misses a run of events, it gets a marker in the place of that run.  `Delivers` says
that what the receiver got is such an account of what the source has produced.
-/

namespace XianyuAdmin.AnnouncedGaps

variable {Event : Type*}

/-- What a receiver gets. -/
inductive Item (Event : Type*)
  | event (event : Event)
  /-- Some events are missing here. -/
  | gap
  deriving DecidableEq, Repr

/-- The items are the events in their order, with a gap for each run that is missing. -/
inductive Delivers : List Event → List (Item Event) → Prop
  | nil : Delivers [] []
  | event (event : Event) {events : List Event} {items : List (Item Event)}
      (hrest : Delivers events items) : Delivers (event :: events) (.event event :: items)
  | gap {missed : List Event} (hmissed : missed ≠ []) {events : List Event}
      {items : List (Item Event)} (hrest : Delivers events items) :
      Delivers (missed ++ events) (.gap :: items)

def received (items : List (Item Event)) : List Event :=
  items.filterMap fun item =>
    match item with
    | .event event => some event
    | .gap => none

namespace Delivers

variable {events later : List Event} {items front back : List (Item Event)}

theorem append (hfront : Delivers events front) (hback : Delivers later back) :
    Delivers (events ++ later) (front ++ back) := by
  induction hfront with
  | nil => exact hback
  | event event _ ih => exact .event event ih
  | gap hmissed _ ih =>
      rw [List.append_assoc]
      exact .gap hmissed ih

theorem exists_split (h : Delivers events (front ++ back)) :
    ∃ before after, events = before ++ after ∧ Delivers before front ∧ Delivers after back := by
  induction front generalizing events with
  | nil => exact ⟨[], events, rfl, .nil, h⟩
  | cons item front ih =>
      cases h with
      | event event hrest =>
          obtain ⟨before, after, rfl, hfront, hback⟩ := ih hrest
          exact ⟨event :: before, after, rfl, .event event hfront, hback⟩
      | @gap missed hmissed _ _ hrest =>
          obtain ⟨before, after, rfl, hfront, hback⟩ := ih hrest
          exact ⟨missed ++ before, after, (List.append_assoc _ _ _).symm,
            .gap hmissed hfront, hback⟩

theorem deliver (h : Delivers events items) (event : Event) :
    Delivers (events ++ [event]) (items ++ [.event event]) :=
  h.append (.event event .nil)

/-- One more event is produced; it is dropped together with all that waits, and one gap takes
their place. -/
theorem overflow (h : Delivers events (front ++ back)) (event : Event) :
    Delivers (events ++ [event]) (front ++ [.gap]) := by
  obtain ⟨before, after, rfl, hfront, -⟩ := h.exists_split
  rw [List.append_assoc]
  refine hfront.append ?_
  simpa only [List.append_nil] using
    Delivers.gap (List.append_ne_nil_of_right_ne_nil after (List.cons_ne_nil event [])) .nil

/-- The events that were got are in the order in which they were produced. -/
theorem received_sublist (h : Delivers events items) : (received items).Sublist events := by
  induction h with
  | nil => exact List.Sublist.refl []
  | event event _ ih => exact ih.cons_cons event
  | gap _ _ ih => exact ih.trans (List.sublist_append_right _ _)

end Delivers

end XianyuAdmin.AnnouncedGaps
