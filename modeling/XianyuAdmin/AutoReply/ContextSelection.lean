import XianyuAdmin.AutoReply.Context
import XianyuAdmin.Core.DictHeap

/-!
# The context that a rule lists

`_select_auto_reply_context` puts the values of the listed paths into a new dictionary by
reference, so that a later path may descend into a dictionary of the context and write to it.
The selection reads as the part of the context that lies on the listed paths, whatever their
order, and the context stays as it was.
-/

namespace XianyuAdmin.AutoReply

open XianyuAdmin.DictHeap

/-- The walk to the last name of a path, on which missing dictionaries are made, and the
assignment there. -/
def place (source : Value Json) : Heap Json → ℕ → List String → Heap Json
  | heap, _, [] => heap
  | heap, target, [last] => heap.set target last source
  | heap, target, part :: next :: parts =>
      match heap.dicts target part with
      | some (.dict child) => place source heap child (next :: parts)
      | _ =>
          place source (heap.alloc.2.set target part (.dict heap.alloc.1)) heap.alloc.1
            (next :: parts)

def selectField (context selected : ℕ) (heap : Heap Json) (fieldPath : String) : Heap Json :=
  match pathParts fieldPath with
  | [] => heap
  | part :: parts =>
      match heap.walk (.dict context) (part :: parts) with
      | none | some (.leaf .null) => heap
      | some source => place source heap selected (part :: parts)

/-- `_select_auto_reply_context` with its values passed by reference: the new dictionary, and
the heap. -/
def selectByReference (heap : Heap Json) (context : ℕ) (fields : List String) : ℕ × Heap Json :=
  (heap.alloc.1, fields.foldl (selectField context heap.alloc.1) heap.alloc.2)

/-- A path that equals or extends one of `done`. -/
def Covered (done : List String → Prop) (path : List String) : Prop :=
  ∃ parts, done parts ∧ parts <+: path

/-- While the paths `done` are selected, the selection has the values of the context along
them, and dictionaries of its own at the other paths of `made`. -/
structure Mirrors (before : Heap Json) (context selected : ℕ)
    (done made : List String → Prop) (heap : Heap Json) : Prop where
  agree : Heap.AgreeBelow before.next heap before
  next_le : before.next ≤ heap.next
  closed : heap.Closed heap.next
  selected_lt : selected < heap.next
  valid : ∀ parts, done parts → before.walk (.dict context) parts ≠ none
  covered : ∀ path, Covered done path →
    heap.walk (.dict selected) path = before.walk (.dict context) path
  own : ∀ path, ¬ Covered done path → made path → ∃ address, before.next ≤ address ∧
    heap.walk (.dict selected) path = some (.dict address)
  absent : ∀ path, ¬ Covered done path → ¬ made path → heap.walk (.dict selected) path = none
  single : ∀ address left right, before.next ≤ address →
    heap.walk (.dict selected) left = some (.dict address) →
    heap.walk (.dict selected) right = some (.dict address) → left = right

namespace Mirrors

variable {before heap : Heap Json} {context selected : ℕ} {done made : List String → Prop}

theorem congr {doneNow madeNow : List String → Prop}
    (h : Mirrors before context selected done made heap)
    (hvalid : ∀ parts, doneNow parts → before.walk (.dict context) parts ≠ none)
    (hcovered : ∀ path, Covered doneNow path ↔ Covered done path)
    (hmade : ∀ path, ¬ Covered done path → (madeNow path ↔ made path)) :
    Mirrors before context selected doneNow madeNow heap :=
  { h with
    valid := hvalid
    covered := fun path hpath => h.covered path ((hcovered path).mp hpath)
    own := fun path hpath hnow =>
      have hnot := fun hold => hpath ((hcovered path).mpr hold)
      h.own path hnot ((hmade path hnot).mp hnow)
    absent := fun path hpath hnow =>
      have hnot := fun hold => hpath ((hcovered path).mpr hold)
      h.absent path hnot fun hold => hnow ((hmade path hnot).mpr hold) }

variable {path : List String} {address : ℕ}

theorem present (h : Mirrors before context selected done made heap) {value : Value Json}
    (hwalk : heap.walk (.dict selected) path = some value) :
    Covered done path ∨ made path := by
  by_contra hnot
  rw [not_or] at hnot
  rw [h.absent path hnot.1 hnot.2] at hwalk
  cases hwalk

theorem walk_set (h : Mirrors before context selected done made heap)
    (hat : heap.walk (.dict selected) path = some (.dict address))
    (haddress : before.next ≤ address) (key : String) (value : Value Json) (other : List String) :
    (heap.set address key value).walk (.dict selected) other =
      if path ++ [key] <+: other then
        (heap.set address key value).walk value (other.drop (path.length + 1))
      else heap.walk (.dict selected) other :=
  Heap.walk_set hat (fun other hother => h.single address other path haddress hother hat) key
    other

theorem assign (h : Mirrors before context selected done made heap)
    (hclosed : before.Closed before.next) (hcontext : context < before.next) {last : String}
    {source : Value Json} (hat : heap.walk (.dict selected) path = some (.dict address))
    (haddress : before.next ≤ address)
    (hsource : before.walk (.dict context) (path ++ [last]) = some source) :
    Mirrors before context selected (fun parts => parts = path ++ [last] ∨ done parts) made
      (heap.set address last source) := by
  have hstart : (Value.dict context : Value Json).Below before.next := hcontext
  have hbelow : source.Below before.next := Heap.below_of_walk hclosed hstart hsource
  have hagree : Heap.AgreeBelow before.next (heap.set address last source) before :=
    (Heap.agreeBelow_set haddress last source).trans h.agree
  have hinside : ∀ rest, (heap.set address last source).walk source rest =
      before.walk (.dict context) (path ++ [last] ++ rest) := by
    intro rest
    rw [Heap.walk_eq_of_agreeBelow hagree hclosed hbelow, Heap.walk_append, hsource,
      Option.bind_some]
  have hread : ∀ rest, (heap.set address last source).walk (.dict selected)
      (path ++ [last] ++ rest) = before.walk (.dict context) (path ++ [last] ++ rest) := by
    intro rest
    rw [h.walk_set hat haddress, if_pos (List.prefix_append _ _), ← hinside]
    congr 1
    simp
  have hkept : ∀ other, ¬ path ++ [last] <+: other →
      (heap.set address last source).walk (.dict selected) other =
        heap.walk (.dict selected) other := fun other hother => by
    rw [h.walk_set hat haddress, if_neg hother]
  have hold : ∀ other, ¬ Covered (fun parts => parts = path ++ [last] ∨ done parts) other →
      ¬ Covered done other ∧ ¬ path ++ [last] <+: other := by
    intro other hnot
    refine ⟨fun ⟨parts, hparts, hcut⟩ => hnot ⟨parts, .inr hparts, hcut⟩, fun hcut => ?_⟩
    exact hnot ⟨_, .inl rfl, hcut⟩
  exact
    { agree := hagree
      next_le := h.next_le
      closed := Heap.closed_set h.closed address last (Heap.below_mono hbelow h.next_le)
      selected_lt := h.selected_lt
      valid := by
        rintro parts (rfl | hparts)
        · rw [hsource]
          exact Option.some_ne_none source
        · exact h.valid parts hparts
      covered := by
        rintro other ⟨parts, hparts, hcut⟩
        by_cases hlonger : path ++ [last] <+: other
        · obtain ⟨rest, rfl⟩ := hlonger
          exact hread rest
        · rw [hkept other hlonger]
          refine h.covered other ⟨parts, hparts.resolve_left ?_, hcut⟩
          rintro rfl
          exact hlonger hcut
      own := by
        intro other hnot hmade
        rw [hkept other (hold other hnot).2]
        exact h.own other (hold other hnot).1 hmade
      absent := by
        intro other hnot hmade
        rw [hkept other (hold other hnot).2]
        exact h.absent other (hold other hnot).1 hmade
      single := by
        have houtside : ∀ other found, before.next ≤ found →
            (heap.set address last source).walk (.dict selected) other = some (.dict found) →
            ¬ path ++ [last] <+: other := by
          rintro other found hfound hwalk ⟨rest, rfl⟩
          rw [hread] at hwalk
          exact absurd (Heap.below_of_walk hclosed hstart hwalk) (not_lt_of_ge hfound)
        intro found left right hfound hleft hright
        refine h.single found left right hfound ?_ ?_
        · rwa [hkept left (houtside left found hfound hleft)] at hleft
        · rwa [hkept right (houtside right found hfound hright)] at hright }

theorem make (h : Mirrors before context selected done made heap) {part : String}
    (hat : heap.walk (.dict selected) path = some (.dict address))
    (haddress : before.next ≤ address) (hnot : ¬ Covered done (path ++ [part]))
    (habsent : heap.walk (.dict selected) (path ++ [part]) = none) :
    Mirrors before context selected done (fun other => other = path ++ [part] ∨ made other)
        (heap.alloc.2.set address part (.dict heap.next)) ∧
      (heap.alloc.2.set address part (.dict heap.next)).walk (.dict selected)
        (path ++ [part]) = some (.dict heap.next) := by
  have hstart : (Value.dict selected : Value Json).Below heap.next := h.selected_lt
  have hlt : address < heap.next := Heap.below_of_walk h.closed hstart hat
  have hold : ∀ other, heap.alloc.2.walk (.dict selected) other =
      heap.walk (.dict selected) other :=
    Heap.walk_eq_of_agreeBelow (Heap.agreeBelow_alloc heap) h.closed hstart
  have hlonger : ∀ other, path ++ [part] <+: other → heap.walk (.dict selected) other = none := by
    rintro _ ⟨rest, rfl⟩
    rw [Heap.walk_append, habsent, Option.bind_none]
  -- Along the paths through the new dictionary it is all there is.
  have hinside : ∀ rest, (heap.alloc.2.set address part (.dict heap.next)).walk
      (.dict heap.next) rest = if rest = [] then some (.dict heap.next) else none := by
    intro rest
    cases rest with
    | nil => rfl
    | cons key rest =>
        rw [Heap.walk_cons, Heap.child?, Heap.dicts_set_of_ne hlt.ne', Heap.dicts_alloc_self,
          if_neg (List.cons_ne_nil key rest)]
        rfl
  have hread : ∀ other, (heap.alloc.2.set address part (.dict heap.next)).walk (.dict selected)
      other = if other = path ++ [part] then some (.dict heap.next)
        else heap.walk (.dict selected) other := by
    intro other
    rw [Heap.walk_set ((hold path).trans hat)
      (fun left hleft => h.single address left path haddress ((hold left).symm.trans hleft) hat),
      hinside, hold]
    by_cases heq : other = path ++ [part]
    · simp [heq]
    · rw [if_neg heq]
      by_cases hcut : path ++ [part] <+: other
      · have hrest : other.drop (path.length + 1) ≠ [] := by
          obtain ⟨rest, rfl⟩ := hcut
          simpa using heq
        rw [if_pos hcut, if_neg hrest, hlonger other hcut]
      · rw [if_neg hcut]
  have hfree : ∀ other, Covered done other → other ≠ path ++ [part] := by
    rintro _ hcovered rfl
    exact hnot hcovered
  refine ⟨?_, (hread _).trans (if_pos rfl)⟩
  exact
    { agree := ((Heap.agreeBelow_set haddress part _).trans
        ((Heap.agreeBelow_alloc heap).mono h.next_le)).trans h.agree
      next_le := h.next_le.trans (Nat.le_succ _)
      closed := Heap.closed_set (Heap.closed_alloc h.closed) address part (Nat.lt_succ_self _)
      selected_lt := h.selected_lt.trans (Nat.lt_succ_self _)
      valid := h.valid
      covered := by
        intro other hcovered
        rw [hread, if_neg (hfree other hcovered)]
        exact h.covered other hcovered
      own := by
        rintro other hother (rfl | hmade)
        · exact ⟨heap.next, h.next_le, (hread _).trans (if_pos rfl)⟩
        · rw [hread]
          split
          · exact ⟨heap.next, h.next_le, rfl⟩
          · exact h.own other hother hmade
      absent := by
        intro other hother hmade
        rw [not_or] at hmade
        rw [hread, if_neg hmade.1]
        exact h.absent other hother hmade.2
      single := by
        have hcases : ∀ other found, (heap.alloc.2.set address part (.dict heap.next)).walk
            (.dict selected) other = some (.dict found) →
            other = path ++ [part] ∧ found = heap.next ∨
              heap.walk (.dict selected) other = some (.dict found) ∧ found < heap.next := by
          intro other found hwalk
          rw [hread] at hwalk
          split at hwalk
          · rename_i heq
            exact .inl ⟨heq, by simpa using hwalk.symm⟩
          · exact .inr ⟨hwalk, Heap.below_of_walk h.closed hstart hwalk⟩
        intro found left right hfound hleft hright
        rcases hcases left found hleft with ⟨rfl, rfl⟩ | ⟨hleftOld, hlt⟩
        · rcases hcases right _ hright with ⟨rfl, -⟩ | ⟨-, hlt⟩
          · rfl
          · exact absurd hlt (lt_irrefl _)
        · rcases hcases right found hright with ⟨-, rfl⟩ | ⟨hrightOld, -⟩
          · exact absurd hlt (lt_irrefl _)
          · exact h.single found left right hfound hleftOld hrightOld }

end Mirrors

/-- Where the value is there already, nothing is assigned. -/
theorem place_eq_self {heap : Heap Json} {source : Value Json} {parts : List String} :
    ∀ {target : ℕ}, parts ≠ [] → heap.walk (.dict target) parts = some source →
      place source heap target parts = heap := by
  induction parts with
  | nil => exact fun hne _ => absurd rfl hne
  | cons part parts ih =>
      intro target _ hwalk
      rw [Heap.walk_cons] at hwalk
      obtain ⟨child, hchild, hrest⟩ := Option.bind_eq_some_iff.mp hwalk
      cases parts with
      | nil =>
          cases hrest
          exact Heap.set_eq_self hchild
      | cons next parts =>
          cases child with
          | leaf leaf => cases hrest
          | dict address =>
              have hheld : heap.dicts target part = some (.dict address) := hchild
              rw [place, hheld]
              exact ih (List.cons_ne_nil next parts) hrest

section Loop

variable {before : Heap Json} {context selected : ℕ}

def OnTheWay (path parts other : List String) : Prop := path <+: other ∧ other <+: parts

theorem onTheWay_iff {path rest other : List String} {part : String} :
    OnTheWay path (path ++ [part] ++ rest) other ↔
      other = path ∨ OnTheWay (path ++ [part]) (path ++ [part] ++ rest) other := by
  constructor
  · rintro ⟨⟨back, rfl⟩, hcut⟩
    cases back with
    | nil => exact .inl (List.append_nil path)
    | cons key back =>
        rw [List.append_assoc, List.prefix_append_right_inj, List.singleton_append,
          List.cons_prefix_cons] at hcut
        obtain ⟨rfl, hback⟩ := hcut
        refine .inr ⟨⟨back, by simp⟩, ?_⟩
        rw [List.append_cons, List.prefix_append_right_inj]
        exact hback
  · rintro (rfl | ⟨hfront, hcut⟩)
    · exact ⟨List.prefix_refl _, by simp⟩
    · exact ⟨(List.prefix_append _ _).trans hfront, hcut⟩

/-- The assignment at the end of a path, from the dictionary that lies at its front `path`. -/
theorem mirrors_place (hclosed : before.Closed before.next) (hcontext : context < before.next)
    {source : Value Json} {rest : List String} :
    ∀ {heap : Heap Json} {done made : List String → Prop} {path : List String} {target : ℕ},
      Mirrors before context selected done made heap → rest ≠ [] →
      heap.walk (.dict selected) path = some (.dict target) →
      before.walk (.dict context) (path ++ rest) = some source →
      Mirrors before context selected (fun parts => parts = path ++ rest ∨ done parts)
        (fun other => made other ∨ OnTheWay path (path ++ rest) other)
        (place source heap target rest) := by
  induction rest with
  | nil => exact fun _ hne => absurd rfl hne
  | cons part rest ih =>
      intro heap done made path target h _ hat hsource
      by_cases hcovered : Covered done path
      · -- The dictionary is one of the context.
        obtain ⟨front, hfront, hcut⟩ := hcovered
        have hwhole : Covered done (path ++ part :: rest) :=
          ⟨front, hfront, hcut.trans (List.prefix_append _ _)⟩
        have hthere : heap.walk (.dict target) (part :: rest) = some source := by
          have hwalk := (h.covered _ hwhole).trans hsource
          rwa [Heap.walk_append, hat, Option.bind_some] at hwalk
        rw [place_eq_self (List.cons_ne_nil part rest) hthere]
        refine h.congr ?_ (fun other => ⟨?_, ?_⟩) fun other hother => ?_
        · rintro parts (rfl | hparts)
          · rw [hsource]
            exact Option.some_ne_none source
          · exact h.valid parts hparts
        · rintro ⟨parts, rfl | hparts, hprefixed⟩
          · exact ⟨front, hfront, (hcut.trans (List.prefix_append _ _)).trans hprefixed⟩
          · exact ⟨parts, hparts, hprefixed⟩
        · rintro ⟨parts, hparts, hprefixed⟩
          exact ⟨parts, .inr hparts, hprefixed⟩
        · refine or_iff_left fun hway => hother ⟨front, hfront, hcut.trans hway.1⟩
      · have hmade : made path := (h.present hat).resolve_left hcovered
        have haddress : before.next ≤ target := by
          obtain ⟨address, haddress, hown⟩ := h.own path hcovered hmade
          rw [hat, Option.some.injEq, Value.dict.injEq] at hown
          exact hown ▸ haddress
        have hchild : heap.walk (.dict selected) (path ++ [part]) = heap.dicts target part := by
          rw [Heap.walk_concat, hat]
          rfl
        cases rest with
        | nil =>
            refine (h.assign hclosed hcontext hat haddress hsource).congr (fun parts hparts => ?_)
              (fun _ => Iff.rfl) fun other hother => or_iff_left_of_imp fun hway => ?_
            · rcases hparts with rfl | hparts
              · rw [hsource]
                exact Option.some_ne_none source
              · exact h.valid parts hparts
            · have hnext : OnTheWay path (path ++ [part] ++ []) other := by simpa using hway
              rcases onTheWay_iff.mp hnext with rfl | hlast
              · exact hmade
              · exact absurd ⟨_, .inl rfl, by simpa using hlast.1⟩ hother
        | cons next rest =>
            rw [List.append_cons] at hsource ⊢
            have hthere : before.walk (.dict context) (path ++ [part]) ≠ none := by
              intro hnone
              rw [Heap.walk_append, hnone] at hsource
              cases hsource
            have hafter : ∀ {heapNow : Heap Json} {madeNow : List String → Prop} {child : ℕ},
                Mirrors before context selected done madeNow heapNow →
                heapNow.walk (.dict selected) (path ++ [part]) = some (.dict child) →
                (∀ other, made other → madeNow other) →
                (∀ other, madeNow other → other = path ++ [part] ∨ made other) →
                Mirrors before context selected
                  (fun parts => parts = path ++ [part] ++ next :: rest ∨ done parts)
                  (fun other => made other ∨ OnTheWay path (path ++ [part] ++ next :: rest) other)
                  (place source heapNow child (next :: rest)) := by
              intro heapNow madeNow child hnow hatNow hgrows honly
              have hplaced := ih hnow (List.cons_ne_nil next rest) hatNow hsource
              refine hplaced.congr hplaced.valid (fun _ => Iff.rfl) fun other _ => ?_
              rw [onTheWay_iff]
              constructor
              · rintro (hold | rfl | hway)
                · exact .inl (hgrows other hold)
                · exact .inl (hgrows other hmade)
                · exact .inr hway
              · rintro (hold | hway)
                · rcases honly other hold with rfl | hold
                  · exact .inr (.inr ⟨List.prefix_refl _, List.prefix_append _ _⟩)
                  · exact .inl hold
                · exact .inr (.inr hway)
            cases hheld : heap.dicts target part with
            | none =>
                have habsent := hchild.trans hheld
                have hfree : ¬ Covered done (path ++ [part]) := fun hpart =>
                  hthere ((h.covered _ hpart).symm.trans habsent)
                obtain ⟨hnow, hatNow⟩ := h.make hat haddress hfree habsent
                rw [place, hheld]
                exact hafter hnow hatNow (fun _ => .inr) fun _ => id
            | some value =>
                have hvalue := hchild.trans hheld
                cases value with
                | dict child =>
                    rw [place, hheld]
                    exact hafter h hvalue (fun _ => id) fun _ => .inr
                | leaf leaf =>
                    by_cases hpart : Covered done (path ++ [part])
                    · rw [h.covered _ hpart] at hvalue
                      rw [Heap.walk_append, hvalue] at hsource
                      cases hsource
                    · obtain ⟨address, -, hown⟩ :=
                        h.own _ hpart ((h.present hvalue).resolve_left hpart)
                      rw [hvalue] at hown
                      cases hown

/-- A listed path that has a value other than `None`. -/
def Requests (before : Heap Json) (context : ℕ) (fields : List String) (parts : List String) :
    Prop :=
  parts ≠ [] ∧ (∃ field ∈ fields, pathParts field = parts) ∧
    ∃ source, before.walk (.dict context) parts = some source ∧ source ≠ .leaf .null

/-- A path on the way to one of `done`. -/
def Inside (done : List String → Prop) (path : List String) : Prop :=
  path = [] ∨ ∃ parts, done parts ∧ path <+: parts

theorem requests_cons {field : String} {fields parts : List String} :
    Requests before context (field :: fields) parts ↔
      Requests before context [field] parts ∨ Requests before context fields parts := by
  simp only [Requests, List.mem_cons, List.not_mem_nil, or_false, exists_eq_or_imp,
    exists_eq_left]
  rw [or_and_right, and_or_left]

theorem not_requests_nil (parts : List String) : ¬ Requests before context [] parts := by
  rintro ⟨-, ⟨field, hfield, -⟩, -⟩
  cases hfield

theorem requests_cons_or {field : String} {fields parts : List String} {other : Prop} :
    (Requests before context fields parts ∨ Requests before context [field] parts ∨ other) ↔
      Requests before context (field :: fields) parts ∨ other := by
  have hcons : Requests before context (field :: fields) parts ↔
      Requests before context [field] parts ∨ Requests before context fields parts :=
    requests_cons
  rw [hcons, or_left_comm, or_assoc]

theorem mirrors_selectField (hclosed : before.Closed before.next) (hcontext : context < before.next)
    {done : List String → Prop} {heap : Heap Json}
    (h : Mirrors before context selected done (Inside done) heap) (field : String) :
    Mirrors before context selected
      (fun parts => Requests before context [field] parts ∨ done parts)
      (Inside fun parts => Requests before context [field] parts ∨ done parts)
      (selectField context selected heap field) := by
  have hwalk : ∀ parts, heap.walk (.dict context) parts = before.walk (.dict context) parts :=
    Heap.walk_eq_of_agreeBelow h.agree hclosed hcontext
  have hskip : (∀ parts, ¬ Requests before context [field] parts) →
      Mirrors before context selected
        (fun parts => Requests before context [field] parts ∨ done parts)
        (Inside fun parts => Requests before context [field] parts ∨ done parts) heap := by
    intro hnone
    simpa only [hnone, false_or] using h
  cases hparts : pathParts field with
  | nil =>
      rw [selectField, hparts]
      refine hskip fun parts hrequests => hrequests.1 ?_
      obtain ⟨-, ⟨listed, hlisted, rfl⟩, -⟩ := hrequests
      rw [List.mem_singleton.mp hlisted, hparts]
  | cons part parts =>
      have hfield : ∀ other, Requests before context [field] other →
          other = part :: parts ∧ ∃ source,
            before.walk (.dict context) (part :: parts) = some source ∧
              source ≠ .leaf .null := by
        rintro other ⟨-, ⟨listed, hlisted, rfl⟩, hsource⟩
        rw [List.mem_singleton.mp hlisted, hparts] at hsource ⊢
        exact ⟨rfl, hsource⟩
      simp only [selectField, hparts, hwalk]
      cases hsource : before.walk (.dict context) (part :: parts) with
      | none =>
          refine hskip fun other hother => ?_
          obtain ⟨-, source, hfound, -⟩ := hfield other hother
          rw [hsource] at hfound
          cases hfound
      | some source =>
          by_cases hnull : source = .leaf .null
          · subst hnull
            refine hskip fun other hother => ?_
            obtain ⟨-, found, hfound, hne⟩ := hfield other hother
            rw [hsource, Option.some.injEq] at hfound
            exact hne hfound.symm
          · have hrequests : Requests before context [field] (part :: parts) :=
              ⟨List.cons_ne_nil _ _, ⟨field, List.mem_singleton_self _, hparts⟩, source, hsource,
                hnull⟩
            have hiff : ∀ other, Requests before context [field] other ↔ other = part :: parts :=
              fun other => ⟨fun hother => (hfield other hother).1, fun heq => heq ▸ hrequests⟩
            have hplaced := mirrors_place hclosed hcontext h (List.cons_ne_nil part parts)
              (Heap.walk_nil heap _) hsource
            have hresult : Mirrors before context selected
                (fun parts => Requests before context [field] parts ∨ done parts)
                (Inside fun parts => Requests before context [field] parts ∨ done parts)
                (place source heap selected (part :: parts)) := by
              refine hplaced.congr ?_ ?_ fun other _ => ?_
              · simpa only [hiff, List.nil_append] using hplaced.valid
              · simp only [hiff, List.nil_append, Covered, implies_true]
              · simp only [hiff, Inside, OnTheWay, List.nil_append, List.nil_prefix, true_and,
                  or_and_right, exists_or, exists_eq_left]
                rw [or_assoc]
                exact or_congr_right or_comm
            cases source with
            | dict address => exact hresult
            | leaf leaf =>
                cases leaf with
                | null => exact absurd rfl hnull
                | _ => exact hresult

theorem mirrors_foldl (hclosed : before.Closed before.next) (hcontext : context < before.next)
    {fields : List String} :
    ∀ {done : List String → Prop} {heap : Heap Json},
      Mirrors before context selected done (Inside done) heap →
      Mirrors before context selected
        (fun parts => Requests before context fields parts ∨ done parts)
        (Inside fun parts => Requests before context fields parts ∨ done parts)
        (fields.foldl (selectField context selected) heap) := by
  induction fields with
  | nil =>
      intro done heap h
      simpa only [not_requests_nil, false_or, List.foldl_nil] using h
  | cons field fields ih =>
      intro done heap h
      have hrest := ih (mirrors_selectField hclosed hcontext h field)
      simp only [requests_cons_or] at hrest
      exact hrest

theorem mirrors_alloc (hclosed : before.Closed before.next) :
    Mirrors before context before.next (fun _ => False) (Inside fun _ => False)
      before.alloc.2 := by
  have hwalk : ∀ path, before.alloc.2.walk (.dict before.next) path =
      if path = [] then some (.dict before.next) else none := by
    intro path
    cases path with
    | nil => rfl
    | cons key path =>
        rw [Heap.walk_cons, Heap.child?, Heap.dicts_alloc_self, if_neg (List.cons_ne_nil _ _)]
        rfl
  have hat : ∀ address path, before.alloc.2.walk (.dict before.next) path =
      some (.dict address) → path = [] := by
    intro address path hpath
    by_contra hne
    rw [hwalk, if_neg hne] at hpath
    cases hpath
  exact
    { agree := Heap.agreeBelow_alloc before
      next_le := Nat.le_succ _
      closed := Heap.closed_alloc hclosed
      selected_lt := Nat.lt_succ_self _
      valid := fun _ hparts => hparts.elim
      covered := by
        rintro path ⟨_, hparts, -⟩
        exact hparts.elim
      own := by
        rintro path - (rfl | ⟨_, hparts, -⟩)
        · exact ⟨before.next, le_rfl, rfl⟩
        · exact hparts.elim
      absent := fun path _ hmade => by rw [hwalk, if_neg fun heq => hmade (.inl heq)]
      single := fun address left right _ hleft hright =>
        (hat address left hleft).trans (hat address right hright).symm }

theorem mirrors_select (hclosed : before.Closed before.next) (hcontext : context < before.next)
    (fields : List String) :
    Mirrors before context before.next (Requests before context fields)
      (Inside (Requests before context fields)) (selectByReference before context fields).2 := by
  have h : Mirrors before context before.next
      (fun parts => Requests before context fields parts ∨ False)
      (Inside fun parts => Requests before context fields parts ∨ False)
      (selectByReference before context fields).2 :=
    mirrors_foldl hclosed hcontext (mirrors_alloc hclosed)
  simpa only [or_false] using h

end Loop

section Reads

variable {before : Heap Json} {context : ℕ}

def Selects (before : Heap Json) (context : ℕ) (fields path : List String) : Prop :=
  Covered (Requests before context fields) path ∨ Inside (Requests before context fields) path

theorem requests_congr {fields others : List String} (hperm : others.Perm fields) :
    Requests before context others = Requests before context fields := by
  funext parts
  simp only [Requests, hperm.mem_iff]

theorem shape_select (hclosed : before.Closed before.next) (hcontext : context < before.next)
    {fields path : List String} (hselects : Selects before context fields path) :
    ((selectByReference before context fields).2.walk (.dict before.next) path).map Value.shape =
      (before.walk (.dict context) path).map Value.shape := by
  have h := mirrors_select hclosed hcontext fields
  by_cases hcovered : Covered (Requests before context fields) path
  · rw [h.covered path hcovered]
  · obtain ⟨address, -, hown⟩ := h.own path hcovered (hselects.resolve_left hcovered)
    rw [hown]
    have hdict : ∃ address, before.walk (.dict context) path = some (.dict address) := by
      rcases hselects.resolve_left hcovered with rfl | ⟨parts, hparts, ⟨rest, rfl⟩⟩
      · exact ⟨context, rfl⟩
      · cases rest with
        | nil => exact absurd ⟨_, hparts, by simp⟩ hcovered
        | cons key rest =>
            obtain ⟨-, -, source, hsource, -⟩ := hparts
            rw [List.append_cons, Heap.walk_append] at hsource
            obtain ⟨child, hchild, -⟩ := Option.bind_eq_some_iff.mp hsource
            obtain ⟨address, hdict, -⟩ := Heap.exists_dict_of_walk_concat hchild
            exact ⟨address, hdict⟩
    obtain ⟨address, hdict⟩ := hdict
    rw [hdict]
    rfl

theorem walk_select_eq_none (hclosed : before.Closed before.next)
    (hcontext : context < before.next) {fields path : List String}
    (hselects : ¬ Selects before context fields path) :
    (selectByReference before context fields).2.walk (.dict before.next) path = none := by
  rw [Selects, not_or] at hselects
  exact (mirrors_select hclosed hcontext fields).absent path hselects.1 hselects.2

/-- The selection has the leaves of the context on the listed paths and no others, all that
lies on a listed path, and reads the same in whatever order the paths are listed; the context
stays as it was. -/
theorem selectByReference_projects (before : Heap Json) (context : ℕ)
    (hclosed : before.Closed before.next) (hcontext : context < before.next)
    (fields : List String) :
    (∀ path leaf, (selectByReference before context fields).2.walk
        (.dict (selectByReference before context fields).1) path = some (.leaf leaf) →
      before.walk (.dict context) path = some (.leaf leaf) ∧
        ∃ field ∈ fields, pathParts field ≠ [] ∧ pathParts field <+: path) ∧
    (∀ field ∈ fields, pathParts field ≠ [] → ∀ source,
      before.walk (.dict context) (pathParts field) = some source → source ≠ .leaf .null →
      ∀ rest, (selectByReference before context fields).2.walk
          (.dict (selectByReference before context fields).1) (pathParts field ++ rest) =
        before.walk (.dict context) (pathParts field ++ rest)) ∧
    (∀ others : List String, others.Perm fields → ∀ path,
      ((selectByReference before context others).2.walk
          (.dict (selectByReference before context others).1) path).map Value.shape =
        ((selectByReference before context fields).2.walk
          (.dict (selectByReference before context fields).1) path).map Value.shape) ∧
    ∀ path, (selectByReference before context fields).2.walk (.dict context) path =
      before.walk (.dict context) path := by
  have h := mirrors_select hclosed hcontext fields
  refine ⟨fun path leaf hleaf => ?_, fun field hfield hne source hsource hnull rest => ?_,
    fun others hperm path => ?_, ?_⟩
  · by_cases hcovered : Covered (Requests before context fields) path
    · have hread := (h.covered path hcovered).symm.trans hleaf
      obtain ⟨parts, ⟨hne, ⟨field, hfield, rfl⟩, -⟩, hcut⟩ := hcovered
      exact ⟨hread, field, hfield, hne, hcut⟩
    · obtain ⟨address, -, hown⟩ := h.own path hcovered ((h.present hleaf).resolve_left hcovered)
      cases hown.symm.trans hleaf
  · exact h.covered _ ⟨pathParts field,
      ⟨hne, ⟨field, hfield, rfl⟩, source, hsource, hnull⟩, List.prefix_append _ _⟩
  · by_cases hselects : Selects before context fields path
    · have hothers : Selects before context others path := by
        rwa [Selects, requests_congr hperm]
      exact (shape_select hclosed hcontext hothers).trans
        (shape_select hclosed hcontext hselects).symm
    · have hothers : ¬ Selects before context others path := by
        rwa [Selects, requests_congr hperm]
      exact congrArg (Option.map Value.shape)
        ((walk_select_eq_none hclosed hcontext hothers).trans
          (walk_select_eq_none hclosed hcontext hselects).symm)
  · exact Heap.walk_eq_of_agreeBelow h.agree hclosed hcontext

/-- A context with one dictionary, whose `id` is known and whose `title` is not. -/
def itemHeap : Heap Json where
  dicts
    | 0, "item" => some (.dict 1)
    | 1, "id" => some (.leaf (.str "7"))
    | 1, "title" => some (.leaf .null)
    | _, _ => none
  next := 2

theorem closed_itemHeap : itemHeap.Closed itemHeap.next := by
  intro address _ key value hheld
  simp only [itemHeap] at hheld
  split at hheld <;> cases hheld <;> simp [Value.Below, itemHeap]

/-- A dictionary is selected, and then a value in it. -/
theorem selectByReference_projects_itemHeap :
    (selectByReference itemHeap 0 ["item", "item.id"]).2.walk
        (.dict (selectByReference itemHeap 0 ["item", "item.id"]).1) ["item", "id"] =
      itemHeap.walk (.dict 0) ["item", "id"] := by
  have hparts : pathParts "item.id" = ["item", "id"] := by decide
  have hpresent := (selectByReference_projects itemHeap 0 closed_itemHeap (by decide)
    ["item", "item.id"]).2.1 "item.id" (by simp)
  rw [hparts] at hpresent
  exact hpresent (by simp) (.leaf (.str "7")) rfl (by simp) []

end Reads

end XianyuAdmin.AutoReply
