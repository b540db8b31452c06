import Mathlib

/-!
# Computations that return

A computation in `Except` returns a value or raises.  Whether it returns is computed along
the computation: a sequence returns when its head does and what follows does after it.
-/

namespace XianyuAdmin

variable {Error Value Next : Type}

def Returns (computation : Except Error Value) : Prop :=
  ∃ value, computation = .ok value

@[simp]
theorem returns_ok (value : Value) : Returns (.ok value : Except Error Value) :=
  ⟨value, rfl⟩

@[simp]
theorem returns_pure (value : Value) : Returns (pure value : Except Error Value) :=
  ⟨value, rfl⟩

@[simp]
theorem not_returns_error (error : Error) : ¬Returns (.error error : Except Error Value) := by
  rintro ⟨value, h⟩
  cases h

@[simp]
theorem returns_map {computation : Except Error Value} (change : Value → Next) :
    Returns (computation.map change) ↔ Returns computation := by
  cases computation with
  | ok value => exact iff_of_true ⟨change value, rfl⟩ ⟨value, rfl⟩
  | error error => exact iff_of_false (not_returns_error error) (not_returns_error error)

variable {head : Except Error Value} {result : Next}

theorem bind_eq_ok_iff {next : Value → Except Error Next} :
    head.bind next = .ok result ↔ ∃ value, head = .ok value ∧ next value = .ok result := by
  cases head <;> simp [Except.bind]

theorem map_eq_ok_iff {change : Value → Next} :
    head.map change = .ok result ↔ ∃ value, head = .ok value ∧ change value = result := by
  cases head <;> simp [Except.map]

/-- A sequence that returns has a head that returned. -/
theorem head_of_bind_eq_ok {next : Value → Except Error Next}
    (hbind : (head >>= next) = .ok result) :
    ∃ value, head = .ok value ∧ next value = .ok result :=
  bind_eq_ok_iff.mp hbind

theorem returns_bind {next : Value → Except Error Next} {Head : Prop} {Rest : Value → Prop}
    (hhead : Returns head ↔ Head)
    (hnext : ∀ value, head = .ok value → (Returns (next value) ↔ Rest value)) :
    Returns (head >>= next) ↔ Head ∧ ∀ value, head = .ok value → Rest value := by
  rw [← hhead]
  cases head with
  | error error => exact iff_of_false (not_returns_error error) fun h => not_returns_error _ h.1
  | ok value =>
      have hvalue := hnext value rfl
      constructor
      · intro hreturns
        refine ⟨returns_ok value, fun other hother => ?_⟩
        cases hother
        exact hvalue.mp hreturns
      · rintro ⟨-, hrest⟩
        exact hvalue.mpr (hrest value rfl)

theorem returns_bind_and {next : Value → Except Error Next} {Head Rest : Prop}
    (hhead : Returns head ↔ Head)
    (hnext : ∀ value, head = .ok value → (Returns (next value) ↔ Rest)) :
    Returns (head >>= next) ↔ Head ∧ Rest := by
  rw [returns_bind hhead hnext, ← hhead]
  refine and_congr_right fun hreturns => ?_
  obtain ⟨value, hvalue⟩ := hreturns
  exact ⟨fun hrest => hrest value hvalue, fun hrest _ _ => hrest⟩

/-- The loop that appends what `find` finds in each item. -/
def collect (find : Value → Except Error (Option Next)) : List Value → Except Error (List Next)
  | [] => .ok []
  | item :: rest => do
      let found ← find item
      let results ← collect find rest
      pure (found.toList ++ results)

def foundIn (find : Value → Except Error (Option Next)) (item : Value) : Option Next :=
  (find item).toOption.join

theorem collect_eq_ok_iff {find : Value → Except Error (Option Next)} {items : List Value}
    {results : List Next} :
    collect find items = .ok results ↔
      (∀ item ∈ items, Returns (find item)) ∧ results = items.filterMap (foundIn find) := by
  induction items generalizing results with
  | nil => simp [collect, eq_comm]
  | cons item rest ih =>
      cases hfind : find item with
      | error error =>
          have hraises : collect find (item :: rest) = .error error := by
            simp only [collect, hfind]
            rfl
          rw [hraises]
          refine iff_of_false (by simp) fun hall => ?_
          have hreturns := hall.1 item List.mem_cons_self
          rw [hfind] at hreturns
          exact not_returns_error error hreturns
      | ok found =>
          have hfound : foundIn find item = found := by simp [foundIn, hfind, Except.toOption]
          have hhead : Returns (find item) := ⟨found, hfind⟩
          cases hrest : collect find rest with
          | error error =>
              have hraises : collect find (item :: rest) = .error error := by
                simp only [collect, hfind, hrest]
                rfl
              rw [hraises]
              refine iff_of_false (by simp) fun hall => ?_
              have hreturns := ih.mpr
                ⟨fun other hother => hall.1 other (List.mem_cons_of_mem _ hother), rfl⟩
              rw [hrest] at hreturns
              cases hreturns
          | ok others =>
              obtain ⟨hothers, hvalue⟩ := ih.mp hrest
              have hreturns : collect find (item :: rest) = .ok (found.toList ++ others) := by
                simp only [collect, hfind, hrest]
                rfl
              rw [hreturns, Except.ok.injEq, List.filterMap_cons, hfound, ← hvalue, eq_comm]
              refine ⟨fun heq => ⟨?_, ?_⟩, fun hall => ?_⟩
              · exact List.forall_mem_cons.mpr ⟨hhead, hothers⟩
              · rw [heq]
                cases found <;> rfl
              · rw [hall.2]
                cases found <;> rfl

variable {Result : Type} {find : Value → Except Error (Option Next)}
  {next : Next → Except Error (Option Result)}

/-- What is found in what was found. -/
def findNext (find : Value → Except Error (Option Next))
    (next : Next → Except Error (Option Result)) (item : Value) :
    Except Error (Option Result) := do
  match ← find item with
  | none => pure none
  | some found => next found

theorem returns_findNext_iff (item : Value) :
    Returns (findNext find next item) ↔
      Returns (find item) ∧ ∀ found, foundIn find item = some found → Returns (next found) := by
  unfold findNext foundIn
  cases find item with
  | error error => exact iff_of_false (not_returns_error error) fun h => not_returns_error _ h.1
  | ok found =>
      cases found with
      | none => exact iff_of_true (returns_pure none) ⟨returns_ok none, nofun⟩
      | some found =>
          refine ⟨fun hnext => ⟨returns_ok _, fun other hother => ?_⟩, fun h => h.2 found rfl⟩
          cases hother
          exact hnext

theorem foundIn_findNext (item : Value) :
    foundIn (findNext find next) item = (foundIn find item).bind (foundIn next) := by
  simp only [findNext, foundIn]
  cases find item with
  | error error => rfl
  | ok found => cases found <;> rfl

/-- A loop over what a loop has found is one loop, as far as they return. -/
theorem collect_bind_collect_iff {items : List Value} {results : List Result} :
    collect find items >>= collect next = .ok results ↔
      collect (findNext find next) items = .ok results := by
  have hresults : (items.filterMap (foundIn find)).filterMap (foundIn next) =
      items.filterMap (foundIn (findNext find next)) := by
    rw [List.filterMap_filterMap]
    exact congrArg (fun found => items.filterMap found)
      (funext fun item => (foundIn_findNext item).symm)
  rw [collect_eq_ok_iff, ← hresults]
  constructor
  · intro hboth
    cases hfirst : collect find items with
    | error error =>
        rw [hfirst] at hboth
        cases hboth
    | ok found =>
        rw [hfirst] at hboth
        obtain ⟨hfind, rfl⟩ := collect_eq_ok_iff.mp hfirst
        obtain ⟨hnext, rfl⟩ := collect_eq_ok_iff.mp hboth
        refine ⟨fun item hitem => (returns_findNext_iff item).mpr ⟨hfind item hitem, ?_⟩, rfl⟩
        intro value hvalue
        exact hnext value (List.mem_filterMap.mpr ⟨item, hitem, hvalue⟩)
  · rintro ⟨hall, rfl⟩
    have hfirst : collect find items = .ok (items.filterMap (foundIn find)) :=
      collect_eq_ok_iff.mpr ⟨fun item hitem => ((returns_findNext_iff item).mp (hall item hitem)).1,
        rfl⟩
    rw [hfirst]
    refine collect_eq_ok_iff.mpr ⟨fun value hvalue => ?_, rfl⟩
    obtain ⟨item, hitem, hfound⟩ := List.mem_filterMap.mp hvalue
    exact ((returns_findNext_iff item).mp (hall item hitem)).2 value hfound

end XianyuAdmin
