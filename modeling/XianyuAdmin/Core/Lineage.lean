import Mathlib

/-!
# Rows that name a predecessor

A table may link each of its rows to an earlier one by that row's identifier.
Two loops recover a line of such rows: one climbs from a row to the first of its
line, one gathers everything that goes back to a row.  Both stop by themselves on
every list of rows; where the links go back to rows of lower rank they find what
they are meant to find.
-/

namespace XianyuAdmin.Lineage

open Relation

variable {Row Id : Type*} (ident : Row → Id) (parent : Row → Option Id)

def Follows (rows : List Row) (child source : Row) : Prop :=
  child ∈ rows ∧ source ∈ rows ∧ parent child = some (ident source)

structure IsForest (rank : Row → ℕ) (rows : List Row) : Prop where
  ident_injOn : Set.InjOn ident {row | row ∈ rows}
  exists_parent : ∀ child ∈ rows, ∀ name, parent child = some name →
    ∃ source ∈ rows, ident source = name
  rank_eq : ∀ child source, Follows ident parent rows child source →
    rank child = rank source + 1

structure IsLines (rank : Row → ℕ) (rows : List Row) : Prop
    extends IsForest ident parent rank rows where
  only_child : ∀ left right source, Follows ident parent rows left source →
    Follows ident parent rows right source → left = right

section Order

variable {ident parent} {rank : Row → ℕ} {rows : List Row} {child source left right : Row}

theorem IsForest.rank_lt (hforest : IsForest ident parent rank rows)
    (hgoesBack : TransGen (Follows ident parent rows) child source) :
    rank source < rank child := by
  induction hgoesBack with
  | single hfollows =>
      rw [hforest.rank_eq _ _ hfollows]
      exact Nat.lt_succ_self _
  | tail _ hfollows ih =>
      rw [hforest.rank_eq _ _ hfollows] at ih
      exact Nat.lt_of_succ_lt ih

/-- No row goes back to itself. -/
theorem IsForest.acyclic (hforest : IsForest ident parent rank rows) (row : Row) :
    ¬TransGen (Follows ident parent rows) row row :=
  fun hcycle => Nat.lt_irrefl _ (hforest.rank_lt hcycle)

theorem IsForest.source_unique (hforest : IsForest ident parent rank rows) :
    Relator.RightUnique (Follows ident parent rows) :=
  fun _ _ _ hleft hright =>
    hforest.ident_injOn hleft.2.1 hright.2.1
      (Option.some.inj (hleft.2.2.symm.trans hright.2.2))

theorem IsLines.child_unique (hlines : IsLines ident parent rank rows) :
    Relator.RightUnique (Function.swap (Follows ident parent rows)) :=
  fun source left right hleft hright => hlines.only_child left right source hleft hright

def SameLine (ident : Row → Id) (parent : Row → Option Id) (rows : List Row)
    (left right : Row) : Prop :=
  ReflTransGen (Follows ident parent rows) left right ∨
    ReflTransGen (Follows ident parent rows) right left

theorem IsLines.sameLine_iff (hlines : IsLines ident parent rank rows) {row root other : Row}
    (hroot : parent root = none)
    (hrow : ReflTransGen (Follows ident parent rows) row root) :
    SameLine ident parent rows row other ↔
      ReflTransGen (Follows ident parent rows) other root := by
  constructor
  · rintro (hearlier | hlater)
    · -- both rows are predecessors of `row`, and a first row has none
      rcases hearlier.total_of_right_unique hlines.source_unique hrow with
        hother | hother
      · exact hother
      · cases hother.cases_head with
        | inl heq => exact heq ▸ .refl
        | inr hstep =>
            obtain ⟨source, hfollows, -⟩ := hstep
            rw [hfollows.2.2] at hroot
            cases hroot
    · exact hlater.trans hrow
  · intro hother
    rcases (reflTransGen_swap.mpr hrow).total_of_right_unique hlines.child_unique
      (reflTransGen_swap.mpr hother) with hlater | hearlier
    · exact .inr (reflTransGen_swap.mp hlater)
    · exact .inl (reflTransGen_swap.mp hearlier)

theorem IsLines.sameLine_of_common (hlines : IsLines ident parent rank rows) {row : Row}
    (hleft : SameLine ident parent rows row left)
    (hright : SameLine ident parent rows row right) : SameLine ident parent rows left right := by
  rcases hleft with hleftEarlier | hleftLater
  · rcases hright with hrightEarlier | hrightLater
    · exact hleftEarlier.total_of_right_unique hlines.source_unique hrightEarlier
    · exact .inr (hrightLater.trans hleftEarlier)
  · rcases hright with hrightEarlier | hrightLater
    · exact .inl (hleftLater.trans hrightEarlier)
    · rcases (reflTransGen_swap.mpr hleftLater).total_of_right_unique hlines.child_unique
        (reflTransGen_swap.mpr hrightLater) with hback | hback
      · exact .inr (reflTransGen_swap.mp hback)
      · exact .inl (reflTransGen_swap.mp hback)

theorem IsForest.eq_of_rank (hforest : IsForest ident parent rank rows)
    (hline : SameLine ident parent rows left right) (hrank : rank left = rank right) :
    left = right := by
  rcases hline with hback | hback
  · rcases reflTransGen_iff_eq_or_transGen.mp hback with heq | hstrict
    · exact heq.symm
    · exact absurd hrank (hforest.rank_lt hstrict).ne'
  · rcases reflTransGen_iff_eq_or_transGen.mp hback with heq | hstrict
    · exact heq
    · exact absurd hrank (hforest.rank_lt hstrict).ne

end Order

variable [DecidableEq Id]

/-- `by_id.get(name)`. -/
def byIdent (rows : List Row) (name : Id) : Option Row :=
  rows.find? fun row => ident row = name

/-- The loop that follows predecessors until there is none, or a row comes up a
second time. -/
def climb (rows : List Row) : ℕ → List Id → Id → Id
  | 0, _, name => name
  | fuel + 1, visited, name =>
      if name ∈ visited then name
      else
        match (byIdent ident rows name).bind parent with
        | none => name
        | some next =>
            if (byIdent ident rows next).isNone then name
            else climb rows fuel (name :: visited) next

variable {ident parent} {rank : Row → ℕ} {rows : List Row}

theorem byIdent_of_mem (hinj : Set.InjOn ident {row | row ∈ rows}) {row : Row}
    (hrow : row ∈ rows) : byIdent ident rows (ident row) = some row := by
  cases hfound : byIdent ident rows (ident row) with
  | none =>
      have habsent := List.find?_eq_none.mp hfound row hrow
      simp at habsent
  | some found =>
      have hident : ident found = ident row := by simpa using List.find?_some hfound
      rw [hinj (List.mem_of_find?_eq_some hfound) hrow hident]

variable {names : List Id}

omit [DecidableEq Id] in
theorem length_le_of_nodup_names (hnodup : names.Nodup)
    (hnames : ∀ name ∈ names, ∃ row ∈ rows, ident row = name) :
    names.length ≤ rows.length := by
  have hsubset : names ⊆ rows.map ident := by
    intro name hname
    obtain ⟨row, hrow, rfl⟩ := hnames name hname
    exact List.mem_map_of_mem hrow
  calc
    names.length ≤ (rows.map ident).length := (hnodup.subperm hsubset).length_le
    _ = rows.length := List.length_map _

theorem climb_spec (hforest : IsForest ident parent rank rows) {fuel : ℕ}
    {visited : List Id} {row : Row} (hrow : row ∈ rows)
    (hvisited : ∀ name ∈ visited, ∃ seen ∈ rows, ident seen = name ∧ rank row < rank seen)
    (hnodup : visited.Nodup) (hfuel : rows.length < fuel + visited.length) :
    ∃ root ∈ rows, climb ident parent rows fuel visited (ident row) = ident root ∧
      parent root = none ∧ ReflTransGen (Follows ident parent rows) row root := by
  induction fuel generalizing visited row with
  | zero =>
      have hlength := length_le_of_nodup_names hnodup fun name hname => by
        obtain ⟨seen, hseen, hname, -⟩ := hvisited name hname
        exact ⟨seen, hseen, hname⟩
      omega
  | succ fuel ih =>
      have hnew : ident row ∉ visited := by
        intro hseen
        obtain ⟨seen, hmem, hident, hrank⟩ := hvisited _ hseen
        rw [hforest.ident_injOn hmem hrow hident] at hrank
        exact Nat.lt_irrefl _ hrank
      cases hparent : parent row with
      | none =>
          refine ⟨row, hrow, ?_, hparent, .refl⟩
          simp [climb, hnew, byIdent_of_mem hforest.ident_injOn hrow, hparent]
      | some next =>
          obtain ⟨source, hsource, rfl⟩ := hforest.exists_parent row hrow next hparent
          have hfollows : Follows ident parent rows row source := ⟨hrow, hsource, hparent⟩
          have hrank := hforest.rank_eq row source hfollows
          have hclimb : climb ident parent rows (fuel + 1) visited (ident row) =
              climb ident parent rows fuel (ident row :: visited) (ident source) := by
            simp [climb, hnew, byIdent_of_mem hforest.ident_injOn hrow, hparent,
              byIdent_of_mem hforest.ident_injOn hsource]
          have hlater : ∀ name ∈ ident row :: visited,
              ∃ seen ∈ rows, ident seen = name ∧ rank source < rank seen := by
            intro name hname
            rcases List.mem_cons.mp hname with rfl | hname
            · exact ⟨row, hrow, rfl, by omega⟩
            · obtain ⟨seen, hseen, hident, hlt⟩ := hvisited name hname
              exact ⟨seen, hseen, hident, by omega⟩
          obtain ⟨root, hroot, hclimbs, hfirst, hback⟩ :=
            ih hsource hlater (List.nodup_cons.mpr ⟨hnew, hnodup⟩) (by
              simp only [List.length_cons]
              omega)
          exact ⟨root, hroot, hclimb.trans hclimbs, hfirst, .head hfollows hback⟩

variable (ident parent)

/-- One pass over the rows: a row joins when its predecessor has joined. -/
def gather (rows : List Row) (names : List Id) : List Id :=
  rows.foldl (fun names row =>
    if (parent row).any (fun name => name ∈ names) && ident row ∉ names then
      names ++ [ident row]
    else names) names

def gatherAll (rows : List Row) : ℕ → List Id → List Id
  | 0, names => names
  | fuel + 1, names =>
      if gather ident parent rows names = names then names
      else gatherAll rows fuel (gather ident parent rows names)

variable {ident parent}

theorem prefix_gather (rows : List Row) (names : List Id) :
    names <+: gather ident parent rows names := by
  induction rows generalizing names with
  | nil => exact List.prefix_rfl
  | cons row rest ih =>
      unfold gather
      rw [List.foldl_cons]
      split
      · exact (List.prefix_append names [ident row]).trans (ih _)
      · exact ih names

theorem forall_gather {property : Id → Prop} (hnames : ∀ name ∈ names, property name)
    (hjoins : ∀ row ∈ rows, ∀ name, parent row = some name → property name →
      property (ident row)) :
    ∀ name ∈ gather ident parent rows names, property name := by
  induction rows generalizing names with
  | nil => exact hnames
  | cons row rest ih =>
      have hrest := fun other hother => hjoins other (List.mem_cons_of_mem row hother)
      unfold gather
      rw [List.foldl_cons]
      split
      · rename_i hjoin
        refine ih (fun name hname => ?_) hrest
        rcases List.mem_append.mp hname with hold | hnew
        · exact hnames name hold
        · rw [List.mem_singleton.mp hnew]
          simp only [Bool.and_eq_true, Option.any_eq_true, decide_eq_true_eq] at hjoin
          obtain ⟨⟨name, hparent, hjoined⟩, -⟩ := hjoin
          exact hjoins row (by simp) name hparent (hnames name hjoined)
      · exact ih hnames hrest

theorem nodup_gather (hnodup : names.Nodup) : (gather ident parent rows names).Nodup := by
  induction rows generalizing names with
  | nil => exact hnodup
  | cons row rest ih =>
      unfold gather
      rw [List.foldl_cons]
      split
      · rename_i hjoin
        simp only [Bool.and_eq_true, decide_eq_true_eq] at hjoin
        exact ih (List.nodup_append.mpr ⟨hnodup, List.nodup_singleton _, by
          intro name hname other hother
          rw [List.mem_singleton.mp hother]
          exact fun heq => hjoin.2 (heq ▸ hname)⟩)
      · exact ih hnodup

/-- When a pass adds nothing, every row whose predecessor is in is in. -/
theorem closed_of_gather_eq (hfixed : gather ident parent rows names = names) :
    ∀ row ∈ rows, ∀ name ∈ names, parent row = some name → ident row ∈ names := by
  induction rows with
  | nil => simp
  | cons first rest ih =>
      unfold gather at hfixed
      rw [List.foldl_cons] at hfixed
      by_cases hjoin : ((parent first).any (fun name => name ∈ names) &&
          ident first ∉ names) = true
      · -- the first row would have made the list longer
        rw [if_pos hjoin] at hfixed
        have hstartsWith : names ++ [ident first] <+:
            gather ident parent rest (names ++ [ident first]) := prefix_gather rest _
        have hlonger := hstartsWith.length_le
        unfold gather at hlonger
        rw [hfixed, List.length_append, List.length_singleton] at hlonger
        exact absurd hlonger (Nat.not_succ_le_self _)
      · rw [if_neg hjoin] at hfixed
        intro row hrow name hname hparent
        rcases List.mem_cons.mp hrow with rfl | hrest
        · by_contra hout
          exact hjoin (by simp [hparent, hname, hout])
        · exact ih hfixed row hrest name hname hparent

omit [DecidableEq Id] in
theorem mem_of_closed {row root : Row}
    (hclosed : ∀ row ∈ rows, ∀ name ∈ names, parent row = some name → ident row ∈ names)
    (hroot : ident root ∈ names) (hback : ReflTransGen (Follows ident parent rows) row root) :
    ident row ∈ names := by
  induction hback using ReflTransGen.head_induction_on with
  | refl => exact hroot
  | head hfollows _ ih => exact hclosed _ hfollows.1 _ ih hfollows.2.2

/-- With one unit of fuel for every row that is not in, the passes end with all
that goes back to the root, and nothing else. -/
theorem mem_gatherAll_iff (hforest : IsForest ident parent rank rows) {root : Row} {fuel : ℕ}
    (hnodup : names.Nodup) (hfuel : rows.length < fuel + names.length) (hhas : ident root ∈ names)
    (hback : ∀ name ∈ names, ∃ row ∈ rows, ident row = name ∧
      ReflTransGen (Follows ident parent rows) row root) (row : Row) (hrow : row ∈ rows) :
    ident row ∈ gatherAll ident parent rows fuel names ↔
      ReflTransGen (Follows ident parent rows) row root := by
  induction fuel generalizing names with
  | zero =>
      have hlength := length_le_of_nodup_names hnodup fun name hname => by
        obtain ⟨seen, hseen, hname, -⟩ := hback name hname
        exact ⟨seen, hseen, hname⟩
      omega
  | succ fuel ih =>
      unfold gatherAll
      by_cases hfixed : gather ident parent rows names = names
      · rw [if_pos hfixed]
        constructor
        · intro hin
          obtain ⟨other, hother, hident, hgoes⟩ := hback _ hin
          rw [hforest.ident_injOn hother hrow hident] at hgoes
          exact hgoes
        · exact mem_of_closed (closed_of_gather_eq hfixed) hhas
      · rw [if_neg hfixed]
        have hstartsWith : names <+: gather ident parent rows names := prefix_gather rows names
        have hlonger : names.length < (gather ident parent rows names).length :=
          lt_of_le_of_ne hstartsWith.length_le fun heq =>
            hfixed (hstartsWith.eq_of_length heq).symm
        refine ih (nodup_gather hnodup) (by omega) (hstartsWith.subset hhas) ?_
        refine forall_gather hback ?_
        rintro other hother name hparent ⟨source, hsource, rfl, hgoes⟩
        exact ⟨other, hother, rfl, .head ⟨hother, hsource, hparent⟩ hgoes⟩

end XianyuAdmin.Lineage
