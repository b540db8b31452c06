import Mathlib

/-!
# Tables with unique indexes

A database table is a list of rows together with the unique indexes of its
schema.  Each row presents the keys under which the indexes hold it (a column
that is `NULL` presents none), and no key is presented by two rows.  The
constraint is a field of the table, so a statement that would break it has no
result: it is the `IntegrityError` of the database.
-/

namespace XianyuAdmin

variable {Row Key : Type*}

def NoClash (keys : Row → List Key) (left right : Row) : Prop :=
  ∀ key ∈ keys left, key ∉ keys right

instance [DecidableEq Key] (keys : Row → List Key) :
    DecidableRel (NoClash keys) :=
  fun left right =>
    inferInstanceAs (Decidable (∀ key ∈ keys left, key ∉ keys right))

theorem NoClash.symm {keys : Row → List Key} {left right : Row}
    (hclash : NoClash keys left right) : NoClash keys right left :=
  fun key hright hleft => hclash key hleft hright

structure Table (Row : Type*) {Key : Type*} (keys : Row → List Key) where
  rows : List Row
  unique : rows.Pairwise (NoClash keys)

namespace Table

variable {keys : Row → List Key}

def empty : Table Row keys where
  rows := []
  unique := List.Pairwise.nil

def singleton (row : Row) : Table Row keys where
  rows := [row]
  unique := List.pairwise_singleton _ _

@[simp]
theorem rows_empty : (empty : Table Row keys).rows = [] := rfl

variable {table : Table Row keys} {key : Key} {row : Row} {update : Row → Row}

/-- A key of a unique index determines the row that presents it. -/
theorem eq_of_key {left right : Row} (hleft : left ∈ table.rows) (hright : right ∈ table.rows)
    (hkeyLeft : key ∈ keys left) (hkeyRight : key ∈ keys right) :
    left = right := by
  by_contra hne
  have hsymm : Std.Symm (NoClash keys) := ⟨fun _ _ hclash => hclash.symm⟩
  exact table.unique.forall hleft hright hne key hkeyLeft hkeyRight

variable [DecidableEq Key]

/-- The row a unique index holds under `key`. -/
def lookup (table : Table Row keys) (key : Key) : Option Row :=
  table.rows.find? fun row => key ∈ keys row

theorem lookup_eq_some_iff : table.lookup key = some row ↔ row ∈ table.rows ∧ key ∈ keys row := by
  constructor
  · intro hlookup
    exact ⟨List.mem_of_find?_eq_some hlookup, by
      simpa using List.find?_some hlookup⟩
  · rintro ⟨hrow, hkey⟩
    cases hlookup : table.lookup key with
    | none =>
        have habsent := List.find?_eq_none.mp hlookup row hrow
        simp [hkey] at habsent
    | some found =>
        have hfound := List.mem_of_find?_eq_some hlookup
        have hkeyFound : key ∈ keys found := by
          simpa using List.find?_some hlookup
        rw [eq_of_key hrow hfound hkey hkeyFound]

theorem lookup_eq_none_iff : table.lookup key = none ↔ ∀ row ∈ table.rows, key ∉ keys row := by
  simp [lookup, List.find?_eq_none]

theorem mem_of_lookup (hlookup : table.lookup key = some row) : row ∈ table.rows :=
  (lookup_eq_some_iff.mp hlookup).1

/-- `INSERT`: the new row is appended unless a unique index already holds one
of its keys. -/
def insert? (table : Table Row keys) (row : Row) : Option (Table Row keys) :=
  if hfresh : ∀ stored ∈ table.rows, NoClash keys stored row then
    some
      { rows := table.rows ++ [row]
        unique := by
          rw [List.pairwise_append]
          exact ⟨table.unique, List.pairwise_singleton _ _, by
            intro stored hstored inserted hinserted
            rw [List.mem_singleton.mp hinserted]
            exact hfresh stored hstored⟩ }
  else none

variable {inserted : Table Row keys}

theorem rows_of_insert? (hinsert : table.insert? row = some inserted) :
    inserted.rows = table.rows ++ [row] := by
  unfold insert? at hinsert
  split at hinsert
  · rw [← Option.some.inj hinsert]
  · cases hinsert

theorem noClash_of_insert? (hinsert : table.insert? row = some inserted) :
    ∀ stored ∈ table.rows, NoClash keys stored row := by
  unfold insert? at hinsert
  split at hinsert
  · assumption
  · cases hinsert

theorem exists_insert?_of_fresh (hfresh : ∀ key ∈ keys row, table.lookup key = none) :
    ∃ inserted, table.insert? row = some inserted := by
  have hclash : ∀ stored ∈ table.rows, NoClash keys stored row := by
    intro stored hstored key hkeyStored hkeyRow
    exact lookup_eq_none_iff.mp (hfresh key hkeyRow) stored hstored hkeyStored
  exact ⟨_, dif_pos hclash⟩

theorem lookup_of_insert? (hinsert : table.insert? row = some inserted) (key : Key) :
    inserted.lookup key =
      if key ∈ keys row then some row else table.lookup key := by
  have hrows := rows_of_insert? hinsert
  split <;> rename_i hkey
  · exact lookup_eq_some_iff.mpr ⟨by simp [hrows], hkey⟩
  · simp [lookup, hrows, List.find?_append, hkey]

/-- `UPDATE` of columns outside the unique indexes; the update itself decides
by the row whether anything changes. -/
def map (table : Table Row keys) (update : Row → Row)
    (hkeys : ∀ row, keys (update row) = keys row) : Table Row keys where
  rows := table.rows.map update
  unique := by
    rw [List.pairwise_map]
    exact table.unique.imp (by simp [NoClash, hkeys])

omit [DecidableEq Key] in
@[simp]
theorem rows_map (table : Table Row keys) (update : Row → Row)
    (hkeys : ∀ row, keys (update row) = keys row) :
    (table.map update hkeys).rows = table.rows.map update := rfl

@[simp]
theorem lookup_map (table : Table Row keys) (update : Row → Row)
    (hkeys : ∀ row, keys (update row) = keys row) (key : Key) :
    (table.map update hkeys).lookup key = (table.lookup key).map update := by
  unfold lookup
  rw [rows_map, List.find?_map]
  congr 2
  funext row
  simp [Function.comp, hkeys]

/-- `UPDATE` by which a row may give up keys of unique indexes, but takes none. -/
def release (table : Table Row keys) (update : Row → Row)
    (hkeys : ∀ row, keys (update row) ⊆ keys row) : Table Row keys where
  rows := table.rows.map update
  unique := by
    rw [List.pairwise_map]
    exact table.unique.imp fun {left right} hclash key hleft hright =>
      hclash key (hkeys left hleft) (hkeys right hright)

omit [DecidableEq Key] in
@[simp]
theorem rows_release (table : Table Row keys) (update : Row → Row)
    (hkeys : ∀ row, keys (update row) ⊆ keys row) :
    (table.release update hkeys).rows = table.rows.map update := rfl

def delete (table : Table Row keys) (condition : Row → Bool) : Table Row keys where
  rows := table.rows.filter fun row => !condition row
  unique := table.unique.sublist List.filter_sublist

omit [DecidableEq Key] in
@[simp]
theorem mem_delete_iff {condition : Row → Bool} :
    row ∈ (table.delete condition).rows ↔ row ∈ table.rows ∧ condition row = false := by
  simp [delete]

omit [DecidableEq Key] in
theorem eq_of_rows {left right : Table Row keys} (hrows : left.rows = right.rows) :
    left = right := by
  cases left
  cases right
  cases hrows
  rfl

theorem ne_of_insert? (hinsert : table.insert? row = some inserted) : inserted ≠ table := by
  intro hsame
  have hlength := congrArg List.length (rows_of_insert? hinsert)
  rw [hsame, List.length_append] at hlength
  simp at hlength

theorem delete_of_insert? {condition : Row → Bool} (hinsert : table.insert? row = some inserted)
    (hrow : condition row = true)
    (hothers : ∀ stored, condition stored = true → NoClash keys stored row → False) :
    inserted.delete condition = table := by
  have hclash := noClash_of_insert? hinsert
  have hkept : table.rows.filter (fun stored => !condition stored) = table.rows := by
    refine List.filter_eq_self.mpr fun stored hstored => ?_
    cases hcondition : condition stored with
    | false => rfl
    | true => exact (hothers stored hcondition (hclash stored hstored)).elim
  have hrows : inserted.rows.filter (fun stored => !condition stored) = table.rows := by
    rw [rows_of_insert? hinsert, List.filter_append, hkept]
    simp [hrow]
  exact eq_of_rows hrows

/-- `UPDATE ... WHERE`: the rows on which `update` has no result stay as they
are. -/
def write (table : Table Row keys) (update : Row → Option Row)
    (hkeys : ∀ row next, update row = some next → keys next = keys row) :
    Table Row keys :=
  table.map (fun row => (update row).getD row) (by
    intro row
    cases hupdate : update row with
    | none => rfl
    | some next => exact hkeys row next hupdate)

omit [DecidableEq Key] in
@[simp]
theorem rows_write (table : Table Row keys) (update : Row → Option Row)
    (hkeys : ∀ row next, update row = some next → keys next = keys row) :
    (table.write update hkeys).rows =
      table.rows.map fun row => (update row).getD row := rfl

/-- `UPDATE` that may write an indexed column: it fails when two rows would
share a key. -/
def update? (table : Table Row keys) (update : Row → Row) :
    Option (Table Row keys) :=
  if hunique : (table.rows.map update).Pairwise (NoClash keys) then
    some { rows := table.rows.map update, unique := hunique }
  else none

theorem rows_of_update? {updated : Table Row keys} (hupdate : table.update? update = some updated) :
    updated.rows = table.rows.map update := by
  unfold update? at hupdate
  split at hupdate
  · rw [← Option.some.inj hupdate]
  · cases hupdate

/-- A key that `update` neither gives nor takes away leads to the updated row. -/
theorem lookup_of_update? {updated : Table Row keys}
    (hupdate : table.update? update = some updated)
    (hkey : ∀ row, key ∈ keys (update row) ↔ key ∈ keys row) :
    updated.lookup key = (table.lookup key).map update := by
  unfold lookup
  rw [rows_of_update? hupdate, List.find?_map]
  congr 2
  funext row
  simp only [Function.comp, hkey]

theorem exists_update?_of_keys (hkeys : ∀ row ∈ table.rows, keys (update row) = keys row) :
    ∃ updated, table.update? update = some updated := by
  have hunique : (table.rows.map update).Pairwise (NoClash keys) := by
    rw [List.pairwise_map]
    refine table.unique.imp_of_mem ?_
    intro left right hleft hright hclash
    simpa only [NoClash, hkeys left hleft, hkeys right hright] using hclash
  exact ⟨_, dif_pos hunique⟩

theorem exists_update?_of_fresh {target : Row} {held : Key} (hheld : held ∈ keys target)
    (hkeys : ∀ row ∈ table.rows, ∀ key ∈ keys (update row),
      key ∈ keys row ∨ row = target ∧ table.lookup key = none) :
    ∃ updated, table.update? update = some updated := by
  have hunique : (table.rows.map update).Pairwise (NoClash keys) := by
    rw [List.pairwise_map]
    refine table.unique.imp_of_mem ?_
    intro left right hleft hright hclash key hkeyLeft hkeyRight
    rcases hkeys left hleft key hkeyLeft with holdLeft | ⟨htarget, hfree⟩
    · rcases hkeys right hright key hkeyRight with holdRight | ⟨-, hfree⟩
      · exact hclash key holdLeft holdRight
      · exact lookup_eq_none_iff.mp hfree left hleft holdLeft
    · rcases hkeys right hright key hkeyRight with holdRight | ⟨hsame, -⟩
      · exact lookup_eq_none_iff.mp hfree right hright holdRight
      · rw [htarget, hsame] at hclash
        exact hclash held hheld hheld
  exact ⟨_, dif_pos hunique⟩

/-- `INSERT`, or an `UPDATE` of all columns when the row is there already. -/
def save? (table : Table Row keys) (row : Row) : Option (Table Row keys) :=
  if table.rows.any fun stored => keys stored = keys row then
    some (table.map (fun stored => if keys stored = keys row then row else stored) (by
      intro stored
      by_cases hsame : keys stored = keys row
      · rw [if_pos hsame, hsame]
      · rw [if_neg hsame]))
  else table.insert? row

theorem lookup_of_save? {saved : Table Row keys} (hsave : table.save? row = some saved)
    (hkey : key ∉ keys row) :
    saved.lookup key = table.lookup key := by
  unfold save? at hsave
  split at hsave
  · cases hsave
    rw [lookup_map]
    cases hlookup : table.lookup key with
    | none => rfl
    | some found =>
        have hother : keys found ≠ keys row := by
          intro hsame
          exact hkey (hsame ▸ (lookup_eq_some_iff.mp hlookup).2)
        rw [Option.map_some, if_neg hother]
  · rw [lookup_of_insert? hsave, if_neg hkey]

end Table

end XianyuAdmin
