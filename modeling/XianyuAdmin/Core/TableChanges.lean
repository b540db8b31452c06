import XianyuAdmin.Core.Table

/-!
# What becomes of the rows of a table

A transaction rewrites rows and inserts some.  `Follows` says of each row what may
become of it, and of each row that was not there before what it may be; a property of
the rows is carried over from it without a look at the transaction.
-/

namespace XianyuAdmin.Table

variable {Row Key : Type*} {keys : Row → List Key}

structure Follows (effect : Row → Row → Prop) (isNew : Row → Prop)
    (before after : Table Row keys) : Prop where
  kept : ∀ row ∈ before.rows, ∃ next ∈ after.rows, effect row next
  origin : ∀ next ∈ after.rows, (∃ row ∈ before.rows, effect row next) ∨ isNew next

variable {effect : Row → Row → Prop} {isNew : Row → Prop}

theorem Follows.refl (hrefl : ∀ row, effect row row) (table : Table Row keys) :
    Follows effect isNew table table where
  kept := fun row hrow => ⟨row, hrow, hrefl row⟩
  origin := fun row hrow => .inl ⟨row, hrow, hrefl row⟩

theorem follows_map {before after : Table Row keys} {update : Row → Row}
    (hrows : after.rows = before.rows.map update)
    (heffect : ∀ row ∈ before.rows, effect row (update row)) :
    Follows effect isNew before after where
  kept := by
    intro row hrow
    refine ⟨update row, ?_, heffect row hrow⟩
    rw [hrows]
    exact List.mem_map_of_mem hrow
  origin := by
    intro next hnext
    rw [hrows] at hnext
    obtain ⟨row, hrow, rfl⟩ := List.mem_map.mp hnext
    exact .inl ⟨row, hrow, heffect row hrow⟩

theorem follows_write {before after : Table Row keys} {update : Row → Option Row}
    (hrows : after.rows = before.rows.map fun row => (update row).getD row)
    (hrefl : ∀ row, effect row row)
    (heffect : ∀ row ∈ before.rows, ∀ next, update row = some next → effect row next) :
    Follows effect isNew before after := by
  refine follows_map hrows fun row hrow => ?_
  cases hupdate : update row with
  | none => exact hrefl row
  | some next => exact heffect row hrow next hupdate

theorem follows_append {before after : Table Row keys} {row : Row}
    (hrefl : ∀ stored, effect stored stored) (hnew : isNew row)
    (hrows : after.rows = before.rows ++ [row]) : Follows effect isNew before after where
  kept := by
    intro stored hstored
    refine ⟨stored, ?_, hrefl stored⟩
    rw [hrows]
    exact List.mem_append_left _ hstored
  origin := by
    intro next hnext
    rw [hrows] at hnext
    rcases List.mem_append.mp hnext with hstored | hadded
    · exact .inl ⟨next, hstored, hrefl next⟩
    · rw [List.mem_singleton.mp hadded]
      exact .inr hnew

variable [DecidableEq Key]

theorem follows_insert? {table inserted : Table Row keys} {row : Row}
    (hrefl : ∀ row, effect row row) (hnew : isNew row)
    (hinsert : table.insert? row = some inserted) :
    Follows effect isNew table inserted :=
  follows_append hrefl hnew (rows_of_insert? hinsert)

end XianyuAdmin.Table
