import Missive.TableRenaming

/-! Constraints over keyed tables. References: which of them still name a row when rows of the
other table are written, deleted or renamed. Unique columns: which rows may hold one value. -/
namespace Missive.TableConstraints

open KeyedTable TableRenaming

variable {Row Key : Type} [Keyed Row Key] [LinearOrder Key] {table : Table Row}
  {reference : Option Key}

-- A reference is accepted when it is null or names a row.
def known (table : Table Row) (reference : Option Key) : Bool :=
  reference.all fun wanted => (table.find? wanted).isSome

@[simp] theorem known_none : known table none = true := rfl

theorem known_put (named : known table reference = true) (row : Row) :
    known (table.put row) reference = true := by
  cases reference with
  | none => rfl
  | some wanted =>
      simp only [known, Option.all_some, Table.find?_put] at named ⊢
      split
      · rfl
      · exact named

section Deleting

variable [DecidableEq Key] {gone : Key}

-- `ON DELETE SET NULL`
def clear (gone : Key) (reference : Option Key) : Option Key :=
  if reference = some gone then none else reference

def without (table : Table Row) (gone : Key) : Table Row := table.filter fun row => key row ≠ gone

omit [LinearOrder Key] in
@[simp] theorem clear_none : clear gone none = none := by simp [clear]

omit [LinearOrder Key] in
theorem clear_other (other : reference ≠ some gone) : clear gone reference = reference :=
  if_neg other

theorem known_without (named : known table reference = true) (other : reference ≠ some gone) :
    known (without table gone) reference = true := by
  cases reference with
  | none => rfl
  | some wanted =>
      simp only [known, Option.all_some, Option.isSome_iff_exists] at named ⊢
      rcases named with ⟨row, found⟩
      have keyed : key row = wanted := table.find?_key found
      have stays : wanted ≠ gone := fun same => other (congrArg some same)
      refine ⟨row, ?_⟩
      simp [without, Table.find?_filter, found, Option.filter, keyed, stays]

theorem known_clear (named : known table reference = true) :
    known (without table gone) (clear gone reference) = true := by
  by_cases same : reference = some gone
  · rw [clear, if_pos same]
    rfl
  · rw [clear_other same]
    exact known_without named same

end Deleting

theorem known_mapRows {change : Row → Row} (keyed : ∀ row, key (change row) = key row)
    (named : known table reference = true) :
    known (table.mapRows change keyed) reference = true := by
  cases reference with
  | none => rfl
  | some wanted => simpa [known, Table.find?_mapRows] using named

/-- `ON UPDATE CASCADE`: renamed references name the renamed rows. -/
theorem known_rekey {change : Row → Row} {rename : Key → Key} (apart : Apart table change)
    (renamed : ∀ row ∈ table.rows, key (change row) = rename (key row))
    (named : known table reference = true) :
    known (rekey table change) (reference.map rename) = true := by
  cases reference with
  | none => rfl
  | some wanted =>
      simp only [known, Option.map_some, Option.all_some, Option.isSome_iff_exists] at named ⊢
      rcases named with ⟨row, found⟩
      have stored := (table.find?_eq_some wanted row).mp found
      refine ⟨change row, ((rekey table change).find?_eq_some _ _).mpr ⟨?_, ?_⟩⟩
      · exact (mem_rekey apart).mpr ⟨row, stored.1, rfl⟩
      · rw [renamed row stored.1, stored.2]

/-! Unique columns. -/

section Unique

variable {Value : Type} {column : Row → Value}

def UniqueBy (column : Row → Value) (table : Table Row) : Prop :=
  ∀ first ∈ table.rows, ∀ last ∈ table.rows, column first = column last → key first = key last

theorem unique_put (unique : UniqueBy column table) (row : Row)
    (alone : ∀ other ∈ table.rows, column other = column row → key other = key row) :
    UniqueBy column (table.put row) := by
  intro first left last right same
  rcases (table.mem_put row first).mp left with rfl | ⟨one, -⟩
  · rcases (table.mem_put first last).mp right with rfl | ⟨other, -⟩
    · rfl
    · exact (alone last other same.symm).symm
  · rcases (table.mem_put row last).mp right with rfl | ⟨other, -⟩
    · exact alone first one same
    · exact unique first one last other same

theorem unique_filter (unique : UniqueBy column table) (keep : Row → Bool) :
    UniqueBy column (table.filter keep) :=
  fun first left last right => unique first (List.mem_of_mem_filter left) last
    (List.mem_of_mem_filter right)

theorem unique_mapRows (unique : UniqueBy column table) {change : Row → Row}
    (keyed : ∀ row, key (change row) = key row) (kept : ∀ row, column (change row) = column row) :
    UniqueBy column (table.mapRows change keyed) := by
  intro first left last right same
  simp only [Table.mapRows, List.mem_map] at left right
  rcases left with ⟨one, stored, rfl⟩
  rcases right with ⟨other, known, rfl⟩
  rw [kept, kept] at same
  rw [keyed, keyed]
  exact unique one stored other known same

theorem unique_rekey (unique : UniqueBy column table) {change : Row → Row}
    (apart : Apart table change)
    (kept : ∀ first ∈ table.rows, ∀ last ∈ table.rows,
      column (change first) = column (change last) →
      column first = column last)
    (keys : ∀ first ∈ table.rows, ∀ last ∈ table.rows, key first = key last →
      key (change first) = key (change last)) :
    UniqueBy column (rekey table change) := by
  intro first left last right same
  rcases (mem_rekey apart).mp left with ⟨one, stored, rfl⟩
  rcases (mem_rekey apart).mp right with ⟨other, known, rfl⟩
  exact keys one stored other known (unique one stored other known
    (kept one stored other known same))

end Unique

end Missive.TableConstraints
