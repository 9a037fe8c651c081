import Missive.KeyedTable

/-! Changing the keys of a table's rows, as `ON UPDATE CASCADE` does. The changed rows are put
into an empty table one after another, so no row is lost as long as no two of them meet under
one key. -/
namespace Missive.TableRenaming

open KeyedTable

variable {Row Key : Type} [Keyed Row Key] [LinearOrder Key]

def rekey (table : Table Row) (change : Row → Row) : Table Row :=
  (table.rows.map change).foldl Table.put Table.empty

-- No two rows of the table are given one key.
def Apart (table : Table Row) (change : Row → Row) : Prop :=
  ∀ first ∈ table.rows, ∀ last ∈ table.rows,
    key (change first) = key (change last) → key first = key last

theorem foldl_put_perm (rows : List Row) (table : Table Row)
    (distinct : ((rows ++ table.rows).map key).Nodup) :
    (rows.foldl Table.put table).rows.Perm (rows ++ table.rows) := by
  induction rows generalizing table with
  | nil => exact List.Perm.refl _
  | cons row rest ih =>
      rw [List.cons_append, List.map_cons, List.nodup_cons] at distinct
      have absent : table.find? (key row) = none := by
        apply Option.eq_none_iff_forall_not_mem.mpr
        intro other found
        apply distinct.1
        have stored := (table.find?_eq_some (key row) other).mp found
        rw [← stored.2]
        exact List.mem_map_of_mem (List.mem_append_right rest stored.1)
      have moved : (rest ++ (table.put row).rows).Perm (row :: (rest ++ table.rows)) :=
        ((table.put_perm row absent).append_left rest).trans List.perm_middle
      have still : ((rest ++ (table.put row).rows).map key).Nodup := by
        rw [(moved.map key).nodup_iff, List.map_cons, List.nodup_cons]
        exact distinct
      exact (ih (table.put row) still).trans moved

section Rows

variable {table : Table Row} {change : Row → Row}

theorem changed_keys_distinct (apart : Apart table change) :
    ((table.rows.map change).map key).Nodup := by
  rw [List.map_map]
  refine List.Nodup.map_on ?_ table.nodup
  intro first left last right same
  exact table.unique left right (apart first left last right same)

theorem rekey_perm (apart : Apart table change) :
    (rekey table change).rows.Perm (table.rows.map change) := by
  have distinct : ((table.rows.map change ++ (Table.empty : Table Row).rows).map key).Nodup := by
    simpa [Table.empty] using changed_keys_distinct apart
  simpa [Table.empty, rekey] using foldl_put_perm (table.rows.map change) Table.empty distinct

theorem mem_rekey (apart : Apart table change) {row : Row} :
    row ∈ (rekey table change).rows ↔ ∃ old ∈ table.rows, change old = row := by
  rw [(rekey_perm apart).mem_iff, List.mem_map]

-- Where the key of a changed row tells the key it had, lookups go back.
theorem find?_rekey (apart : Apart table change) {wanted : Key} (former : Key)
    (back : ∀ row ∈ table.rows, key (change row) = wanted ↔ key row = former) :
    (rekey table change).find? wanted = (table.find? former).map change := by
  apply Option.ext
  intro row
  rw [Table.find?_eq_some, mem_rekey apart, Option.map_eq_some_iff]
  constructor
  · rintro ⟨⟨old, stored, rfl⟩, keyed⟩
    exact ⟨old, (table.find?_eq_some former old).mpr ⟨stored, (back old stored).mp keyed⟩, rfl⟩
  · rintro ⟨old, found, rfl⟩
    have stored := (table.find?_eq_some former old).mp found
    exact ⟨⟨old, stored.1, rfl⟩, (back old stored.1).mpr stored.2⟩

theorem find?_rekey_none (apart : Apart table change) {wanted : Key}
    (away : ∀ row ∈ table.rows, key (change row) ≠ wanted) :
    (rekey table change).find? wanted = none := by
  apply Option.eq_none_iff_forall_not_mem.mpr
  intro row found
  have stored := ((rekey table change).find?_eq_some wanted row).mp found
  have changed := (mem_rekey apart).mp stored.1
  rcases changed with ⟨old, member, rfl⟩
  exact away old member stored.2

end Rows

end Missive.TableRenaming
