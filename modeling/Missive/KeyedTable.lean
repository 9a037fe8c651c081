import Mathlib.Data.List.Sort
import Mathlib.Data.List.Nodup

/-! Tables with a primary key. The rows are kept in key order, which is the order
a query sorted by the key returns, so two tables with the same row under each
key are equal. `put` is `INSERT .. ON CONFLICT(key) DO UPDATE` of a whole row. -/
namespace Missive.KeyedTable

class Keyed (Row : Type) (Key : outParam Type) where
  key : Row → Key

export Keyed (key)

variable {Row Key : Type} [Keyed Row Key] [LinearOrder Key]

def putRow (row : Row) : List Row → List Row
  | [] => [row]
  | head :: tail =>
      if key row < key head then row :: head :: tail
      else if key row = key head then row :: tail
      else head :: putRow row tail

attribute [local simp] putRow

theorem mem_putRow (row other : Row) (rows : List Row)
    (sorted : rows.Pairwise fun a b => key a < key b) :
    other ∈ putRow row rows ↔ other = row ∨ (other ∈ rows ∧ key other ≠ key row) := by
  induction rows with
  | nil => simp
  | cons head tail ih =>
      obtain ⟨below, rest⟩ := List.pairwise_cons.mp sorted
      by_cases less : key row < key head
      · have away : ∀ next ∈ head :: tail, key next ≠ key row := by
          intro next member same
          rcases List.mem_cons.mp member with rfl | later
          · exact absurd same (ne_of_gt less)
          · exact absurd same (ne_of_gt (lt_trans less (below next later)))
        simp only [putRow, less, if_true, List.mem_cons]
        constructor
        · rintro (rfl | member)
          · exact Or.inl rfl
          · exact Or.inr ⟨member, away other (List.mem_cons.mpr member)⟩
        · rintro (rfl | ⟨member, _⟩)
          · exact Or.inl rfl
          · exact Or.inr member
      · by_cases same : key row = key head
        · have away : ∀ next ∈ tail, key next ≠ key row := by
            intro next member
            rw [same]
            exact ne_of_gt (below next member)
          simp only [putRow, if_neg less, if_pos same, List.mem_cons]
          constructor
          · rintro (rfl | member)
            · exact Or.inl rfl
            · exact Or.inr ⟨Or.inr member, away other member⟩
          · rintro (rfl | ⟨rfl | member, different⟩)
            · exact Or.inl rfl
            · exact absurd same.symm different
            · exact Or.inr member
        · simp only [putRow, less, same, if_false, List.mem_cons, ih rest]
          constructor
          · rintro (rfl | rfl | ⟨member, different⟩)
            · exact Or.inr ⟨Or.inl rfl, fun equal => same equal.symm⟩
            · exact Or.inl rfl
            · exact Or.inr ⟨Or.inr member, different⟩
          · rintro (rfl | ⟨rfl | member, different⟩)
            · exact Or.inr (Or.inl rfl)
            · exact Or.inl rfl
            · exact Or.inr (Or.inr ⟨member, different⟩)

theorem putRow_sorted (row : Row) (rows : List Row)
    (sorted : rows.Pairwise fun a b => key a < key b) :
    (putRow row rows).Pairwise fun a b => key a < key b := by
  induction rows with
  | nil => simp
  | cons head tail ih =>
      obtain ⟨below, rest⟩ := List.pairwise_cons.mp sorted
      by_cases less : key row < key head
      · simp only [putRow, less, if_true]
        refine List.pairwise_cons.mpr ⟨?_, sorted⟩
        intro next member
        rcases List.mem_cons.mp member with rfl | later
        · exact less
        · exact lt_trans less (below next later)
      · by_cases same : key row = key head
        · simp only [putRow, if_neg less, if_pos same]
          refine List.pairwise_cons.mpr ⟨?_, rest⟩
          intro next member
          rw [same]
          exact below next member
        · simp only [putRow, less, same, if_false]
          refine List.pairwise_cons.mpr ⟨?_, ih rest⟩
          intro next member
          rcases (mem_putRow row next tail rest).mp member with rfl | ⟨old, _⟩
          · exact lt_of_le_of_ne (not_lt.mp less) (fun equal => same equal.symm)
          · exact below next old

theorem putRow_perm (row : Row) (rows : List Row) (fresh : ∀ other ∈ rows, key other ≠ key row) :
    (putRow row rows).Perm (row :: rows) := by
  induction rows with
  | nil => exact List.Perm.refl [row]
  | cons head tail ih =>
      have apart : key row ≠ key head := (fresh head List.mem_cons_self).symm
      by_cases less : key row < key head
      · simp only [putRow, less, if_true]
        exact List.Perm.refl _
      · simp only [putRow, less, apart, if_false]
        have rest := ih fun other member => fresh other (List.mem_cons_of_mem head member)
        exact (rest.cons head).trans (List.Perm.swap row head tail)

theorem putRow_greatest (row : Row) (rows : List Row) (below : ∀ other ∈ rows, key other < key row) :
    putRow row rows = rows ++ [row] := by
  induction rows with
  | nil => rfl
  | cons head tail ih =>
      have less : key head < key row := below head List.mem_cons_self
      simp only [putRow, not_lt_of_gt less, (ne_of_lt less).symm, if_false, List.cons_append]
      rw [ih fun other member => below other (List.mem_cons_of_mem head member)]

/-- Rows under distinct keys, in key order. -/
structure Table (Row : Type) {Key : Type} [Keyed Row Key] [LinearOrder Key] where
  rows : List Row
  sorted : rows.Pairwise fun a b => key a < key b

namespace Table

def empty : Table Row := ⟨[], List.Pairwise.nil⟩

def find? (table : Table Row) (wanted : Key) : Option Row :=
  table.rows.find? fun row => key row = wanted

def put (table : Table Row) (row : Row) : Table Row :=
  ⟨putRow row table.rows, putRow_sorted row table.rows table.sorted⟩

def filter (table : Table Row) (keep : Row → Bool) : Table Row :=
  ⟨table.rows.filter keep, table.sorted.filter keep⟩

def mapRows (table : Table Row) (change : Row → Row)
    (keyed : ∀ row, key (change row) = key row) : Table Row :=
  ⟨table.rows.map change, by
    rw [List.pairwise_map]
    simpa only [keyed] using table.sorted⟩

theorem rows_injective {first last : Table Row} (same : first.rows = last.rows) : first = last := by
  obtain ⟨rows, sorted⟩ := first
  cases same
  rfl

theorem unique (table : Table Row) {first last : Row} (left : first ∈ table.rows)
    (right : last ∈ table.rows) (same : key first = key last) : first = last := by
  have distinct : (table.rows.map key).Nodup := by
    refine List.Pairwise.imp ?_ (List.pairwise_map.mpr table.sorted)
    intro a b less
    exact ne_of_lt less
  exact List.inj_on_of_nodup_map distinct left right same

theorem nodup (table : Table Row) : table.rows.Nodup :=
  table.sorted.imp fun less same => absurd (congrArg key same) (ne_of_lt less)

theorem find?_eq_some (table : Table Row) (wanted : Key) (row : Row) :
    table.find? wanted = some row ↔ row ∈ table.rows ∧ key row = wanted := by
  constructor
  · intro found
    exact ⟨List.mem_of_find?_eq_some found, by simpa using List.find?_some found⟩
  · rintro ⟨member, keyed⟩
    cases found : table.find? wanted with
    | none =>
        have absent := List.find?_eq_none.mp found row member
        simp [keyed] at absent
    | some other =>
        have known : key other = wanted := by simpa using List.find?_some found
        exact congrArg some (table.unique (List.mem_of_find?_eq_some found) member
          (known.trans keyed.symm))

theorem find?_self (table : Table Row) (row : Row) (member : row ∈ table.rows) :
    table.find? (key row) = some row :=
  (table.find?_eq_some (key row) row).mpr ⟨member, rfl⟩

theorem find?_key (table : Table Row) {wanted : Key} {row : Row}
    (found : table.find? wanted = some row) : key row = wanted :=
  ((table.find?_eq_some wanted row).mp found).2

theorem mem_put (table : Table Row) (row other : Row) :
    other ∈ (table.put row).rows ↔ other = row ∨ (other ∈ table.rows ∧ key other ≠ key row) :=
  mem_putRow row other table.rows table.sorted

-- Two tables agree on a key when they hold the same rows under it.
theorem find?_congr (first last : Table Row) (wanted : Key)
    (same : ∀ row, key row = wanted → (row ∈ first.rows ↔ row ∈ last.rows)) :
    first.find? wanted = last.find? wanted := by
  apply Option.ext
  intro row
  rw [find?_eq_some, find?_eq_some]
  constructor
  · rintro ⟨member, keyed⟩
    exact ⟨(same row keyed).mp member, keyed⟩
  · rintro ⟨member, keyed⟩
    exact ⟨(same row keyed).mpr member, keyed⟩

@[simp] theorem find?_put_self (table : Table Row) (row : Row) :
    (table.put row).find? (key row) = some row :=
  ((table.put row).find?_eq_some (key row) row).mpr ⟨(table.mem_put row row).mpr (Or.inl rfl), rfl⟩

theorem find?_put_other (table : Table Row) (row : Row) (wanted : Key)
    (different : wanted ≠ key row) : (table.put row).find? wanted = table.find? wanted := by
  apply find?_congr
  intro other keyed
  rw [mem_put]
  constructor
  · rintro (rfl | ⟨member, _⟩)
    · exact absurd keyed.symm different
    · exact member
  · intro member
    exact Or.inr ⟨member, keyed ▸ different⟩

theorem find?_put (table : Table Row) (row : Row) (wanted : Key) :
    (table.put row).find? wanted = if wanted = key row then some row else table.find? wanted := by
  by_cases same : wanted = key row
  · rw [if_pos same, same, find?_put_self]
  · rw [if_neg same, find?_put_other table row wanted same]

theorem find?_filter (table : Table Row) (keep : Row → Bool) (wanted : Key) :
    (table.filter keep).find? wanted = (table.find? wanted).filter keep := by
  apply Option.ext
  intro row
  rw [find?_eq_some, Option.filter_eq_some_iff, find?_eq_some, filter, List.mem_filter]
  constructor
  · rintro ⟨⟨member, kept⟩, keyed⟩
    exact ⟨⟨member, keyed⟩, kept⟩
  · rintro ⟨⟨member, keyed⟩, kept⟩
    exact ⟨⟨member, kept⟩, keyed⟩

theorem find?_mapRows (table : Table Row) (change : Row → Row)
    (keyed : ∀ row, key (change row) = key row) (wanted : Key) :
    (table.mapRows change keyed).find? wanted = (table.find? wanted).map change := by
  simp only [find?, mapRows, List.find?_map, Function.comp_def, keyed]

/-- A table is determined by the row under each key. -/
theorem ext_find? {first last : Table Row} (same : ∀ wanted, first.find? wanted = last.find? wanted) :
    first = last := by
  apply rows_injective
  have irreflexive : Std.Irrefl fun a b : Row => key a < key b := ⟨fun a => lt_irrefl (key a)⟩
  have antisymmetric : Std.Antisymm fun a b : Row => key a < key b :=
    ⟨fun a b less greater => absurd greater (lt_asymm less)⟩
  apply List.Pairwise.eq_of_mem_iff first.sorted last.sorted
  intro row
  constructor
  · intro member
    have found := first.find?_self row member
    rw [same] at found
    exact ((last.find?_eq_some (key row) row).mp found).1
  · intro member
    have found := last.find?_self row member
    rw [← same] at found
    exact ((first.find?_eq_some (key row) row).mp found).1

theorem put_perm (table : Table Row) (row : Row) (absent : table.find? (key row) = none) :
    (table.put row).rows.Perm (row :: table.rows) := by
  apply putRow_perm
  intro other member same
  have found := table.find?_self other member
  rw [same, absent] at found
  contradiction

-- A table is one of its rows and the rows under the other keys.
theorem perm_found (table : Table Row) {row : Row} (keep : Row → Bool)
    (others : ∀ other, keep other = true ↔ key other ≠ key row) (member : row ∈ table.rows) :
    table.rows.Perm (row :: (table.filter keep).rows) := by
  have absent : row ∉ (table.filter keep).rows := by
    intro inside
    exact (others row).mp (List.mem_filter.mp inside).2 rfl
  refine (List.perm_ext_iff_of_nodup table.nodup
    (List.nodup_cons.mpr ⟨absent, (table.filter keep).nodup⟩)).mpr ?_
  intro other
  rw [List.mem_cons]
  constructor
  · intro stored
    by_cases same : key other = key row
    · exact Or.inl (table.unique stored member same)
    · exact Or.inr (List.mem_filter.mpr ⟨stored, (others other).mpr same⟩)
  · rintro (rfl | inside)
    · exact member
    · exact (List.mem_filter.mp inside).1

-- The later of two rows under one key stays.
theorem put_put (table : Table Row) (first last : Row) (same : key first = key last) :
    (table.put first).put last = table.put last := by
  apply ext_find?
  intro wanted
  rw [find?_put, find?_put, find?_put, same]
  split <;> rfl

theorem filter_put (table : Table Row) (keep : Row → Bool) (row : Row) (kept : keep row = true) :
    (table.put row).filter keep = (table.filter keep).put row := by
  apply ext_find?
  intro wanted
  rw [find?_filter, find?_put, find?_put, find?_filter]
  by_cases same : wanted = key row
  · rw [if_pos same, if_pos same, Option.filter_some, if_pos kept]
  · rw [if_neg same, if_neg same]

-- A row the filter drops is not seen when it is written, unless it takes the place of one that was.
theorem filter_put_dropped (table : Table Row) (keep : Row → Bool) (row : Row)
    (dropped : keep row = false) (apart : ∀ old, table.find? (key row) = some old → keep old = false) :
    (table.put row).filter keep = table.filter keep := by
  apply ext_find?
  intro wanted
  rw [find?_filter, find?_put, find?_filter]
  by_cases same : wanted = key row
  · rw [if_pos same, same, Option.filter_some, dropped]
    cases found : table.find? (key row) with
    | none => rfl
    | some old => simp [Option.filter_some, apart old found]
  · rw [if_neg same]

theorem rows_foldl_put (rest : List Row) (table : Table Row)
    (sorted : (table.rows ++ rest).Pairwise fun a b => key a < key b) :
    (rest.foldl put table).rows = table.rows ++ rest := by
  induction rest generalizing table with
  | nil => exact (List.append_nil table.rows).symm
  | cons row rest ih =>
      have below : ∀ other ∈ table.rows, key other < key row := by
        intro other member
        exact (List.pairwise_append.mp sorted).2.2 other member row List.mem_cons_self
      have grown : (table.put row).rows = table.rows ++ [row] := putRow_greatest row table.rows below
      have split : (table.put row).rows ++ rest = table.rows ++ row :: rest := by simp [grown]
      rw [List.foldl_cons, ih (table.put row) (split ▸ sorted), split]

-- The rows of a table, put one after another.
theorem foldl_put_rows (table : Table Row) : table.rows.foldl put empty = table :=
  rows_injective (rows_foldl_put table.rows empty table.sorted)

end Table
end Missive.KeyedTable
