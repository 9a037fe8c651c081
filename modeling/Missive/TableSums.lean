import Mathlib.Algebra.BigOperators.Group.List.Basic
import Mathlib.Algebra.GroupWithZero.Nat
import Missive.KeyedTable

/-! Sums over the rows of a table, and what putting a row does to them. -/
namespace Missive.KeyedTable

variable {Row Key : Type} [Keyed Row Key] [LinearOrder Key]

theorem sum_putRow (weight : Row → Nat) (row : Row) (rows : List Row)
    (sorted : rows.Pairwise fun a b => key a < key b) :
    ((putRow row rows).map weight).sum +
        (rows.find? fun other => key other = key row).elim 0 weight =
      (rows.map weight).sum + weight row := by
  induction rows with
  | nil => simp [putRow]
  | cons head tail ih =>
      obtain ⟨below, later⟩ := List.pairwise_cons.mp sorted
      by_cases less : key row < key head
      · have absent : ((head :: tail).find? fun other => key other = key row) = none := by
          rw [List.find?_eq_none]
          intro other member
          rcases List.mem_cons.mp member with rfl | inside
          · simpa using (ne_of_lt less).symm
          · simpa using (ne_of_lt (lt_trans less (below other inside))).symm
        rw [absent, putRow, if_pos less]
        simp only [List.map_cons, List.sum_cons, Option.elim_none]
        omega
      · by_cases same : key row = key head
        · rw [putRow, if_neg less, if_pos same, List.find?_cons_of_pos (by simpa using same.symm)]
          simp only [List.map_cons, List.sum_cons, Option.elim_some]
          omega
        · have apart : decide (key head = key row) = false := decide_eq_false (Ne.symm same)
          have rest := ih later
          rw [putRow, if_neg less, if_neg same]
          simp only [List.find?_cons, apart, List.map_cons, List.sum_cons]
          omega

theorem Table.sum_put (table : Table Row) (weight : Row → Nat) (row : Row) :
    ((table.put row).rows.map weight).sum + (table.find? (key row)).elim 0 weight =
      (table.rows.map weight).sum + weight row :=
  sum_putRow weight row table.rows table.sorted

end Missive.KeyedTable
