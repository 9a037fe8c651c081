import Mathlib.Data.List.Nodup
import Mathlib.Data.List.Perm.Subperm
import Mathlib.Logic.Function.Defs

/-! The search for a name that nobody uses yet, among numbered candidates that all differ. Of more
candidates than there are names in use one is free, so that the search ends. -/
namespace Missive.SuffixSearch

variable {Name : Type} [DecidableEq Name] (used : List Name) (candidate : Nat → Name)

-- The first argument bounds the number of tries.
def search : Nat → Nat → Option Name
  | 0, _ => none
  | tries + 1, suffix =>
      if candidate suffix ∈ used then search tries (suffix + 1) else some (candidate suffix)

variable {used candidate}

theorem search_first {tries start : Nat} {name : Name}
    (found : search used candidate tries start = some name) :
    ∃ suffix, start ≤ suffix ∧ suffix < start + tries ∧ name = candidate suffix ∧
      candidate suffix ∉ used ∧
      ∀ earlier, start ≤ earlier → earlier < suffix → candidate earlier ∈ used := by
  induction tries generalizing start with
  | zero => cases found
  | succ tries ih =>
      rw [search] at found
      by_cases taken : candidate start ∈ used
      · rw [if_pos taken] at found
        obtain ⟨suffix, after, within, named, free, before⟩ := ih found
        refine ⟨suffix, by omega, by omega, named, free, fun earlier from_ less => ?_⟩
        by_cases first : earlier = start
        · exact first ▸ taken
        · exact before earlier (by omega) less
      · rw [if_neg taken] at found
        cases found
        exact ⟨start, Nat.le_refl start, by omega, rfl, taken, fun earlier _ _ => by omega⟩

theorem search_none {tries start : Nat} (lost : search used candidate tries start = none) :
    ∀ tried < tries, candidate (start + tried) ∈ used := by
  induction tries generalizing start with
  | zero => exact fun tried less => absurd less (Nat.not_lt_zero tried)
  | succ tries ih =>
      rw [search] at lost
      by_cases taken : candidate start ∈ used
      · rw [if_pos taken] at lost
        intro tried less
        cases tried with
        | zero => exact taken
        | succ tried =>
            have later := ih lost tried (by omega)
            rwa [Nat.add_assoc, Nat.add_comm 1] at later
      · rw [if_neg taken] at lost
        cases lost

omit [DecidableEq Name] in
-- There are at least as many names in use as candidates among them.
theorem count_used (injective : Function.Injective candidate) {start count : Nat}
    (covered : ∀ tried < count, candidate (start + tried) ∈ used) : count ≤ used.length := by
  have distinct : ((List.range count).map fun tried => candidate (start + tried)).Nodup := by
    apply List.nodup_range.map
    intro first last same
    have := injective same
    omega
  have inside : ((List.range count).map fun tried => candidate (start + tried)) ⊆ used := by
    intro name member
    obtain ⟨tried, listed, rfl⟩ := List.mem_map.mp member
    exact covered tried (List.mem_range.mp listed)
  simpa using (distinct.subperm inside).length_le

/-- Whatever names are in use, one more try than there are names is enough. -/
theorem search_ends (injective : Function.Injective candidate) {tries : Nat}
    (enough : used.length < tries) (start : Nat) :
    ∃ suffix, start ≤ suffix ∧ suffix ≤ start + used.length ∧ candidate suffix ∉ used ∧
      search used candidate tries start = some (candidate suffix) := by
  cases found : search used candidate tries start with
  | none =>
      have short := count_used injective (search_none found)
      omega
  | some name =>
      obtain ⟨suffix, after, _, named, free, before⟩ := search_first found
      have short : suffix - start ≤ used.length := by
        apply count_used injective
        intro tried less
        exact before (start + tried) (by omega) (by omega)
      exact ⟨suffix, after, by omega, free, congrArg some named⟩

end Missive.SuffixSearch
