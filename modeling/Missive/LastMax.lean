import Mathlib.Data.List.Induction
import Mathlib.Data.Prod.Lex

/-! The last greatest item of a list, which `Iterator::max_by_key` returns. -/
namespace Missive.LastMax

variable {Item Key Other : Type} [LinearOrder Key] [LinearOrder Other]

def later (key : Item → Key) (best : Option Item) (item : Item) : Option Item :=
  match best with
  | none => some item
  | some held => if key item < key held then some held else some item

def maxByKey (key : Item → Key) (items : List Item) : Option Item := items.foldl (later key) none

variable {key : Item → Key} {items : List Item} {winner : Item}

@[simp] theorem maxByKey_nil : maxByKey key ([] : List Item) = none := rfl

theorem maxByKey_concat (key : Item → Key) (items : List Item) (item : Item) :
    maxByKey key (items ++ [item]) = later key (maxByKey key items) item := by
  simp [maxByKey, List.foldl_append]

theorem maxByKey_eq_none : maxByKey key items = none ↔ items = [] := by
  induction items using List.reverseRecOn with
  | nil => simp
  | append_singleton rest item ih =>
      rw [maxByKey_concat]
      constructor
      · intro absent
        unfold later at absent
        split at absent
        · contradiction
        · split at absent <;> contradiction
      · simp

theorem maxByKey_mem (found : maxByKey key items = some winner) : winner ∈ items := by
  induction items using List.reverseRecOn generalizing winner with
  | nil => contradiction
  | append_singleton rest item ih =>
      rw [maxByKey_concat] at found
      unfold later at found
      split at found
      · cases found
        simp
      · rename_i held shown
        split at found
        · cases found
          exact List.mem_append_left _ (ih shown)
        · cases found
          simp

theorem maxByKey_le (found : maxByKey key items = some winner) :
    ∀ item ∈ items, key item ≤ key winner := by
  induction items using List.reverseRecOn generalizing winner with
  | nil => contradiction
  | append_singleton rest last ih =>
      rw [maxByKey_concat] at found
      intro item member
      unfold later at found
      split at found
      · rename_i absent
        cases found
        cases maxByKey_eq_none.mp absent
        cases List.mem_singleton.mp member
        exact le_rfl
      · rename_i held shown
        split at found
        · rename_i below
          cases found
          rcases List.mem_append.mp member with early | late
          · exact ih shown item early
          · cases List.mem_singleton.mp late
            exact below.le
        · rename_i above
          cases found
          rcases List.mem_append.mp member with early | late
          · exact (ih shown item early).trans (not_lt.mp above)
          · cases List.mem_singleton.mp late
            exact le_rfl

-- Among items listed in the order of another key, ties go to the greater of them.
theorem maxByKey_sorted {second : Item → Other}
    (sorted : items.Pairwise fun first last => second first < second last) :
    maxByKey key items = maxByKey (fun item => toLex (key item, second item)) items := by
  induction items using List.reverseRecOn with
  | nil => rfl
  | append_singleton rest item ih =>
      obtain ⟨front, _, below⟩ := List.pairwise_append.mp sorted
      rw [maxByKey_concat, maxByKey_concat, ← ih front]
      cases shown : maxByKey key rest with
      | none => rfl
      | some held =>
          have ahead := below held (maxByKey_mem shown) item (by simp)
          have same : key item < key held ↔
              toLex (key item, second item) < toLex (key held, second held) := by
            rw [Prod.Lex.toLex_lt_toLex]
            constructor
            · exact Or.inl
            · rintro (less | ⟨_, behind⟩)
              · exact less
              · exact absurd ahead (lt_asymm behind)
          simp only [later, same]

end Missive.LastMax
