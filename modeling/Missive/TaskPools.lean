import Mathlib.Algebra.BigOperators.Group.List.Basic
import Mathlib.Algebra.GroupWithZero.Nat
import Mathlib.Data.List.Basic
import Mathlib.Data.List.Perm.Basic

/-! Tasks that take turns. An arrival adds a task to the pool and a turn replaces one; what a task
contributes is an optional item, and the items of the pool change by what changes in that task's. -/
namespace Missive.TaskPools

variable {Task Item : Type} {contributes : Task → Option Item} {pool : List Task} {index : Nat}
  {old new : Task}

theorem mem_set {task : Task} (member : task ∈ pool.set index new) :
    task = new ∨ task ∈ pool := by
  rcases List.mem_or_eq_of_mem_set member with kept | replaced
  · exact Or.inr kept
  · exact Or.inl replaced

theorem items_kept (found : pool[index]? = some old) (same : contributes new = contributes old) :
    (pool.set index new).filterMap contributes = pool.filterMap contributes := by
  induction pool generalizing index with
  | nil => simp at found
  | cons head rest ih =>
      cases index with
      | zero =>
          cases found
          simp only [List.set_cons_zero, List.filterMap_cons, same]
      | succ below =>
          rw [List.set_cons_succ, List.filterMap_cons, List.filterMap_cons, ih found]

theorem items_gained {item : Item} (found : pool[index]? = some old) (none : contributes old = none)
    (gains : contributes new = some item) :
    ((pool.set index new).filterMap contributes).Perm (pool.filterMap contributes ++ [item]) := by
  induction pool generalizing index with
  | nil => simp at found
  | cons head rest ih =>
      cases index with
      | zero =>
          cases found
          simp only [List.set_cons_zero, List.filterMap_cons, none, gains]
          exact @List.perm_append_comm _ [item] _
      | succ below =>
          simp only [List.set_cons_succ, List.filterMap_cons]
          cases contributes head with
          | none => exact ih found
          | some other => exact (ih found).cons other

theorem items_lost (found : pool[index]? = some old) (none : contributes new = none) :
    ((pool.set index new).filterMap contributes).Sublist (pool.filterMap contributes) := by
  induction pool generalizing index with
  | nil => simp at found
  | cons head rest ih =>
      cases index with
      | zero =>
          cases found
          simp only [List.set_cons_zero, List.filterMap_cons, none]
          cases contributes old with
          | none => exact List.Sublist.refl _
          | some item => exact List.sublist_cons_self item _
      | succ below =>
          simp only [List.set_cons_succ, List.filterMap_cons]
          cases contributes head with
          | none => exact ih found
          | some item => exact (ih found).cons_cons item

-- No two tasks contribute the same item, so the item of a replaced task is gone.
theorem item_gone {item : Item} (found : pool[index]? = some old)
    (distinct : (pool.filterMap contributes).Nodup) (had : contributes old = some item)
    (none : contributes new = none) : item ∉ (pool.set index new).filterMap contributes := by
  induction pool generalizing index with
  | nil => simp at found
  | cons head rest ih =>
      cases index with
      | zero =>
          cases found
          simp only [List.filterMap_cons, had, List.nodup_cons] at distinct
          simpa only [List.set_cons_zero, List.filterMap_cons, none] using distinct.1
      | succ below =>
          have inside : item ∈ rest.filterMap contributes :=
            List.mem_filterMap.mpr ⟨old, List.mem_of_getElem? found, had⟩
          simp only [List.set_cons_succ, List.filterMap_cons] at distinct ⊢
          cases given : contributes head with
          | none =>
              rw [given] at distinct
              exact ih found distinct
          | some other =>
              rw [given, List.nodup_cons] at distinct
              rw [List.mem_cons, not_or]
              exact ⟨fun same => distinct.1 (same ▸ inside), ih found distinct.2⟩

theorem items_filtered {part whole : Task → Option Item} {kept : Item → Bool}
    (same : ∀ task ∈ pool, part task = (whole task).filter kept) :
    pool.filterMap part = (pool.filterMap whole).filter kept := by
  induction pool with
  | nil => rfl
  | cons head rest ih =>
      have later := ih fun task member => same task (List.mem_cons_of_mem _ member)
      rw [List.filterMap_cons, List.filterMap_cons, same head List.mem_cons_self, later]
      cases whole head with
      | none => rfl
      | some item =>
          by_cases keeps : kept item = true <;> simp [Option.filter, keeps]

theorem count_below {part whole : Task → Option Item} {kept : Item → Bool}
    (below : ∀ task ∈ pool, ∀ item, part task = some item →
      whole task = some item ∧ kept item = true) :
    (pool.filterMap part).length ≤ (pool.filterMap whole).countP kept := by
  induction pool with
  | nil => exact Nat.le_refl 0
  | cons head rest ih =>
      have later := ih fun task member => below task (List.mem_cons_of_mem _ member)
      simp only [List.filterMap_cons]
      cases given : part head with
      | none =>
          cases whole head with
          | none => exact later
          | some item =>
              rw [List.countP_cons]
              exact Nat.le_add_right_of_le later
      | some item =>
          have ⟨held, keeps⟩ := below head List.mem_cons_self item given
          rw [held]
          simpa [keeps] using later

theorem sum_lowered {weight : Task → Nat} (found : pool[index]? = some old)
    (lower : weight new < weight old) :
    ((pool.set index new).map weight).sum < (pool.map weight).sum := by
  induction pool generalizing index with
  | nil => simp at found
  | cons head rest ih =>
      cases index with
      | zero =>
          cases found
          simpa using lower
      | succ below =>
          have later := ih found
          simp only [List.set_cons_succ, List.map_cons, List.sum_cons]
          omega

theorem items_joined (none : contributes new = none) :
    (pool ++ [new]).filterMap contributes = pool.filterMap contributes := by
  simp [none]

theorem count_kept (found : pool[index]? = some old) (same : contributes new = contributes old) :
    ((pool.set index new).filterMap contributes).length = (pool.filterMap contributes).length := by
  rw [items_kept found same]

theorem count_gained {item : Item} (found : pool[index]? = some old)
    (none : contributes old = none) (gains : contributes new = some item) :
    ((pool.set index new).filterMap contributes).length =
      (pool.filterMap contributes).length + 1 := by
  rw [(items_gained found none gains).length_eq, List.length_append, List.length_singleton]

end Missive.TaskPools
