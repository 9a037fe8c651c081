import Mathlib.Data.List.Forall2
import Mathlib.Data.List.Nodup
import Mathlib.Data.Nat.Basic
import Mathlib.Order.Lattice
import Mathlib.Order.OrderDual

/-! Lists in the order of a key: sorting by it, and looking for the first or the last item that
something can be read from. -/
namespace Missive.OrderedLists

section Sorting

variable {Item Key : Type} [LinearOrder Key] (key : Item → Key) (items : List Item)

def sortByKey : List Item := items.mergeSort fun first last => key first ≤ key last

theorem sortByKey_perm : (sortByKey key items).Perm items :=
  List.mergeSort_perm items fun first last => key first ≤ key last

theorem mem_sortByKey {item : Item} : item ∈ sortByKey key items ↔ item ∈ items :=
  (sortByKey_perm key items).mem_iff

theorem sortByKey_ordered :
    (sortByKey key items).Pairwise fun first last => key first ≤ key last := by
  have sorted : (sortByKey key items).Pairwise
      fun first last => decide (key first ≤ key last) = true := by
    apply List.pairwise_mergeSort
    · intro first second third
      simp only [decide_eq_true_eq]
      exact le_trans
    · intro first last
      simpa using le_total (key first) (key last)
  apply sorted.imp
  intro first last
  exact of_decide_eq_true

theorem sortByKey_strict (distinct : (items.map key).Nodup) :
    (sortByKey key items).Pairwise fun first last => key first < key last := by
  have apart : ((sortByKey key items).map key).Nodup :=
    ((sortByKey_perm key items).map key).nodup_iff.mpr distinct
  apply ((sortByKey_ordered key items).and (List.pairwise_map.mp apart)).imp
  rintro first last ⟨below, different⟩
  exact lt_of_le_of_ne below different

-- The order of the items that came in is lost, as long as no two have one key.
theorem sortByKey_of_perm (distinct : (items.map key).Nodup) {others : List Item}
    (same : others.Perm items) : sortByKey key others = sortByKey key items := by
  have again : (others.map key).Nodup := (same.map key).nodup_iff.mpr distinct
  apply @List.Perm.eq_of_pairwise Item (fun first last => key first < key last)
  · intro first last _ _ below above
    exact absurd above (lt_asymm below)
  · exact sortByKey_strict key others again
  · exact sortByKey_strict key items distinct
  · exact ((sortByKey_perm key others).trans same).trans (sortByKey_perm key items).symm

theorem sortByKey_map (distinct : (items.map key).Nodup) {change : Item → Item}
    (kept : ∀ item, key (change item) = key item) :
    sortByKey key (items.map change) = (sortByKey key items).map change := by
  have keys : (items.map change).map key = items.map key := by simp [kept]
  have moved : ((sortByKey key items).map change).Pairwise
      fun first last => key first < key last := by
    simpa only [List.pairwise_map, kept] using sortByKey_strict key items distinct
  apply @List.Perm.eq_of_pairwise Item (fun first last => key first < key last)
  · intro first last _ _ below above
    exact absurd above (lt_asymm below)
  · exact sortByKey_strict key _ (keys ▸ distinct)
  · exact moved
  · exact (sortByKey_perm key _).trans ((sortByKey_perm key items).map change).symm

end Sorting

/-! The first and the last item that can be read. -/

section Reading

variable {Item Key Found : Type} [LinearOrder Key] {key : Item → Key} {items : List Item}
  {read : Item → Option Found} {found : Found}

theorem findSome?_first (sorted : items.Pairwise fun first last => key first < key last) :
    items.findSome? read = some found ↔ ∃ item ∈ items, read item = some found ∧
      ∀ other ∈ items, key other < key item → read other = none := by
  rw [List.findSome?_eq_some_iff]
  constructor
  · rintro ⟨front, item, rest, rfl, shown, unread⟩
    refine ⟨item, by simp, shown, ?_⟩
    intro other member below
    obtain ⟨_, after, _⟩ := List.pairwise_append.mp sorted
    rcases List.mem_append.mp member with early | late
    · exact unread other early
    · rcases List.mem_cons.mp late with rfl | later
      · exact absurd below (lt_irrefl _)
      · exact absurd below (lt_asymm ((List.pairwise_cons.mp after).1 other later))
  · rintro ⟨item, member, shown, unread⟩
    obtain ⟨front, rest, rfl⟩ := List.append_of_mem member
    refine ⟨front, item, rest, rfl, shown, ?_⟩
    intro other early
    apply unread other (List.mem_append_left _ early)
    exact (List.pairwise_append.mp sorted).2.2 other early item List.mem_cons_self

theorem findSome?_last (sorted : items.Pairwise fun first last => key first < key last) :
    items.reverse.findSome? read = some found ↔ ∃ item ∈ items, read item = some found ∧
      ∀ other ∈ items, key item < key other → read other = none := by
  have backwards : items.reverse.Pairwise
      fun first last => OrderDual.toDual (key first) < OrderDual.toDual (key last) :=
    List.pairwise_reverse.mpr sorted
  rw [findSome?_first backwards]
  simp only [List.mem_reverse, OrderDual.toDual_lt_toDual]

end Reading

/-! Lists under the numbers of some slots. -/

section Numbered

variable {View Item : Type} {entries : List (Nat × View)} {slots : List (Item × Nat)}
  {related : Item × Nat → View → Prop}

theorem sortByKey_indices (increasing : (slots.map Prod.snd).Pairwise (· < ·))
    (same : (entries.map Prod.fst).Perm (slots.map Prod.snd)) :
    (sortByKey Prod.fst entries).map Prod.fst = slots.map Prod.snd := by
  have permuted := ((sortByKey_perm Prod.fst entries).map Prod.fst).trans same
  apply List.Perm.eq_of_pairwise (fun first last _ _ => Nat.le_antisymm) _
    (increasing.imp Nat.le_of_lt) permuted
  exact List.pairwise_map.mpr (sortByKey_ordered Prod.fst entries)

theorem forall₂_of_indices (same : entries.map Prod.fst = slots.map Prod.snd)
    (fits : ∀ entry ∈ entries, ∀ slot ∈ slots, slot.2 = entry.1 → related slot entry.2) :
    List.Forall₂ related slots (entries.map Prod.snd) := by
  induction slots generalizing entries with
  | nil =>
      cases List.map_eq_nil_iff.mp same
      exact .nil
  | cons slot rest ih =>
      cases entries with
      | nil => cases same
      | cons entry others =>
          obtain ⟨here, later⟩ := List.cons_eq_cons.mp same
          refine .cons (fits entry List.mem_cons_self slot List.mem_cons_self here.symm)
            (ih later ?_)
          intro other among next inside
          exact fits other (List.mem_cons_of_mem _ among) next (List.mem_cons_of_mem _ inside)

theorem entry_slot (same : entries.map Prod.fst = slots.map Prod.snd)
    (paired : List.Forall₂ related slots (entries.map Prod.snd)) {entry : Nat × View}
    (among : entry ∈ entries) : ∃ slot ∈ slots, slot.2 = entry.1 ∧ related slot entry.2 := by
  induction entries generalizing slots with
  | nil => cases among
  | cons head rest ih =>
      cases paired with
      | @cons slot _ others _ here later =>
          obtain ⟨numbered, renumbered⟩ := List.cons_eq_cons.mp same
          rcases List.mem_cons.mp among with rfl | inside
          · exact ⟨slot, List.mem_cons_self, numbered.symm, here⟩
          · obtain ⟨other, listed, found⟩ := ih renumbered later inside
            exact ⟨other, List.mem_cons_of_mem _ listed, found⟩

end Numbered

end Missive.OrderedLists
