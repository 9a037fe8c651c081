import Mathlib.Data.List.Infix
import Mathlib.Data.List.Pairwise
import Mathlib.Order.Lattice

/-! Reading a log from a cursor. A reader keeps the key of the last item it has seen and asks for
what is newer, so nothing it needs is lost or seen twice as long as the keys increase. -/
namespace Missive.Cursors

variable {Item Key : Type} [LinearOrder Key]

def newer (key : Item → Key) (cursor : Option Key) (items : List Item) : List Item :=
  items.filter fun item => cursor.all fun seen => seen < key item

def Increasing (key : Item → Key) (items : List Item) : Prop :=
  items.Pairwise fun first last => key first < key last

variable {key : Item → Key} {items : List Item}

theorem mem_newer {seen : Key} {item : Item} :
    item ∈ newer key (some seen) items ↔ item ∈ items ∧ seen < key item := by
  simp [newer]

theorem newer_append (cursor : Option Key) (front rest : List Item) :
    newer key cursor (front ++ rest) = newer key cursor front ++ newer key cursor rest := by
  simp only [newer, List.filter_append]

theorem newer_increasing (cursor : Option Key) (increasing : Increasing key items) :
    Increasing key (newer key cursor items) :=
  increasing.filter _

theorem newer_all {seen : Key} (later : ∀ item ∈ items, seen < key item) :
    newer key (some seen) items = items := by
  apply List.filter_eq_self.mpr
  intro item member
  simpa using later item member

theorem newer_nil {seen : Key} (earlier : ∀ item ∈ items, key item ≤ seen) :
    newer key (some seen) items = [] := by
  apply List.filter_eq_nil_iff.mpr
  intro item member
  simpa using earlier item member

theorem newer_newer {cursor : Option Key} {seen : Key} (ahead : ∀ before ∈ cursor, before ≤ seen) :
    newer key (some seen) (newer key cursor items) = newer key (some seen) items := by
  simp only [newer, List.filter_filter]
  apply List.filter_congr
  intro item _
  cases cursor with
  | none => simp
  | some before =>
      by_cases above : seen < key item
      · simp [above, lt_of_le_of_lt (ahead before rfl) above]
      · simp [above]

theorem newer_last {front rest : List Item} {last : Item}
    (increasing : Increasing key (front ++ last :: rest)) :
    newer key (some (key last)) (front ++ last :: rest) = rest := by
  obtain ⟨_, after, apart⟩ := List.pairwise_append.mp increasing
  obtain ⟨below, _⟩ := List.pairwise_cons.mp after
  have early : newer key (some (key last)) front = [] :=
    newer_nil fun item member => (apart item member last List.mem_cons_self).le
  have here : newer key (some (key last)) [last] = [] := newer_nil (by simp)
  rw [newer_append, early, List.nil_append, ← List.singleton_append, newer_append, here,
    newer_all below]
  rfl

/-- What is newer than the last item of a first part is the second part. -/
theorem newer_after {front rest : List Item} {last : Item} (increasing : Increasing key (front ++ rest))
    (shown : front.getLast? = some last) : newer key (some (key last)) (front ++ rest) = rest := by
  obtain ⟨init, rfl⟩ := List.getLast?_eq_some_iff.mp shown
  rw [List.append_assoc, List.singleton_append] at increasing ⊢
  exact newer_last increasing

/-! What lies between two cursors. -/

section Windows

def between (key : Item → Key) (first last : Key) (items : List Item) : List Item :=
  items.filter fun item => first < key item && key item ≤ last

-- The cursor of a reader that has read everything it was shown.
def advanced (key : Item → Key) (seen : Key) (items : List Item) : Key :=
  ((newer key (some seen) items).getLast?.map key).getD seen

theorem advanced_ahead (seen : Key) : seen ≤ advanced key seen items := by
  unfold advanced
  cases shown : (newer key (some seen) items).getLast? with
  | none => exact le_refl seen
  | some last => exact (mem_newer.mp (List.mem_of_getLast? shown)).2.le

theorem between_self (seen : Key) : between key seen seen items = [] := by
  apply List.filter_eq_nil_iff.mpr
  intro item _ inside
  simp only [Bool.and_eq_true, decide_eq_true_eq] at inside
  exact absurd inside.1 (not_lt.mpr inside.2)

theorem between_append {first middle last : Key} (increasing : Increasing key items)
    (before : first ≤ middle) (after : middle ≤ last) :
    between key first middle items ++ between key middle last items =
      between key first last items := by
  induction items with
  | nil => rfl
  | cons item rest ih =>
      obtain ⟨below, later⟩ := List.pairwise_cons.mp increasing
      have joined := ih later
      by_cases early : key item ≤ middle
      · have stays : key item ≤ last := le_trans early after
        have apart : ¬middle < key item := not_lt.mpr early
        by_cases inside : first < key item
        · simpa [between, early, stays, apart, inside] using joined
        · simpa [between, early, stays, apart, inside] using joined
      · have above : middle < key item := not_le.mp early
        have inside : first < key item := lt_of_le_of_lt before above
        have none_ : between key first middle rest = [] := by
          apply List.filter_eq_nil_iff.mpr
          intro other member
          simp [lt_trans above (below other member)]
        rw [none_, List.nil_append] at joined
        have front : between key first middle (item :: rest) = [] := by
          simpa [between, early] using none_
        rw [front, List.nil_append]
        by_cases stays : key item ≤ last
        · simpa [between, above, inside, stays] using joined
        · simpa [between, above, inside, stays] using joined

/-- A snapshot of a log shows what lies between the cursor and the one it is advanced to. -/
theorem newer_snapshot {snapshot : List Item} (increasing : Increasing key items)
    (part : snapshot <+: items) (seen : Key) :
    newer key (some seen) snapshot = between key seen (advanced key seen snapshot) items := by
  obtain ⟨rest, rfl⟩ := part
  obtain ⟨early, _, apart⟩ := List.pairwise_append.mp increasing
  have shown : newer key (some seen) snapshot = between key seen (advanced key seen snapshot) snapshot := by
    apply List.filter_congr
    intro item member
    by_cases above : seen < key item
    · have inside : item ∈ newer key (some seen) snapshot := mem_newer.mpr ⟨member, above⟩
      have last := List.getLast?_eq_some_getLast (List.ne_nil_of_mem inside)
      have below : key item ≤ advanced key seen snapshot := by
        rw [advanced, last, Option.map_some, Option.getD_some]
        have ordered := (newer_increasing (some seen) early).imp fun below => below.le
        exact ordered.rel_getLast_of_rel_getLast_getLast inside (le_refl _)
      simp [above, below]
    · simp [above]
  have beyond : between key seen (advanced key seen snapshot) rest = [] := by
    apply List.filter_eq_nil_iff.mpr
    intro item member inside
    simp only [Bool.and_eq_true, decide_eq_true_eq] at inside
    unfold advanced at inside
    cases last : (newer key (some seen) snapshot).getLast? with
    | none =>
        rw [last] at inside
        exact absurd inside.1 (not_lt.mpr inside.2)
    | some held =>
        rw [last] at inside
        have among := (mem_newer.mp (List.mem_of_getLast? last)).1
        exact absurd (apart held among item member) (not_lt.mpr inside.2)
  rw [shown, between, between, List.filter_append]
  exact (List.append_nil _).symm.trans (congrArg _ beyond.symm)

end Windows

/-! Reading page by page. -/

section Pages

-- The page that starts at a cursor, and the cursor of the page after it.
def page (key : Item → Key) (items : List Item) (size : Nat) (cursor : Option Key) : List Item :=
  (newer key cursor items).take size

def following (key : Item → Key) (cursor : Option Key) (shown : List Item) : Option Key :=
  (shown.getLast?.map key).or cursor

inductive Paged (key : Item → Key) (items : List Item) (size : Nat) :
    Option Key → List (List Item) → Prop
  | short {cursor : Option Key} (ends : (page key items size cursor).length < size) :
      Paged key items size cursor [page key items size cursor]
  | full {cursor : Option Key} {rest : List (List Item)}
      (goes : ¬(page key items size cursor).length < size)
      (later : Paged key items size (following key cursor (page key items size cursor)) rest) :
      Paged key items size cursor (page key items size cursor :: rest)

variable {size : Nat} {cursor : Option Key}

/-- A full page leaves for the next one what it has not shown. -/
theorem newer_following (increasing : Increasing key items) (positive : 0 < size)
    (goes : ¬(page key items size cursor).length < size) :
    newer key (following key cursor (page key items size cursor)) items =
      (newer key cursor items).drop size := by
  have shown : page key items size cursor ≠ [] := by
    intro empty
    rw [empty] at goes
    exact goes positive
  have last := List.getLast?_eq_some_getLast shown
  have split : page key items size cursor ++ (newer key cursor items).drop size =
      newer key cursor items := List.take_append_drop size _
  have ahead : ∀ before ∈ cursor, before ≤ key ((page key items size cursor).getLast shown) := by
    rintro before rfl
    have member := List.mem_of_mem_take (List.getLast_mem shown)
    exact (mem_newer.mp member).2.le
  rw [following, last, Option.map_some, Option.some_or, ← newer_newer ahead]
  conv => lhs; rw [← split]
  apply newer_after _ last
  rw [split]
  exact newer_increasing cursor increasing

theorem paged_flatten {pages : List (List Item)} (increasing : Increasing key items)
    (positive : 0 < size) (paged : Paged key items size cursor pages) :
    pages.flatten = newer key cursor items := by
  induction paged with
  | @short cursor ends =>
      rw [List.flatten_singleton]
      apply List.take_of_length_le
      rw [page, List.length_take] at ends
      omega
  | @full cursor rest goes later ih =>
      rw [List.flatten_cons, ih, newer_following increasing positive goes]
      exact List.take_append_drop size _

theorem paged_exists (increasing : Increasing key items) (positive : 0 < size) :
    ∃ pages, Paged key items size cursor pages := by
  generalize left : (newer key cursor items).length = count
  induction count using Nat.strongRecOn generalizing cursor with
  | ind count ih =>
      by_cases goes : (page key items size cursor).length < size
      · exact ⟨_, .short goes⟩
      · have rest := newer_following increasing positive goes
        have fewer : (newer key (following key cursor (page key items size cursor)) items).length <
            count := by
          rw [page, List.length_take] at goes
          rw [rest, List.length_drop]
          omega
        obtain ⟨pages, later⟩ := ih _ fewer rfl
        exact ⟨_, .full goes later⟩

end Pages

end Missive.Cursors
