import Mathlib.Logic.Relation
import Mathlib.Order.WellFounded

/-! Directories in which an entry may carry a name and may lie under another entry. A
directory grows by entries whose name is free and whose parent is listed already, and what is
listed keeps its name and its parent; names then stay unique and the parents stay a forest. -/
namespace Missive.NamedForest

variable {Key Name : Type}

structure Entry (Key Name : Type) where
  name : Option Name
  parent : Option Key

abbrev Directory (Key Name : Type) := Key → Option (Entry Key Name)

namespace Directory

variable (directory : Directory Key Name)

def nameOf (key : Key) : Option Name := (directory key).bind Entry.name

def parentOf (key : Key) : Option Key := (directory key).bind Entry.parent

def Under (parent child : Key) : Prop := directory.parentOf child = some parent

-- The ancestor that many parents up.
def climb : Nat → Key → Option Key
  | 0, key => some key
  | steps + 1, key => (directory.parentOf key).bind (climb steps)

end Directory

open Directory

variable {before middle after : Directory Key Name}

structure Sound (directory : Directory Key Name) : Prop where
  names : ∀ first last name, directory.nameOf first = some name →
    directory.nameOf last = some name → first = last
  parents : ∀ parent child, directory.Under parent child → (directory parent).isSome
  founded : WellFounded directory.Under

theorem empty_sound : Sound (fun _ => none : Directory Key Name) where
  names := by
    intro first last name named
    cases named
  parents := by
    intro parent child under
    cases under
  founded := by
    constructor
    intro key
    apply Acc.intro
    intro parent under
    cases under

theorem Sound.acyclic (sound : Sound before) (key : Key) :
    ¬ Relation.TransGen before.Under key key :=
  sound.founded.transGen.irrefl.irrefl key

/-- Following the parents comes to an end. -/
theorem Sound.climb_ends (sound : Sound before) (key : Key) :
    ∃ steps, before.climb steps key = none := by
  induction key using sound.founded.induction with
  | _ key ih =>
      cases above : before.parentOf key with
      | none => exact ⟨1, by simp [climb, above]⟩
      | some parent =>
          obtain ⟨steps, ended⟩ := ih parent above
          exact ⟨steps + 1, by simp [climb, above, ended]⟩

/-- The names and parents that one change of a directory leaves. -/
structure Grows (before after : Directory Key Name) : Prop where
  kept : ∀ key entry, before key = some entry → after key = some entry
  names : ∀ key name, before key = none → after.nameOf key = some name →
    ∀ other, after.nameOf other = some name → other = key
  parents : ∀ parent child, before child = none → after.Under parent child →
    (before parent).isSome

theorem Grows.refl (directory : Directory Key Name) : Grows directory directory where
  kept := fun _ _ listed => listed
  names := by
    intro key name absent named
    simp [nameOf, absent] at named
  parents := by
    intro parent child absent under
    simp [Under, parentOf, absent] at under

theorem Grows.nameOf (grows : Grows before after) {key : Key} (listed : (before key).isSome) :
    after.nameOf key = before.nameOf key := by
  obtain ⟨entry, shown⟩ := Option.isSome_iff_exists.mp listed
  simp only [Directory.nameOf, shown, grows.kept key entry shown]

theorem Grows.parentOf (grows : Grows before after) {key : Key} (listed : (before key).isSome) :
    after.parentOf key = before.parentOf key := by
  obtain ⟨entry, shown⟩ := Option.isSome_iff_exists.mp listed
  simp only [Directory.parentOf, shown, grows.kept key entry shown]

theorem Grows.isSome (grows : Grows before after) {key : Key} (listed : (before key).isSome) :
    (after key).isSome := by
  obtain ⟨entry, shown⟩ := Option.isSome_iff_exists.mp listed
  rw [grows.kept key entry shown]
  rfl

theorem Grows.under_listed (sound : Sound before) (grows : Grows before after) {parent child : Key}
    (under : after.Under parent child) : (before parent).isSome := by
  by_cases listed : (before child).isSome
  · exact sound.parents parent child ((grows.parentOf listed).symm.trans under)
  · exact grows.parents parent child (Option.not_isSome_iff_eq_none.mp listed) under

theorem Grows.names_unique (sound : Sound before) (grows : Grows before after) {first last : Key}
    {name : Name} (firstNamed : after.nameOf first = some name)
    (lastNamed : after.nameOf last = some name) : first = last := by
  by_cases firstListed : (before first).isSome
  · by_cases lastListed : (before last).isSome
    · rw [grows.nameOf firstListed] at firstNamed
      rw [grows.nameOf lastListed] at lastNamed
      exact sound.names first last name firstNamed lastNamed
    · exact grows.names last name (Option.not_isSome_iff_eq_none.mp lastListed) lastNamed first
        firstNamed
  · exact (grows.names first name (Option.not_isSome_iff_eq_none.mp firstListed) firstNamed last
      lastNamed).symm

-- What was listed before lies under what was listed before, as it did.
theorem Grows.listed_accessible (sound : Sound before) (grows : Grows before after) (key : Key)
    (listed : (before key).isSome) : Acc after.Under key := by
  induction key using sound.founded.induction with
  | _ key ih =>
      apply Acc.intro
      intro parent under
      have same : before.Under parent key := (grows.parentOf listed).symm.trans under
      exact ih parent same (sound.parents parent key same)

theorem Grows.sound (sound : Sound before) (grows : Grows before after) : Sound after where
  names := fun _ _ _ => grows.names_unique sound
  parents := fun _ _ under => grows.isSome (grows.under_listed sound under)
  founded := by
    constructor
    intro key
    apply Acc.intro
    intro parent under
    exact grows.listed_accessible sound parent (grows.under_listed sound under)

/-- A change that lists nameless entries without a parent, and no others. -/
def Blank (before after : Directory Key Name) : Prop :=
  ∀ key, after key = before key ∨ (before key = none ∧ after key = some ⟨none, none⟩)

theorem Blank.refl (directory : Directory Key Name) : Blank directory directory :=
  fun _ => Or.inl rfl

theorem Blank.trans (first : Blank before middle) (last : Blank middle after) :
    Blank before after := by
  intro key
  rcases last key with same | ⟨absent, blank⟩
  · rw [same]
    exact first key
  · rcases first key with same | ⟨_, blank'⟩
    · exact Or.inr ⟨same.symm.trans absent, blank⟩
    · rw [blank'] at absent
      cases absent

theorem Blank.grows (blank : Blank before after) : Grows before after where
  kept := by
    intro key entry listed
    rcases blank key with same | ⟨absent, _⟩
    · rw [same, listed]
    · rw [absent] at listed
      cases listed
  names := by
    intro key name absent named
    rcases blank key with same | ⟨_, blank⟩
    · simp [Directory.nameOf, same, absent] at named
    · simp [Directory.nameOf, blank] at named
  parents := by
    intro parent child absent under
    rcases blank child with same | ⟨_, blank⟩
    · simp [Under, Directory.parentOf, same, absent] at under
    · simp [Under, Directory.parentOf, blank] at under

/-- One more entry, under a free key, with a free name and a listed parent. -/
structure Adds (key : Key) (entry : Entry Key Name) (before after : Directory Key Name) : Prop where
  absent : before key = none
  here : after key = some entry
  elsewhere : ∀ other, other ≠ key → after other = before other
  free : ∀ name, entry.name = some name → ∀ other, before.nameOf other ≠ some name
  known : ∀ parent, entry.parent = some parent → (before parent).isSome

theorem Adds.grows {key : Key} {entry : Entry Key Name} (adds : Adds key entry before after) :
    Grows before after where
  kept := by
    intro other listed shown
    by_cases same : other = key
    · rw [same, adds.absent] at shown
      cases shown
    · rw [adds.elsewhere other same, shown]
  names := by
    intro fresh name absent named other otherNamed
    by_cases same : fresh = key
    · subst same
      by_cases apart : other = fresh
      · exact apart
      · simp only [Directory.nameOf, adds.here, Option.bind_some] at named
        simp only [Directory.nameOf, adds.elsewhere other apart] at otherNamed
        exact absurd otherNamed (adds.free name named other)
    · simp [Directory.nameOf, adds.elsewhere fresh same, absent] at named
  parents := by
    intro parent child absent under
    by_cases same : child = key
    · subst same
      simp only [Under, Directory.parentOf, adds.here, Option.bind_some] at under
      exact adds.known parent under
    · simp [Under, Directory.parentOf, adds.elsewhere child same, absent] at under

end Missive.NamedForest
