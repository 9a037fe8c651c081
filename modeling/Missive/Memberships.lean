import Mathlib.Data.Option.Basic

/-! Directories of groups with members. Each member holds a rank in its group. A change of the
directory is a value, so that a list of changes can be applied again elsewhere. -/
namespace Missive.Memberships

variable {Group Agent Entry Member Rank : Type}

structure Directory (Group Agent Entry Member : Type) where
  groups : Group → Option Entry
  members : Group → Agent → Option Member

inductive Change (Group Agent Entry Member : Type) where
  | create (group : Group) (entry : Entry)
  | enroll (group : Group) (agent : Agent) (member : Member)
  | dismiss (group : Group) (agent : Agent)
  | rename (old new : Group)
  | delete (group : Group)
  -- The agent leaves every group.
  | forget (agent : Agent)

namespace Directory

def empty : Directory Group Agent Entry Member := ⟨fun _ => none, fun _ _ => none⟩

theorem ext_members {first last : Directory Group Agent Entry Member}
    (groups : ∀ wanted, first.groups wanted = last.groups wanted)
    (members : ∀ wanted agent, first.members wanted agent = last.members wanted agent) :
    first = last := by
  cases first
  cases last
  simp only [mk.injEq]
  exact ⟨funext groups, funext fun wanted => funext (members wanted)⟩

/-- Every member belongs to a group that is there, and no two members of a group share a rank. -/
structure Sound (rank : Member → Rank) (directory : Directory Group Agent Entry Member) : Prop where
  housed : ∀ group agent member, directory.members group agent = some member →
    (directory.groups group).isSome = true
  apart : ∀ group first last one other, directory.members group first = some one →
    directory.members group last = some other → rank one = rank other → first = last

theorem sound_empty (rank : Member → Rank) :
    Sound rank (empty : Directory Group Agent Entry Member) where
  housed _ _ _ held := by cases held
  apart _ _ _ _ _ held := by cases held

-- A directory with fewer members is as sound.
theorem sound_fewer {rank : Member → Rank} {directory : Directory Group Agent Entry Member}
    (sound : Sound rank directory) (fewer : Directory Group Agent Entry Member)
    (groups : fewer.groups = directory.groups)
    (members : ∀ group agent member, fewer.members group agent = some member →
      directory.members group agent = some member) : Sound rank fewer where
  housed group agent member held := by
    rw [groups]
    exact sound.housed group agent member (members group agent member held)
  apart group first last one other left right :=
    sound.apart group first last one other (members group first one left)
      (members group last other right)

section Changes

variable [DecidableEq Group] [DecidableEq Agent]

-- The group that has the name of another one after a renaming.
def former (old new wanted : Group) : Option Group :=
  if wanted = new then some old else if wanted = old then none else some wanted

def apply (directory : Directory Group Agent Entry Member) :
    Change Group Agent Entry Member → Directory Group Agent Entry Member
  | .create group entry =>
      { directory with groups := fun wanted =>
          if wanted = group then some entry else directory.groups wanted }
  | .enroll group agent member =>
      { directory with members := fun wanted other =>
          if wanted = group ∧ other = agent then some member else directory.members wanted other }
  | .dismiss group agent =>
      { directory with members := fun wanted other =>
          if wanted = group ∧ other = agent then none else directory.members wanted other }
  | .rename old new =>
      { groups := fun wanted => (former old new wanted).bind directory.groups
        members := fun wanted agent =>
          (former old new wanted).bind fun group => directory.members group agent }
  | .delete group =>
      { groups := fun wanted => if wanted = group then none else directory.groups wanted
        members := fun wanted agent =>
          if wanted = group then none else directory.members wanted agent }
  | .forget agent =>
      { directory with members := fun wanted other =>
          if other = agent then none else directory.members wanted other }

attribute [local simp] apply

def replay (changes : List (Change Group Agent Entry Member))
    (start : Directory Group Agent Entry Member) :
    Directory Group Agent Entry Member := changes.foldl apply start

-- What a change asks of the directory, so that it stays sound.
def Allows (rank : Member → Rank) (directory : Directory Group Agent Entry Member) :
    Change Group Agent Entry Member → Prop
  | .enroll group agent member => (directory.groups group).isSome = true ∧
      ∀ other held, directory.members group other = some held → rank held = rank member →
        other = agent
  | _ => True

variable {rank : Member → Rank} {directory : Directory Group Agent Entry Member}

theorem sound_create (sound : Sound rank directory) (group : Group) (entry : Entry) :
    Sound rank (directory.apply (.create group entry)) where
  housed wanted agent member held := by
    by_cases same : wanted = group
    · simp [same]
    · simp [same, sound.housed wanted agent member held]
  apart := sound.apart

theorem sound_enroll (sound : Sound rank directory) {group : Group} {agent : Agent}
    {member : Member}
    (allowed : Allows rank directory (.enroll group agent member)) :
    Sound rank (directory.apply (.enroll group agent member)) where
  housed wanted other held stored := by
    by_cases same : wanted = group ∧ other = agent
    · rw [same.1]
      exact allowed.1
    · simp only [apply, if_neg same] at stored
      exact sound.housed wanted other held stored
  apart wanted first last one other left right ranks := by
    by_cases group' : wanted = group
    · subst group'
      by_cases front : first = agent
      · by_cases back : last = agent
        · rw [front, back]
        · simp only [apply, front, back, and_false, if_true, if_false, true_and] at left right
          cases left
          exact front.trans (allowed.2 last other right ranks.symm).symm
      · by_cases back : last = agent
        · simp only [apply, front, back, and_false, if_true, if_false, true_and] at left right
          cases right
          exact (allowed.2 first one left ranks).trans back.symm
        · simp only [apply, front, back, and_false, if_false] at left right
          exact sound.apart wanted first last one other left right ranks
    · simp only [apply, group', false_and, if_false] at left right
      exact sound.apart wanted first last one other left right ranks

theorem sound_rename (sound : Sound rank directory) (old new : Group) :
    Sound rank (directory.apply (.rename old new)) where
  housed wanted agent member held := by
    simp only [apply] at held ⊢
    cases source : former old new wanted with
    | none => simp [source] at held
    | some group =>
        rw [source] at held
        exact sound.housed group agent member held
  apart wanted first last one other left right ranks := by
    simp only [apply] at left right
    cases source : former old new wanted with
    | none => simp [source] at left
    | some group =>
        rw [source] at left right
        exact sound.apart group first last one other left right ranks

theorem sound_delete (sound : Sound rank directory) (group : Group) :
    Sound rank (directory.apply (.delete group)) where
  housed wanted agent member held := by
    by_cases same : wanted = group
    · simp [same] at held
    · simp only [apply, same, if_false] at held ⊢
      exact sound.housed wanted agent member held
  apart wanted first last one other left right ranks := by
    by_cases same : wanted = group
    · simp [same] at left
    · simp only [apply, same, if_false] at left right
      exact sound.apart wanted first last one other left right ranks

/-- Every change that the directory allows leaves it sound. -/
theorem sound_apply (sound : Sound rank directory) (change : Change Group Agent Entry Member)
    (allowed : Allows rank directory change) : Sound rank (directory.apply change) := by
  cases change with
  | create group entry => exact sound_create sound group entry
  | enroll group agent member => exact sound_enroll sound allowed
  | dismiss group agent =>
      apply sound_fewer sound (directory.apply (.dismiss group agent)) rfl
      intro wanted other member held
      by_cases same : wanted = group ∧ other = agent
      · simp [same] at held
      · simpa only [apply, if_neg same] using held
  | rename old new => exact sound_rename sound old new
  | delete group => exact sound_delete sound group
  | forget agent =>
      apply sound_fewer sound (directory.apply (.forget agent)) rfl
      intro wanted other member held
      by_cases same : other = agent
      · simp [same] at held
      · simpa only [apply, if_neg same] using held

-- Whoever is a member after a change was one of some group before, or the change enrolled it.
theorem members_apply {change : Change Group Agent Entry Member} {group : Group} {agent : Agent}
    {member : Member} (held : (directory.apply change).members group agent = some member) :
    (∃ home, directory.members home agent = some member) ∨ change = .enroll group agent member := by
  cases change with
  | create name entry => exact Or.inl ⟨group, held⟩
  | enroll name other joined =>
      by_cases same : group = name ∧ agent = other
      · simp only [apply, if_pos same, Option.some.injEq] at held
        rw [same.1, same.2, held]
        exact Or.inr rfl
      · simp only [apply, if_neg same] at held
        exact Or.inl ⟨group, held⟩
  | dismiss name other =>
      by_cases same : group = name ∧ agent = other
      · simp [same] at held
      · simp only [apply, if_neg same] at held
        exact Or.inl ⟨group, held⟩
  | rename old new =>
      simp only [apply] at held
      cases source : former old new group with
      | none => simp [source] at held
      | some home =>
          rw [source] at held
          exact Or.inl ⟨home, held⟩
  | delete name =>
      by_cases same : group = name
      · simp [same] at held
      · simp only [apply, if_neg same] at held
        exact Or.inl ⟨group, held⟩
  | forget other =>
      by_cases same : agent = other
      · simp [same] at held
      · simp only [apply, if_neg same] at held
        exact Or.inl ⟨group, held⟩

/-- A renaming to a free name is undone by the renaming back. -/
theorem rename_back (sound : Sound rank directory) {old new : Group} (different : old ≠ new)
    (free : directory.groups new = none) :
    (directory.apply (.rename old new)).apply (.rename new old) = directory := by
  have homeless (agent : Agent) : directory.members new agent = none := by
    cases held : directory.members new agent with
    | none => rfl
    | some member =>
        have housed := sound.housed new agent member held
        rw [free] at housed
        cases housed
  apply ext_members
  · intro wanted
    by_cases first : wanted = old
    · simp [former, first]
    · by_cases last : wanted = new
      · simp [former, last, Ne.symm different, free]
      · simp [former, first, last]
  · intro wanted agent
    by_cases first : wanted = old
    · simp [former, first]
    · by_cases last : wanted = new
      · simp [former, last, Ne.symm different, homeless agent]
      · simp [former, first, last]

end Changes
end Directory
end Missive.Memberships
