import Mathlib.Data.Set.Basic
import Mathlib.Logic.Function.Basic
import Mathlib.Logic.Relation

/-! Processes that share a state and take turns. What holds of the shared state, and of every
process beside it, is kept by a step of one process when that process keeps it and no other
process is disturbed. -/
namespace Missive.Interleaving

structure System (Id Shared Local : Type) where
  shared : Shared
  locals : Id → Local

section Steps

variable {Id Shared Local : Type} [DecidableEq Id]

def System.turn (system : System Id Shared Local) (id : Id) (shared : Shared) (mine : Local) :
    System Id Shared Local :=
  ⟨shared, Function.update system.locals id mine⟩

@[simp] theorem turn_shared (system : System Id Shared Local) (id : Id) (shared : Shared)
    (mine : Local) : (system.turn id shared mine).shared = shared := rfl

@[simp] theorem turn_own (system : System Id Shared Local) (id : Id) (shared : Shared)
    (mine : Local) : (system.turn id shared mine).locals id = mine := by
  simp [System.turn]

theorem turn_other (system : System Id Shared Local) {id other : Id} (shared : Shared)
    (mine : Local) (apart : other ≠ id) :
    (system.turn id shared mine).locals other = system.locals other := by
  simp [System.turn, apart]

variable (moves : Id → Shared × Local → Shared × Local → Prop)

inductive Step (before : System Id Shared Local) : System Id Shared Local → Prop where
  | turn (id : Id) (shared : Shared) (mine : Local)
      (moved : moves id (before.shared, before.locals id) (shared, mine)) :
      Step before (before.turn id shared mine)

def Reachable (start system : System Id Shared Local) : Prop :=
  Relation.ReflTransGen (Step moves) start system

variable {moves}

/-- What holds of the shared state, and of each process beside it. -/
structure Holds (whole : Shared → Prop) (each : Id → Shared → Local → Prop)
    (system : System Id Shared Local) : Prop where
  whole : whole system.shared
  each : ∀ id, each id system.shared (system.locals id)

/-- A step of one process keeps the invariant, and what holds of any other process. -/
structure Keeps (moves : Id → Shared × Local → Shared × Local → Prop) (whole : Shared → Prop)
    (each : Id → Shared → Local → Prop) : Prop where
  own : ∀ id before after, whole before.1 → each id before.1 before.2 → moves id before after →
    whole after.1 ∧ each id after.1 after.2
  others : ∀ id before after, whole before.1 → each id before.1 before.2 → moves id before after →
    ∀ other held, other ≠ id → each other before.1 held → each other after.1 held

theorem step_holds {whole : Shared → Prop} {each : Id → Shared → Local → Prop}
    (keeps : Keeps moves whole each) {before after : System Id Shared Local}
    (holds : Holds whole each before) (step : Step moves before after) : Holds whole each after := by
  obtain ⟨id, shared, mine, moved⟩ := step
  obtain ⟨kept, own⟩ := keeps.own id _ _ holds.whole (holds.each id) moved
  constructor
  · exact kept
  · intro other
    by_cases same : other = id
    · subst same
      simpa using own
    · rw [turn_other before shared mine same]
      exact keeps.others id _ _ holds.whole (holds.each id) moved other _ same (holds.each other)

theorem reachable_holds {whole : Shared → Prop} {each : Id → Shared → Local → Prop}
    (keeps : Keeps moves whole each) {start system : System Id Shared Local}
    (reached : Reachable moves start system) (holds : Holds whole each start) :
    Holds whole each system := by
  induction reached with
  | refl => exact holds
  | tail _ step ih => exact step_holds keeps ih step

/-- No two processes act at the same time. -/
def Alone (acts : Local → Prop) (system : System Id Shared Local) : Prop :=
  ∀ first second, acts (system.locals first) → acts (system.locals second) → first = second

theorem turn_alone {acts : Local → Prop} {system : System Id Shared Local} {id : Id}
    {shared : Shared} {mine : Local} (alone : Alone acts system)
    (started : acts mine → acts (system.locals id) ∨
      ∀ other, other ≠ id → ¬ acts (system.locals other)) :
    Alone acts (system.turn id shared mine) := by
  have only (other : Id) (apart : other ≠ id) (acting : acts mine) : ¬ acts (system.locals other) := by
    intro busy
    rcases started acting with before | quiet
    · exact apart (alone other id busy before)
    · exact quiet other apart busy
  intro first second one two
  by_cases same : first = id
  · subst same
    by_cases also : second = first
    · exact also.symm
    · rw [turn_own] at one
      rw [turn_other system shared mine also] at two
      exact absurd two (only second also one)
  · rw [turn_other system shared mine same] at one
    by_cases also : second = id
    · subst also
      rw [turn_own] at two
      exact absurd one (only first same two)
    · rw [turn_other system shared mine also] at two
      exact alone first second one two

/-! Runs of a step function. A turn that the step function refuses changes nothing. -/

def System.take {Act : Type} (step : Id → Shared × Local → Act → Option (Shared × Local))
    (system : System Id Shared Local) (turn : Id × Act) : System Id Shared Local :=
  (step turn.1 (system.shared, system.locals turn.1) turn.2).elim system fun moved =>
    system.turn turn.1 moved.1 moved.2

theorem takes_reachable {Act : Type} (step : Id → Shared × Local → Act → Option (Shared × Local))
    (turns : List (Id × Act)) (system : System Id Shared Local) :
    Reachable (fun id before after => ∃ act, step id before act = some after) system
      (turns.foldl (System.take step) system) := by
  induction turns generalizing system with
  | nil => exact .refl
  | cons turn rest ih =>
      have later := ih (system.take step turn)
      cases stepped : step turn.1 (system.shared, system.locals turn.1) turn.2 with
      | none =>
          simpa [System.take, stepped] using later
      | some moved =>
          refine .head ?_ later
          simpa [System.take, stepped] using Step.turn turn.1 moved.1 moved.2 ⟨turn.2, stepped⟩

end Steps

end Missive.Interleaving
