import Mathlib.Data.List.Basic

/-! Sequential transducers: a machine reads one symbol at a time, writes a
possibly empty word for it and a closing word when the input ends. Nothing here
looks ahead, so a text splits at any point into what was written before and the
state the rest is read from. Two machines that write alike step by step compute
the same function, and machines compose. -/
namespace Missive.Transducer

variable {State Other Input Middle Output : Type}

structure Machine (State Input Output : Type) where
  start : State
  step : State → Input → State × List Output
  finish : State → List Output

namespace Machine

def reach (machine : Machine State Input Output) : State → List Input → State
  | state, [] => state
  | state, symbol :: rest => reach machine (machine.step state symbol).1 rest

def emit (machine : Machine State Input Output) : State → List Input → List Output
  | _, [] => []
  | state, symbol :: rest =>
      (machine.step state symbol).2 ++ emit machine (machine.step state symbol).1 rest

def runFrom (machine : Machine State Input Output) (state : State) (input : List Input) :
    List Output :=
  machine.emit state input ++ machine.finish (machine.reach state input)

def run (machine : Machine State Input Output) (input : List Input) : List Output :=
  machine.runFrom machine.start input

@[simp] theorem reach_nil (machine : Machine State Input Output) (state : State) :
    machine.reach state [] = state := rfl

@[simp] theorem emit_nil (machine : Machine State Input Output) (state : State) :
    machine.emit state [] = [] := rfl

@[simp] theorem runFrom_nil (machine : Machine State Input Output) (state : State) :
    machine.runFrom state [] = machine.finish state := rfl

@[simp] theorem reach_cons (machine : Machine State Input Output) (state : State)
    (symbol : Input) (rest : List Input) :
    machine.reach state (symbol :: rest) = machine.reach (machine.step state symbol).1 rest := rfl

@[simp] theorem emit_cons (machine : Machine State Input Output) (state : State)
    (symbol : Input) (rest : List Input) :
    machine.emit state (symbol :: rest) =
      (machine.step state symbol).2 ++ machine.emit (machine.step state symbol).1 rest := rfl

@[simp] theorem runFrom_cons (machine : Machine State Input Output) (state : State)
    (symbol : Input) (rest : List Input) :
    machine.runFrom state (symbol :: rest) =
      (machine.step state symbol).2 ++ machine.runFrom (machine.step state symbol).1 rest := by
  simp [runFrom, List.append_assoc]

theorem emit_single (machine : Machine State Input Output) (state : State) (symbol : Input) :
    machine.emit state [symbol] = (machine.step state symbol).2 := by
  simp

theorem reach_append (machine : Machine State Input Output) (state : State)
    (first last : List Input) :
    machine.reach state (first ++ last) = machine.reach (machine.reach state first) last := by
  induction first generalizing state with
  | nil => rfl
  | cons symbol rest ih => exact ih (machine.step state symbol).1

theorem emit_append (machine : Machine State Input Output) (state : State)
    (first last : List Input) :
    machine.emit state (first ++ last) =
      machine.emit state first ++ machine.emit (machine.reach state first) last := by
  induction first generalizing state with
  | nil => rfl
  | cons symbol rest ih =>
      simp only [List.cons_append, emit_cons, reach_cons, ih, List.append_assoc]

theorem runFrom_append (machine : Machine State Input Output) (state : State)
    (first last : List Input) :
    machine.runFrom state (first ++ last) =
      machine.emit state first ++ machine.runFrom (machine.reach state first) last := by
  simp only [runFrom, emit_append, reach_append, List.append_assoc]

/-- A state that every symbol of a class leaves in place without writing. -/
theorem silent_stay (machine : Machine State Input Output) (state : State)
    (input : List Input)
    (stays : ∀ symbol ∈ input, machine.step state symbol = (state, [])) :
    machine.reach state input = state ∧ machine.emit state input = [] := by
  induction input with
  | nil => exact ⟨rfl, rfl⟩
  | cons symbol rest ih =>
      have first := stays symbol List.mem_cons_self
      have later := ih (fun next member => stays next (List.mem_cons_of_mem symbol member))
      simpa [first] using later

/-- The second machine reads what the first one writes. -/
def compose (first : Machine State Input Middle) (second : Machine Other Middle Output) :
    Machine (State × Other) Input Output where
  start := (first.start, second.start)
  step := fun (outer, inner) symbol =>
    (((first.step outer symbol).1, second.reach inner (first.step outer symbol).2),
      second.emit inner (first.step outer symbol).2)
  finish := fun (outer, inner) => second.runFrom inner (first.finish outer)

theorem compose_reach (first : Machine State Input Middle)
    (second : Machine Other Middle Output) (outer : State) (inner : Other)
    (input : List Input) :
    (first.compose second).reach (outer, inner) input =
      (first.reach outer input, second.reach inner (first.emit outer input)) := by
  induction input generalizing outer inner with
  | nil => rfl
  | cons symbol rest ih =>
      rw [reach_cons, emit_cons, reach_append]
      exact ih _ _

theorem compose_emit (first : Machine State Input Middle)
    (second : Machine Other Middle Output) (outer : State) (inner : Other)
    (input : List Input) :
    (first.compose second).emit (outer, inner) input =
      second.emit inner (first.emit outer input) := by
  induction input generalizing outer inner with
  | nil => rfl
  | cons symbol rest ih =>
      rw [emit_cons, emit_cons, emit_append]
      exact congrArg (second.emit inner (first.step outer symbol).2 ++ ·) (ih _ _)

theorem compose_runFrom (first : Machine State Input Middle)
    (second : Machine Other Middle Output) (outer : State) (inner : Other)
    (input : List Input) :
    (first.compose second).runFrom (outer, inner) input =
      second.runFrom inner (first.runFrom outer input) := by
  induction input generalizing outer inner with
  | nil => rfl
  | cons symbol rest ih =>
      rw [runFrom_cons, runFrom_cons, runFrom_append, ← ih]
      rfl

theorem compose_run (first : Machine State Input Middle)
    (second : Machine Other Middle Output) (input : List Input) :
    (first.compose second).run input = second.run (first.run input) :=
  compose_runFrom first second first.start second.start input

/-- A relation between the states of two machines under which they write alike. -/
structure Simulates (left : Machine State Input Output) (right : Machine Other Input Output)
    (related : State → Other → Prop) : Prop where
  start : related left.start right.start
  step : ∀ {a b} (symbol : Input), related a b →
    related (left.step a symbol).1 (right.step b symbol).1 ∧
      (left.step a symbol).2 = (right.step b symbol).2
  finish : ∀ {a b}, related a b → left.finish a = right.finish b

namespace Simulates

variable {left : Machine State Input Output} {right : Machine Other Input Output}
  {related : State → Other → Prop}

theorem reaches (simulation : Simulates left right related) {a : State} {b : Other}
    (same : related a b) (input : List Input) :
    related (left.reach a input) (right.reach b input) ∧
      left.emit a input = right.emit b input := by
  induction input generalizing a b with
  | nil => exact ⟨same, rfl⟩
  | cons symbol rest ih =>
      obtain ⟨next, written⟩ := simulation.step symbol same
      obtain ⟨last, tail⟩ := ih next
      exact ⟨last, by simp only [emit_cons, written, tail]⟩

theorem runs_alike (simulation : Simulates left right related) (input : List Input) :
    left.run input = right.run input := by
  obtain ⟨last, written⟩ := simulation.reaches simulation.start input
  simp only [run, runFrom, written, simulation.finish last]

end Simulates

/-! A machine that reads again what a machine has written. -/

/-- Every symbol is allowed in the state that reads it. -/
def Along (machine : Machine State Input Output) (allowed : State → Input → Prop) :
    State → List Input → Prop
  | _, [] => True
  | state, symbol :: rest =>
      allowed state symbol ∧ Along machine allowed (machine.step state symbol).1 rest

theorem along_all (machine : Machine State Input Output) (allowed : State → Input → Prop)
    (always : ∀ state symbol, allowed state symbol) (state : State) (input : List Input) :
    machine.Along allowed state input := by
  induction input generalizing state with
  | nil => trivial
  | cons symbol rest ih => exact ⟨always state symbol, ih _⟩

-- Where a run leaves what is allowed, there is a first such symbol.
theorem along_or_first (machine : Machine State Input Output) (allowed : State → Input → Prop)
    (state : State) (input : List Input) :
    machine.Along allowed state input ∨ ∃ before symbol after, input = before ++ symbol :: after ∧
      machine.Along allowed state before ∧ ¬ allowed (machine.reach state before) symbol := by
  induction input generalizing state with
  | nil => exact Or.inl trivial
  | cons symbol rest ih =>
      by_cases here : allowed state symbol
      · rcases ih (machine.step state symbol).1 with all | ⟨before, next, after, rfl, along, stops⟩
        · exact Or.inl ⟨here, all⟩
        · exact Or.inr ⟨symbol :: before, next, after, rfl, ⟨here, along⟩, stops⟩
      · exact Or.inr ⟨[], symbol, rest, rfl, trivial, here⟩

theorem Along.stops {machine : Machine State Input Output} {allowed : State → Input → Prop}
    {state : State} {before after : List Input} {symbol : Input}
    (along : machine.Along allowed state (before ++ symbol :: after)) :
    allowed (machine.reach state before) symbol := by
  induction before generalizing state with
  | nil => exact along.1
  | cons first before ih => exact ih along.2

/-- From related states the second machine gives back what the first one writes for a symbol. -/
def Echoes (first : Machine State Input Output) (second : Machine Other Output Output)
    (allowed : State → Input → Prop) (related : State → Other → Prop) : Prop :=
  ∀ a b symbol, related a b → allowed a symbol →
    related (first.step a symbol).1 (second.reach b (first.step a symbol).2) ∧
      second.emit b (first.step a symbol).2 = (first.step a symbol).2

theorem Echoes.reaches {first : Machine State Input Output} {second : Machine Other Output Output}
    {allowed : State → Input → Prop} {related : State → Other → Prop}
    (echoes : Echoes first second allowed related) {a : State} {b : Other} (same : related a b)
    (input : List Input) (along : first.Along allowed a input) :
    related (first.reach a input) (second.reach b (first.emit a input)) ∧
      second.emit b (first.emit a input) = first.emit a input := by
  induction input generalizing a b with
  | nil => exact ⟨same, rfl⟩
  | cons symbol rest ih =>
      obtain ⟨next, written⟩ := echoes a b symbol same along.1
      obtain ⟨last, tail⟩ := ih next along.2
      rw [reach_cons, emit_cons, reach_append, emit_append, written, tail]
      exact ⟨last, rfl⟩

end Machine
end Missive.Transducer
