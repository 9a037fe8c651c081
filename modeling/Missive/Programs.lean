import Missive.Interleaving

/-! Programs that ask for one operation at a time and go on with the answer. A program runs alone
over a state, or takes turns with others over a state they share; then it holds a hand, which says
what it has come by and may still use. -/
namespace Missive.Programs

inductive Program (Op : Type) (Answer : Op → Type) (Failure Result : Type) where
  | done (result : Result)
  | stop (failure : Failure)
  | ask (op : Op) (rest : Answer op → Program Op Answer Failure Result)

/-- Which operations a hand permits, which answers it lets expect, and what it is after them. -/
structure Protocol (Op : Type) (Answer : Op → Type) (Hand : Type) where
  permits : Hand → Op → Prop
  expects : (hand : Hand) → (op : Op) → Answer op → Prop
  next : Hand → (op : Op) → Answer op → Hand

namespace Program

variable {Op : Type} {Answer : Op → Type} {Failure Result First Second State Hand : Type}

def bind : Program Op Answer Failure First → (First → Program Op Answer Failure Second) →
    Program Op Answer Failure Second
  | .done result, next => next result
  | .stop failure, _ => .stop failure
  | .ask op rest, next => .ask op fun answer => (rest answer).bind next

instance : Monad (Program Op Answer Failure) where
  pure := .done
  bind := .bind

def perform (op : Op) : Program Op Answer Failure (Answer op) := .ask op .done

-- The operation a program waits for.
def asked : Program Op Answer Failure Result → Option Op
  | .ask op _ => some op
  | _ => none

/-! A program alone. -/

section Alone

variable (answer : (op : Op) → State → Answer op × State)

def run : Program Op Answer Failure Result → State → Except Failure Result × State
  | .done result, state => (.ok result, state)
  | .stop failure, state => (.error failure, state)
  | .ask op rest, state => (rest (answer op state).1).run (answer op state).2

/-- What holds where a program ends that runs alone. -/
def Leads (ends : Result → State → Prop) (stops : Failure → State → Prop)
    (program : Program Op Answer Failure Result) (state : State) : Prop :=
  match program.run answer state with
  | (.ok result, after) => ends result after
  | (.error failure, after) => stops failure after

variable {answer}

theorem leads_done {ends : Result → State → Prop} {stops : Failure → State → Prop}
    {result : Result} {state : State} (ended : ends result state) :
    Leads answer ends stops (.done result) state := ended

theorem leads_stop {ends : Result → State → Prop} {stops : Failure → State → Prop}
    {failure : Failure} {state : State} (stopped : stops failure state) :
    Leads answer ends stops (.stop failure) state := stopped

theorem leads_perform {ends : First → State → Prop} {stops : Failure → State → Prop} {op : Op}
    {next : Answer op → Program Op Answer Failure First} {state : State}
    (leads : Leads answer ends stops (next (answer op state).1) (answer op state).2) :
    Leads answer ends stops (perform op >>= next) state := leads

theorem leads_bind {between : First → State → Prop} {ends : Second → State → Prop}
    {stops : Failure → State → Prop} {first : Program Op Answer Failure First}
    {next : First → Program Op Answer Failure Second} {state : State}
    (leads : Leads answer between stops first state)
    (goes : ∀ result after, between result after → Leads answer ends stops (next result) after) :
    Leads answer ends stops (first >>= next) state := by
  induction first generalizing state with
  | done result => exact goes result state leads
  | stop failure => exact leads
  | ask op rest ih => exact ih (answer op state).1 leads

theorem leads_mono {ends finer : Result → State → Prop} {stops halts : Failure → State → Prop}
    {program : Program Op Answer Failure Result} {state : State}
    (leads : Leads answer finer halts program state)
    (ended : ∀ result after, finer result after → ends result after)
    (stopped : ∀ failure after, halts failure after → stops failure after) :
    Leads answer ends stops program state := by
  induction program generalizing state with
  | done result => exact ended result state leads
  | stop failure => exact stopped failure state leads
  | ask op rest ih => exact ih (answer op state).1 leads

end Alone

/-! What a program does with its hand. -/

section Hands

variable (protocol : Protocol Op Answer Hand)

/-- A program asks only for what its hand permits, whatever expected answers it gets. -/
def Follows (ends : Result → Hand → Prop) (stops : Failure → Prop) :
    Program Op Answer Failure Result → Hand → Prop
  | .done result, hand => ends result hand
  | .stop failure, _ => stops failure
  | .ask op rest, hand => protocol.permits hand op ∧
      ∀ answer, protocol.expects hand op answer →
        (rest answer).Follows ends stops (protocol.next hand op answer)

variable {protocol}

theorem follows_perform {ends : First → Hand → Prop} {stops : Failure → Prop} {op : Op}
    {next : Answer op → Program Op Answer Failure First} {hand : Hand}
    (permitted : protocol.permits hand op)
    (follows : ∀ answer, protocol.expects hand op answer →
      Follows protocol ends stops (next answer) (protocol.next hand op answer)) :
    Follows protocol ends stops (perform op >>= next) hand := ⟨permitted, follows⟩

theorem follows_bind {between : First → Hand → Prop} {ends : Second → Hand → Prop}
    {stops : Failure → Prop} {first : Program Op Answer Failure First}
    {next : First → Program Op Answer Failure Second} {hand : Hand}
    (follows : Follows protocol between stops first hand)
    (goes : ∀ result after, between result after →
      Follows protocol ends stops (next result) after) :
    Follows protocol ends stops (first >>= next) hand := by
  induction first generalizing hand with
  | done result => exact goes result hand follows
  | stop failure => exact follows
  | ask op rest ih =>
      exact ⟨follows.1, fun answer expected => ih answer (follows.2 answer expected)⟩

theorem follows_mono {finer ends : Result → Hand → Prop} {stops : Failure → Prop}
    {program : Program Op Answer Failure Result} {hand : Hand}
    (follows : Follows protocol finer stops program hand)
    (ended : ∀ result after, finer result after → ends result after) :
    Follows protocol ends stops program hand := by
  induction program generalizing hand with
  | done result => exact ended result hand follows
  | stop failure => exact follows
  | ask op rest ih =>
      exact ⟨follows.1, fun answer expected => ih answer (follows.2 answer expected)⟩

end Hands

end Program

/-! Programs that take turns. -/

open Interleaving

/-- A process: what is left of its program, and its hand. -/
structure Seat (Op : Type) (Answer : Op → Type) (Failure Result Hand : Type) where
  hand : Hand
  program : Program Op Answer Failure Result

section Turns

variable {Op : Type} {Answer : Op → Type} {Failure Result State Hand Id : Type}

def Seat.Active (seat : Seat Op Answer Failure Result Hand) : Prop :=
  seat.program.asked.isSome = true

variable (protocol : Protocol Op Answer Hand) (ends : Result → Hand → Prop) (stops : Failure → Prop)
  (whole : State → Prop) (sound : Id → State → Hand → Prop) (apart : Hand → Hand → Prop)

/-- Every process follows the protocol, and the hand of each one that still has something to do
fits the shared state and the other hands. -/
structure Orderly (system : System Id State (Seat Op Answer Failure Result Hand)) : Prop where
  whole : whole system.shared
  follows : ∀ id, (system.locals id).program.Follows protocol ends stops (system.locals id).hand
  sound : ∀ id, (system.locals id).Active → sound id system.shared (system.locals id).hand
  apart : ∀ id other, id ≠ other → (system.locals id).Active → (system.locals other).Active →
    apart (system.locals id).hand (system.locals other).hand

variable {protocol ends stops whole sound apart}
  {system : System Id State (Seat Op Answer Failure Result Hand)}

theorem orderly_permitted (orderly : Orderly protocol ends stops whole sound apart system) {id : Id}
    {op : Op} (asked : (system.locals id).program.asked = some op) :
    protocol.permits (system.locals id).hand op := by
  have follows := orderly.follows id
  cases shape : (system.locals id).program with
  | ask known rest =>
      rw [shape] at follows asked
      cases asked
      exact follows.1
  | done result =>
      rw [shape] at asked
      cases asked
  | stop failure =>
      rw [shape] at asked
      cases asked

-- Something outside the programs has changed the shared state.
theorem orderly_shared (orderly : Orderly protocol ends stops whole sound apart system)
    {shared : State} (wholly : whole shared)
    (fits : ∀ id, sound id system.shared (system.locals id).hand →
      sound id shared (system.locals id).hand) :
    Orderly protocol ends stops whole sound apart { system with shared := shared } :=
  ⟨wholly, orderly.follows, fun id active => fits id (orderly.sound id active), orderly.apart⟩

variable [DecidableEq Id] (answer : Id → (op : Op) → State → Answer op × State)

variable (protocol) in
def takeTurn (system : System Id State (Seat Op Answer Failure Result Hand)) (id : Id) :
    System Id State (Seat Op Answer Failure Result Hand) :=
  match (system.locals id).program with
  | .ask op rest =>
      let answered := answer id op system.shared
      system.turn id answered.2
        ⟨protocol.next (system.locals id).hand op answered.1, rest answered.1⟩
  | _ => system

variable {answer}

/-- A turn is orderly when the answer was expected, the hand after it fits the state after it, and
the hands of the others still do. -/
theorem orderly_turn (orderly : Orderly protocol ends stops whole sound apart system) {id : Id}
    (kept : ∀ op, (system.locals id).program.asked = some op →
      let answered := answer id op system.shared
      let hand := protocol.next (system.locals id).hand op answered.1
      protocol.expects (system.locals id).hand op answered.1 ∧ whole answered.2 ∧
        sound id answered.2 hand ∧
        ∀ other, other ≠ id → (system.locals other).Active →
          sound other answered.2 (system.locals other).hand ∧
            apart hand (system.locals other).hand ∧ apart (system.locals other).hand hand) :
    Orderly protocol ends stops whole sound apart (takeTurn protocol answer system id) := by
  have follows := orderly.follows id
  unfold takeTurn
  cases shape : (system.locals id).program with
  | done result => exact orderly
  | stop failure => exact orderly
  | ask op rest =>
      rw [shape] at follows kept
      obtain ⟨expected, wholly, own, others⟩ := kept op rfl
      have elsewhere {other : Id} (different : other ≠ id) :=
        turn_other system (answer id op system.shared).2
          (⟨protocol.next (system.locals id).hand op (answer id op system.shared).1,
            rest (answer id op system.shared).1⟩ : Seat Op Answer Failure Result Hand) different
      constructor
      · exact wholly
      · intro other
        by_cases same : other = id
        · subst same
          rw [turn_own]
          exact follows.2 _ expected
        · rw [elsewhere same]
          exact orderly.follows other
      · intro other active
        by_cases same : other = id
        · subst same
          rw [turn_own]
          exact own
        · rw [elsewhere same] at active ⊢
          exact (others other same active).1
      · intro one other different active busy
        by_cases same : one = id
        · subst same
          rw [elsewhere different.symm] at busy ⊢
          rw [turn_own]
          exact (others other different.symm busy).2.1
        · rw [elsewhere same] at active ⊢
          by_cases also : other = id
          · subst also
            rw [turn_own]
            exact (others one same active).2.2
          · rw [elsewhere also] at busy ⊢
            exact orderly.apart one other different active busy

end Turns

end Missive.Programs
