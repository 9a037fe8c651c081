import Missive.BackgroundJobs

/-! The columns of a job that decide when it runs, and the four ways in which the
program changes them. What holds of a job over time is proved here, on these
columns alone; the next module shows that every command moves a row in one of the
four ways or not at all. -/
namespace Missive.JobLifecycle

open JsonValue Missive.Core Schema BackgroundJobs

structure Lifecycle where
  kind : String
  state : GatewayJobState
  resultJson : Option Json
  retryCount : UInt32
  maxAttempts : UInt32
  nextRunAt : Option SecondTime
  lockedBy : Option String
  lockedUntil : Option SecondTime
  completedAt : Option SecondTime

def lifecycle (job : GatewayJobRecord) : Lifecycle :=
  ⟨job.kind, job.state, job.resultJson, job.retryCount, job.maxAttempts, job.nextRunAt, job.lockedBy,
    job.lockedUntil, job.completedAt⟩

namespace Lifecycle

def claimed (job : Lifecycle) (owner : String) (lockedUntil : SecondTime) : Lifecycle :=
  { job with
    state := .running, resultJson := none, nextRunAt := none, lockedBy := some owner,
    lockedUntil := some lockedUntil, completedAt := none }

def ended (job : Lifecycle) (state : GatewayJobState) (result : Json) (completedAt : SecondTime) :
    Lifecycle :=
  { job with
    state := state, resultJson := some result, nextRunAt := none, lockedBy := none,
    lockedUntil := none, completedAt := some completedAt }

def retried (job : Lifecycle) (result : Json) (nextRunAt : SecondTime) : Lifecycle :=
  { job with
    state := .retrying, resultJson := some result, retryCount := nextRetryCount job.retryCount,
    nextRunAt := some nextRunAt, lockedBy := none, lockedUntil := none, completedAt := none }

def waiting (job : Lifecycle) : Bool :=
  match job.state with
  | .queued | .retrying => true
  | _ => false

/-- A change the program may make to a job. -/
inductive Move : Lifecycle → Lifecycle → Prop
  | claim (job : Lifecycle) (owner : String) (lockedUntil : SecondTime)
      (live : isTerminalJobState job.state = false) : Move job (job.claimed owner lockedUntil)
  | finish (job : Lifecycle) (state : GatewayJobState) (result : Json) (completedAt : SecondTime)
      (terminal : isTerminalJobState state = true) : Move job (job.ended state result completedAt)
  | retry (job : Lifecycle) (result : Json) (nextRunAt : SecondTime)
      (remaining : nextRetryCount job.retryCount < job.maxAttempts) :
      Move job (job.retried result nextRunAt)

/-- The columns agree with the state, and an attempt is left. -/
structure WellFormed (job : Lifecycle) : Prop where
  lockedBy : job.lockedBy.isSome = true ↔ job.state = .running
  lockedUntil : job.lockedUntil.isSome = true ↔ job.state = .running
  completedAt : job.completedAt.isSome = true ↔ isTerminalJobState job.state = true
  nextRunAt : job.nextRunAt.isSome = true ↔ job.state = .retrying
  remaining : job.retryCount < job.maxAttempts

theorem move_wellFormed {before after : Lifecycle} (moved : Move before after)
    (valid : WellFormed before) : WellFormed after := by
  cases moved with
  | claim owner lockedUntil live =>
      constructor <;> simp [claimed, isTerminalJobState, valid.remaining]
  | finish state result completedAt terminal =>
      constructor <;> cases state <;> simp_all [ended, isTerminalJobState, valid.remaining]
  | retry result nextRunAt remaining =>
      constructor <;> simp [retried, isTerminalJobState, remaining]

theorem move_kind {before after : Lifecycle} (moved : Move before after) : after.kind = before.kind := by
  cases moved <;> rfl

end Lifecycle

theorem nextRetryCount_toNat (count bound : UInt32) (below : count < bound) :
    (nextRetryCount count).toNat = count.toNat + 1 := by
  have less : count.toNat < bound.toNat := UInt32.lt_iff_toNat_lt.mp below
  have small : count.toNat + 1 < 2 ^ 32 := lt_of_le_of_lt less bound.toNat_lt
  unfold nextRetryCount
  rw [if_pos small, UInt32.toNat_add]
  exact Nat.mod_eq_of_lt small

end Missive.JobLifecycle
