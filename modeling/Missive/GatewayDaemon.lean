import Missive.Interleaving

/-! Gateway processes on one profile. Each takes the gateway lock, starts its two managers, serves
until it is told to stop, and gives the lock up before it waits for the managers. What a manager does
to the store is left out. -/
namespace Missive.GatewayDaemon

open Interleaving

/-! The loop of a manager. -/

inductive Manager (Candidate : Type) where
  | absent
  | checking
  | scanning
  | offered (candidates : List Candidate)
  | attempting (candidate : Candidate) (rest : List Candidate)
  | finishing (candidate : Candidate) (rest : List Candidate)
  | sleeping
  | stopped
  | failed

-- What the scan returned, whether an attempt was written down, and which branch of `select!` ran.
structure Answer (Candidate : Type) where
  scanned : Option (List Candidate)
  finished : Bool
  notified : Bool

section Managers

variable {Candidate : Type}

/-- The loop of `run_job_manager` and `run_subscription_manager` up to its next wait. -/
def Manager.next (shutdown : Bool) (answer : Answer Candidate) : Manager Candidate → Manager Candidate
  | .checking => if shutdown then .stopped else .scanning
  | .scanning => answer.scanned.elim .failed .offered
  | .offered [] => .sleeping
  | .offered (candidate :: rest) => if shutdown then .sleeping else .attempting candidate rest
  | .attempting candidate rest => .finishing candidate rest
  | .finishing _ rest => if answer.finished then .offered rest else .failed
  | .sleeping => if shutdown && answer.notified then .stopped else .checking
  | .absent => .absent
  | .stopped => .stopped
  | .failed => .failed

def Manager.inFlight : Manager Candidate → Bool
  | .scanning | .attempting .. | .finishing .. => true
  | _ => false

def Manager.canAct (winding : Bool) : Manager Candidate → Bool
  | .scanning | .attempting .. | .finishing .. => true
  | .checking | .offered _ | .sleeping => !winding
  | .absent | .stopped | .failed => false

theorem inFlight_canAct {winding : Bool} {manager : Manager Candidate}
    (flying : manager.inFlight = true) : manager.canAct winding = true := by
  cases manager with
  | scanning => rfl
  | attempting candidate rest => rfl
  | finishing candidate rest => rfl
  | _ => cases flying

theorem winding_canAct (manager : Manager Candidate) : manager.canAct true = manager.inFlight := by
  cases manager <;> rfl

theorem canAct_winding {manager : Manager Candidate} {winding : Bool}
    (acts : manager.canAct winding = true) : manager.canAct false = true := by
  cases manager with
  | checking => rfl
  | offered candidates => rfl
  | sleeping => rfl
  | _ => exact acts

theorem next_canAct {winding : Bool} {answer : Answer Candidate} {manager : Manager Candidate}
    (acts : (manager.next winding answer).canAct winding = true) : manager.canAct winding = true := by
  cases manager with
  | scanning => rfl
  | attempting candidate rest => rfl
  | finishing candidate rest => rfl
  | absent => exact acts
  | stopped => exact acts
  | failed => exact acts
  | checking =>
      cases winding with
      | false => rfl
      | true => exact acts
  | offered candidates =>
      cases winding with
      | false => rfl
      | true =>
          cases candidates with
          | nil => exact acts
          | cons candidate rest => exact acts
  | sleeping =>
      cases winding with
      | false => rfl
      | true =>
          cases notified : answer.notified <;> simp [Manager.next, notified, Manager.canAct] at acts

def Manager.turns (shutdown : Bool) (answers : List (Answer Candidate)) (manager : Manager Candidate) :
    Manager Candidate :=
  answers.foldl (fun manager answer => manager.next shutdown answer) manager

/-- A manager can act when its loop can still come to a scan or an attempt, or is inside one. -/
theorem canAct_iff (shutdown : Bool) (manager : Manager Candidate) :
    manager.canAct shutdown = true ↔ ∃ answers, (manager.turns shutdown answers).inFlight = true := by
  constructor
  · intro acts
    have idle : Answer Candidate := ⟨none, false, false⟩
    cases manager with
    | scanning => exact ⟨[], rfl⟩
    | attempting candidate rest => exact ⟨[], rfl⟩
    | finishing candidate rest => exact ⟨[], rfl⟩
    | absent => cases acts
    | stopped => cases acts
    | failed => cases acts
    | checking =>
        cases shutdown with
        | true => cases acts
        | false => exact ⟨[idle], rfl⟩
    | sleeping =>
        cases shutdown with
        | true => cases acts
        | false => exact ⟨[idle, idle], rfl⟩
    | offered candidates =>
        cases shutdown with
        | true => cases acts
        | false =>
            cases candidates with
            | nil => exact ⟨[idle, idle, idle], rfl⟩
            | cons candidate rest => exact ⟨[idle], rfl⟩
  · rintro ⟨answers, flying⟩
    induction answers generalizing manager with
    | nil => exact inFlight_canAct flying
    | cons answer rest ih => exact next_canAct (ih (manager.next shutdown answer) flying)

end Managers

/-! The daemon. -/

-- How far `run_gateway_daemon` has got. A daemon is abandoned when the function returns an error or
-- its future is dropped.
inductive Daemon where
  | launched
  | refused
  | locked
  | subscribed
  | serving
  | served
  | stopping
  | joiningSubscriptions
  | joiningJobs
  | returned
  | abandoned
  | ended
  deriving DecidableEq

def Daemon.holdsLock : Daemon → Bool
  | .locked | .subscribed | .serving | .served | .stopping => true
  | _ => false

def Daemon.released : Daemon → Bool
  | .joiningSubscriptions | .joiningJobs | .returned | .abandoned => true
  | _ => false

structure Gateway (SubscriptionCandidate JobCandidate : Type) where
  phase : Daemon
  shutdown : Bool
  subscriptions : Manager SubscriptionCandidate
  jobs : Manager JobCandidate

inductive Act (SubscriptionCandidate JobCandidate : Type) where
  | acquire
  | spawnSubscriptions
  | spawnJobs
  | signal
  | serve
  | request
  | release
  | joinSubscriptions
  | joinJobs
  | abandon
  | ends
  | subscriptions (answer : Answer SubscriptionCandidate)
  | jobs (answer : Answer JobCandidate)

section Daemons

variable {Id SubscriptionCandidate JobCandidate : Type}

def Gateway.launched : Gateway SubscriptionCandidate JobCandidate := ⟨.launched, false, .absent, .absent⟩

def Gateway.freed (gateway : Gateway SubscriptionCandidate JobCandidate) (lock : Option Id) :
    Option Id :=
  if gateway.phase.holdsLock then none else lock

def Gateway.running (gateway : Gateway SubscriptionCandidate JobCandidate) : Bool :=
  gateway.phase.holdsLock || gateway.phase = .joiningSubscriptions || gateway.phase = .joiningJobs

-- The runtime of an abandoned daemon drops a manager at its next wait.
def Gateway.manage {Candidate : Type} (gateway : Gateway SubscriptionCandidate JobCandidate)
    (answer : Answer Candidate) (manager : Manager Candidate) : Manager Candidate :=
  if gateway.phase = .abandoned then .stopped else manager.next gateway.shutdown answer

/-- One step of `run_gateway_daemon`, or of a manager it has spawned. -/
def Gateway.step (id : Id) (lock : Option Id) (gateway : Gateway SubscriptionCandidate JobCandidate) :
    Act SubscriptionCandidate JobCandidate →
      Option (Option Id × Gateway SubscriptionCandidate JobCandidate)
  | .acquire =>
      if gateway.phase = .launched then
        if lock.isSome then some (lock, { gateway with phase := .refused })
        else some (some id, { gateway with phase := .locked })
      else none
  | .spawnSubscriptions =>
      if gateway.phase = .locked then
        some (lock, { gateway with phase := .subscribed, subscriptions := .checking })
      else none
  | .spawnJobs =>
      if gateway.phase = .subscribed then
        some (lock, { gateway with phase := .serving, jobs := .checking })
      else none
  | .signal =>
      if gateway.phase = .serving then some (lock, { gateway with shutdown := true }) else none
  | .serve =>
      if gateway.phase = .serving ∧ gateway.shutdown = true then
        some (lock, { gateway with phase := .served })
      else none
  | .request =>
      if gateway.phase = .served then
        some (lock, { gateway with phase := .stopping, shutdown := true })
      else none
  | .release =>
      if gateway.phase = .stopping then
        some (none, { gateway with phase := .joiningSubscriptions })
      else none
  | .joinSubscriptions =>
      match gateway.phase, gateway.subscriptions with
      | .joiningSubscriptions, .stopped => some (lock, { gateway with phase := .joiningJobs })
      | _, _ => none
  | .joinJobs =>
      match gateway.phase, gateway.jobs with
      | .joiningJobs, .stopped => some (lock, { gateway with phase := .returned })
      | _, _ => none
  | .abandon =>
      if gateway.running then some (gateway.freed lock, { gateway with phase := .abandoned }) else none
  | .ends => some (gateway.freed lock, ⟨.ended, gateway.shutdown, .absent, .absent⟩)
  | .subscriptions answer =>
      some (lock, { gateway with subscriptions := gateway.manage answer gateway.subscriptions })
  | .jobs answer => some (lock, { gateway with jobs := gateway.manage answer gateway.jobs })

def Moves (id : Id) (before after : Option Id × Gateway SubscriptionCandidate JobCandidate) : Prop :=
  ∃ act, before.2.step id before.1 act = some after

def launch (Id SubscriptionCandidate JobCandidate : Type) :
    System Id (Option Id) (Gateway SubscriptionCandidate JobCandidate) :=
  ⟨none, fun _ => .launched⟩

/-! Who can act. -/

def Gateway.winding (gateway : Gateway SubscriptionCandidate JobCandidate) : Bool :=
  gateway.shutdown || gateway.phase = .abandoned

def Gateway.inFlight (gateway : Gateway SubscriptionCandidate JobCandidate) : Bool :=
  gateway.subscriptions.inFlight || gateway.jobs.inFlight

def Gateway.canAct (gateway : Gateway SubscriptionCandidate JobCandidate) : Bool :=
  gateway.subscriptions.canAct gateway.winding || gateway.jobs.canAct gateway.winding

-- `tokio::spawn` of a manager.
def Gateway.starts (before after : Gateway SubscriptionCandidate JobCandidate) : Prop :=
  (before.phase = .locked ∧ after.phase = .subscribed) ∨
    (before.phase = .subscribed ∧ after.phase = .serving)

end Daemons

end Missive.GatewayDaemon
