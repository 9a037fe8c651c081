import Missive.GatewayDaemon

/-! Which gateways can act at the same time. The lock keeps two daemons from serving together; a
daemon that has given the lock up may still be inside a scan or an attempt. -/
namespace Missive.GatewayExclusion

open Interleaving GatewayDaemon

section Exclusion

variable {Id SubscriptionCandidate JobCandidate : Type}

def Quiet (gateway : Gateway SubscriptionCandidate JobCandidate) : Prop :=
  gateway.subscriptions = .absent ∧ gateway.jobs = .absent

-- What a daemon has started and said by each phase.
def Standing (gateway : Gateway SubscriptionCandidate JobCandidate) : Prop :=
  match gateway.phase with
  | .launched | .locked => gateway.shutdown = false ∧ Quiet gateway
  | .refused | .ended => Quiet gateway
  | .subscribed => gateway.shutdown = false
  | .stopping | .joiningSubscriptions | .joiningJobs | .returned => gateway.shutdown = true
  | .serving | .served | .abandoned => True

def Held (id : Id) (lock : Option Id) (gateway : Gateway SubscriptionCandidate JobCandidate) : Prop :=
  (gateway.phase.holdsLock = true ↔ lock = some id) ∧ Standing gateway

theorem quiet_canAct {gateway : Gateway SubscriptionCandidate JobCandidate} (quiet : Quiet gateway) :
    gateway.canAct = false := by
  simp [Gateway.canAct, quiet.1, quiet.2, Manager.canAct]

theorem manage_absent {Candidate : Type} {gateway : Gateway SubscriptionCandidate JobCandidate}
    {answer : Answer Candidate} (kept : gateway.phase ≠ .abandoned) :
    gateway.manage answer .absent = .absent := by
  simp [Gateway.manage, kept, Manager.next]

theorem standing_managers {gateway : Gateway SubscriptionCandidate JobCandidate}
    {subscriptions : Manager SubscriptionCandidate} {jobs : Manager JobCandidate}
    (standing : Standing gateway)
    (asleep : gateway.phase ≠ .abandoned → Quiet gateway → subscriptions = .absent ∧ jobs = .absent) :
    Standing { gateway with subscriptions, jobs } := by
  obtain ⟨phase, shutdown, before, earlier⟩ := gateway
  cases phase with
  | launched => exact ⟨standing.1, asleep Daemon.noConfusion standing.2⟩
  | locked => exact ⟨standing.1, asleep Daemon.noConfusion standing.2⟩
  | refused => exact asleep Daemon.noConfusion standing
  | ended => exact asleep Daemon.noConfusion standing
  | _ => exact standing

-- What a step does to the lock: the daemon takes it, leaves it alone, or gives it up.
theorem step_lock {id : Id} {lock after : Option Id}
    {gateway next : Gateway SubscriptionCandidate JobCandidate}
    {act : Act SubscriptionCandidate JobCandidate}
    (stepped : gateway.step id lock act = some (after, next)) :
    (lock = none ∧ after = some id ∧ next.phase = .locked) ∨
    (after = lock ∧ next.phase.holdsLock = gateway.phase.holdsLock) ∨
    (after = gateway.freed lock ∧ next.phase.holdsLock = false) := by
  cases act with
  | acquire =>
      simp only [Gateway.step] at stepped
      split at stepped
      · rename_i launched
        split at stepped
        · cases stepped
          exact .inr (.inl ⟨rfl, by rw [launched]; rfl⟩)
        · rename_i free
          cases stepped
          exact .inl ⟨by simpa using free, rfl, rfl⟩
      · cases stepped
  | spawnSubscriptions | spawnJobs | request =>
      simp only [Gateway.step, Option.ite_none_right_eq_some] at stepped
      obtain ⟨phase, stepped⟩ := stepped
      cases stepped
      exact .inr (.inl ⟨rfl, by rw [phase]; rfl⟩)
  | serve =>
      simp only [Gateway.step, Option.ite_none_right_eq_some] at stepped
      obtain ⟨⟨phase, _⟩, stepped⟩ := stepped
      cases stepped
      exact .inr (.inl ⟨rfl, by rw [phase]; rfl⟩)
  | signal =>
      simp only [Gateway.step, Option.ite_none_right_eq_some] at stepped
      obtain ⟨_, stepped⟩ := stepped
      cases stepped
      exact .inr (.inl ⟨rfl, rfl⟩)
  | release =>
      simp only [Gateway.step, Option.ite_none_right_eq_some] at stepped
      obtain ⟨phase, stepped⟩ := stepped
      cases stepped
      refine .inr (.inr ⟨?_, rfl⟩)
      simp [Gateway.freed, phase, Daemon.holdsLock]
  | joinSubscriptions | joinJobs =>
      simp only [Gateway.step] at stepped
      split at stepped
      · rename_i phase _
        cases stepped
        exact .inr (.inl ⟨rfl, by rw [phase]; rfl⟩)
      · cases stepped
  | abandon =>
      simp only [Gateway.step, Option.ite_none_right_eq_some] at stepped
      obtain ⟨_, stepped⟩ := stepped
      cases stepped
      exact .inr (.inr ⟨rfl, rfl⟩)
  | ends =>
      cases stepped
      exact .inr (.inr ⟨rfl, rfl⟩)
  | subscriptions answer | jobs answer =>
      cases stepped
      exact .inr (.inl ⟨rfl, rfl⟩)

theorem freed_other {id other : Id} {lock : Option Id}
    {gateway : Gateway SubscriptionCandidate JobCandidate}
    (holds : gateway.phase.holdsLock = true ↔ lock = some id) (apart : other ≠ id) :
    gateway.freed lock = some other ↔ lock = some other := by
  unfold Gateway.freed
  by_cases held : gateway.phase.holdsLock = true
  · rw [if_pos held, holds.mp held, Option.some.injEq]
    simp [Ne.symm apart]
  · rw [if_neg held]

theorem freed_own {id : Id} {lock : Option Id} {gateway : Gateway SubscriptionCandidate JobCandidate}
    (holds : gateway.phase.holdsLock = true ↔ lock = some id) : gateway.freed lock ≠ some id := by
  unfold Gateway.freed
  by_cases held : gateway.phase.holdsLock = true
  · simp [held]
  · rw [if_neg held]
    exact mt holds.mpr held

theorem step_standing {id : Id} {lock after : Option Id}
    {gateway next : Gateway SubscriptionCandidate JobCandidate}
    {act : Act SubscriptionCandidate JobCandidate} (standing : Standing gateway)
    (stepped : gateway.step id lock act = some (after, next)) : Standing next := by
  unfold Standing at standing
  cases act with
  | acquire =>
      simp only [Gateway.step] at stepped
      split at stepped
      · rename_i launched
        rw [launched] at standing
        split at stepped
        · cases stepped
          exact standing.2
        · cases stepped
          exact standing
      · cases stepped
  | spawnSubscriptions =>
      simp only [Gateway.step, Option.ite_none_right_eq_some] at stepped
      obtain ⟨phase, stepped⟩ := stepped
      rw [phase] at standing
      cases stepped
      exact standing.1
  | spawnJobs =>
      simp only [Gateway.step, Option.ite_none_right_eq_some] at stepped
      obtain ⟨_, stepped⟩ := stepped
      cases stepped
      trivial
  | signal =>
      simp only [Gateway.step, Option.ite_none_right_eq_some] at stepped
      obtain ⟨phase, stepped⟩ := stepped
      cases stepped
      simp [Standing, phase]
  | serve =>
      simp only [Gateway.step, Option.ite_none_right_eq_some] at stepped
      obtain ⟨_, stepped⟩ := stepped
      cases stepped
      trivial
  | request =>
      simp only [Gateway.step, Option.ite_none_right_eq_some] at stepped
      obtain ⟨_, stepped⟩ := stepped
      cases stepped
      rfl
  | release =>
      simp only [Gateway.step, Option.ite_none_right_eq_some] at stepped
      obtain ⟨phase, stepped⟩ := stepped
      rw [phase] at standing
      cases stepped
      exact standing
  | joinSubscriptions | joinJobs =>
      simp only [Gateway.step] at stepped
      split at stepped
      · rename_i phase _
        rw [phase] at standing
        cases stepped
        exact standing
      · cases stepped
  | abandon =>
      simp only [Gateway.step, Option.ite_none_right_eq_some] at stepped
      obtain ⟨_, stepped⟩ := stepped
      cases stepped
      trivial
  | ends =>
      cases stepped
      exact ⟨rfl, rfl⟩
  | subscriptions answer =>
      cases stepped
      refine standing_managers standing fun kept quiet => ⟨?_, quiet.2⟩
      rw [quiet.1, manage_absent kept]
  | jobs answer =>
      cases stepped
      refine standing_managers standing fun kept quiet => ⟨quiet.1, ?_⟩
      rw [quiet.2, manage_absent kept]

theorem manage_canAct {Candidate : Type} {gateway : Gateway SubscriptionCandidate JobCandidate}
    {answer : Answer Candidate} {manager : Manager Candidate}
    (acts : (gateway.manage answer manager).canAct gateway.winding = true) :
    manager.canAct gateway.winding = true := by
  unfold Gateway.manage at acts
  by_cases dropped : gateway.phase = .abandoned
  · rw [if_pos dropped] at acts
    cases acts
  · rw [if_neg dropped] at acts
    rw [Gateway.winding, decide_eq_false dropped, Bool.or_false] at acts ⊢
    exact next_canAct acts

-- Winding down stops a daemon from acting, and nothing else starts one again but a spawn.
theorem wound_canAct {gateway next : Gateway SubscriptionCandidate JobCandidate}
    (acts : next.canAct = true) (subscriptions : next.subscriptions = gateway.subscriptions)
    (jobs : next.jobs = gateway.jobs) (winds : gateway.winding = true → next.winding = true) :
    gateway.canAct = true := by
  unfold Gateway.canAct at acts ⊢
  rw [subscriptions, jobs] at acts
  cases before : gateway.winding with
  | true => rwa [winds before] at acts
  | false =>
      rw [Bool.or_eq_true] at acts ⊢
      exact acts.imp canAct_winding canAct_winding

theorem step_canAct {id : Id} {lock after : Option Id}
    {gateway next : Gateway SubscriptionCandidate JobCandidate}
    {act : Act SubscriptionCandidate JobCandidate}
    (stepped : gateway.step id lock act = some (after, next)) (acts : next.canAct = true) :
    gateway.canAct = true ∨ gateway.starts next := by
  cases act with
  | acquire =>
      simp only [Gateway.step] at stepped
      split at stepped
      · rename_i launched
        left
        split at stepped <;> cases stepped <;>
          exact wound_canAct acts rfl rfl (fun winds => by simpa [Gateway.winding, launched] using winds)
      · cases stepped
  | spawnSubscriptions =>
      simp only [Gateway.step, Option.ite_none_right_eq_some] at stepped
      obtain ⟨phase, stepped⟩ := stepped
      cases stepped
      exact .inr (.inl ⟨phase, rfl⟩)
  | spawnJobs =>
      simp only [Gateway.step, Option.ite_none_right_eq_some] at stepped
      obtain ⟨phase, stepped⟩ := stepped
      cases stepped
      exact .inr (.inr ⟨phase, rfl⟩)
  | signal | request | abandon =>
      simp only [Gateway.step, Option.ite_none_right_eq_some] at stepped
      obtain ⟨_, stepped⟩ := stepped
      cases stepped
      exact .inl (wound_canAct acts rfl rfl (fun _ => by simp [Gateway.winding]))
  | serve =>
      simp only [Gateway.step, Option.ite_none_right_eq_some] at stepped
      obtain ⟨⟨phase, told⟩, stepped⟩ := stepped
      cases stepped
      exact .inl (wound_canAct acts rfl rfl (fun _ => by simp [Gateway.winding, told]))
  | release =>
      simp only [Gateway.step, Option.ite_none_right_eq_some] at stepped
      obtain ⟨phase, stepped⟩ := stepped
      cases stepped
      exact .inl (wound_canAct acts rfl rfl (fun winds => by simpa [Gateway.winding, phase] using winds))
  | joinSubscriptions | joinJobs =>
      simp only [Gateway.step] at stepped
      split at stepped
      · rename_i phase _
        cases stepped
        exact .inl (wound_canAct acts rfl rfl (fun winds => by simpa [Gateway.winding, phase] using winds))
      · cases stepped
  | ends =>
      cases stepped
      cases acts
  | subscriptions answer =>
      cases stepped
      left
      simp only [Gateway.canAct, Bool.or_eq_true] at acts ⊢
      exact acts.imp_left manage_canAct
  | jobs answer =>
      cases stepped
      left
      simp only [Gateway.canAct, Bool.or_eq_true] at acts ⊢
      exact acts.imp_right manage_canAct

/-! The whole system. -/

theorem step_held {id : Id} {lock after : Option Id}
    {gateway next : Gateway SubscriptionCandidate JobCandidate}
    {act : Act SubscriptionCandidate JobCandidate} (held : Held id lock gateway)
    (stepped : gateway.step id lock act = some (after, next)) : Held id after next := by
  refine ⟨?_, step_standing held.2 stepped⟩
  rcases step_lock stepped with ⟨_, taken, locked⟩ | ⟨same, kept⟩ | ⟨given, released⟩
  · rw [taken, locked]
    simp [Daemon.holdsLock]
  · rw [same, kept]
    exact held.1
  · rw [given, released]
    simp [freed_own held.1]

theorem step_held_other {id other : Id} {lock after : Option Id}
    {gateway next waiting : Gateway SubscriptionCandidate JobCandidate}
    {act : Act SubscriptionCandidate JobCandidate} (mine : Held id lock gateway)
    (stepped : gateway.step id lock act = some (after, next)) (apart : other ≠ id)
    (held : Held other lock waiting) : Held other after waiting := by
  refine ⟨held.1.trans ?_, held.2⟩
  rcases step_lock stepped with ⟨free, taken, _⟩ | ⟨same, _⟩ | ⟨given, _⟩
  · rw [free, taken]
    simp [Ne.symm apart]
  · rw [same]
  · rw [given]
    exact (freed_other mine.1 apart).symm

theorem moves_keep : Keeps (Moves : Id → Option Id × Gateway SubscriptionCandidate JobCandidate →
    Option Id × Gateway SubscriptionCandidate JobCandidate → Prop) (fun _ => True) Held := by
  constructor
  · rintro id before ⟨after, next⟩ - held ⟨act, stepped⟩
    exact ⟨trivial, step_held held stepped⟩
  · rintro id before ⟨after, next⟩ - mine ⟨act, stepped⟩ other waiting apart held
    exact step_held_other mine stepped apart held

def Starts (before after : System Id (Option Id) (Gateway SubscriptionCandidate JobCandidate)) : Prop :=
  ∃ id, (before.locals id).starts (after.locals id)

/-- No gateway that has given up the lock is still inside a scan or an attempt. -/
def Settled (system : System Id (Option Id) (Gateway SubscriptionCandidate JobCandidate)) : Prop :=
  ∀ id, (system.locals id).phase.released = true → (system.locals id).inFlight = false

def OneGateway (system : System Id (Option Id) (Gateway SubscriptionCandidate JobCandidate)) : Prop :=
  Alone (fun gateway => gateway.canAct = true) system

theorem released_unlocked {phase : Daemon} (released : phase.released = true) :
    phase.holdsLock = false := by
  cases phase with
  | joiningSubscriptions | joiningJobs | returned | abandoned => rfl
  | _ => cases released

theorem released_winding {gateway : Gateway SubscriptionCandidate JobCandidate}
    (standing : Standing gateway) (released : gateway.phase.released = true) :
    gateway.winding = true := by
  obtain ⟨phase, shutdown, subscriptions, jobs⟩ := gateway
  cases phase with
  | joiningSubscriptions | joiningJobs | returned =>
      have told : shutdown = true := standing
      subst told
      rfl
  | abandoned => simp [Gateway.winding]
  | _ => cases released

theorem winding_inFlight {gateway : Gateway SubscriptionCandidate JobCandidate}
    (winding : gateway.winding = true) : gateway.canAct = gateway.inFlight := by
  simp only [Gateway.canAct, Gateway.inFlight, winding, winding_canAct]

-- A daemon that can act and does not hold the lock has given it up.
theorem acting_released {gateway : Gateway SubscriptionCandidate JobCandidate}
    (standing : Standing gateway) (unlocked : gateway.phase.holdsLock = false)
    (acts : gateway.canAct = true) : gateway.phase.released = true := by
  cases phase : gateway.phase with
  | joiningSubscriptions | joiningJobs | returned | abandoned => rfl
  | launched =>
      unfold Standing at standing
      rw [phase] at standing
      rw [quiet_canAct standing.2] at acts
      cases acts
  | refused | ended =>
      unfold Standing at standing
      rw [phase] at standing
      rw [quiet_canAct standing] at acts
      cases acts
  | locked | subscribed | serving | served | stopping =>
      rw [phase] at unlocked
      cases unlocked

theorem starts_held {before after : Gateway SubscriptionCandidate JobCandidate}
    (starts : before.starts after) : before.phase.holdsLock = true := by
  rcases starts with ⟨locked, _⟩ | ⟨subscribed, _⟩
  · rw [locked]
    rfl
  · rw [subscribed]
    rfl

theorem launch_held : Holds (fun _ => True) Held (launch Id SubscriptionCandidate JobCandidate) := by
  constructor
  · trivial
  · intro id
    exact ⟨⟨Bool.noConfusion, fun held => by cases held⟩, rfl, rfl, rfl⟩

theorem launch_alone : OneGateway (launch Id SubscriptionCandidate JobCandidate) := by
  intro first second acts
  cases acts

-- While a daemon holds the lock and every other is settled, no other can act.
theorem settled_quiet {system : System Id (Option Id) (Gateway SubscriptionCandidate JobCandidate)}
    (held : ∀ id, Held id system.shared (system.locals id)) (settled : Settled system) {id other : Id}
    (locked : (system.locals id).phase.holdsLock = true) (apart : other ≠ id) :
    ¬ (system.locals other).canAct = true := by
  intro acts
  have unlocked : (system.locals other).phase.holdsLock = false := by
    rw [Bool.eq_false_iff]
    intro also
    have both := (held id).1.mp locked
    rw [(held other).1.mp also, Option.some.injEq] at both
    exact apart both
  have released := acting_released (held other).2 unlocked acts
  rw [winding_inFlight (released_winding (held other).2 released), settled other released] at acts
  cases acts

theorem starts_canAct {id : Id} {lock after : Option Id}
    {gateway next : Gateway SubscriptionCandidate JobCandidate}
    {act : Act SubscriptionCandidate JobCandidate} (standing : Standing gateway)
    (stepped : gateway.step id lock act = some (after, next)) (starts : gateway.starts next) :
    next.canAct = true := by
  unfold Standing at standing
  rcases starts with ⟨locked, subscribed⟩ | ⟨subscribed, serving⟩
  · rw [locked] at standing
    cases act with
    | spawnSubscriptions =>
        simp only [Gateway.step, if_pos locked] at stepped
        cases stepped
        simp [Gateway.canAct, Gateway.winding, standing.1, Manager.canAct]
    | abandon =>
        simp only [Gateway.step, Option.ite_none_right_eq_some] at stepped
        obtain ⟨_, stepped⟩ := stepped
        cases stepped
        cases subscribed
    | ends =>
        cases stepped
        cases subscribed
    | subscriptions answer | jobs answer =>
        cases stepped
        rw [locked] at subscribed
        cases subscribed
    | _ => simp [Gateway.step, locked] at stepped
  · rw [subscribed] at standing
    cases act with
    | spawnJobs =>
        simp only [Gateway.step, if_pos subscribed] at stepped
        cases stepped
        simp [Gateway.canAct, Gateway.winding, standing, Manager.canAct]
    | abandon =>
        simp only [Gateway.step, Option.ite_none_right_eq_some] at stepped
        obtain ⟨_, stepped⟩ := stepped
        cases stepped
        cases serving
    | ends =>
        cases stepped
        cases serving
    | subscriptions answer | jobs answer =>
        cases stepped
        rw [subscribed] at serving
        cases serving
    | _ => simp [Gateway.step, subscribed] at stepped

variable [DecidableEq Id]

theorem reachable_held {system : System Id (Option Id) (Gateway SubscriptionCandidate JobCandidate)}
    (reached : Reachable Moves (launch Id SubscriptionCandidate JobCandidate) system) :
    ∀ id, Held id system.shared (system.locals id) :=
  (reachable_holds moves_keep reached launch_held).each

theorem step_alone {before after : System Id (Option Id) (Gateway SubscriptionCandidate JobCandidate)}
    (held : ∀ id, Held id before.shared (before.locals id)) (alone : OneGateway before)
    (step : Step Moves before after) (settled : Starts before after → Settled before) :
    OneGateway after := by
  obtain ⟨id, lock, gateway, act, stepped⟩ := step
  refine turn_alone alone fun acts => ?_
  rcases step_canAct stepped acts with already | starts
  · exact .inl already
  · right
    intro other apart
    have quiet := settled ⟨id, by rwa [turn_own]⟩
    exact settled_quiet held quiet (starts_held starts) apart

def SettledStep (before after : System Id (Option Id) (Gateway SubscriptionCandidate JobCandidate)) :
    Prop :=
  Step Moves before after ∧ (Starts before after → Settled before)

theorem settledRun_reachable
    {system : System Id (Option Id) (Gateway SubscriptionCandidate JobCandidate)}
    (run : Relation.ReflTransGen SettledStep (launch Id SubscriptionCandidate JobCandidate) system) :
    Reachable Moves (launch Id SubscriptionCandidate JobCandidate) system := by
  induction run with
  | refl => exact .refl
  | tail _ step ih => exact .tail ih step.1

theorem settledRun_alone
    {system : System Id (Option Id) (Gateway SubscriptionCandidate JobCandidate)}
    (run : Relation.ReflTransGen SettledStep (launch Id SubscriptionCandidate JobCandidate) system) :
    OneGateway system := by
  induction run with
  | refl => exact launch_alone
  | tail earlier step ih =>
      exact step_alone (reachable_held (settledRun_reachable earlier)) ih step.1 step.2

theorem starts_together {before after : System Id (Option Id) (Gateway SubscriptionCandidate JobCandidate)}
    (held : ∀ id, Held id before.shared (before.locals id)) (step : Step Moves before after)
    (starts : Starts before after) (unsettled : ¬ Settled before) : ¬ OneGateway after := by
  obtain ⟨id, lock, gateway, act, stepped⟩ := step
  obtain ⟨starter, starts⟩ := starts
  have mine : starter = id := by
    by_contra apart
    rw [turn_other before lock gateway apart] at starts
    rcases starts with ⟨one, two⟩ | ⟨one, two⟩
    · rw [one] at two
      cases two
    · rw [one] at two
      cases two
  subst mine
  rw [turn_own] at starts
  simp only [Settled, not_forall] at unsettled
  obtain ⟨other, released, flying⟩ := unsettled
  rw [Bool.not_eq_false] at flying
  have apart : other ≠ starter := by
    rintro rfl
    have locked := starts_held starts
    rw [released_unlocked released] at locked
    cases locked
  have acts : (before.locals other).canAct = true := by
    rwa [winding_inFlight (released_winding (held other).2 released)]
  intro alone
  refine apart (alone other starter ?_ ?_)
  · rwa [turn_other before lock gateway apart]
  · rw [turn_own]
    exact starts_canAct (held starter).2 stepped starts

/-- In every run whose gateways start their managers only when the ones that gave the lock up are
settled, at most one gateway can act. A gateway that starts one too early acts beside another. -/
theorem one_gateway_settled :
    (∀ system, Relation.ReflTransGen SettledStep (launch Id SubscriptionCandidate JobCandidate) system →
      OneGateway system) ∧
    ∀ before after, Reachable Moves (launch Id SubscriptionCandidate JobCandidate) before →
      Step Moves before after → Starts before after → ¬ Settled before → ¬ OneGateway after := by
  constructor
  · intro system run
    exact settledRun_alone run
  · intro before after reached step starts unsettled
    exact starts_together (reachable_held reached) step starts unsettled

end Exclusion

def gatewayStep {Id S J : Type} (id : Id) (before : Option Id × Gateway S J) (act : Act S J) :
    Option (Option Id × Gateway S J) := before.2.step id before.1 act

-- The first gateway stops while a job attempt of its own runs, and the second one starts.
def overlapping : List (Bool × Act Unit Nat) :=
  [(true, .acquire), (true, .spawnSubscriptions), (true, .spawnJobs),
    (true, .jobs ⟨none, true, false⟩), (true, .jobs ⟨some [7], true, false⟩),
    (true, .jobs ⟨none, true, false⟩), (true, .signal), (true, .serve), (true, .request),
    (true, .release), (false, .acquire), (false, .spawnSubscriptions)]

theorem two_gateways_act :
    ¬ ∀ system, Reachable Moves (launch Bool Unit Nat) system → OneGateway system := by
  intro claimed
  have alone := claimed _ (takes_reachable gatewayStep overlapping (launch Bool Unit Nat))
  exact Bool.noConfusion (alone true false rfl rfl)

end Missive.GatewayExclusion
