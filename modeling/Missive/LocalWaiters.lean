import Missive.BarrierVerdict

/-! `barrier --local` and `task wait --local` beside a gateway. The registry that a command opens
keeps the guard of the state-mutation lock, and the registry lives until the command returns;
the gateway persists every job and subscription update under the same lock. -/
namespace Missive.LocalWaiters

open JsonValue Missive.Core Schema Effects Repository Protocol BackgroundJobs TaskPersistence Barrier

def policyName : BarrierFailurePolicy → String
  | .stop => "stop"
  | .continue => "continue"

def stateNames (states : List TaskState) : Json :=
  .array (states.map fun state => .string state.asStr)

def appendBarrierStartedEvent (operation : BarrierOperation) : Action Unit := do
  let event ← newCliEvent "missive.barrier.started" (.object [
    ("context_id", .string operation.contextId.text),
    ("failure_policy", .string (policyName operation.failurePolicy)),
    ("from_bcast", .bool operation.fromBcast),
    ("group", .string operation.group.groupName.text),
    ("interval_ms", .nat operation.interval), ("local", .bool operation.isLocal),
    ("member_count", .nat operation.members.length),
    ("operation_id", .string operation.operationId), ("required", .nat operation.required),
    ("success_states", stateNames operation.targets.successStates),
    ("target_states", stateNames operation.targets.targetStates),
    ("timeout_ms", .nat operation.timeout)])
  let _ ← appendVersioned { event with
    groupName := some operation.group.groupName
    contextId := some operation.contextId } operation.serviceParameters.protocolVersion
  pure ()

def getExistingTask (taskId : TaskId) : Action TaskRecord := do
  let found ← getTask taskId
  match found with
  | some record => pure record
  | none => Effect.raise ((MissiveError.validation
      s!"task {debug taskId.text} is not known locally").withHelp
      "Use 'missive send' or 'missive stream' to create task rows, or pass --remote --agent to fetch from an A2A agent.")

def waitStateIsDecisive : TaskState → Bool
  | .completed | .failed | .cancelled | .inputRequired => true
  | _ => false

/-! The two commands, up to the end of their loops. -/

inductive LocalWaiter where
  | barrier (args : BarrierArgs) (timeout : Option Nat) (reference : Option BcastReference)
      (serviceParameters : ServiceParameters)
  | taskWait (taskId : TaskId) (timeout : Nat)

inductive Progress where
  | barrier (operation : BarrierOperation) (members : List BarrierMemberState) (attempts : Nat)
  | taskWait (taskId : TaskId) (timeout : Nat) (attempts : Nat)

inductive Verdict where
  | barrier (output : BarrierOutput)
  | task (state : TaskState) (attempts : Nat)
  | timeout (attempts : Nat)

-- From the opened registry to the first poll.
def LocalWaiter.begin : LocalWaiter → Action Progress
  | .barrier args timeout reference serviceParameters => do
      let operation ← prepareBarrierOperation { args with isLocal := true } timeout reference
        serviceParameters
      appendBarrierStartedEvent operation
      let members ← fun world =>
        Effect.lift (buildMemberStates world.store operation reference) world
      pure (.barrier operation members 0)
  | .taskWait taskId timeout => pure (.taskWait taskId timeout 0)

-- Nothing is asked of an agent in a local round, and what other processes do has its own steps.
def localRound (elapsed : Nat) : PollRound :=
  ⟨fun _ world => world, fun _ _ => Effect.raise (MissiveError.protocol "not asked"), elapsed⟩

variable (codec : Codec)

/-- One pass of a loop: it ends the command, or the command sleeps and polls again. -/
def Progress.poll (elapsed : Nat) (world : World) :
    Progress → (Except MissiveError Verdict ⊕ Progress) × World
  | .barrier operation members attempts =>
      let polled := pollRound codec operation (localRound elapsed) ⟨members, attempts, world⟩
      let decision := evaluateBarrier operation elapsed polled.members
      if decision ≠ .continue then
        (.inl (.ok (.barrier (finalizeBarrierOutput operation decision polled))), polled.world)
      else (.inr (.barrier operation polled.members polled.attempts), polled.world)
  | .taskWait taskId timeout attempts =>
      match getExistingTask taskId world with
      | (.error error, after) => (.inl (.error error), after)
      | (.ok record, after) =>
          if waitStateIsDecisive record.state then
            (.inl (.ok (.task record.state (attempts + 1))), after)
          else if timeout ≤ elapsed then (.inl (.ok (.timeout (attempts + 1))), after)
          else (.inr (.taskWait taskId timeout (attempts + 1)), after)

/-! The profile's state, its lock and the two processes. -/

inductive Process where
  | waiter
  | gateway
  deriving DecidableEq

inductive WaiterPhase where
  | starting
  | waiting (progress : Progress) (polls : Nat)
  | finished (result : Except MissiveError Verdict)

structure System where
  lock : Option Process
  world : World
  phase : WaiterPhase

-- Opening the registry also writes what the configuration says of agents and credentials.
inductive Command where
  | openRegistry (sync : Action Unit)
  | poll (elapsed : Nat)
  | acquire
  | persist (update : World → World)
  | release

def Enabled (system : System) : Command → Prop
  | .openRegistry _ => system.lock = none ∧ system.phase = .starting
  | .poll _ => ∃ progress polls, system.phase = .waiting progress polls
  | .acquire => system.lock = none
  | .persist _ => system.lock = some .gateway
  | .release => system.lock = some .gateway

-- The guard goes with the registry when the command returns, and stays while it sleeps.
def System.polled (system : System) (polls : Nat) :
    (Except MissiveError Verdict ⊕ Progress) × World → System
  | (.inl result, world) => ⟨none, world, .finished result⟩
  | (.inr progress, world) => { system with world, phase := .waiting progress (polls + 1) }

def next (waiter : LocalWaiter) (system : System) : Command → System
  | .openRegistry sync =>
      match (sync >>= fun _ => waiter.begin) system.world with
      | (.error error, world) => ⟨none, world, .finished (.error error)⟩
      | (.ok progress, world) => ⟨some .waiter, world, .waiting progress 0⟩
  | .poll elapsed =>
      match system.phase with
      | .waiting progress polls =>
          system.polled polls (progress.poll codec elapsed system.world)
      | _ => system
  | .acquire => { system with lock := some .gateway }
  | .persist update => { system with world := update system.world }
  | .release => { system with lock := none }

def Step (waiter : LocalWaiter) (before after : System) : Prop :=
  ∃ command, Enabled before command ∧ next codec waiter before command = after

def Reachable (waiter : LocalWaiter) (world : World) : System → Prop :=
  Relation.ReflTransGen (Step codec waiter) ⟨none, world, .starting⟩

def BetweenPolls (system : System) : Prop :=
  ∃ progress polls, system.phase = .waiting progress (polls + 1)

/-- The waiter does not hold the lock, and whatever update the gateway has to make can be
committed before the waiter's next poll, which then reads the updated state. -/
structure LetsGatewayIn (waiter : LocalWaiter) (system : System) : Prop where
  unlocked : system.lock ≠ some .waiter
  committed : ∀ update : World → World, ∃ after,
    Relation.ReflTransGen (Step codec waiter) system after ∧ after.phase = system.phase ∧
      ∀ elapsed progress polls, after.phase = .waiting progress polls →
        next codec waiter after (.poll elapsed) =
          after.polled polls (progress.poll codec elapsed (update system.world))

/-! What ends at the first poll. -/

/-- A poll that takes no time already ends the command. -/
def Progress.decided (world : World) : Progress → Prop
  | .barrier operation members attempts =>
      evaluateBarrier operation 0
        (pollRound codec operation (localRound 0) ⟨members, attempts, world⟩).members ≠ .continue
  | .taskWait taskId timeout _ =>
      ∀ record, world.store.tasks.find? taskId = some record →
        waitStateIsDecisive record.state = true ∨ timeout = 0

def DecidedAtOnce (system : System) : Prop :=
  ∀ progress, system.phase = .waiting progress 0 → progress.decided codec system.world

theorem localRound_members {operation : BarrierOperation} (elapsed : Nat)
    (members : List BarrierMemberState) (world : World) :
    refreshMembers codec operation (localRound elapsed) members world =
      refreshMembers codec operation (localRound 0) members world := by
  induction members generalizing world with
  | nil => rfl
  | cons member rest ih =>
      have same : refreshBarrierMember codec operation (localRound elapsed) member world =
        refreshBarrierMember codec operation (localRound 0) member world := rfl
      have visited : ∀ elapsed, (localRound elapsed).meanwhile member.member.agentAlias world = world :=
        fun _ => rfl
      simp only [refreshMembers, visited, same, ih]

theorem localRound_polled {operation : BarrierOperation} (elapsed : Nat) (poll : BarrierPoll) :
    pollRound codec operation (localRound elapsed) poll =
      pollRound codec operation (localRound 0) poll := by
  unfold pollRound
  rw [localRound_members]

theorem evaluateBarrier_later {operation : BarrierOperation} {members : List BarrierMemberState}
    (elapsed : Nat) (ended : evaluateBarrier operation 0 members ≠ .continue) :
    evaluateBarrier operation elapsed members ≠ .continue := by
  unfold evaluateBarrier at ended ⊢
  split_ifs at ended ⊢
  all_goals grind

theorem getExistingTask_found {taskId : TaskId} {world : World} {record : TaskRecord}
    (found : world.store.tasks.find? taskId = some record) :
    getExistingTask taskId world = (.ok record, world) := by
  have read : getTask taskId world = (.ok (some record), world) := by
    rw [← found]
    rfl
  exact Effect.bind_ok _ _ _ _ _ read

theorem getExistingTask_absent {taskId : TaskId} {world : World}
    (absent : world.store.tasks.find? taskId = none) :
    ∃ error, getExistingTask taskId world = (.error error, world) := by
  have read : getTask taskId world = (.ok none, world) := by
    rw [← absent]
    rfl
  exact ⟨_, Effect.bind_ok _ _ _ _ _ read⟩

theorem decided_ends {progress : Progress} {world : World} (decided : progress.decided codec world)
    (elapsed : Nat) : ∃ result after, progress.poll codec elapsed world = (.inl result, after) := by
  cases progress with
  | barrier operation members attempts =>
      have ended := evaluateBarrier_later elapsed decided
      rw [← localRound_polled codec elapsed] at ended
      exact ⟨_, _, if_pos ended⟩
  | taskWait taskId timeout attempts =>
      cases found : world.store.tasks.find? taskId with
      | none =>
          obtain ⟨error, ran⟩ := getExistingTask_absent found
          exact ⟨.error error, world, by simp only [Progress.poll, ran]⟩
      | some record =>
          have ran := getExistingTask_found found
          simp only [Progress.poll, ran]
          rcases decided record found with decisive | expired
          · exact ⟨_, _, if_pos decisive⟩
          · by_cases decisive : waitStateIsDecisive record.state = true
            · exact ⟨_, _, if_pos decisive⟩
            · exact ⟨_, _, (if_neg decisive).trans (if_pos (expired ▸ Nat.zero_le elapsed))⟩

theorem undecided_continues {progress : Progress} {world : World}
    (undecided : ¬ progress.decided codec world) :
    ∃ later after, progress.poll codec 0 world = (.inr later, after) := by
  cases progress with
  | barrier operation members attempts => exact ⟨_, _, if_neg undecided⟩
  | taskWait taskId timeout attempts =>
      simp only [Progress.decided, not_forall, not_or] at undecided
      obtain ⟨record, found, undecisive, positive⟩ := undecided
      have ran := getExistingTask_found found
      simp only [Progress.poll, ran]
      exact ⟨_, _, (if_neg undecisive).trans (if_neg (by omega))⟩

/-! The guard, over whole runs. -/

section Runs

variable {waiter : LocalWaiter} {world : World} {system after : System}

def GuardHeld (system : System) : Prop :=
  ∀ progress polls, system.phase = .waiting progress polls → system.lock = some .waiter

theorem step_guardHeld (held : GuardHeld system) (step : Step codec waiter system after) :
    GuardHeld after := by
  obtain ⟨command, enabled, rfl⟩ := step
  intro progress polls waits
  cases command with
  | openRegistry sync =>
      simp only [next] at waits ⊢
      split at waits
      · cases waits
      · rfl
  | poll elapsed =>
      obtain ⟨before, count, phase⟩ := enabled
      simp only [next, phase] at waits ⊢
      cases ran : before.poll codec elapsed system.world with
      | mk outcome world =>
          rw [ran] at waits
          cases outcome with
          | inl result => cases waits
          | inr later => exact held before count phase
  | acquire => cases enabled.symm.trans (held progress polls waits)
  | persist update => cases enabled.symm.trans (held progress polls waits)
  | release => cases enabled.symm.trans (held progress polls waits)

/-- A waiter that has opened the registry holds the lock until it has finished. -/
theorem reachable_guardHeld (reached : Reachable codec waiter world system) : GuardHeld system := by
  induction reached with
  | refl => exact fun _ _ waits => nomatch waits
  | tail _ step ih => exact step_guardHeld codec ih step

theorem undecided_blocks {progress : Progress} (reached : Reachable codec waiter world system)
    (first : system.phase = .waiting progress 0)
    (undecided : ¬ progress.decided codec system.world) :
    ∃ after, Reachable codec waiter world after ∧ BetweenPolls after ∧
      ¬ LetsGatewayIn codec waiter after := by
  obtain ⟨later, polled, ran⟩ := undecided_continues codec undecided
  have moved : next codec waiter system (.poll 0) =
      { system with world := polled, phase := .waiting later 1 } := by
    simp only [next, first, ran, System.polled]
  have step : Step codec waiter system _ := ⟨.poll 0, ⟨progress, 0, first⟩, moved⟩
  refine ⟨_, reached.tail step, ⟨later, 0, rfl⟩, fun lets => ?_⟩
  exact lets.unlocked (reachable_guardHeld codec (reached.tail step) later 1 rfl)

theorem decided_never_sleeps
    (decided : ∀ system, Reachable codec waiter world system → DecidedAtOnce codec system)
    (reached : Reachable codec waiter world system) : ¬ BetweenPolls system := by
  induction reached with
  | refl => exact fun ⟨_, _, waits⟩ => nomatch waits
  | @tail before after earlier step ih =>
      obtain ⟨command, enabled, rfl⟩ := step
      rintro ⟨progress, polls, waits⟩
      cases command with
      | openRegistry sync =>
          simp only [next] at waits
          split at waits <;> cases waits
      | poll elapsed =>
          obtain ⟨polled, count, phase⟩ := enabled
          cases count with
          | succ earlierPolls => exact ih ⟨polled, earlierPolls, phase⟩
          | zero =>
              obtain ⟨result, left, ran⟩ :=
                decided_ends codec (decided before earlier polled phase) elapsed
              simp only [next, phase, ran, System.polled] at waits
              cases waits
      | acquire => exact ih ⟨progress, polls, waits⟩
      | persist update => exact ih ⟨progress, polls, waits⟩
      | release => exact ih ⟨progress, polls, waits⟩

end Runs

/-- The gateway can make progress between the polls of a local waiter just where there is no
time between polls: in every run the first poll already ends the command. -/
theorem gateway_let_in_iff (waiter : LocalWaiter) (world : World) :
    (∀ system, Reachable codec waiter world system → BetweenPolls system →
        LetsGatewayIn codec waiter system) ↔
      ∀ system, Reachable codec waiter world system → DecidedAtOnce codec system := by
  constructor
  · intro lets system reached progress first
    by_contra undecided
    obtain ⟨after, later, between, blocked⟩ := undecided_blocks codec reached first undecided
    exact blocked (lets after later between)
  · intro decided system reached between
    exact absurd between (decided_never_sleeps codec decided reached)

/-! A wait for a task that is still working. -/

def seedWorking : Action Unit := do
  let _ ← upsertAgent (.new Artifacts.echoAgent "http://127.0.0.1")
  let _ ← upsertTask (.new Artifacts.firstTask Artifacts.echoAgent .working)

def workingWorld : World := (seedWorking TaskIsolation.blankWorld).2

def patientWait : LocalWaiter := .taskWait Artifacts.firstTask 30000

theorem gateway_kept_out :
    ¬ ∀ system, Reachable plainCodec patientWait workingWorld system → BetweenPolls system →
      LetsGatewayIn plainCodec patientWait system := by
  intro lets
  have opened : Step plainCodec patientWait ⟨none, workingWorld, .starting⟩
      ⟨some .waiter, workingWorld, .waiting (.taskWait Artifacts.firstTask 30000 0) 0⟩ :=
    ⟨.openRegistry (pure ()), ⟨rfl, rfl⟩, rfl⟩
  have undecided : ¬ Progress.decided plainCodec workingWorld (.taskWait Artifacts.firstTask 30000 0) := by
    intro decided
    have working := decided ((TaskUpsert.new Artifacts.firstTask Artifacts.echoAgent
      .working).toRecord ⟨0⟩ none) rfl
    rcases working with decisive | expired
    · cases decisive
    · cases expired
  obtain ⟨after, reached, between, blocked⟩ :=
    undecided_blocks plainCodec (Relation.ReflTransGen.refl.tail opened) rfl undecided
  exact blocked (lets after reached between)

end Missive.LocalWaiters
