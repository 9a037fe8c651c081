import Mathlib.Data.List.Chain
import Missive.Busy

/-! Runs of busy inputs, each applied to the state that the one before returned. A refused
input leaves its caller with the state it had. -/
namespace Missive.BusyRuns

open Missive.Core Busy

section Connected
variable {State Step : Type} (before after : Step → State)

def Connected : State → List Step → Prop
  | _, [] => True
  | state, step :: rest => before step = state ∧ Connected (after step) rest

variable {before after}

-- A step starts in the run's first state or where an earlier step has led.
theorem connected_reaches {start : State} {earlier later : List Step} {step : Step}
    (connected : Connected before after start (earlier ++ step :: later)) :
    before step ∈ start :: earlier.map after := by
  induction earlier generalizing start with
  | nil => exact List.mem_singleton.mpr connected.1
  | cons first rest ih => exact List.mem_cons_of_mem _ (ih connected.2)

-- What every step preserves holds before each step of a run.
theorem connected_keeps (Kept : State → Prop) {steps : List Step} {start : State}
    (connected : Connected before after start steps) (first : Kept start)
    (keeps : ∀ step ∈ steps, Kept (before step) → Kept (after step)) :
    ∀ step ∈ steps, Kept (before step) := by
  induction steps generalizing start with
  | nil => exact fun _ member => absurd member List.not_mem_nil
  | cons step rest ih =>
      have here : Kept (before step) := connected.1 ▸ first
      intro wanted member
      rcases List.mem_cons.mp member with rfl | later
      · exact here
      · exact ih connected.2 (keeps step List.mem_cons_self here)
          (fun other inside => keeps other (List.mem_cons_of_mem _ inside)) wanted later

-- What holds once and is preserved from then on still holds where a later step starts.
theorem connected_stays (Kept : State → Prop) {start : State} {earlier later : List Step}
    {step : Step} (connected : Connected before after start (earlier ++ step :: later))
    (keeps : ∀ other ∈ earlier, Kept (before other) → Kept (after other))
    (once : ∃ state ∈ start :: earlier.map after, Kept state) : Kept (before step) := by
  induction earlier generalizing start with
  | nil =>
      obtain ⟨state, reached, kept⟩ := once
      cases List.mem_singleton.mp reached
      exact connected.1 ▸ kept
  | cons first rest ih =>
      have later := fun other inside => keeps other (List.mem_cons_of_mem _ inside)
      obtain ⟨state, reached, kept⟩ := once
      rcases List.mem_cons.mp reached with rfl | reached
      · have moved := keeps first List.mem_cons_self (connected.1.symm ▸ kept)
        exact ih connected.2 later ⟨_, List.mem_cons_self, moved⟩
      · exact ih connected.2 later ⟨state, reached, kept⟩

end Connected

structure Applied where
  policy : BusyInputConfig
  before : BusyInputState
  input : BusyInput
  result : Except MissiveError BusyInputOutcome
  returned : Returns policy before input result

namespace Applied

def after (step : Applied) : BusyInputState :=
  match step.result with
  | .ok outcome => outcome.state
  | .error _ => step.before

def actions (step : Applied) : List BusyInputAction :=
  match step.result with
  | .ok outcome => outcome.actions
  | .error _ => []

def apply (policy : BusyInputConfig) (bounded : policy.unsupportedSteerFallback ≠ .steer)
    (state : BusyInputState) (input : BusyInput) : Applied :=
  match ran : applyBusyInput 2 policy state input with
  | some result => ⟨policy, state, input, result, returns_of_two bounded ran⟩
  | none => absurd ran (by
      obtain ⟨result, settles⟩ := returns_of_fallback state input bounded
      simp [settles 0])

theorem handled (step : Applied) : Handled step.policy step.before step.input step.result :=
  handled_of_returns step.returned

end Applied

/-! One source, with a caller that removes the active operation when it ends. -/

inductive BusyStep where
  | applied (step : Applied)
  | ended (state : BusyInputState) (operation : InFlightOperation)
      (active : state.active = some operation)

namespace BusyStep

def before : BusyStep → BusyInputState
  | .applied step => step.before
  | .ended state _ _ => state

def after : BusyStep → BusyInputState
  | .applied step => step.after
  | .ended state _ _ => { state with active := none }

def started : BusyInputAction → Bool
  | .startInput _ => true
  | _ => false

def starts : BusyStep → Bool
  | .applied step => step.actions.any started
  | .ended _ _ _ => false

-- An input that finds no active operation.
def idle : BusyStep → Bool
  | .applied step => step.before.active.isNone
  | .ended _ _ _ => false

-- An input that meets a queued input of its own source.
def overtakes : BusyStep → Bool
  | .applied step =>
      step.before.queuedInputs.any fun queued => queued.input.source = step.input.source
  | .ended _ _ _ => false

end BusyStep

structure BusyRun where
  start : BusyInputState
  steps : List BusyStep
  connected : Connected BusyStep.before BusyStep.after start steps

/-- No input starts past a queued one of its source, and no two inputs in a row start. -/
structure Serial (run : BusyRun) : Prop where
  inOrder : ∀ step ∈ run.steps, step.starts = true → step.overtakes = false
  oneAtATime : run.steps.IsChain fun first second => ¬ (first.starts = true ∧ second.starts = true)

@[simp] theorem started_fallbackActions (policy : BusyInputConfig) (operation : InFlightOperation)
    (input : BusyInput) : (fallbackActions policy operation input).any BusyStep.started = false := by
  unfold fallbackActions
  split <;> rfl

@[simp] theorem started_interruptActions (policy : BusyInputConfig)
    (operation : InFlightOperation) :
    (interruptActions policy operation).any BusyStep.started = false := by
  refine List.any_eq_false.mpr fun action member => ?_
  rcases mem_interruptActions member with rfl | rfl | ⟨_, rfl⟩ | ⟨_, rfl⟩ <;> exact Bool.false_ne_true

-- The start branch looks at nothing but the absence of an active operation.
theorem starts_eq_idle (step : BusyStep) : step.starts = step.idle := by
  cases step with
  | ended state operation active => rfl
  | applied step =>
      obtain ⟨policy, before, input, result, returned⟩ := step
      cases handled_of_returns returned with
      | started idle disposed acts same =>
          simp [BusyStep.starts, BusyStep.idle, Applied.actions, acts, idle, BusyStep.started]
      | steered active steers targeted disposed acts same =>
          simp [BusyStep.starts, BusyStep.idle, Applied.actions, acts, active, BusyStep.started]
      | queued active queues room disposed acts appended =>
          simp [BusyStep.starts, BusyStep.idle, Applied.actions, acts, active, BusyStep.started]
      | interrupted active interrupts room disposed acts appended =>
          simp [BusyStep.starts, BusyStep.idle, Applied.actions, acts, active, BusyStep.started]
      | refused active queues full =>
          simp [BusyStep.starts, BusyStep.idle, Applied.actions, active]

theorem active_after_idle {step : BusyStep} (absent : step.before.active = none) :
    step.after.active = none ∧ step.idle = true := by
  cases step with
  | ended state operation active => cases active.symm.trans absent
  | applied step =>
      obtain ⟨policy, before, input, result, returned⟩ := step
      have none : before.active = .none := absent
      cases handled_of_returns returned with
      | started idle disposed acts same =>
          exact ⟨by simp [BusyStep.after, Applied.after, same, none], by simp [BusyStep.idle, none]⟩
      | steered active steers targeted disposed acts same => cases active.symm.trans none
      | queued active queues room disposed acts appended => cases active.symm.trans none
      | interrupted active interrupts room disposed acts appended => cases active.symm.trans none
      | refused active queues full => cases active.symm.trans none

-- Once there is no active operation, every further step of the run is an input that starts.
theorem all_idle {steps : List BusyStep} {start : BusyInputState}
    (connected : Connected BusyStep.before BusyStep.after start steps) (absent : start.active = none) :
    ∀ step ∈ steps, step.idle = true := by
  intro step member
  have still := connected_keeps (fun state => state.active = none) connected absent
    (fun other _ before => (active_after_idle before).1) step member
  exact (active_after_idle still).2

theorem idle_of_active {step : BusyStep} {operation : InFlightOperation}
    (active : step.before.active = some operation) : step.idle = false := by
  cases step with
  | ended state operation active => rfl
  | applied step =>
      have shown : step.before.active = some operation := active
      simp [BusyStep.idle, shown]

theorem chain_iff_single {steps : List BusyStep} {start : BusyInputState}
    (connected : Connected BusyStep.before BusyStep.after start steps) :
    (steps.IsChain fun first second => ¬ (first.starts = true ∧ second.starts = true)) ↔
      (steps.filter BusyStep.idle).length ≤ 1 := by
  induction steps generalizing start with
  | nil => simp
  | cons first rest ih =>
      cases active : start.active with
      | none =>
          have idle := all_idle connected active
          rw [List.filter_eq_self.mpr idle]
          cases rest with
          | nil => simp
          | cons second rest =>
              have starts : first.starts = true ∧ second.starts = true := by
                simp only [starts_eq_idle]
                exact ⟨idle first (by simp), idle second (by simp)⟩
              simp [starts]
      | some operation =>
          have busy : first.idle = false := idle_of_active (connected.1 ▸ active)
          have waits : first.starts = false := (starts_eq_idle first).trans busy
          rw [List.filter_cons_of_neg (by simp [busy]), ← ih connected.2, List.isChain_cons]
          simp [waits]

/-- A run serves its inputs in order and one at a time exactly when at most one input finds no
active operation, and no input of the same source is queued when it does. -/
theorem serial_iff (run : BusyRun) :
    Serial run ↔ (run.steps.filter BusyStep.idle).length ≤ 1 ∧
      ∀ step ∈ run.steps, step.idle = true → step.overtakes = false := by
  have single := chain_iff_single run.connected
  constructor
  · rintro ⟨inOrder, oneAtATime⟩
    refine ⟨single.mp oneAtATime, fun step member idle => ?_⟩
    exact inOrder step member ((starts_eq_idle step).trans idle)
  · rintro ⟨few, free⟩
    refine ⟨fun step member starts => ?_, single.mpr few⟩
    exact free step member ((starts_eq_idle step).symm.trans starts)

theorem context_valid : IdKind.contextId.reason "ctx-1" = none := by decide

-- Inputs applied with the default policy: queue, with room for 32.
def chatted (state : BusyInputState) (inputId : String) : Applied :=
  .apply ⟨.queue, .queue, true, 32⟩ (by decide) state (chatInput inputId)

-- An input is queued, its operation ends, and two more inputs arrive.
def servedRun : BusyRun where
  start := chatState
  steps :=
    let queued := chatted chatState "input-2"
    let settled : BusyInputState := { queued.after with active := none }
    [.applied queued, .ended queued.after chatOperation rfl, .applied (chatted settled "input-3"),
      .applied (chatted settled "input-4")]
  connected := ⟨rfl, rfl, rfl, rfl, trivial⟩

theorem queued_input_overtaken :
    ¬ (∀ step ∈ servedRun.steps, step.starts = true → step.overtakes = false) ∧
      ¬ servedRun.steps.IsChain fun first second => ¬ (first.starts = true ∧ second.starts = true) := by
  decide

/-! One operation, for as long as it stays active. -/

-- The operation of a run, in either of its states.
def ActiveAs (operation : InFlightOperation) (state : BusyInputState) : Prop :=
  ∃ phase, state.active = some { operation with state := phase }

def Interrupting (state : BusyInputState) : Prop :=
  ∃ operation, state.active = some operation ∧ operation.state = .interrupting

structure ActiveRun where
  start : BusyInputState
  operation : InFlightOperation
  active : start.active = some operation
  steps : List Applied
  connected : Connected Applied.before Applied.after start steps

inductive CancelKind where
  | localWait
  | subscription
  | remoteTask

def cancels (operationId : String) : CancelKind → BusyInputAction → Bool
  | .localWait, .cancelLocalWait owner => owner == operationId
  | .subscription, .cancelSubscription owner _ => owner == operationId
  | .remoteTask, .requestRemoteTaskCancellation owner _ _ => owner == operationId
  | _, _ => false

def appendsTo (operationId : String) : BusyInputAction → Bool
  | .appendFollowUp owner _ _ _ => owner == operationId
  | _ => false

/-- Nothing is appended to the operation once it is interrupting, and each of its cancellations
is asked for at most once. -/
structure CancelledOnce (run : ActiveRun) : Prop where
  unsteered : ∀ earlier step later, run.steps = earlier ++ step :: later →
    (∃ state ∈ run.start :: earlier.map Applied.after, Interrupting state) →
    ∀ action ∈ step.actions, appendsTo run.operation.operationId action = false
  once : ∀ kind, (run.steps.flatMap Applied.actions).countP
    (cancels run.operation.operationId kind) ≤ 1

-- What an interruption under the policy has to cancel of the operation.
def cancellable (policy : BusyInputConfig) (operation : InFlightOperation) : CancelKind → Bool
  | .localWait => operation.localWaitActive
  | .subscription => operation.subscriptionJobId.isSome
  | .remoteTask =>
      policy.interruptRemoteCancel && operation.remoteTaskCancellable && operation.taskId.isSome

-- An input that interrupts the operation, with room in the queue and with that kind to cancel.
def interruptsWith (operation : InFlightOperation) (kind : CancelKind) (step : Applied) : Bool :=
  effectiveMode step.policy operation = .interrupt
    && step.before.queueDepth < step.policy.maxQueueDepth.toNat
    && cancellable step.policy operation kind

@[simp] theorem effectiveMode_phase (policy : BusyInputConfig) (operation : InFlightOperation)
    (phase : BusyOperationState) :
    effectiveMode policy { operation with state := phase } = effectiveMode policy operation := rfl

theorem InFlightOperation.steeringTarget_phase (operation : InFlightOperation)
    (phase : BusyOperationState) :
    InFlightOperation.steeringTarget { operation with state := phase } =
      operation.steeringTarget := rfl

@[simp] theorem interruptActions_phase (policy : BusyInputConfig) (operation : InFlightOperation)
    (phase : BusyOperationState) :
    interruptActions policy { operation with state := phase } =
      interruptActions policy operation := rfl

@[simp] theorem countP_fallbackActions (policy : BusyInputConfig) (operation : InFlightOperation)
    (input : BusyInput) (owner : String) (kind : CancelKind) :
    (fallbackActions policy operation input).countP (cancels owner kind) = 0 := by
  unfold fallbackActions
  split
  · cases kind <;> rfl
  · rfl

theorem countP_interruptActions (policy : BusyInputConfig) (operation : InFlightOperation)
    (kind : CancelKind) :
    (interruptActions policy operation).countP (cancels operation.operationId kind) =
      if cancellable policy operation kind then 1 else 0 := by
  obtain ⟨owner, agent, context, task, phase, waits, job, remote, steerable⟩ := operation
  cases kind with
  | localWait =>
      cases waits <;> cases job <;> cases task <;>
        simp [interruptActions, cancels, cancellable, apply_ite]
  | subscription =>
      cases waits <;> cases job <;> cases task <;>
        simp [interruptActions, cancels, cancellable, apply_ite]
  | remoteTask =>
      cases waits <;> cases job <;> cases task <;>
        simp [interruptActions, cancels, cancellable, apply_ite]

@[simp] theorem appendsTo_fallbackActions (policy : BusyInputConfig) (operation : InFlightOperation)
    (input : BusyInput) (owner : String) :
    ∀ action ∈ fallbackActions policy operation input, appendsTo owner action = false := by
  unfold fallbackActions
  split <;> simp [appendsTo]

theorem appendsTo_interruptActions (policy : BusyInputConfig) (operation : InFlightOperation)
    (owner : String) :
    ∀ action ∈ interruptActions policy operation, appendsTo owner action = false := by
  intro action member
  rcases mem_interruptActions member with rfl | rfl | ⟨_, rfl⟩ | ⟨_, rfl⟩ <;> rfl

section Step
variable {operation : InFlightOperation} {step : Applied}

-- One input leaves the active operation as it is, or marks it.
theorem active_after (step : Applied) :
    step.after.active = step.before.active ∨ ∃ operation,
      step.before.active = some operation ∧
        step.after.active = some { operation with state := .interrupting } := by
  obtain ⟨policy, before, input, result, returned⟩ := step
  cases handled_of_returns returned with
  | started idle disposed acts same => exact .inl (congrArg BusyInputState.active same)
  | steered active steers targeted disposed acts same =>
      exact .inl (congrArg BusyInputState.active same)
  | @queued outcome _ active queues room disposed acts appended =>
      have same : outcome.state.active = before.active := by rw [appended, pushed]
      exact .inl same
  | @interrupted _ operation active interrupts room disposed acts appended =>
      exact .inr ⟨operation, active, congrArg BusyInputState.active appended⟩
  | refused active queues full => exact .inl rfl

theorem activeAs_after (active : ActiveAs operation step.before) : ActiveAs operation step.after := by
  obtain ⟨phase, shown⟩ := active
  rcases active_after step with same | ⟨other, before, after⟩
  · exact ⟨phase, same.trans shown⟩
  · cases before.symm.trans shown
    exact ⟨.interrupting, after⟩

theorem interrupting_after (once : Interrupting step.before) : Interrupting step.after := by
  obtain ⟨operation, shown, marked⟩ := once
  rcases active_after step with same | ⟨other, before, after⟩
  · exact ⟨operation, same.trans shown, marked⟩
  · exact ⟨_, after, rfl⟩

theorem effectiveMode_steer {policy : BusyInputConfig} {target : BusySteeringTarget}
    (targeted : operation.steeringTarget = some target) :
    effectiveMode policy operation = policy.mode := by
  simp [effectiveMode, targeted]

theorem untargeted_of_mode {policy : BusyInputConfig}
    (unsteered : effectiveMode policy operation ≠ .steer) :
    ¬ (policy.mode = .steer ∧ operation.steeringTarget.isSome = true) := by
  rintro ⟨steers, targeted⟩
  obtain ⟨target, found⟩ := Option.isSome_iff_exists.mp targeted
  exact unsteered ((effectiveMode_steer found).trans steers)

-- A follow-up is appended exactly when the policy steers and the operation is a target.
theorem unappended_iff (active : ActiveAs operation step.before) :
    (∀ action ∈ step.actions, appendsTo operation.operationId action = false) ↔
      ¬ (step.policy.mode = .steer ∧ operation.steeringTarget.isSome = true) := by
  obtain ⟨policy, before, input, result, returned⟩ := step
  obtain ⟨phase, shown⟩ := active
  cases handled_of_returns returned with
  | started idle disposed acts same => cases idle.symm.trans shown
  | steered active steers targeted disposed acts same =>
      cases active.symm.trans shown
      have mode := (effectiveMode_steer targeted).symm.trans steers
      have target : operation.steeringTarget.isSome = true := by
        rw [← InFlightOperation.steeringTarget_phase operation phase, targeted]
        rfl
      simp [Applied.actions, acts, appendsTo, mode, target]
  | @queued outcome _ active queues room disposed acts appended =>
      cases active.symm.trans shown
      have mode : effectiveMode policy operation = .queue := queues
      refine iff_of_true ?_ (untargeted_of_mode (by simp [mode]))
      intro action member
      simp only [Applied.actions, acts, List.mem_append, List.mem_singleton] at member
      rcases member with fallback | rfl
      · exact appendsTo_fallbackActions _ _ _ _ action fallback
      · rfl
  | @interrupted outcome _ active interrupts room disposed acts appended =>
      cases active.symm.trans shown
      have mode : effectiveMode policy operation = .interrupt := interrupts
      refine iff_of_true ?_ (untargeted_of_mode (by simp [mode]))
      intro action member
      simp only [Applied.actions, acts, List.mem_append, List.mem_singleton] at member
      rcases member with (fallback | interrupt) | rfl
      · exact appendsTo_fallbackActions _ _ _ _ action fallback
      · exact appendsTo_interruptActions _ _ _ action interrupt
      · rfl
  | refused active queues full =>
      cases active.symm.trans shown
      exact iff_of_true (fun _ member => absurd member List.not_mem_nil) (untargeted_of_mode queues)

theorem countP_cancels (active : ActiveAs operation step.before) (kind : CancelKind) :
    step.actions.countP (cancels operation.operationId kind) =
      if interruptsWith operation kind step then 1 else 0 := by
  obtain ⟨policy, before, input, result, returned⟩ := step
  obtain ⟨phase, shown⟩ := active
  cases handled_of_returns returned with
  | started idle disposed acts same => cases idle.symm.trans shown
  | steered active steers targeted disposed acts same =>
      cases active.symm.trans shown
      have mode : effectiveMode policy operation = .steer := steers
      cases kind <;> simp [Applied.actions, acts, cancels, interruptsWith, mode]
  | queued active queues room disposed acts appended =>
      cases active.symm.trans shown
      have mode : effectiveMode policy operation = .queue := queues
      cases kind <;> simp [Applied.actions, acts, cancels, interruptsWith, mode]
  | interrupted active interrupts room disposed acts appended =>
      cases active.symm.trans shown
      have mode : effectiveMode policy operation = .interrupt := interrupts
      have counts := countP_interruptActions policy operation kind
      cases kind <;> simp [Applied.actions, acts, cancels, interruptsWith, mode, counts, room]
  | refused active queues full =>
      cases active.symm.trans shown
      have closed := Nat.not_lt.mpr full
      simp [Applied.actions, interruptsWith, closed]

end Step

theorem ActiveRun.activeAs (run : ActiveRun) :
    ∀ step ∈ run.steps, ActiveAs run.operation step.before :=
  connected_keeps (ActiveAs run.operation) run.connected ⟨run.operation.state, run.active⟩
    fun _ _ active => activeAs_after active

-- The cancellations of one kind are as many as the inputs that interrupt with it.
theorem countP_run {operation : InFlightOperation} {steps : List Applied} (kind : CancelKind)
    (active : ∀ step ∈ steps, ActiveAs operation step.before) :
    (steps.flatMap Applied.actions).countP (cancels operation.operationId kind) =
      steps.countP (interruptsWith operation kind) := by
  induction steps with
  | nil => rfl
  | cons step rest ih =>
      have here := countP_cancels (active step List.mem_cons_self) kind
      have later := ih fun other inside => active other (List.mem_cons_of_mem _ inside)
      rw [List.flatMap_cons, List.countP_append, here, later, List.countP_cons, Nat.add_comm]

/-- An operation is cancelled once, and left alone from then on, exactly when no input that
steers finds it interrupting while it is a steering target, and for each kind of cancellation
at most one input interrupts it with room in the queue and with that kind to cancel. -/
theorem cancelledOnce_iff (run : ActiveRun) :
    CancelledOnce run ↔
      (∀ step ∈ run.steps, Interrupting step.before →
        ¬ (step.policy.mode = .steer ∧ run.operation.steeringTarget.isSome = true)) ∧
      ∀ kind, run.steps.countP (interruptsWith run.operation kind) ≤ 1 := by
  have active := run.activeAs
  constructor
  · rintro ⟨unsteered, once⟩
    refine ⟨fun step member marked => ?_, fun kind => countP_run kind active ▸ once kind⟩
    obtain ⟨earlier, later, split⟩ := List.append_of_mem member
    refine (unappended_iff (active step member)).mp (unsteered earlier step later split ?_)
    exact ⟨step.before, connected_reaches (split ▸ run.connected), marked⟩
  · rintro ⟨unsteered, once⟩
    refine ⟨fun earlier step later split reached => ?_, fun kind => (countP_run kind active).symm ▸ once kind⟩
    have member : step ∈ run.steps := by simp [split]
    have marked : Interrupting step.before := connected_stays Interrupting
      (split ▸ run.connected) (fun _ _ before => interrupting_after before) reached
    exact (unappended_iff (active step member)).mpr (unsteered step member marked)

-- A steerable operation that a foreground wait follows.
def steerableOperation : InFlightOperation :=
  { chatOperation with contextId := some ⟨"ctx-1", context_valid⟩, steerable := true }

def interruptedFirst : Applied :=
  .apply ⟨.interrupt, .queue, true, 32⟩ (by decide) ⟨some steerableOperation, []⟩
    (chatInput "input-1")

def interruptedAgain : Applied :=
  .apply ⟨.interrupt, .queue, true, 32⟩ (by decide) interruptedFirst.after (chatInput "input-2")

def steeredThen : Applied :=
  .apply ⟨.steer, .queue, true, 32⟩ (by decide) interruptedAgain.after (chatInput "input-3")

-- Two inputs interrupt the operation, and a third one steers it.
def interruptedRun : ActiveRun where
  start := ⟨some steerableOperation, []⟩
  operation := steerableOperation
  active := rfl
  steps := [interruptedFirst, interruptedAgain, steeredThen]
  connected := ⟨rfl, rfl, rfl, trivial⟩

theorem interrupted_operation_steered :
    (∃ action ∈ steeredThen.actions, appendsTo "op-1" action = true) ∧
      Interrupting steeredThen.before ∧
      (interruptedRun.steps.flatMap Applied.actions).countP (cancels "op-1" .localWait) = 2 ∧
      ¬ CancelledOnce interruptedRun := by
  have twice : (interruptedRun.steps.flatMap Applied.actions).countP
      (cancels "op-1" .localWait) = 2 := by decide
  have appended : ∃ action ∈ steeredThen.actions, appendsTo "op-1" action = true :=
    ⟨.appendFollowUp "op-1" "input-3" steerableOperation.contextId none, by decide, by decide⟩
  refine ⟨appended, ⟨_, rfl, rfl⟩, twice, fun cancelled => ?_⟩
  have few : 2 ≤ 1 := twice ▸ cancelled.once .localWait
  contradiction

end Missive.BusyRuns
