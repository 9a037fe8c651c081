import Missive.Core

/-! Busy-input policies. `apply_mode` and `apply_steer` call each other, so they
take fuel here; a call returns when enough fuel gives it a result. -/
namespace Missive.Busy

open Missive.Core

inductive BusyInputMode where
  | queue
  | interrupt
  | steer
  deriving DecidableEq

structure BusyInputConfig where
  mode : BusyInputMode
  unsupportedSteerFallback : BusyInputMode
  interruptRemoteCancel : Bool
  maxQueueDepth : UInt16
  deriving DecidableEq

def validatePositiveU16 (field : String) (value : UInt16) : Except MissiveError Unit :=
  if value = 0 then .error (MissiveError.config s!"{field} must be greater than zero") else .ok ()

def BusyInputConfig.validate (policy : BusyInputConfig) (field : String) :
    Except MissiveError Unit := do
  validatePositiveU16 s!"{field}.max_queue_depth" policy.maxQueueDepth
  if policy.unsupportedSteerFallback = .steer then
    .error ((MissiveError.config
      s!"{field}.unsupported_steer_fallback must be queue or interrupt").withHelp
      "Use queue to preserve the follow-up input or interrupt to cancel the active task when steering is unsupported.")
  else .ok ()

inductive BusyInputDisposition where
  | startNow
  | queued
  | interruptQueued
  | steered
  deriving DecidableEq

inductive BusyOperationState where
  | running
  | interrupting
  deriving DecidableEq

structure BusyInputSource where
  sourceKind : String
  sourceId : String
  deriving DecidableEq

structure BusyInput where
  inputId : String
  source : BusyInputSource
  agentAlias : AgentAlias
  contextId : Option ContextId
  taskId : Option TaskId
  metadata : Metadata

structure InFlightOperation where
  operationId : String
  agentAlias : AgentAlias
  contextId : Option ContextId
  taskId : Option TaskId
  state : BusyOperationState
  localWaitActive : Bool
  subscriptionJobId : Option GatewayJobId
  remoteTaskCancellable : Bool
  steerable : Bool
  deriving DecidableEq

structure BusySteeringTarget where
  contextId : Option ContextId
  taskId : Option TaskId
  deriving DecidableEq

def InFlightOperation.steeringTarget (operation : InFlightOperation) : Option BusySteeringTarget :=
  if !operation.steerable then none
  else if operation.contextId.isNone && operation.taskId.isNone then none
  else some ⟨operation.contextId, operation.taskId⟩

structure QueuedBusyInput where
  position : Nat
  input : BusyInput

structure BusyInputState where
  active : Option InFlightOperation
  queuedInputs : List QueuedBusyInput

def BusyInputState.queueDepth (state : BusyInputState) : Nat := state.queuedInputs.length

inductive BusyInputAction where
  | startInput (inputId : String)
  | queueInput (inputId : String) (position : Nat)
  | markActiveInterrupting (operationId : String)
  | cancelLocalWait (operationId : String)
  | cancelSubscription (operationId : String) (gatewayJobId : GatewayJobId)
  | requestRemoteTaskCancellation (operationId : String) (agentAlias : AgentAlias) (taskId : TaskId)
  | appendFollowUp (operationId inputId : String) (contextId : Option ContextId)
      (taskId : Option TaskId)
  | unsupportedSteerFallback (inputId : String) (fallbackMode : BusyInputMode) (reason : String)
  deriving DecidableEq

structure BusyInputOutcome where
  requestedMode : BusyInputMode
  modeUsed : BusyInputMode
  fallbackUsed : Bool
  disposition : BusyInputDisposition
  actions : List BusyInputAction
  state : BusyInputState

def queueFull (policy : BusyInputConfig) (input : BusyInput) : MissiveError :=
  (MissiveError.orchestration
    s!"busy input queue for source {input.source.sourceKind}:{input.source.sourceId} is full at {policy.maxQueueDepth.toNat} item(s)").withHelp
    "Increase gateway.busy_input.max_queue_depth or configure the source for interrupt/steer when safe."

def pushQueue (policy : BusyInputConfig) (state : BusyInputState) (input : BusyInput) :
    Except MissiveError (Nat × BusyInputState) :=
  if policy.maxQueueDepth.toNat ≤ state.queuedInputs.length then .error (queueFull policy input)
  else
    let position := state.queuedInputs.length + 1
    .ok (position, { state with queuedInputs := state.queuedInputs ++ [⟨position, input⟩] })

-- The id read back from the queue; no position that `push_queue` returns is missing there.
def queuedInputId (state : BusyInputState) (position : Nat) : String :=
  (state.queuedInputs[position - 1]?.map fun queued => queued.input.inputId).getD ""

def applyQueue (policy : BusyInputConfig) (state : BusyInputState) (input : BusyInput)
    (requestedMode : BusyInputMode) (fallbackUsed : Bool) (actions : List BusyInputAction) :
    Except MissiveError BusyInputOutcome := do
  let (position, state) ← pushQueue policy state input
  return {
    requestedMode
    modeUsed := .queue
    fallbackUsed
    disposition := .queued
    actions := actions ++ [.queueInput (queuedInputId state position) position]
    state }

-- What `apply_interrupt` pushes before the input is queued.
def interruptActions (policy : BusyInputConfig) (active : InFlightOperation) :
    List BusyInputAction :=
  [.markActiveInterrupting active.operationId]
    ++ (if active.localWaitActive then [.cancelLocalWait active.operationId] else [])
    ++ (match active.subscriptionJobId with
        | some gatewayJobId => [.cancelSubscription active.operationId gatewayJobId]
        | none => [])
    ++ (if policy.interruptRemoteCancel && active.remoteTaskCancellable then
          match active.taskId with
          | some taskId =>
              [.requestRemoteTaskCancellation active.operationId active.agentAlias taskId]
          | none => []
        else [])

-- `apply_mode` has just found the active operation that is read here and in `apply_steer`.
def applyInterrupt (policy : BusyInputConfig) (active : InFlightOperation)
    (state : BusyInputState) (input : BusyInput) (requestedMode : BusyInputMode)
    (fallbackUsed : Bool) (actions : List BusyInputAction) :
    Except MissiveError BusyInputOutcome := do
  let state := { state with active := some { active with state := .interrupting } }
  let (position, state) ← pushQueue policy state input
  return {
    requestedMode
    modeUsed := .interrupt
    fallbackUsed
    disposition := .interruptQueued
    actions := actions ++ interruptActions policy active
      ++ [.queueInput (queuedInputId state position) position]
    state }

def fallbackReason (active : InFlightOperation) : String :=
  if active.steerable then
    "active operation is marked steerable but has no context_id or task_id"
  else "active operation does not accept follow-up input in its current protocol state"

-- The last argument is the call back into `apply_mode`.
def applySteer (policy : BusyInputConfig) (active : InFlightOperation) (state : BusyInputState)
    (input : BusyInput) (requestedMode : BusyInputMode) (actions : List BusyInputAction)
    (reenter : BusyInputMode → List BusyInputAction →
      Option (Except MissiveError BusyInputOutcome)) :
    Option (Except MissiveError BusyInputOutcome) :=
  match active.steeringTarget with
  | some target =>
      some (.ok {
        requestedMode
        modeUsed := .steer
        fallbackUsed := false
        disposition := .steered
        actions := actions ++
          [.appendFollowUp active.operationId input.inputId target.contextId target.taskId]
        state })
  | none =>
      let fallback := policy.unsupportedSteerFallback
      reenter fallback
        (actions ++ [.unsupportedSteerFallback input.inputId fallback (fallbackReason active)])

def applyMode (policy : BusyInputConfig) (state : BusyInputState) (input : BusyInput)
    (requestedMode : BusyInputMode) :
    Nat → BusyInputMode → Bool → List BusyInputAction →
      Option (Except MissiveError BusyInputOutcome)
  | 0, _, _, _ => none
  | fuel + 1, mode, fallbackUsed, actions =>
      match state.active with
      | none =>
          some (.ok {
            requestedMode
            modeUsed := mode
            fallbackUsed
            disposition := .startNow
            actions := actions ++ [.startInput input.inputId]
            state })
      | some active =>
          match mode with
          | .queue => some (applyQueue policy state input requestedMode fallbackUsed actions)
          | .interrupt =>
              some (applyInterrupt policy active state input requestedMode fallbackUsed actions)
          | .steer =>
              applySteer policy active state input requestedMode actions fun fallback pushed =>
                applyMode policy state input requestedMode fuel fallback true pushed

attribute [local simp] applyMode

def applyBusyInput (fuel : Nat) (policy : BusyInputConfig) (state : BusyInputState)
    (input : BusyInput) : Option (Except MissiveError BusyInputOutcome) :=
  applyMode policy state input policy.mode fuel policy.mode false []

def Returns (policy : BusyInputConfig) (state : BusyInputState) (input : BusyInput)
    (result : Except MissiveError BusyInputOutcome) : Prop :=
  ∃ needed, ∀ fuel, needed ≤ fuel → applyBusyInput fuel policy state input = some result

/-! What one call does. -/

variable {policy : BusyInputConfig} {state : BusyInputState} {input : BusyInput}
  {operation : InFlightOperation} {result : Except MissiveError BusyInputOutcome}
  {outcome : BusyInputOutcome}

def effectiveMode (policy : BusyInputConfig) (operation : InFlightOperation) : BusyInputMode :=
  if policy.mode = .steer ∧ operation.steeringTarget = none then policy.unsupportedSteerFallback
  else policy.mode

def fallbackActions (policy : BusyInputConfig) (operation : InFlightOperation)
    (input : BusyInput) : List BusyInputAction :=
  if policy.mode = .steer then
    [.unsupportedSteerFallback input.inputId policy.unsupportedSteerFallback
      (fallbackReason operation)]
  else []

def pushed (state : BusyInputState) (input : BusyInput) : BusyInputState :=
  { state with queuedInputs := state.queuedInputs ++ [⟨state.queueDepth + 1, input⟩] }

def interrupted (state : BusyInputState) (operation : InFlightOperation) : BusyInputState :=
  { state with active := some { operation with state := .interrupting } }

/-- The ways in which an input is handled, with everything the caller sees of each. -/
inductive Handled (policy : BusyInputConfig) (state : BusyInputState) (input : BusyInput) :
    Except MissiveError BusyInputOutcome → Prop where
  | started {outcome : BusyInputOutcome} (idle : state.active = none)
      (disposed : outcome.disposition = .startNow)
      (acts : outcome.actions = [.startInput input.inputId]) (same : outcome.state = state) :
      Handled policy state input (.ok outcome)
  | steered {outcome : BusyInputOutcome} {operation : InFlightOperation}
      (active : state.active = some operation) (steers : effectiveMode policy operation = .steer)
      (targeted : operation.steeringTarget = some ⟨operation.contextId, operation.taskId⟩)
      (disposed : outcome.disposition = .steered)
      (acts : outcome.actions = [.appendFollowUp operation.operationId input.inputId
        operation.contextId operation.taskId])
      (same : outcome.state = state) : Handled policy state input (.ok outcome)
  | queued {outcome : BusyInputOutcome} {operation : InFlightOperation}
      (active : state.active = some operation) (queues : effectiveMode policy operation = .queue)
      (room : state.queueDepth < policy.maxQueueDepth.toNat)
      (disposed : outcome.disposition = .queued)
      (acts : outcome.actions = fallbackActions policy operation input
        ++ [.queueInput input.inputId (state.queueDepth + 1)])
      (appended : outcome.state = pushed state input) : Handled policy state input (.ok outcome)
  | interrupted {outcome : BusyInputOutcome} {operation : InFlightOperation}
      (active : state.active = some operation)
      (interrupts : effectiveMode policy operation = .interrupt)
      (room : state.queueDepth < policy.maxQueueDepth.toNat)
      (disposed : outcome.disposition = .interruptQueued)
      (acts : outcome.actions = fallbackActions policy operation input
        ++ interruptActions policy operation
        ++ [.queueInput input.inputId (state.queueDepth + 1)])
      (appended : outcome.state = pushed (interrupted state operation) input) :
      Handled policy state input (.ok outcome)
  | refused {operation : InFlightOperation} (active : state.active = some operation)
      (queues : effectiveMode policy operation ≠ .steer)
      (full : policy.maxQueueDepth.toNat ≤ state.queueDepth) :
      Handled policy state input (.error (queueFull policy input))

theorem pushQueue_room (room : state.queueDepth < policy.maxQueueDepth.toNat) :
    pushQueue policy state input = .ok (state.queueDepth + 1, pushed state input) := by
  have roomy : ¬ policy.maxQueueDepth.toNat ≤ state.queuedInputs.length := Nat.not_le.mpr room
  simp [pushQueue, roomy, pushed, BusyInputState.queueDepth]

theorem pushQueue_full (full : policy.maxQueueDepth.toNat ≤ state.queueDepth) :
    pushQueue policy state input = .error (queueFull policy input) := by
  have closed : policy.maxQueueDepth.toNat ≤ state.queuedInputs.length := full
  simp [pushQueue, closed]

@[simp] theorem queuedInputId_pushed :
    queuedInputId (pushed state input) (state.queueDepth + 1) = input.inputId := by
  simp [queuedInputId, pushed, BusyInputState.queueDepth]

theorem steeringTarget_some {target : BusySteeringTarget}
    (targeted : operation.steeringTarget = some target) :
    target = ⟨operation.contextId, operation.taskId⟩ := by
  unfold InFlightOperation.steeringTarget at targeted
  split at targeted
  · contradiction
  · split at targeted
    · contradiction
    · exact (Option.some.inj targeted).symm

variable {requestedMode mode : BusyInputMode} {fallbackUsed : Bool} {actions : List BusyInputAction}
  {fuel : Nat}

theorem handled_applyQueue (active : state.active = some operation)
    (queues : effectiveMode policy operation = .queue) :
    Handled policy state input (applyQueue policy state input requestedMode fallbackUsed
      (fallbackActions policy operation input)) := by
  by_cases room : state.queueDepth < policy.maxQueueDepth.toNat
  · simp only [applyQueue, pushQueue_room room]
    refine .queued active queues room rfl ?_ rfl
    simp only [queuedInputId_pushed]
  · have full := Nat.not_lt.mp room
    simp only [applyQueue, pushQueue_full full]
    exact .refused active (by simp [queues]) full

theorem handled_applyInterrupt (active : state.active = some operation)
    (interrupts : effectiveMode policy operation = .interrupt) :
    Handled policy state input (applyInterrupt policy operation state input requestedMode
      fallbackUsed (fallbackActions policy operation input)) := by
  by_cases room : state.queueDepth < policy.maxQueueDepth.toNat
  · have pushes : pushQueue policy (interrupted state operation) input =
        .ok (state.queueDepth + 1, pushed (interrupted state operation) input) :=
      pushQueue_room room
    have reads : queuedInputId (pushed (interrupted state operation) input)
        (state.queueDepth + 1) = input.inputId := queuedInputId_pushed
    simp only [interrupted] at pushes reads
    simp only [applyInterrupt, pushes]
    refine .interrupted active interrupts room rfl ?_ rfl
    simp only [reads]
  · have full := Nat.not_lt.mp room
    have fails : pushQueue policy (interrupted state operation) input =
        .error (queueFull policy input) := pushQueue_full full
    simp only [interrupted] at fails
    simp only [applyInterrupt, fails]
    exact .refused active (by simp [interrupts]) full

-- The dispatcher at a mode that the validator lets a fallback have.
theorem handled_applyMode (active : state.active = some operation)
    (settled : effectiveMode policy operation = mode) (direct : mode ≠ .steer)
    (returned : applyMode policy state input requestedMode fuel mode fallbackUsed
      (fallbackActions policy operation input) = some result) :
    Handled policy state input result := by
  cases fuel with
  | zero => contradiction
  | succ fuel =>
      cases mode with
      | queue =>
          simp only [applyMode, active] at returned
          cases returned
          exact handled_applyQueue active settled
      | interrupt =>
          simp only [applyMode, active] at returned
          cases returned
          exact handled_applyInterrupt active settled
      | steer => contradiction

-- A fallback that is steer again calls itself until the fuel is gone.
theorem applyMode_loops (active : state.active = some operation)
    (untargeted : operation.steeringTarget = none) (loops : policy.unsupportedSteerFallback = .steer) :
    applyMode policy state input requestedMode fuel .steer fallbackUsed actions = none := by
  induction fuel generalizing fallbackUsed actions with
  | zero => rfl
  | succ fuel ih =>
      simp only [applyMode, active, applySteer, untargeted, loops]
      exact ih

theorem applyMode_falls_back (active : state.active = some operation)
    (untargeted : operation.steeringTarget = none) :
    applyMode policy state input requestedMode (fuel + 1) .steer false [] =
      applyMode policy state input requestedMode fuel policy.unsupportedSteerFallback true
        [.unsupportedSteerFallback input.inputId policy.unsupportedSteerFallback
          (fallbackReason operation)] := by
  simp [active, applySteer, untargeted]

theorem handled_of_applied (returned : applyBusyInput fuel policy state input = some result) :
    Handled policy state input result := by
  unfold applyBusyInput at returned
  cases fuel with
  | zero => contradiction
  | succ fuel =>
      cases active : state.active with
      | none =>
          simp only [applyMode, active] at returned
          cases returned
          exact .started active rfl rfl rfl
      | some operation =>
          by_cases steers : policy.mode = .steer
          · cases targeted : operation.steeringTarget with
            | some target =>
                rw [steers] at returned
                simp only [applyMode, active, applySteer, targeted] at returned
                cases returned
                have settled : effectiveMode policy operation = .steer := by
                  simp [effectiveMode, steers, targeted]
                cases steeringTarget_some targeted
                exact .steered active settled targeted rfl rfl rfl
            | none =>
                rw [steers, applyMode_falls_back active targeted] at returned
                by_cases loops : policy.unsupportedSteerFallback = .steer
                · rw [loops, applyMode_loops active targeted loops] at returned
                  contradiction
                · have settled : effectiveMode policy operation = policy.unsupportedSteerFallback := by
                    simp [effectiveMode, steers, targeted]
                  have pushed : [.unsupportedSteerFallback input.inputId
                      policy.unsupportedSteerFallback (fallbackReason operation)] =
                      fallbackActions policy operation input := by
                    simp [fallbackActions, steers]
                  rw [pushed] at returned
                  exact handled_applyMode active settled loops returned
          · have settled : effectiveMode policy operation = policy.mode := by
              simp [effectiveMode, steers]
            have unused : [] = fallbackActions policy operation input := by
              simp [fallbackActions, steers]
            rw [unused] at returned
            exact handled_applyMode active settled steers returned

theorem handled_of_returns (returned : Returns policy state input result) :
    Handled policy state input result := by
  obtain ⟨needed, enough⟩ := returned
  exact handled_of_applied (enough needed le_rfl)

theorem applyMode_settles (policy : BusyInputConfig) (state : BusyInputState) (input : BusyInput)
    (requestedMode : BusyInputMode) (fallbackUsed : Bool) (actions : List BusyInputAction)
    (direct : mode ≠ .steer) :
    ∃ result, ∀ fuel, applyMode policy state input requestedMode (fuel + 1) mode fallbackUsed
      actions = some result := by
  cases active : state.active with
  | none =>
      refine ⟨.ok ⟨requestedMode, mode, fallbackUsed, .startNow,
        actions ++ [.startInput input.inputId], state⟩, fun fuel => ?_⟩
      simp [active]
  | some operation =>
      cases mode with
      | queue =>
          refine ⟨applyQueue policy state input requestedMode fallbackUsed actions, fun fuel => ?_⟩
          simp [active]
      | interrupt =>
          refine ⟨applyInterrupt policy operation state input requestedMode fallbackUsed actions,
            fun fuel => ?_⟩
          simp [active]
      | steer => contradiction

/-- A policy whose fallback is not steer gives every input a result, with two calls of the
dispatcher at most. -/
theorem returns_of_fallback (state : BusyInputState) (input : BusyInput)
    (bounded : policy.unsupportedSteerFallback ≠ .steer) :
    ∃ result, ∀ fuel, applyBusyInput (fuel + 2) policy state input = some result := by
  by_cases steers : policy.mode = .steer
  · cases active : state.active with
    | none =>
        refine ⟨.ok ⟨policy.mode, policy.mode, false, .startNow, [.startInput input.inputId],
          state⟩, fun fuel => ?_⟩
        simp [applyBusyInput, active]
    | some operation =>
        cases targeted : operation.steeringTarget with
        | some target =>
            refine ⟨.ok ⟨.steer, .steer, false, .steered, [.appendFollowUp operation.operationId
              input.inputId target.contextId target.taskId], state⟩, fun fuel => ?_⟩
            simp [applyBusyInput, steers, active, applySteer, targeted]
        | none =>
            obtain ⟨result, settles⟩ := applyMode_settles policy state input .steer true
              [.unsupportedSteerFallback input.inputId policy.unsupportedSteerFallback
                (fallbackReason operation)] bounded
            refine ⟨result, fun fuel => ?_⟩
            simp only [applyBusyInput, steers]
            rw [applyMode_falls_back active targeted]
            exact settles fuel
  · obtain ⟨result, settles⟩ := applyMode_settles policy state input policy.mode false [] steers
    exact ⟨result, fun fuel => settles (fuel + 1)⟩

theorem returns_of_two (bounded : policy.unsupportedSteerFallback ≠ .steer)
    (ran : applyBusyInput 2 policy state input = some result) : Returns policy state input result := by
  obtain ⟨other, settles⟩ := returns_of_fallback state input bounded
  have same : other = result := Option.some.inj ((settles 0).symm.trans ran)
  refine ⟨2, fun fuel enough => ?_⟩
  rw [← same, ← Nat.sub_add_cancel enough]
  exact settles (fuel - 2)

theorem fallback_of_validate {field : String} (validated : policy.validate field = .ok ()) :
    policy.unsupportedSteerFallback ≠ .steer := by
  intro steers
  simp only [BusyInputConfig.validate, steers, if_true] at validated
  unfold validatePositiveU16 at validated
  split at validated <;> contradiction

/-! The disposition of an input under a validated policy. -/

def BusyInputAction.disposes : BusyInputAction → Bool
  | .startInput _ | .queueInput _ _ | .appendFollowUp _ _ _ _ => true
  | _ => false

def BusyInputState.InOrder (state : BusyInputState) : Prop :=
  state.queuedInputs.map QueuedBusyInput.position = List.range' 1 state.queueDepth

-- An operation is active, and the mode that decides would put the input into the queue.
def mustQueue (policy : BusyInputConfig) (state : BusyInputState) : Bool :=
  state.active.any fun operation => effectiveMode policy operation ≠ .steer

inductive Disposal (state : BusyInputState) (input : BusyInput) (outcome : BusyInputOutcome) :
    BusyInputAction → Prop where
  | started (idle : state.active = none) (disposed : outcome.disposition = .startNow)
      (same : outcome.state.queuedInputs = state.queuedInputs) :
      Disposal state input outcome (.startInput input.inputId)
  | steered {operation : InFlightOperation} (active : state.active = some operation)
      (disposed : outcome.disposition = .steered)
      (same : outcome.state.queuedInputs = state.queuedInputs) :
      Disposal state input outcome (.appendFollowUp operation.operationId input.inputId
        operation.contextId operation.taskId)
  | queued (disposed : outcome.disposition = .queued ∨ outcome.disposition = .interruptQueued)
      (appended : outcome.state.queuedInputs =
        state.queuedInputs ++ [⟨state.queueDepth + 1, input⟩]) :
      Disposal state input outcome (.queueInput input.inputId (state.queueDepth + 1))

structure Disposed (policy : BusyInputConfig) (state : BusyInputState) (input : BusyInput)
    (outcome : BusyInputOutcome) : Prop where
  once : ∃ action, outcome.actions.filter BusyInputAction.disposes = [action] ∧
    Disposal state input outcome action
  kept : state.queuedInputs <+: outcome.state.queuedInputs
  grows : outcome.state.queueDepth ≤ state.queueDepth + 1
  positions : outcome.state.InOrder
  bounded : outcome.state.queueDepth ≤ policy.maxQueueDepth.toNat
  identity : outcome.state.active = state.active ∨ ∃ operation,
    state.active = some operation ∧
      outcome.state.active = some { operation with state := .interrupting }

@[simp] theorem disposes_fallbackActions :
    (fallbackActions policy operation input).filter BusyInputAction.disposes = [] := by
  unfold fallbackActions
  split <;> rfl

theorem mem_interruptActions {action : BusyInputAction}
    (member : action ∈ interruptActions policy operation) :
    action = .markActiveInterrupting operation.operationId ∨
      action = .cancelLocalWait operation.operationId ∨
      (∃ job, action = .cancelSubscription operation.operationId job) ∨
      ∃ task, action =
        .requestRemoteTaskCancellation operation.operationId operation.agentAlias task := by
  simp only [interruptActions, List.mem_append, List.mem_singleton] at member
  rcases member with ((marks | waits) | job) | remote
  · exact .inl marks
  · split at waits
    · exact .inr (.inl (List.mem_singleton.mp waits))
    · contradiction
  · split at job
    · exact .inr (.inr (.inl ⟨_, List.mem_singleton.mp job⟩))
    · contradiction
  · split at remote
    · split at remote
      · exact .inr (.inr (.inr ⟨_, List.mem_singleton.mp remote⟩))
      · contradiction
    · contradiction

@[simp] theorem disposes_interruptActions :
    (interruptActions policy operation).filter BusyInputAction.disposes = [] := by
  refine List.filter_eq_nil_iff.mpr fun action member => ?_
  rcases mem_interruptActions member with rfl | rfl | ⟨_, rfl⟩ | ⟨_, rfl⟩ <;> exact Bool.false_ne_true

theorem inOrder_pushed (ordered : state.InOrder) : (pushed state input).InOrder := by
  unfold BusyInputState.InOrder at *
  simp only [pushed, List.map_append, ordered, BusyInputState.queueDepth, List.length_append,
    List.map_cons, List.map_nil, List.length_cons, List.length_nil, List.range'_concat]
  simp [Nat.add_comm]

theorem disposed_of_pushed (before : BusyInputState) (ordered : state.InOrder)
    (room : state.queueDepth < policy.maxQueueDepth.toNat)
    (same : before.queuedInputs = state.queuedInputs)
    (disposed : outcome.disposition = .queued ∨ outcome.disposition = .interruptQueued)
    (once : outcome.actions.filter BusyInputAction.disposes =
      [.queueInput input.inputId (state.queueDepth + 1)])
    (appended : outcome.state = pushed before input)
    (identity : before.active = state.active ∨ ∃ operation, state.active = some operation ∧
      before.active = some { operation with state := .interrupting }) :
    Disposed policy state input outcome := by
  have queue : outcome.state.queuedInputs =
      state.queuedInputs ++ [⟨state.queueDepth + 1, input⟩] := by
    simp [appended, pushed, same, BusyInputState.queueDepth]
  have depth : outcome.state.queueDepth = state.queueDepth + 1 := by
    simp [BusyInputState.queueDepth, queue]
  constructor
  case once => exact ⟨_, once, .queued disposed queue⟩
  case kept => exact queue ▸ List.prefix_append _ _
  case grows => exact depth.le
  case positions =>
    have moved : before.InOrder := by
      unfold BusyInputState.InOrder BusyInputState.queueDepth at *
      rw [same]
      exact ordered
    exact appended ▸ inOrder_pushed moved
  case bounded => omega
  case identity =>
    rw [appended]
    exact identity

theorem disposed_of_handled (ordered : state.InOrder)
    (bounded : state.queueDepth ≤ policy.maxQueueDepth.toNat)
    (handled : Handled policy state input (.ok outcome)) : Disposed policy state input outcome := by
  cases handled with
  | started idle disposed acts same =>
      have queue := congrArg BusyInputState.queuedInputs same
      exact {
        once := ⟨_, by rw [acts]; rfl, .started idle disposed queue⟩
        kept := queue ▸ List.prefix_rfl
        grows := same ▸ Nat.le_succ _
        positions := same ▸ ordered
        bounded := same ▸ bounded
        identity := .inl (congrArg BusyInputState.active same) }
  | steered active steers targeted disposed acts same =>
      have queue := congrArg BusyInputState.queuedInputs same
      exact {
        once := ⟨_, by rw [acts]; rfl, .steered active disposed queue⟩
        kept := queue ▸ List.prefix_rfl
        grows := same ▸ Nat.le_succ _
        positions := same ▸ ordered
        bounded := same ▸ bounded
        identity := .inl (congrArg BusyInputState.active same) }
  | queued active queues room disposed acts appended =>
      have once : outcome.actions.filter BusyInputAction.disposes =
          [.queueInput input.inputId (state.queueDepth + 1)] := by
        simp [acts, BusyInputAction.disposes]
      exact disposed_of_pushed state ordered room rfl (.inl disposed) once appended (.inl rfl)
  | @interrupted _ operation active interrupts room disposed acts appended =>
      have once : outcome.actions.filter BusyInputAction.disposes =
          [.queueInput input.inputId (state.queueDepth + 1)] := by
        simp [acts, BusyInputAction.disposes]
      exact disposed_of_pushed (interrupted state operation) ordered room rfl (.inr disposed) once
        appended (.inr ⟨operation, active, rfl⟩)

-- An input is refused exactly when it has to wait and the queue has no room.
theorem refused_iff (handled : Handled policy state input result) :
    (∃ error, result = .error error) ↔
      mustQueue policy state = true ∧ policy.maxQueueDepth.toNat ≤ state.queueDepth := by
  cases handled with
  | started idle disposed acts same => simp [mustQueue, idle]
  | steered active steers targeted disposed acts same => simp [mustQueue, active, steers]
  | queued active queues room disposed acts appended =>
      simp only [reduceCtorEq, exists_false, false_iff, not_and, Nat.not_le]
      exact fun _ => room
  | interrupted active interrupts room disposed acts appended =>
      simp only [reduceCtorEq, exists_false, false_iff, not_and, Nat.not_le]
      exact fun _ => room
  | refused active queues full =>
      constructor
      · exact fun _ => ⟨by simp [mustQueue, active, queues], full⟩
      · exact fun _ => ⟨_, rfl⟩

/-- Under a validated policy, an input that meets an ordered queue within its bound always gets a
result. It is refused exactly when it has to be queued and the queue is full; otherwise it is
started, steered or queued, once, and the queue and the active operation are kept. -/
theorem busy_input_disposed (policy : BusyInputConfig) (field : String) (state : BusyInputState)
    (input : BusyInput) (validated : policy.validate field = .ok ()) (ordered : state.InOrder)
    (bounded : state.queueDepth ≤ policy.maxQueueDepth.toNat) :
    ∃ result, Returns policy state input result ∧
      ((∃ error, result = .error error) ↔
        mustQueue policy state = true ∧ policy.maxQueueDepth.toNat ≤ state.queueDepth) ∧
      ∀ outcome, result = .ok outcome → Disposed policy state input outcome := by
  have settled := fallback_of_validate validated
  obtain ⟨result, settles⟩ := returns_of_fallback state input settled
  have returned : Returns policy state input result := returns_of_two settled (settles 0)
  have handled := handled_of_returns returned
  refine ⟨result, returned, refused_iff handled, ?_⟩
  rintro outcome rfl
  exact disposed_of_handled ordered bounded handled

theorem agent_valid : IdKind.agentAlias.reason "echo" = none := by decide

def chatInput (inputId : String) : BusyInput :=
  ⟨inputId, ⟨"adapter", "stdio/user-1"⟩, ⟨"echo", agent_valid⟩, none, none, Metadata.new⟩

def chatOperation : InFlightOperation :=
  ⟨"op-1", ⟨"echo", agent_valid⟩, none, none, .running, true, none, false, false⟩

def chatState : BusyInputState := ⟨some chatOperation, [⟨1, chatInput "input-1"⟩]⟩

theorem second_input_disposed :
    ∃ result, Returns ⟨.steer, .interrupt, true, 2⟩ chatState (chatInput "input-2") result ∧
      ((∃ error, result = .error error) ↔
        mustQueue ⟨.steer, .interrupt, true, 2⟩ chatState = true ∧ 2 ≤ chatState.queueDepth) ∧
      ∀ outcome, result = .ok outcome →
        Disposed ⟨.steer, .interrupt, true, 2⟩ chatState (chatInput "input-2") outcome :=
  busy_input_disposed ⟨.steer, .interrupt, true, 2⟩ "gateway.busy_input" chatState
    (chatInput "input-2") rfl rfl (by decide)

end Missive.Busy
