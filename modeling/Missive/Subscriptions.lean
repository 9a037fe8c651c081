import Missive.GatewayPersistence

/-! The subscription manager of the gateway. A scan deletes the jobs of tasks that are not
monitored any more, opens a job for every monitored task whose agent can stream, and
claims the jobs that are due. An attempt that ends deletes its job or schedules it again. -/
namespace Missive.Subscriptions

open JsonValue KeyedTable Missive.Core Schema Effects Repository BackgroundJobs Protocol
open GatewayPersistence.Subscription
open JobWorkers (NegotiatedInterface)

def taskSubscriptionJobKind : String := "task_subscription"
def subscriptionSource : String := "gateway:subscriptions"

-- Durations are in milliseconds.
def subscriptionLockTtl : Nat := 30000
def subscriptionMinBackoff : Nat := 1000
def subscriptionMaxBackoff : Nat := 30000
def subscriptionMaxAttempts : UInt32 := 4294967295

structure SubscriptionSnapshot where
  due : Nat
  activeJobs : Nat
  retryingJobs : Nat
  cleanedUp : Nat
  skippedUnsupported : Nat

structure ScanResult where
  candidates : List SubscriptionCandidate
  snapshot : SubscriptionSnapshot

inductive SubscriptionAttemptResult where
  | ok
  | err (message : String)

structure SubscriptionAttempt where
  jobId : GatewayJobId
  taskId : TaskId
  events : UInt64
  terminalSeen : Bool
  result : SubscriptionAttemptResult

inductive AttemptOutcome where
  | cleanedUp
  | retrying (backoffMs : Nat)

/-! Job ids. -/

def safeIdentifierFragment (value : String) (maxChars : Nat) : String :=
  let fragment := (value.toList.filter fun c =>
    RustText.isAsciiAlphanumeric c || c == '-' || c == '_' || c == '.').take maxChars
  if fragment.isEmpty then "task" else String.ofList fragment

def hashByte (hash : UInt64) (byte : UInt8) : UInt64 := (hash ^^^ byte.toUInt64) * 0x100000001b3

def hashPart (hash : UInt64) (part : String) : UInt64 :=
  hashByte (part.toUTF8.data.toList.foldl hashByte hash) 0xff

-- `{:016x}`
def hexPadded (value : UInt64) : String :=
  let digits := Nat.toDigits 16 value.toNat
  String.ofList (List.replicate (16 - digits.length) '0' ++ digits)

def stableHexHash (parts : List String) : String :=
  hexPadded (parts.foldl hashPart 0xcbf29ce484222325)

def subscriptionJobId (agent : AgentAlias) (taskId : TaskId) : Except MissiveError GatewayJobId :=
  let taskFragment := safeIdentifierFragment taskId.text 32
  Id.new .gatewayJobId
    s!"task-subscription/{agent.text}/{taskFragment}-{stableHexHash [agent.text, taskId.text]}"

/-! Agent Cards. Their type and its decoder belong to the protocol's own crate, and the choice of
an interface reads nothing of the store; the manager looks at one capability. -/

structure InterfaceNegotiationOptions where
  preferredBindings : List String
  bindingOverride : Option String
  fallbackInterfaceUrls : List (String × String)
  fallbackBaseUrl : Option String

structure AgentCards where
  Card : Type
  fromJson : Json → Except MissiveError Card
  streaming : Card → Option Bool
  negotiateAgentInterface : Card → InterfaceNegotiationOptions → Except MissiveError NegotiatedInterface

def negotiationOptions (agent : AgentRecord) : InterfaceNegotiationOptions where
  preferredBindings := agent.bindingPreference.map fun binding => binding.text
  bindingOverride := none
  fallbackInterfaceUrls := agent.interfaceUrls.map fun (binding, url) => (binding.text, url)
  fallbackBaseUrl := some agent.baseUrl

def streamingInterfaceForAgent (cards : AgentCards) (agent : AgentRecord) :
    Except MissiveError (Option NegotiatedInterface) :=
  match agent.agentCardJson with
  | none => .ok none
  | some cardJson => do
      let card ← cards.fromJson cardJson
      if (cards.streaming card).getD false then do
        let interface ← cards.negotiateAgentInterface card (negotiationOptions agent)
        .ok (some interface)
      else .ok none

/-! What a job and its events say. -/

def subscriptionInterfaceJson (interface : NegotiatedInterface) : Json :=
  .object [("binding", .string interface.binding),
    ("protocol_version", .string interface.protocolVersion), ("url", .string interface.url)]

def subscriptionRequestJson (agent : AgentRecord) (task : TaskRecord) (interface : NegotiatedInterface)
    (config : SubscriptionManagerConfig) : Json :=
  .object [("agent", .string agent.aliasName.text), ("context_id", linkJson task.contextId),
    ("interface", subscriptionInterfaceJson interface), ("profile", .string config.profile),
    ("protocol_version", .string config.serviceParameters.protocolVersion),
    ("task_id", .string task.taskId.text)]

def subscriptionJobMetadata (agent : AgentRecord) (task : TaskRecord) (interface : NegotiatedInterface)
    (config : SubscriptionManagerConfig) : Except MissiveError Metadata := do
  let service ← config.serviceParameters.toMetadata
  let profiled ← insertStr service "gateway.subscription.profile" config.profile
  let owned ← insertStr profiled "gateway.subscription.agent" agent.aliasName.text
  let tasked ← insertStr owned "gateway.subscription.task_id" task.taskId.text
  let bound ← insertStr tasked "gateway.subscription.binding" interface.binding
  let placed ← insertStr bound "gateway.subscription.interface_url" interface.url
  let versioned ← insertStr placed "gateway.subscription.interface_protocol_version"
    interface.protocolVersion
  versioned.insert "gateway.subscription.max_backoff_ms" (.nat subscriptionMaxBackoff)

def lifecycleMetadata (job : GatewayJobRecord) (config : SubscriptionManagerConfig) :
    Except MissiveError Metadata := do
  let service ← config.serviceParameters.toMetadata
  let profiled ← insertStr service "gateway.subscription.profile" config.profile
  let numbered ← insertStr profiled "gateway.subscription.job_id" job.gatewayJobId.text
  recordProtocolVersion numbered config.serviceParameters.protocolVersion

def appendSubscriptionLifecycleEvent (eventType : String) (job : GatewayJobRecord)
    (agent : Option AgentAlias) (taskId : Option TaskId) (payload : Json)
    (config : SubscriptionManagerConfig) : Action Unit := do
  let eventId ← newSubscriptionEventId (afterLastDot eventType)
  let metadata ← Effect.lift (lifecycleMetadata job config)
  let _ ← appendEvent
    { EventInsert.new eventId subscriptionSource eventType
        (JsonRedaction.subscriptionRedactJson payload) with
      agentAlias := agent
      contextId := job.contextId
      taskId := taskId
      gatewayJobId := some job.gatewayJobId
      metadata := metadata }
  pure ()

/-! Cleaning up. -/

def isMonitorableTaskState : TaskState → Bool
  | .submitted | .working | .unknown => true
  | _ => false

def stalePayload (job : GatewayJobRecord) (config : SubscriptionManagerConfig) : Json :=
  .object [("job_id", .string job.gatewayJobId.text), ("profile", .string config.profile),
    ("reason", .string "stale_or_terminal_task"), ("task_id", linkJson job.taskId)]

-- No task, or a task that is not monitored.
def shouldDelete (job : GatewayJobRecord) (tasks : Table TaskRecord) : Bool :=
  job.taskId.all fun taskId =>
    (tasks.find? taskId).all fun task => !isMonitorableTaskState task.state

def cleanupJob (config : SubscriptionManagerConfig) (snapshot : SubscriptionSnapshot)
    (job : GatewayJobRecord) : Action SubscriptionSnapshot :=
  if job.kind ≠ taskSubscriptionJobKind then pure snapshot else do
    let stale ← readStore fun store => shouldDelete job store.tasks
    if stale then do
      appendSubscriptionLifecycleEvent "missive.gateway.subscription.cleaned" job job.agentAlias
        job.taskId (stalePayload job config) config
      let _ ← deleteGatewayJob job.gatewayJobId
      pure { snapshot with cleanedUp := snapshot.cleanedUp + 1 }
    else pure snapshot

def cleanupStaleOrTerminalJobs (config : SubscriptionManagerConfig) (snapshot : SubscriptionSnapshot) :
    Action SubscriptionSnapshot := do
  let jobs ← listGatewayJobs
  Effect.fold (cleanupJob config) snapshot jobs

/-! Scan and claim. -/

def newSubscriptionJob (jobId : GatewayJobId) (agent : AgentRecord) (task : TaskRecord)
    (interface : NegotiatedInterface) (config : SubscriptionManagerConfig) :
    Except MissiveError GatewayJobUpsert := do
  let metadata ← subscriptionJobMetadata agent task interface config
  .ok { GatewayJobUpsert.new jobId taskSubscriptionJobKind
      (subscriptionRequestJson agent task interface config) with
    agentAlias := some agent.aliasName
    contextId := task.contextId
    taskId := some task.taskId
    state := .queued
    maxAttempts := subscriptionMaxAttempts
    metadata := metadata }

def runningJobUpsert (job : GatewayJobRecord) (agent : AgentRecord) (task : TaskRecord)
    (interface : NegotiatedInterface) (config : SubscriptionManagerConfig)
    (lockedUntil : MissiveTimestamp) : Except MissiveError GatewayJobUpsert := do
  let metadata ← subscriptionJobMetadata agent task interface config
  .ok { jobToUpsert job with
    state := .running
    agentAlias := some agent.aliasName
    contextId := task.contextId
    taskId := some task.taskId
    requestJson := subscriptionRequestJson agent task interface config
    resultJson := none
    nextRunAt := none
    lockedBy := some s!"gateway:{config.profile}"
    lockedUntil := some lockedUntil
    completedAt := none
    metadata := metadata }

def jobIsDue (job : GatewayJobRecord) (now : MissiveTimestamp) : Bool :=
  job.nextRunAt.all fun nextRunAt => nextRunAt.notAfter now

def startedPayload (job : GatewayJobRecord) (agent : AgentRecord) (task : TaskRecord)
    (interface : NegotiatedInterface) (config : SubscriptionManagerConfig) : Json :=
  .object [("agent", .string agent.aliasName.text),
    ("interface", subscriptionInterfaceJson interface), ("job_id", .string job.gatewayJobId.text),
    ("profile", .string config.profile), ("task_id", .string task.taskId.text)]

def subscriptionJob (jobId : GatewayJobId) (agent : AgentRecord) (task : TaskRecord)
    (interface : NegotiatedInterface) (config : SubscriptionManagerConfig) :
    Action GatewayJobRecord := do
  let existing ← getGatewayJob jobId
  match existing with
  | some job => pure job
  | none => do
      let upsert ← Effect.lift (newSubscriptionJob jobId agent task interface config)
      upsertGatewayJob upsert

def claimSubscription (job : GatewayJobRecord) (agent : AgentRecord) (task : TaskRecord)
    (interface : NegotiatedInterface) (config : SubscriptionManagerConfig) :
    Action SubscriptionCandidate := do
  let lockedUntil ← timestampAfter subscriptionLockTtl
  let running ← Effect.lift (runningJobUpsert job agent task interface config lockedUntil)
  let claimed ← upsertGatewayJob running
  appendSubscriptionLifecycleEvent "missive.gateway.subscription.started" claimed
    (some agent.aliasName) (some task.taskId) (startedPayload claimed agent task interface config)
    config
  pure ⟨agent, task, claimed, interface⟩

def SubscriptionSnapshot.counted (snapshot : SubscriptionSnapshot) (job : GatewayJobRecord) :
    SubscriptionSnapshot :=
  if job.state = .retrying then { snapshot with retryingJobs := snapshot.retryingJobs + 1 }
  else { snapshot with activeJobs := snapshot.activeJobs + 1 }

def ScanResult.pushed (scan : ScanResult) (candidate : SubscriptionCandidate) : ScanResult :=
  ⟨scan.candidates ++ [candidate], { scan.snapshot with due := scan.snapshot.due + 1 }⟩

def scanJob (job : GatewayJobRecord) (agent : AgentRecord) (task : TaskRecord)
    (interface : NegotiatedInterface) (config : SubscriptionManagerConfig) (now : MissiveTimestamp)
    (scan : ScanResult) : Action ScanResult :=
  let counted : ScanResult := { scan with snapshot := scan.snapshot.counted job }
  if jobIsDue job now then do
    let candidate ← claimSubscription job agent task interface config
    pure (counted.pushed candidate)
  else pure counted

def scanAgent (cards : AgentCards) (config : SubscriptionManagerConfig) (now : MissiveTimestamp)
    (scan : ScanResult) (task : TaskRecord) (agent : AgentRecord) : Action ScanResult := do
  let interface ← Effect.lift (streamingInterfaceForAgent cards agent)
  match interface with
  | none =>
      pure { scan with snapshot := { scan.snapshot with
        skippedUnsupported := scan.snapshot.skippedUnsupported + 1 } }
  | some interface => do
      let jobId ← Effect.lift (subscriptionJobId agent.aliasName task.taskId)
      let job ← subscriptionJob jobId agent task interface config
      scanJob job agent task interface config now scan

def scanTask (cards : AgentCards) (config : SubscriptionManagerConfig) (now : MissiveTimestamp)
    (scan : ScanResult) (task : TaskRecord) : Action ScanResult :=
  if !isMonitorableTaskState task.state then pure scan else do
    let agent ← getAgent task.agentAlias
    match agent with
    | none => pure scan
    | some agent => scanAgent cards config now scan task agent

def scanSubscriptionJobs (cards : AgentCards) (config : SubscriptionManagerConfig) :
    Action ScanResult := do
  let now ← nowUtc
  let snapshot ← cleanupStaleOrTerminalJobs config ⟨0, 0, 0, 0, 0⟩
  let tasks ← listTasks
  Effect.fold (scanTask cards config now) ⟨[], snapshot⟩ tasks

/-! The end of an attempt. -/

def boundedBackoff (attempt : UInt32) : Nat :=
  min (subscriptionMinBackoff * 2 ^ min (attempt.toNat - 1) 5) subscriptionMaxBackoff

def SubscriptionAttemptResult.retryReason : SubscriptionAttemptResult → String
  | .ok => "stream_closed_non_terminal"
  | .err message => message

def retryResult (attempt : SubscriptionAttempt) (backoff : Nat) (nextRunAt : MissiveTimestamp) : Json :=
  .object [("backoff_ms", .nat backoff), ("events", .nat attempt.events.toNat),
    ("next_run_at", .string nextRunAt.toRfc3339.render),
    ("reason", .string attempt.result.retryReason), ("terminal_seen", .bool attempt.terminalSeen)]

def retryJobUpsert (job : GatewayJobRecord) (attempt : SubscriptionAttempt) (backoff : Nat)
    (nextRunAt : MissiveTimestamp) : Except MissiveError GatewayJobUpsert := do
  let delayed ← job.metadata.insert "gateway.subscription.backoff_ms" (.nat backoff)
  let metadata ← insertStr delayed "gateway.subscription.retry_reason" attempt.result.retryReason
  .ok { jobToUpsert job with
    state := .retrying
    retryCount := min (nextRetryCount job.retryCount) job.maxAttempts
    nextRunAt := some nextRunAt
    lockedBy := none
    lockedUntil := none
    completedAt := none
    resultJson := some (retryResult attempt backoff nextRunAt)
    metadata := metadata }

def retryingPayload (job : GatewayJobRecord) (attempt : SubscriptionAttempt) (backoff : Nat)
    (nextRunAt : MissiveTimestamp) (config : SubscriptionManagerConfig) : Json :=
  .object [("backoff_ms", .nat backoff),
    ("bounded", .object [("max_backoff_ms", .nat subscriptionMaxBackoff),
      ("min_backoff_ms", .nat subscriptionMinBackoff)]),
    ("job_id", .string job.gatewayJobId.text), ("max_attempts", .nat job.maxAttempts.toNat),
    ("next_run_at", .string nextRunAt.toRfc3339.render), ("profile", .string config.profile),
    ("reason", .string attempt.result.retryReason), ("retry_count", .nat job.retryCount.toNat),
    ("task_id", .string attempt.taskId.text)]

def terminalPayload (job : GatewayJobRecord) (attempt : SubscriptionAttempt)
    (config : SubscriptionManagerConfig) : Json :=
  .object [("events", .nat attempt.events.toNat), ("job_id", .string job.gatewayJobId.text),
    ("profile", .string config.profile), ("reason", .string "terminal_task"),
    ("task_id", .string attempt.taskId.text)]

def cleanUpJob (config : SubscriptionManagerConfig) (job : GatewayJobRecord) (task : Option TaskRecord)
    (attempt : SubscriptionAttempt) : Action AttemptOutcome := do
  appendSubscriptionLifecycleEvent "missive.gateway.subscription.cleaned" job
    (task.map TaskRecord.agentAlias) (some attempt.taskId) (terminalPayload job attempt config) config
  let _ ← deleteGatewayJob job.gatewayJobId
  pure .cleanedUp

def retryJob (config : SubscriptionManagerConfig) (job : GatewayJobRecord) (task : Option TaskRecord)
    (attempt : SubscriptionAttempt) : Action AttemptOutcome := do
  let backoff := boundedBackoff (nextRetryCount job.retryCount)
  let nextRunAt ← timestampAfter backoff
  let retry ← Effect.lift (retryJobUpsert job attempt backoff nextRunAt)
  let updated ← upsertGatewayJob retry
  appendSubscriptionLifecycleEvent "missive.gateway.subscription.retrying" updated
    (task.map TaskRecord.agentAlias) (some attempt.taskId)
    (retryingPayload updated attempt backoff nextRunAt config) config
  pure (.retrying backoff)

def finishSubscriptionAttempt (config : SubscriptionManagerConfig) (attempt : SubscriptionAttempt) :
    Action AttemptOutcome := do
  let found ← getGatewayJob attempt.jobId
  match found with
  | none => pure .cleanedUp
  | some job => do
      let task ← getTask attempt.taskId
      if attempt.terminalSeen || task.all fun task => isTerminalTaskState task.state then
        cleanUpJob config job task attempt
      else retryJob config job task attempt

end Missive.Subscriptions
