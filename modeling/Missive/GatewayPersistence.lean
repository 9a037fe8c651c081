import Missive.JobWorkers
import Missive.Protocol

/-! Tasks as the gateway persists them: the outcomes of background jobs, and the
events of its own task subscriptions. Each of them runs in one transaction. -/
namespace Missive.GatewayPersistence

open JsonValue KeyedTable Missive.Core Schema Effects Repository Artifacts BackgroundJobs Protocol
open JobWorkers (NegotiatedInterface)

variable (codec : Codec)

def taskToUpsert (task : TaskRecord) : TaskUpsert where
  taskId := task.taskId
  agentAlias := task.agentAlias
  contextId := task.contextId
  state := task.state
  source := task.source
  protocolVersion := task.protocolVersion
  remoteTaskJson := task.remoteTaskJson
  lastMessageId := task.lastMessageId
  metadata := task.metadata
  completedAt := task.completedAt.map SecondTime.parse

-- The row under the task id, or a new one in state `unknown`.
def taskBase (existing : Option TaskRecord) (taskId : TaskId) (agent : AgentRecord) : TaskUpsert :=
  existing.elim (TaskUpsert.new taskId agent.aliasName .unknown) taskToUpsert

def eventTypeName : StreamResponse → String
  | .task _ => "task"
  | .message _ => "message"
  | .statusUpdate _ => "status_update"
  | .artifactUpdate _ => "artifact_update"

/-! Background jobs. -/

namespace Jobs

def protocolUpsert (agent : AgentRecord) (task : RemoteTask) (taskId : TaskId)
    (contextId : ContextId) (parameters : ServiceParameters) : Except MissiveError TaskUpsert := do
  let value ← encode (codec.taskToValue task) "encoding A2A task for background job persistence"
  let messageId ← statusMessageId task.status
  TaskUpsert.recordProtocolVersion
    { TaskUpsert.new taskId agent.aliasName (mapProtocolTaskState task.status.state) with
      source := .remote
      contextId := some contextId
      remoteTaskJson := some value
      lastMessageId := messageId } parameters.protocolVersion

def upsertTaskFromProtocol (agent : AgentRecord) (task : RemoteTask)
    (parameters : ServiceParameters) : Action TaskRecord := do
  let taskId ← Effect.lift (Id.new .taskId task.id)
  let contextId ← Effect.lift (Id.new .contextId task.contextId)
  ensureContext agent contextId
  let upsert ← Effect.lift (protocolUpsert codec agent task taskId contextId parameters)
  let completedAt ← completedAtFor upsert.state none
  upsertTask { upsert with completedAt := completedAt }

def statusUpsert (agent : AgentRecord) (update : TaskStatusUpdateEvent)
    (existing : Option TaskRecord) (taskId : TaskId) (contextId : ContextId)
    (parameters : ServiceParameters) : Except MissiveError TaskUpsert := do
  let messageId ← statusMessageId update.status
  TaskUpsert.recordProtocolVersion
    { taskBase existing taskId agent with
      agentAlias := agent.aliasName
      contextId := some contextId
      state := mapProtocolTaskState update.status.state
      lastMessageId := messageId } parameters.protocolVersion

def upsertTaskFromStatusUpdate (agent : AgentRecord) (update : TaskStatusUpdateEvent)
    (parameters : ServiceParameters) : Action TaskRecord := do
  let taskId ← Effect.lift (Id.new .taskId update.taskId)
  let contextId ← Effect.lift (Id.new .contextId update.contextId)
  ensureContext agent contextId
  let existing ← getTask taskId
  let upsert ← Effect.lift (statusUpsert agent update existing taskId contextId parameters)
  let completedAt ← completedAtFor upsert.state upsert.completedAt
  upsertTask { upsert with completedAt := completedAt }

structure JobLinks where
  contextId : Option ContextId
  taskId : Option TaskId

def linksFromSendResponse (request : Message) : SendMessageResponse → Except MissiveError JobLinks
  | .message message => do
      let contextId ← parseOptional .contextId (message.contextId.or request.contextId)
      let taskId ← parseOptional .taskId (message.taskId.or request.taskId)
      .ok ⟨contextId, taskId⟩
  | .task task => do
      let contextId ← Id.new .contextId task.contextId
      let taskId ← Id.new .taskId task.id
      .ok ⟨some contextId, some taskId⟩

-- What the events of a job have in common.
def appendJobEvent (config : JobManagerConfig) (job : GatewayJobRecord) (agent : AgentRecord)
    (links : JobLinks) (start eventType : String) (payload : Json)
    (extra : Metadata → Except MissiveError Metadata) : Action Unit := do
  let eventId ← newJobEventId start
  let service ← Effect.lift config.serviceParameters.toMetadata
  let metadata ← Effect.lift (extra service)
  let _ ← appendVersioned
    { EventInsert.new eventId "gateway:jobs" eventType (JsonRedaction.jobsRedactJson payload) with
      agentAlias := some agent.aliasName
      contextId := links.contextId
      taskId := links.taskId
      gatewayJobId := some job.gatewayJobId
      metadata := metadata } config.serviceParameters.protocolVersion
  pure ()

def sendResponsePayload (config : JobManagerConfig) (job : GatewayJobRecord) (agent : AgentRecord)
    (outcome : SendMessageOutcome) : Json :=
  .object [("agent", .string agent.aliasName.text), ("http_status", .nat outcome.status),
    ("job_id", .string job.gatewayJobId.text), ("profile", .string config.profile),
    ("response", outcome.rawJson), ("url", .string outcome.url)]

def recordSentTask (agent : AgentRecord) (response : SendMessageResponse)
    (parameters : ServiceParameters) : Action Unit :=
  match response with
  | .task task => do
      let _ ← upsertTaskFromProtocol codec agent task parameters
      pure ()
  | .message _ => pure ()

def persistSendOutcome (config : JobManagerConfig) (job : GatewayJobRecord) (agent : AgentRecord)
    (request : Message) (outcome : SendMessageOutcome) : Action JobLinks := transaction do
  let links ← Effect.lift (linksFromSendResponse request outcome.response)
  ensureOptionalContext agent links.contextId
  recordSentTask codec agent outcome.response config.serviceParameters
  appendJobEvent config job agent links "send-response" "a2a.job.send.response"
    (sendResponsePayload config job agent outcome) .ok
  pure links

def recordStreamedTask (agent : AgentRecord) (event : StreamResponse)
    (parameters : ServiceParameters) : Action Unit :=
  match event with
  | .task task => do
      let _ ← upsertTaskFromProtocol codec agent task parameters
      pure ()
  | .statusUpdate update => do
      let _ ← upsertTaskFromStatusUpdate agent update parameters
      pure ()
  | .message _ | .artifactUpdate _ => pure ()

def persistStreamJobEvent (config : JobManagerConfig) (job : GatewayJobRecord) (agent : AgentRecord)
    (event : StreamMessageEvent) : Action EventIds := do
  let details ← Effect.lift (eventIds event.event)
  transaction do
    ensureOptionalContext agent details.contextId
    recordStreamedTask codec agent event.event config.serviceParameters
    appendJobEvent config job agent ⟨details.contextId, details.taskId⟩ (eventTypeName event.event)
      s!"a2a.job.stream.{eventTypeName event.event}" event.rawJson
      fun metadata => metadata.insert "gateway.job.stream_sequence" (.nat event.sequence.toNat)
    pure details

def waitRefreshPayload (config : JobManagerConfig) (job : GatewayJobRecord) (agent : AgentRecord)
    (record : TaskRecord) (outcome : GetTaskOutcome) : Json :=
  .object [("agent", .string agent.aliasName.text), ("http_status", .nat outcome.status),
    ("job_id", .string job.gatewayJobId.text), ("profile", .string config.profile),
    ("state", .string record.state.asStr), ("task", outcome.rawJson),
    ("task_id", .string record.taskId.text), ("url", .string outcome.url)]

-- `refresh_task_for_wait`, from the answer of `GetTask` on.
def refreshTaskForWait (config : JobManagerConfig) (job : GatewayJobRecord) (agent : AgentRecord)
    (outcome : GetTaskOutcome) : Action TaskRecord := transaction do
  let record ← upsertTaskFromProtocol codec agent outcome.task config.serviceParameters
  appendJobEvent config job agent ⟨record.contextId, some record.taskId⟩ "wait-refresh"
    "a2a.job.wait.task_updated" (waitRefreshPayload config job agent record outcome) .ok
  pure record

end Jobs

/-! Subscriptions. -/

namespace Subscription

structure SubscriptionManagerConfig where
  profile : String
  serviceParameters : ServiceParameters

structure SubscriptionCandidate where
  agent : AgentRecord
  task : TaskRecord
  job : GatewayJobRecord
  interface : NegotiatedInterface

def reportedState : StreamResponse → Option TaskState
  | .task task => some (mapProtocolTaskState task.status.state)
  | .statusUpdate update => some (mapProtocolTaskState update.status.state)
  | .message _ | .artifactUpdate _ => none

def newSubscriptionEventId (start : String) : Action EventId := do
  let messageId ← newMessageId
  let dashed := String.ofList (start.toList.map fun c => if c = '_' then '-' else c)
  Effect.lift (Id.new .eventId s!"evt/subscription/{dashed}/{messageId}")

def subscriptionEventMetadata (config : SubscriptionManagerConfig) (event : StreamMessageEvent) :
    Except MissiveError Metadata := do
  let service ← config.serviceParameters.toMetadata
  let profiled ← insertStr service "gateway.subscription.profile" config.profile
  let typed ← insertStr profiled "gateway.subscription.event_type" (eventTypeName event.event)
  let numbered ← typed.insert "gateway.subscription.sequence" (.nat event.sequence.toNat)
  insertSome numbered "gateway.subscription.sse_event" (event.sseEventType.map .string)

-- The time of a terminal report, or what the row had.
def reportedCompletion (state : Option TaskState) (otherwise : Option MissiveTimestamp) :
    Action (Option MissiveTimestamp) :=
  match state with
  | some state => completedAtFor state otherwise
  | none => pure otherwise

def reportedJson (event : StreamResponse) (otherwise : Option Json) :
    Except MissiveError (Option Json) :=
  match event with
  | .task task => do
      let value ← encode (codec.taskToValue task) "encoding subscribed task update for persistence"
      .ok (some value)
  | _ => .ok otherwise

def recordSubscribedTask (config : SubscriptionManagerConfig) (agent : AgentRecord)
    (event : StreamResponse) (details : EventIds) : Action Unit :=
  match details.taskId with
  | none => pure ()
  | some taskId => do
      let existing ← getTask taskId
      let base := taskBase existing taskId agent
      let completedAt ← reportedCompletion (reportedState event) base.completedAt
      let value ← Effect.lift (reportedJson codec event base.remoteTaskJson)
      let upsert ← Effect.lift (TaskUpsert.recordProtocolVersion
        { base with
          agentAlias := agent.aliasName
          contextId := details.contextId
          state := (reportedState event).getD base.state
          completedAt := completedAt
          remoteTaskJson := value } config.serviceParameters.protocolVersion)
      let _ ← upsertTask upsert
      pure ()

def appendSubscriptionEvent (config : SubscriptionManagerConfig) (candidate : SubscriptionCandidate)
    (event : StreamMessageEvent) (details : EventIds) : Action Unit := do
  let eventId ← newSubscriptionEventId (eventTypeName event.event)
  let metadata ← Effect.lift (subscriptionEventMetadata config event)
  let _ ← appendVersioned
    { EventInsert.new eventId "gateway:subscriptions"
        s!"a2a.subscription.{eventTypeName event.event}"
        (JsonRedaction.subscriptionRedactJson event.rawJson) with
      agentAlias := some candidate.agent.aliasName
      contextId := details.contextId
      taskId := details.taskId
      gatewayJobId := some candidate.job.gatewayJobId
      metadata := metadata } config.serviceParameters.protocolVersion
  pure ()

-- Whether the event ended the task.
def persistSubscriptionStreamEvent (config : SubscriptionManagerConfig)
    (candidate : SubscriptionCandidate) (event : StreamMessageEvent) : Action Bool := transaction do
  let details ← Effect.lift (eventIds event.event)
  ensureOptionalContext candidate.agent details.contextId
  recordSubscribedTask codec config candidate.agent event.event details
  appendSubscriptionEvent config candidate event details
  pure (details.taskId.isSome && (reportedState event.event).any isTerminalTaskState)

end Subscription
end Missive.GatewayPersistence
