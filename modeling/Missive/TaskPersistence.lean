import Missive.Protocol

/-! Tasks as the command line persists them: `send`, `stream`, and the refresh of
`task` and `barrier`. Each of them runs in one transaction. -/
namespace Missive.TaskPersistence

open JsonValue KeyedTable Missive.Core Schema Effects Repository Artifacts BackgroundJobs Protocol

variable (codec : Codec)

-- `new_local_message_id`
def newLocalMessageId : Action MessageId := do
  let text ← newMessageId
  Effect.lift (Id.new .messageId text)

/-! The outgoing request, which `send` and `stream` record alike. -/

def insertRequestMessage (detail : String) (agent : AgentRecord) (prepared : PreparedMessage)
    (contextId : Option ContextId) (taskId : Option TaskId) : Action MessageRecord := do
  let value ← Effect.lift (encode (codec.messageToValue prepared.message) detail)
  insertMessage { MessageInsert.new prepared.requestMessageId .request value with
    agentAlias := some agent.aliasName
    contextId := contextId
    taskId := taskId
    role := some .user
    protocolMessageId := some prepared.message.messageId
    metadata := prepared.localMetadata }

-- The message is encoded a second time; `insertRequestMessage` fails where that would.
def requestPayload (prepared : PreparedMessage) (contextId : Option ContextId)
    (taskId : Option TaskId) : Json :=
  .object [("accepted_output_modes", .array (prepared.acceptedOutputModes.map .string)),
    ("context_id", linkJson contextId), ("local_input_bytes", .nat prepared.localInputBytes),
    ("message", .ofOption id (codec.messageToValue prepared.message)),
    ("message_id", .string prepared.requestMessageId.text),
    ("metadata", prepared.localMetadata.toJson),
    ("part_count", .nat prepared.message.parts.length), ("parts", .array prepared.partSummaries),
    ("request_bytes", .nat prepared.requestBytes), ("task_id", linkJson taskId)]

def appendRequestEvent (eventType : String) (agent : AgentRecord) (prepared : PreparedMessage)
    (contextId : Option ContextId) (taskId : Option TaskId) (parameters : ServiceParameters) :
    Action Unit := do
  let event ← newCliEvent eventType (requestPayload codec prepared contextId taskId)
  let _ ← appendVersioned { event with
    agentAlias := some agent.aliasName
    contextId := contextId
    taskId := taskId
    metadata := prepared.localMetadata } parameters.protocolVersion
  pure ()

/-! `stream`. A task is merged into the stored row. -/

namespace Stream

def mergedTaskUpsert (agent : AgentRecord) (taskId : TaskId) (contextId : Option ContextId)
    (state : TaskState) (lastMessageId : Option MessageId) (parameters : ServiceParameters) :
    Action TaskUpsert := do
  let existing ← getTask taskId
  let completedAt ← completedAtFor state
    (existing.bind fun task => task.completedAt.map SecondTime.parse)
  Effect.lift (TaskUpsert.recordProtocolVersion { TaskUpsert.new taskId agent.aliasName state with
    source := .remote
    contextId := contextId.or (existing.bind TaskRecord.contextId)
    remoteTaskJson := existing.bind TaskRecord.remoteTaskJson
    lastMessageId := lastMessageId.or (existing.bind TaskRecord.lastMessageId)
    completedAt := completedAt } parameters.protocolVersion)

def ensureTaskFromParts (agent : AgentRecord) (taskId : TaskId) (contextId : Option ContextId)
    (state : TaskState) (lastMessageId : Option MessageId) (parameters : ServiceParameters) :
    Action Unit := do
  let upsert ← mergedTaskUpsert agent taskId contextId state lastMessageId parameters
  let _ ← upsertTask upsert
  pure ()

def upsertRemoteTask (agent : AgentRecord) (task : RemoteTask) (streamMessageId : Option MessageId)
    (parameters : ServiceParameters) : Action Unit := do
  let taskId ← Effect.lift (Id.new .taskId task.id)
  let contextId ← Effect.lift (Id.new .contextId task.contextId)
  ensureContext agent contextId
  let merged ← mergedTaskUpsert agent taskId (some contextId) (storeTaskState task.status.state)
    streamMessageId parameters
  let value ← Effect.lift (encode (codec.taskToValue task)
    "encoding A2A stream task event for persistence")
  let _ ← upsertTask { merged with remoteTaskJson := some value }
  let _ ← persistTaskArtifacts codec.toArtifactCodec task.toTask
  pure ()

def ensureRequestedTask (agent : AgentRecord) (prepared : PreparedMessage)
    (parameters : ServiceParameters) : Action Unit :=
  match prepared.requestedTaskId with
  | some taskId =>
      ensureTaskFromParts agent taskId prepared.requestedContextId .submitted none parameters
  | none => pure ()

def persistStreamRequest (agent : AgentRecord) (prepared : PreparedMessage)
    (parameters : ServiceParameters) : Action MessageRecord := transaction do
  ensureOptionalContext agent prepared.requestedContextId
  ensureRequestedTask agent prepared parameters
  let stored ← insertRequestMessage codec "encoding outbound A2A stream message for persistence"
    agent prepared prepared.requestedContextId prepared.requestedTaskId
  appendRequestEvent codec "a2a.stream.request" agent prepared prepared.requestedContextId
    prepared.requestedTaskId parameters
  pure stored

def ensureTaskPlaceholderForMessageFk (agent : AgentRecord) (ids : EventIds)
    (parameters : ServiceParameters) : Action Unit :=
  match ids.taskId with
  | none => pure ()
  | some taskId => do
      let known ← getTask taskId
      match known with
      | some _ => pure ()
      | none => ensureTaskFromParts agent taskId ids.contextId .unknown none parameters

-- A message or an artifact update reports no state: the stored one is written again.
def keepTaskState (agent : AgentRecord) (ids : EventIds) (streamMessageId : Option MessageId)
    (parameters : ServiceParameters) : Action Unit :=
  match ids.taskId with
  | none => pure ()
  | some taskId => do
      let known ← getTask taskId
      ensureTaskFromParts agent taskId ids.contextId (known.elim .unknown TaskRecord.state)
        streamMessageId parameters

def persistTaskStateForEvent (agent : AgentRecord) (event : StreamResponse) (ids : EventIds)
    (streamMessageId : Option MessageId) (parameters : ServiceParameters) : Action Unit :=
  match event with
  | .task task => upsertRemoteTask codec agent task streamMessageId parameters
  | .statusUpdate update =>
      -- the ids of a status update are always there
      match ids.taskId with
      | none => pure ()
      | some taskId => ensureTaskFromParts agent taskId ids.contextId
          (storeTaskState update.status.state) streamMessageId parameters
  | .artifactUpdate update => do
      let _ ← persistArtifactUpdate codec.toArtifactCodec update
      keepTaskState agent ids streamMessageId parameters
  | .message _ => keepTaskState agent ids streamMessageId parameters

def streamEventType : StreamResponse → String
  | .task _ => "task"
  | .message _ => "message"
  | .statusUpdate _ => "status_update"
  | .artifactUpdate _ => "artifact_update"

def streamMetadata (base : Metadata) (event : StreamMessageEvent) : Except MissiveError Metadata := do
  let numbered ← base.insert "stream.sequence" (.nat event.sequence.toNat)
  let typed ← insertStr numbered "stream.event_type" (streamEventType event.event)
  insertSome typed "stream.sse_event" (event.sseEventType.map .string)

structure MessageContent where
  contentJson : Json
  role : MessageRole
  protocolMessageId : Option String

def messageContent (detail : String) (message : Message) : Except MissiveError MessageContent := do
  let value ← encode (codec.messageToValue message) detail
  .ok ⟨value, storeMessageRole message.role, some message.messageId⟩

def streamEventMessageContent (event : StreamMessageEvent) : Except MissiveError MessageContent :=
  match event.event with
  | .message message =>
      messageContent codec "encoding A2A stream message event for persistence" message
  | .statusUpdate update =>
      match update.status.message with
      | some message =>
          messageContent codec "encoding A2A stream status message for persistence" message
      | none => .ok ⟨event.rawJson, .unknown, none⟩
  | .task _ | .artifactUpdate _ => .ok ⟨event.rawJson, .unknown, none⟩

def insertStreamEventMessage (agent : AgentRecord) (event : StreamMessageEvent) (ids : EventIds)
    (base : Metadata) : Action MessageRecord := do
  let content ← Effect.lift (streamEventMessageContent codec event)
  let messageId ← newLocalMessageId
  let metadata ← Effect.lift (streamMetadata base event)
  insertMessage { MessageInsert.new messageId .streamEvent content.contentJson with
    agentAlias := some agent.aliasName
    contextId := ids.contextId
    taskId := ids.taskId
    role := some content.role
    ordinal := event.sequence + 1
    protocolMessageId := content.protocolMessageId
    metadata := metadata }

def appendStreamEvent (agent : AgentRecord) (event : StreamMessageEvent) (ids : EventIds)
    (base : Metadata) : Action EventRecord := do
  let messageId ← newMessageId
  let eventId ← Effect.lift (Id.new .eventId s!"evt/stream/{messageId}")
  let metadata ← Effect.lift (streamMetadata base event)
  let journal := EventInsert.new eventId "cli" s!"a2a.stream.{streamEventType event.event}"
    (JsonRedaction.outputRedactJson event.rawJson)
  appendVersioned { journal with
    agentAlias := some agent.aliasName
    contextId := ids.contextId
    taskId := ids.taskId
    metadata := metadata } (((base.get "a2a.protocol_version").bind Json.asStr).getD "unknown")

structure PersistedStreamEvent where
  event : EventRecord
  message : MessageRecord

def persistStreamEvent (agent : AgentRecord) (event : StreamMessageEvent) (base : Metadata)
    (parameters : ServiceParameters) : Action PersistedStreamEvent := transaction do
  let ids ← Effect.lift (eventIds event.event)
  ensureOptionalContext agent ids.contextId
  ensureTaskPlaceholderForMessageFk agent ids parameters
  let message ← insertStreamEventMessage codec agent event ids base
  persistTaskStateForEvent codec agent event.event ids (some message.messageId) parameters
  let journal ← appendStreamEvent agent event ids base
  pure ⟨journal, message⟩

end Stream

/-! `send`. A task response replaces the stored row; any other response only sees to it
that the task it names is there. -/

namespace Send

structure ResponseIds where
  contextId : Option ContextId
  taskId : Option TaskId
  responseMessageId : MessageId

def responseIds : SendMessageResponse → Action ResponseIds
  | .message message => do
      let contextId ← Effect.lift (parseOptional .contextId message.contextId)
      let taskId ← Effect.lift (parseOptional .taskId message.taskId)
      let messageId ← Effect.lift (Id.new .messageId message.messageId)
      pure ⟨contextId, taskId, messageId⟩
  | .task task => do
      let status ← Effect.lift (statusMessageId task.status)
      let contextId ← Effect.lift (Id.new .contextId task.contextId)
      let taskId ← Effect.lift (Id.new .taskId task.id)
      match status with
      | some messageId => pure ⟨some contextId, some taskId, messageId⟩
      | none => do
          let messageId ← newLocalMessageId
          pure ⟨some contextId, some taskId, messageId⟩

def ensureTaskPlaceholder (agent : AgentRecord) (taskId : TaskId) (contextId : Option ContextId)
    (parameters : ServiceParameters) : Action Unit := do
  let known ← getTask taskId
  match known with
  | some _ => pure ()
  | none => do
      let upsert ← Effect.lift (TaskUpsert.recordProtocolVersion
        { TaskUpsert.new taskId agent.aliasName .submitted with
          source := .remote
          contextId := contextId } parameters.protocolVersion)
      let _ ← upsertTask upsert
      pure ()

def upsertRemoteTask (agent : AgentRecord) (task : RemoteTask) (lastMessageId : MessageId)
    (parameters : ServiceParameters) : Action Unit := do
  let taskId ← Effect.lift (Id.new .taskId task.id)
  let contextId ← Effect.lift (Id.new .contextId task.contextId)
  ensureContext agent contextId
  let value ← Effect.lift (encode (codec.taskToValue task)
    "encoding A2A task response for persistence")
  let upsert ← Effect.lift (TaskUpsert.recordProtocolVersion
    { TaskUpsert.new taskId agent.aliasName (storeTaskState task.status.state) with
      contextId := some contextId
      remoteTaskJson := some value
      lastMessageId := some lastMessageId } parameters.protocolVersion)
  let completedAt ← completedAtFor upsert.state none
  let _ ← upsertTask { upsert with completedAt := completedAt }
  let _ ← persistTaskArtifacts codec.toArtifactCodec task.toTask
  pure ()

-- The tasks of the exchange: the one the response holds, or the one it names.
def recordTask (agent : AgentRecord) (response : SendMessageResponse) (contextId : Option ContextId)
    (taskId : Option TaskId) (lastMessageId : MessageId) (parameters : ServiceParameters) :
    Action Unit :=
  match response, taskId with
  | .task task, _ => upsertRemoteTask codec agent task lastMessageId parameters
  | .message _, some taskId => ensureTaskPlaceholder agent taskId contextId parameters
  | .message _, none => pure ()

def responseContent (outcome : SendMessageOutcome) : Except MissiveError Stream.MessageContent :=
  match outcome.response with
  | .message message =>
      Stream.messageContent codec "encoding A2A response message for persistence" message
  | .task task =>
      match task.status.message with
      | some message =>
          Stream.messageContent codec "encoding A2A task status message for persistence" message
      | none => .ok ⟨.object [("task", outcome.rawJson)], .unknown, none⟩

def insertResponseMessage (agent : AgentRecord) (outcome : SendMessageOutcome)
    (contextId : Option ContextId) (taskId : Option TaskId) (messageId : MessageId)
    (metadata : Metadata) : Action MessageRecord := do
  let content ← Effect.lift (responseContent codec outcome)
  insertMessage { MessageInsert.new messageId .response content.contentJson with
    agentAlias := some agent.aliasName
    contextId := contextId
    taskId := taskId
    role := some content.role
    ordinal := 1
    protocolMessageId := content.protocolMessageId
    metadata := metadata }

-- The fields of `SendResponseView` that the event shows.
structure ResponseView where
  shape : String
  messageId : Option String
  state : Option String
  text : Option String

def responseView : SendMessageResponse → ResponseView
  | .message message => ⟨"message", some message.messageId, none, codec.text message⟩
  | .task task =>
      ⟨"task", task.status.message.map Message.messageId,
        some (storeTaskState task.status.state).asStr, task.status.message.bind codec.text⟩

def responsePayload (outcome : SendMessageOutcome) (message : MessageRecord)
    (contextId : Option ContextId) (taskId : Option TaskId) : Json :=
  let view := responseView codec outcome.response
  .object [("context_id", linkJson contextId), ("message_id", .ofOption .string view.messageId),
    ("raw", outcome.rawJson), ("response_message_id", .string message.messageId.text),
    ("shape", .string view.shape), ("state", .ofOption .string view.state),
    ("task_id", linkJson taskId), ("text", .ofOption .string view.text)]

def appendSendResponseEvent (agent : AgentRecord) (outcome : SendMessageOutcome)
    (message : MessageRecord) (contextId : Option ContextId) (taskId : Option TaskId)
    (parameters : ServiceParameters) : Action Unit := do
  let event ← newCliEvent "a2a.send.response"
    (responsePayload codec outcome message contextId taskId)
  let _ ← appendVersioned { event with
    agentAlias := some agent.aliasName
    contextId := contextId
    taskId := taskId } parameters.protocolVersion
  pure ()

def appendSendTaskEvent (agent : AgentRecord) (task : RemoteTask) (parameters : ServiceParameters) :
    Action Unit := do
  let taskId ← Effect.lift (Id.new .taskId task.id)
  let contextId ← Effect.lift (Id.new .contextId task.contextId)
  let event ← newCliEvent "a2a.task.updated" (.object [("agent", .string agent.aliasName.text),
    ("context_id", .string contextId.text), ("source", .string "remote"),
    ("state", .string (storeTaskState task.status.state).asStr),
    ("task", .ofOption id (codec.taskToValue task)), ("task_id", .string taskId.text)])
  let _ ← appendVersioned { event with
    agentAlias := some agent.aliasName
    contextId := some contextId
    taskId := some taskId } parameters.protocolVersion
  pure ()

def appendHeldTaskEvent (agent : AgentRecord) (response : SendMessageResponse)
    (parameters : ServiceParameters) : Action Unit :=
  match response with
  | .task task => appendSendTaskEvent codec agent task parameters
  | .message _ => pure ()

structure PersistedSend where
  requestMessage : MessageRecord
  responseMessage : MessageRecord
  taskId : Option TaskId
  contextId : Option ContextId

def persistSend (agent : AgentRecord) (prepared : PreparedMessage) (outcome : SendMessageOutcome)
    (parameters : ServiceParameters) : Action PersistedSend := transaction do
  let ids ← responseIds outcome.response
  let contextId := ids.contextId.or prepared.requestedContextId
  let taskId := ids.taskId.or prepared.requestedTaskId
  ensureOptionalContext agent contextId
  recordTask codec agent outcome.response contextId taskId ids.responseMessageId parameters
  let request ← insertRequestMessage codec "encoding outbound A2A message for persistence" agent
    prepared contextId taskId
  let response ← insertResponseMessage codec agent outcome contextId taskId ids.responseMessageId
    prepared.localMetadata
  appendRequestEvent codec "a2a.send.request" agent prepared contextId taskId parameters
  appendSendResponseEvent codec agent outcome response contextId taskId parameters
  appendHeldTaskEvent codec agent outcome.response parameters
  pure ⟨request, response, taskId, contextId⟩

end Send

/-! The refresh of a task. `task` and `barrier` differ in the text of an error and in what
the event says. -/

namespace Refresh

def changed (existing : Option TaskRecord) (state : TaskState) (value : Json) : Bool :=
  existing.all fun record => record.state ≠ state || record.remoteTaskJson ≠ some value

def updatedPayload (observed : List (String × Json)) (agent : AgentRecord) (record : TaskRecord)
    (value : Json) : Json :=
  .object ([("agent", .string agent.aliasName.text), ("context_id", linkJson record.contextId)] ++
    observed ++ [("source", .string record.source.asStr),
    ("state", .string record.state.asStr), ("task", value), ("task_id", .string record.taskId.text)])

def appendTaskUpdatedEvent (observed : List (String × Json)) (agent : AgentRecord)
    (record : TaskRecord) (value : Json) (parameters : ServiceParameters) : Action Unit := do
  let event ← newCliEvent "a2a.task.updated" (updatedPayload observed agent record value)
  let _ ← appendVersioned { event with
    agentAlias := some agent.aliasName
    contextId := record.contextId
    taskId := some record.taskId
    metadata := record.metadata } parameters.protocolVersion
  pure ()

def appendWhenChanged (changed : Bool) (observed : List (String × Json)) (agent : AgentRecord)
    (record : TaskRecord) (value : Json) (parameters : ServiceParameters) : Action Unit :=
  if changed then appendTaskUpdatedEvent observed agent record value parameters else pure ()

def refreshedUpsert (agent : AgentRecord) (task : RemoteTask) (taskId : TaskId)
    (contextId : ContextId) (value : Json) (parameters : ServiceParameters) :
    Except MissiveError TaskUpsert := do
  let messageId ← statusMessageId task.status
  TaskUpsert.recordProtocolVersion
    { TaskUpsert.new taskId agent.aliasName (storeTaskState task.status.state) with
      source := .remote
      contextId := some contextId
      remoteTaskJson := some value
      lastMessageId := messageId } parameters.protocolVersion

def refreshTask (detail : String) (observed : List (String × Json)) (agent : AgentRecord)
    (task : RemoteTask) (parameters : ServiceParameters) : Action TaskRecord := do
  let taskId ← Effect.lift (Id.new .taskId task.id)
  let contextId ← Effect.lift (Id.new .contextId task.contextId)
  ensureContext agent contextId
  let value ← Effect.lift (encode (codec.taskToValue task) detail)
  let existing ← getTask taskId
  let upsert ← Effect.lift (refreshedUpsert agent task taskId contextId value parameters)
  let completedAt ← completedAtFor upsert.state none
  let record ← upsertTask { upsert with completedAt := completedAt }
  let _ ← persistTaskArtifacts codec.toArtifactCodec task.toTask
  appendWhenChanged (changed existing (storeTaskState task.status.state) value) observed agent
    record value parameters
  pure record

def upsertRemoteTask (agent : AgentRecord) (task : RemoteTask) (parameters : ServiceParameters) :
    Action TaskRecord :=
  refreshTask codec "encoding A2A task for local persistence" [] agent task parameters

def persistRemoteTask (agent : AgentRecord) (task : RemoteTask) (parameters : ServiceParameters) :
    Action TaskRecord := transaction (upsertRemoteTask codec agent task parameters)

def persistBarrierRemoteTask (agent : AgentRecord) (task : RemoteTask)
    (parameters : ServiceParameters) : Action TaskRecord :=
  transaction (refreshTask codec "encoding A2A task for barrier persistence"
    [("observed_by", .string "barrier")] agent task parameters)

end Refresh
end Missive.TaskPersistence
