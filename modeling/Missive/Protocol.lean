import Missive.Artifacts
import Missive.BackgroundJobs

/-! The A2A messages and tasks that the agents send, as far as the program reads
them, and what the program reads off them: states, roles and identifiers. How
`serde` writes a task or a message as JSON comes from outside. -/
namespace Missive.Protocol

open JsonValue KeyedTable Missive.Core Schema Effects Repository Artifacts BackgroundJobs

inductive Role where
  | unspecified
  | user
  | agent
  deriving DecidableEq

-- `protocol::TaskState`
inductive ProtocolTaskState where
  | unspecified
  | submitted
  | working
  | completed
  | failed
  | canceled
  | inputRequired
  | rejected
  | authRequired
  deriving DecidableEq

structure Message where
  messageId : String
  contextId : Option String
  taskId : Option String
  role : Role
  parts : List Part
  metadata : Option FieldMap
  extensions : Option (List String)
  referenceTaskIds : Option (List String)

structure TaskStatus where
  state : ProtocolTaskState
  message : Option Message
  timestamp : Option MissiveTimestamp

-- The A2A task, of which `Task` is what the artifacts are read from.
structure RemoteTask extends Task where
  status : TaskStatus
  history : Option (List Message)
  metadata : Option FieldMap

structure TaskStatusUpdateEvent where
  taskId : String
  contextId : String
  status : TaskStatus
  metadata : Option FieldMap

inductive StreamResponse where
  | task (task : RemoteTask)
  | message (message : Message)
  | statusUpdate (update : TaskStatusUpdateEvent)
  | artifactUpdate (update : TaskArtifactUpdateEvent)

structure StreamMessageEvent where
  sequence : UInt64
  sseEventType : Option String
  event : StreamResponse
  rawJson : Json

inductive SendMessageResponse where
  | task (task : RemoteTask)
  | message (message : Message)

structure SendMessageOutcome where
  url : String
  status : Nat
  response : SendMessageResponse
  rawJson : Json

structure GetTaskOutcome where
  url : String
  status : Nat
  task : RemoteTask
  rawJson : Json

/-- `serde_json::to_value` at the A2A types, and `Message::text`. -/
structure Codec extends ArtifactCodec where
  taskToValue : RemoteTask → Option Json
  messageToValue : Message → Option Json
  text : Message → Option String

-- `PreparedSend` with the message it carries and the metadata of the local rows.
structure PreparedMessage extends PreparedSend where
  message : Message
  localMetadata : Metadata

def encode (value : Option Json) (detail : String) : Except MissiveError Json :=
  match value with
  | some value => .ok value
  | none => .error (MissiveError.protocol detail)

theorem encode_returned {value : Option Json} {detail : String} {json : Json}
    (encoded : encode value detail = .ok json) : value = some json := by
  unfold encode at encoded
  split at encoded
  · cases encoded
    rfl
  · contradiction

/-! States and roles. The command line and the gateway have a mapping each. -/

def storeTaskState : ProtocolTaskState → TaskState
  | .submitted => .submitted
  | .working => .working
  | .completed => .completed
  | .failed | .rejected => .failed
  | .canceled => .cancelled
  | .inputRequired | .authRequired => .inputRequired
  | .unspecified => .unknown

def mapProtocolTaskState : ProtocolTaskState → TaskState
  | .submitted => .submitted
  | .working => .working
  | .completed => .completed
  | .failed | .rejected => .failed
  | .canceled => .cancelled
  | .inputRequired | .authRequired => .inputRequired
  | .unspecified => .unknown

theorem mapProtocolTaskState_eq (state : ProtocolTaskState) :
    mapProtocolTaskState state = storeTaskState state := by
  cases state <;> rfl

def isTerminalTaskState : TaskState → Bool
  | .completed | .failed | .cancelled => true
  | _ => false

def storeMessageRole : Role → MessageRole
  | .user => .user
  | .agent => .agent
  | .unspecified => .unknown

/-! Identifiers. -/

-- `.map(..::new).transpose()` of an optional identifier.
def parseOptional (kind : IdKind) (value : Option String) : Except MissiveError (Option (Id kind)) :=
  match value with
  | some value => do
      let id ← Id.new kind value
      .ok (some id)
  | none => .ok none

structure EventIds where
  taskId : Option TaskId
  contextId : Option ContextId

def requiredIds (taskId contextId : String) : Except MissiveError EventIds := do
  let task ← Id.new .taskId taskId
  let context ← Id.new .contextId contextId
  .ok ⟨some task, some context⟩

-- `EventIds::from_stream_response`, and the ids of the two `StreamEventDetails::from_event`.
def eventIds : StreamResponse → Except MissiveError EventIds
  | .task task => requiredIds task.id task.contextId
  | .message message => do
      let task ← parseOptional .taskId message.taskId
      let context ← parseOptional .contextId message.contextId
      .ok ⟨task, context⟩
  | .statusUpdate update => requiredIds update.taskId update.contextId
  | .artifactUpdate update => requiredIds update.taskId update.contextId

def statusMessageId (status : TaskStatus) : Except MissiveError (Option MessageId) :=
  parseOptional .messageId (status.message.map Message.messageId)

/-! Rows that every path writes alike. -/

def TaskUpsert.recordProtocolVersion (input : TaskUpsert) (version : String) :
    Except MissiveError TaskUpsert := do
  let metadata ← BackgroundJobs.recordProtocolVersion input.metadata version
  .ok { input with protocolVersion := some version, metadata := metadata }

-- `EventInsert::record_a2a_protocol_version`, and the append that follows it everywhere.
def appendVersioned (event : EventInsert) (version : String) : Action EventRecord := do
  let metadata ← Effect.lift (BackgroundJobs.recordProtocolVersion event.metadata version)
  appendEvent { event with metadata := metadata }

def ensureContext (agent : AgentRecord) (contextId : ContextId) : Action Unit := do
  let known ← getContext contextId
  match known with
  | some _ => pure ()
  | none => do
      let _ ← upsertContext { ContextUpsert.new contextId with agentAlias := some agent.aliasName }
      pure ()

def ensureOptionalContext (agent : AgentRecord) : Option ContextId → Action Unit
  | some contextId => ensureContext agent contextId
  | none => pure ()

-- A terminal state is stamped with the time, any other keeps what the caller had.
def completedAtFor (state : TaskState) (otherwise : Option MissiveTimestamp) :
    Action (Option MissiveTimestamp) :=
  if isTerminalTaskState state then do
    let now ← nowUtc
    pure (some now)
  else pure otherwise

/-! A codec for messages and tasks that hold only text, as `serde_json` writes those. -/

def stateName : ProtocolTaskState → String
  | .unspecified => "TASK_STATE_UNSPECIFIED"
  | .submitted => "TASK_STATE_SUBMITTED"
  | .working => "TASK_STATE_WORKING"
  | .completed => "TASK_STATE_COMPLETED"
  | .failed => "TASK_STATE_FAILED"
  | .canceled => "TASK_STATE_CANCELED"
  | .inputRequired => "TASK_STATE_INPUT_REQUIRED"
  | .rejected => "TASK_STATE_REJECTED"
  | .authRequired => "TASK_STATE_AUTH_REQUIRED"

def roleName : Role → String
  | .unspecified => "ROLE_UNSPECIFIED"
  | .user => "ROLE_USER"
  | .agent => "ROLE_AGENT"

def encodeTextMessage : Message → Option Json
  | ⟨messageId, contextId, taskId, role, parts, none, none, none⟩ => do
      let items ← parts.mapM encodeTextPart
      pure (.object (optionalField "contextId" contextId ++ [("messageId", .string messageId),
        ("parts", .array items), ("role", .string (roleName role))] ++ optionalField "taskId" taskId))
  | _ => none

def encodeTextStatus : TaskStatus → Option Json
  | ⟨state, none, none⟩ => some (.object [("state", .string (stateName state))])
  | ⟨state, some message, none⟩ => do
      let value ← encodeTextMessage message
      pure (.object [("message", value), ("state", .string (stateName state))])
  | _ => none

def encodeTextTask : RemoteTask → Option Json
  | ⟨⟨id, contextId, artifacts⟩, status, none, none⟩ => do
      let items ← (artifacts.getD []).mapM encodeTextArtifact
      let value ← encodeTextStatus status
      pure (.object ((artifacts.toList.map fun _ => ("artifacts", .array items)) ++
        [("contextId", .string contextId), ("id", .string id), ("status", value)]))
  | _ => none

def partText (part : Part) : Option String :=
  match part.content with
  | .text text => some text
  | _ => none

def plainCodec : Codec :=
  { textCodec with
    taskToValue := encodeTextTask
    messageToValue := encodeTextMessage
    text := fun message => message.parts.findSome? partText }

end Missive.Protocol
