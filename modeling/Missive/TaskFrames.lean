import Missive.ReportMoves

/-! What persisting a report leaves alone. The paths write contexts, tasks, messages,
artifacts and events; any part of the store apart from these five tables is kept,
whatever the report says and however the operation ends. -/
namespace Missive.TaskFrames

open JsonValue Missive.Core Schema Effects Repository Artifacts BackgroundJobs Protocol
open TaskPersistence GatewayPersistence TaskReports Frames ReportMoves

variable {Part Result : Type} {part : Store → Part} {codec : Codec} {agent : AgentRecord}
  {parameters : ServiceParameters}

/-- A part of the store apart from the tables that reports are written to. -/
structure IgnoresReports (part : Store → Part) : Prop where
  contexts : Ignores part contextsTable
  tasks : Ignores part tasksTable
  messages : Ignores part messagesTable
  artifacts : Ignores part artifactsTable
  events : IgnoresEvents part

-- The rows of a task that `send` records, and with its messages all that it writes but events.
structure IgnoresTaskRows (part : Store → Part) : Prop where
  contexts : Ignores part contextsTable
  tasks : Ignores part tasksTable
  artifacts : Ignores part artifactsTable

structure IgnoresRows (part : Store → Part) : Prop extends IgnoresTaskRows part where
  messages : Ignores part messagesTable

theorem IgnoresReports.rows (ignores : IgnoresReports part) : IgnoresRows part :=
  ⟨⟨ignores.contexts, ignores.tasks, ignores.artifacts⟩, ignores.messages⟩

theorem jobs_ignore_reports : IgnoresReports Store.gatewayJobs :=
  ⟨fun _ _ => rfl, fun _ _ => rfl, fun _ _ => rfl, fun _ _ => rfl, fun _ _ _ => rfl⟩

/-! A part that ignores the tables is kept along the writes to them. -/

theorem kept_grows (part : Store → Part) : Growth fun before after => part after = part before :=
  ⟨fun _ => rfl, fun _ _ _ before after => after.trans before⟩

theorem IgnoresTaskRows.allows (ignores : IgnoresTaskRows part) :
    AllowsTaskRows fun before after => part after = part before where
  toGrowth := kept_grows part
  context := keeps_ensureContext ignores.contexts
  task := keeps_upsertTask ignores.tasks
  artifact := keeps_writeArtifact ignores.artifacts

theorem IgnoresRows.allows (ignores : IgnoresRows part) :
    AllowsRows fun before after => part after = part before where
  toAllowsTaskRows := ignores.toIgnoresTaskRows.allows
  message := keeps_insertMessage ignores.messages

theorem IgnoresReports.allows (ignores : IgnoresReports part) :
    AllowsReports fun before after => part after = part before where
  toAllowsRows := ignores.rows.allows
  journal := fun journals => journals _ part ignores.events

theorem keeps_persistTaskState (ignores : IgnoresTaskRows part) (event : StreamResponse)
    (ids : EventIds) (streamMessageId : Option MessageId) :
    Keeps part (Stream.persistTaskStateForEvent codec agent event ids streamMessageId parameters) :=
  along_persistTaskState ignores.allows event ids streamMessageId

theorem keeps_placeholder (ignores : IgnoresTaskRows part) (ids : EventIds) :
    Keeps part (Stream.ensureTaskPlaceholderForMessageFk agent ids parameters) :=
  along_placeholder ignores.allows ids

theorem keeps_ensureRequestedTask (ignores : IgnoresTaskRows part) (prepared : PreparedMessage) :
    Keeps part (Stream.ensureRequestedTask agent prepared parameters) :=
  along_ensureRequestedTask ignores.allows prepared

theorem keeps_recordTask (ignores : IgnoresTaskRows part) (response : SendMessageResponse)
    (contextId : Option ContextId) (taskId : Option TaskId) (lastMessageId : MessageId) :
    Keeps part (Send.recordTask codec agent response contextId taskId lastMessageId parameters) :=
  along_recordTask ignores.allows response contextId taskId lastMessageId

-- The events of an exchange may concern the part, if they leave it alone.
theorem keeps_exchange (ignores : IgnoresRows part) (prepared : PreparedMessage)
    (outcome : SendMessageOutcome)
    (request : ∀ contextId taskId, Keeps part
      (appendRequestEvent codec "a2a.send.request" agent prepared contextId taskId parameters))
    (response : ∀ message contextId taskId, Keeps part
      (Send.appendSendResponseEvent codec agent outcome message contextId taskId parameters))
    (held : Keeps part (Send.appendHeldTaskEvent codec agent outcome.response parameters)) :
    Keeps part (Send.persistSend codec agent prepared outcome parameters) :=
  along_exchange ignores.allows prepared outcome request response held

theorem keeps_persistSend (ignores : IgnoresReports part) (prepared : PreparedMessage)
    (outcome : SendMessageOutcome) :
    Keeps part (Send.persistSend codec agent prepared outcome parameters) :=
  along_persistSend ignores.allows prepared outcome

/-- Persisting a report, on any of the paths, keeps whatever is apart from the reports. -/
theorem keeps_run (ignores : IgnoresReports part) (codec : Codec) (agent : AgentRecord)
    (operation : Operation) : Keeps part (operation.run codec agent) :=
  along_run ignores.allows codec agent operation

end Missive.TaskFrames
