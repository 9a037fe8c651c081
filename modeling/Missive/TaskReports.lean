import Missive.Frames
import Missive.GatewayPersistence
import Missive.TaskPersistence

/-! What the operations that persist tasks do to the `tasks` table. Each of them
names at most one task and rewrites at most the row of that task; the columns it
leaves there are a function of the row it found. -/
namespace Missive.TaskReports

open JsonValue KeyedTable Missive.Core Schema Effects Repository Artifacts BackgroundJobs Protocol
open TaskPersistence GatewayPersistence Frames
open JobWorkers (NegotiatedInterface)

/-- What arrives from an agent, or goes out to it, and is persisted. -/
inductive Operation where
  | streamRequest (parameters : ServiceParameters) (prepared : PreparedMessage)
  | streamEvent (parameters : ServiceParameters) (event : StreamMessageEvent) (base : Metadata)
  | send (parameters : ServiceParameters) (prepared : PreparedMessage) (outcome : SendMessageOutcome)
  | refresh (parameters : ServiceParameters) (task : RemoteTask)
  | barrier (parameters : ServiceParameters) (task : RemoteTask)
  | jobSend (config : JobManagerConfig) (job : GatewayJobRecord) (request : Message)
      (outcome : SendMessageOutcome)
  | jobStream (config : JobManagerConfig) (job : GatewayJobRecord) (event : StreamMessageEvent)
  | jobWait (config : JobManagerConfig) (job : GatewayJobRecord) (outcome : GetTaskOutcome)
  | subscription (config : Subscription.SubscriptionManagerConfig) (task : TaskRecord)
      (job : GatewayJobRecord) (interface : NegotiatedInterface) (event : StreamMessageEvent)

def ignoreResult {Result : Type} (action : Action Result) : Action Unit := do
  let _ ← action
  pure ()

def Operation.run (codec : Codec) (agent : AgentRecord) : Operation → Action Unit
  | .streamRequest parameters prepared =>
      ignoreResult (Stream.persistStreamRequest codec agent prepared parameters)
  | .streamEvent parameters event base =>
      ignoreResult (Stream.persistStreamEvent codec agent event base parameters)
  | .send parameters prepared outcome =>
      ignoreResult (Send.persistSend codec agent prepared outcome parameters)
  | .refresh parameters task => ignoreResult (Refresh.persistRemoteTask codec agent task parameters)
  | .barrier parameters task =>
      ignoreResult (Refresh.persistBarrierRemoteTask codec agent task parameters)
  | .jobSend config job request outcome =>
      ignoreResult (Jobs.persistSendOutcome codec config job agent request outcome)
  | .jobStream config job event =>
      ignoreResult (Jobs.persistStreamJobEvent codec config job agent event)
  | .jobWait config job outcome =>
      ignoreResult (Jobs.refreshTaskForWait codec config job agent outcome)
  | .subscription config task job interface event =>
      ignoreResult (Subscription.persistSubscriptionStreamEvent codec config
        ⟨agent, task, job, interface⟩ event)

/-! Columns. -/

theorem protocolVersionKey_valid : metadataKeyReason "a2a.protocol_version" = none := by
  decide

def versioned (metadata : Metadata) (version : String) : Metadata :=
  metadata.insertValid "a2a.protocol_version" (.string version) protocolVersionKey_valid

inductive Completion where
  | stamped
  | kept (time : Option SecondTime)

def Completion.Fits : Completion → Option SecondTime → Prop
  | .stamped, time => time.isSome = true
  | .kept old, time => time = old

structure TaskColumns where
  agentAlias : AgentAlias
  contextId : Option ContextId
  state : TaskState
  source : TaskSource
  remoteTaskJson : Option Json
  metadata : Metadata
  completion : Completion

structure TaskColumns.Fits (columns : TaskColumns) (row : TaskRecord) : Prop where
  agentAlias : row.agentAlias = columns.agentAlias
  contextId : row.contextId = columns.contextId
  state : row.state = columns.state
  source : row.source = columns.source
  remoteTaskJson : row.remoteTaskJson = columns.remoteTaskJson
  metadata : row.metadata = columns.metadata
  completion : columns.completion.Fits row.completedAt

def completionOf (state : TaskState) (otherwise : Option SecondTime) : Completion :=
  if isTerminalTaskState state then .stamped else .kept otherwise

-- A report that replaces the row.
def freshColumns (agent : AgentAlias) (contextId : ContextId) (state : TaskState)
    (value : Option Json) (version : String) : TaskColumns :=
  ⟨agent, some contextId, state, .remote, value, versioned .new version, completionOf state none⟩

-- A report that `stream` merges into the row.
def mergedColumns (agent : AgentAlias) (contextId : Option ContextId) (state : TaskState)
    (version : String) (existing : Option TaskRecord) : TaskColumns :=
  ⟨agent, contextId.or (existing.bind TaskRecord.contextId), state, .remote,
    existing.bind TaskRecord.remoteTaskJson, versioned .new version,
    completionOf state (existing.bind TaskRecord.completedAt)⟩

-- A report that the gateway writes over a copy of the row.
def copiedColumns (agent : AgentAlias) (contextId : Option ContextId) (state : Option TaskState)
    (value : Option Json → Option Json) (version : String) (existing : Option TaskRecord) :
    TaskColumns :=
  ⟨agent, contextId, state.getD (existing.elim .unknown TaskRecord.state),
    existing.elim .remote TaskRecord.source, value (existing.bind TaskRecord.remoteTaskJson),
    versioned (existing.elim .new TaskRecord.metadata) version,
    state.elim (.kept (existing.bind TaskRecord.completedAt))
      fun state => completionOf state (existing.bind TaskRecord.completedAt)⟩

/-- The task an operation names, and what it leaves over the row found there. -/
structure TaskWrite where
  taskId : TaskId
  columns : Option TaskRecord → Option TaskColumns

def Applied (write : Option TaskWrite) (before after : Table TaskRecord) : Prop :=
  match write with
  | none => after = before
  | some write =>
      match write.columns (before.find? write.taskId) with
      | none => after = before
      | some columns =>
          ∃ row : TaskRecord, after = before.put row ∧ row.taskId = write.taskId ∧ columns.Fits row

section Writes

variable (codec : Codec) (agent : AgentAlias) (version : String)

def freshWrite (task : RemoteTask) (state : TaskState) : Except MissiveError (Option TaskWrite) := do
  let taskId ← Id.new .taskId task.id
  let contextId ← Id.new .contextId task.contextId
  .ok (some ⟨taskId, fun _ =>
    some (freshColumns agent contextId state (codec.taskToValue task) version)⟩)

def streamColumns (event : StreamResponse) (contextId : Option ContextId)
    (existing : Option TaskRecord) : TaskColumns :=
  match event with
  | .task task =>
      { mergedColumns agent contextId (storeTaskState task.status.state) version existing with
        remoteTaskJson := codec.taskToValue task }
  | .statusUpdate update =>
      mergedColumns agent contextId (storeTaskState update.status.state) version existing
  | .message _ | .artifactUpdate _ =>
      mergedColumns agent contextId (existing.elim .unknown TaskRecord.state) version existing

def streamWrite (event : StreamResponse) : Except MissiveError (Option TaskWrite) := do
  let ids ← eventIds event
  .ok (ids.taskId.map fun taskId =>
    ⟨taskId, fun existing => some (streamColumns codec agent version event ids.contextId existing)⟩)

def requestWrite (prepared : PreparedMessage) : Option TaskWrite :=
  prepared.requestedTaskId.map fun taskId =>
    ⟨taskId, fun existing =>
      some (mergedColumns agent prepared.requestedContextId .submitted version existing)⟩

-- A placeholder is written only where there is no row.
def placeholderColumns (contextId : Option ContextId) (existing : Option TaskRecord) :
    Option TaskColumns :=
  if existing.isSome then none
  else some ⟨agent, contextId, .submitted, .remote, none, versioned .new version, .kept none⟩

def sendWrite (prepared : PreparedMessage) : SendMessageResponse →
    Except MissiveError (Option TaskWrite)
  | .task task => freshWrite codec agent version task (storeTaskState task.status.state)
  | .message message => do
      let contextId ← parseOptional .contextId message.contextId
      let taskId ← parseOptional .taskId message.taskId
      .ok ((taskId.or prepared.requestedTaskId).map fun taskId =>
        ⟨taskId, placeholderColumns agent version (contextId.or prepared.requestedContextId)⟩)

def statusWrite (update : TaskStatusUpdateEvent) : Except MissiveError (Option TaskWrite) := do
  let taskId ← Id.new .taskId update.taskId
  let contextId ← Id.new .contextId update.contextId
  .ok (some ⟨taskId, fun existing => some (copiedColumns agent (some contextId)
    (some (mapProtocolTaskState update.status.state)) id version existing)⟩)

def jobSendWrite : SendMessageResponse → Except MissiveError (Option TaskWrite)
  | .task task => freshWrite codec agent version task (mapProtocolTaskState task.status.state)
  | .message _ => .ok none

def jobStreamWrite : StreamResponse → Except MissiveError (Option TaskWrite)
  | .task task => freshWrite codec agent version task (mapProtocolTaskState task.status.state)
  | .statusUpdate update => statusWrite agent version update
  | .message _ | .artifactUpdate _ => .ok none

def subscribedJson (event : StreamResponse) (otherwise : Option Json) : Option Json :=
  match event with
  | .task task => codec.taskToValue task
  | _ => otherwise

def subscriptionWrite (event : StreamResponse) : Except MissiveError (Option TaskWrite) := do
  let ids ← eventIds event
  .ok (ids.taskId.map fun taskId =>
    ⟨taskId, fun existing => some (copiedColumns agent ids.contextId
      (Subscription.reportedState event) (subscribedJson codec event) version existing)⟩)

end Writes

def Operation.write (codec : Codec) (agent : AgentAlias) :
    Operation → Except MissiveError (Option TaskWrite)
  | .streamRequest parameters prepared => .ok (requestWrite agent parameters.protocolVersion prepared)
  | .streamEvent parameters event _ =>
      streamWrite codec agent parameters.protocolVersion event.event
  | .send parameters prepared outcome =>
      sendWrite codec agent parameters.protocolVersion prepared outcome.response
  | .refresh parameters task | .barrier parameters task =>
      freshWrite codec agent parameters.protocolVersion task (storeTaskState task.status.state)
  | .jobSend config _ _ outcome =>
      jobSendWrite codec agent config.serviceParameters.protocolVersion outcome.response
  | .jobStream config _ event =>
      jobStreamWrite codec agent config.serviceParameters.protocolVersion event.event
  | .jobWait config _ outcome =>
      freshWrite codec agent config.serviceParameters.protocolVersion outcome.task
        (mapProtocolTaskState outcome.task.status.state)
  | .subscription config _ _ _ event =>
      subscriptionWrite codec agent config.serviceParameters.protocolVersion event.event

/-- A write leaves the rows of the tasks it does not name. -/
theorem applied_apart {write : Option TaskWrite} {before after : Table TaskRecord} {taskId : TaskId}
    (applied : Applied write before after) (apart : write.map TaskWrite.taskId ≠ some taskId) :
    after.find? taskId = before.find? taskId := by
  cases write with
  | none => rw [show after = before from applied]
  | some write =>
      unfold Applied at applied
      cases shown : write.columns (before.find? write.taskId) with
      | none =>
          simp only [shown] at applied
          rw [applied]
      | some columns =>
          simp only [shown] at applied
          obtain ⟨row, put, keyed, _⟩ := applied
          rw [put]
          apply before.find?_put_other
          rintro rfl
          exact apart (congrArg some keyed.symm)

/-! The parts the paths share. -/

theorem recordProtocolVersion_returned {metadata after : Metadata} {version : String}
    (recorded : BackgroundJobs.recordProtocolVersion metadata version = .ok after) :
    after = versioned metadata version := by
  obtain ⟨_, _, inserted⟩ := except_bind_returned recorded
  rw [insertStr, Metadata.insert_valid metadata _ _ protocolVersionKey_valid] at inserted
  cases inserted
  rfl

theorem taskVersion_returned {input upsert : TaskUpsert} {version : String}
    (recorded : TaskUpsert.recordProtocolVersion input version = .ok upsert) :
    upsert = { input with
      protocolVersion := some version, metadata := versioned input.metadata version } := by
  obtain ⟨metadata, inner, same⟩ := except_bind_returned recorded
  cases same
  rw [recordProtocolVersion_returned inner]

theorem completedAtFor_returned {state : TaskState} {otherwise completedAt : Option MissiveTimestamp}
    {world after : World} (ran : completedAtFor state otherwise world = (.ok completedAt, after)) :
    after.store = world.store ∧
      (completionOf state (otherwise.map MissiveTimestamp.toRfc3339)).Fits
        (completedAt.map MissiveTimestamp.toRfc3339) := by
  unfold completedAtFor at ran
  unfold completionOf
  split at ran
  · rename_i terminal
    cases ran
    rw [if_pos terminal]
    exact ⟨rfl, rfl⟩
  · rename_i open'
    cases ran
    rw [if_neg open']
    exact ⟨rfl, rfl⟩

theorem completedAt_copied (existing : Option TaskRecord) :
    (existing.bind fun task => task.completedAt.map SecondTime.parse).map
      MissiveTimestamp.toRfc3339 = existing.bind TaskRecord.completedAt := by
  cases existing with
  | none => rfl
  | some row =>
      cases shown : row.completedAt with
      | none => simp [shown]
      | some time => simp [shown, parse_toRfc3339]

theorem upsertTask_returned {upsert : TaskUpsert} {row : TaskRecord} {world after : World}
    (ran : upsertTask upsert world = (.ok row, after)) :
    row = upsert.toRecord (world.clock world.drawn).toMillis (world.store.tasks.find? upsert.taskId) ∧
      after = world.later.withStore { world.store with tasks := world.store.tasks.put row } :=
  upsertRow_returned tasksTable _ _ _ _ upsert.taskId _ upsert.toRecord (fun _ _ => rfl) ran

-- The columns an upsert writes, whatever the row it replaces.
def Carries (upsert : TaskUpsert) (columns : TaskColumns) : Prop :=
  ∀ time existing, columns.Fits (upsert.toRecord time existing)

/-- Under one task id, a row with the given columns is put. -/
def PutsTask (taskId : TaskId) (columns : TaskColumns) (before after : Table TaskRecord) : Prop :=
  ∃ row : TaskRecord, after = before.put row ∧ row.taskId = taskId ∧ columns.Fits row

theorem upsertTask_puts {upsert : TaskUpsert} {columns : TaskColumns} {row : TaskRecord}
    {world after : World} (ran : upsertTask upsert world = (.ok row, after))
    (carries : Carries upsert columns) :
    PutsTask upsert.taskId columns world.store.tasks after.store.tasks := by
  obtain ⟨shown, moved⟩ := upsertTask_returned ran
  refine ⟨row, ?_, ?_, ?_⟩
  · rw [moved]
    rfl
  · rw [shown]
    rfl
  · rw [shown]
    exact carries _ _

theorem upsert_puts {upsert : TaskUpsert} {columns : TaskColumns} {row : TaskRecord}
    {world after : World} (ran : upsertTask upsert world = (.ok row, after))
    (agentOf : upsert.agentAlias = columns.agentAlias)
    (contextOf : upsert.contextId = columns.contextId) (stateOf : upsert.state = columns.state)
    (sourceOf : upsert.source = columns.source)
    (valueOf : upsert.remoteTaskJson = columns.remoteTaskJson)
    (metadataOf : upsert.metadata = columns.metadata)
    (timeOf : columns.completion.Fits (upsert.completedAt.map MissiveTimestamp.toRfc3339)) :
    PutsTask upsert.taskId columns world.store.tasks after.store.tasks :=
  upsertTask_puts ran fun _ _ =>
    ⟨agentOf, contextOf, stateOf, sourceOf, valueOf, metadataOf, timeOf⟩

theorem tasks_ignore_contexts : Ignores Store.tasks contextsTable := fun _ _ => rfl
theorem tasks_ignore_messages : Ignores Store.tasks messagesTable := fun _ _ => rfl
theorem tasks_ignore_artifacts : Ignores Store.tasks artifactsTable := fun _ _ => rfl
theorem tasks_ignore_events : IgnoresEvents Store.tasks := fun _ _ _ => rfl

/-! `stream`. -/

section Stream

variable {codec : Codec} {agent : AgentRecord} {parameters : ServiceParameters}
  {world after : World}

theorem mergedTaskUpsert_returned {taskId : TaskId} {contextId : Option ContextId}
    {state : TaskState} {lastMessageId : Option MessageId} {upsert : TaskUpsert}
    (ran : Stream.mergedTaskUpsert agent taskId contextId state lastMessageId parameters world =
      (.ok upsert, after)) :
    after.store = world.store ∧ upsert.taskId = taskId ∧
      Carries upsert (mergedColumns agent.aliasName contextId state parameters.protocolVersion
        (world.store.tasks.find? taskId)) := by
  obtain ⟨existing, middle, read, rest⟩ := Effect.bind_returned ran
  cases read
  obtain ⟨completedAt, later, stamped, last⟩ := Effect.bind_returned rest
  obtain ⟨kept, fits⟩ := completedAtFor_returned stamped
  rw [completedAt_copied] at fits
  obtain ⟨recorded, same⟩ := Prod.mk.inj last
  subst same
  rw [taskVersion_returned recorded]
  exact ⟨kept, rfl, fun _ _ => ⟨rfl, rfl, rfl, rfl, rfl, rfl, fits⟩⟩

theorem ensureTaskFromParts_puts {taskId : TaskId} {contextId : Option ContextId}
    {state : TaskState} {lastMessageId : Option MessageId}
    (ran : Stream.ensureTaskFromParts agent taskId contextId state lastMessageId parameters world =
      (.ok (), after)) :
    PutsTask taskId (mergedColumns agent.aliasName contextId state parameters.protocolVersion
      (world.store.tasks.find? taskId)) world.store.tasks after.store.tasks := by
  obtain ⟨upsert, middle, merged, rest⟩ := Effect.bind_returned ran
  obtain ⟨kept, named, carries⟩ := mergedTaskUpsert_returned merged
  obtain ⟨row, last, wrote, done⟩ := Effect.bind_returned rest
  cases done
  have puts := upsertTask_puts wrote carries
  rwa [named, kept] at puts

theorem streamRemoteTask_puts {task : RemoteTask} {streamMessageId : Option MessageId}
    (ran : Stream.upsertRemoteTask codec agent task streamMessageId parameters world =
      (.ok (), after)) :
    ∃ taskId contextId, requiredIds task.id task.contextId = .ok ⟨some taskId, some contextId⟩ ∧
      PutsTask taskId (streamColumns codec agent.aliasName parameters.protocolVersion (.task task)
        (some contextId) (world.store.tasks.find? taskId)) world.store.tasks after.store.tasks := by
  obtain ⟨taskId, taskOf, rest⟩ := Effect.lift_bind_returned ran
  obtain ⟨contextId, contextOf, rest⟩ := Effect.lift_bind_returned rest
  obtain ⟨_, first, ensured, rest⟩ := Effect.bind_returned rest
  obtain ⟨merged, second, built, rest⟩ := Effect.bind_returned rest
  obtain ⟨value, encoded, rest⟩ := Effect.lift_bind_returned rest
  obtain ⟨row, third, wrote, rest⟩ := Effect.bind_returned rest
  obtain ⟨artifacts, fourth, stored, done⟩ := Effect.bind_returned rest
  cases done
  have context := (keeps_ensureContext tasks_ignore_contexts agent contextId).returned ensured
  obtain ⟨kept, named, carries⟩ := mergedTaskUpsert_returned built
  have tail := (keeps_persistTaskArtifacts codec.toArtifactCodec tasks_ignore_artifacts _).returned stored
  have shown := encode_returned encoded
  have carried : Carries { merged with remoteTaskJson := some value }
      (streamColumns codec agent.aliasName parameters.protocolVersion (.task task) (some contextId)
        (first.store.tasks.find? taskId)) := by
    intro time existing
    have fits := carries time existing
    exact ⟨fits.agentAlias, fits.contextId, fits.state, fits.source, shown.symm, fits.metadata,
      fits.completion⟩
  have puts := upsertTask_puts wrote carried
  refine ⟨taskId, contextId, ?_, ?_⟩
  · unfold requiredIds
    rw [taskOf, contextOf]
    rfl
  · change PutsTask merged.taskId _ _ _ at puts
    rw [named, kept, context] at puts
    rwa [tail]

theorem keeps_insertRequestMessage {Part : Type} {part : Store → Part}
    (ignores : Ignores part messagesTable) (detail : String) (prepared : PreparedMessage)
    (contextId : Option ContextId) (taskId : Option TaskId) :
    Keeps part (insertRequestMessage codec detail agent prepared contextId taskId) :=
  keeps_bind (keeps_lift _) fun _ => keeps_insertMessage ignores _

theorem keeps_appendRequestEvent {Part : Type} {part : Store → Part} (ignores : IgnoresEvents part)
    (eventType : String) (prepared : PreparedMessage) (contextId : Option ContextId)
    (taskId : Option TaskId) :
    Keeps part (appendRequestEvent codec eventType agent prepared contextId taskId parameters) := by
  apply keeps_bind (keeps_newCliEvent _ _)
  intro event
  exact keeps_bind (keeps_appendVersioned ignores _ _) fun _ => keeps_pure ()

theorem keeps_insertStreamEventMessage {Part : Type} {part : Store → Part}
    (ignores : Ignores part messagesTable) (event : StreamMessageEvent) (ids : EventIds)
    (base : Metadata) :
    Keeps part (Stream.insertStreamEventMessage codec agent event ids base) := by
  apply keeps_bind (keeps_lift _)
  intro content
  apply keeps_bind
  · exact keeps_bind keeps_newMessageId fun _ => keeps_lift _
  · intro messageId
    exact keeps_bind (keeps_lift _) fun _ => keeps_insertMessage ignores _

theorem keeps_appendStreamEvent {Part : Type} {part : Store → Part} (ignores : IgnoresEvents part)
    (event : StreamMessageEvent) (ids : EventIds) (base : Metadata) :
    Keeps part (Stream.appendStreamEvent agent event ids base) := by
  apply keeps_bind keeps_newMessageId
  intro messageId
  apply keeps_bind (keeps_lift _)
  intro eventId
  exact keeps_bind (keeps_lift _) fun _ => keeps_appendVersioned ignores _ _

-- A placeholder holds nothing that a report would keep.
theorem streamColumns_placeholder {event : StreamResponse} {contextId : Option ContextId}
    {version : String} {row : TaskRecord}
    (fits : (mergedColumns agent.aliasName contextId .unknown version none).Fits row) :
    streamColumns codec agent.aliasName version event contextId (some row) =
      streamColumns codec agent.aliasName version event contextId none := by
  have context : contextId.or row.contextId = contextId := by
    rw [fits.contextId]
    cases contextId <;> rfl
  have json : row.remoteTaskJson = none := fits.remoteTaskJson
  have state : row.state = .unknown := fits.state
  have time : row.completedAt = none := fits.completion
  have merged (reported : TaskState) :
      mergedColumns agent.aliasName contextId reported version (some row) =
        mergedColumns agent.aliasName contextId reported version none := by
    simp [mergedColumns, context, json, time]
  cases event <;> simp [streamColumns, merged, state]

theorem keepTaskState_puts {ids : EventIds} {taskId : TaskId} {streamMessageId : Option MessageId}
    (named : ids.taskId = some taskId)
    (ran : Stream.keepTaskState agent ids streamMessageId parameters world = (.ok (), after)) :
    PutsTask taskId (mergedColumns agent.aliasName ids.contextId
      ((world.store.tasks.find? taskId).elim .unknown TaskRecord.state) parameters.protocolVersion
      (world.store.tasks.find? taskId)) world.store.tasks after.store.tasks := by
  unfold Stream.keepTaskState at ran
  rw [named] at ran
  obtain ⟨known, middle, read, rest⟩ := Effect.bind_returned ran
  cases read
  exact ensureTaskFromParts_puts rest

theorem persistTaskStateForEvent_puts {event : StreamResponse} {ids : EventIds} {taskId : TaskId}
    {streamMessageId : Option MessageId} (parsed : eventIds event = .ok ids)
    (named : ids.taskId = some taskId)
    (ran : Stream.persistTaskStateForEvent codec agent event ids streamMessageId parameters world =
      (.ok (), after)) :
    PutsTask taskId (streamColumns codec agent.aliasName parameters.protocolVersion event
      ids.contextId (world.store.tasks.find? taskId)) world.store.tasks after.store.tasks := by
  cases event with
  | task task =>
      obtain ⟨other, contextId, made, puts⟩ := streamRemoteTask_puts ran
      rw [show eventIds (.task task) = requiredIds task.id task.contextId from rfl, made] at parsed
      cases parsed
      cases named
      exact puts
  | message message => exact keepTaskState_puts named ran
  | statusUpdate update =>
      unfold Stream.persistTaskStateForEvent at ran
      simp only [named] at ran
      exact ensureTaskFromParts_puts ran
  | artifactUpdate update =>
      obtain ⟨record, middle, stored, rest⟩ := Effect.bind_returned ran
      have kept := (keeps_persistArtifactUpdate codec.toArtifactCodec tasks_ignore_artifacts _).returned stored
      have puts := keepTaskState_puts named rest
      rwa [kept] at puts

theorem persistTaskStateForEvent_unnamed {event : StreamResponse} {ids : EventIds}
    {streamMessageId : Option MessageId} (parsed : eventIds event = .ok ids)
    (unnamed : ids.taskId = none)
    (ran : Stream.persistTaskStateForEvent codec agent event ids streamMessageId parameters world =
      (.ok (), after)) : after.store.tasks = world.store.tasks := by
  have required {taskId contextId : String} (made : requiredIds taskId contextId = .ok ids) : False := by
    obtain ⟨task, _, rest⟩ := except_bind_returned made
    obtain ⟨context, _, same⟩ := except_bind_returned rest
    cases same
    cases unnamed
  cases event with
  | task task => exact absurd parsed fun made => required made
  | message message =>
      unfold Stream.persistTaskStateForEvent Stream.keepTaskState at ran
      simp only [unnamed] at ran
      cases ran
      rfl
  | statusUpdate update => exact absurd parsed fun made => required made
  | artifactUpdate update => exact absurd parsed fun made => required made

theorem placeholder_puts {ids : EventIds} {taskId : TaskId} (named : ids.taskId = some taskId)
    (ran : Stream.ensureTaskPlaceholderForMessageFk agent ids parameters world = (.ok (), after)) :
    (∃ row, world.store.tasks.find? taskId = some row ∧ after.store.tasks = world.store.tasks) ∨
    (world.store.tasks.find? taskId = none ∧
      PutsTask taskId (mergedColumns agent.aliasName ids.contextId .unknown
        parameters.protocolVersion none) world.store.tasks after.store.tasks) := by
  unfold Stream.ensureTaskPlaceholderForMessageFk at ran
  rw [named] at ran
  obtain ⟨known, middle, read, rest⟩ := Effect.bind_returned ran
  cases read
  cases shown : world.store.tasks.find? taskId with
  | some row =>
      simp only [shown] at rest
      cases rest
      exact Or.inl ⟨row, rfl, rfl⟩
  | none =>
      simp only [shown] at rest
      have puts := ensureTaskFromParts_puts rest
      rw [shown] at puts
      exact Or.inr ⟨rfl, puts⟩

theorem streamEvent_applied {event : StreamMessageEvent} {base : Metadata}
    {persisted : Stream.PersistedStreamEvent}
    (ran : Stream.persistStreamEvent codec agent event base parameters world =
      (.ok persisted, after)) :
    ∃ write, streamWrite codec agent.aliasName parameters.protocolVersion event.event = .ok write ∧
      Applied write world.store.tasks after.store.tasks := by
  have opened := transaction_returned ran
  obtain ⟨ids, parsed, rest⟩ := Effect.lift_bind_returned opened
  obtain ⟨_, first, ensured, rest⟩ := Effect.bind_returned rest
  obtain ⟨_, second, placed, rest⟩ := Effect.bind_returned rest
  obtain ⟨message, third, inserted, rest⟩ := Effect.bind_returned rest
  obtain ⟨_, fourth, stated, rest⟩ := Effect.bind_returned rest
  obtain ⟨journal, last, appended, done⟩ := Effect.bind_returned rest
  cases done
  have context := (keeps_ensureOptionalContext tasks_ignore_contexts agent _).returned ensured
  have told := (keeps_insertStreamEventMessage tasks_ignore_messages event ids base).returned inserted
  have tail := (keeps_appendStreamEvent tasks_ignore_events event ids base).returned appended
  refine ⟨_, by rw [streamWrite, parsed]; rfl, ?_⟩
  rw [tail]
  cases named : ids.taskId with
  | none =>
      have kept := persistTaskStateForEvent_unnamed parsed named stated
      unfold Stream.ensureTaskPlaceholderForMessageFk at placed
      rw [named] at placed
      cases placed
      exact (kept.trans told).trans context
  | some taskId =>
      have puts := persistTaskStateForEvent_puts parsed named stated
      rw [told] at puts
      rcases placeholder_puts named placed with ⟨row, _, kept⟩ | ⟨absent, row, put, keyed, fits⟩
      · rw [kept, context] at puts
        exact puts
      · rw [context] at absent put
        obtain ⟨final, moved, known, stays⟩ := puts
        have same : key row = key final := keyed.trans known.symm
        have found : second.store.tasks.find? taskId = some row := by
          have self := Table.find?_put_self world.store.tasks row
          rw [put, ← show key row = taskId from keyed]
          exact self
        rw [found, streamColumns_placeholder fits] at stays
        rw [put, Table.put_put _ _ _ same] at moved
        refine ⟨final, moved, known, ?_⟩
        rw [absent]
        exact stays

theorem streamRequest_applied {prepared : PreparedMessage} {stored : MessageRecord}
    (ran : Stream.persistStreamRequest codec agent prepared parameters world = (.ok stored, after)) :
    Applied (requestWrite agent.aliasName parameters.protocolVersion prepared) world.store.tasks
      after.store.tasks := by
  have opened := transaction_returned ran
  obtain ⟨_, first, ensured, rest⟩ := Effect.bind_returned opened
  have context := (keeps_ensureOptionalContext tasks_ignore_contexts agent _).returned ensured
  obtain ⟨_, second, ensured, rest⟩ := Effect.bind_returned rest
  obtain ⟨message, third, inserted, rest⟩ := Effect.bind_returned rest
  obtain ⟨_, fourth, appended, done⟩ := Effect.bind_returned rest
  cases done
  have told := (keeps_insertRequestMessage tasks_ignore_messages _ _ _ _).returned inserted
  have tail := (keeps_appendRequestEvent tasks_ignore_events _ _ _ _).returned appended
  rw [tail, told]
  unfold Stream.ensureRequestedTask at ensured
  unfold requestWrite
  cases named : prepared.requestedTaskId with
  | none =>
      simp only [named] at ensured
      cases ensured
      exact context
  | some taskId =>
      simp only [named] at ensured
      have puts := ensureTaskFromParts_puts ensured
      rw [context] at puts
      exact puts

end Stream

/-! `send` and the refresh. -/

section Replaced

variable {codec : Codec} {agent : AgentRecord} {parameters : ServiceParameters}
  {world after : World}

theorem freshWrite_parsed {task : RemoteTask} {taskId : TaskId} {contextId : ContextId}
    (agent : AgentAlias) (version : String) (state : TaskState)
    (taskOf : Id.new .taskId task.id = .ok taskId)
    (contextOf : Id.new .contextId task.contextId = .ok contextId) :
    freshWrite codec agent version task state = .ok (some ⟨taskId, fun _ =>
      some (freshColumns agent contextId state (codec.taskToValue task) version)⟩) := by
  unfold freshWrite
  rw [taskOf, contextOf]
  rfl

theorem sendRemoteTask_applied {task : RemoteTask} {lastMessageId : MessageId}
    (ran : Send.upsertRemoteTask codec agent task lastMessageId parameters world =
      (.ok (), after)) :
    ∃ write, freshWrite codec agent.aliasName parameters.protocolVersion task
        (storeTaskState task.status.state) = .ok write ∧
      Applied write world.store.tasks after.store.tasks := by
  obtain ⟨taskId, taskOf, rest⟩ := Effect.lift_bind_returned ran
  obtain ⟨contextId, contextOf, rest⟩ := Effect.lift_bind_returned rest
  obtain ⟨_, first, ensured, rest⟩ := Effect.bind_returned rest
  obtain ⟨value, encoded, rest⟩ := Effect.lift_bind_returned rest
  obtain ⟨upsert, built, rest⟩ := Effect.lift_bind_returned rest
  obtain ⟨completedAt, second, stamped, rest⟩ := Effect.bind_returned rest
  obtain ⟨row, third, wrote, rest⟩ := Effect.bind_returned rest
  obtain ⟨artifacts, fourth, stored, done⟩ := Effect.bind_returned rest
  cases done
  have context := (keeps_ensureContext tasks_ignore_contexts agent contextId).returned ensured
  have tail := (keeps_persistTaskArtifacts codec.toArtifactCodec tasks_ignore_artifacts _).returned stored
  obtain ⟨kept, fits⟩ := completedAtFor_returned stamped
  cases taskVersion_returned built
  refine ⟨_, freshWrite_parsed _ _ _ taskOf contextOf, ?_⟩
  have puts : PutsTask taskId (freshColumns agent.aliasName contextId _ (codec.taskToValue task)
      parameters.protocolVersion) _ _ :=
    upsert_puts wrote rfl rfl rfl rfl (encode_returned encoded).symm rfl fits
  rw [kept, context] at puts
  rw [tail]
  exact puts

theorem placeholder_applied {taskId : TaskId} {contextId : Option ContextId}
    (ran : Send.ensureTaskPlaceholder agent taskId contextId parameters world = (.ok (), after)) :
    Applied (some ⟨taskId, placeholderColumns agent.aliasName parameters.protocolVersion contextId⟩)
      world.store.tasks after.store.tasks := by
  obtain ⟨known, middle, read, rest⟩ := Effect.bind_returned ran
  cases read
  cases shown : world.store.tasks.find? taskId with
  | some row =>
      simp only [shown] at rest
      cases rest
      simp [Applied, placeholderColumns, shown]
  | none =>
      simp only [shown] at rest
      obtain ⟨upsert, built, rest⟩ := Effect.lift_bind_returned rest
      obtain ⟨row, last, wrote, done⟩ := Effect.bind_returned rest
      cases done
      cases taskVersion_returned built
      simp only [Applied, placeholderColumns, shown]
      exact upsertTask_puts wrote fun _ _ => ⟨rfl, rfl, rfl, rfl, rfl, rfl, rfl⟩

theorem keeps_appendWhenChanged {Part : Type} {part : Store → Part} (ignores : IgnoresEvents part)
    (changed : Bool) (observed : List (String × Json)) (record : TaskRecord) (value : Json) :
    Keeps part (Refresh.appendWhenChanged changed observed agent record value parameters) := by
  unfold Refresh.appendWhenChanged
  split
  · apply keeps_bind (keeps_newCliEvent _ _)
    intro event
    exact keeps_bind (keeps_appendVersioned ignores _ _) fun _ => keeps_pure ()
  · exact keeps_pure ()

theorem refresh_applied {detail : String} {observed : List (String × Json)} {task : RemoteTask}
    {record : TaskRecord}
    (ran : Refresh.refreshTask codec detail observed agent task parameters world =
      (.ok record, after)) :
    ∃ write, freshWrite codec agent.aliasName parameters.protocolVersion task
        (storeTaskState task.status.state) = .ok write ∧
      Applied write world.store.tasks after.store.tasks := by
  obtain ⟨taskId, taskOf, rest⟩ := Effect.lift_bind_returned ran
  obtain ⟨contextId, contextOf, rest⟩ := Effect.lift_bind_returned rest
  obtain ⟨_, first, ensured, rest⟩ := Effect.bind_returned rest
  obtain ⟨value, encoded, rest⟩ := Effect.lift_bind_returned rest
  obtain ⟨existing, second, read, rest⟩ := Effect.bind_returned rest
  cases read
  obtain ⟨upsert, built, rest⟩ := Effect.lift_bind_returned rest
  obtain ⟨completedAt, third, stamped, rest⟩ := Effect.bind_returned rest
  obtain ⟨row, fourth, wrote, rest⟩ := Effect.bind_returned rest
  obtain ⟨artifacts, fifth, stored, rest⟩ := Effect.bind_returned rest
  have context := (keeps_ensureContext tasks_ignore_contexts agent contextId).returned ensured
  have told := (keeps_persistTaskArtifacts codec.toArtifactCodec tasks_ignore_artifacts _).returned stored
  obtain ⟨_, sixth, noted, done⟩ := Effect.bind_returned rest
  cases done
  have tail := (keeps_appendWhenChanged tasks_ignore_events _ _ _ _).returned noted
  obtain ⟨kept, fits⟩ := completedAtFor_returned stamped
  obtain ⟨messageId, _, recorded⟩ := except_bind_returned built
  cases taskVersion_returned recorded
  refine ⟨_, freshWrite_parsed _ _ _ taskOf contextOf, ?_⟩
  have puts : PutsTask taskId (freshColumns agent.aliasName contextId _ (codec.taskToValue task)
      parameters.protocolVersion) _ _ :=
    upsert_puts wrote rfl rfl rfl rfl (encode_returned encoded).symm rfl fits
  rw [kept, context] at puts
  rw [tail, told]
  exact puts

theorem keeps_responseIds {Part : Type} {part : Store → Part} (response : SendMessageResponse) :
    Keeps part (Send.responseIds response) := by
  cases response with
  | message message =>
      apply keeps_bind (keeps_lift _)
      intro contextId
      apply keeps_bind (keeps_lift _)
      intro taskId
      exact keeps_bind (keeps_lift _) fun _ => keeps_pure _
  | task task =>
      apply keeps_bind (keeps_lift _)
      intro status
      apply keeps_bind (keeps_lift _)
      intro contextId
      apply keeps_bind (keeps_lift _)
      intro taskId
      cases status with
      | some messageId => exact keeps_pure _
      | none =>
          apply keeps_bind
          · exact keeps_bind keeps_newMessageId fun _ => keeps_lift _
          · exact fun _ => keeps_pure _

theorem keeps_appendSendResponseEvent {Part : Type} {part : Store → Part}
    (ignores : IgnoresEvents part) (outcome : SendMessageOutcome) (message : MessageRecord)
    (contextId : Option ContextId) (taskId : Option TaskId) :
    Keeps part (Send.appendSendResponseEvent codec agent outcome message contextId taskId
      parameters) := by
  apply keeps_bind (keeps_newCliEvent _ _)
  intro event
  exact keeps_bind (keeps_appendVersioned ignores _ _) fun _ => keeps_pure ()

theorem keeps_appendHeldTaskEvent {Part : Type} {part : Store → Part} (ignores : IgnoresEvents part)
    (response : SendMessageResponse) :
    Keeps part (Send.appendHeldTaskEvent codec agent response parameters) := by
  cases response with
  | message message => exact keeps_pure ()
  | task task =>
      apply keeps_bind (keeps_lift _)
      intro taskId
      apply keeps_bind (keeps_lift _)
      intro contextId
      apply keeps_bind (keeps_newCliEvent _ _)
      intro event
      exact keeps_bind (keeps_appendVersioned ignores _ _) fun _ => keeps_pure ()

-- The ids of a message are the ones it carries.
theorem messageIds_returned {message : Message} {ids : Send.ResponseIds}
    (ran : Send.responseIds (.message message) world = (.ok ids, after)) :
    parseOptional .contextId message.contextId = .ok ids.contextId ∧
      parseOptional .taskId message.taskId = .ok ids.taskId ∧
      Id.new .messageId message.messageId = .ok ids.responseMessageId ∧ after = world := by
  obtain ⟨contextId, contextOf, rest⟩ := Effect.lift_bind_returned ran
  obtain ⟨taskId, taskOf, rest⟩ := Effect.lift_bind_returned rest
  obtain ⟨messageId, messageOf, done⟩ := Effect.lift_bind_returned rest
  cases done
  exact ⟨contextOf, taskOf, messageOf, rfl⟩

theorem send_applied {prepared : PreparedMessage} {outcome : SendMessageOutcome}
    {persisted : Send.PersistedSend}
    (ran : Send.persistSend codec agent prepared outcome parameters world =
      (.ok persisted, after)) :
    ∃ write, sendWrite codec agent.aliasName parameters.protocolVersion prepared outcome.response =
        .ok write ∧ Applied write world.store.tasks after.store.tasks := by
  have opened := transaction_returned ran
  obtain ⟨ids, start, parsed, rest⟩ := Effect.bind_returned opened
  obtain ⟨_, first, ensured, rest⟩ := Effect.bind_returned rest
  obtain ⟨_, second, recorded, rest⟩ := Effect.bind_returned rest
  obtain ⟨request, third, asked, rest⟩ := Effect.bind_returned rest
  obtain ⟨response, fourth, answered, rest⟩ := Effect.bind_returned rest
  obtain ⟨_, fifth, journaled, rest⟩ := Effect.bind_returned rest
  obtain ⟨_, sixth, told, rest⟩ := Effect.bind_returned rest
  obtain ⟨_, seventh, held, done⟩ := Effect.bind_returned rest
  cases done
  have before : first.store.tasks = world.store.tasks :=
    ((keeps_ensureOptionalContext tasks_ignore_contexts agent _).returned ensured).trans
      ((keeps_responseIds outcome.response).returned parsed)
  have behind : after.store.tasks = second.store.tasks :=
    calc
      after.store.tasks = sixth.store.tasks :=
        (keeps_appendHeldTaskEvent tasks_ignore_events _).returned held
      _ = fifth.store.tasks :=
        (keeps_appendSendResponseEvent tasks_ignore_events _ _ _ _).returned told
      _ = fourth.store.tasks :=
        (keeps_appendRequestEvent tasks_ignore_events _ _ _ _).returned journaled
      _ = third.store.tasks :=
        (keeps_bind (keeps_lift _) fun _ => keeps_insertMessage tasks_ignore_messages _).returned
          answered
      _ = second.store.tasks :=
        (keeps_insertRequestMessage tasks_ignore_messages _ _ _ _).returned asked
  rw [behind, ← before]
  unfold Send.recordTask at recorded
  cases shown : outcome.response with
  | task task =>
      simp only [shown] at recorded
      exact sendRemoteTask_applied recorded
  | message message =>
      rw [shown] at parsed
      obtain ⟨contextOf, taskOf, _, _⟩ := messageIds_returned parsed
      simp only [shown] at recorded
      refine ⟨_, by rw [sendWrite, contextOf, taskOf]; rfl, ?_⟩
      cases named : ids.taskId.or prepared.requestedTaskId with
      | none =>
          rw [named] at recorded
          cases recorded
          rfl
      | some taskId =>
          rw [named] at recorded
          exact placeholder_applied recorded

end Replaced

/-! The gateway. -/

section Gateway

variable {codec : Codec} {agent : AgentRecord} {world after : World}

theorem protocolTask_applied {task : RemoteTask} {record : TaskRecord}
    {parameters : ServiceParameters}
    (ran : Jobs.upsertTaskFromProtocol codec agent task parameters world = (.ok record, after)) :
    ∃ write, freshWrite codec agent.aliasName parameters.protocolVersion task
        (mapProtocolTaskState task.status.state) = .ok write ∧
      Applied write world.store.tasks after.store.tasks := by
  obtain ⟨taskId, taskOf, rest⟩ := Effect.lift_bind_returned ran
  obtain ⟨contextId, contextOf, rest⟩ := Effect.lift_bind_returned rest
  obtain ⟨_, first, ensured, rest⟩ := Effect.bind_returned rest
  obtain ⟨upsert, built, rest⟩ := Effect.lift_bind_returned rest
  obtain ⟨completedAt, second, stamped, wrote⟩ := Effect.bind_returned rest
  have context := (keeps_ensureContext tasks_ignore_contexts agent contextId).returned ensured
  obtain ⟨kept, fits⟩ := completedAtFor_returned stamped
  obtain ⟨value, encoded, built⟩ := except_bind_returned built
  obtain ⟨messageId, _, recorded⟩ := except_bind_returned built
  cases taskVersion_returned recorded
  refine ⟨_, freshWrite_parsed _ _ _ taskOf contextOf, ?_⟩
  have puts : PutsTask taskId (freshColumns agent.aliasName contextId _ (codec.taskToValue task)
      parameters.protocolVersion) _ _ :=
    upsert_puts wrote rfl rfl rfl rfl (encode_returned encoded).symm rfl fits
  rw [kept, context] at puts
  exact puts

theorem taskBase_columns (agent : AgentRecord) (existing : Option TaskRecord) (taskId : TaskId) :
    let base := taskBase existing taskId agent
    base.state = existing.elim .unknown TaskRecord.state ∧
      base.source = existing.elim .remote TaskRecord.source ∧
      base.remoteTaskJson = existing.bind TaskRecord.remoteTaskJson ∧
      base.metadata = existing.elim .new TaskRecord.metadata ∧
      base.completedAt.map MissiveTimestamp.toRfc3339 = existing.bind TaskRecord.completedAt := by
  cases existing with
  | none => exact ⟨rfl, rfl, rfl, rfl, rfl⟩
  | some row => exact ⟨rfl, rfl, rfl, rfl, completedAt_copied (some row)⟩

-- A stored row has the id it was found under.
theorem taskBase_taskId {table : Table TaskRecord} {taskId : TaskId} :
    (taskBase (table.find? taskId) taskId agent).taskId = taskId := by
  cases found : table.find? taskId with
  | none => rfl
  | some row => exact table.find?_key found

theorem statusUpdate_applied {update : TaskStatusUpdateEvent} {record : TaskRecord}
    {parameters : ServiceParameters}
    (ran : Jobs.upsertTaskFromStatusUpdate agent update parameters world = (.ok record, after)) :
    ∃ write, statusWrite agent.aliasName parameters.protocolVersion update = .ok write ∧
      Applied write world.store.tasks after.store.tasks := by
  obtain ⟨taskId, taskOf, rest⟩ := Effect.lift_bind_returned ran
  obtain ⟨contextId, contextOf, rest⟩ := Effect.lift_bind_returned rest
  obtain ⟨_, first, ensured, rest⟩ := Effect.bind_returned rest
  obtain ⟨existing, second, read, rest⟩ := Effect.bind_returned rest
  cases read
  obtain ⟨upsert, built, rest⟩ := Effect.lift_bind_returned rest
  obtain ⟨completedAt, third, stamped, wrote⟩ := Effect.bind_returned rest
  have context := (keeps_ensureContext tasks_ignore_contexts agent contextId).returned ensured
  obtain ⟨kept, fits⟩ := completedAtFor_returned stamped
  obtain ⟨messageId, _, recorded⟩ := except_bind_returned built
  obtain ⟨stateOf, sourceOf, valueOf, metadataOf, timeOf⟩ :=
    taskBase_columns agent (first.store.tasks.find? taskId) taskId
  cases taskVersion_returned recorded
  refine ⟨_, by rw [statusWrite, taskOf, contextOf]; rfl, ?_⟩
  rw [show (_ : Option MissiveTimestamp).map MissiveTimestamp.toRfc3339 = _ from timeOf] at fits
  have puts : PutsTask _ (copiedColumns agent.aliasName (some contextId)
      (some (mapProtocolTaskState update.status.state)) id parameters.protocolVersion
      (first.store.tasks.find? taskId)) _ _ :=
    upsert_puts wrote rfl rfl rfl sourceOf valueOf
      (congrArg (versioned · parameters.protocolVersion) metadataOf) fits
  change PutsTask (taskBase _ _ _).taskId _ _ _ at puts
  rw [taskBase_taskId, kept, context] at puts
  exact puts

theorem keeps_appendJobEvent {Part : Type} {part : Store → Part} (ignores : IgnoresEvents part)
    (config : JobManagerConfig) (job : GatewayJobRecord) (links : Jobs.JobLinks)
    (start eventType : String) (payload : Json) (extra : Metadata → Except MissiveError Metadata) :
    Keeps part (Jobs.appendJobEvent config job agent links start eventType payload extra) := by
  apply keeps_bind
  · exact keeps_bind keeps_newMessageId fun _ => keeps_lift _
  · intro eventId
    apply keeps_bind (keeps_lift _)
    intro service
    apply keeps_bind (keeps_lift _)
    intro metadata
    exact keeps_bind (keeps_appendVersioned ignores _ _) fun _ => keeps_pure ()

theorem jobSend_applied {config : JobManagerConfig} {job : GatewayJobRecord} {request : Message}
    {outcome : SendMessageOutcome} {links : Jobs.JobLinks}
    (ran : Jobs.persistSendOutcome codec config job agent request outcome world =
      (.ok links, after)) :
    ∃ write, jobSendWrite codec agent.aliasName config.serviceParameters.protocolVersion
        outcome.response = .ok write ∧ Applied write world.store.tasks after.store.tasks := by
  have opened := transaction_returned ran
  obtain ⟨parsed, _, rest⟩ := Effect.lift_bind_returned opened
  obtain ⟨_, first, ensured, rest⟩ := Effect.bind_returned rest
  obtain ⟨_, second, recorded, rest⟩ := Effect.bind_returned rest
  obtain ⟨_, third, journaled, done⟩ := Effect.bind_returned rest
  cases done
  have context := (keeps_ensureOptionalContext tasks_ignore_contexts agent _).returned ensured
  have tail := (keeps_appendJobEvent tasks_ignore_events _ _ _ _ _ _ _).returned journaled
  rw [tail, ← context]
  unfold Jobs.recordSentTask at recorded
  cases shown : outcome.response with
  | task task =>
      rw [shown] at recorded
      obtain ⟨record, last, wrote, done⟩ := Effect.bind_returned recorded
      cases done
      exact protocolTask_applied wrote
  | message message =>
      rw [shown] at recorded
      cases recorded
      exact ⟨none, rfl, rfl⟩

theorem jobStream_applied {config : JobManagerConfig} {job : GatewayJobRecord}
    {event : StreamMessageEvent} {details : EventIds}
    (ran : Jobs.persistStreamJobEvent codec config job agent event world = (.ok details, after)) :
    ∃ write, jobStreamWrite codec agent.aliasName config.serviceParameters.protocolVersion
        event.event = .ok write ∧ Applied write world.store.tasks after.store.tasks := by
  obtain ⟨ids, _, rest⟩ := Effect.lift_bind_returned ran
  have opened := transaction_returned rest
  obtain ⟨_, first, ensured, rest⟩ := Effect.bind_returned opened
  obtain ⟨_, second, recorded, rest⟩ := Effect.bind_returned rest
  obtain ⟨_, third, journaled, done⟩ := Effect.bind_returned rest
  cases done
  have context := (keeps_ensureOptionalContext tasks_ignore_contexts agent _).returned ensured
  have tail := (keeps_appendJobEvent tasks_ignore_events _ _ _ _ _ _ _).returned journaled
  rw [tail, ← context]
  unfold Jobs.recordStreamedTask at recorded
  cases shown : event.event with
  | task task =>
      rw [shown] at recorded
      obtain ⟨record, last, wrote, done⟩ := Effect.bind_returned recorded
      cases done
      exact protocolTask_applied wrote
  | statusUpdate update =>
      rw [shown] at recorded
      obtain ⟨record, last, wrote, done⟩ := Effect.bind_returned recorded
      cases done
      exact statusUpdate_applied wrote
  | message message =>
      rw [shown] at recorded
      cases recorded
      exact ⟨none, rfl, rfl⟩
  | artifactUpdate update =>
      rw [shown] at recorded
      cases recorded
      exact ⟨none, rfl, rfl⟩

theorem jobWait_applied {config : JobManagerConfig} {job : GatewayJobRecord}
    {outcome : GetTaskOutcome} {record : TaskRecord}
    (ran : Jobs.refreshTaskForWait codec config job agent outcome world = (.ok record, after)) :
    ∃ write, freshWrite codec agent.aliasName config.serviceParameters.protocolVersion outcome.task
        (mapProtocolTaskState outcome.task.status.state) = .ok write ∧
      Applied write world.store.tasks after.store.tasks := by
  have opened := transaction_returned ran
  obtain ⟨row, first, wrote, rest⟩ := Effect.bind_returned opened
  obtain ⟨_, second, journaled, done⟩ := Effect.bind_returned rest
  cases done
  have tail := (keeps_appendJobEvent tasks_ignore_events _ _ _ _ _ _ _).returned journaled
  rw [tail]
  exact protocolTask_applied wrote

theorem reportedCompletion_returned {state : Option TaskState}
    {otherwise completedAt : Option MissiveTimestamp}
    (ran : Subscription.reportedCompletion state otherwise world = (.ok completedAt, after)) :
    after.store = world.store ∧
      (state.elim (.kept (otherwise.map MissiveTimestamp.toRfc3339)) fun state =>
        completionOf state (otherwise.map MissiveTimestamp.toRfc3339)).Fits
        (completedAt.map MissiveTimestamp.toRfc3339) := by
  cases state with
  | none =>
      cases ran
      exact ⟨rfl, rfl⟩
  | some state => exact completedAtFor_returned ran

theorem reportedJson_returned {event : StreamResponse} {otherwise value : Option Json}
    (encoded : Subscription.reportedJson codec event otherwise = .ok value) :
    value = subscribedJson codec event otherwise := by
  cases event with
  | task task =>
      obtain ⟨json, known, same⟩ := except_bind_returned encoded
      cases same
      exact (encode_returned known).symm
  | message message =>
      cases encoded
      rfl
  | statusUpdate update =>
      cases encoded
      rfl
  | artifactUpdate update =>
      cases encoded
      rfl

theorem recordSubscribedTask_puts {config : Subscription.SubscriptionManagerConfig}
    {event : StreamResponse} {details : EventIds} {taskId : TaskId}
    (named : details.taskId = some taskId)
    (ran : Subscription.recordSubscribedTask codec config agent event details world =
      (.ok (), after)) :
    PutsTask taskId (copiedColumns agent.aliasName details.contextId
      (Subscription.reportedState event) (subscribedJson codec event)
      config.serviceParameters.protocolVersion (world.store.tasks.find? taskId))
      world.store.tasks after.store.tasks := by
  unfold Subscription.recordSubscribedTask at ran
  rw [named] at ran
  obtain ⟨existing, first, read, rest⟩ := Effect.bind_returned ran
  cases read
  obtain ⟨completedAt, second, stamped, rest⟩ := Effect.bind_returned rest
  obtain ⟨value, encoded, rest⟩ := Effect.lift_bind_returned rest
  obtain ⟨upsert, built, rest⟩ := Effect.lift_bind_returned rest
  obtain ⟨row, third, wrote, done⟩ := Effect.bind_returned rest
  cases done
  obtain ⟨kept, fits⟩ := reportedCompletion_returned stamped
  obtain ⟨stateOf, sourceOf, valueOf, metadataOf, timeOf⟩ :=
    taskBase_columns agent (world.store.tasks.find? taskId) taskId
  rw [timeOf] at fits
  cases taskVersion_returned built
  have puts : PutsTask _ (copiedColumns agent.aliasName details.contextId
      (Subscription.reportedState event) (subscribedJson codec event)
      config.serviceParameters.protocolVersion (world.store.tasks.find? taskId)) _ _ :=
    upsert_puts wrote rfl rfl
      (congrArg ((Subscription.reportedState event).getD ·) stateOf) sourceOf
      ((reportedJson_returned encoded).trans (congrArg (subscribedJson codec event) valueOf))
      (congrArg (versioned · config.serviceParameters.protocolVersion) metadataOf) fits
  change PutsTask (taskBase _ _ _).taskId _ _ _ at puts
  rw [taskBase_taskId, kept] at puts
  exact puts

theorem keeps_appendSubscriptionEvent {Part : Type} {part : Store → Part}
    (ignores : IgnoresEvents part) (config : Subscription.SubscriptionManagerConfig)
    (candidate : Subscription.SubscriptionCandidate) (event : StreamMessageEvent)
    (details : EventIds) :
    Keeps part (Subscription.appendSubscriptionEvent config candidate event details) := by
  apply keeps_bind
  · exact keeps_bind keeps_newMessageId fun _ => keeps_lift _
  · intro eventId
    apply keeps_bind (keeps_lift _)
    intro metadata
    exact keeps_bind (keeps_appendVersioned ignores _ _) fun _ => keeps_pure ()

theorem subscription_applied {config : Subscription.SubscriptionManagerConfig}
    {candidate : Subscription.SubscriptionCandidate} {event : StreamMessageEvent} {ended : Bool}
    (ran : Subscription.persistSubscriptionStreamEvent codec config candidate event world =
      (.ok ended, after)) :
    ∃ write, subscriptionWrite codec candidate.agent.aliasName
        config.serviceParameters.protocolVersion event.event = .ok write ∧
      Applied write world.store.tasks after.store.tasks := by
  have opened := transaction_returned ran
  obtain ⟨details, parsed, rest⟩ := Effect.lift_bind_returned opened
  obtain ⟨_, first, ensured, rest⟩ := Effect.bind_returned rest
  obtain ⟨_, second, recorded, rest⟩ := Effect.bind_returned rest
  obtain ⟨_, third, journaled, done⟩ := Effect.bind_returned rest
  cases done
  have context := (keeps_ensureOptionalContext tasks_ignore_contexts _ _).returned ensured
  have tail := (keeps_appendSubscriptionEvent tasks_ignore_events _ _ _ _).returned journaled
  refine ⟨_, by rw [subscriptionWrite, parsed]; rfl, ?_⟩
  rw [tail, ← context]
  cases named : details.taskId with
  | none =>
      unfold Subscription.recordSubscribedTask at recorded
      rw [named] at recorded
      cases recorded
      rfl
  | some taskId => exact recordSubscribedTask_puts named recorded

end Gateway

/-! Every operation. -/

theorem ignoreResult_returned {Result : Type} {action : Action Result} {world after : World}
    (ran : ignoreResult action world = (.ok (), after)) :
    ∃ result, action world = (.ok result, after) := by
  obtain ⟨result, middle, inner, done⟩ := Effect.bind_returned ran
  cases done
  exact ⟨result, inner⟩

/-- An operation that returned has applied its write to the tasks, and nothing else. -/
theorem run_applied (codec : Codec) (agent : AgentRecord) (operation : Operation)
    {world after : World} (ran : operation.run codec agent world = (.ok (), after)) :
    ∃ write, operation.write codec agent.aliasName = .ok write ∧
      Applied write world.store.tasks after.store.tasks := by
  cases operation with
  | streamRequest parameters prepared =>
      obtain ⟨_, inner⟩ := ignoreResult_returned ran
      exact ⟨_, rfl, streamRequest_applied inner⟩
  | streamEvent parameters event base =>
      obtain ⟨_, inner⟩ := ignoreResult_returned ran
      exact streamEvent_applied inner
  | send parameters prepared outcome =>
      obtain ⟨_, inner⟩ := ignoreResult_returned ran
      exact send_applied inner
  | refresh parameters task =>
      obtain ⟨_, inner⟩ := ignoreResult_returned ran
      exact refresh_applied (transaction_returned inner)
  | barrier parameters task =>
      obtain ⟨_, inner⟩ := ignoreResult_returned ran
      exact refresh_applied (transaction_returned inner)
  | jobSend config job request outcome =>
      obtain ⟨_, inner⟩ := ignoreResult_returned ran
      exact jobSend_applied inner
  | jobStream config job event =>
      obtain ⟨_, inner⟩ := ignoreResult_returned ran
      exact jobStream_applied inner
  | jobWait config job outcome =>
      obtain ⟨_, inner⟩ := ignoreResult_returned ran
      exact jobWait_applied inner
  | subscription config task job interface event =>
      obtain ⟨_, inner⟩ := ignoreResult_returned ran
      exact subscription_applied inner

/-- An operation that failed has changed nothing. -/
theorem run_failed (codec : Codec) (agent : AgentRecord) (operation : Operation)
    {world after : World} {error : MissiveError}
    (ran : operation.run codec agent world = (.error error, after)) :
    after.store = world.store := by
  have failed {Result : Type} {action : Action Result}
      (inner : ∀ error after, action world = (.error error, after) → after.store = world.store)
      (ran : ignoreResult action world = (.error error, after)) : after.store = world.store := by
    unfold ignoreResult at ran
    rw [Effect.bind_run] at ran
    cases shown : action world with
    | mk outcome middle =>
        rw [shown] at ran
        cases outcome with
        | ok result => cases ran
        | error inside =>
            cases ran
            exact inner _ _ shown
  cases operation with
  | jobStream config job event =>
      refine failed (fun error after ran => ?_) ran
      unfold Jobs.persistStreamJobEvent at ran
      cases parsed : eventIds event.event with
      | error refused =>
          rw [parsed] at ran
          cases ran
          rfl
      | ok ids =>
          rw [parsed] at ran
          exact transaction_failed ran
  | streamRequest parameters prepared => exact failed (fun _ _ ran => transaction_failed ran) ran
  | streamEvent parameters event base => exact failed (fun _ _ ran => transaction_failed ran) ran
  | send parameters prepared outcome => exact failed (fun _ _ ran => transaction_failed ran) ran
  | refresh parameters task => exact failed (fun _ _ ran => transaction_failed ran) ran
  | barrier parameters task => exact failed (fun _ _ ran => transaction_failed ran) ran
  | jobSend config job request outcome => exact failed (fun _ _ ran => transaction_failed ran) ran
  | jobWait config job outcome => exact failed (fun _ _ ran => transaction_failed ran) ran
  | subscription config task job interface event =>
      exact failed (fun _ _ ran => transaction_failed ran) ran

end Missive.TaskReports
