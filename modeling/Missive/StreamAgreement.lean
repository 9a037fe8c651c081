import Missive.JobPersistence
import Missive.SendPersistence
import Missive.TaskCompletion

/-! Three paths for one stream. The command line merges a `Task` or `StatusUpdate`
into the stored row, background jobs replace or copy the row, subscriptions copy
it. All of them report the same to the columns a reader of a task looks at, so a
replay through any path is the replay of these reports. -/
namespace Missive.StreamAgreement

open JsonValue KeyedTable Missive.Core Schema Effects Repository Artifacts BackgroundJobs Protocol
open TaskPersistence GatewayPersistence TaskReports TaskIsolation Totality ArtifactVersions
open JobPersistence SendPersistence

/-! What an event reports. -/

structure Report where
  agentAlias : AgentAlias
  contextId : Option ContextId
  state : TaskState
  remoteTaskJson : Option Json

def reportOf (row : TaskRecord) : Report :=
  ⟨row.agentAlias, row.contextId, row.state, row.remoteTaskJson⟩

def reportIn (store : Store) (taskId : TaskId) : Option Report :=
  (store.tasks.find? taskId).map reportOf

-- The report of a task is complete; the report of a status keeps the task that was reported.
def reported (codec : Codec) (agent : AgentAlias) (contextId : Option ContextId)
    (event : StreamResponse) (before : Option Report) : Option Report :=
  match event with
  | .task task =>
      some ⟨agent, contextId, storeTaskState task.status.state, codec.taskToValue task⟩
  | .statusUpdate update =>
      some ⟨agent, contextId, storeTaskState update.status.state,
        before.bind Report.remoteTaskJson⟩
  | .message _ | .artifactUpdate _ => before

def reportsState (event : StreamResponse) : Prop := (reportedTask event).isSome = true

/-- One event of the replay, for the task under one id. -/
def replayOne (codec : Codec) (agent : AgentAlias) (taskId : TaskId) (event : StreamResponse)
    (before : Option Report) : Option Report :=
  match eventIds event with
  | .ok ids => if ids.taskId = some taskId then reported codec agent ids.contextId event before else before
  | .error _ => before

def replay (codec : Codec) (agent : AgentAlias) (taskId : TaskId) :
    List StreamMessageEvent → Option Report → Option Report
  | [], before => before
  | event :: rest, before =>
      replay codec agent taskId rest (replayOne codec agent taskId event.event before)

/-- A write that leaves the report of an event. -/
def Reports (codec : Codec) (agent : AgentAlias) (event : StreamResponse) (write : Option TaskWrite) :
    Prop :=
  ∃ (ids : EventIds) (taskId : TaskId) (columns : Option TaskRecord → TaskColumns),
    eventIds event = .ok ids ∧ ids.taskId = some taskId ∧
    write = some ⟨taskId, fun existing => some (columns existing)⟩ ∧
    ∀ existing row, (columns existing).Fits row →
      some (reportOf row) = reported codec agent ids.contextId event (existing.map reportOf)

theorem applied_replayOne {codec : Codec} {agent : AgentAlias} {event : StreamResponse}
    {write : Option TaskWrite} {before after : Store} (reports : Reports codec agent event write)
    (applied : Applied write before.tasks after.tasks) (taskId : TaskId) :
    reportIn after taskId = replayOne codec agent taskId event (reportIn before taskId) := by
  obtain ⟨ids, own, columns, parsed, named, rfl, leaves⟩ := reports
  obtain ⟨row, put, keyed, fits⟩ := applied
  change row.taskId = own at keyed
  unfold reportIn replayOne
  rw [parsed, put, Table.find?_put]
  by_cases same : taskId = own
  · subst same
    rw [if_pos (show taskId = key row from keyed.symm)]
    simp only [named, if_true]
    exact leaves _ row fits
  · have apart : taskId ≠ key row := fun equal => same (equal.trans keyed)
    have other : ids.taskId ≠ some taskId := by
      rw [named]
      exact fun equal => same (Option.some.inj equal).symm
    simp only [if_neg apart, if_neg other]

section Writes

variable {codec : Codec} {agent : AgentAlias} {version : String} {event : StreamResponse}
  {write : Option TaskWrite}

theorem bind_reportOf (existing : Option TaskRecord) :
    (existing.map reportOf).bind Report.remoteTaskJson = existing.bind TaskRecord.remoteTaskJson := by
  cases existing <;> rfl

theorem requiredIds_some {taskId contextId : String} {ids : EventIds}
    (parsed : requiredIds taskId contextId = .ok ids) :
    ∃ task context, ids = ⟨some task, some context⟩ := by
  obtain ⟨task, _, rest⟩ := except_bind_returned parsed
  obtain ⟨context, _, same⟩ := except_bind_returned rest
  cases same
  exact ⟨task, context, rfl⟩

theorem streamWrite_reports (states : reportsState event)
    (parsed : streamWrite codec agent version event = .ok write) : Reports codec agent event write := by
  obtain ⟨ids, known, same⟩ := except_bind_returned parsed
  cases same
  cases event with
  | message message => cases states
  | artifactUpdate update => cases states
  | task task =>
      obtain ⟨taskId, contextId, rfl⟩ := requiredIds_some known
      refine ⟨_, taskId, _, known, rfl, rfl, ?_⟩
      intro existing row fits
      simp only [reportOf, fits.agentAlias, fits.contextId, fits.state, fits.remoteTaskJson]
      rfl
  | statusUpdate update =>
      obtain ⟨taskId, contextId, rfl⟩ := requiredIds_some known
      refine ⟨_, taskId, _, known, rfl, rfl, ?_⟩
      intro existing row fits
      rw [reported, bind_reportOf]
      simp only [reportOf, fits.agentAlias, fits.contextId, fits.state, fits.remoteTaskJson]
      rfl

theorem jobWrite_reports (states : reportsState event)
    (parsed : jobStreamWrite codec agent version event = .ok write) :
    Reports codec agent event write := by
  cases event with
  | message message => cases states
  | artifactUpdate update => cases states
  | task task =>
      obtain ⟨taskId, taskOf, rest⟩ := except_bind_returned parsed
      obtain ⟨contextId, contextOf, same⟩ := except_bind_returned rest
      cases same
      have known : eventIds (.task task) = .ok ⟨some taskId, some contextId⟩ := by
        rw [eventIds, requiredIds, taskOf, contextOf]
        rfl
      refine ⟨_, taskId, _, known, rfl, rfl, ?_⟩
      intro existing row fits
      simp only [reportOf, fits.agentAlias, fits.contextId, fits.state, fits.remoteTaskJson]
      rw [reported, freshColumns, mapProtocolTaskState_eq]
  | statusUpdate update =>
      obtain ⟨taskId, taskOf, rest⟩ := except_bind_returned parsed
      obtain ⟨contextId, contextOf, same⟩ := except_bind_returned rest
      cases same
      have known : eventIds (.statusUpdate update) = .ok ⟨some taskId, some contextId⟩ := by
        rw [eventIds, requiredIds, taskOf, contextOf]
        rfl
      refine ⟨_, taskId, _, known, rfl, rfl, ?_⟩
      intro existing row fits
      rw [reported, bind_reportOf, ← mapProtocolTaskState_eq]
      simp only [reportOf, fits.agentAlias, fits.contextId, fits.state, fits.remoteTaskJson]
      rfl

theorem subscriptionWrite_reports (states : reportsState event)
    (parsed : subscriptionWrite codec agent version event = .ok write) :
    Reports codec agent event write := by
  obtain ⟨ids, known, same⟩ := except_bind_returned parsed
  cases same
  cases event with
  | message message => cases states
  | artifactUpdate update => cases states
  | task task =>
      obtain ⟨taskId, contextId, rfl⟩ := requiredIds_some known
      refine ⟨_, taskId, _, known, rfl, rfl, ?_⟩
      intro existing row fits
      rw [reported, ← mapProtocolTaskState_eq]
      simp only [reportOf, fits.agentAlias, fits.contextId, fits.state, fits.remoteTaskJson]
      rfl
  | statusUpdate update =>
      obtain ⟨taskId, contextId, rfl⟩ := requiredIds_some known
      refine ⟨_, taskId, _, known, rfl, rfl, ?_⟩
      intro existing row fits
      rw [reported, bind_reportOf, ← mapProtocolTaskState_eq]
      simp only [reportOf, fits.agentAlias, fits.contextId, fits.state, fits.remoteTaskJson]
      rfl

end Writes

/-! The command line. -/

def eventArtifacts : StreamResponse → List Artifact
  | .task task => payload task.toTask
  | .message _ | .statusUpdate _ | .artifactUpdate _ => []

section Stream

variable {codec : Codec} {agent : AgentRecord} {parameters : ServiceParameters} {base : Metadata}
  {reserved : List String} {budget : Nat} {world : World}

theorem succeeds_mergedTaskUpsert (taskId : TaskId) (contextId : ContextId) (state : TaskState)
    (lastMessageId : Option MessageId) (version : opaqueReason parameters.protocolVersion = none)
    (ready : Ready reserved (budget + 1) world) :
    Effect.Succeeds (Stream.mergedTaskUpsert agent taskId (some contextId) state lastMessageId
      parameters) world fun upsert after => Ready reserved budget after ∧
        after.store = world.store ∧ upsert.taskId = taskId ∧ upsert.agentAlias = agent.aliasName ∧
        upsert.contextId = some contextId := by
  apply succeeds_read rfl
  apply Effect.succeeds_bind
  apply Effect.succeeds_mono (succeeds_completedAtFor _ _ ready)
  rintro completedAt after ⟨left, same⟩
  exact Effect.succeeds_lift (taskVersion_valid _ version) ⟨left, same, rfl, rfl, rfl⟩

theorem succeeds_ensureTaskFromParts (taskId : TaskId) (contextId : ContextId) (state : TaskState)
    (lastMessageId : Option MessageId) (version : opaqueReason parameters.protocolVersion = none)
    (ready : Ready reserved (budget + 2) world)
    (agentStored : world.store.hasAgent (some agent.aliasName) = true)
    (contextStored : world.store.hasContext (some contextId) = true) :
    Effect.Succeeds (Stream.ensureTaskFromParts agent taskId (some contextId) state lastMessageId
      parameters) world fun _ after => Advanced reserved budget world after ∧
        after.store.hasTask (some taskId) = true ∧
        after.store.artifacts = world.store.artifacts := by
  apply Effect.succeeds_bind
  apply Effect.succeeds_mono (succeeds_mergedTaskUpsert taskId contextId state lastMessageId version
    ready)
  rintro upsert middle ⟨left, same, named, owned, within⟩
  apply Effect.succeeds_bind
  rw [← same] at agentStored contextStored
  rw [← owned] at agentStored
  rw [← within] at contextStored
  apply Effect.succeeds_mono (succeeds_kept Store.artifacts
    (Frames.keeps_upsertTask (fun _ _ => rfl) upsert)
    (succeeds_upsertTask upsert left agentStored contextStored))
  rintro row after ⟨⟨wrote, stored⟩, kept⟩
  rw [named] at stored
  exact Effect.succeeds_pure ⟨⟨wrote.ready, same ▸ wrote.extends_⟩, stored, by rw [kept, same]⟩

theorem succeeds_placeholder (taskId : TaskId) (contextId : ContextId)
    (version : opaqueReason parameters.protocolVersion = none)
    (ready : Ready reserved (budget + 2) world)
    (agentStored : world.store.hasAgent (some agent.aliasName) = true)
    (contextStored : world.store.hasContext (some contextId) = true) :
    Effect.Succeeds (Stream.ensureTaskPlaceholderForMessageFk agent ⟨some taskId, some contextId⟩
      parameters) world fun _ after => Advanced reserved budget world after ∧
        after.store.hasTask (some taskId) = true ∧
        after.store.artifacts = world.store.artifacts := by
  cases known : world.store.tasks.find? taskId with
  | some row =>
      refine succeeds_read known ⟨(), world, rfl, ⟨ready.mono (by omega), Extends.refl _⟩, ?_, rfl⟩
      simp [Store.hasTask, known]
  | none =>
      exact succeeds_read known (succeeds_ensureTaskFromParts taskId contextId .unknown none version
        ready agentStored contextStored)

theorem streamType_short (event : StreamResponse) :
    (!(s!"a2a.stream.{Stream.streamEventType event}").isEmpty &&
      (s!"a2a.stream.{Stream.streamEventType event}").utf8ByteSize ≤ 128) = true := by
  have each : ∀ name ∈ ["task", "message", "status_update", "artifact_update"],
      (!(s!"a2a.stream.{name}").isEmpty && (s!"a2a.stream.{name}").utf8ByteSize ≤ 128) = true := by
    decide
  apply each
  cases event <;> simp [Stream.streamEventType]

theorem streamMetadata_returns (event : StreamMessageEvent) (base : Metadata) :
    ∃ metadata, Stream.streamMetadata base event = .ok metadata := by
  obtain ⟨numbered, first⟩ := insert_returns base "stream.sequence" (.nat event.sequence.toNat)
    (by decide)
  obtain ⟨typed, second⟩ := insert_returns numbered "stream.event_type"
    (.string (Stream.streamEventType event.event)) (by decide)
  obtain ⟨metadata, last⟩ := insertSome_returns typed "stream.sse_event"
    (event.sseEventType.map .string) (by decide)
  refine ⟨metadata, ?_⟩
  unfold Stream.streamMetadata insertStr
  rw [first]
  simp only [Bind.bind, Except.bind]
  rw [second]
  exact last

theorem streamContent_valid {event : StreamMessageEvent} (states : reportsState event.event)
    (valid : Valid .messageId ((statusMessage event.event).map Message.messageId))
    (encodes : ∀ message, statusMessage event.event = some message →
      (codec.messageToValue message).isSome = true) :
    ∃ content, Stream.streamEventMessageContent codec event = .ok content ∧
      lengthFits 256 content.protocolMessageId = true := by
  unfold Stream.streamEventMessageContent
  cases shown : event.event with
  | message message =>
      rw [shown] at states
      cases states
  | artifactUpdate update =>
      rw [shown] at states
      cases states
  | task task => exact ⟨_, rfl, rfl⟩
  | statusUpdate update =>
      rw [shown] at valid encodes
      cases held : update.status.message with
      | none => simp only [held]; exact ⟨_, rfl, rfl⟩
      | some message =>
          obtain ⟨content, made, own⟩ := messageContent_valid
            "encoding A2A stream status message for persistence" (encodes message held)
          simp only [held]
          refine ⟨content, made, ?_⟩
          rw [own]
          apply valid_lengthFits
          rwa [show statusMessage (.statusUpdate update) = some message from held] at valid

theorem succeeds_insertStreamEventMessage {event : StreamMessageEvent} {ids : EventIds}
    (states : reportsState event.event)
    (valid : Valid .messageId ((statusMessage event.event).map Message.messageId))
    (encodes : ∀ message, statusMessage event.event = some message →
      (codec.messageToValue message).isSome = true)
    (numbered : event.sequence.toNat + 1 < 2 ^ 63) (ready : Ready reserved (budget + 2) world)
    (agentStored : world.store.hasAgent (some agent.aliasName) = true)
    (contextStored : world.store.hasContext ids.contextId = true)
    (taskStored : world.store.hasTask ids.taskId = true) :
    Effect.Succeeds (Stream.insertStreamEventMessage codec agent event ids base) world
      fun _ after => Advanced reserved budget world after := by
  obtain ⟨content, made, fits⟩ := streamContent_valid states valid encodes
  obtain ⟨metadata, marked⟩ := streamMetadata_returns event base
  have small : (event.sequence + 1).toNat < 2 ^ 63 := by
    rw [UInt64.toNat_add]
    exact lt_of_le_of_lt (Nat.mod_le _ _) numbered
  apply Effect.succeeds_lift_bind made
  apply Effect.succeeds_bind
  apply Effect.succeeds_mono (succeeds_newLocalMessageId ready)
  rintro messageId middle ⟨drawn, _, same⟩
  apply Effect.succeeds_lift_bind marked
  rw [← same] at agentStored contextStored taskStored
  -- the row stands under the id just drawn
  have decides := decides_insertMessage { MessageInsert.new messageId .streamEvent content.contentJson with
      agentAlias := some agent.aliasName
      contextId := ids.contextId
      taskId := ids.taskId
      role := some content.role
      ordinal := event.sequence + 1
      protocolMessageId := content.protocolMessageId
      metadata := metadata } drawn.reserve (message_checked fits small) agentStored contextStored
    taskStored List.mem_cons_self
  have unstored := (unstored_iff middle.store.messages messageId).mpr drawn.message
  apply Effect.succeeds_mono (decides.returns_iff.mpr unstored)
  rintro row after ⟨advanced, _, _⟩
  exact ⟨advanced.ready.reserve fun text member => List.mem_cons_of_mem _ member,
    same ▸ advanced.extends_⟩

-- What the run over the payload of one event does to the artifacts.
structure EventStored (reserved : List String) (budget : Nat) (event : StreamResponse)
    (world after : World) : Prop where
  advanced : Advanced reserved budget world after
  counted : ∀ id, storedVersion after.store.artifacts id =
    storedVersion world.store.artifacts id + occurrences (eventArtifacts event) id

theorem decides_streamRemoteTask {task : RemoteTask} {streamMessageId : Option MessageId}
    (version : opaqueReason parameters.protocolVersion = none)
    (ready : Ready reserved (budget + (payload task.toTask).length + 3) world)
    (agentStored : world.store.hasAgent (some agent.aliasName) = true)
    (valid : ValidEvent (.task task))
    (artifactIds : ∀ artifact ∈ payload task.toTask,
      IdKind.artifactId.reason artifact.artifactId = none)
    (encodes : (codec.taskToValue task).isSome = true)
    (artifacts : ∀ artifact ∈ payload task.toTask, (codec.toValue artifact).isSome = true) :
    Effect.Decides (Stream.upsertRemoteTask codec agent task streamMessageId parameters) world
      (PayloadStorable (payload task.toTask) world.store.artifacts) fun _ after =>
        EventStored reserved budget (.task task) world after := by
  obtain ⟨taskId, taskOf⟩ := new_valid valid.task
  obtain ⟨contextId, contextOf⟩ := new_valid valid.context
  obtain ⟨value, encoded⟩ := Option.isSome_iff_exists.mp encodes
  apply Effect.lift_decides_bind taskOf
  apply Effect.lift_decides_bind contextOf
  apply Effect.succeeds_decides_bind
  apply Effect.succeeds_mono (succeeds_kept Store.artifacts
    (Frames.keeps_ensureContext (fun _ _ => rfl) agent contextId)
    (succeeds_ensureContext contextId ready agentStored))
  rintro _ first ⟨⟨ensured, contextStored⟩, keptFirst⟩
  apply Effect.succeeds_decides_bind
  apply Effect.succeeds_mono (succeeds_mergedTaskUpsert taskId contextId _ _ version ensured.ready)
  rintro merged second ⟨left, same, named, owned, within⟩
  apply Effect.lift_decides_bind (show encode (codec.taskToValue task) _ = .ok value by
    rw [encoded]; rfl)
  have agentSecond : second.store.hasAgent (some merged.agentAlias) = true := by
    rw [same, owned]
    exact ensured.extends_.hasAgent agentStored
  have contextSecond : second.store.hasContext merged.contextId = true := by
    rw [same, within]
    exact contextStored
  apply Effect.succeeds_decides_bind
  apply Effect.succeeds_mono (succeeds_kept Store.artifacts
    (Frames.keeps_upsertTask (fun _ _ => rfl) _)
    (succeeds_upsertTask { merged with remoteTaskJson := some value } left agentSecond contextSecond))
  rintro row third ⟨⟨wrote, taskStored⟩, keptThird⟩
  have table : third.store.artifacts = world.store.artifacts := by
    rw [keptThird, same, keptFirst]
  have grown : Extends world.store third.store := ensured.extends_.trans (same ▸ wrote.extends_)
  have contextThird : third.store.hasContext (some contextId) = true := by
    rw [← within]
    exact wrote.extends_.contexts _ contextSecond
  have taskThird : third.store.hasTask (some taskId) = true := by
    rw [← named]
    exact taskStored
  apply Effect.decides_succeeds_bind
  rw [← table]
  apply Effect.decides_mono (decides_persistTaskArtifacts taskOf contextOf artifactIds artifacts
    taskThird contextThird)
  rintro records last ⟨elsewhere, replaced, remaining⟩
  refine Effect.succeeds_pure ⟨⟨remaining _ _ wrote.ready, ?_⟩, ?_⟩
  · rw [elsewhere]
    exact ⟨grown.agents, grown.jobs, grown.contexts, grown.tasks⟩
  · rw [← table]
    exact replaced_counted replaced

theorem succeeds_appendStreamEvent {event : StreamMessageEvent} {ids : EventIds}
    (version : opaqueReason
      (((base.get "a2a.protocol_version").bind Json.asStr).getD "unknown") = none)
    (ready : Ready reserved (budget + 2) world)
    (agentStored : world.store.hasAgent (some agent.aliasName) = true)
    (contextStored : world.store.hasContext ids.contextId = true)
    (taskStored : world.store.hasTask ids.taskId = true) :
    Effect.Succeeds (Stream.appendStreamEvent agent event ids base) world
      fun _ after => Advanced reserved budget world after := by
  obtain ⟨metadata, marked⟩ := streamMetadata_returns event base
  apply Effect.succeeds_bind
  apply Effect.succeeds_mono (succeeds_newMessageId ready)
  rintro text middle ⟨drawn, same⟩
  have passes : IdKind.eventId.reason ("evt/stream/" ++ text) = none :=
    opaque_appended (by decide) drawn.generated
  apply Effect.succeeds_lift_bind (show Id.new .eventId s!"evt/stream/{text}" = _ from
    Id.new_valid passes)
  apply Effect.succeeds_lift_bind marked
  rw [← same] at agentStored contextStored taskStored
  refine Effect.succeeds_mono ((decides_appendVersioned drawn version rfl
    (event_checked cliSource_short (streamType_short event.event))
    ⟨agentStored, contextStored, rfl, rfl, rfl⟩).returns_iff.mpr taskStored) ?_
  intro row after advanced
  exact ⟨advanced.ready, same ▸ advanced.extends_⟩

theorem decides_persistTaskState {event : StreamResponse} {taskId : TaskId} {contextId : ContextId}
    {streamMessageId : Option MessageId} (states : reportsState event)
    (version : opaqueReason parameters.protocolVersion = none)
    (ready : Ready reserved (budget + (eventArtifacts event).length + 3) world)
    (agentStored : world.store.hasAgent (some agent.aliasName) = true)
    (contextStored : world.store.hasContext (some contextId) = true) (valid : ValidEvent event)
    (artifactIds : ∀ artifact ∈ eventArtifacts event,
      IdKind.artifactId.reason artifact.artifactId = none)
    (encodes : Encodes codec (streamedRemoteTask event))
    (artifacts : ∀ artifact ∈ eventArtifacts event, (codec.toValue artifact).isSome = true) :
    Effect.Decides (Stream.persistTaskStateForEvent codec agent event
        ⟨some taskId, some contextId⟩ streamMessageId parameters) world
      (PayloadStorable (eventArtifacts event) world.store.artifacts) fun _ after =>
        EventStored reserved budget event world after := by
  cases event with
  | message message => cases states
  | artifactUpdate update => cases states
  | task task =>
      exact decides_streamRemoteTask version ready agentStored valid artifactIds (encodes task rfl)
        artifacts
  | statusUpdate update =>
      have ready' : Ready reserved (budget + 2) world := ready.mono (by
        simp [eventArtifacts])
      refine Or.inl ⟨payloadStorable_nil _, ?_⟩
      apply Effect.succeeds_mono (succeeds_ensureTaskFromParts taskId contextId
        (storeTaskState update.status.state) streamMessageId version ready' agentStored contextStored)
      rintro _ after ⟨advanced, _, kept⟩
      refine ⟨advanced, ?_⟩
      intro id
      rw [kept]
      rfl

/-- What the command line needs of an event that reports a state. -/
structure Streamable (codec : Codec) (event : StreamMessageEvent) : Prop where
  states : reportsState event.event
  valid : ValidEvent event.event
  artifactIds : ∀ artifact ∈ eventArtifacts event.event,
    IdKind.artifactId.reason artifact.artifactId = none
  numbered : event.sequence.toNat + 1 < 2 ^ 63
  encodesTask : Encodes codec (streamedRemoteTask event.event)
  encodesStatus : ∀ message, statusMessage event.event = some message →
    (codec.messageToValue message).isSome = true
  encodesArtifacts : ∀ artifact ∈ eventArtifacts event.event, (codec.toValue artifact).isSome = true

theorem eventIds_states {event : StreamResponse} (states : reportsState event)
    (valid : ValidEvent event) :
    ∃ taskId contextId, eventIds event = .ok ⟨some taskId, some contextId⟩ := by
  obtain ⟨ids, parsed⟩ := eventIds_valid valid
  cases event with
  | message message => cases states
  | artifactUpdate update => cases states
  | task task =>
      obtain ⟨taskId, contextId, rfl⟩ := requiredIds_some parsed
      exact ⟨taskId, contextId, parsed⟩
  | statusUpdate update =>
      obtain ⟨taskId, contextId, rfl⟩ := requiredIds_some parsed
      exact ⟨taskId, contextId, parsed⟩

theorem decides_persistStreamEvent {event : StreamMessageEvent} (streamable : Streamable codec event)
    (version : opaqueReason parameters.protocolVersion = none)
    (based : opaqueReason
      (((base.get "a2a.protocol_version").bind Json.asStr).getD "unknown") = none)
    (ready : Ready reserved
      (budget + 2 + (eventArtifacts event.event).length + 3 + 2 + 2 + 1) world)
    (agentStored : world.store.hasAgent (some agent.aliasName) = true) :
    Effect.Decides (Stream.persistStreamEvent codec agent event base parameters) world
      (PayloadStorable (eventArtifacts event.event) world.store.artifacts) fun _ after =>
        EventStored reserved budget event.event world after := by
  obtain ⟨taskId, contextId, parsed⟩ := eventIds_states streamable.states streamable.valid
  apply Effect.decides_transaction
  apply Effect.lift_decides_bind parsed
  apply Effect.succeeds_decides_bind
  apply Effect.succeeds_mono (succeeds_kept Store.artifacts
    (Frames.keeps_ensureOptionalContext (fun _ _ => rfl) agent _)
    (succeeds_ensureOptionalContext (some contextId) ready agentStored))
  rintro _ first ⟨⟨ensured, contextStored⟩, keptFirst⟩
  have agentFirst := ensured.extends_.hasAgent agentStored
  apply Effect.succeeds_decides_bind
  apply Effect.succeeds_mono (succeeds_placeholder taskId contextId version ensured.ready agentFirst
    contextStored)
  rintro _ second ⟨placed, taskStored, keptSecond⟩
  have agentSecond := placed.extends_.hasAgent agentFirst
  have contextSecond := placed.extends_.contexts _ contextStored
  apply Effect.succeeds_decides_bind
  apply Effect.succeeds_mono (succeeds_kept Store.artifacts
    (keeps_insertStreamEventMessage (fun _ _ => rfl) event _ base)
    (succeeds_insertStreamEventMessage streamable.states streamable.valid.status
      streamable.encodesStatus streamable.numbered placed.ready agentSecond contextSecond taskStored))
  rintro message third ⟨inserted, keptThird⟩
  have agentThird := inserted.extends_.hasAgent agentSecond
  have contextThird := inserted.extends_.contexts _ contextSecond
  have taskThird := inserted.extends_.tasks _ taskStored
  have table : third.store.artifacts = world.store.artifacts := by
    rw [keptThird, keptSecond, keptFirst]
  rw [← table]
  apply Effect.decides_succeeds_bind
  apply Effect.decides_mono (decides_persistTaskState streamable.states version inserted.ready
    agentThird contextThird streamable.valid streamable.artifactIds streamable.encodesTask
    streamable.encodesArtifacts)
  rintro _ fourth ⟨reported, counted⟩
  apply Effect.succeeds_bind
  apply Effect.succeeds_mono (succeeds_kept Store.artifacts
    (keeps_appendStreamEvent (fun _ _ _ => rfl) event _ base)
    (succeeds_appendStreamEvent based reported.ready (reported.extends_.hasAgent agentThird)
      (reported.extends_.contexts _ contextThird) (reported.extends_.tasks _ taskThird)))
  rintro journal last ⟨journaled, keptLast⟩
  refine Effect.succeeds_pure
    ⟨(((ensured.trans placed).trans inserted).trans reported).trans journaled, ?_⟩
  intro id
  rw [keptLast, counted id, table]

def streamReplay (codec : Codec) (agent : AgentRecord) (base : Metadata)
    (parameters : ServiceParameters) : List StreamMessageEvent → Action Unit
  | [] => pure ()
  | event :: rest => do
      let _ ← Stream.persistStreamEvent codec agent event base parameters
      streamReplay codec agent base parameters rest

def streamDraws : List StreamMessageEvent → Nat
  | [] => 0
  | event :: rest => streamDraws rest + 2 + (eventArtifacts event.event).length + 3 + 2 + 2 + 1

def replayArtifacts (events : List StreamMessageEvent) : List Artifact :=
  events.flatMap fun event => eventArtifacts event.event

/-- The tasks after a replay are as the reports leave them. -/
def Replayed (codec : Codec) (agent : AgentAlias) (events : List StreamMessageEvent)
    (before after : Store) : Prop :=
  ∀ taskId, reportIn after taskId = replay codec agent taskId events (reportIn before taskId)

/-- The command line replays a stream exactly when it can store the artifacts on it. -/
theorem decides_streamReplay (events : List StreamMessageEvent)
    (streamable : ∀ event ∈ events, Streamable codec event)
    (version : opaqueReason parameters.protocolVersion = none)
    (based : opaqueReason
      (((base.get "a2a.protocol_version").bind Json.asStr).getD "unknown") = none)
    (ready : Ready [] (streamDraws events) world)
    (agentStored : world.store.hasAgent (some agent.aliasName) = true) :
    Effect.Decides (streamReplay codec agent base parameters events) world
      (PayloadStorable (replayArtifacts events) world.store.artifacts) fun _ after =>
        Replayed codec agent.aliasName events world.store after.store := by
  induction events generalizing world with
  | nil => exact Or.inl ⟨payloadStorable_nil _, (), world, rfl, fun _ => rfl⟩
  | cons event rest ih =>
      have here := streamable event List.mem_cons_self
      rcases Effect.decides_ran (decides_persistStreamEvent here version based ready agentStored) with
        ⟨storable, persisted, middle, began, stored, ran⟩ | ⟨stuck, error, after, failed⟩
      · obtain ⟨write, parsed, applied⟩ := streamEvent_applied ran
        have step := applied_replayOne (streamWrite_reports here.states parsed) applied
        apply Effect.decides_congr (payloadStorable_append stored.counted)
        refine Effect.decides_bind (Or.inl ⟨storable, persisted, middle, began, ?_⟩)
        apply Effect.decides_mono (ih
          (fun event member => streamable event (List.mem_cons_of_mem _ member))
          stored.advanced.ready (stored.advanced.extends_.hasAgent agentStored))
        intro _ after replayed taskId
        rw [replayed taskId, step taskId]
        rfl
      · refine Or.inr ⟨fun all => stuck (payloadStorable_left all), error, after, ?_⟩
        exact Effect.bind_error _ _ _ _ _ failed

end Stream

/-! Background jobs. -/

section Jobs

variable {codec : Codec} {config : JobManagerConfig} {job : GatewayJobRecord} {agent : AgentRecord}
  {world : World}

theorem states_mentions_none {event : StreamResponse} (states : reportsState event) :
    mentionedByEvent event = none := by
  cases event with
  | message message => cases states
  | artifactUpdate update => cases states
  | task task => rfl
  | statusUpdate update => rfl

theorem succeeds_jobReplay (events : List StreamMessageEvent)
    (streamable : ∀ event ∈ events, Streamable codec event)
    (ready : Ready [] (6 * events.length) world)
    (runnable : Runnable config job agent world.store) :
    Effect.Succeeds (persistStream codec config job agent events) world fun _ after =>
      Replayed codec agent.aliasName events world.store after.store := by
  induction events generalizing world with
  | nil => exact ⟨(), world, rfl, fun _ => rfl⟩
  | cons event rest ih =>
      have here := streamable event List.mem_cons_self
      have ready' : Ready [] (6 * rest.length + 6) world := ready
      have decides := decides_persistStreamJobEvent ready' runnable here.valid here.encodesTask
      have known : ∀ text, mentionedByEvent event.event = some text → StoredTask world.store text := by
        rw [states_mentions_none here.states]
        intro text named
        cases named
      apply Effect.succeeds_bind
      apply Effect.succeeds_mono (Effect.succeeds_ran (decides.returns_iff.mpr known))
      rintro ids middle ⟨advanced, ran⟩
      obtain ⟨write, parsed, applied⟩ := jobStream_applied ran
      have step := applied_replayOne (jobWrite_reports here.states parsed) applied
      apply Effect.succeeds_mono (ih
        (fun event member => streamable event (List.mem_cons_of_mem _ member)) advanced.ready
        (runnable.extends_ advanced.extends_))
      intro _ after replayed taskId
      rw [replayed taskId, step taskId]
      rfl

end Jobs

/-! Subscriptions. -/

section Subscriptions

variable {codec : Codec} {config : Subscription.SubscriptionManagerConfig}
  {candidate : Subscription.SubscriptionCandidate} {reserved : List String} {budget : Nat}
  {world : World}

/-- The rows a subscription works with are stored, and its settings are valid. -/
structure Subscribed (config : Subscription.SubscriptionManagerConfig)
    (candidate : Subscription.SubscriptionCandidate) (store : Store) : Prop where
  version : opaqueReason config.serviceParameters.protocolVersion = none
  agentStored : store.hasAgent (some candidate.agent.aliasName) = true
  jobStored : store.hasGatewayJob (some candidate.job.gatewayJobId) = true

theorem Subscribed.extends_ {before after : Store} (subscribed : Subscribed config candidate before)
    (grown : Extends before after) : Subscribed config candidate after :=
  ⟨subscribed.version, grown.hasAgent subscribed.agentStored,
    grown.hasGatewayJob subscribed.jobStored⟩

theorem subscriptionMetadata_returns (event : StreamMessageEvent) :
    ∃ metadata, Subscription.subscriptionEventMetadata config event = .ok metadata := by
  obtain ⟨service, served⟩ := toMetadata_returns config.serviceParameters
  obtain ⟨profiled, first⟩ := insert_returns service "gateway.subscription.profile"
    (.string config.profile) (by decide)
  obtain ⟨typed, second⟩ := insert_returns profiled "gateway.subscription.event_type"
    (.string (eventTypeName event.event)) (by decide)
  obtain ⟨numbered, third⟩ := insert_returns typed "gateway.subscription.sequence"
    (.nat event.sequence.toNat) (by decide)
  obtain ⟨metadata, last⟩ := insertSome_returns numbered "gateway.subscription.sse_event"
    (event.sseEventType.map .string) (by decide)
  refine ⟨metadata, ?_⟩
  unfold Subscription.subscriptionEventMetadata insertStr
  rw [served]
  simp only [Bind.bind, Except.bind]
  rw [first]
  simp only
  rw [second]
  simp only
  rw [third]
  exact last

theorem succeeds_reportedCompletion (state : Option TaskState) (otherwise : Option MissiveTimestamp)
    (ready : Ready reserved (budget + 1) world) :
    Effect.Succeeds (Subscription.reportedCompletion state otherwise) world fun _ after =>
      Ready reserved budget after ∧ after.store = world.store := by
  cases state with
  | none => exact ⟨_, world, rfl, ready.mono (by omega), rfl⟩
  | some state => exact succeeds_completedAtFor state otherwise ready

theorem reportedJson_valid {event : StreamResponse} (otherwise : Option Json)
    (encodes : Encodes codec (streamedRemoteTask event)) :
    ∃ value, Subscription.reportedJson codec event otherwise = .ok value := by
  cases event with
  | task task =>
      obtain ⟨value, encoded⟩ := Option.isSome_iff_exists.mp (encodes task rfl)
      refine ⟨some value, ?_⟩
      show (encode (codec.taskToValue task) "encoding subscribed task update for persistence" >>=
        fun value => .ok (some value)) = _
      rw [encoded]
      rfl
  | message message => exact ⟨_, rfl⟩
  | statusUpdate update => exact ⟨_, rfl⟩
  | artifactUpdate update => exact ⟨_, rfl⟩

theorem succeeds_recordSubscribedTask {event : StreamResponse} {taskId : TaskId}
    {contextId : ContextId} (ready : Ready reserved (budget + 2) world)
    (subscribed : Subscribed config candidate world.store)
    (contextStored : world.store.hasContext (some contextId) = true)
    (encodes : Encodes codec (streamedRemoteTask event)) :
    Effect.Succeeds (Subscription.recordSubscribedTask codec config candidate.agent event
      ⟨some taskId, some contextId⟩) world fun _ after => Advanced reserved budget world after ∧
        after.store.hasTask (some taskId) = true := by
  apply succeeds_read rfl
  apply Effect.succeeds_bind
  apply Effect.succeeds_mono (succeeds_reportedCompletion _ _ ready)
  rintro completedAt middle ⟨left, same⟩
  obtain ⟨value, encoded⟩ := reportedJson_valid
    (taskBase (world.store.tasks.find? taskId) taskId candidate.agent).remoteTaskJson encodes
  apply Effect.succeeds_lift_bind encoded
  apply Effect.succeeds_lift_bind (taskVersion_valid _ subscribed.version)
  apply Effect.succeeds_bind
  have agentStored := subscribed.agentStored
  rw [← same] at agentStored contextStored
  refine Effect.succeeds_mono (succeeds_upsertTask _ left agentStored contextStored) ?_
  rintro row after ⟨wrote, stored⟩
  change after.store.hasTask (some (taskBase _ _ _).taskId) = true at stored
  rw [taskBase_taskId] at stored
  exact Effect.succeeds_pure ⟨⟨wrote.ready, same ▸ wrote.extends_⟩, stored⟩

theorem subscriptionStart_plain (event : StreamResponse) :
    plainStart ("evt/subscription/" ++ String.ofList ((eventTypeName event).toList.map fun c =>
      if c = '_' then '-' else c) ++ "/") = true := by
  have each : ∀ name ∈ ["task", "message", "status_update", "artifact_update"],
      plainStart ("evt/subscription/" ++ String.ofList (name.toList.map fun c =>
        if c = '_' then '-' else c) ++ "/") = true := by decide
  exact each _ (eventTypeName_mem event)

theorem subscriptionType_short (event : StreamResponse) :
    (!(s!"a2a.subscription.{eventTypeName event}").isEmpty &&
      (s!"a2a.subscription.{eventTypeName event}").utf8ByteSize ≤ 128) = true := by
  have each : ∀ name ∈ ["task", "message", "status_update", "artifact_update"],
      (!(s!"a2a.subscription.{name}").isEmpty && (s!"a2a.subscription.{name}").utf8ByteSize ≤ 128) =
        true := by decide
  exact each _ (eventTypeName_mem event)

theorem subscriptionsSource_short :
    (!"gateway:subscriptions".isEmpty && "gateway:subscriptions".utf8ByteSize ≤ 128) = true := by
  decide

theorem succeeds_appendSubscriptionEvent {event : StreamMessageEvent} {details : EventIds}
    (ready : Ready reserved (budget + 2) world)
    (subscribed : Subscribed config candidate world.store)
    (contextStored : world.store.hasContext details.contextId = true)
    (taskStored : world.store.hasTask details.taskId = true) :
    Effect.Succeeds (Subscription.appendSubscriptionEvent config candidate event details) world
      fun _ after => Advanced reserved budget world after := by
  obtain ⟨metadata, made⟩ := subscriptionMetadata_returns event
  apply Effect.succeeds_bind
  apply Effect.succeeds_mono (succeeds_eventId (subscriptionStart_plain event.event) (fun _ => rfl)
    ready)
  rintro eventId middle ⟨⟨text, drawn, named⟩, same⟩
  apply Effect.succeeds_lift_bind made
  apply Effect.succeeds_bind
  rw [← same] at subscribed contextStored taskStored
  refine Effect.succeeds_mono ((decides_appendVersioned drawn subscribed.version named
    (event_checked subscriptionsSource_short (subscriptionType_short event.event))
    ⟨subscribed.agentStored, contextStored, subscribed.jobStored, rfl, rfl⟩).returns_iff.mpr
      taskStored) ?_
  intro row after advanced
  exact Effect.succeeds_pure ⟨advanced.ready, same ▸ advanced.extends_⟩

theorem succeeds_persistSubscriptionEvent {event : StreamMessageEvent}
    (states : reportsState event.event) (valid : ValidEvent event.event)
    (encodes : Encodes codec (streamedRemoteTask event.event))
    (ready : Ready reserved (budget + 2 + 2 + 1) world)
    (subscribed : Subscribed config candidate world.store) :
    Effect.Succeeds (Subscription.persistSubscriptionStreamEvent codec config candidate event) world
      fun _ after => Advanced reserved budget world after := by
  obtain ⟨taskId, contextId, parsed⟩ := eventIds_states states valid
  apply Effect.succeeds_transaction
  apply Effect.succeeds_lift_bind parsed
  apply Effect.succeeds_bind
  apply Effect.succeeds_mono
    (succeeds_ensureOptionalContext (some contextId) ready subscribed.agentStored)
  rintro _ first ⟨ensured, contextStored⟩
  have still := subscribed.extends_ ensured.extends_
  apply Effect.succeeds_bind
  apply Effect.succeeds_mono
    (succeeds_recordSubscribedTask ensured.ready still contextStored encodes)
  rintro _ second ⟨recorded, taskStored⟩
  apply Effect.succeeds_bind
  apply Effect.succeeds_mono (succeeds_appendSubscriptionEvent recorded.ready
    (still.extends_ recorded.extends_) (recorded.extends_.contexts _ contextStored) taskStored)
  rintro _ last journaled
  exact Effect.succeeds_pure ((ensured.trans recorded).trans journaled)

def subscriptionReplay (codec : Codec) (config : Subscription.SubscriptionManagerConfig)
    (candidate : Subscription.SubscriptionCandidate) : List StreamMessageEvent → Action Unit
  | [] => pure ()
  | event :: rest => do
      let _ ← Subscription.persistSubscriptionStreamEvent codec config candidate event
      subscriptionReplay codec config candidate rest

theorem succeeds_subscriptionReplay (events : List StreamMessageEvent)
    (streamable : ∀ event ∈ events, Streamable codec event)
    (ready : Ready [] (5 * events.length) world)
    (subscribed : Subscribed config candidate world.store) :
    Effect.Succeeds (subscriptionReplay codec config candidate events) world fun _ after =>
      Replayed codec candidate.agent.aliasName events world.store after.store := by
  induction events generalizing world with
  | nil => exact ⟨(), world, rfl, fun _ => rfl⟩
  | cons event rest ih =>
      have here := streamable event List.mem_cons_self
      have ready' : Ready [] (5 * rest.length + 2 + 2 + 1) world := ready
      apply Effect.succeeds_bind
      apply Effect.succeeds_mono (Effect.succeeds_ran (succeeds_persistSubscriptionEvent here.states
        here.valid here.encodesTask ready' subscribed))
      rintro ended middle ⟨advanced, ran⟩
      obtain ⟨write, parsed, applied⟩ := subscription_applied ran
      have step := applied_replayOne (subscriptionWrite_reports here.states parsed) applied
      apply Effect.succeeds_mono (ih
        (fun event member => streamable event (List.mem_cons_of_mem _ member)) advanced.ready
        (subscribed.extends_ advanced.extends_))
      intro _ after replayed taskId
      rw [replayed taskId, step taskId]
      rfl

end Subscriptions

/-! Agreement. -/

theorem streamDraws_enough (events : List StreamMessageEvent) :
    10 * events.length ≤ streamDraws events := by
  induction events with
  | nil => exact Nat.le_refl 0
  | cons event rest ih =>
      rw [List.length_cons, streamDraws]
      omega

-- A task that some event reports has a report after the replay.
theorem replay_isSome {codec : Codec} {agent : AgentAlias} {taskId : TaskId}
    {events : List StreamMessageEvent} {before : Option Report}
    (named : before.isSome = true ∨ ∃ event ∈ events, ∃ contextId,
      eventIds event.event = .ok ⟨some taskId, contextId⟩ ∧ reportsState event.event) :
    (replay codec agent taskId events before).isSome = true := by
  induction events generalizing before with
  | nil =>
      rcases named with known | ⟨event, member, _⟩
      · exact known
      · cases member
  | cons event rest ih =>
      apply ih
      rcases named with known | ⟨other, member, contextId, parsed, states⟩
      · left
        unfold replayOne
        split
        · split
          · cases event.event <;> first | rfl | exact known
          · exact known
        · exact known
      · rcases List.mem_cons.mp member with rfl | later
        · left
          rw [replayOne, parsed]
          simp only [if_true]
          cases shown : other.event with
          | task task => rfl
          | statusUpdate update => rfl
          | message message =>
              rw [shown] at states
              cases states
          | artifactUpdate update =>
              rw [shown] at states
              cases states
        · exact Or.inr ⟨other, later, contextId, parsed, states⟩

theorem reportedTask_replayed {codec : Codec} {events : List StreamMessageEvent}
    {event : StreamMessageEvent} {taskId : TaskId}
    (streamable : ∀ event ∈ events, Streamable codec event) (member : event ∈ events)
    (named : reportedTask event.event = some taskId.text) :
    ∃ event ∈ events, ∃ contextId,
      eventIds event.event = .ok ⟨some taskId, contextId⟩ ∧ reportsState event.event := by
  have here := streamable event member
  obtain ⟨own, contextId, parsed⟩ := eventIds_states here.states here.valid
  have text := eventIds_task parsed
  have known : namedTask event.event = some taskId.text := by
    cases shown : event.event with
    | task task =>
        rw [shown] at named
        exact named
    | statusUpdate update =>
        rw [shown] at named
        exact named
    | message message =>
        rw [shown] at named
        cases named
    | artifactUpdate update =>
        rw [shown] at named
        cases named
  have own_eq : own = taskId := Id.ext_text (Option.some.inj (text.symm.trans known))
  rw [own_eq] at parsed
  exact ⟨event, member, some contextId, parsed, here.states⟩

/-- A background job and a subscription take every stream of reports and agree on it; the command
line takes the streams whose artifacts it can store, and agrees on these. -/
theorem stream_paths_agree (codec : Codec) {agent : AgentRecord} (base : Metadata)
    {parameters : ServiceParameters} {jobs : JobManagerConfig} {job : GatewayJobRecord}
    {subscriptions : Subscription.SubscriptionManagerConfig}
    {candidate : Subscription.SubscriptionCandidate} {events : List StreamMessageEvent}
    {world : World} (streamable : ∀ event ∈ events, Streamable codec event)
    (version : opaqueReason parameters.protocolVersion = none)
    (based : opaqueReason
      (((base.get "a2a.protocol_version").bind Json.asStr).getD "unknown") = none)
    (ready : Ready [] (streamDraws events) world)
    (runnable : Runnable jobs job agent world.store)
    (subscribed : Subscribed subscriptions candidate world.store)
    (same : candidate.agent = agent) :
    (∃ jobbed watched,
      persistStream codec jobs job agent events world = (.ok (), jobbed) ∧
      subscriptionReplay codec subscriptions candidate events world = (.ok (), watched) ∧
      (∀ taskId, reportIn watched.store taskId = reportIn jobbed.store taskId) ∧
      (∀ taskId, (∃ event ∈ events, reportedTask event.event = some taskId.text) →
        (reportIn jobbed.store taskId).isSome = true) ∧
      ∀ streamed, streamReplay codec agent base parameters events world = (.ok (), streamed) →
        ∀ taskId, reportIn streamed.store taskId = reportIn jobbed.store taskId) ∧
    ((∃ streamed, streamReplay codec agent base parameters events world = (.ok (), streamed)) ↔
      PayloadStorable (replayArtifacts events) world.store.artifacts) := by
  have enough := streamDraws_enough events
  have decides := decides_streamReplay events streamable version based ready runnable.agentStored
  obtain ⟨_, jobbed, ranJob, byJob⟩ :=
    succeeds_jobReplay events streamable (ready.mono (by omega)) runnable
  obtain ⟨_, watched, ranWatch, byWatch⟩ :=
    succeeds_subscriptionReplay events streamable (ready.mono (by omega)) subscribed
  rw [same] at byWatch
  refine ⟨⟨jobbed, watched, ranJob, ranWatch, ?_, ?_, ?_⟩, ?_⟩
  · exact fun taskId => (byWatch taskId).trans (byJob taskId).symm
  · rintro taskId ⟨event, member, named⟩
    rw [byJob taskId]
    exact replay_isSome (Or.inr (reportedTask_replayed streamable member named))
  · intro streamed ran taskId
    have byStream := (Effect.decides_returned decides ran).2
    exact (byStream taskId).trans (byJob taskId).symm
  · constructor
    · rintro ⟨streamed, ran⟩
      exact (Effect.decides_returned decides ran).1
    · intro storable
      obtain ⟨_, streamed, ran, _⟩ := decides.returns_iff.mpr storable
      exact ⟨streamed, ran⟩

/-! A task that is reported and then finished, watched on all paths. -/

def watchedTask : TaskUpsert := .new firstTask echoAgent .working

def subscriptionJob : GatewayJobUpsert :=
  { GatewayJobUpsert.new ⟨"job-2", by decide⟩ "task_subscription" .null with
    agentAlias := some echoAgent
    taskId := some firstTask }

def seedSubscription : Action Unit := do
  seedJob "stream"
  let _ ← upsertTask watchedTask
  let _ ← upsertGatewayJob subscriptionJob
  pure ()

def watchedWorld : World := (seedSubscription countingWorld).2

def subscriptionsConfig : Subscription.SubscriptionManagerConfig := ⟨"default", plainParameters⟩

def watchedCandidate : Subscription.SubscriptionCandidate :=
  ⟨echoRecord, watchedTask.toRecord ⟨0⟩ none, subscriptionJob.toRecord ⟨0⟩ none,
    ⟨"HTTP+JSON", "HTTP+JSON", "http://127.0.0.1", none, "1.0", .agentCard⟩⟩

def artifactsTask (artifacts : Option (List Artifact)) : RemoteTask :=
  { plainTask firstTask .working with artifacts := artifacts }

def finishedStream : List StreamMessageEvent :=
  [taskEvent (artifactsTask none), TaskCompletion.statusEvent firstTask .completed]

theorem watchedWorld_ready : Ready [] 20 watchedWorld :=
  ready_counting rfl (by decide) rfl rfl nofun

theorem watchedWorld_runnable : Runnable jobsConfig (jobRecord "stream") echoRecord watchedWorld.store :=
  ⟨by decide, by decide, by decide⟩

theorem watchedWorld_subscribed : Subscribed subscriptionsConfig watchedCandidate watchedWorld.store :=
  ⟨by decide, by decide, by decide⟩

theorem taskEvent_streamable {artifacts : Option (List Artifact)}
    (identified : ∀ artifact ∈ artifacts.getD [], IdKind.artifactId.reason artifact.artifactId = none)
    (encodes : ∀ artifact ∈ artifacts.getD [], (plainCodec.toValue artifact).isSome = true)
    (encodesTask : (plainCodec.taskToValue (artifactsTask artifacts)).isSome = true) :
    Streamable plainCodec (taskEvent (artifactsTask artifacts)) := by
  constructor
  · exact rfl
  · refine ⟨?_, ?_, ?_⟩
    · intro text same
      cases same
      exact firstTask.valid
    · intro text same
      cases same
      exact sharedContext.valid
    · intro text same
      cases same
  · exact identified
  · change 0 + 1 < 2 ^ 63
    decide
  · intro task same
    cases same
    exact encodesTask
  · intro message same
    cases same
  · exact encodes

theorem statusEvent_streamable (state : ProtocolTaskState) :
    Streamable plainCodec (TaskCompletion.statusEvent firstTask state) := by
  constructor
  · exact rfl
  · refine ⟨?_, ?_, ?_⟩
    · intro text same
      cases same
      exact firstTask.valid
    · intro text same
      cases same
      exact sharedContext.valid
    · intro text same
      cases same
  · intro artifact member
    cases member
  · change 0 + 1 < 2 ^ 63
    decide
  · intro task same
    cases same
  · intro message same
    cases same
  · intro artifact member
    cases member

theorem finishedStream_streamable : ∀ event ∈ finishedStream, Streamable plainCodec event := by
  intro event member
  rcases List.mem_cons.mp member with rfl | later
  · apply taskEvent_streamable
    · intro artifact member
      cases member
    · intro artifact member
      cases member
    · rfl
  · cases List.mem_singleton.mp later
    exact statusEvent_streamable .completed

theorem finished_stream_agrees :
    ∃ streamed jobbed watched,
      streamReplay plainCodec echoRecord .new plainParameters finishedStream watchedWorld =
        (.ok (), streamed) ∧
      persistStream plainCodec jobsConfig (jobRecord "stream") echoRecord finishedStream
        watchedWorld = (.ok (), jobbed) ∧
      subscriptionReplay plainCodec subscriptionsConfig watchedCandidate finishedStream
        watchedWorld = (.ok (), watched) ∧
      reportIn streamed.store firstTask = reportIn jobbed.store firstTask ∧
      reportIn watched.store firstTask = reportIn jobbed.store firstTask := by
  obtain ⟨⟨jobbed, watched, byJob, bySubscription, alike, _, also⟩, takes⟩ :=
    stream_paths_agree plainCodec .new finishedStream_streamable plainVersion_valid
      (by decide) watchedWorld_ready watchedWorld_runnable watchedWorld_subscribed rfl
  obtain ⟨streamed, byStream⟩ := takes.mpr (payloadStorable_nil _)
  exact ⟨streamed, jobbed, watched, byStream, byJob, bySubscription,
    also streamed byStream firstTask, alike firstTask⟩

/-! An artifact without a name is not a row of the store, and the command line does not take the
task that holds it. -/

def unnamedArtifact : Artifact := ⟨"artifact-1", some "", none, [], none, none⟩

def unnamedEvent : StreamMessageEvent := taskEvent (artifactsTask (some [unnamedArtifact]))

theorem unnamed_artifact_diverges :
    Streamable plainCodec unnamedEvent ∧
    Ready [] (streamDraws [unnamedEvent]) watchedWorld ∧
    Runnable jobsConfig (jobRecord "stream") echoRecord watchedWorld.store ∧
    Subscribed subscriptionsConfig watchedCandidate watchedWorld.store ∧
    (streamReplay plainCodec echoRecord .new plainParameters [unnamedEvent] watchedWorld).1.isOk =
      false ∧
    ¬ (reportIn (streamReplay plainCodec echoRecord .new plainParameters [unnamedEvent]
        watchedWorld).2.store firstTask =
      reportIn (persistStream plainCodec jobsConfig (jobRecord "stream") echoRecord [unnamedEvent]
        watchedWorld).2.store firstTask) := by
  have streamable : Streamable plainCodec unnamedEvent := by
    apply taskEvent_streamable
    · intro artifact member
      cases List.mem_singleton.mp member
      decide
    · intro artifact member
      cases List.mem_singleton.mp member
      rfl
    · rfl
  refine ⟨streamable, watchedWorld_ready.mono (by decide), watchedWorld_runnable,
    watchedWorld_subscribed, by decide +kernel, ?_⟩
  intro same
  have contexts := congrArg (fun report => report.bind Report.contextId) same
  revert contexts
  decide +kernel

end Missive.StreamAgreement
