import Missive.ContextLinks
import Missive.Totality

/-! Persisting what a background `send` or `stream` brought back. The event of the
exchange refers to the task it names, but only a `Task` and a `StatusUpdate` see
to it that the task is there. -/
namespace Missive.JobPersistence

open JsonValue KeyedTable Missive.Core Schema Effects Repository Artifacts BackgroundJobs Protocol
open GatewayPersistence TaskReports TaskIsolation Totality JobWorkers

section Jobs

variable {codec : Codec} {config : JobManagerConfig} {job : GatewayJobRecord} {agent : AgentRecord}
  {reserved : List String} {budget : Nat} {world : World}

/-- The rows a background job works with are stored, and its settings are valid. -/
structure Runnable (config : JobManagerConfig) (job : GatewayJobRecord) (agent : AgentRecord)
    (store : Store) : Prop where
  version : opaqueReason config.serviceParameters.protocolVersion = none
  agentStored : store.hasAgent (some agent.aliasName) = true
  jobStored : store.hasGatewayJob (some job.gatewayJobId) = true

theorem Runnable.extends_ {before after : Store} (runnable : Runnable config job agent before)
    (grown : Extends before after) : Runnable config job agent after :=
  ⟨runnable.version, grown.hasAgent runnable.agentStored, grown.hasGatewayJob runnable.jobStored⟩

-- Both task writes end in this: a time for the state, then the row.
theorem succeeds_stampedTask {upsert : TaskUpsert} {otherwise : Option MissiveTimestamp}
    (ready : Ready reserved (budget + 2) world)
    (agentStored : world.store.hasAgent (some upsert.agentAlias) = true)
    (contextStored : world.store.hasContext upsert.contextId = true) :
    Effect.Succeeds (completedAtFor upsert.state otherwise >>= fun completedAt =>
      upsertTask { upsert with completedAt := completedAt }) world fun _ after =>
        Advanced reserved budget world after ∧ after.store.hasTask (some upsert.taskId) = true := by
  apply Effect.succeeds_bind
  apply Effect.succeeds_mono (succeeds_completedAtFor _ _ ready)
  rintro completedAt middle ⟨ready, same⟩
  rw [← same] at agentStored contextStored
  apply Effect.succeeds_mono (succeeds_upsertTask { upsert with completedAt := completedAt } ready
    agentStored contextStored)
  rintro row last ⟨wrote, stored⟩
  exact ⟨⟨wrote.ready, same ▸ wrote.extends_⟩, stored⟩

theorem protocolUpsert_valid (agent : AgentRecord) (taskId : TaskId) (contextId : ContextId)
    {task : RemoteTask} {parameters : ServiceParameters} (version : opaqueReason parameters.protocolVersion = none)
    (status : Valid .messageId (task.status.message.map Message.messageId))
    (encodes : (codec.taskToValue task).isSome = true) :
    ∃ upsert, Jobs.protocolUpsert codec agent task taskId contextId parameters = .ok upsert ∧
      upsert.taskId = taskId ∧ upsert.agentAlias = agent.aliasName ∧
      upsert.contextId = some contextId := by
  obtain ⟨value, encoded⟩ := Option.isSome_iff_exists.mp encodes
  obtain ⟨messageId, parsed⟩ := parseOptional_valid status
  change statusMessageId task.status = _ at parsed
  unfold Jobs.protocolUpsert
  rw [encoded, parsed]
  exact ⟨_, taskVersion_valid _ version, rfl, rfl, rfl⟩

theorem succeeds_upsertTaskFromProtocol {task : RemoteTask} {parameters : ServiceParameters}
    (ready : Ready reserved (budget + 3) world) (version : opaqueReason parameters.protocolVersion = none)
    (agentStored : world.store.hasAgent (some agent.aliasName) = true)
    (valid : ValidEvent (.task task)) (encodes : (codec.taskToValue task).isSome = true) :
    Effect.Succeeds (Jobs.upsertTaskFromProtocol codec agent task parameters) world
      fun _ after => Advanced reserved budget world after ∧
        ∀ taskId : TaskId, taskId.text = task.id → after.store.hasTask (some taskId) = true := by
  obtain ⟨taskId, taskOf⟩ := new_valid valid.task
  obtain ⟨contextId, contextOf⟩ := new_valid valid.context
  apply Effect.succeeds_lift_bind taskOf
  apply Effect.succeeds_lift_bind contextOf
  apply Effect.succeeds_bind
  apply Effect.succeeds_mono (succeeds_ensureContext contextId ready agentStored)
  rintro _ first ⟨grown, contextStored⟩
  obtain ⟨upsert, built, named, owned, within⟩ :=
    protocolUpsert_valid agent taskId contextId version valid.status encodes
  apply Effect.succeeds_lift_bind built
  have owner : first.store.hasAgent (some upsert.agentAlias) = true := by
    rw [owned]
    exact grown.extends_.hasAgent agentStored
  have context : first.store.hasContext upsert.contextId = true := by
    rw [within]
    exact contextStored
  apply Effect.succeeds_mono (succeeds_stampedTask grown.ready owner context)
  rintro row last ⟨wrote, stored⟩
  refine ⟨grown.trans wrote, ?_⟩
  intro wanted text
  have known : wanted = taskId := Id.ext_text (text.trans (Id.text_of_new taskOf).symm)
  rwa [known, ← named]

theorem statusUpsert_valid (agent : AgentRecord) (existing : Option TaskRecord) (taskId : TaskId)
    (contextId : ContextId) {update : TaskStatusUpdateEvent} {parameters : ServiceParameters}
    (version : opaqueReason parameters.protocolVersion = none)
    (status : Valid .messageId (update.status.message.map Message.messageId)) :
    ∃ upsert, Jobs.statusUpsert agent update existing taskId contextId parameters = .ok upsert ∧
      upsert.taskId = (taskBase existing taskId agent).taskId ∧
      upsert.agentAlias = agent.aliasName ∧ upsert.contextId = some contextId := by
  obtain ⟨messageId, parsed⟩ := parseOptional_valid status
  change statusMessageId update.status = _ at parsed
  unfold Jobs.statusUpsert
  rw [parsed]
  exact ⟨_, taskVersion_valid _ version, rfl, rfl, rfl⟩

theorem succeeds_upsertTaskFromStatusUpdate {update : TaskStatusUpdateEvent}
    {parameters : ServiceParameters} (ready : Ready reserved (budget + 3) world)
    (version : opaqueReason parameters.protocolVersion = none)
    (agentStored : world.store.hasAgent (some agent.aliasName) = true)
    (valid : ValidEvent (.statusUpdate update)) :
    Effect.Succeeds (Jobs.upsertTaskFromStatusUpdate agent update parameters) world
      fun _ after => Advanced reserved budget world after ∧
        ∀ taskId : TaskId, taskId.text = update.taskId → after.store.hasTask (some taskId) = true := by
  obtain ⟨taskId, taskOf⟩ := new_valid valid.task
  obtain ⟨contextId, contextOf⟩ := new_valid valid.context
  apply Effect.succeeds_lift_bind taskOf
  apply Effect.succeeds_lift_bind contextOf
  apply Effect.succeeds_bind
  apply Effect.succeeds_mono (succeeds_ensureContext contextId ready agentStored)
  rintro _ first ⟨grown, contextStored⟩
  apply succeeds_read rfl
  obtain ⟨upsert, built, named, owned, within⟩ :=
    statusUpsert_valid agent (first.store.tasks.find? taskId) taskId contextId version valid.status
  apply Effect.succeeds_lift_bind built
  have owner : first.store.hasAgent (some upsert.agentAlias) = true := by
    rw [owned]
    exact grown.extends_.hasAgent agentStored
  have context : first.store.hasContext upsert.contextId = true := by
    rw [within]
    exact contextStored
  apply Effect.succeeds_mono (succeeds_stampedTask grown.ready owner context)
  rintro row last ⟨wrote, stored⟩
  refine ⟨grown.trans wrote, ?_⟩
  intro wanted text
  have known : wanted = taskId := Id.ext_text (text.trans (Id.text_of_new taskOf).symm)
  rw [named, taskBase_taskId] at stored
  rwa [known]

/-! The event of a job. -/

theorem jobsSource_short :
    (!"gateway:jobs".isEmpty && "gateway:jobs".utf8ByteSize ≤ 128) = true := by decide

theorem succeeds_jobEventId {start : String}
    (plain : plainStart ("evt/job/" ++ String.ofList (start.toList.map fun c =>
      if c = '_' then '-' else c) ++ "/") = true) (ready : Ready reserved (budget + 1) world) :
    Effect.Succeeds (newJobEventId start) world fun id after =>
      (∃ text, Drawn reserved budget text after ∧ ∃ start, id.text = start ++ text) ∧
        after.store = world.store := by
  apply Effect.succeeds_mono (succeeds_eventId plain (fun _ => rfl) ready)
  rintro id after ⟨⟨text, drawn, named⟩, same⟩
  exact ⟨⟨text, drawn, _, named⟩, same⟩

theorem decides_appendJobEvent (links : Jobs.JobLinks) {start eventType : String} {payload : Json}
    {extra : Metadata → Except MissiveError Metadata}
    (plain : plainStart ("evt/job/" ++ String.ofList (start.toList.map fun c =>
      if c = '_' then '-' else c) ++ "/") = true)
    (short : (!eventType.isEmpty && eventType.utf8ByteSize ≤ 128) = true)
    (extended : ∀ metadata, ∃ after, extra metadata = .ok after)
    (ready : Ready reserved (budget + 2) world) (runnable : Runnable config job agent world.store)
    (contextStored : world.store.hasContext links.contextId = true) :
    Effect.Decides (Jobs.appendJobEvent config job agent links start eventType payload extra) world
      (world.store.hasTask links.taskId = true) fun _ after => Advanced reserved budget world after := by
  apply Effect.succeeds_decides_bind
  apply Effect.succeeds_mono (succeeds_jobEventId plain ready)
  rintro eventId middle ⟨⟨text, drawn, rest, named⟩, same⟩
  obtain ⟨service, served⟩ := toMetadata_returns config.serviceParameters
  obtain ⟨metadata, made⟩ := extended service
  apply Effect.lift_decides_bind served
  apply Effect.lift_decides_bind made
  apply Effect.decides_succeeds_bind
  rw [← same] at contextStored runnable ⊢
  refine Effect.decides_mono (decides_appendVersioned drawn runnable.version named
    (event_checked jobsSource_short short)
    ⟨runnable.agentStored, contextStored, runnable.jobStored, rfl, rfl⟩) ?_
  rintro row after advanced
  exact Effect.succeeds_pure ⟨advanced.ready, same ▸ advanced.extends_⟩

/-! Tasks that an outcome only mentions. -/

def StoredTask (store : Store) (text : String) : Prop :=
  ∃ row ∈ store.tasks.rows, row.taskId.text = text

theorem hasTask_iff (store : Store) (id : Option TaskId) :
    store.hasTask id = true ↔ ∀ text, id.map Id.text = some text → StoredTask store text := by
  cases id with
  | none => simp [Store.hasTask]
  | some id =>
      simp only [Store.hasTask, Option.all_some, Option.map_some, Option.some.injEq,
        forall_eq', Option.isSome_iff_exists]
      constructor
      · rintro ⟨row, found⟩
        obtain ⟨member, keyed⟩ := (store.tasks.find?_eq_some id row).mp found
        exact ⟨row, member, congrArg Id.text keyed⟩
      · rintro ⟨row, member, named⟩
        exact ⟨row, (store.tasks.find?_eq_some id row).mpr ⟨member, Id.ext_text named⟩⟩

-- The task the event of a `send` refers to.
def sentTask (request : Message) : SendMessageResponse → Option String
  | .task task => some task.id
  | .message message => message.taskId.or request.taskId

def sentContext (request : Message) : SendMessageResponse → Option String
  | .task task => some task.contextId
  | .message message => message.contextId.or request.contextId

def sentStatus : SendMessageResponse → Option Message
  | .task task => task.status.message
  | .message _ => none

structure ValidResponse (request : Message) (response : SendMessageResponse) : Prop where
  task : Valid .taskId (sentTask request response)
  context : Valid .contextId (sentContext request response)
  status : Valid .messageId ((sentStatus response).map Message.messageId)

-- A response that holds a task stores it; any other only names one.
def mentionedBySend (request : Message) : SendMessageResponse → Option String
  | .task _ => none
  | .message message => message.taskId.or request.taskId

def mentionedByEvent : StreamResponse → Option String
  | .message message => message.taskId
  | .artifactUpdate update => some update.taskId
  | .task _ | .statusUpdate _ => none

theorem linksFromSendResponse_valid {request : Message} {response : SendMessageResponse}
    (valid : ValidResponse request response) :
    ∃ links, Jobs.linksFromSendResponse request response = .ok links ∧
      links.taskId.map Id.text = sentTask request response := by
  cases response with
  | task task =>
      obtain ⟨contextId, contextOf⟩ := new_valid valid.context
      obtain ⟨taskId, taskOf⟩ := new_valid valid.task
      refine ⟨⟨some contextId, some taskId⟩, ?_, congrArg some (Id.text_of_new taskOf)⟩
      rw [Jobs.linksFromSendResponse, contextOf, taskOf]
      rfl
  | message message =>
      obtain ⟨contextId, contextOf⟩ := parseOptional_valid valid.context
      obtain ⟨taskId, taskOf⟩ := parseOptional_valid valid.task
      refine ⟨⟨contextId, taskId⟩, ?_, (parseOptional_text taskOf).symm⟩
      change parseOptional .contextId (message.contextId.or request.contextId) = _ at contextOf
      change parseOptional .taskId (message.taskId.or request.taskId) = _ at taskOf
      rw [Jobs.linksFromSendResponse, contextOf, taskOf]
      rfl

/-! `send`. -/

/-- After the task was recorded, the one the event refers to is stored exactly when the ones
that are only mentioned were. -/
def Settles (mentioned named : Option String) (before after : Store) : Prop :=
  ∀ taskId : Option TaskId, taskId.map Id.text = named →
    (after.hasTask taskId = true ↔ ∀ text, mentioned = some text → StoredTask before text)

theorem settles_reported {text : String} {before after : Store}
    (stored : ∀ taskId : TaskId, taskId.text = text → after.hasTask (some taskId) = true) :
    Settles none (some text) before after := by
  intro taskId named
  cases taskId with
  | none => cases named
  | some taskId =>
      constructor
      · intro _ _ absent
        cases absent
      · exact fun _ => stored taskId (Option.some.inj named)

theorem settles_mentioned (mentioned : Option String) (store : Store) :
    Settles mentioned mentioned store store := by
  intro taskId named
  rw [hasTask_iff, named]

theorem Settles.before {mentioned named : Option String} {first before after : Store}
    (settles : Settles mentioned named before after) (same : before.tasks = first.tasks) :
    Settles mentioned named first after := by
  unfold Settles StoredTask at settles ⊢
  rwa [same] at settles

theorem succeeds_recordSentTask {request : Message} {response : SendMessageResponse}
    (ready : Ready reserved (budget + 3) world) (runnable : Runnable config job agent world.store)
    (valid : ValidResponse request response) (encodes : Encodes codec (heldRemoteTask response)) :
    Effect.Succeeds (Jobs.recordSentTask codec agent response config.serviceParameters) world
      fun _ after => Advanced reserved budget world after ∧
        Settles (mentionedBySend request response) (sentTask request response) world.store
          after.store := by
  cases response with
  | task task =>
      apply Effect.succeeds_bind
      apply Effect.succeeds_mono (succeeds_upsertTaskFromProtocol ready runnable.version
        runnable.agentStored ⟨valid.task, valid.context, valid.status⟩ (encodes task rfl))
      rintro record after ⟨advanced, stored⟩
      exact Effect.succeeds_pure ⟨advanced, settles_reported stored⟩
  | message message =>
      exact ⟨(), world, rfl, ⟨ready.mono (by omega), Extends.refl _⟩, settles_mentioned _ _⟩

theorem decides_persistSendOutcome {request : Message} {outcome : SendMessageOutcome}
    (ready : Ready reserved (budget + 6) world) (runnable : Runnable config job agent world.store)
    (valid : ValidResponse request outcome.response)
    (encodes : Encodes codec (heldRemoteTask outcome.response)) :
    Effect.Decides (Jobs.persistSendOutcome codec config job agent request outcome) world
      (∀ text, mentionedBySend request outcome.response = some text → StoredTask world.store text)
      fun _ after => Advanced reserved budget world after := by
  obtain ⟨links, parsed, named⟩ := linksFromSendResponse_valid valid
  apply Effect.decides_transaction
  apply Effect.lift_decides_bind parsed
  apply Effect.succeeds_decides_bind
  apply Effect.succeeds_mono (Effect.succeeds_ran
    (succeeds_ensureOptionalContext links.contextId ready runnable.agentStored))
  rintro _ first ⟨⟨ensured, contextStored⟩, ran⟩
  have quiet := (Frames.keeps_ensureOptionalContext tasks_ignore_contexts agent _).returned ran
  have still := runnable.extends_ ensured.extends_
  apply Effect.succeeds_decides_bind
  apply Effect.succeeds_mono (succeeds_recordSentTask ensured.ready still valid encodes)
  rintro _ second ⟨recorded, settles⟩
  apply Effect.decides_congr ((settles.before quiet) links.taskId named).symm
  apply Effect.decides_succeeds_bind
  apply Effect.decides_mono (decides_appendJobEvent links (by decide) (by decide)
    (fun metadata => ⟨metadata, rfl⟩) recorded.ready (still.extends_ recorded.extends_)
    (recorded.extends_.contexts _ contextStored))
  rintro _ last journaled
  exact Effect.succeeds_pure ((ensured.trans recorded).trans journaled)

/-! `stream`. -/

theorem succeeds_recordStreamedTask {event : StreamResponse}
    (ready : Ready reserved (budget + 3) world) (runnable : Runnable config job agent world.store)
    (valid : ValidEvent event) (encodes : Encodes codec (streamedRemoteTask event)) :
    Effect.Succeeds (Jobs.recordStreamedTask codec agent event config.serviceParameters) world
      fun _ after => Advanced reserved budget world after ∧
        Settles (mentionedByEvent event) (namedTask event) world.store after.store := by
  cases event with
  | task task =>
      apply Effect.succeeds_bind
      apply Effect.succeeds_mono (succeeds_upsertTaskFromProtocol ready runnable.version
        runnable.agentStored valid (encodes task rfl))
      rintro record after ⟨advanced, stored⟩
      exact Effect.succeeds_pure ⟨advanced, settles_reported stored⟩
  | statusUpdate update =>
      apply Effect.succeeds_bind
      apply Effect.succeeds_mono (succeeds_upsertTaskFromStatusUpdate ready runnable.version
        runnable.agentStored valid)
      rintro record after ⟨advanced, stored⟩
      exact Effect.succeeds_pure ⟨advanced, settles_reported stored⟩
  | message message =>
      exact ⟨(), world, rfl, ⟨ready.mono (by omega), Extends.refl _⟩, settles_mentioned _ _⟩
  | artifactUpdate update =>
      exact ⟨(), world, rfl, ⟨ready.mono (by omega), Extends.refl _⟩, settles_mentioned _ _⟩

theorem eventTypeName_mem (event : StreamResponse) :
    eventTypeName event ∈ ["task", "message", "status_update", "artifact_update"] := by
  cases event <;> simp [eventTypeName]

theorem eventStart_plain (event : StreamResponse) :
    plainStart ("evt/job/" ++ String.ofList ((eventTypeName event).toList.map fun c =>
      if c = '_' then '-' else c) ++ "/") = true := by
  have each : ∀ name ∈ ["task", "message", "status_update", "artifact_update"],
      plainStart ("evt/job/" ++ String.ofList (name.toList.map fun c =>
        if c = '_' then '-' else c) ++ "/") = true := by decide
  exact each _ (eventTypeName_mem event)

theorem eventType_short (event : StreamResponse) :
    (!(s!"a2a.job.stream.{eventTypeName event}").isEmpty &&
      (s!"a2a.job.stream.{eventTypeName event}").utf8ByteSize ≤ 128) = true := by
  have each : ∀ name ∈ ["task", "message", "status_update", "artifact_update"],
      (!(s!"a2a.job.stream.{name}").isEmpty && (s!"a2a.job.stream.{name}").utf8ByteSize ≤ 128) =
        true := by decide
  exact each _ (eventTypeName_mem event)

theorem decides_persistStreamJobEvent {event : StreamMessageEvent}
    (ready : Ready reserved (budget + 6) world) (runnable : Runnable config job agent world.store)
    (valid : ValidEvent event.event) (encodes : Encodes codec (streamedRemoteTask event.event)) :
    Effect.Decides (Jobs.persistStreamJobEvent codec config job agent event) world
      (∀ text, mentionedByEvent event.event = some text → StoredTask world.store text)
      fun _ after => Advanced reserved budget world after := by
  obtain ⟨ids, parsed⟩ := eventIds_valid valid
  apply Effect.lift_decides_bind parsed
  apply Effect.decides_transaction
  apply Effect.succeeds_decides_bind
  apply Effect.succeeds_mono (Effect.succeeds_ran
    (succeeds_ensureOptionalContext ids.contextId ready runnable.agentStored))
  rintro _ first ⟨⟨ensured, contextStored⟩, ran⟩
  have quiet := (Frames.keeps_ensureOptionalContext tasks_ignore_contexts agent _).returned ran
  have still := runnable.extends_ ensured.extends_
  apply Effect.succeeds_decides_bind
  apply Effect.succeeds_mono (succeeds_recordStreamedTask ensured.ready still valid encodes)
  rintro _ second ⟨recorded, settles⟩
  apply Effect.decides_congr ((settles.before quiet) ids.taskId (eventIds_task parsed).symm).symm
  apply Effect.decides_succeeds_bind
  apply Effect.decides_mono (decides_appendJobEvent ⟨ids.contextId, ids.taskId⟩
    (eventStart_plain event.event) (eventType_short event.event)
    (fun metadata => insert_returns metadata _ _ (by decide)) recorded.ready
    (still.extends_ recorded.extends_) (recorded.extends_.contexts _ contextStored))
  rintro _ last journaled
  exact Effect.succeeds_pure ((ensured.trans recorded).trans journaled)

-- A background job writes a row exactly where an event reports a state.
theorem jobStreamWrite_reports {agent : AgentAlias} {version : String} {event : StreamResponse}
    {write : Option TaskWrite} (parsed : jobStreamWrite codec agent version event = .ok write) :
    (write = none ∧ reportedTask event = none) ∨
    ∃ (taskId : TaskId) (columns : Option TaskRecord → TaskColumns), write = some ⟨taskId, fun existing => some (columns existing)⟩ ∧
      reportedTask event = some taskId.text := by
  cases event with
  | task task =>
      obtain ⟨taskId, taskOf, rest⟩ := except_bind_returned parsed
      obtain ⟨contextId, _, same⟩ := except_bind_returned rest
      cases same
      exact Or.inr ⟨taskId, _, rfl, congrArg some (Id.text_of_new taskOf).symm⟩
  | statusUpdate update =>
      obtain ⟨taskId, taskOf, rest⟩ := except_bind_returned parsed
      obtain ⟨contextId, _, same⟩ := except_bind_returned rest
      cases same
      exact Or.inr ⟨taskId, _, rfl, congrArg some (Id.text_of_new taskOf).symm⟩
  | message message =>
      cases parsed
      exact Or.inl ⟨rfl, rfl⟩
  | artifactUpdate update =>
      cases parsed
      exact Or.inl ⟨rfl, rfl⟩

-- The tasks an event leaves: those that were there, and the one it reports.
theorem persistStreamJobEvent_stored {event : StreamMessageEvent} {ids : EventIds} {after : World}
    (ran : Jobs.persistStreamJobEvent codec config job agent event world = (.ok ids, after))
    (text : String) :
    StoredTask after.store text ↔
      StoredTask world.store text ∨ reportedTask event.event = some text := by
  obtain ⟨write, parsed, applied⟩ := jobStream_applied ran
  rcases jobStreamWrite_reports parsed with ⟨rfl, silent⟩ | ⟨taskId, columns, rfl, reported⟩
  · rw [StoredTask, show after.store.tasks = world.store.tasks from applied, silent]
    simp [StoredTask]
  · obtain ⟨row, put, keyed, _⟩ := applied
    change row.taskId = taskId at keyed
    rw [StoredTask, put, reported, Option.some.injEq, ← keyed]
    constructor
    · rintro ⟨other, member, named⟩
      rcases (world.store.tasks.mem_put row other).mp member with rfl | ⟨old, _⟩
      · exact Or.inr named
      · exact Or.inl ⟨other, old, named⟩
    · rintro (⟨other, old, named⟩ | same)
      · by_cases replaced : other.taskId = row.taskId
        · exact ⟨row, (world.store.tasks.mem_put row row).mpr (Or.inl rfl), replaced ▸ named⟩
        · exact ⟨other, (world.store.tasks.mem_put row other).mpr (Or.inr ⟨old, replaced⟩), named⟩
      · exact ⟨row, (world.store.tasks.mem_put row row).mpr (Or.inl rfl), same⟩

/-! A whole stream. -/

def persistStream (codec : Codec) (config : JobManagerConfig) (job : GatewayJobRecord)
    (agent : AgentRecord) : List StreamMessageEvent → Action Unit
  | [] => pure ()
  | event :: rest => do
      let _ ← Jobs.persistStreamJobEvent codec config job agent event
      persistStream codec config job agent rest

/-- Every task that an event only mentions is stored already, or was reported before. -/
def MentionsKnown (known : String → Prop) (events : List StreamMessageEvent) : Prop :=
  ∀ before event after, events = before ++ event :: after →
    ∀ text, mentionedByEvent event.event = some text →
      known text ∨ ∃ earlier ∈ before, reportedTask earlier.event = some text

theorem mentionsKnown_nil (known : String → Prop) : MentionsKnown known [] := by
  intro before event after split
  simp at split

theorem mentionsKnown_cons (known : String → Prop) (event : StreamMessageEvent)
    (rest : List StreamMessageEvent) :
    MentionsKnown known (event :: rest) ↔
      (∀ text, mentionedByEvent event.event = some text → known text) ∧
      MentionsKnown (fun text => known text ∨ reportedTask event.event = some text) rest := by
  constructor
  · intro all
    constructor
    · intro text mentioned
      rcases all [] event rest rfl text mentioned with found | ⟨earlier, member, _⟩
      · exact found
      · simp at member
    · intro before later after split text mentioned
      rcases all (event :: before) later after (by rw [split]; rfl) text mentioned with
        found | ⟨earlier, member, reported⟩
      · exact Or.inl (Or.inl found)
      · rcases List.mem_cons.mp member with rfl | inside
        · exact Or.inl (Or.inr reported)
        · exact Or.inr ⟨earlier, inside, reported⟩
  · rintro ⟨first, others⟩ before later after split text mentioned
    cases before with
    | nil =>
        cases split
        exact Or.inl (first text mentioned)
    | cons head tail =>
        cases split
        rcases others tail later after rfl text mentioned with
          (found | reported) | ⟨earlier, member, reported⟩
        · exact Or.inl found
        · exact Or.inr ⟨event, List.mem_cons_self, reported⟩
        · exact Or.inr ⟨earlier, List.mem_cons_of_mem _ member, reported⟩

theorem decides_persistStream (events : List StreamMessageEvent)
    (ready : Ready [] (6 * events.length) world) (runnable : Runnable config job agent world.store)
    (valid : ∀ event ∈ events, ValidEvent event.event)
    (encodes : ∀ event ∈ events, Encodes codec (streamedRemoteTask event.event)) :
    Effect.Decides (persistStream codec config job agent events) world
      (MentionsKnown (StoredTask world.store) events) fun _ _ => True := by
  induction events generalizing world with
  | nil => exact Or.inl ⟨mentionsKnown_nil _, (), world, rfl, trivial⟩
  | cons event rest ih =>
      have ready' : Ready [] (6 * rest.length + 6) world := ready
      apply Effect.decides_congr (mentionsKnown_cons _ event rest)
      apply Effect.decides_bind
      apply Effect.decides_mono (Effect.decides_ran (decides_persistStreamJobEvent ready' runnable
        (valid event List.mem_cons_self) (encodes event List.mem_cons_self)))
      rintro ids middle ⟨advanced, ran⟩
      -- the rest finds the tasks that were there and the one this event reported
      have found : StoredTask middle.store = fun text => StoredTask world.store text ∨
          reportedTask event.event = some text :=
        funext fun text => propext (persistStreamJobEvent_stored ran text)
      rw [← found]
      exact ih advanced.ready (runnable.extends_ advanced.extends_)
        (fun event member => valid event (List.mem_cons_of_mem _ member))
        (fun event member => encodes event (List.mem_cons_of_mem _ member))

end Jobs

/-- What a remote agent accepted and answered. -/
inductive Accepted where
  | send (request : Message) (outcome : SendMessageOutcome)
  | stream (events : List StreamMessageEvent)

namespace Accepted

def persist (codec : Codec) (config : JobManagerConfig) (job : GatewayJobRecord)
    (agent : AgentRecord) : Accepted → Action Unit
  | .send request outcome =>
      ignoreResult (Jobs.persistSendOutcome codec config job agent request outcome)
  | .stream events => persistStream codec config job agent events

def draws : Accepted → Nat
  | .send _ _ => 6
  | .stream events => 6 * events.length

def kind : Accepted → String
  | .send _ _ => "send"
  | .stream _ => "stream"

def ValidIds : Accepted → Prop
  | .send request outcome => ValidResponse request outcome.response
  | .stream events => ∀ event ∈ events, ValidEvent event.event

def Encoded (codec : Codec) : Accepted → Prop
  | .send _ outcome => Encodes codec (heldRemoteTask outcome.response)
  | .stream events => ∀ event ∈ events, Encodes codec (streamedRemoteTask event.event)

def Known (store : Store) : Accepted → Prop
  | .send request outcome =>
      ∀ text, mentionedBySend request outcome.response = some text → StoredTask store text
  | .stream events => MentionsKnown (StoredTask store) events

-- `execute_job_blocking` when persisting is what is left of the work.
def attempt (job : GatewayJobRecord) (persisted : Except MissiveError Unit) (sent : SendReport)
    (streamed : StreamReport) (work : Work) : Option JobAttemptResult :=
  executeJobBlocking job { work with
    cancelled := .ok false
    send := persisted.map fun _ => sent
    stream := persisted.map fun _ => streamed }

end Accepted

section Outcome

variable (codec : Codec) {config : JobManagerConfig} {job : GatewayJobRecord} {agent : AgentRecord}
  {world : World} {accepted : Accepted}

theorem decides_persist (ready : Ready [] accepted.draws world)
    (runnable : Runnable config job agent world.store) (valid : accepted.ValidIds)
    (encodes : accepted.Encoded codec) :
    Effect.Decides (accepted.persist codec config job agent) world (accepted.Known world.store)
      fun _ _ => True := by
  cases accepted with
  | stream events => exact decides_persistStream events ready runnable valid encodes
  | send request outcome =>
      have ready' : Ready [] (0 + 6) world := ready
      apply Effect.decides_succeeds_bind
      apply Effect.decides_mono (decides_persistSendOutcome ready' runnable valid encodes)
      exact fun _ _ _ => Effect.succeeds_pure trivial

theorem attempt_retries_iff (kind : job.kind = accepted.kind) (persisted : Except MissiveError Unit)
    (sent : SendReport) (streamed : StreamReport) (work : Work) :
    (∃ error, Accepted.attempt job persisted sent streamed work = some (.retriableError error)) ↔
      ¬ persisted = .ok () := by
  cases accepted <;> cases persisted <;>
    simp [Accepted.attempt, executeJobBlocking, executeJobInner, kind, Accepted.kind, Except.map]

end Outcome

/-! An agent with one background job, and no task yet. -/

def jobsConfig : JobManagerConfig := ⟨"default", plainParameters, 1⟩

def backgroundJob (kind : String) : GatewayJobUpsert :=
  { GatewayJobUpsert.new ⟨"job-1", by decide⟩ kind .null with agentAlias := some echoAgent }

def seedJob (kind : String) : Action Unit := do
  let _ ← upsertAgent (.new echoAgent "http://127.0.0.1")
  let _ ← upsertGatewayJob (backgroundJob kind)
  pure ()

def jobWorld (kind : String) : World := (seedJob kind countingWorld).2

def jobRecord (kind : String) : GatewayJobRecord := (backgroundJob kind).toRecord ⟨0⟩ none

def taskEvent (task : RemoteTask) : StreamMessageEvent :=
  ⟨0, none, .task task, .object [("task", .ofOption id (encodeTextTask task))]⟩

def reportThenMention : Accepted :=
  .stream [taskEvent (plainTask firstTask .working),
    ContextLinks.messageEvent (ContextLinks.plainMessage "remote-1" none (some firstTask))]

theorem jobWorld_runnable (kind : String) (known : kind = "send" ∨ kind = "stream") :
    Runnable jobsConfig (jobRecord kind) echoRecord (jobWorld kind).store := by
  rcases known with rfl | rfl
  · exact ⟨by decide, by decide, by decide⟩
  · exact ⟨by decide, by decide, by decide⟩

theorem jobWorld_ready (kind : String) (known : kind = "send" ∨ kind = "stream") :
    Ready [] 12 (jobWorld kind) := by
  rcases known with rfl | rfl
  · exact ready_counting rfl (by decide) rfl rfl nofun
  · exact ready_counting rfl (by decide) rfl rfl nofun

theorem reportThenMention_known (store : Store) : reportThenMention.Known store := by
  refine (mentionsKnown_cons _ _ _).mpr ⟨nofun, (mentionsKnown_cons _ _ _).mpr ⟨?_, ?_⟩⟩
  · intro text mentioned
    exact Or.inr mentioned
  · exact mentionsKnown_nil _

def mentioningAnswer : SendMessageOutcome :=
  ⟨"http://127.0.0.1/message:send", 200,
    .message (ContextLinks.plainMessage "remote-1" none (some firstTask)), .null⟩

def plainRequest : Message := ContextLinks.plainMessage "request-1" none none

def mentioning : Accepted := .send plainRequest mentioningAnswer

end Missive.JobPersistence
