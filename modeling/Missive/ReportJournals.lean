import Missive.TaskFrames

/-! What the operations that persist tasks append to the event journal. An operation that
returned has appended exactly the events listed for it, in their order. -/
namespace Missive.ReportJournals

open JsonValue KeyedTable Missive.Core Schema Effects Repository Artifacts BackgroundJobs Protocol
open TaskPersistence GatewayPersistence TaskReports Frames ReportMoves TaskFrames

variable {Result Other : Type} {codec : Codec} {agent : AgentRecord}
  {parameters : ServiceParameters} {world after : World}

-- The part of an event that the replay reads for states: its links and its payload.
structure JournalEntry where
  contextId : Option ContextId
  taskId : Option TaskId
  payload : Json

def entryOf (record : EventRecord) : JournalEntry :=
  ⟨record.contextId, record.taskId, record.payloadJson⟩

def Added (entries : List JournalEntry) (before after : Store) : Prop :=
  ∃ records, after.events.rows = before.events.rows ++ records ∧ records.map entryOf = entries

theorem Added.of_same {before after : Store} (same : after.events = before.events) :
    Added [] before after := ⟨[], by rw [same, List.append_nil], rfl⟩

theorem Added.trans {first last : List JournalEntry} {before middle after : Store}
    (head : Added first before middle) (tail : Added last middle after) :
    Added (first ++ last) before after := by
  obtain ⟨early, grown, shown⟩ := head
  obtain ⟨late, further, told⟩ := tail
  exact ⟨early ++ late, by rw [further, grown, List.append_assoc], by
    rw [List.map_append, shown, told]⟩

/-! One event. -/

theorem appendEvent_added {input : EventInsert} {row : EventRecord}
    (ran : appendEvent input world = (.ok row, after)) :
    Added [⟨input.contextId, input.taskId, input.payloadJson⟩] world.store after.store := by
  rw [appendEvent_returned ran]
  exact ⟨_, withEvent_rows _ _ _, rfl⟩

theorem appendVersioned_added {input : EventInsert} {row : EventRecord} {version : String}
    (ran : appendVersioned input version world = (.ok row, after)) :
    Added [⟨input.contextId, input.taskId, input.payloadJson⟩] world.store after.store := by
  obtain ⟨metadata, _, appended⟩ := Effect.lift_bind_returned ran
  have added := appendEvent_added appended
  exact added

-- An event of the command line, with the links it is given.
theorem cliEvent_added {eventType version : String} {payload : Json} {link : EventInsert → EventInsert}
    (ran : (newCliEvent eventType payload >>= fun event =>
      appendVersioned (link event) version >>= fun _ => pure ()) world = (.ok (), after)) :
    ∃ id, let event := link (.new id "cli" eventType (JsonRedaction.outputRedactJson payload))
      Added [⟨event.contextId, event.taskId, event.payloadJson⟩] world.store after.store := by
  obtain ⟨event, middle, made, rest⟩ := Effect.bind_returned ran
  obtain ⟨_, last, appended, ended⟩ := Effect.bind_returned rest
  cases ended
  obtain ⟨id, numbered, drawn, built⟩ := Effect.bind_returned made
  cases built
  have quiet : Keeps Store.events (newEventId eventType) :=
    keeps_bind keeps_newMessageId fun _ => keeps_lift _
  exact ⟨id, (Added.of_same (quiet.returned drawn)).trans (appendVersioned_added appended)⟩

theorem requestEvent_added {eventType : String} {prepared : PreparedMessage}
    {contextId : Option ContextId} {taskId : Option TaskId}
    (ran : appendRequestEvent codec eventType agent prepared contextId taskId parameters world =
      (.ok (), after)) :
    Added [⟨contextId, taskId, JsonRedaction.outputRedactJson
      (requestPayload codec prepared contextId taskId)⟩] world.store after.store := by
  obtain ⟨_, added⟩ := cliEvent_added ran
  exact added

theorem streamEvent_added {event : StreamMessageEvent} {ids : EventIds} {base : Metadata}
    {record : EventRecord}
    (ran : Stream.appendStreamEvent agent event ids base world = (.ok record, after)) :
    Added [⟨ids.contextId, ids.taskId, JsonRedaction.outputRedactJson event.rawJson⟩] world.store
      after.store := by
  obtain ⟨messageId, middle, drawn, rest⟩ := Effect.bind_returned ran
  obtain ⟨eventId, _, rest⟩ := Effect.lift_bind_returned rest
  obtain ⟨metadata, _, appended⟩ := Effect.lift_bind_returned rest
  have kept : middle.store.events = world.store.events := keeps_newMessageId.returned drawn
  exact (Added.of_same kept).trans (appendVersioned_added appended)

theorem sendResponseEvent_added {outcome : SendMessageOutcome} {message : MessageRecord}
    {contextId : Option ContextId} {taskId : Option TaskId}
    (ran : Send.appendSendResponseEvent codec agent outcome message contextId taskId parameters world =
      (.ok (), after)) :
    Added [⟨contextId, taskId, JsonRedaction.outputRedactJson
      (Send.responsePayload codec outcome message contextId taskId)⟩] world.store after.store := by
  obtain ⟨_, added⟩ := cliEvent_added ran
  exact added

-- The payload of the event that a task answering `send` leaves.
def heldPayload (codec : Codec) (agent : AgentRecord) (task : RemoteTask) (taskId : TaskId)
    (contextId : ContextId) : Json :=
  .object [("agent", .string agent.aliasName.text), ("context_id", .string contextId.text),
    ("source", .string "remote"), ("state", .string (storeTaskState task.status.state).asStr),
    ("task", .ofOption id (codec.taskToValue task)), ("task_id", .string taskId.text)]

theorem sendTaskEvent_added {task : RemoteTask} {taskId : TaskId} {contextId : ContextId}
    (taskOf : Id.new .taskId task.id = .ok taskId)
    (contextOf : Id.new .contextId task.contextId = .ok contextId)
    (ran : Send.appendSendTaskEvent codec agent task parameters world = (.ok (), after)) :
    Added [⟨some contextId, some taskId, JsonRedaction.outputRedactJson
      (heldPayload codec agent task taskId contextId)⟩] world.store after.store := by
  obtain ⟨named, known, rest⟩ := Effect.lift_bind_returned ran
  rw [taskOf] at known
  cases known
  obtain ⟨placed, known, rest⟩ := Effect.lift_bind_returned rest
  rw [contextOf] at known
  cases known
  obtain ⟨_, added⟩ := cliEvent_added rest
  exact added

theorem taskUpdatedEvent_added {observed : List (String × Json)} {record : TaskRecord} {value : Json}
    (ran : Refresh.appendTaskUpdatedEvent observed agent record value parameters world =
      (.ok (), after)) :
    Added [⟨record.contextId, some record.taskId, JsonRedaction.outputRedactJson
      (Refresh.updatedPayload observed agent record value)⟩] world.store after.store := by
  obtain ⟨_, added⟩ := cliEvent_added ran
  exact added

theorem jobEvent_added {config : JobManagerConfig} {job : GatewayJobRecord} {links : Jobs.JobLinks}
    {start eventType : String} {payload : Json} {extra : Metadata → Except MissiveError Metadata}
    (ran : Jobs.appendJobEvent config job agent links start eventType payload extra world =
      (.ok (), after)) :
    Added [⟨links.contextId, links.taskId, JsonRedaction.jobsRedactJson payload⟩] world.store
      after.store := by
  obtain ⟨eventId, middle, drawn, rest⟩ := Effect.bind_returned ran
  obtain ⟨service, _, rest⟩ := Effect.lift_bind_returned rest
  obtain ⟨metadata, _, rest⟩ := Effect.lift_bind_returned rest
  obtain ⟨_, last, appended, ended⟩ := Effect.bind_returned rest
  cases ended
  have quiet : Keeps Store.events (newJobEventId start) :=
    keeps_bind keeps_newMessageId fun _ => keeps_lift _
  exact (Added.of_same (quiet.returned drawn)).trans (appendVersioned_added appended)

theorem subscriptionEvent_added {config : Subscription.SubscriptionManagerConfig}
    {candidate : Subscription.SubscriptionCandidate} {event : StreamMessageEvent} {details : EventIds}
    (ran : Subscription.appendSubscriptionEvent config candidate event details world =
      (.ok (), after)) :
    Added [⟨details.contextId, details.taskId,
      JsonRedaction.subscriptionRedactJson event.rawJson⟩] world.store after.store := by
  obtain ⟨eventId, middle, drawn, rest⟩ := Effect.bind_returned ran
  obtain ⟨metadata, _, rest⟩ := Effect.lift_bind_returned rest
  obtain ⟨_, last, appended, ended⟩ := Effect.bind_returned rest
  cases ended
  have quiet : Keeps Store.events
      (Subscription.newSubscriptionEventId (eventTypeName event.event)) :=
    keeps_bind keeps_newMessageId fun _ => keeps_lift _
  exact (Added.of_same (quiet.returned drawn)).trans (appendVersioned_added appended)

/-! What each operation journals. -/

/-- A stored row that shows the task as it was reported. -/
structure Reports (task : RemoteTask) (record : TaskRecord) : Prop where
  named : Id.new .taskId task.id = .ok record.taskId
  linked : record.contextId.isSome = true
  state : record.state = storeTaskState task.status.state

def responseEntries (codec : Codec) (prepared : PreparedMessage) (outcome : SendMessageOutcome)
    (message : MessageRecord) (contextId : Option ContextId) (taskId : Option TaskId) :
    List JournalEntry :=
  [⟨contextId, taskId, JsonRedaction.outputRedactJson
      (requestPayload codec prepared contextId taskId)⟩,
    ⟨contextId, taskId, JsonRedaction.outputRedactJson
      (Send.responsePayload codec outcome message contextId taskId)⟩]

-- A refresh journals a task that it has changed.
inductive RefreshJournaled (codec : Codec) (agent : AgentRecord) (before : Table TaskRecord)
    (observed : List (String × Json)) (task : RemoteTask) : List JournalEntry → Prop
  | changed (record : TaskRecord) (value : Json) (reports : Reports task record)
      (encoded : codec.taskToValue task = some value)
      (differs : Refresh.changed (before.find? record.taskId) (storeTaskState task.status.state)
        value = true) :
      RefreshJournaled codec agent before observed task
        [⟨record.contextId, some record.taskId, JsonRedaction.outputRedactJson
          (Refresh.updatedPayload observed agent record value)⟩]
  | unchanged (taskId : TaskId) (value : Json) (named : Id.new .taskId task.id = .ok taskId)
      (same : Refresh.changed (before.find? taskId) (storeTaskState task.status.state) value =
        false) :
      RefreshJournaled codec agent before observed task []

inductive Journaled (codec : Codec) (agent : AgentRecord) (before : Table TaskRecord) :
    Operation → List JournalEntry → Prop
  | streamRequest (parameters : ServiceParameters) (prepared : PreparedMessage) :
      Journaled codec agent before (.streamRequest parameters prepared)
        [⟨prepared.requestedContextId, prepared.requestedTaskId, JsonRedaction.outputRedactJson
          (requestPayload codec prepared prepared.requestedContextId prepared.requestedTaskId)⟩]
  | streamEvent (parameters : ServiceParameters) (event : StreamMessageEvent) (base : Metadata)
      (ids : EventIds) (parsed : eventIds event.event = .ok ids) :
      Journaled codec agent before (.streamEvent parameters event base)
        [⟨ids.contextId, ids.taskId, JsonRedaction.outputRedactJson event.rawJson⟩]
  | sendTask (parameters : ServiceParameters) (prepared : PreparedMessage)
      (outcome : SendMessageOutcome) (task : RemoteTask) (taskId : TaskId) (contextId : ContextId)
      (message : MessageRecord) (held : outcome.response = .task task)
      (taskOf : Id.new .taskId task.id = .ok taskId) :
      Journaled codec agent before (.send parameters prepared outcome)
        (responseEntries codec prepared outcome message (some contextId) (some taskId) ++
          [⟨some contextId, some taskId, JsonRedaction.outputRedactJson
            (heldPayload codec agent task taskId contextId)⟩])
  | sendMessage (parameters : ServiceParameters) (prepared : PreparedMessage)
      (outcome : SendMessageOutcome) (answer : Message) (message : MessageRecord)
      (answered : outcome.response = .message answer) (contextId : Option ContextId)
      (taskId : Option TaskId)
      (taskOf : parseOptional .taskId answer.taskId = .ok taskId) :
      Journaled codec agent before (.send parameters prepared outcome)
        (responseEntries codec prepared outcome message contextId
          (taskId.or prepared.requestedTaskId))
  | refresh (parameters : ServiceParameters) (task : RemoteTask) (entries : List JournalEntry)
      (noted : RefreshJournaled codec agent before [] task entries) :
      Journaled codec agent before (.refresh parameters task) entries
  | barrier (parameters : ServiceParameters) (task : RemoteTask) (entries : List JournalEntry)
      (noted : RefreshJournaled codec agent before [("observed_by", .string "barrier")] task
        entries) :
      Journaled codec agent before (.barrier parameters task) entries
  | jobSend (config : JobManagerConfig) (job : GatewayJobRecord) (request : Message)
      (outcome : SendMessageOutcome) (links : Jobs.JobLinks)
      (parsed : Jobs.linksFromSendResponse request outcome.response = .ok links) :
      Journaled codec agent before (.jobSend config job request outcome)
        [⟨links.contextId, links.taskId, JsonRedaction.jobsRedactJson
          (Jobs.sendResponsePayload config job agent outcome)⟩]
  | jobStream (config : JobManagerConfig) (job : GatewayJobRecord) (event : StreamMessageEvent)
      (ids : EventIds) (parsed : eventIds event.event = .ok ids) :
      Journaled codec agent before (.jobStream config job event)
        [⟨ids.contextId, ids.taskId, JsonRedaction.jobsRedactJson event.rawJson⟩]
  | jobWait (config : JobManagerConfig) (job : GatewayJobRecord) (outcome : GetTaskOutcome)
      (record : TaskRecord) (reports : Reports outcome.task record) :
      Journaled codec agent before (.jobWait config job outcome)
        [⟨record.contextId, some record.taskId, JsonRedaction.jobsRedactJson
          (Jobs.waitRefreshPayload config job agent record outcome)⟩]
  | subscription (config : Subscription.SubscriptionManagerConfig) (task : TaskRecord)
      (job : GatewayJobRecord) (interface : JobWorkers.NegotiatedInterface)
      (event : StreamMessageEvent) (ids : EventIds) (parsed : eventIds event.event = .ok ids) :
      Journaled codec agent before (.subscription config task job interface event)
        [⟨ids.contextId, ids.taskId, JsonRedaction.subscriptionRedactJson event.rawJson⟩]

/-! Writing rows journals nothing. -/

theorem events_ignore_rows : IgnoresRows Store.events :=
  ⟨⟨fun _ _ => rfl, fun _ _ => rfl, fun _ _ => rfl⟩, fun _ _ => rfl⟩

theorem streamRequest_journaled {prepared : PreparedMessage} {stored : MessageRecord}
    (ran : Stream.persistStreamRequest codec agent prepared parameters world = (.ok stored, after)) :
    Added [⟨prepared.requestedContextId, prepared.requestedTaskId, JsonRedaction.outputRedactJson
      (requestPayload codec prepared prepared.requestedContextId prepared.requestedTaskId)⟩]
      world.store after.store := by
  obtain ⟨_, first, ensured, rest⟩ := Effect.bind_returned (transaction_returned ran)
  obtain ⟨_, second, requested, rest⟩ := Effect.bind_returned rest
  obtain ⟨message, third, inserted, rest⟩ := Effect.bind_returned rest
  obtain ⟨_, fourth, appended, ended⟩ := Effect.bind_returned rest
  cases ended
  have rows := events_ignore_rows
  have same : third.store.events = world.store.events :=
    calc
      third.store.events = second.store.events :=
        (keeps_insertRequestMessage rows.messages _ _ _ _).returned inserted
      _ = first.store.events := (keeps_ensureRequestedTask rows.toIgnoresTaskRows _).returned requested
      _ = world.store.events := (keeps_ensureOptionalContext rows.contexts _ _).returned ensured
  exact (Added.of_same same).trans (requestEvent_added appended)

theorem streamEvent_journaled {event : StreamMessageEvent} {base : Metadata}
    {persisted : Stream.PersistedStreamEvent}
    (ran : Stream.persistStreamEvent codec agent event base parameters world =
      (.ok persisted, after)) :
    ∃ ids, eventIds event.event = .ok ids ∧
      Added [⟨ids.contextId, ids.taskId, JsonRedaction.outputRedactJson event.rawJson⟩]
        world.store after.store := by
  obtain ⟨ids, parsed, rest⟩ := Effect.lift_bind_returned (transaction_returned ran)
  obtain ⟨_, first, ensured, rest⟩ := Effect.bind_returned rest
  obtain ⟨_, second, placed, rest⟩ := Effect.bind_returned rest
  obtain ⟨message, third, inserted, rest⟩ := Effect.bind_returned rest
  obtain ⟨_, fourth, stated, rest⟩ := Effect.bind_returned rest
  obtain ⟨record, fifth, appended, ended⟩ := Effect.bind_returned rest
  cases ended
  have rows := events_ignore_rows
  have same : fourth.store.events = world.store.events :=
    calc
      fourth.store.events = third.store.events :=
        (keeps_persistTaskState rows.toIgnoresTaskRows _ _ _).returned stated
      _ = second.store.events :=
        (keeps_insertStreamEventMessage rows.messages _ _ _).returned inserted
      _ = first.store.events := (keeps_placeholder rows.toIgnoresTaskRows _).returned placed
      _ = world.store.events := (keeps_ensureOptionalContext rows.contexts _ _).returned ensured
  exact ⟨ids, parsed, (Added.of_same same).trans (streamEvent_added appended)⟩

/-! `send` and the refresh. -/

theorem taskIds_returned {task : RemoteTask} {ids : Send.ResponseIds}
    (ran : Send.responseIds (.task task) world = (.ok ids, after)) :
    ∃ taskId contextId, Id.new .taskId task.id = .ok taskId ∧
      Id.new .contextId task.contextId = .ok contextId ∧ ids.taskId = some taskId ∧
      ids.contextId = some contextId := by
  obtain ⟨status, _, rest⟩ := Effect.lift_bind_returned ran
  obtain ⟨contextId, contextOf, rest⟩ := Effect.lift_bind_returned rest
  obtain ⟨taskId, taskOf, rest⟩ := Effect.lift_bind_returned rest
  refine ⟨taskId, contextId, taskOf, contextOf, ?_⟩
  cases status with
  | some messageId =>
      cases rest
      exact ⟨rfl, rfl⟩
  | none =>
      obtain ⟨messageId, middle, _, ended⟩ := Effect.bind_returned rest
      cases ended
      exact ⟨rfl, rfl⟩

theorem send_journaled {prepared : PreparedMessage} {outcome : SendMessageOutcome}
    {persisted : Send.PersistedSend}
    (ran : Send.persistSend codec agent prepared outcome parameters world = (.ok persisted, after)) :
    ∃ entries, Added entries world.store after.store ∧
      Journaled codec agent world.store.tasks (.send parameters prepared outcome) entries := by
  obtain ⟨ids, start, parsed, rest⟩ := Effect.bind_returned (transaction_returned ran)
  obtain ⟨_, first, ensured, rest⟩ := Effect.bind_returned rest
  obtain ⟨_, second, recorded, rest⟩ := Effect.bind_returned rest
  obtain ⟨request, third, asked, rest⟩ := Effect.bind_returned rest
  obtain ⟨response, fourth, answered, rest⟩ := Effect.bind_returned rest
  obtain ⟨_, fifth, journaled, rest⟩ := Effect.bind_returned rest
  obtain ⟨_, sixth, told, rest⟩ := Effect.bind_returned rest
  obtain ⟨_, seventh, held, ended⟩ := Effect.bind_returned rest
  cases ended
  have rows := events_ignore_rows
  have same : fourth.store.events = world.store.events :=
    calc
      fourth.store.events = third.store.events :=
        (keeps_bind (keeps_lift _) fun _ => keeps_insertMessage rows.messages _).returned answered
      _ = second.store.events :=
        (keeps_insertRequestMessage rows.messages _ _ _ _).returned asked
      _ = first.store.events :=
        (keeps_recordTask rows.toIgnoresTaskRows _ _ _ _).returned recorded
      _ = start.store.events := (keeps_ensureOptionalContext rows.contexts _ _).returned ensured
      _ = world.store.events := (keeps_responseIds outcome.response).returned parsed
  have exchanged := ((Added.of_same same).trans (requestEvent_added journaled)).trans
    (sendResponseEvent_added told)
  cases shown : outcome.response with
  | task task =>
      rw [shown] at parsed held
      obtain ⟨taskId, contextId, taskOf, contextOf, named, linked⟩ := taskIds_returned parsed
      rw [named, linked] at exchanged
      exact ⟨_, exchanged.trans (sendTaskEvent_added taskOf contextOf held),
        .sendTask parameters prepared outcome task taskId contextId response shown taskOf⟩
  | message message =>
      rw [shown] at parsed held
      obtain ⟨_, taskOf, _, _⟩ := messageIds_returned parsed
      cases held
      exact ⟨_, exchanged,
        .sendMessage parameters prepared outcome message response shown _ ids.taskId taskOf⟩

theorem refresh_journaled {detail : String} {observed : List (String × Json)} {task : RemoteTask}
    {shown : TaskRecord}
    (ran : Refresh.refreshTask codec detail observed agent task parameters world =
      (.ok shown, after)) :
    ∃ entries, Added entries world.store after.store ∧
      RefreshJournaled codec agent world.store.tasks observed task entries := by
  obtain ⟨taskId, taskOf, rest⟩ := Effect.lift_bind_returned ran
  obtain ⟨contextId, contextOf, rest⟩ := Effect.lift_bind_returned rest
  obtain ⟨_, first, ensured, rest⟩ := Effect.bind_returned rest
  obtain ⟨value, encoded, rest⟩ := Effect.lift_bind_returned rest
  obtain ⟨existing, second, read, rest⟩ := Effect.bind_returned rest
  cases read
  obtain ⟨upsert, built, rest⟩ := Effect.lift_bind_returned rest
  obtain ⟨completedAt, third, stamped, rest⟩ := Effect.bind_returned rest
  obtain ⟨record, fourth, wrote, rest⟩ := Effect.bind_returned rest
  obtain ⟨artifacts, fifth, stored, rest⟩ := Effect.bind_returned rest
  obtain ⟨_, sixth, noted, ended⟩ := Effect.bind_returned rest
  cases ended
  have rows := events_ignore_rows
  have context : first.store.tasks = world.store.tasks :=
    (keeps_ensureContext tasks_ignore_contexts agent contextId).returned ensured
  have same : fifth.store.events = world.store.events :=
    calc
      fifth.store.events = fourth.store.events :=
        (keeps_persistTaskArtifacts codec.toArtifactCodec rows.artifacts _).returned stored
      _ = third.store.events := (keeps_upsertTask rows.tasks _).returned wrote
      _ = first.store.events := (keeps_completedAtFor _ _).returned stamped
      _ = world.store.events := (keeps_ensureContext rows.contexts _ _).returned ensured
  obtain ⟨messageId, _, recorded⟩ := except_bind_returned built
  cases taskVersion_returned recorded
  obtain ⟨row, _⟩ := upsertTask_returned wrote
  beta_reduce at noted
  rw [context] at noted
  cases differs : Refresh.changed (world.store.tasks.find? taskId)
      (storeTaskState task.status.state) value with
  | true =>
      rw [differs] at noted
      have reports : Reports task shown :=
        ⟨by rw [row]; exact taskOf, by rw [row]; rfl, by rw [row]; rfl⟩
      have known : shown.taskId = taskId := by rw [row]; rfl
      exact ⟨_, (Added.of_same same).trans (taskUpdatedEvent_added noted),
        .changed shown value reports (encode_returned encoded) (by rw [known]; exact differs)⟩
  | false =>
      rw [differs] at noted
      cases noted
      exact ⟨_, Added.of_same same, .unchanged taskId value taskOf differs⟩

/-! The gateway. -/

-- The rows of a task, along which the journal is kept.
theorem rows_allowed : AllowsTaskRows fun before after => after.events = before.events :=
  events_ignore_rows.allows.toAllowsTaskRows

theorem jobSend_journaled {config : JobManagerConfig} {job : GatewayJobRecord} {request : Message}
    {outcome : SendMessageOutcome} {links : Jobs.JobLinks}
    (ran : Jobs.persistSendOutcome codec config job agent request outcome world =
      (.ok links, after)) :
    Jobs.linksFromSendResponse request outcome.response = .ok links ∧
      Added [⟨links.contextId, links.taskId, JsonRedaction.jobsRedactJson
        (Jobs.sendResponsePayload config job agent outcome)⟩] world.store after.store := by
  obtain ⟨read, parsed, rest⟩ := Effect.lift_bind_returned (transaction_returned ran)
  obtain ⟨_, first, ensured, rest⟩ := Effect.bind_returned rest
  obtain ⟨_, second, recorded, rest⟩ := Effect.bind_returned rest
  obtain ⟨_, third, appended, ended⟩ := Effect.bind_returned rest
  cases ended
  have quiet : Keeps Store.events
      (Jobs.recordSentTask codec agent outcome.response config.serviceParameters) :=
    along_recordSentTask rows_allowed _
  have same : second.store.events = world.store.events :=
    (quiet.returned recorded).trans
      ((keeps_ensureOptionalContext events_ignore_rows.contexts _ _).returned ensured)
  exact ⟨parsed, (Added.of_same same).trans (jobEvent_added appended)⟩

theorem jobStream_journaled {config : JobManagerConfig} {job : GatewayJobRecord}
    {event : StreamMessageEvent} {details : EventIds}
    (ran : Jobs.persistStreamJobEvent codec config job agent event world = (.ok details, after)) :
    eventIds event.event = .ok details ∧
      Added [⟨details.contextId, details.taskId, JsonRedaction.jobsRedactJson event.rawJson⟩]
        world.store after.store := by
  obtain ⟨read, parsed, opened⟩ := Effect.lift_bind_returned ran
  obtain ⟨_, first, ensured, rest⟩ := Effect.bind_returned (transaction_returned opened)
  obtain ⟨_, second, recorded, rest⟩ := Effect.bind_returned rest
  obtain ⟨_, third, appended, ended⟩ := Effect.bind_returned rest
  cases ended
  have quiet : Keeps Store.events
      (Jobs.recordStreamedTask codec agent event.event config.serviceParameters) :=
    along_recordStreamedTask rows_allowed _
  have same : second.store.events = world.store.events :=
    (quiet.returned recorded).trans
      ((keeps_ensureOptionalContext events_ignore_rows.contexts _ _).returned ensured)
  exact ⟨parsed, (Added.of_same same).trans (jobEvent_added appended)⟩

theorem protocolTask_reports {task : RemoteTask} {record : TaskRecord}
    (ran : Jobs.upsertTaskFromProtocol codec agent task parameters world = (.ok record, after)) :
    Reports task record := by
  obtain ⟨taskId, taskOf, rest⟩ := Effect.lift_bind_returned ran
  obtain ⟨contextId, _, rest⟩ := Effect.lift_bind_returned rest
  obtain ⟨_, first, _, rest⟩ := Effect.bind_returned rest
  obtain ⟨upsert, built, rest⟩ := Effect.lift_bind_returned rest
  obtain ⟨completedAt, second, _, wrote⟩ := Effect.bind_returned rest
  obtain ⟨value, _, built⟩ := except_bind_returned built
  obtain ⟨messageId, _, recorded⟩ := except_bind_returned built
  cases taskVersion_returned recorded
  obtain ⟨row, _⟩ := upsertTask_returned wrote
  exact ⟨by rw [row]; exact taskOf, by rw [row]; rfl, by rw [row]; exact mapProtocolTaskState_eq _⟩

theorem jobWait_journaled {config : JobManagerConfig} {job : GatewayJobRecord}
    {outcome : GetTaskOutcome} {record : TaskRecord}
    (ran : Jobs.refreshTaskForWait codec config job agent outcome world = (.ok record, after)) :
    Reports outcome.task record ∧
      Added [⟨record.contextId, some record.taskId, JsonRedaction.jobsRedactJson
        (Jobs.waitRefreshPayload config job agent record outcome)⟩] world.store after.store := by
  obtain ⟨stored, first, wrote, rest⟩ := Effect.bind_returned (transaction_returned ran)
  obtain ⟨_, second, appended, ended⟩ := Effect.bind_returned rest
  cases ended
  have quiet : Keeps Store.events
      (Jobs.upsertTaskFromProtocol codec agent outcome.task config.serviceParameters) :=
    along_upsertTaskFromProtocol rows_allowed _
  exact ⟨protocolTask_reports wrote,
    (Added.of_same (quiet.returned wrote)).trans (jobEvent_added appended)⟩

theorem subscription_journaled {config : Subscription.SubscriptionManagerConfig}
    {candidate : Subscription.SubscriptionCandidate} {event : StreamMessageEvent} {finished : Bool}
    (ran : Subscription.persistSubscriptionStreamEvent codec config candidate event world =
      (.ok finished, after)) :
    ∃ details, eventIds event.event = .ok details ∧
      Added [⟨details.contextId, details.taskId,
        JsonRedaction.subscriptionRedactJson event.rawJson⟩] world.store after.store := by
  obtain ⟨details, parsed, rest⟩ := Effect.lift_bind_returned (transaction_returned ran)
  obtain ⟨_, first, ensured, rest⟩ := Effect.bind_returned rest
  obtain ⟨_, second, recorded, rest⟩ := Effect.bind_returned rest
  obtain ⟨_, third, appended, ended⟩ := Effect.bind_returned rest
  cases ended
  have quiet : Keeps Store.events
      (Subscription.recordSubscribedTask codec config candidate.agent event.event details) :=
    along_recordSubscribedTask rows_allowed _ _ _
  have same : second.store.events = world.store.events :=
    (quiet.returned recorded).trans
      ((keeps_ensureOptionalContext events_ignore_rows.contexts _ _).returned ensured)
  exact ⟨details, parsed, (Added.of_same same).trans (subscriptionEvent_added appended)⟩

/-- An operation that returned has journaled what is listed for it. -/
theorem run_journaled (codec : Codec) (agent : AgentRecord) (operation : Operation)
    {world after : World} (ran : operation.run codec agent world = (.ok (), after)) :
    ∃ entries, Added entries world.store after.store ∧
      Journaled codec agent world.store.tasks operation entries := by
  cases operation with
  | streamRequest parameters prepared =>
      obtain ⟨_, inner⟩ := ignoreResult_returned ran
      exact ⟨_, streamRequest_journaled inner, .streamRequest parameters prepared⟩
  | streamEvent parameters event base =>
      obtain ⟨_, inner⟩ := ignoreResult_returned ran
      obtain ⟨ids, parsed, added⟩ := streamEvent_journaled inner
      exact ⟨_, added, .streamEvent parameters event base ids parsed⟩
  | send parameters prepared outcome =>
      obtain ⟨_, inner⟩ := ignoreResult_returned ran
      exact send_journaled inner
  | refresh parameters task =>
      obtain ⟨_, inner⟩ := ignoreResult_returned ran
      obtain ⟨entries, added, noted⟩ := refresh_journaled (transaction_returned inner)
      exact ⟨entries, added, .refresh parameters task entries noted⟩
  | barrier parameters task =>
      obtain ⟨_, inner⟩ := ignoreResult_returned ran
      obtain ⟨entries, added, noted⟩ := refresh_journaled (transaction_returned inner)
      exact ⟨entries, added, .barrier parameters task entries noted⟩
  | jobSend config job request outcome =>
      obtain ⟨links, inner⟩ := ignoreResult_returned ran
      obtain ⟨parsed, added⟩ := jobSend_journaled inner
      exact ⟨_, added, .jobSend config job request outcome links parsed⟩
  | jobStream config job event =>
      obtain ⟨details, inner⟩ := ignoreResult_returned ran
      obtain ⟨parsed, added⟩ := jobStream_journaled inner
      exact ⟨_, added, .jobStream config job event details parsed⟩
  | jobWait config job outcome =>
      obtain ⟨record, inner⟩ := ignoreResult_returned ran
      obtain ⟨reports, added⟩ := jobWait_journaled inner
      exact ⟨_, added, .jobWait config job outcome record reports⟩
  | subscription config task job interface event =>
      obtain ⟨_, inner⟩ := ignoreResult_returned ran
      obtain ⟨details, parsed, added⟩ := subscription_journaled inner
      exact ⟨_, added, .subscription config task job interface event details parsed⟩

end Missive.ReportJournals
