import Missive.ContextLinks

/-! Recording an outgoing request that names a stored task. `send` only sees to it
that the task is there; `stream` merges a new task in state `submitted` into the
row, which replaces its state, source and metadata. -/
namespace Missive.RequestRecording

open JsonValue KeyedTable Missive.Core Schema Effects Repository Artifacts BackgroundJobs Protocol
open TaskPersistence TaskReports TaskIsolation Frames

variable (codec : Codec) (agent : AgentRecord) (prepared : PreparedMessage)
  (parameters : ServiceParameters)

structure SameReport (before after : TaskRecord) : Prop where
  state : after.state = before.state
  source : after.source = before.source
  metadata : after.metadata = before.metadata
  completedAt : after.completedAt = before.completedAt

/-- The row reads as a request just sent would leave it. -/
structure JustSubmitted (version : String) (row : TaskRecord) : Prop where
  state : row.state = .submitted
  source : row.source = .remote
  metadata : row.metadata = versioned .new version

def ensurePlaceholderFor (contextId : Option ContextId) : Option TaskId → Action Unit
  | some taskId => Send.ensureTaskPlaceholder agent taskId contextId parameters
  | none => pure ()

/-- The steps of `persistSend` that record the request, with the ids of the exchange. -/
def recordSendRequest (contextId : Option ContextId) (taskId : Option TaskId) : Action Unit := do
  ensureOptionalContext agent contextId
  ensurePlaceholderFor agent parameters contextId taskId
  let _ ← insertRequestMessage codec "encoding outbound A2A message for persistence" agent prepared
    contextId taskId
  appendRequestEvent codec "a2a.send.request" agent prepared contextId taskId parameters

-- The row stays under its id.
def StaysStored (row : TaskRecord) (before after : World) : Prop :=
  before.store.tasks.find? row.taskId = some row → after.store.tasks.find? row.taskId = some row

section Send

variable {row : TaskRecord}

theorem staysStored_trans (first middle last : World) (before : StaysStored row first middle)
    (after : StaysStored row middle last) : StaysStored row first last := after ∘ before

theorem stays_of_keeps {Result : Type} {action : Action Result} (keeps : Keeps Store.tasks action) :
    Effect.Moves (StaysStored row) action := by
  intro world stored
  rwa [keeps world]

theorem upsertTask_stays {upsert : TaskUpsert} (apart : row.taskId ≠ upsert.taskId) :
    Effect.Moves (StaysStored row) (upsertTask upsert) := by
  intro world stored
  rcases upsertRow_cases tasksTable (.ok ()) "upserting task" "task" upsert.taskId.text
      upsert.taskId (fun store => refuseUnless (store.hasAgent (some upsert.agentAlias) &&
        store.hasContext upsert.contextId) foreignKeyFailed) upsert.toRecord (fun _ _ => rfl) world with
    ⟨error, after, failed, same⟩ | ⟨_, _, wrote⟩
  · rw [show upsertTask upsert world = _ from failed, same]
    exact stored
  · rw [show upsertTask upsert world = _ from wrote]
    exact (world.store.tasks.find?_put_other _ _ apart).trans stored

theorem placeholder_stays (contextId : Option ContextId) (taskId : TaskId) :
    Effect.Moves (StaysStored row) (Send.ensureTaskPlaceholder agent taskId contextId parameters) := by
  intro world stored
  unfold Send.ensureTaskPlaceholder
  rw [Effect.bind_ok _ _ _ _ _
    (show getTask taskId world = (.ok (world.store.tasks.find? taskId), world) from rfl)]
  cases known : world.store.tasks.find? taskId with
  | some old => exact stored
  | none =>
      have apart : row.taskId ≠ taskId := by
        intro same
        rw [same, known] at stored
        contradiction
      cases recorded : TaskUpsert.recordProtocolVersion
        { TaskUpsert.new taskId agent.aliasName .submitted with
          source := .remote
          contextId := contextId } parameters.protocolVersion with
      | error error => exact stored
      | ok upsert =>
          have named : row.taskId ≠ upsert.taskId := by
            rw [taskVersion_returned recorded]
            exact apart
          exact Effect.moves_bind staysStored_trans (upsertTask_stays named)
            (fun _ => stays_of_keeps (keeps_pure ())) world stored

theorem recordSendRequest_stays (contextId : Option ContextId) (taskId : Option TaskId) :
    Effect.Moves (StaysStored row)
      (recordSendRequest codec agent prepared parameters contextId taskId) := by
  apply Effect.moves_bind staysStored_trans
  · exact stays_of_keeps (keeps_ensureOptionalContext tasks_ignore_contexts agent contextId)
  · intro _
    apply Effect.moves_bind staysStored_trans
    · cases taskId with
      | none => exact stays_of_keeps (keeps_pure ())
      | some taskId => exact placeholder_stays agent parameters contextId taskId
    · intro _
      apply Effect.moves_bind staysStored_trans
      · exact stays_of_keeps (keeps_insertRequestMessage tasks_ignore_messages _ _ _ _)
      · exact fun _ => stays_of_keeps (keeps_appendRequestEvent tasks_ignore_events _ _ _ _)

end Send

theorem streamed_request_iff {row : TaskRecord} {message : MessageRecord} {world after : World}
    (named : prepared.requestedTaskId = some row.taskId)
    (stored : world.store.tasks.find? row.taskId = some row)
    (ran : Stream.persistStreamRequest codec agent prepared parameters world = (.ok message, after)) :
    (∃ written, after.store.tasks.find? row.taskId = some written ∧ SameReport row written) ↔
      JustSubmitted parameters.protocolVersion row := by
  have applied := streamRequest_applied ran
  rw [requestWrite, named] at applied
  obtain ⟨written, put, keyed, fits⟩ : PutsTask row.taskId (mergedColumns agent.aliasName
      prepared.requestedContextId .submitted parameters.protocolVersion (some row))
      world.store.tasks after.store.tasks := by
    rw [← stored]
    exact applied
  have found : after.store.tasks.find? row.taskId = some written := by
    rw [put, ← show key written = row.taskId from keyed]
    exact Table.find?_put_self world.store.tasks written
  constructor
  · rintro ⟨other, shown, same⟩
    cases shown.symm.trans found
    exact ⟨same.state.symm.trans fits.state, same.source.symm.trans fits.source,
      same.metadata.symm.trans fits.metadata⟩
  · intro submitted
    refine ⟨written, found, ?_, ?_, ?_, ?_⟩
    · exact fits.state.trans submitted.state.symm
    · exact fits.source.trans submitted.source.symm
    · exact fits.metadata.trans submitted.metadata.symm
    · exact fits.completion

/-- Recording a streamed request keeps the state, source, metadata and completion time of the
task it names exactly when the row already reads as one just submitted; recording a sent
request keeps the whole row. -/
theorem request_keeps_report_iff (row : TaskRecord) (world : World)
    (named : prepared.requestedTaskId = some row.taskId)
    (stored : world.store.tasks.find? row.taskId = some row) :
    (∀ message after,
      Stream.persistStreamRequest codec agent prepared parameters world = (.ok message, after) →
      ((∃ written, after.store.tasks.find? row.taskId = some written ∧ SameReport row written) ↔
        JustSubmitted parameters.protocolVersion row)) ∧
    (∀ error after,
      Stream.persistStreamRequest codec agent prepared parameters world = (.error error, after) →
      after.store.tasks.find? row.taskId = some row) ∧
    (∀ contextId taskId,
      (recordSendRequest codec agent prepared parameters contextId taskId world).2.store.tasks.find?
        row.taskId = some row) := by
  refine ⟨?_, ?_, ?_⟩
  · intro message after ran
    exact streamed_request_iff codec agent prepared parameters named stored ran
  · intro error after ran
    rw [transaction_failed ran]
    exact stored
  · intro contextId taskId
    exact recordSendRequest_stays codec agent prepared parameters contextId taskId world stored

/-! A request into a task that was just submitted, and one into a task at work. -/

def requestId : MessageId := ⟨"request-1", by decide⟩

def preparedRequest : PreparedMessage where
  request := .null
  requestMessageId := requestId
  requestedContextId := none
  requestedTaskId := some firstTask
  acceptedOutputModes := []
  partSummaries := []
  localInputBytes := 0
  requestBytes := 0
  message := { ContextLinks.plainMessage requestId.text none (some firstTask) with role := .user }
  localMetadata := versioned .new "1.0"

def submittedUpsert : TaskUpsert :=
  { TaskUpsert.new firstTask echoAgent .submitted with metadata := versioned .new "1.0" }

def seedSubmitted : Action Unit := do
  let _ ← upsertAgent (.new echoAgent "http://127.0.0.1")
  let _ ← upsertTask submittedUpsert
  pure ()

def submittedWorld : World := (seedSubmitted blankWorld).2

def submittedRow : TaskRecord := submittedUpsert.toRecord ⟨0⟩ none

def requestedFrom (world : World) : Except MissiveError MessageRecord × World :=
  Stream.persistStreamRequest plainCodec echoRecord preparedRequest plainParameters world

theorem submitted_task_kept :
    submittedWorld.store.tasks.find? firstTask = some submittedRow ∧
      ∃ written, (requestedFrom submittedWorld).2.store.tasks.find? firstTask = some written ∧
        SameReport submittedRow written := by
  have stored : submittedWorld.store.tasks.find? firstTask = some submittedRow := by rfl
  obtain ⟨message, ran⟩ : ∃ message, (requestedFrom submittedWorld).1 = .ok message := ⟨_, rfl⟩
  refine ⟨stored, ?_⟩
  exact ((request_keeps_report_iff plainCodec echoRecord preparedRequest plainParameters submittedRow
    submittedWorld rfl stored).1 message _ (Prod.ext ran rfl)).mpr ⟨rfl, rfl, rfl⟩

theorem working_task_resubmitted :
    preparedRequest.requestedTaskId = some firstTask ∧
      (ContextLinks.watchedWorld.store.tasks.find? firstTask).map TaskRecord.state = some .working ∧
      (∃ message, (requestedFrom ContextLinks.watchedWorld).1 = .ok message) ∧
      ((requestedFrom ContextLinks.watchedWorld).2.store.tasks.find? firstTask).map TaskRecord.state =
        some .submitted :=
  ⟨rfl, by decide, ⟨_, rfl⟩, by decide⟩

end Missive.RequestRecording
