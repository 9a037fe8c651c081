import Missive.ReportMoves
import Missive.RowDates

/-! The completion times that persisting a report leaves: the one that stood under the id
before, or a second that the clock showed meanwhile. -/
namespace Missive.TaskDates

open JsonValue KeyedTable Missive.Core Schema Effects Repository Artifacts BackgroundJobs Protocol
open TaskPersistence GatewayPersistence TaskReports Frames ReportMoves RowDates

variable {codec : Codec} {agent : AgentRecord} {parameters : ServiceParameters}
  {world first middle after : World} {taskId : TaskId}

/-- Where a completion time may come from that is written under the id. -/
def Known (world : World) (taskId : TaskId) (completedAt : Option SecondTime) : Prop :=
  ∀ time, completedAt = some time → Shown world time ∨
    ∃ old, world.store.tasks.find? taskId = some old ∧ old.completedAt = some time

def Dated (world : World) (tasks : Table TaskRecord) : Prop :=
  ∀ row ∈ tasks.rows, Known world row.taskId row.completedAt

theorem known_none : Known world taskId none := by
  intro time same
  cases same

theorem known_old {old : TaskRecord} (found : world.store.tasks.find? taskId = some old) :
    Known world taskId old.completedAt := fun _ same => Or.inr ⟨old, found, same⟩

theorem known_existing : Known world taskId
    ((world.store.tasks.find? taskId).bind TaskRecord.completedAt) := by
  cases found : world.store.tasks.find? taskId with
  | none => exact known_none
  | some old => exact known_old found

theorem dated_same (same : middle.store.tasks = world.store.tasks) :
    Dated world middle.store.tasks := by
  intro row member
  rw [same] at member
  exact known_old (world.store.tasks.find?_self row member)

theorem dated_trans {tasks : Table TaskRecord} (later : Later world middle)
    (before : Dated world middle.store.tasks) (rest : Dated middle tasks) : Dated world tasks := by
  intro row member time same
  rcases rest row member time same with shown | ⟨old, found, kept⟩
  · exact Or.inl (shown.earlier later)
  · obtain ⟨stored, named⟩ := (middle.store.tasks.find?_eq_some _ old).mp found
    have known := before old stored time kept
    rwa [show old.taskId = row.taskId from named] at known

theorem upsert_dated {upsert : TaskUpsert} {row : TaskRecord}
    (ran : upsertTask upsert middle = (.ok row, after))
    (same : middle.store.tasks = world.store.tasks)
    (known : Known world upsert.taskId (upsert.completedAt.map MissiveTimestamp.toRfc3339)) :
    Dated world after.store.tasks := by
  obtain ⟨shown, moved⟩ := upsertTask_returned ran
  intro other member
  rw [moved] at member
  rcases (middle.store.tasks.mem_put row other).mp member with here | ⟨stored, _⟩
  · rw [here, shown]
    exact known
  · rw [same] at stored
    exact known_old (world.store.tasks.find?_self other stored)

/-! The time of a report. -/

theorem completedAtFor_known {state : TaskState} {otherwise completedAt : Option MissiveTimestamp}
    (ran : completedAtFor state otherwise middle = (.ok completedAt, after))
    (later : Later world middle)
    (known : Known world taskId (otherwise.map MissiveTimestamp.toRfc3339)) :
    Known world taskId (completedAt.map MissiveTimestamp.toRfc3339) := by
  unfold completedAtFor at ran
  split at ran
  · cases ran
    intro time same
    cases same
    exact Or.inl ((shown_now middle).earlier later)
  · cases ran
    exact known

/-! `stream`. -/

theorem mergedTaskUpsert_known {contextId : Option ContextId} {state : TaskState}
    {lastMessageId : Option MessageId} {upsert : TaskUpsert}
    (ran : Stream.mergedTaskUpsert agent taskId contextId state lastMessageId parameters middle =
      (.ok upsert, after)) (later : Later world middle)
    (same : middle.store.tasks = world.store.tasks) :
    Known world upsert.taskId (upsert.completedAt.map MissiveTimestamp.toRfc3339) := by
  obtain ⟨existing, between, read, rest⟩ := Effect.bind_returned ran
  cases read
  obtain ⟨completedAt, last, stamped, built⟩ := Effect.bind_returned rest
  have known : Known world taskId ((middle.store.tasks.find? taskId).bind TaskRecord.completedAt) := by
    rw [same]
    exact known_existing
  rw [← completedAt_copied] at known
  cases taskVersion_returned (Prod.mk.inj built).1
  exact completedAtFor_known stamped later known

theorem ensureTaskFromParts_dated {contextId : Option ContextId} {state : TaskState}
    {lastMessageId : Option MessageId}
    (ran : Stream.ensureTaskFromParts agent taskId contextId state lastMessageId parameters world =
      (.ok (), after)) : Dated world after.store.tasks := by
  obtain ⟨upsert, middle, merged, rest⟩ := Effect.bind_returned ran
  obtain ⟨row, last, wrote, done⟩ := Effect.bind_returned rest
  cases done
  obtain ⟨kept, _, _⟩ := mergedTaskUpsert_returned merged
  exact upsert_dated wrote (congrArg Store.tasks kept)
    (mergedTaskUpsert_known merged (later_refl world) rfl)

theorem streamRemoteTask_dated {task : RemoteTask} {streamMessageId : Option MessageId}
    (ran : Stream.upsertRemoteTask codec agent task streamMessageId parameters world =
      (.ok (), after)) : Dated world after.store.tasks := by
  obtain ⟨taskId, _, rest⟩ := Effect.lift_bind_returned ran
  obtain ⟨contextId, _, rest⟩ := Effect.lift_bind_returned rest
  obtain ⟨_, first, ensured, rest⟩ := Effect.bind_returned rest
  obtain ⟨merged, second, built, rest⟩ := Effect.bind_returned rest
  obtain ⟨value, _, rest⟩ := Effect.lift_bind_returned rest
  obtain ⟨row, third, wrote, rest⟩ := Effect.bind_returned rest
  obtain ⟨artifacts, fourth, stored, done⟩ := Effect.bind_returned rest
  cases done
  have context := (keeps_ensureContext tasks_ignore_contexts agent contextId).returned ensured
  have later := (ticks_ensureContext agent contextId).returned ensured
  have tail := (keeps_persistTaskArtifacts codec.toArtifactCodec tasks_ignore_artifacts _).returned stored
  obtain ⟨kept, _, _⟩ := mergedTaskUpsert_returned built
  have known := mergedTaskUpsert_known built later context
  rw [tail]
  exact upsert_dated wrote ((congrArg Store.tasks kept).trans context) known

theorem ticks_newLocalMessageId : Ticks newLocalMessageId :=
  ticks_bind ticks_newMessageId fun _ => ticks_lift _

theorem ticks_mergedTaskUpsert (contextId : Option ContextId) (state : TaskState)
    (lastMessageId : Option MessageId) :
    Ticks (Stream.mergedTaskUpsert agent taskId contextId state lastMessageId parameters) := by
  apply ticks_bind (ticks_readStore _)
  intro existing
  exact ticks_bind (ticks_completedAtFor _ _) fun _ => ticks_lift _

theorem ticks_ensureTaskFromParts (contextId : Option ContextId) (state : TaskState)
    (lastMessageId : Option MessageId) :
    Ticks (Stream.ensureTaskFromParts agent taskId contextId state lastMessageId parameters) := by
  apply ticks_bind (ticks_mergedTaskUpsert _ _ _)
  intro upsert
  exact ticks_bind (ticks_upsertRow _ _ _ _ _ _ _ _) fun _ => ticks_pure ()

theorem placeholder_dated {ids : EventIds}
    (ran : Stream.ensureTaskPlaceholderForMessageFk agent ids parameters world = (.ok (), after)) :
    Later world after ∧ Dated world after.store.tasks := by
  unfold Stream.ensureTaskPlaceholderForMessageFk at ran
  cases named : ids.taskId with
  | none =>
      rw [named] at ran
      cases ran
      exact ⟨later_refl world, dated_same rfl⟩
  | some taskId =>
      rw [named] at ran
      obtain ⟨known, middle, read, rest⟩ := Effect.bind_returned ran
      cases read
      cases shown : world.store.tasks.find? taskId with
      | some row =>
          simp only [shown] at rest
          cases rest
          exact ⟨later_refl world, dated_same rfl⟩
      | none =>
          simp only [shown] at rest
          exact ⟨(ticks_ensureTaskFromParts _ _ _).returned rest, ensureTaskFromParts_dated rest⟩

theorem keepTaskState_dated {ids : EventIds} {streamMessageId : Option MessageId}
    (ran : Stream.keepTaskState agent ids streamMessageId parameters world = (.ok (), after)) :
    Dated world after.store.tasks := by
  unfold Stream.keepTaskState at ran
  cases named : ids.taskId with
  | none =>
      rw [named] at ran
      cases ran
      exact dated_same rfl
  | some taskId =>
      rw [named] at ran
      obtain ⟨known, middle, read, rest⟩ := Effect.bind_returned ran
      cases read
      exact ensureTaskFromParts_dated rest

theorem ticks_writeArtifact (id : ArtifactId)
    (build : Option ArtifactRecord → Except MissiveError ArtifactUpsert) :
    Ticks (writeArtifact id build) := by
  apply ticks_bind (ticks_readStore _)
  intro existing
  exact ticks_bind (ticks_lift _) fun upsert => ticks_upsertRow _ _ _ _ _ _ _ _

theorem ticks_persistArtifactUpdate (codec : ArtifactCodec) (update : TaskArtifactUpdateEvent) :
    Ticks (persistArtifactUpdate codec update) := by
  apply ticks_bind (ticks_lift _)
  intro taskId
  apply ticks_bind (ticks_lift _)
  intro contextId
  apply ticks_bind (ticks_lift _)
  intro artifactId
  exact ticks_writeArtifact _ _

theorem persistTaskState_dated {event : StreamResponse} {ids : EventIds}
    {streamMessageId : Option MessageId}
    (ran : Stream.persistTaskStateForEvent codec agent event ids streamMessageId parameters world =
      (.ok (), after)) : Dated world after.store.tasks := by
  cases event with
  | task task => exact streamRemoteTask_dated ran
  | message message => exact keepTaskState_dated ran
  | statusUpdate update =>
      unfold Stream.persistTaskStateForEvent at ran
      cases named : ids.taskId with
      | none =>
          simp only [named] at ran
          cases ran
          exact dated_same rfl
      | some taskId =>
          simp only [named] at ran
          exact ensureTaskFromParts_dated ran
  | artifactUpdate update =>
      obtain ⟨record, middle, stored, rest⟩ := Effect.bind_returned ran
      have kept := (keeps_persistArtifactUpdate codec.toArtifactCodec tasks_ignore_artifacts _).returned stored
      exact dated_trans ((ticks_persistArtifactUpdate _ _).returned stored) (dated_same kept)
        (keepTaskState_dated rest)

theorem ticks_insertStreamEventMessage (event : StreamMessageEvent) (ids : EventIds)
    (base : Metadata) : Ticks (Stream.insertStreamEventMessage codec agent event ids base) := by
  apply ticks_bind (ticks_lift _)
  intro content
  apply ticks_bind ticks_newLocalMessageId
  intro messageId
  exact ticks_bind (ticks_lift _) fun _ => ticks_upsertRow _ _ _ _ _ _ _ _

theorem streamEvent_dated {event : StreamMessageEvent} {base : Metadata}
    {persisted : Stream.PersistedStreamEvent}
    (ran : Stream.persistStreamEvent codec agent event base parameters world =
      (.ok persisted, after)) : Dated world after.store.tasks := by
  have opened := transaction_returned ran
  obtain ⟨ids, _, rest⟩ := Effect.lift_bind_returned opened
  obtain ⟨_, first, ensured, rest⟩ := Effect.bind_returned rest
  obtain ⟨_, second, placed, rest⟩ := Effect.bind_returned rest
  obtain ⟨message, third, inserted, rest⟩ := Effect.bind_returned rest
  obtain ⟨_, fourth, stated, rest⟩ := Effect.bind_returned rest
  obtain ⟨journal, last, appended, done⟩ := Effect.bind_returned rest
  cases done
  have context := (keeps_ensureOptionalContext tasks_ignore_contexts agent _).returned ensured
  have told := (keeps_insertStreamEventMessage tasks_ignore_messages event ids base).returned inserted
  have tail := (keeps_appendStreamEvent tasks_ignore_events event ids base).returned appended
  have opening := (ticks_ensureOptionalContext agent _).returned ensured
  have telling := (ticks_insertStreamEventMessage event ids base).returned inserted
  obtain ⟨placing, placeholder⟩ := placeholder_dated placed
  rw [tail]
  apply dated_trans opening (dated_same context)
  apply dated_trans placing placeholder
  exact dated_trans telling (dated_same told) (persistTaskState_dated stated)

theorem streamRequest_dated {prepared : PreparedMessage} {stored : MessageRecord}
    (ran : Stream.persistStreamRequest codec agent prepared parameters world =
      (.ok stored, after)) : Dated world after.store.tasks := by
  have opened := transaction_returned ran
  obtain ⟨_, first, ensured, rest⟩ := Effect.bind_returned opened
  have context := (keeps_ensureOptionalContext tasks_ignore_contexts agent _).returned ensured
  have opening := (ticks_ensureOptionalContext agent _).returned ensured
  obtain ⟨_, second, requested, rest⟩ := Effect.bind_returned rest
  obtain ⟨message, third, inserted, rest⟩ := Effect.bind_returned rest
  obtain ⟨_, fourth, appended, done⟩ := Effect.bind_returned rest
  cases done
  have told := (keeps_insertRequestMessage tasks_ignore_messages _ _ _ _).returned inserted
  have tail := (keeps_appendRequestEvent tasks_ignore_events _ _ _ _).returned appended
  rw [tail, told]
  apply dated_trans opening (dated_same context)
  unfold Stream.ensureRequestedTask at requested
  cases named : prepared.requestedTaskId with
  | none =>
      simp only [named] at requested
      cases requested
      exact dated_same rfl
  | some taskId =>
      simp only [named] at requested
      exact ensureTaskFromParts_dated requested

/-! `send` and the refresh. -/

theorem sendRemoteTask_dated {task : RemoteTask} {lastMessageId : MessageId}
    (ran : Send.upsertRemoteTask codec agent task lastMessageId parameters world =
      (.ok (), after)) : Dated world after.store.tasks := by
  obtain ⟨taskId, _, rest⟩ := Effect.lift_bind_returned ran
  obtain ⟨contextId, _, rest⟩ := Effect.lift_bind_returned rest
  obtain ⟨_, first, ensured, rest⟩ := Effect.bind_returned rest
  obtain ⟨value, _, rest⟩ := Effect.lift_bind_returned rest
  obtain ⟨upsert, built, rest⟩ := Effect.lift_bind_returned rest
  obtain ⟨completedAt, second, stamped, rest⟩ := Effect.bind_returned rest
  obtain ⟨row, third, wrote, rest⟩ := Effect.bind_returned rest
  obtain ⟨artifacts, fourth, stored, done⟩ := Effect.bind_returned rest
  cases done
  have context := (keeps_ensureContext tasks_ignore_contexts agent contextId).returned ensured
  have later := (ticks_ensureContext agent contextId).returned ensured
  have tail := (keeps_persistTaskArtifacts codec.toArtifactCodec tasks_ignore_artifacts _).returned stored
  obtain ⟨kept, _⟩ := completedAtFor_returned stamped
  rw [tail]
  exact upsert_dated wrote ((congrArg Store.tasks kept).trans context)
    (completedAtFor_known stamped later known_none)

theorem sendPlaceholder_dated {contextId : Option ContextId}
    (ran : Send.ensureTaskPlaceholder agent taskId contextId parameters world = (.ok (), after)) :
    Dated world after.store.tasks := by
  obtain ⟨known, middle, read, rest⟩ := Effect.bind_returned ran
  cases read
  cases shown : world.store.tasks.find? taskId with
  | some row =>
      simp only [shown] at rest
      cases rest
      exact dated_same rfl
  | none =>
      simp only [shown] at rest
      obtain ⟨upsert, built, rest⟩ := Effect.lift_bind_returned rest
      obtain ⟨row, last, wrote, done⟩ := Effect.bind_returned rest
      cases done
      cases taskVersion_returned built
      exact upsert_dated wrote rfl known_none

theorem recordTask_dated {response : SendMessageResponse} {contextId : Option ContextId}
    {taskId : Option TaskId} {lastMessageId : MessageId}
    (ran : Send.recordTask codec agent response contextId taskId lastMessageId parameters world =
      (.ok (), after)) : Dated world after.store.tasks := by
  unfold Send.recordTask at ran
  split at ran
  · exact sendRemoteTask_dated ran
  · exact sendPlaceholder_dated ran
  · cases ran
    exact dated_same rfl

theorem ticks_responseIds (response : SendMessageResponse) : Ticks (Send.responseIds response) := by
  cases response with
  | message message =>
      apply ticks_bind (ticks_lift _)
      intro contextId
      apply ticks_bind (ticks_lift _)
      intro taskId
      exact ticks_bind (ticks_lift _) fun _ => ticks_pure _
  | task task =>
      apply ticks_bind (ticks_lift _)
      intro status
      apply ticks_bind (ticks_lift _)
      intro contextId
      apply ticks_bind (ticks_lift _)
      intro taskId
      cases status with
      | some messageId => exact ticks_pure _
      | none => exact ticks_bind ticks_newLocalMessageId fun _ => ticks_pure _

theorem send_dated {prepared : PreparedMessage} {outcome : SendMessageOutcome}
    {persisted : Send.PersistedSend}
    (ran : Send.persistSend codec agent prepared outcome parameters world =
      (.ok persisted, after)) : Dated world after.store.tasks := by
  have opened := transaction_returned ran
  obtain ⟨ids, start, parsed, rest⟩ := Effect.bind_returned opened
  obtain ⟨_, first, ensured, rest⟩ := Effect.bind_returned rest
  obtain ⟨_, second, recorded, rest⟩ := Effect.bind_returned rest
  have identified := (ticks_responseIds outcome.response).returned parsed
  have opening := (ticks_ensureOptionalContext agent _).returned ensured
  have named : start.store.tasks = world.store.tasks :=
    (keeps_responseIds outcome.response).returned parsed
  have context := (keeps_ensureOptionalContext tasks_ignore_contexts agent _).returned ensured
  have tail : after.store.tasks = second.store.tasks := by
    apply Keeps.returned _ rest
    apply keeps_bind (keeps_insertRequestMessage tasks_ignore_messages _ _ _ _)
    intro request
    apply keeps_bind
    · exact keeps_bind (keeps_lift _) fun _ => keeps_insertMessage tasks_ignore_messages _
    · intro response
      apply keeps_bind (keeps_appendRequestEvent tasks_ignore_events _ _ _ _)
      intro _
      apply keeps_bind (keeps_appendSendResponseEvent tasks_ignore_events _ _ _ _)
      intro _
      exact keeps_bind (keeps_appendHeldTaskEvent tasks_ignore_events _) fun _ => keeps_pure _
  rw [tail]
  apply dated_trans identified (dated_same named)
  exact dated_trans opening (dated_same context) (recordTask_dated recorded)

theorem refresh_dated {detail : String} {observed : List (String × Json)} {task : RemoteTask}
    {record : TaskRecord}
    (ran : Refresh.refreshTask codec detail observed agent task parameters world =
      (.ok record, after)) : Dated world after.store.tasks := by
  obtain ⟨taskId, _, rest⟩ := Effect.lift_bind_returned ran
  obtain ⟨contextId, _, rest⟩ := Effect.lift_bind_returned rest
  obtain ⟨_, first, ensured, rest⟩ := Effect.bind_returned rest
  obtain ⟨value, _, rest⟩ := Effect.lift_bind_returned rest
  obtain ⟨existing, second, read, rest⟩ := Effect.bind_returned rest
  cases read
  obtain ⟨upsert, _, rest⟩ := Effect.lift_bind_returned rest
  obtain ⟨completedAt, third, stamped, rest⟩ := Effect.bind_returned rest
  obtain ⟨row, fourth, wrote, rest⟩ := Effect.bind_returned rest
  obtain ⟨artifacts, fifth, stored, rest⟩ := Effect.bind_returned rest
  obtain ⟨_, sixth, noted, done⟩ := Effect.bind_returned rest
  cases done
  have context := (keeps_ensureContext tasks_ignore_contexts agent contextId).returned ensured
  have later := (ticks_ensureContext agent contextId).returned ensured
  have told := (keeps_persistTaskArtifacts codec.toArtifactCodec tasks_ignore_artifacts _).returned stored
  have tail := (keeps_appendWhenChanged tasks_ignore_events _ _ _ _).returned noted
  obtain ⟨kept, _⟩ := completedAtFor_returned stamped
  rw [tail, told]
  exact upsert_dated wrote ((congrArg Store.tasks kept).trans context)
    (completedAtFor_known stamped later known_none)

/-! The gateway. -/

theorem protocolTask_dated {task : RemoteTask} {record : TaskRecord}
    (ran : Jobs.upsertTaskFromProtocol codec agent task parameters world = (.ok record, after)) :
    Dated world after.store.tasks := by
  obtain ⟨taskId, _, rest⟩ := Effect.lift_bind_returned ran
  obtain ⟨contextId, _, rest⟩ := Effect.lift_bind_returned rest
  obtain ⟨_, first, ensured, rest⟩ := Effect.bind_returned rest
  obtain ⟨upsert, _, rest⟩ := Effect.lift_bind_returned rest
  obtain ⟨completedAt, second, stamped, wrote⟩ := Effect.bind_returned rest
  have context := (keeps_ensureContext tasks_ignore_contexts agent contextId).returned ensured
  have later := (ticks_ensureContext agent contextId).returned ensured
  obtain ⟨kept, _⟩ := completedAtFor_returned stamped
  exact upsert_dated wrote ((congrArg Store.tasks kept).trans context)
    (completedAtFor_known stamped later known_none)

theorem taskBase_known :
    Known world taskId ((taskBase (world.store.tasks.find? taskId) taskId agent).completedAt.map
      MissiveTimestamp.toRfc3339) := by
  obtain ⟨_, _, _, _, time⟩ := taskBase_columns agent (world.store.tasks.find? taskId) taskId
  rw [time]
  exact known_existing

theorem statusUpdate_dated {update : TaskStatusUpdateEvent} {record : TaskRecord}
    (ran : Jobs.upsertTaskFromStatusUpdate agent update parameters world = (.ok record, after)) :
    Dated world after.store.tasks := by
  obtain ⟨taskId, _, rest⟩ := Effect.lift_bind_returned ran
  obtain ⟨contextId, _, rest⟩ := Effect.lift_bind_returned rest
  obtain ⟨_, first, ensured, rest⟩ := Effect.bind_returned rest
  obtain ⟨existing, second, read, rest⟩ := Effect.bind_returned rest
  cases read
  obtain ⟨upsert, built, rest⟩ := Effect.lift_bind_returned rest
  obtain ⟨completedAt, third, stamped, wrote⟩ := Effect.bind_returned rest
  have context := (keeps_ensureContext tasks_ignore_contexts agent contextId).returned ensured
  have later := (ticks_ensureContext agent contextId).returned ensured
  obtain ⟨kept, _⟩ := completedAtFor_returned stamped
  obtain ⟨messageId, _, recorded⟩ := except_bind_returned built
  cases taskVersion_returned recorded
  have dated : Dated first after.store.tasks := by
    apply upsert_dated wrote (congrArg Store.tasks kept)
    change Known first (taskBase (first.store.tasks.find? taskId) taskId agent).taskId _
    rw [taskBase_taskId]
    exact completedAtFor_known stamped (later_refl first) taskBase_known
  exact dated_trans later (dated_same context) dated

theorem subscribedTask_dated {config : Subscription.SubscriptionManagerConfig}
    {event : StreamResponse} {details : EventIds}
    (ran : Subscription.recordSubscribedTask codec config agent event details world =
      (.ok (), after)) : Dated world after.store.tasks := by
  unfold Subscription.recordSubscribedTask at ran
  cases named : details.taskId with
  | none =>
      rw [named] at ran
      cases ran
      exact dated_same rfl
  | some taskId =>
      rw [named] at ran
      obtain ⟨existing, first, read, rest⟩ := Effect.bind_returned ran
      cases read
      obtain ⟨completedAt, second, stamped, rest⟩ := Effect.bind_returned rest
      obtain ⟨value, _, rest⟩ := Effect.lift_bind_returned rest
      obtain ⟨upsert, built, rest⟩ := Effect.lift_bind_returned rest
      obtain ⟨row, third, wrote, done⟩ := Effect.bind_returned rest
      cases done
      obtain ⟨kept, _⟩ := reportedCompletion_returned stamped
      have known : Known world taskId (completedAt.map MissiveTimestamp.toRfc3339) := by
        cases reported : Subscription.reportedState event with
        | none =>
            rw [reported] at stamped
            cases stamped
            exact taskBase_known
        | some state =>
            rw [reported] at stamped
            exact completedAtFor_known stamped (later_refl world) taskBase_known
      cases taskVersion_returned built
      apply upsert_dated wrote (congrArg Store.tasks kept)
      change Known world (taskBase (world.store.tasks.find? taskId) taskId agent).taskId _
      rwa [taskBase_taskId]

theorem jobSend_dated {config : JobManagerConfig} {job : GatewayJobRecord} {request : Message}
    {outcome : SendMessageOutcome} {links : Jobs.JobLinks}
    (ran : Jobs.persistSendOutcome codec config job agent request outcome world =
      (.ok links, after)) : Dated world after.store.tasks := by
  have opened := transaction_returned ran
  obtain ⟨parsed, _, rest⟩ := Effect.lift_bind_returned opened
  obtain ⟨_, first, ensured, rest⟩ := Effect.bind_returned rest
  obtain ⟨_, second, recorded, rest⟩ := Effect.bind_returned rest
  obtain ⟨_, third, journaled, done⟩ := Effect.bind_returned rest
  cases done
  have context := (keeps_ensureOptionalContext tasks_ignore_contexts agent _).returned ensured
  have tail := (keeps_appendJobEvent tasks_ignore_events _ _ _ _ _ _ _).returned journaled
  rw [tail]
  apply dated_trans ((ticks_ensureOptionalContext agent _).returned ensured) (dated_same context)
  unfold Jobs.recordSentTask at recorded
  cases shown : outcome.response with
  | task task =>
      rw [shown] at recorded
      obtain ⟨record, last, wrote, done⟩ := Effect.bind_returned recorded
      cases done
      exact protocolTask_dated wrote
  | message message =>
      rw [shown] at recorded
      cases recorded
      exact dated_same rfl

theorem streamedTask_dated {event : StreamResponse}
    (ran : Jobs.recordStreamedTask codec agent event parameters world = (.ok (), after)) :
    Dated world after.store.tasks := by
  cases event with
  | task task =>
      obtain ⟨record, last, wrote, done⟩ := Effect.bind_returned ran
      cases done
      exact protocolTask_dated wrote
  | statusUpdate update =>
      obtain ⟨record, last, wrote, done⟩ := Effect.bind_returned ran
      cases done
      exact statusUpdate_dated wrote
  | message message =>
      cases ran
      exact dated_same rfl
  | artifactUpdate update =>
      cases ran
      exact dated_same rfl

theorem jobStream_dated {config : JobManagerConfig} {job : GatewayJobRecord}
    {event : StreamMessageEvent} {details : EventIds}
    (ran : Jobs.persistStreamJobEvent codec config job agent event world = (.ok details, after)) :
    Dated world after.store.tasks := by
  obtain ⟨ids, _, rest⟩ := Effect.lift_bind_returned ran
  have opened := transaction_returned rest
  obtain ⟨_, first, ensured, rest⟩ := Effect.bind_returned opened
  obtain ⟨_, second, recorded, rest⟩ := Effect.bind_returned rest
  obtain ⟨_, third, journaled, done⟩ := Effect.bind_returned rest
  cases done
  have context := (keeps_ensureOptionalContext tasks_ignore_contexts agent _).returned ensured
  have tail := (keeps_appendJobEvent tasks_ignore_events _ _ _ _ _ _ _).returned journaled
  rw [tail]
  exact dated_trans ((ticks_ensureOptionalContext agent _).returned ensured) (dated_same context)
    (streamedTask_dated recorded)

theorem jobWait_dated {config : JobManagerConfig} {job : GatewayJobRecord}
    {outcome : GetTaskOutcome} {record : TaskRecord}
    (ran : Jobs.refreshTaskForWait codec config job agent outcome world = (.ok record, after)) :
    Dated world after.store.tasks := by
  have opened := transaction_returned ran
  obtain ⟨row, first, wrote, rest⟩ := Effect.bind_returned opened
  obtain ⟨_, second, journaled, done⟩ := Effect.bind_returned rest
  cases done
  have tail := (keeps_appendJobEvent tasks_ignore_events _ _ _ _ _ _ _).returned journaled
  rw [tail]
  exact protocolTask_dated wrote

theorem subscription_dated {config : Subscription.SubscriptionManagerConfig}
    {candidate : Subscription.SubscriptionCandidate} {event : StreamMessageEvent} {ended : Bool}
    (ran : Subscription.persistSubscriptionStreamEvent codec config candidate event world =
      (.ok ended, after)) : Dated world after.store.tasks := by
  have opened := transaction_returned ran
  obtain ⟨details, _, rest⟩ := Effect.lift_bind_returned opened
  obtain ⟨_, first, ensured, rest⟩ := Effect.bind_returned rest
  obtain ⟨_, second, recorded, rest⟩ := Effect.bind_returned rest
  obtain ⟨_, third, journaled, done⟩ := Effect.bind_returned rest
  cases done
  have context := (keeps_ensureOptionalContext tasks_ignore_contexts _ _).returned ensured
  have tail := (keeps_appendSubscriptionEvent tasks_ignore_events _ _ _ _).returned journaled
  rw [tail]
  exact dated_trans ((ticks_ensureOptionalContext _ _).returned ensured) (dated_same context)
    (subscribedTask_dated recorded)

/-- An operation that returned has stamped its row with a second shown meanwhile, if at all. -/
theorem run_dated (codec : Codec) (agent : AgentRecord) (operation : Operation)
    (ran : operation.run codec agent world = (.ok (), after)) : Dated world after.store.tasks := by
  cases operation with
  | streamRequest parameters prepared =>
      obtain ⟨_, inner⟩ := ignoreResult_returned ran
      exact streamRequest_dated inner
  | streamEvent parameters event base =>
      obtain ⟨_, inner⟩ := ignoreResult_returned ran
      exact streamEvent_dated inner
  | send parameters prepared outcome =>
      obtain ⟨_, inner⟩ := ignoreResult_returned ran
      exact send_dated inner
  | refresh parameters task =>
      obtain ⟨_, inner⟩ := ignoreResult_returned ran
      exact refresh_dated (transaction_returned inner)
  | barrier parameters task =>
      obtain ⟨_, inner⟩ := ignoreResult_returned ran
      exact refresh_dated (transaction_returned inner)
  | jobSend config job request outcome =>
      obtain ⟨_, inner⟩ := ignoreResult_returned ran
      exact jobSend_dated inner
  | jobStream config job event =>
      obtain ⟨_, inner⟩ := ignoreResult_returned ran
      exact jobStream_dated inner
  | jobWait config job outcome =>
      obtain ⟨_, inner⟩ := ignoreResult_returned ran
      exact jobWait_dated inner
  | subscription config task job interface event =>
      obtain ⟨_, inner⟩ := ignoreResult_returned ran
      exact subscription_dated inner

end Missive.TaskDates
