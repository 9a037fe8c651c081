import Missive.TaskReports

/-! How persisting a report moves the store. A relation between stores that holds along
every row a report writes, and along the events it appends, holds along the whole of it,
whether it returns or fails. -/
namespace Missive.ReportMoves

open JsonValue Missive.Core Schema Effects Repository Artifacts BackgroundJobs Protocol
open TaskPersistence GatewayPersistence TaskReports Frames

variable {Result Other Item : Type} {growth : Store → Store → Prop} {codec : Codec}
  {agent : AgentRecord} {parameters : ServiceParameters}

def Grown (growth : Store → Store → Prop) (before after : World) : Prop :=
  growth before.store after.store

def Along (growth : Store → Store → Prop) (action : Action Result) : Prop :=
  Effect.Moves (Grown growth) action

structure Growth (growth : Store → Store → Prop) : Prop where
  refl : ∀ store, growth store store
  trans : ∀ first middle last, growth first middle → growth middle last → growth first last

theorem Growth.grown_refl (grows : Growth growth) (world : World) : Grown growth world world :=
  grows.refl world.store

theorem Growth.grown_trans (grows : Growth growth) (first middle last : World)
    (before : Grown growth first middle) (after : Grown growth middle last) :
    Grown growth first last := grows.trans _ _ _ before after

theorem Growth.grown_bind (grows : Growth growth) {first : Action Result}
    {next : Result → Action Other} {world : World} (head : Grown growth world (first world).2)
    (tail : ∀ result, Along growth (next result)) :
    Grown growth world ((first >>= next) world).2 := by
  rw [Effect.bind_run]
  cases shown : first world with
  | mk outcome middle =>
      rw [shown] at head
      cases outcome with
      | error error => exact head
      | ok result => exact grows.grown_trans _ _ _ head (tail result middle)

theorem Growth.grown_lift_bind (grows : Growth growth) {first : Except MissiveError Result}
    {next : Result → Action Other} {world : World}
    (tail : ∀ result, first = .ok result → Grown growth world (next result world).2) :
    Grown growth world ((Effect.lift first >>= next) world).2 := by
  rw [Effect.bind_run]
  cases shown : first with
  | error error => exact grows.refl world.store
  | ok result => exact tail result shown

theorem along_bind (grows : Growth growth) {first : Action Result} {next : Result → Action Other}
    (head : Along growth first) (tail : ∀ result, Along growth (next result)) :
    Along growth (first >>= next) := fun world => grows.grown_bind (head world) tail

theorem along_fold (grows : Growth growth) {step : Result → Item → Action Result}
    (each : ∀ result item, Along growth (step result item)) (start : Result) (items : List Item) :
    Along growth (Effect.fold step start items) :=
  Effect.moves_fold grows.grown_refl grows.grown_trans each start items

-- An action that leaves the whole store alone.
theorem along_quiet (grows : Growth growth) {action : Action Result} (quiet : Keeps id action) :
    Along growth action := by
  intro world
  have same : (action world).2.store = world.store := quiet world
  unfold Grown
  rw [same]
  exact grows.refl _

theorem along_pure (grows : Growth growth) (result : Result) :
    Along growth (pure result : Action Result) := along_quiet grows (keeps_pure result)

theorem along_lift (grows : Growth growth) (result : Except MissiveError Result) :
    Along growth (Effect.lift result) := along_quiet grows (keeps_lift result)

theorem along_readStore (grows : Growth growth) (query : Store → Result) :
    Along growth (readStore query) := along_quiet grows (keeps_readStore query)

theorem along_transaction (grows : Growth growth) {body : Action Result}
    (inner : Along growth body) : Along growth (transaction body) := by
  have undone (before after : World) (_ : Grown growth before after) :
      Grown growth before (after.withStore before.store) := grows.refl before.store
  exact Effect.moves_transaction undone inner

theorem along_ignoreResult (grows : Growth growth) {action : Action Result}
    (inner : Along growth action) : Along growth (ignoreResult action) :=
  along_bind grows inner fun _ => along_pure grows ()

/-- What the rows of a task move along, and with the messages all rows of a report. -/
structure AllowsTaskRows (growth : Store → Store → Prop) : Prop extends Growth growth where
  context : ∀ agent id, Along growth (ensureContext agent id)
  task : ∀ input, Along growth (upsertTask input)
  artifact : ∀ id build, Along growth (writeArtifact id build)

structure AllowsRows (growth : Store → Store → Prop) : Prop extends AllowsTaskRows growth where
  message : ∀ input, Along growth (insertMessage input)

-- An action that writes events at most.
def Journals (action : Action Result) : Prop :=
  ∀ (Part : Type) (part : Store → Part), IgnoresEvents part → Keeps part action

structure AllowsReports (growth : Store → Store → Prop) : Prop extends AllowsRows growth where
  journal : ∀ {Result : Type} {action : Action Result}, Journals action → Along growth action

theorem AllowsTaskRows.optionalContext (allows : AllowsTaskRows growth) (agent : AgentRecord)
    (contextId : Option ContextId) : Along growth (ensureOptionalContext agent contextId) := by
  cases contextId with
  | some contextId => exact allows.context agent contextId
  | none => exact along_pure allows.toGrowth ()

theorem AllowsTaskRows.taskArtifacts (allows : AllowsTaskRows growth) (codec : ArtifactCodec)
    (task : Task) : Along growth (persistTaskArtifacts codec task) := by
  have grows := allows.toGrowth
  unfold persistTaskArtifacts
  split
  · exact along_pure grows []
  · apply along_bind grows (along_lift grows _)
    intro taskId
    apply along_bind grows (along_lift grows _)
    intro contextId
    apply along_fold grows
    intro stored artifact
    apply along_bind grows (along_lift grows _)
    intro artifactId
    exact along_bind grows (allows.artifact _ _) fun _ => along_pure grows _

theorem AllowsTaskRows.artifactUpdate (allows : AllowsTaskRows growth) (codec : ArtifactCodec)
    (update : TaskArtifactUpdateEvent) : Along growth (persistArtifactUpdate codec update) := by
  have grows := allows.toGrowth
  apply along_bind grows (along_lift grows _)
  intro taskId
  apply along_bind grows (along_lift grows _)
  intro contextId
  apply along_bind grows (along_lift grows _)
  intro artifactId
  exact allows.artifact _ _

theorem AllowsRows.requestMessage (allows : AllowsRows growth) (codec : Codec) (detail : String)
    (prepared : PreparedMessage) (contextId : Option ContextId) (taskId : Option TaskId) :
    Along growth (insertRequestMessage codec detail agent prepared contextId taskId) := by
  have grows := allows.toGrowth
  exact along_bind grows (along_lift grows _) fun _ => allows.message _

theorem AllowsRows.streamEventMessage (allows : AllowsRows growth) (codec : Codec)
    (event : StreamMessageEvent) (ids : EventIds) (base : Metadata) :
    Along growth (Stream.insertStreamEventMessage codec agent event ids base) := by
  have grows := allows.toGrowth
  apply along_bind grows (along_lift grows _)
  intro content
  apply along_bind grows
  · exact along_quiet grows (keeps_bind keeps_newMessageId fun _ => keeps_lift _)
  · intro messageId
    exact along_bind grows (along_lift grows _) fun _ => allows.message _

theorem AllowsReports.jobEvent (allows : AllowsReports growth) (config : JobManagerConfig)
    (job : GatewayJobRecord) (links : Jobs.JobLinks) (start eventType : String) (payload : Json)
    (extra : Metadata → Except MissiveError Metadata) :
    Along growth (Jobs.appendJobEvent config job agent links start eventType payload extra) :=
  allows.journal fun _ _ ignores => keeps_appendJobEvent ignores _ _ _ _ _ _ _

/-! `stream`. -/

theorem along_mergedTaskUpsert (grows : Growth growth) (taskId : TaskId)
    (contextId : Option ContextId) (state : TaskState) (lastMessageId : Option MessageId) :
    Along growth (Stream.mergedTaskUpsert agent taskId contextId state lastMessageId parameters) := by
  apply along_bind grows (along_readStore grows _)
  intro existing
  exact along_bind grows (along_quiet grows (keeps_completedAtFor _ _)) fun _ => along_lift grows _

theorem along_ensureTaskFromParts (allows : AllowsTaskRows growth) (taskId : TaskId)
    (contextId : Option ContextId) (state : TaskState) (lastMessageId : Option MessageId) :
    Along growth (Stream.ensureTaskFromParts agent taskId contextId state lastMessageId parameters) := by
  have grows := allows.toGrowth
  apply along_bind grows (along_mergedTaskUpsert grows _ _ _ _)
  intro upsert
  exact along_bind grows (allows.task _) fun _ => along_pure grows ()

theorem along_streamRemoteTask (allows : AllowsTaskRows growth) (task : RemoteTask)
    (streamMessageId : Option MessageId) :
    Along growth (Stream.upsertRemoteTask codec agent task streamMessageId parameters) := by
  have grows := allows.toGrowth
  apply along_bind grows (along_lift grows _)
  intro taskId
  apply along_bind grows (along_lift grows _)
  intro contextId
  apply along_bind grows (allows.context _ _)
  intro _
  apply along_bind grows (along_mergedTaskUpsert grows _ _ _ _)
  intro merged
  apply along_bind grows (along_lift grows _)
  intro value
  apply along_bind grows (allows.task _)
  intro _
  exact along_bind grows (allows.taskArtifacts _ _) fun _ => along_pure grows ()

theorem along_keepTaskState (allows : AllowsTaskRows growth) (ids : EventIds)
    (streamMessageId : Option MessageId) :
    Along growth (Stream.keepTaskState agent ids streamMessageId parameters) := by
  have grows := allows.toGrowth
  unfold Stream.keepTaskState
  split
  · exact along_pure grows ()
  · apply along_bind grows (along_readStore grows _)
    exact fun _ => along_ensureTaskFromParts allows _ _ _ _

theorem along_persistTaskState (allows : AllowsTaskRows growth) (event : StreamResponse)
    (ids : EventIds) (streamMessageId : Option MessageId) :
    Along growth (Stream.persistTaskStateForEvent codec agent event ids streamMessageId parameters) := by
  have grows := allows.toGrowth
  cases event with
  | task task => exact along_streamRemoteTask allows task streamMessageId
  | message message => exact along_keepTaskState allows ids streamMessageId
  | artifactUpdate update =>
      apply along_bind grows (allows.artifactUpdate _ _)
      intro _
      exact along_keepTaskState allows ids streamMessageId
  | statusUpdate update =>
      cases named : ids.taskId with
      | none =>
          simp only [Stream.persistTaskStateForEvent, named]
          exact along_pure grows ()
      | some taskId =>
          simp only [Stream.persistTaskStateForEvent, named]
          exact along_ensureTaskFromParts allows _ _ _ _

theorem along_placeholder (allows : AllowsTaskRows growth) (ids : EventIds) :
    Along growth (Stream.ensureTaskPlaceholderForMessageFk agent ids parameters) := by
  have grows := allows.toGrowth
  unfold Stream.ensureTaskPlaceholderForMessageFk
  split
  · exact along_pure grows ()
  · apply along_bind grows (along_readStore grows _)
    intro known
    cases known with
    | some _ => exact along_pure grows ()
    | none => exact along_ensureTaskFromParts allows _ _ _ _

theorem along_persistStreamEvent (allows : AllowsReports growth) (event : StreamMessageEvent)
    (base : Metadata) : Along growth (Stream.persistStreamEvent codec agent event base parameters) := by
  have grows := allows.toGrowth
  apply along_transaction grows
  apply along_bind grows (along_lift grows _)
  intro ids
  apply along_bind grows (allows.optionalContext _ _)
  intro _
  apply along_bind grows (along_placeholder allows.toAllowsTaskRows ids)
  intro _
  apply along_bind grows (allows.streamEventMessage _ _ _ _)
  intro message
  apply along_bind grows (along_persistTaskState allows.toAllowsTaskRows _ _ _)
  intro _
  apply along_bind grows
    (allows.journal fun _ _ ignores => keeps_appendStreamEvent ignores _ _ _)
  exact fun _ => along_pure grows _

theorem along_ensureRequestedTask (allows : AllowsTaskRows growth) (prepared : PreparedMessage) :
    Along growth (Stream.ensureRequestedTask agent prepared parameters) := by
  have grows := allows.toGrowth
  unfold Stream.ensureRequestedTask
  split
  · exact along_ensureTaskFromParts allows _ _ _ _
  · exact along_pure grows ()

theorem along_persistStreamRequest (allows : AllowsReports growth) (prepared : PreparedMessage) :
    Along growth (Stream.persistStreamRequest codec agent prepared parameters) := by
  have grows := allows.toGrowth
  apply along_transaction grows
  apply along_bind grows (allows.optionalContext _ _)
  intro _
  apply along_bind grows (along_ensureRequestedTask allows.toAllowsTaskRows _)
  intro _
  apply along_bind grows (allows.requestMessage _ _ _ _ _)
  intro stored
  apply along_bind grows
    (allows.journal fun _ _ ignores => keeps_appendRequestEvent ignores _ _ _ _)
  exact fun _ => along_pure grows _

/-! `send` and the refresh. -/

theorem along_sendRemoteTask (allows : AllowsTaskRows growth) (task : RemoteTask)
    (lastMessageId : MessageId) :
    Along growth (Send.upsertRemoteTask codec agent task lastMessageId parameters) := by
  have grows := allows.toGrowth
  apply along_bind grows (along_lift grows _)
  intro taskId
  apply along_bind grows (along_lift grows _)
  intro contextId
  apply along_bind grows (allows.context _ _)
  intro _
  apply along_bind grows (along_lift grows _)
  intro value
  apply along_bind grows (along_lift grows _)
  intro upsert
  apply along_bind grows (along_quiet grows (keeps_completedAtFor _ _))
  intro completedAt
  apply along_bind grows (allows.task _)
  intro _
  exact along_bind grows (allows.taskArtifacts _ _) fun _ => along_pure grows ()

theorem along_recordTask (allows : AllowsTaskRows growth) (response : SendMessageResponse)
    (contextId : Option ContextId) (taskId : Option TaskId) (lastMessageId : MessageId) :
    Along growth (Send.recordTask codec agent response contextId taskId lastMessageId parameters) := by
  have grows := allows.toGrowth
  unfold Send.recordTask
  split
  · exact along_sendRemoteTask allows _ _
  · apply along_bind grows (along_readStore grows _)
    intro known
    cases known with
    | some _ => exact along_pure grows ()
    | none =>
        apply along_bind grows (along_lift grows _)
        intro upsert
        exact along_bind grows (allows.task _) fun _ => along_pure grows ()
  · exact along_pure grows ()

-- The events of an exchange may concern the part, if they leave it alone.
theorem along_exchange (allows : AllowsRows growth) (prepared : PreparedMessage)
    (outcome : SendMessageOutcome)
    (request : ∀ contextId taskId, Along growth
      (appendRequestEvent codec "a2a.send.request" agent prepared contextId taskId parameters))
    (response : ∀ message contextId taskId, Along growth
      (Send.appendSendResponseEvent codec agent outcome message contextId taskId parameters))
    (held : Along growth (Send.appendHeldTaskEvent codec agent outcome.response parameters)) :
    Along growth (Send.persistSend codec agent prepared outcome parameters) := by
  have grows := allows.toGrowth
  apply along_transaction grows
  apply along_bind grows (along_quiet grows (keeps_responseIds _))
  intro ids
  apply along_bind grows (allows.optionalContext _ _)
  intro _
  apply along_bind grows (along_recordTask allows.toAllowsTaskRows _ _ _ _)
  intro _
  apply along_bind grows (allows.requestMessage _ _ _ _ _)
  intro stored
  apply along_bind grows
  · exact along_bind grows (along_lift grows _) fun _ => allows.message _
  · intro message
    apply along_bind grows (request _ _)
    intro _
    apply along_bind grows (response message _ _)
    intro _
    exact along_bind grows held fun _ => along_pure grows _

theorem along_persistSend (allows : AllowsReports growth) (prepared : PreparedMessage)
    (outcome : SendMessageOutcome) :
    Along growth (Send.persistSend codec agent prepared outcome parameters) :=
  along_exchange allows.toAllowsRows prepared outcome
    (fun _ _ => allows.journal fun _ _ ignores => keeps_appendRequestEvent ignores _ _ _ _)
    (fun _ _ _ => allows.journal fun _ _ ignores => keeps_appendSendResponseEvent ignores _ _ _ _)
    (allows.journal fun _ _ ignores => keeps_appendHeldTaskEvent ignores _)

theorem along_refreshTask (allows : AllowsReports growth) (detail : String)
    (observed : List (String × Json)) (task : RemoteTask) :
    Along growth (Refresh.refreshTask codec detail observed agent task parameters) := by
  have grows := allows.toGrowth
  apply along_bind grows (along_lift grows _)
  intro taskId
  apply along_bind grows (along_lift grows _)
  intro contextId
  apply along_bind grows (allows.context _ _)
  intro _
  apply along_bind grows (along_lift grows _)
  intro value
  apply along_bind grows (along_readStore grows _)
  intro existing
  apply along_bind grows (along_lift grows _)
  intro upsert
  apply along_bind grows (along_quiet grows (keeps_completedAtFor _ _))
  intro completedAt
  apply along_bind grows (allows.task _)
  intro record
  apply along_bind grows (allows.taskArtifacts _ _)
  intro _
  apply along_bind grows
    (allows.journal fun _ _ ignores => keeps_appendWhenChanged ignores _ _ _ _)
  exact fun _ => along_pure grows _

/-! The gateway. -/

theorem along_upsertTaskFromProtocol (allows : AllowsTaskRows growth) (task : RemoteTask) :
    Along growth (Jobs.upsertTaskFromProtocol codec agent task parameters) := by
  have grows := allows.toGrowth
  apply along_bind grows (along_lift grows _)
  intro taskId
  apply along_bind grows (along_lift grows _)
  intro contextId
  apply along_bind grows (allows.context _ _)
  intro _
  apply along_bind grows (along_lift grows _)
  intro upsert
  exact along_bind grows (along_quiet grows (keeps_completedAtFor _ _)) fun _ => allows.task _

theorem along_upsertTaskFromStatusUpdate (allows : AllowsTaskRows growth)
    (update : TaskStatusUpdateEvent) :
    Along growth (Jobs.upsertTaskFromStatusUpdate agent update parameters) := by
  have grows := allows.toGrowth
  apply along_bind grows (along_lift grows _)
  intro taskId
  apply along_bind grows (along_lift grows _)
  intro contextId
  apply along_bind grows (allows.context _ _)
  intro _
  apply along_bind grows (along_readStore grows _)
  intro existing
  apply along_bind grows (along_lift grows _)
  intro upsert
  exact along_bind grows (along_quiet grows (keeps_completedAtFor _ _)) fun _ => allows.task _

theorem along_recordSentTask (allows : AllowsTaskRows growth) (response : SendMessageResponse) :
    Along growth (Jobs.recordSentTask codec agent response parameters) := by
  have grows := allows.toGrowth
  cases response with
  | task task =>
      exact along_bind grows (along_upsertTaskFromProtocol allows _) fun _ => along_pure grows ()
  | message message => exact along_pure grows ()

theorem along_persistSendOutcome (allows : AllowsReports growth) (config : JobManagerConfig)
    (job : GatewayJobRecord) (request : Message) (outcome : SendMessageOutcome) :
    Along growth (Jobs.persistSendOutcome codec config job agent request outcome) := by
  have grows := allows.toGrowth
  apply along_transaction grows
  apply along_bind grows (along_lift grows _)
  intro links
  apply along_bind grows (allows.optionalContext _ _)
  intro _
  apply along_bind grows (along_recordSentTask allows.toAllowsTaskRows _)
  intro _
  exact along_bind grows (allows.jobEvent _ _ _ _ _ _ _) fun _ => along_pure grows _

theorem along_recordStreamedTask (allows : AllowsTaskRows growth) (event : StreamResponse) :
    Along growth (Jobs.recordStreamedTask codec agent event parameters) := by
  have grows := allows.toGrowth
  cases event with
  | task task =>
      exact along_bind grows (along_upsertTaskFromProtocol allows _) fun _ => along_pure grows ()
  | statusUpdate update =>
      exact along_bind grows (along_upsertTaskFromStatusUpdate allows _) fun _ => along_pure grows ()
  | message message => exact along_pure grows ()
  | artifactUpdate update => exact along_pure grows ()

theorem along_persistStreamJobEvent (allows : AllowsReports growth) (config : JobManagerConfig)
    (job : GatewayJobRecord) (event : StreamMessageEvent) :
    Along growth (Jobs.persistStreamJobEvent codec config job agent event) := by
  have grows := allows.toGrowth
  apply along_bind grows (along_lift grows _)
  intro details
  apply along_transaction grows
  apply along_bind grows (allows.optionalContext _ _)
  intro _
  apply along_bind grows (along_recordStreamedTask allows.toAllowsTaskRows _)
  intro _
  exact along_bind grows (allows.jobEvent _ _ _ _ _ _ _) fun _ => along_pure grows _

theorem along_refreshTaskForWait (allows : AllowsReports growth) (config : JobManagerConfig)
    (job : GatewayJobRecord) (outcome : GetTaskOutcome) :
    Along growth (Jobs.refreshTaskForWait codec config job agent outcome) := by
  have grows := allows.toGrowth
  apply along_transaction grows
  apply along_bind grows (along_upsertTaskFromProtocol allows.toAllowsTaskRows _)
  intro record
  exact along_bind grows (allows.jobEvent _ _ _ _ _ _ _) fun _ => along_pure grows _

theorem along_recordSubscribedTask (allows : AllowsTaskRows growth)
    (config : Subscription.SubscriptionManagerConfig) (event : StreamResponse) (details : EventIds) :
    Along growth (Subscription.recordSubscribedTask codec config agent event details) := by
  have grows := allows.toGrowth
  unfold Subscription.recordSubscribedTask
  split
  · exact along_pure grows ()
  · apply along_bind grows (along_readStore grows _)
    intro existing
    apply along_bind grows
    · unfold Subscription.reportedCompletion
      split
      · exact along_quiet grows (keeps_completedAtFor _ _)
      · exact along_pure grows _
    · intro completedAt
      apply along_bind grows (along_lift grows _)
      intro value
      apply along_bind grows (along_lift grows _)
      intro upsert
      exact along_bind grows (allows.task _) fun _ => along_pure grows ()

theorem along_persistSubscriptionEvent (allows : AllowsReports growth)
    (config : Subscription.SubscriptionManagerConfig)
    (candidate : Subscription.SubscriptionCandidate) (event : StreamMessageEvent) :
    Along growth (Subscription.persistSubscriptionStreamEvent codec config candidate event) := by
  have grows := allows.toGrowth
  apply along_transaction grows
  apply along_bind grows (along_lift grows _)
  intro details
  apply along_bind grows (allows.optionalContext _ _)
  intro _
  apply along_bind grows (along_recordSubscribedTask allows.toAllowsTaskRows _ _ _)
  intro _
  apply along_bind grows
    (allows.journal fun _ _ ignores => keeps_appendSubscriptionEvent ignores _ _ _ _)
  exact fun _ => along_pure grows _

/-- Persisting a report, on any of the paths. -/
theorem along_run (allows : AllowsReports growth) (codec : Codec) (agent : AgentRecord)
    (operation : Operation) : Along growth (operation.run codec agent) := by
  have grows := allows.toGrowth
  cases operation with
  | streamRequest parameters prepared =>
      exact along_ignoreResult grows (along_persistStreamRequest allows prepared)
  | streamEvent parameters event base =>
      exact along_ignoreResult grows (along_persistStreamEvent allows event base)
  | send parameters prepared outcome =>
      exact along_ignoreResult grows (along_persistSend allows prepared outcome)
  | refresh parameters task =>
      exact along_ignoreResult grows (along_transaction grows (along_refreshTask allows _ _ task))
  | barrier parameters task =>
      exact along_ignoreResult grows (along_transaction grows (along_refreshTask allows _ _ task))
  | jobSend config job request outcome =>
      exact along_ignoreResult grows (along_persistSendOutcome allows config job request outcome)
  | jobStream config job event =>
      exact along_ignoreResult grows (along_persistStreamJobEvent allows config job event)
  | jobWait config job outcome =>
      exact along_ignoreResult grows (along_refreshTaskForWait allows config job outcome)
  | subscription config task job interface event =>
      exact along_ignoreResult grows (along_persistSubscriptionEvent allows config _ event)

end Missive.ReportMoves
