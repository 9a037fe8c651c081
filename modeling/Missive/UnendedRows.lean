import Missive.ContextDirectory
import Missive.JobRefinement
import Missive.PushConfigs
import Missive.RowDates
import Missive.SubscriptionScans

/-! The commands that write tasks, jobs and contexts without ending any of them. A row that has
ended after such a command had ended before it. -/
namespace Missive.UnendedRows

open JsonValue KeyedTable Missive.Core Schema Effects Repository BackgroundJobs Protocol
open TaskReports Frames ReportMoves RowDates Contexts
open Broadcast (ensureBcastContext)

variable {Result Other Item : Type} {world : World}

structure EndsNothing (before after : Store) : Prop where
  tasks : taskDates.EndsNone before.tasks after.tasks
  jobs : jobDates.EndsNone before.gatewayJobs after.gatewayJobs
  contexts : contextDates.EndsNone before.contexts after.contexts

theorem endsNothing_grows : Growth EndsNothing where
  refl := fun _ => ⟨endsNone_refl, endsNone_refl, endsNone_refl⟩
  trans := fun _ _ _ first last =>
    ⟨endsNone_trans first.tasks last.tasks, endsNone_trans first.jobs last.jobs,
      endsNone_trans first.contexts last.contexts⟩

-- The tables of the rows that end.
def ending (store : Store) : Table TaskRecord × Table GatewayJobRecord × Table ContextRecord :=
  (store.tasks, store.gatewayJobs, store.contexts)

theorem ending_ignores_events : IgnoresEvents ending := fun _ _ _ => rfl

theorem along_apart {action : Action Result} (keeps : Keeps ending action) :
    Along EndsNothing action := by
  intro world
  have same : ending (action world).2.store = ending world.store := keeps world
  obtain ⟨tasks, rest⟩ := Prod.mk.inj same
  obtain ⟨jobs, contexts⟩ := Prod.mk.inj rest
  constructor
  · rw [tasks]
    exact endsNone_refl
  · rw [jobs]
    exact endsNone_refl
  · rw [contexts]
    exact endsNone_refl

theorem along_appendEvent (input : EventInsert) : Along EndsNothing (appendEvent input) :=
  along_apart (keeps_appendEvent ending_ignores_events input)

/-! Upserts without an end. -/

theorem along_upsertTask {input : TaskUpsert} (unended : input.completedAt = none) :
    Along EndsNothing (upsertTask input) := by
  intro world
  unfold Grown
  rcases upsertRow_cases tasksTable _ _ _ _ input.taskId _ input.toRecord (fun _ _ => rfl) world with
    ⟨error, after, failed, same⟩ | ⟨_, _, wrote⟩
  · rw [upsertTask, failed, same]
    exact endsNothing_grows.refl _
  · rw [upsertTask, wrote]
    refine ⟨endsNone_put ?_, endsNone_refl, endsNone_refl⟩
    exact congrArg (Option.map MissiveTimestamp.toRfc3339) unended

theorem along_upsertGatewayJob {input : GatewayJobUpsert} (unended : input.completedAt = none) :
    Along EndsNothing (upsertGatewayJob input) := by
  intro world
  unfold Grown
  rcases upsertRow_cases gatewayJobsTable _ _ _ _ input.gatewayJobId _ input.toRecord
    (fun _ _ => rfl) world with ⟨error, after, failed, same⟩ | ⟨_, _, wrote⟩
  · rw [upsertGatewayJob, failed, same]
    exact endsNothing_grows.refl _
  · rw [upsertGatewayJob, wrote]
    refine ⟨endsNone_refl, endsNone_put ?_, endsNone_refl⟩
    exact congrArg (Option.map MissiveTimestamp.toRfc3339) unended

theorem along_upsertContext {input : ContextUpsert} (unended : input.closedAt = none) :
    Along EndsNothing (upsertContext input) := by
  intro world
  unfold Grown
  rcases upsertRow_cases contextsTable _ _ _ _ input.contextId _ input.toRecord
    (fun _ _ => rfl) world with ⟨error, after, failed, same⟩ | ⟨_, _, wrote⟩
  · rw [upsertContext, failed, same]
    exact endsNothing_grows.refl _
  · rw [upsertContext, wrote]
    refine ⟨endsNone_refl, endsNone_refl, endsNone_put ?_⟩
    exact congrArg (Option.map MissiveTimestamp.toRfc3339) unended

theorem along_deleteGatewayJob (id : GatewayJobId) : Along EndsNothing (deleteGatewayJob id) := by
  apply along_bind endsNothing_grows (along_readStore endsNothing_grows _)
  intro found
  apply along_bind endsNothing_grows _ fun _ => along_pure endsNothing_grows _
  exact fun world => ⟨endsNone_refl, endsNone_filter _, endsNone_refl⟩

-- What is looked up in the store decides, and the store stays as it is.
theorem along_read {query : Store → Option Item} {next : Option Item → Action Result}
    (known : ∀ item, Along EndsNothing (next (some item))) (absent : Along EndsNothing (next none)) :
    Along EndsNothing (readStore query >>= next) := by
  apply along_bind endsNothing_grows (along_readStore endsNothing_grows query)
  intro found
  cases found with
  | some item => exact known item
  | none => exact absent

theorem along_lifted {value : Except MissiveError Item} {next : Item → Action Result}
    (tail : ∀ item, value = .ok item → Along EndsNothing (next item)) :
    Along EndsNothing (Effect.lift value >>= next) :=
  fun world => endsNothing_grows.grown_lift_bind fun item shown => tail item shown world

theorem along_unit {action : Action Result} (inner : Along EndsNothing action) :
    Along EndsNothing (ignoreResult action) := along_ignoreResult endsNothing_grows inner

/-! Contexts. -/

theorem along_ensureContext (agent : AgentRecord) (contextId : ContextId) :
    Along EndsNothing (ensureContext agent contextId) :=
  along_read (fun _ => along_pure endsNothing_grows ()) (along_unit (along_upsertContext rfl))

theorem along_ensureBcastContext (contextId : ContextId) (group : GroupRecord) :
    Along EndsNothing (ensureBcastContext contextId group) := by
  apply along_read fun _ => along_pure endsNothing_grows false
  apply along_lifted
  intro collective _
  apply along_lifted
  intro metadata _
  exact along_bind endsNothing_grows (along_upsertContext rfl) fun _ => along_pure endsNothing_grows true

theorem along_ensureCollectiveContext (contextId : ContextId) (summary : String)
    (recorded : Except MissiveError Metadata) :
    Along EndsNothing (ensureCollectiveContext contextId summary recorded) := by
  apply along_read fun _ => along_pure endsNothing_grows ()
  apply along_lifted
  exact fun metadata _ => along_unit (along_upsertContext rfl)

theorem along_createContext (fromStr : String → Option Json) (args : ContextCreateArgs) :
    Along EndsNothing (createContext fromStr args) := by
  have grows := endsNothing_grows
  apply along_bind grows (along_quiet grows (ContextDirectory.quiet_parseOrGenerateContextId _))
  intro contextId
  apply along_bind grows (along_quiet grows (ContextDirectory.quiet_ensureContextAbsent _))
  intro _
  apply along_lifted
  intro name _
  apply along_bind grows (along_quiet grows (ContextDirectory.quiet_ensureContextNameAvailable _ _))
  intro _
  apply along_bind grows (along_quiet grows (ContextDirectory.quiet_resolveOptionalAgent _))
  intro agentAlias
  apply along_lifted
  intro summary _
  apply along_lifted
  exact fun metadata _ => along_upsertContext rfl

theorem along_forkContext (fromStr : String → Option Json) (args : ContextForkArgs) :
    Along EndsNothing (forkContext fromStr args) := by
  have grows := endsNothing_grows
  apply along_bind grows (along_quiet grows (ContextDirectory.quiet_resolveContextSelector _))
  intro parent
  apply along_bind grows (along_quiet grows (ContextDirectory.quiet_parseOrGenerateContextId _))
  intro childId
  apply along_bind grows (along_quiet grows (ContextDirectory.quiet_ensureContextAbsent _))
  intro _
  apply along_lifted
  intro name _
  apply along_bind grows (along_quiet grows (ContextDirectory.quiet_ensureContextNameAvailable _ _))
  intro _
  apply along_bind grows (along_quiet grows (ContextDirectory.quiet_forkedAgent _ _))
  intro agentAlias
  apply along_lifted
  intro summary _
  apply along_lifted
  intro given _
  apply along_bind grows (along_quiet grows (ContextDirectory.quiet_recordParentMetadata _ _))
  exact fun metadata => along_upsertContext rfl

theorem along_ensureContextLink (job : GatewayJobUpsert) :
    Along EndsNothing (ensureContextLink job) := by
  unfold ensureContextLink
  cases job.contextId with
  | none => exact along_pure endsNothing_grows ()
  | some contextId =>
      exact along_read (fun _ => along_pure endsNothing_grows ()) (along_unit (along_upsertContext rfl))

theorem along_appendWebhookEvent (event : EventInsert) :
    Along EndsNothing (appendWebhookEvent event) := by
  have grows := endsNothing_grows
  apply along_bind grows _ fun linked => along_appendEvent linked
  apply along_bind grows
  · unfold ensureEventContext
    cases event.contextId with
    | none => exact along_pure grows ()
    | some contextId =>
        exact along_read (fun _ => along_pure grows ()) (along_unit (along_upsertContext rfl))
  · intro _
    unfold withKnownTask
    cases event.taskId with
    | none => exact along_pure grows event
    | some taskId => exact along_read (fun _ => along_pure grows _) (along_pure grows _)

/-! Reports, of which only `ensure_context` writes contexts, and none writes jobs. -/

structure SparesOthers (before after : Store) : Prop where
  jobs : jobDates.EndsNone before.gatewayJobs after.gatewayJobs
  contexts : contextDates.EndsNone before.contexts after.contexts

theorem sparesOthers_grows : Growth SparesOthers where
  refl := fun _ => ⟨endsNone_refl, endsNone_refl⟩
  trans := fun _ _ _ first last =>
    ⟨endsNone_trans first.jobs last.jobs, endsNone_trans first.contexts last.contexts⟩

theorem along_others {action : Action Result} (jobs : Keeps Store.gatewayJobs action)
    (contexts : Keeps Store.contexts action) : Along SparesOthers action := by
  intro world
  have sameJobs : (action world).2.store.gatewayJobs = world.store.gatewayJobs := jobs world
  have sameContexts : (action world).2.store.contexts = world.store.contexts := contexts world
  constructor
  · rw [sameJobs]
    exact endsNone_refl
  · rw [sameContexts]
    exact endsNone_refl

theorem reports_spare_others : AllowsReports SparesOthers where
  toGrowth := sparesOthers_grows
  context := fun agent id world =>
    ⟨(along_ensureContext agent id world).jobs, (along_ensureContext agent id world).contexts⟩
  task := fun input => along_others (keeps_upsertTask (fun _ _ => rfl) input)
    (keeps_upsertTask (fun _ _ => rfl) input)
  artifact := fun id build => along_others (keeps_writeArtifact (fun _ _ => rfl) id build)
    (keeps_writeArtifact (fun _ _ => rfl) id build)
  message := fun input => along_others (keeps_insertMessage (fun _ _ => rfl) input)
    (keeps_insertMessage (fun _ _ => rfl) input)
  journal := fun journals => along_others (journals _ Store.gatewayJobs fun _ _ _ => rfl)
    (journals _ Store.contexts fun _ _ _ => rfl)

/-! Background jobs. -/

section Jobs

variable {Part : Type} {part : Store → Part}

theorem keeps_startUpsert (start : JobStart) (options : JobStartOptions)
    (parameters : ServiceParameters) : Keeps part (startUpsert start options parameters) := by
  have keeps_agent (agent : String) : Keeps part (ensureAgentKnown agent) := by
    apply keeps_bind (keeps_lift _)
    intro name
    apply keeps_bind _ fun _ => keeps_pure ()
    apply keeps_bind (keeps_readStore _)
    intro found
    cases found with
    | some record => exact keeps_pure record
    | none => exact keeps_raise _
  cases start with
  | send agent prepared => exact keeps_bind (keeps_agent agent) fun _ => keeps_lift _
  | stream agent force prepared => exact keeps_bind (keeps_agent agent) fun _ => keeps_lift _
  | wait args =>
      apply keeps_bind (keeps_lift _)
      intro _
      apply keeps_bind (keeps_lift _)
      intro taskId
      apply keeps_bind (keeps_lift _)
      intro agentAlias
      apply keeps_bind keeps_newMessageId
      intro messageId
      apply keeps_bind (keeps_lift _)
      intro jobId
      exact keeps_bind (keeps_lift _) fun _ => keeps_pure _
  | reduce args =>
      apply keeps_bind
      · apply keeps_bind (keeps_lift _)
        intro name
        apply keeps_bind (keeps_readStore _)
        intro known
        cases known with
        | true => exact keeps_pure ()
        | false => exact keeps_raise _
      · intro _
        apply keeps_bind (keeps_lift _)
        intro _
        apply keeps_bind (keeps_lift _)
        intro groupName
        apply keeps_bind (keeps_lift _)
        intro contextId
        apply keeps_bind (keeps_lift _)
        intro strategy
        apply keeps_bind keeps_newMessageId
        intro messageId
        apply keeps_bind (keeps_lift _)
        intro jobId
        exact keeps_bind (keeps_lift _) fun _ => keeps_pure _

theorem keeps_appendJobLifecycleEvent (ignores : IgnoresEvents part) (eventType : String)
    (job : GatewayJobRecord) (payload : Json) (config : JobManagerConfig) :
    Keeps part (appendJobLifecycleEvent eventType job payload config) := by
  apply keeps_bind
  · exact keeps_bind keeps_newMessageId fun _ => keeps_lift _
  · intro eventId
    apply keeps_bind (keeps_lift _)
    intro metadata
    exact keeps_bind (keeps_appendEvent ignores _) fun _ => keeps_pure ()

theorem keeps_appendCliJobEvent (ignores : IgnoresEvents part) (eventType : String)
    (job : GatewayJobRecord) (payload : Json) (parameters : ServiceParameters) :
    Keeps part (appendCliJobEvent eventType job payload parameters) := by
  apply keeps_bind (keeps_newCliEvent _ _)
  intro event
  apply keeps_bind (keeps_lift _)
  intro service
  apply keeps_bind (keeps_lift _)
  intro metadata
  exact keeps_bind (keeps_appendEvent ignores _) fun _ => keeps_pure ()

end Jobs

theorem along_ensureTaskLink (job : GatewayJobUpsert) (parameters : ServiceParameters) :
    Along EndsNothing (ensureTaskLink job parameters) := by
  unfold ensureTaskLink
  cases job.taskId with
  | none => exact along_pure endsNothing_grows ()
  | some taskId =>
      apply along_read fun _ => along_pure endsNothing_grows ()
      cases job.agentAlias with
      | none => exact along_quiet endsNothing_grows (keeps_raise _)
      | some agentAlias =>
          apply along_lifted
          intro task built
          obtain ⟨metadata, _, same⟩ := except_bind_returned built
          cases same
          exact along_unit (along_upsertTask rfl)

theorem along_startJob (start : JobStart) (options : JobStartOptions)
    (parameters : ServiceParameters) : Along EndsNothing (startJob start options parameters) := by
  have grows := endsNothing_grows
  intro world
  unfold startJob
  have quiet : Keeps id (startUpsert start options parameters) := keeps_startUpsert _ _ _
  have same : (startUpsert start options parameters world).2.store = world.store := quiet world
  rw [Effect.bind_run]
  cases ran : startUpsert start options parameters world with
  | mk outcome middle =>
      rw [ran] at same
      cases outcome with
      | error error =>
          unfold Grown
          rw [same]
          exact grows.refl _
      | ok upsert =>
          have unended : upsert.completedAt = none := by
            have enqueued := (JobRefinement.startUpsert_enqueued ran).completedAt
            exact Option.map_eq_none_iff.mp enqueued
          have rest : Along EndsNothing (do
              ensureContextLink upsert
              ensureTaskLink upsert parameters
              let job ← upsertGatewayJob upsert
              appendCliJobEvent "missive.job.enqueued" job (enqueuedPayload job) parameters
              pure job) := by
            apply along_bind grows (along_ensureContextLink upsert)
            intro _
            apply along_bind grows (along_ensureTaskLink upsert parameters)
            intro _
            apply along_bind grows (along_upsertGatewayJob unended)
            intro job
            apply along_bind grows _ fun _ => along_pure grows job
            exact along_apart (keeps_appendCliJobEvent ending_ignores_events _ _ _ _)
          have moved := rest middle
          unfold Grown at moved ⊢
          rwa [same] at moved

theorem along_claimJob (config : JobManagerConfig) (job : GatewayJobRecord) :
    Along EndsNothing (claimJob config job) := by
  have grows := endsNothing_grows
  apply along_bind grows (along_quiet grows (SubscriptionScans.keeps_timestampAfter _))
  intro lockedUntil
  apply along_lifted
  intro upsert built
  obtain ⟨metadata, _, same⟩ := except_bind_returned built
  cases same
  apply along_bind grows (along_upsertGatewayJob rfl)
  intro claimed
  apply along_bind grows _ fun _ => along_pure grows claimed
  exact along_apart (keeps_appendJobLifecycleEvent ending_ignores_events _ _ _ _)

theorem along_retryJob (config : JobManagerConfig) (job : GatewayJobRecord) (error : String) :
    Along EndsNothing (retryJob config job error) := by
  have grows := endsNothing_grows
  apply along_bind grows (along_quiet grows (SubscriptionScans.keeps_timestampAfter _))
  intro nextRunAt
  apply along_lifted
  intro retry built
  obtain ⟨reasoned, _, rest⟩ := except_bind_returned built
  obtain ⟨metadata, _, same⟩ := except_bind_returned rest
  cases same
  apply along_bind grows (along_upsertGatewayJob rfl)
  exact fun updated => along_apart (keeps_appendJobLifecycleEvent ending_ignores_events _ _ _ _)

theorem along_scanBackgroundJobs (config : JobManagerConfig) :
    Along EndsNothing (scanBackgroundJobs config) := by
  have grows := endsNothing_grows
  apply along_bind grows (along_quiet grows keeps_nowUtc)
  intro now
  apply along_bind grows (along_readStore grows _)
  intro jobs
  apply along_fold grows
  intro scan job
  unfold scanJob
  split
  · split
    · exact along_pure grows _
    · exact along_bind grows (along_claimJob config job) fun _ => along_pure grows _
  · exact along_pure grows scan

/-! Subscriptions. -/

section Subscriptions

open Subscriptions
open GatewayPersistence.Subscription (SubscriptionManagerConfig)
open JobWorkers (NegotiatedInterface)

variable {config : SubscriptionManagerConfig}

theorem along_lifecycleEvent (eventType : String) (job : GatewayJobRecord)
    (agent : Option AgentAlias) (taskId : Option TaskId) (payload : Json) :
    Along EndsNothing (appendSubscriptionLifecycleEvent eventType job agent taskId payload config) :=
  along_apart (SubscriptionScans.keeps_appendSubscriptionLifecycleEvent ending_ignores_events _ _ _ _ _)

theorem along_cleanupJob (snapshot : SubscriptionSnapshot) (job : GatewayJobRecord) :
    Along EndsNothing (cleanupJob config snapshot job) := by
  have grows := endsNothing_grows
  unfold cleanupJob
  split
  · exact along_pure grows snapshot
  · apply along_bind grows (along_readStore grows _)
    intro stale
    cases stale with
    | false => exact along_pure grows snapshot
    | true =>
        apply along_bind grows (along_lifecycleEvent _ _ _ _ _)
        intro _
        exact along_bind grows (along_deleteGatewayJob _) fun _ => along_pure grows _

theorem along_claimSubscription (job : GatewayJobRecord) (agent : AgentRecord) (task : TaskRecord)
    (interface : NegotiatedInterface) :
    Along EndsNothing (claimSubscription job agent task interface config) := by
  have grows := endsNothing_grows
  apply along_bind grows (along_quiet grows (SubscriptionScans.keeps_timestampAfter _))
  intro lockedUntil
  apply along_lifted
  intro running built
  obtain ⟨metadata, _, same⟩ := except_bind_returned built
  cases same
  apply along_bind grows (along_upsertGatewayJob rfl)
  intro claimed
  exact along_bind grows (along_lifecycleEvent _ _ _ _ _) fun _ => along_pure grows _

theorem along_subscriptionJob (jobId : GatewayJobId) (agent : AgentRecord) (task : TaskRecord)
    (interface : NegotiatedInterface) :
    Along EndsNothing (subscriptionJob jobId agent task interface config) := by
  apply along_read
  · exact fun job => along_pure endsNothing_grows job
  · apply along_lifted
    intro upsert built
    obtain ⟨metadata, _, same⟩ := except_bind_returned built
    cases same
    exact along_upsertGatewayJob rfl

theorem along_scanSubscriptionJobs (cards : AgentCards) :
    Along EndsNothing (scanSubscriptionJobs cards config) := by
  have grows := endsNothing_grows
  apply along_bind grows (along_quiet grows keeps_nowUtc)
  intro now
  apply along_bind grows
  · apply along_bind grows (along_readStore grows _)
    exact fun jobs => along_fold grows along_cleanupJob _ jobs
  · intro snapshot
    apply along_bind grows (along_readStore grows _)
    intro tasks
    apply along_fold grows
    intro scan task
    unfold scanTask
    split
    · exact along_pure grows scan
    · apply along_read _ (along_pure grows scan)
      intro agent
      apply along_lifted
      intro interface _
      cases interface with
      | none => exact along_pure grows _
      | some interface =>
          apply along_lifted
          intro jobId _
          apply along_bind grows (along_subscriptionJob jobId agent task interface)
          intro job
          unfold Subscriptions.scanJob
          simp only
          split
          · exact along_bind grows (along_claimSubscription job agent task interface)
              fun _ => along_pure grows _
          · exact along_pure grows _

theorem along_finishSubscriptionAttempt (attempt : SubscriptionAttempt) :
    Along EndsNothing (finishSubscriptionAttempt config attempt) := by
  have grows := endsNothing_grows
  apply along_bind grows (along_readStore grows _)
  intro found
  cases found with
  | none => exact along_pure grows _
  | some job =>
      apply along_bind grows (along_readStore grows _)
      intro task
      split
      · apply along_bind grows (along_lifecycleEvent _ _ _ _ _)
        intro _
        exact along_bind grows (along_deleteGatewayJob _) fun _ => along_pure grows _
      · apply along_bind grows (along_quiet grows (SubscriptionScans.keeps_timestampAfter _))
        intro nextRunAt
        apply along_lifted
        intro retry built
        obtain ⟨delayed, _, rest⟩ := except_bind_returned built
        obtain ⟨metadata, _, same⟩ := except_bind_returned rest
        cases same
        apply along_bind grows (along_upsertGatewayJob rfl)
        intro updated
        exact along_bind grows (along_lifecycleEvent _ _ _ _ _) fun _ => along_pure grows _

end Subscriptions

/-! Push configs. -/

section Push

open PushConfigs

variable {encodeConfig : TaskPushNotificationConfig → Option Json} {agent : AgentRecord}
  {taskId : TaskId} {parameters : ServiceParameters}

theorem along_ensureTaskPlaceholder :
    Along EndsNothing (PushConfigs.ensureTaskPlaceholder agent taskId parameters) := by
  apply along_read fun _ => along_pure endsNothing_grows ()
  apply along_lifted
  intro task built
  cases taskVersion_returned built
  exact along_unit (along_upsertTask rfl)

theorem along_upsertPushConfigRecord (config : TaskPushNotificationConfig) (metadata : Metadata) :
    Along EndsNothing (upsertPushConfigRecord encodeConfig agent taskId parameters config metadata) := by
  apply along_apart
  apply keeps_bind
  · unfold pushConfigIdFromRemote
    split
    · exact keeps_lift _
    · split
      · exact keeps_pure _
      · exact keeps_bind keeps_newMessageId fun _ => keeps_lift _
  · intro pushConfigId
    apply keeps_bind (keeps_lift _)
    intro rawConfig
    apply keeps_bind (keeps_readStore _)
    intro existing
    apply keeps_bind (keeps_lift _)
    intro combined
    exact keeps_upsertRow (fun _ _ => rfl) fun _ _ => rfl

theorem along_appendPushEvent (eventType : String) (pushConfigId : Option PushConfigId)
    (payload : Json) :
    Along EndsNothing (appendPushEvent agent taskId parameters eventType pushConfigId payload) := by
  apply along_apart
  apply keeps_bind (keeps_newCliEvent _ _)
  intro event
  apply keeps_bind (keeps_lift _)
  intro versioned
  apply keeps_bind (keeps_lift _)
  intro metadata
  exact keeps_bind (keeps_appendEvent ending_ignores_events _) fun _ => keeps_pure ()

theorem along_deletePushConfig (id : PushConfigId) : Along EndsNothing (deletePushConfig id) := by
  apply along_apart
  apply keeps_bind (keeps_readStore _)
  intro found
  apply keeps_bind (keeps_bind keeps_nowUtc fun _ => keeps_pure _)
  intro time
  apply keeps_bind _ fun _ => keeps_pure _
  intro world
  change ending (withoutConfig time id world.store) = ending world.store
  unfold withoutConfig
  split
  · split <;> rfl
  · rfl

theorem along_persistRemotePushConfig (config : TaskPushNotificationConfig) (metadata : Metadata)
    (eventType : String) (rawJson : Json) : Along EndsNothing
      (persistRemotePushConfig encodeConfig agent taskId parameters config metadata eventType rawJson) := by
  have grows := endsNothing_grows
  apply along_transaction grows
  apply along_bind grows along_ensureTaskPlaceholder
  intro _
  apply along_bind grows (along_upsertPushConfigRecord config metadata)
  intro record
  exact along_bind grows (along_appendPushEvent _ _ _) fun _ => along_pure grows record

theorem along_pushOperation (operation : PushOperation) :
    Along EndsNothing (operation.run encodeConfig agent taskId parameters) := by
  have grows := endsNothing_grows
  cases operation with
  | create config metadata rawJson =>
      exact along_unit (along_persistRemotePushConfig config metadata _ rawJson)
  | get config rawJson => exact along_unit (along_persistRemotePushConfig config .new _ rawJson)
  | list configs rawJson =>
      apply along_unit
      apply along_transaction grows
      apply along_bind grows along_ensureTaskPlaceholder
      intro _
      apply along_bind grows
      · apply along_fold grows
        intro records config
        exact along_bind grows (along_upsertPushConfigRecord config .new) fun _ => along_pure grows _
      · intro records
        exact along_bind grows (along_appendPushEvent _ _ _) fun _ => along_pure grows records
  | delete configId rawJson =>
      apply along_unit
      apply along_transaction grows
      apply along_bind grows along_ensureTaskPlaceholder
      intro _
      apply along_bind grows (along_deletePushConfig configId)
      intro deleted
      exact along_bind grows (along_appendPushEvent _ _ _) fun _ => along_pure grows deleted

end Push

end Missive.UnendedRows
