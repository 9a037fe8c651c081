import Missive.TaskCompletion
import Missive.TaskDates
import Missive.UnendedRows

/-! Rows that end are stored with both dates, and the end is read back with whole seconds. It is
not before the creation as long as the second in which a row ends had not begun when it was
created. -/
namespace Missive.CompletionOrder

open JsonValue KeyedTable Missive.Core Schema Effects Repository BackgroundJobs Protocol
open TaskReports Frames ReportMoves RowDates TaskDates UnendedRows Contexts
open Broadcast (ensureBcastContext)
open Artifacts (firstTask)
open TaskIsolation (echoRecord plainTask)
open GatewayPersistence.Subscription (SubscriptionManagerConfig)
open Subscriptions (AgentCards SubscriptionAttempt)
open PushConfigs (TaskPushNotificationConfig PushOperation)

variable {Result Other : Type} {world after : World}

structure AllInOrder (store : Store) : Prop where
  tasks : taskDates.AllInOrder store.tasks
  jobs : jobDates.AllInOrder store.gatewayJobs
  contexts : contextDates.AllInOrder store.contexts

/-! Reports. -/

def KeepTaskCreation (before after : Store) : Prop :=
  taskDates.KeepCreation before.tasks after.tasks

theorem upsertTask_keepsCreation (input : TaskUpsert) :
    Along KeepTaskCreation (upsertTask input) := by
  intro world
  unfold Grown KeepTaskCreation
  rcases upsertRow_cases tasksTable _ _ _ _ input.taskId _ input.toRecord (fun _ _ => rfl) world with
    ⟨error, after, failed, same⟩ | ⟨_, _, wrote⟩
  · rw [upsertTask, failed, same]
    exact keepCreation_refl
  · rw [upsertTask, wrote]
    apply keepCreation_put
    intro old found
    change (Option.elim (world.store.tasks.find? input.taskId) _ TaskRecord.createdAt) = _
    rw [show world.store.tasks.find? input.taskId = some old from found]
    rfl

theorem along_keepingTasks {action : Action Result} (keeps : Keeps Store.tasks action) :
    Along KeepTaskCreation action := by
  intro world
  have same : (action world).2.store.tasks = world.store.tasks := keeps world
  unfold Grown KeepTaskCreation
  rw [same]
  exact keepCreation_refl

theorem reports_keep_creation : AllowsReports KeepTaskCreation where
  refl := fun _ => keepCreation_refl
  trans := fun _ _ _ => keepCreation_trans
  context := fun agent id => along_keepingTasks (keeps_ensureContext (fun _ _ => rfl) agent id)
  task := upsertTask_keepsCreation
  artifact := fun id build => along_keepingTasks (keeps_writeArtifact (fun _ _ => rfl) id build)
  message := fun input => along_keepingTasks (keeps_insertMessage (fun _ _ => rfl) input)
  journal := fun journals => along_keepingTasks (journals _ Store.tasks tasks_ignore_events)

/-- A time that is not stamped anew is the time of the row found. -/
def Continues (existing : Option TaskRecord) (columns : TaskColumns) : Prop :=
  ∀ time, columns.completion = .kept (some time) → existing.bind TaskRecord.completedAt = some time

theorem completion_continues {state : TaskState} {otherwise : Option SecondTime} {time : SecondTime}
    (kept : completionOf state otherwise = .kept (some time)) : otherwise = some time := by
  unfold completionOf at kept
  split at kept
  · cases kept
  · cases kept
    rfl

theorem merged_continues {existing : Option TaskRecord} {columns : TaskColumns} {state : TaskState}
    (timeOf : columns.completion = completionOf state (existing.bind TaskRecord.completedAt)) :
    Continues existing columns := by
  intro time kept
  rw [timeOf] at kept
  exact completion_continues kept

theorem fresh_continues {existing : Option TaskRecord} {agent : AgentAlias} {contextId : ContextId}
    {state : TaskState} {value : Option Json} {version : String} :
    Continues existing (freshColumns agent contextId state value version) := by
  intro time kept
  cases completion_continues kept

theorem copied_continues {existing : Option TaskRecord} {agent : AgentAlias}
    {contextId : Option ContextId} {state : Option TaskState} {value : Option Json → Option Json}
    {version : String} : Continues existing (copiedColumns agent contextId state value version existing) := by
  intro time kept
  cases state with
  | some state => exact completion_continues kept
  | none => exact Completion.kept.inj kept

theorem freshWrite_continues {codec : Codec} {agent : AgentAlias} {version : String}
    {task : RemoteTask} {state : TaskState} {write : TaskWrite} {existing : Option TaskRecord}
    {columns : TaskColumns} (parsed : freshWrite codec agent version task state = .ok (some write))
    (shown : write.columns existing = some columns) : Continues existing columns := by
  obtain ⟨taskId, _, rest⟩ := except_bind_returned parsed
  obtain ⟨contextId, _, same⟩ := except_bind_returned rest
  cases same
  cases shown
  exact fresh_continues

theorem write_continues (codec : Codec) (agent : AgentAlias) (operation : Operation)
    {write : TaskWrite} {existing : Option TaskRecord} {columns : TaskColumns}
    (parsed : operation.write codec agent = .ok (some write))
    (shown : write.columns existing = some columns) : Continues existing columns := by
  cases operation with
  | streamRequest parameters prepared =>
      obtain ⟨taskId, _, made⟩ := Option.map_eq_some_iff.mp (Except.ok.inj parsed)
      cases made
      cases shown
      exact merged_continues (show _ = completionOf .submitted _ from rfl)
  | streamEvent parameters event base =>
      obtain ⟨ids, _, same⟩ := except_bind_returned parsed
      obtain ⟨taskId, _, made⟩ := Option.map_eq_some_iff.mp (Except.ok.inj same)
      cases made
      cases shown
      obtain ⟨sequence, sse, event, raw⟩ := event
      cases event <;> exact merged_continues rfl
  | send parameters prepared outcome =>
      obtain ⟨url, status, response, raw⟩ := outcome
      cases response with
      | task task => exact freshWrite_continues parsed shown
      | message message =>
          obtain ⟨contextId, _, rest⟩ := except_bind_returned parsed
          obtain ⟨named, _, same⟩ := except_bind_returned rest
          obtain ⟨taskId, _, made⟩ := Option.map_eq_some_iff.mp (Except.ok.inj same)
          cases made
          cases existing with
          | some row => cases shown
          | none =>
              cases shown
              intro time kept
              cases kept
  | refresh parameters task => exact freshWrite_continues parsed shown
  | barrier parameters task => exact freshWrite_continues parsed shown
  | jobSend config job request outcome =>
      obtain ⟨url, status, response, raw⟩ := outcome
      cases response with
      | task task => exact freshWrite_continues parsed shown
      | message message => cases parsed
  | jobStream config job event =>
      obtain ⟨sequence, sse, event, raw⟩ := event
      cases event with
      | task task => exact freshWrite_continues parsed shown
      | statusUpdate update =>
          obtain ⟨taskId, _, rest⟩ := except_bind_returned parsed
          obtain ⟨contextId, _, same⟩ := except_bind_returned rest
          cases same
          cases shown
          exact copied_continues
      | message message => cases parsed
      | artifactUpdate update => cases parsed
  | jobWait config job outcome => exact freshWrite_continues parsed shown
  | subscription config task job interface event =>
      obtain ⟨ids, _, same⟩ := except_bind_returned parsed
      obtain ⟨taskId, _, made⟩ := Option.map_eq_some_iff.mp (Except.ok.inj same)
      cases made
      cases shown
      exact copied_continues

/-- What the operation stamps, it finds stored and not younger than the second it starts in. -/
def StampsSeasoned (codec : Codec) (agent : AgentRecord) (operation : Operation) (world : World) :
    Prop :=
  ∀ write columns, operation.write codec agent.aliasName = .ok (some write) →
    write.columns (world.store.tasks.find? write.taskId) = some columns →
    columns.completion = .stamped → ∃ old, world.store.tasks.find? write.taskId = some old ∧
      Precedes old.createdAt world

theorem report_inOrder (codec : Codec) (agent : AgentRecord) (operation : Operation)
    (steady : NonDecreasing world) (all : taskDates.AllInOrder world.store.tasks)
    (seasoned : StampsSeasoned codec agent operation world) :
    taskDates.AllInOrder (operation.run codec agent world).2.store.tasks := by
  have kept := along_run reports_keep_creation codec agent operation world
  cases ran : operation.run codec agent world with
  | mk outcome after =>
      rw [ran] at kept
      cases outcome with
      | error error =>
          rw [run_failed codec agent operation ran]
          exact all
      | ok _ =>
          have dated := run_dated codec agent operation ran
          obtain ⟨write, parsed, applied⟩ := run_applied codec agent operation ran
          cases write with
          | none =>
              rw [show after.store.tasks = world.store.tasks from applied]
              exact all
          | some write =>
              cases shown : write.columns (world.store.tasks.find? write.taskId) with
              | none =>
                  simp only [Applied, shown] at applied
                  rw [applied]
                  exact all
              | some columns =>
                  simp only [Applied, shown] at applied
                  obtain ⟨row, put, keyed, fits⟩ := applied
                  have stored : after.store.tasks.find? write.taskId = some row := by
                    rw [put, ← keyed]
                    exact world.store.tasks.find?_put_self row
                  -- a row that was there before keeps its creation
                  have created {old : TaskRecord}
                      (found : world.store.tasks.find? write.taskId = some old) :
                      row.createdAt = old.createdAt := by
                    obtain ⟨new, there, same⟩ := kept write.taskId old found
                    cases there.symm.trans stored
                    exact same
                  have inherited {old : TaskRecord} {time : SecondTime}
                      (found : world.store.tasks.find? write.taskId = some old)
                      (ended : old.completedAt = some time) :
                      (parseMillis row.createdAt).nanos ≤ time.parse.nanos := by
                    rw [created found]
                    exact all old ((world.store.tasks.find?_eq_some _ old).mp found).1 time ended
                  rw [put]
                  apply allInOrder_put all
                  intro time ended
                  change row.completedAt = some time at ended
                  have fitting := fits.completion
                  cases completion : columns.completion with
                  | stamped =>
                      obtain ⟨old, found, precedes⟩ := seasoned write columns parsed shown completion
                      have member := ((after.store.tasks.find?_eq_some _ row).mp stored).1
                      rcases dated row member time ended with recent | ⟨other, there, before⟩
                      · change (parseMillis row.createdAt).nanos ≤ _
                        rw [created found]
                        exact precedes_shown steady precedes recent
                      · rw [keyed] at there
                        exact inherited there before
                  | kept time' =>
                      rw [completion] at fitting
                      have same : time' = some time := (show row.completedAt = time' from fitting).symm.trans ended
                      rw [same] at completion
                      have before := write_continues codec agent.aliasName operation parsed shown time
                        completion
                      obtain ⟨old, found, ended'⟩ := Option.bind_eq_some_iff.mp before
                      exact inherited found ended'

/-! Jobs. -/

-- The head of a sequence leaves the part, whatever becomes of it afterwards.
theorem holds_keeping_bind {Part : Type} {part : Store → Part} {holds : Part → Prop}
    {first : Action Result} {next : Result → Action Other} (keeps : Keeps part first)
    (held : holds (part world.store))
    (tail : ∀ result middle, first world = (.ok result, middle) → part middle.store = part world.store →
      holds (part (next result middle).2.store)) :
    holds (part ((first >>= next) world).2.store) := by
  have same : part (first world).2.store = part world.store := keeps world
  rw [Effect.bind_run]
  cases shown : first world with
  | mk outcome middle =>
      rw [shown] at same
      cases outcome with
      | ok result => exact tail result middle shown same
      | error error =>
          rw [← same] at held
          exact held

theorem holds_lift_bind {Part : Type} {part : Store → Part} {holds : Part → Prop}
    {first : Except MissiveError Result} {next : Result → Action Other}
    (held : holds (part world.store))
    (tail : ∀ result, first = .ok result → holds (part (next result world).2.store)) :
    holds (part ((Effect.lift first >>= next) world).2.store) := by
  apply holds_keeping_bind (keeps_lift first) held
  intro result middle lifted _
  obtain ⟨shown, same⟩ := Prod.mk.inj lifted
  rw [← same]
  exact tail result shown

-- A reading of the clock leaves the store.
theorem holds_now_bind {Part : Type} {part : Store → Part} {holds : Part → Prop}
    {next : MissiveTimestamp → Action Result}
    (tail : holds (part (next (world.clock world.drawn) world.later).2.store)) :
    holds (part ((nowUtc >>= next) world).2.store) := tail

theorem upsertJob_inOrder {upsert : GatewayJobUpsert} {next : GatewayJobRecord → Action Result}
    (all : jobDates.AllInOrder world.store.gatewayJobs)
    (here : ∀ time, jobDates.InOrder
      (upsert.toRecord time (world.store.gatewayJobs.find? upsert.gatewayJobId)))
    (tail : ∀ row, Keeps Store.gatewayJobs (next row)) :
    jobDates.AllInOrder ((upsertGatewayJob upsert >>= next) world).2.store.gatewayJobs := by
  rcases upsertRow_cases gatewayJobsTable upsert.check "upserting gateway job" "gateway job"
      upsert.gatewayJobId.text upsert.gatewayJobId upsert.refused upsert.toRecord
      (fun _ _ => rfl) world with ⟨error, after, failed, same⟩ | ⟨_, _, wrote⟩
  · rw [Effect.bind_error _ _ _ _ _ (show upsertGatewayJob upsert world = _ from failed), same]
    exact all
  · rw [Effect.bind_ok _ _ _ _ _ (show upsertGatewayJob upsert world = _ from wrote)]
    rw [show (next _ _).2.store.gatewayJobs = _ from tail _ _]
    exact allInOrder_put all (here _)

theorem ended_inOrder {upsert : GatewayJobUpsert} {job : GatewayJobRecord} {time : SecondTime}
    (created : MilliTime) (steady : NonDecreasing world) (precedes : Precedes job.createdAt world)
    (shown : Shown world time)
    (ended : upsert.completedAt.map MissiveTimestamp.toRfc3339 = some time) :
    jobDates.InOrder (upsert.toRecord created (some job)) := by
  intro completed done
  have same : completed = time := Option.some.inj (done.symm.trans ended)
  rw [same]
  exact precedes_shown steady precedes shown

theorem finishTerminalJob_inOrder (config : JobManagerConfig) {job : GatewayJobRecord}
    (state : GatewayJobState) (output : JobExecutionOutput) (eventType : String)
    (steady : NonDecreasing world) (all : jobDates.AllInOrder world.store.gatewayJobs)
    (found : world.store.gatewayJobs.find? job.gatewayJobId = some job)
    (precedes : Precedes job.createdAt world) :
    jobDates.AllInOrder
      (finishTerminalJob config job state output eventType world).2.store.gatewayJobs := by
  apply holds_now_bind
  have held : jobDates.AllInOrder world.later.store.gatewayJobs := all
  apply holds_lift_bind held
  intro upsert built
  obtain ⟨metadata, _, made⟩ := except_bind_returned built
  cases made
  apply upsertJob_inOrder held
  · intro time
    change jobDates.InOrder (GatewayJobUpsert.toRecord _ time
      (world.store.gatewayJobs.find? job.gatewayJobId))
    rw [found]
    exact ended_inOrder time steady precedes (shown_now world) rfl
  · exact fun row => keeps_appendJobLifecycleEvent (fun _ _ _ => rfl) _ _ _ _

/-- Whether the result ends the job. -/
def endsJob (job : GatewayJobRecord) : JobAttemptResult → Bool
  | .retriableError _ => !(nextRetryCount job.retryCount < job.maxAttempts)
  | _ => true

theorem finishJob_inOrder (config : JobManagerConfig) {job : GatewayJobRecord}
    (result : JobAttemptResult) (steady : NonDecreasing world)
    (all : jobDates.AllInOrder world.store.gatewayJobs)
    (found : world.store.gatewayJobs.find? job.gatewayJobId = some job)
    (seasoned : endsJob job result = true → Precedes job.createdAt world) :
    jobDates.AllInOrder (finishJob config job result world).2.store.gatewayJobs := by
  unfold finishJob
  by_cases cancelled : job.state = .cancelled
  · rw [if_pos cancelled]
    have ignores : IgnoresEvents Store.gatewayJobs := fun _ _ _ => rfl
    have same := keeps_appendJobLifecycleEvent ignores
      "missive.gateway.job.cancelled" job (cancelledWhileRunning config job) config world
    rw [show (_ : World).store.gatewayJobs = _ from same]
    exact all
  · rw [if_neg cancelled]
    cases result with
    | succeeded output => exact finishTerminalJob_inOrder config _ _ _ steady all found (seasoned rfl)
    | cancelled output => exact finishTerminalJob_inOrder config _ _ _ steady all found (seasoned rfl)
    | failedPermanent output error =>
        exact finishTerminalJob_inOrder config _ _ _ steady all found (seasoned rfl)
    | retriableError error =>
        simp only [finishRetryOrFail]
        by_cases remaining : nextRetryCount job.retryCount < job.maxAttempts
        · rw [if_pos remaining]
          exact allInOrder_endsNone all (along_retryJob config job error world).jobs
        · rw [if_neg remaining]
          exact finishTerminalJob_inOrder config _ _ _ steady all found
            (seasoned (by simp [endsJob, remaining]))

def FinishesSeasoned (attempt : JobAttempt) (world : World) : Prop :=
  ∀ job, world.store.gatewayJobs.find? attempt.jobId = some job →
    endsJob job attempt.result = true → Precedes job.createdAt world

theorem finishJobAttempt_inOrder (config : JobManagerConfig) (attempt : JobAttempt)
    (steady : NonDecreasing world) (all : jobDates.AllInOrder world.store.gatewayJobs)
    (seasoned : FinishesSeasoned attempt world) :
    jobDates.AllInOrder (finishJobAttempt config attempt world).2.store.gatewayJobs := by
  cases found : world.store.gatewayJobs.find? attempt.jobId with
  | none =>
      rw [JobRefinement.finishJobAttempt_none config attempt world found]
      exact all
  | some job =>
      rw [JobRefinement.finishJobAttempt_some config attempt world job found]
      apply finishJob_inOrder config attempt.result steady all _ (seasoned job found)
      rwa [show job.gatewayJobId = attempt.jobId from world.store.gatewayJobs.find?_key found]

def CancelsSeasoned (args : JobCancelArgs) (world : World) : Prop :=
  ∀ job ∈ world.store.gatewayJobs.rows, job.gatewayJobId.text = args.jobId →
    Precedes job.createdAt world

theorem cancelJob_inOrder {remote : RemoteCancel} (args : JobCancelArgs)
    (parameters : ServiceParameters) (ticks : ∀ job, Ticks (remote.run job))
    (steady : NonDecreasing world) (all : jobDates.AllInOrder world.store.gatewayJobs)
    (seasoned : CancelsSeasoned args world) :
    jobDates.AllInOrder (BackgroundJobs.cancelJob remote args parameters world).2.store.gatewayJobs := by
  apply holds_lift_bind all
  intro jobId named
  apply holds_keeping_bind (JobRefinement.keeps_getExistingBackgroundJob jobId) all
  intro job middle looked _
  obtain ⟨found, _, rfl⟩ := JobRefinement.getExistingBackgroundJob_returned looked
  have own : job.gatewayJobId = jobId := middle.store.gatewayJobs.find?_key found
  have precedes : Precedes job.createdAt middle :=
    seasoned job ((middle.store.gatewayJobs.find?_eq_some _ job).mp found).1
      (own ▸ Id.text_of_new named)
  apply holds_keeping_bind (JobRefinement.keeps_cancelRemotely remote _ job) all
  intro remoteResult asked answered kept
  have later : Later middle asked := by
    apply Ticks.returned _ answered
    unfold cancelRemotely
    split
    · exact ticks_bind (ticks job) fun _ => ticks_pure _
    · exact ticks_pure none
  rw [← kept] at all
  apply holds_now_bind
  have held : jobDates.AllInOrder asked.later.store.gatewayJobs := all
  apply holds_lift_bind held
  intro upsert built
  obtain ⟨metadata, _, made⟩ := except_bind_returned built
  cases made
  apply upsertJob_inOrder held
  · intro time
    change jobDates.InOrder (GatewayJobUpsert.toRecord _ time
      (asked.store.gatewayJobs.find? job.gatewayJobId))
    rw [kept, own, found]
    exact ended_inOrder time steady precedes ((shown_now asked).earlier later) rfl
  · intro row
    apply keeps_bind (keeps_appendCliJobEvent (fun _ _ _ => rfl) _ _ _ _)
    exact fun _ => keeps_pure row

/-! What ends a job leaves the tasks and the contexts. -/

section Others

variable {Part : Type} {part : Store → Part}

theorem keeps_finishJobAttempt (jobs : Ignores part gatewayJobsTable) (events : IgnoresEvents part)
    (config : JobManagerConfig) (attempt : JobAttempt) :
    Keeps part (finishJobAttempt config attempt) := by
  have keeps_terminal (job : GatewayJobRecord) (state : GatewayJobState)
      (output : JobExecutionOutput) (eventType : String) :
      Keeps part (finishTerminalJob config job state output eventType) := by
    apply keeps_bind keeps_nowUtc
    intro completedAt
    apply keeps_bind (keeps_lift _)
    intro upsert
    apply keeps_bind (keeps_upsertGatewayJob jobs _)
    exact fun updated => keeps_appendJobLifecycleEvent events _ _ _ _
  apply keeps_bind (keeps_readStore _)
  intro found
  cases found with
  | none => exact keeps_pure ()
  | some job =>
      simp only
      unfold finishJob
      split
      · exact keeps_appendJobLifecycleEvent events _ _ _ _
      · cases attempt.result with
        | succeeded output => exact keeps_terminal job _ _ _
        | cancelled output => exact keeps_terminal job _ _ _
        | failedPermanent output error => exact keeps_terminal job _ _ _
        | retriableError error =>
            simp only [finishRetryOrFail]
            split
            · apply keeps_bind (SubscriptionScans.keeps_timestampAfter _)
              intro nextRunAt
              apply keeps_bind (keeps_lift _)
              intro retry
              apply keeps_bind (keeps_upsertGatewayJob jobs _)
              exact fun updated => keeps_appendJobLifecycleEvent events _ _ _ _
            · exact keeps_terminal job _ _ _

theorem keeps_closeContext (contexts : Ignores part contextsTable) (args : ContextCloseArgs) :
    Keeps part (closeContext args) := by
  have quiet {Found : Type} {action : Action Found} (still : Keeps id action) : Keeps part action :=
    fun world => congrArg part (still world)
  apply keeps_bind (quiet (ContextDirectory.quiet_resolveContextSelector _))
  intro record
  apply keeps_bind (keeps_lift _)
  intro summary
  apply keeps_bind (quiet (ContextDirectory.quiet_closingTime _))
  exact fun closedAt => keeps_upsertContext contexts _

end Others

structure SparesRest (before after : Store) : Prop where
  tasks : taskDates.EndsNone before.tasks after.tasks
  contexts : contextDates.EndsNone before.contexts after.contexts

theorem sparesRest_grows : Growth SparesRest where
  refl := fun _ => ⟨endsNone_refl, endsNone_refl⟩
  trans := fun _ _ _ first last =>
    ⟨endsNone_trans first.tasks last.tasks, endsNone_trans first.contexts last.contexts⟩

theorem along_rest {action : Action Result} (tasks : Keeps Store.tasks action)
    (contexts : Keeps Store.contexts action) : Along SparesRest action := by
  intro world
  have sameTasks : (action world).2.store.tasks = world.store.tasks := tasks world
  have sameContexts : (action world).2.store.contexts = world.store.contexts := contexts world
  constructor
  · rw [sameTasks]
    exact endsNone_refl
  · rw [sameContexts]
    exact endsNone_refl

theorem along_cancelJob {remote : RemoteCancel} (args : JobCancelArgs)
    (parameters : ServiceParameters) (apart : ∀ job, Along EndsNothing (remote.run job)) :
    Along SparesRest (BackgroundJobs.cancelJob remote args parameters) := by
  have grows := sparesRest_grows
  apply along_bind grows (along_lift grows _)
  intro jobId
  apply along_bind grows
  · apply along_bind grows (along_readStore grows _)
    intro found
    cases found with
    | none => exact along_quiet grows (keeps_raise _)
    | some job =>
        simp only
        split
        · exact along_pure grows job
        · exact along_quiet grows (keeps_raise _)
  · intro job
    apply along_bind grows
    · unfold cancelRemotely
      split
      · apply along_bind grows _ fun _ => along_pure grows _
        exact fun world => ⟨(apart job world).tasks, (apart job world).contexts⟩
      · exact along_pure grows none
    · intro remoteResult
      apply along_bind grows (along_quiet grows keeps_nowUtc)
      intro completedAt
      apply along_bind grows (along_lift grows _)
      intro upsert
      apply along_bind grows
      · exact along_rest (keeps_upsertGatewayJob (fun _ _ => rfl) _)
          (keeps_upsertGatewayJob (fun _ _ => rfl) _)
      · intro cancelled
        apply along_bind grows _ fun _ => along_pure grows cancelled
        exact along_rest (keeps_appendCliJobEvent (fun _ _ _ => rfl) _ _ _ _)
          (keeps_appendCliJobEvent (fun _ _ _ => rfl) _ _ _ _)

/-! Contexts. -/

def ClosesSeasoned (args : ContextCloseArgs) (world : World) : Prop :=
  ∀ record middle, resolveContextSelector args.context world = (.ok record, middle) →
    record.closedAt = none → Precedes record.createdAt world

theorem ticks_resolveContextSelector (selector : String) : Ticks (resolveContextSelector selector) := by
  apply ticks_bind (ticks_readStore _)
  intro known
  cases known with
  | some record => exact ticks_pure record
  | none => exact ticks_bind (ticks_readStore _) fun _ => ticks_lift _

theorem upsertContext_inOrder {input : ContextUpsert}
    (all : contextDates.AllInOrder world.store.contexts)
    (here : ∀ time, contextDates.InOrder
      (input.toRecord time (world.store.contexts.find? input.contextId))) :
    contextDates.AllInOrder (upsertContext input world).2.store.contexts := by
  rcases ContextDirectory.upsertContext_cases input world with same | ⟨_, time, put⟩
  · rw [same]
    exact all
  · rw [put]
    exact allInOrder_put all (here time)

theorem closeContext_inOrder (args : ContextCloseArgs) (steady : NonDecreasing world)
    (all : contextDates.AllInOrder world.store.contexts) (seasoned : ClosesSeasoned args world) :
    contextDates.AllInOrder (closeContext args world).2.store.contexts := by
  have quiet {Found : Type} {action : Action Found} (still : Keeps id action) :
      Keeps Store.contexts action := fun world => congrArg Store.contexts (still world)
  apply holds_keeping_bind (quiet (ContextDirectory.quiet_resolveContextSelector _)) all
  intro record middle selected kept
  have found := ContextDirectory.resolveContextSelector_returned selected
  have later := (ticks_resolveContextSelector _).returned selected
  rw [← kept] at all
  apply holds_lift_bind all
  intro summary _
  apply holds_keeping_bind (quiet (ContextDirectory.quiet_closingTime _)) all
  intro closedAt last timed kept'
  -- the time it had, or a reading of the clock
  have inOrder : (parseMillis record.createdAt).nanos ≤ closedAt.toRfc3339.parse.nanos := by
    unfold closingTime at timed
    cases ended : record.closedAt with
    | some time =>
        rw [ended] at timed
        cases timed
        rw [parse_toRfc3339]
        exact all record ((middle.store.contexts.find?_eq_some _ record).mp (kept ▸ found)).1 time ended
    | none =>
        rw [ended] at timed
        cases timed
        exact precedes_shown steady (seasoned record middle selected ended)
          ((shown_now middle).earlier later)
  rw [← kept'] at all
  apply upsertContext_inOrder all
  intro created time done
  cases done
  have stored : last.store.contexts.find? record.contextId = some record := by
    rw [kept', kept]
    exact found
  change (parseMillis (Option.elim (last.store.contexts.find? record.contextId) _
    ContextRecord.createdAt)).nanos ≤ _
  rw [stored]
  exact inOrder

/-! Runs. -/

/-- The commands that write tasks, jobs or contexts. -/
inductive Step where
  | report (codec : Codec) (agent : AgentRecord) (operation : Operation)
  | startJob (start : JobStart) (options : JobStartOptions) (parameters : ServiceParameters)
  | scanJobs (config : JobManagerConfig)
  | finishJob (config : JobManagerConfig) (attempt : JobAttempt)
  | cancelJob (remote : RemoteCancel) (args : JobCancelArgs) (parameters : ServiceParameters)
      (ticks : ∀ job, Ticks (remote.run job)) (apart : ∀ job, Along EndsNothing (remote.run job))
  | scanSubscriptions (cards : AgentCards) (config : SubscriptionManagerConfig)
  | finishSubscription (config : SubscriptionManagerConfig) (attempt : SubscriptionAttempt)
  | createContext (fromStr : String → Option Json) (args : ContextCreateArgs)
  | forkContext (fromStr : String → Option Json) (args : ContextForkArgs)
  | closeContext (args : ContextCloseArgs)
  | bcast (contextId : ContextId) (group : GroupRecord)
  | reduce (contextId : ContextId) (group : GroupRecord)
  | gather (contextId : ContextId) (group : GroupRecord)
  | webhook (event : EventInsert)
  | push (encodeConfig : TaskPushNotificationConfig → Option Json) (agent : AgentRecord)
      (taskId : TaskId) (parameters : ServiceParameters) (operation : PushOperation)
  | other (action : Action Unit) (apart : Along EndsNothing action)

def Step.run : Step → Action Unit
  | .report codec agent operation => operation.run codec agent
  | .startJob start options parameters =>
      ignoreResult (BackgroundJobs.startJob start options parameters)
  | .scanJobs config => ignoreResult (scanBackgroundJobs config)
  | .finishJob config attempt => finishJobAttempt config attempt
  | .cancelJob remote args parameters _ _ =>
      ignoreResult (BackgroundJobs.cancelJob remote args parameters)
  | .scanSubscriptions cards config =>
      ignoreResult (Subscriptions.scanSubscriptionJobs cards config)
  | .finishSubscription config attempt =>
      ignoreResult (Subscriptions.finishSubscriptionAttempt config attempt)
  | .createContext fromStr args => ignoreResult (Contexts.createContext fromStr args)
  | .forkContext fromStr args => ignoreResult (Contexts.forkContext fromStr args)
  | .closeContext args => ignoreResult (Contexts.closeContext args)
  | .bcast contextId group => ignoreResult (ensureBcastContext contextId group)
  | .reduce contextId group => ensureReduceContext contextId group
  | .gather contextId group => ensureGatherContext contextId group
  | .webhook event => ignoreResult (appendWebhookEvent event)
  | .push encodeConfig agent taskId parameters operation =>
      operation.run encodeConfig agent taskId parameters
  | .other action _ => action

/-- What the step ends is stored, and not younger than the second the step starts in. -/
def Step.Seasoned (world : World) : Step → Prop
  | .report codec agent operation => StampsSeasoned codec agent operation world
  | .finishJob _ attempt => FinishesSeasoned attempt world
  | .cancelJob _ args _ _ _ => CancelsSeasoned args world
  | .closeContext args => ClosesSeasoned args world
  | _ => True

def NoneStored (store : Store) : Prop :=
  store.tasks.rows = [] ∧ store.gatewayJobs.rows = [] ∧ store.contexts.rows = []

/-- The worlds that steps reach from one without rows, under a clock that never goes back. -/
inductive Reached (allowed : World → Step → Prop) : World → Prop
  | start (world : World) (none_ : NoneStored world.store) : Reached allowed world
  | next (step : Step) (world : World) (before : Reached allowed world)
      (steady : NonDecreasing world) (fits : allowed world step) :
      Reached allowed (step.run world).2

theorem allInOrder_none {store : Store} (none_ : NoneStored store) : AllInOrder store := by
  obtain ⟨tasks, jobs, contexts⟩ := none_
  constructor
  · intro row member
    rw [tasks] at member
    contradiction
  · intro row member
    rw [jobs] at member
    contradiction
  · intro row member
    rw [contexts] at member
    contradiction

theorem allInOrder_along {action : Action Result} (ends : Along EndsNothing action)
    (all : AllInOrder world.store) : AllInOrder (action world).2.store :=
  ⟨allInOrder_endsNone all.tasks (ends world).tasks, allInOrder_endsNone all.jobs (ends world).jobs,
    allInOrder_endsNone all.contexts (ends world).contexts⟩

theorem ignoreResult_world (action : Action Result) (world : World) :
    (ignoreResult action world).2 = (action world).2 := by
  unfold ignoreResult
  rw [Effect.bind_run]
  cases action world with
  | mk outcome after =>
      cases outcome with
      | ok result => rfl
      | error error => rfl

theorem step_inOrder {step : Step} (all : AllInOrder world.store) (steady : NonDecreasing world)
    (seasoned : step.Seasoned world) : AllInOrder (step.run world).2.store := by
  cases step with
  | report codec agent operation =>
      have others := along_run reports_spare_others codec agent operation world
      exact ⟨report_inOrder codec agent operation steady all.tasks seasoned,
        allInOrder_endsNone all.jobs others.jobs, allInOrder_endsNone all.contexts others.contexts⟩
  | finishJob config attempt =>
      have rest : Along SparesRest (finishJobAttempt config attempt) :=
        along_rest (keeps_finishJobAttempt (fun _ _ => rfl) (fun _ _ _ => rfl) config attempt)
          (keeps_finishJobAttempt (fun _ _ => rfl) (fun _ _ _ => rfl) config attempt)
      exact ⟨allInOrder_endsNone all.tasks (rest world).tasks,
        finishJobAttempt_inOrder config attempt steady all.jobs seasoned,
        allInOrder_endsNone all.contexts (rest world).contexts⟩
  | cancelJob remote args parameters ticks apart =>
      have rest := along_cancelJob args parameters apart world
      simp only [Step.run, ignoreResult_world]
      exact ⟨allInOrder_endsNone all.tasks rest.tasks,
        cancelJob_inOrder args parameters ticks steady all.jobs seasoned,
        allInOrder_endsNone all.contexts rest.contexts⟩
  | closeContext args =>
      simp only [Step.run, ignoreResult_world]
      have tasks : (Contexts.closeContext args world).2.store.tasks = world.store.tasks :=
        keeps_closeContext (fun _ _ => rfl) args world
      have jobs : (Contexts.closeContext args world).2.store.gatewayJobs = world.store.gatewayJobs :=
        keeps_closeContext (fun _ _ => rfl) args world
      refine ⟨?_, ?_, closeContext_inOrder args steady all.contexts seasoned⟩
      · rw [tasks]
        exact all.tasks
      · rw [jobs]
        exact all.jobs
  | startJob start options parameters =>
      exact allInOrder_along (along_unit (along_startJob start options parameters)) all
  | scanJobs config => exact allInOrder_along (along_unit (along_scanBackgroundJobs config)) all
  | scanSubscriptions cards config =>
      exact allInOrder_along (along_unit (along_scanSubscriptionJobs cards)) all
  | finishSubscription config attempt =>
      exact allInOrder_along (along_unit (along_finishSubscriptionAttempt attempt)) all
  | createContext fromStr args =>
      exact allInOrder_along (along_unit (along_createContext fromStr args)) all
  | forkContext fromStr args =>
      exact allInOrder_along (along_unit (along_forkContext fromStr args)) all
  | bcast contextId group =>
      exact allInOrder_along (along_unit (along_ensureBcastContext contextId group)) all
  | reduce contextId group =>
      exact allInOrder_along (along_ensureCollectiveContext contextId _ _) all
  | gather contextId group =>
      exact allInOrder_along (along_ensureCollectiveContext contextId _ _) all
  | webhook event => exact allInOrder_along (along_unit (along_appendWebhookEvent event)) all
  | push encodeConfig agent taskId parameters operation =>
      exact allInOrder_along (along_pushOperation operation) all
  | other action apart => exact allInOrder_along apart all

/-- In every run whose steps end only rows that are not younger than the second they start in, no
stored row has ended before it was created. -/
theorem seasoned_ends_in_order (reached : Reached (fun world step => step.Seasoned world) world) :
    (∀ row ∈ world.store.tasks.rows, taskDates.InOrder row) ∧
    (∀ row ∈ world.store.gatewayJobs.rows, jobDates.InOrder row) ∧
    (∀ row ∈ world.store.contexts.rows, contextDates.InOrder row) := by
  have all : AllInOrder world.store := by
    induction reached with
    | start world none_ => exact allInOrder_none none_
    | next step world _ steady seasoned ih => exact step_inOrder ih steady seasoned
  exact ⟨all.tasks, all.jobs, all.contexts⟩

/-! A task that is reported at work and then completed, at leisure and within one second. -/

def clocked (clock : Nat → MissiveTimestamp) : World :=
  { TaskCompletion.agentWorld with clock := clock, messageIds := zeroPadded 36, drawn := 0 }

def reporting (state : ProtocolTaskState) : Step :=
  .report plainCodec echoRecord (.refresh TaskIsolation.plainParameters (plainTask firstTask state))

def atWork (clock : Nat → MissiveTimestamp) : World := ((reporting .working).run (clocked clock)).2

def atRest (clock : Nat → MissiveTimestamp) : World := ((reporting .completed).run (atWork clock)).2

-- Two readings a second, and a clock that is read within one second only.
def slowly (reading : Nat) : MissiveTimestamp := ⟨250000000 + 500000000 * reading⟩

def within (_ : Nat) : MissiveTimestamp := ⟨500000000⟩

def dates (world : World) : List (Int × Option Int) :=
  world.store.tasks.rows.map fun row => ((parseMillis row.createdAt).nanos,
    row.completedAt.map fun time => time.parse.nanos)

theorem reporting_write (state : ProtocolTaskState) : ∃ columns : TaskColumns,
    Operation.write plainCodec echoRecord.aliasName
      (.refresh TaskIsolation.plainParameters (plainTask firstTask state)) =
        .ok (some ⟨firstTask, fun _ => some columns⟩) ∧
      columns.completion = completionOf (storeTaskState state) none := by
  have named : Core.Id.new .taskId (plainTask firstTask state).id = .ok firstTask :=
    Core.Id.new_text firstTask
  have placed : Core.Id.new .contextId (plainTask firstTask state).contextId =
      .ok Artifacts.sharedContext := Core.Id.new_text Artifacts.sharedContext
  exact ⟨_, freshWrite_parsed _ _ _ named placed, rfl⟩

theorem working_seasoned (world : World) : (reporting .working).Seasoned world := by
  intro write columns parsed shown stamped
  obtain ⟨known, same, open_⟩ := reporting_write .working
  rw [same] at parsed
  cases parsed
  cases shown
  rw [open_] at stamped
  cases stamped

theorem completed_seasoned {world : World} {row : TaskRecord}
    (found : world.store.tasks.find? firstTask = some row) (precedes : Precedes row.createdAt world) :
    (reporting .completed).Seasoned world := by
  intro write columns parsed _ _
  obtain ⟨known, same, _⟩ := reporting_write .completed
  rw [same] at parsed
  cases parsed
  exact ⟨row, found, precedes⟩

theorem slowly_steady (world : World) (same : world.clock = slowly) : NonDecreasing world := by
  intro first last ordered
  simp only [same, slowly]
  omega

theorem atWork_stored : ∃ row, (atWork slowly).store.tasks.find? firstTask = some row ∧
    Precedes row.createdAt (atWork slowly) := by
  refine ⟨_, rfl, ?_⟩
  change (750000000 : Int) ≤ 2000000000
  decide

theorem rested_in_order :
    dates (atRest slowly) = [(750000000, some 2000000000)] ∧
    (∀ row ∈ (atRest slowly).store.tasks.rows, taskDates.InOrder row) ∧
    (∀ row ∈ (atRest slowly).store.gatewayJobs.rows, jobDates.InOrder row) ∧
    (∀ row ∈ (atRest slowly).store.contexts.rows, contextDates.InOrder row) := by
  refine ⟨by decide, seasoned_ends_in_order ?_⟩
  apply Reached.next
  · apply Reached.next
    · exact .start (clocked slowly) ⟨rfl, rfl, rfl⟩
    · exact slowly_steady _ rfl
    · exact working_seasoned _
  · exact slowly_steady _ rfl
  · obtain ⟨row, found, precedes⟩ := atWork_stored
    exact completed_seasoned found precedes

theorem atRest_stored : ∃ row ∈ (atRest within).store.tasks.rows,
    row.createdAt = ⟨500⟩ ∧ row.completedAt = some ⟨0⟩ := ⟨_, List.mem_singleton.mpr rfl, rfl, rfl⟩

/-- A task that is created and completed half a second into one second ends before its creation. -/
theorem completed_before_created : ∃ world, Reached (fun _ _ => True) world ∧
    ¬ ∀ row ∈ world.store.tasks.rows, taskDates.InOrder row := by
  refine ⟨atRest within, ?_, ?_⟩
  · apply Reached.next
    · apply Reached.next
      · exact .start (clocked within) ⟨rfl, rfl, rfl⟩
      · exact fun _ _ _ => le_refl _
      · trivial
    · exact fun _ _ _ => le_refl _
    · trivial
  · intro ordered
    obtain ⟨row, member, created, ended⟩ := atRest_stored
    have late := ordered row member ⟨0⟩ ended
    rw [show taskDates.created row = ⟨500⟩ from created] at late
    exact absurd late (by decide)

end Missive.CompletionOrder
