import Missive.Repository

/-! Background jobs: the gateway's scan and finish, and the command line's `job
start` and `job cancel`. Each of them reads rows of `gateway_jobs`, copies a row
into an upsert and overwrites some of its columns. What a worker does between
claim and finish is its result; it writes other tables only. -/
namespace Missive.BackgroundJobs

open JsonValue KeyedTable Missive.Core Schema Effects Repository

def insertStr (metadata : Metadata) (name value : String) : Except MissiveError Metadata :=
  metadata.insert name (.string value)

structure ServiceParameters where
  protocolVersion : String
  extensions : List String
  extra : List (String × String)

def insertUnless (empty : Bool) (metadata : Metadata) (name : String) (value : Json) :
    Except MissiveError Metadata :=
  if empty then .ok metadata else metadata.insert name value

def ServiceParameters.toMetadata (parameters : ServiceParameters) : Except MissiveError Metadata := do
  let versioned ← insertStr .new "a2a.protocol_version" parameters.protocolVersion
  let extended ← insertUnless parameters.extensions.isEmpty versioned "a2a.extensions"
    (.array (parameters.extensions.map .string))
  insertUnless parameters.extra.isEmpty extended "a2a.service_parameters"
    (.object (parameters.extra.map fun entry => (entry.1, .string entry.2)))

def validateStoreIdentifier (kind value : String) : Except MissiveError Unit :=
  match opaqueReason value with
  | none => .ok ()
  | some reason => .error ((MissiveError.validation s!"invalid {kind} {debug value}: {reason}").withHelp
      "Use a non-empty identifier without whitespace or control characters.")

-- `EventInsert::record_a2a_protocol_version`, on the metadata it extends.
def recordProtocolVersion (metadata : Metadata) (version : String) : Except MissiveError Metadata := do
  validateStoreIdentifier "A2A protocol version" version
  insertStr metadata "a2a.protocol_version" version

structure JobManagerConfig where
  profile : String
  serviceParameters : ServiceParameters
  jobConcurrency : Nat

structure JobExecutionOutput where
  resultJson : Json
  agentAlias : Option AgentAlias
  contextId : Option ContextId
  taskId : Option TaskId
  groupName : Option GroupName
  message : String

inductive JobAttemptResult where
  | succeeded (output : JobExecutionOutput)
  | cancelled (output : JobExecutionOutput)
  | failedPermanent (output : JobExecutionOutput) (error : String)
  | retriableError (error : String)

structure JobAttempt where
  jobId : GatewayJobId
  kind : String
  result : JobAttemptResult

def isBackgroundJobKind (kind : String) : Bool :=
  kind == "send" || kind == "stream" || kind == "wait" || kind == "reduce"

def isTerminalJobState : GatewayJobState → Bool
  | .succeeded | .failed | .cancelled => true
  | _ => false

def jobToUpsert (job : GatewayJobRecord) : GatewayJobUpsert where
  gatewayJobId := job.gatewayJobId
  kind := job.kind
  state := job.state
  agentAlias := job.agentAlias
  contextId := job.contextId
  taskId := job.taskId
  groupName := job.groupName
  adapterBindingId := job.adapterBindingId
  requestJson := job.requestJson
  resultJson := job.resultJson
  metadata := job.metadata
  retryCount := job.retryCount
  maxAttempts := job.maxAttempts
  nextRunAt := job.nextRunAt.map SecondTime.parse
  lockedBy := job.lockedBy
  lockedUntil := job.lockedUntil.map SecondTime.parse
  completedAt := job.completedAt.map SecondTime.parse

/-! Times. Durations are in milliseconds. -/

def jobLockTtl : Nat := 60000
def jobMinBackoff : Nat := 1000
def jobMaxBackoff : Nat := 30000

def timestampAfter (duration : Nat) : Action MissiveTimestamp := do
  let now ← nowUtc
  Effect.lift (MissiveTimestamp.fromUnixTimestamp
    (min (now.unixTimestamp + max (duration / 1000) 1) 9223372036854775807))

def boundedBackoff (attempt : UInt32) : Nat :=
  min (jobMinBackoff * 2 ^ min (attempt.toNat - 1) 5) jobMaxBackoff

-- `saturating_add(1)`
def nextRetryCount (count : UInt32) : UInt32 :=
  if count.toNat + 1 < 2 ^ 32 then count + 1 else count

/-! Lifecycle events of the gateway. -/

-- `rsplit('.').next()`
def afterLastDot (text : String) : String :=
  String.ofList (text.toList.reverse.takeWhile (· ≠ '.')).reverse

def newJobEventId (start : String) : Action EventId := do
  let messageId ← newMessageId
  let dashed := String.ofList (start.toList.map fun c => if c = '_' then '-' else c)
  Effect.lift (Id.new .eventId s!"evt/job/{dashed}/{messageId}")

def jobEventMetadata (job : GatewayJobRecord) (config : JobManagerConfig) :
    Except MissiveError Metadata := do
  let service ← config.serviceParameters.toMetadata
  let profiled ← insertStr service "gateway.job.profile" config.profile
  let kinded ← insertStr profiled "gateway.job.kind" job.kind
  let numbered ← insertStr kinded "gateway.job.id" job.gatewayJobId.text
  recordProtocolVersion numbered config.serviceParameters.protocolVersion

def linkedEvent (event : EventInsert) (job : GatewayJobRecord) (metadata : Metadata) : EventInsert :=
  { event with
    agentAlias := job.agentAlias
    contextId := job.contextId
    taskId := job.taskId
    groupName := job.groupName
    gatewayJobId := some job.gatewayJobId
    metadata := metadata }

def appendJobLifecycleEvent (eventType : String) (job : GatewayJobRecord) (payload : Json)
    (config : JobManagerConfig) : Action Unit := do
  let eventId ← newJobEventId (afterLastDot eventType)
  let metadata ← Effect.lift (jobEventMetadata job config)
  let event := EventInsert.new eventId "gateway:jobs" eventType (JsonRedaction.jobsRedactJson payload)
  let _ ← appendEvent (linkedEvent event job metadata)
  pure ()

def linkJson {kind : IdKind} (link : Option (Id kind)) : Json :=
  .ofOption (fun id => .string id.text) link

/-! Scan and claim. -/

structure JobSnapshot where
  due : Nat
  queued : Nat
  running : Nat
  retrying : Nat
  terminal : Nat

def JobSnapshot.count (snapshot : JobSnapshot) : GatewayJobState → JobSnapshot
  | .queued => { snapshot with queued := snapshot.queued + 1 }
  | .running => { snapshot with running := snapshot.running + 1 }
  | .retrying => { snapshot with retrying := snapshot.retrying + 1 }
  | .succeeded | .failed | .cancelled => { snapshot with terminal := snapshot.terminal + 1 }

structure ScanResult where
  candidates : List GatewayJobRecord
  snapshot : JobSnapshot

def jobIsDue (job : GatewayJobRecord) (now : MissiveTimestamp) : Bool :=
  match job.state with
  | .queued | .retrying => job.nextRunAt.all fun nextRunAt => nextRunAt.notAfter now
  | .running => job.lockedUntil.any fun lockedUntil => lockedUntil.notAfter now
  | .succeeded | .failed | .cancelled => false

def runningMetadata (job : GatewayJobRecord) (config : JobManagerConfig) :
    Except MissiveError Metadata := do
  let profiled ← insertStr job.metadata "gateway.job.profile" config.profile
  insertStr profiled "gateway.job.kind" job.kind

-- The upserts below take the clock reading they need from their callers.
def runningJobUpsert (job : GatewayJobRecord) (config : JobManagerConfig)
    (lockedUntil : MissiveTimestamp) : Except MissiveError GatewayJobUpsert := do
  let metadata ← runningMetadata job config
  .ok { jobToUpsert job with
    state := .running
    lockedBy := some s!"gateway:jobs:{config.profile}"
    lockedUntil := some lockedUntil
    nextRunAt := none
    completedAt := none
    resultJson := none
    metadata := metadata }

def startedPayload (config : JobManagerConfig) (claimed : GatewayJobRecord) : Json :=
  .object [("job_id", .string claimed.gatewayJobId.text), ("kind", .string claimed.kind),
    ("max_attempts", .nat claimed.maxAttempts.toNat), ("profile", .string config.profile),
    ("retry_count", .nat claimed.retryCount.toNat)]

def claimJob (config : JobManagerConfig) (job : GatewayJobRecord) : Action GatewayJobRecord := do
  let lockedUntil ← timestampAfter jobLockTtl
  let running ← Effect.lift (runningJobUpsert job config lockedUntil)
  let claimed ← upsertGatewayJob running
  appendJobLifecycleEvent "missive.gateway.job.started" claimed (startedPayload config claimed) config
  pure claimed

def ScanResult.counted (scan : ScanResult) (state : GatewayJobState) : ScanResult :=
  { scan with snapshot := scan.snapshot.count state }

def pushCandidate (config : JobManagerConfig) (scan : ScanResult) (job : GatewayJobRecord) :
    Action ScanResult := do
  let claimed ← claimJob config job
  pure ⟨scan.candidates ++ [claimed], { scan.snapshot with due := scan.snapshot.due + 1 }⟩

def scanJob (config : JobManagerConfig) (now : MissiveTimestamp) (scan : ScanResult)
    (job : GatewayJobRecord) : Action ScanResult :=
  if isBackgroundJobKind job.kind then
    if max config.jobConcurrency 1 ≤ scan.candidates.length || !jobIsDue job now then
      pure (scan.counted job.state)
    else pushCandidate config (scan.counted job.state) job
  else pure scan

def scanBackgroundJobs (config : JobManagerConfig) : Action ScanResult := do
  let now ← nowUtc
  let jobs ← listGatewayJobs
  Effect.fold (scanJob config now) ⟨[], ⟨0, 0, 0, 0, 0⟩⟩ jobs

/-! Finish. -/

def terminalPayload (config : JobManagerConfig) (updated : GatewayJobRecord)
    (output : JobExecutionOutput) : Json :=
  .object [("agent", linkJson updated.agentAlias), ("context_id", linkJson updated.contextId),
    ("group", linkJson updated.groupName), ("job_id", .string updated.gatewayJobId.text),
    ("kind", .string updated.kind), ("message", .string output.message),
    ("profile", .string config.profile), ("result", output.resultJson),
    ("state", .string updated.state.asStr), ("task_id", linkJson updated.taskId)]

def terminalJobUpsert (job : GatewayJobRecord) (state : GatewayJobState)
    (output : JobExecutionOutput) (completedAt : MissiveTimestamp) :
    Except MissiveError GatewayJobUpsert := do
  let metadata ← insertStr job.metadata "gateway.job.status" state.asStr
  .ok { jobToUpsert job with
    state := state
    agentAlias := output.agentAlias.or job.agentAlias
    contextId := output.contextId.or job.contextId
    taskId := output.taskId.or job.taskId
    groupName := output.groupName.or job.groupName
    resultJson := some output.resultJson
    nextRunAt := none
    lockedBy := none
    lockedUntil := none
    completedAt := some completedAt
    metadata := metadata }

def finishTerminalJob (config : JobManagerConfig) (job : GatewayJobRecord) (state : GatewayJobState)
    (output : JobExecutionOutput) (eventType : String) : Action Unit := do
  let completedAt ← nowUtc
  let upsert ← Effect.lift (terminalJobUpsert job state output completedAt)
  let updated ← upsertGatewayJob upsert
  appendJobLifecycleEvent eventType updated (terminalPayload config updated output) config

def retryResult (job : GatewayJobRecord) (error : String) (nextRunAt : MissiveTimestamp) : Json :=
  .object [("backoff_ms", .nat (boundedBackoff (nextRetryCount job.retryCount))),
    ("error", .string error), ("max_attempts", .nat job.maxAttempts.toNat),
    ("next_run_at", .string nextRunAt.toRfc3339.render),
    ("retry_count", .nat (nextRetryCount job.retryCount).toNat), ("status", .string "retrying")]

def retryJobUpsert (job : GatewayJobRecord) (error : String) (nextRunAt : MissiveTimestamp) :
    Except MissiveError GatewayJobUpsert := do
  let reasoned ← insertStr job.metadata "gateway.job.retry_reason" error
  let metadata ← reasoned.insert "gateway.job.backoff_ms"
    (.nat (boundedBackoff (nextRetryCount job.retryCount)))
  .ok { jobToUpsert job with
    state := .retrying
    retryCount := nextRetryCount job.retryCount
    nextRunAt := some nextRunAt
    lockedBy := none
    lockedUntil := none
    completedAt := none
    resultJson := some (retryResult job error nextRunAt)
    metadata := metadata }

def retryPayload (config : JobManagerConfig) (updated : GatewayJobRecord) (error : String)
    (backoff : Nat) (nextRunAt : MissiveTimestamp) : Json :=
  .object [("backoff_ms", .nat backoff), ("error", .string error),
    ("job_id", .string updated.gatewayJobId.text), ("kind", .string updated.kind),
    ("max_attempts", .nat updated.maxAttempts.toNat),
    ("next_run_at", .string nextRunAt.toRfc3339.render), ("profile", .string config.profile),
    ("retry_count", .nat updated.retryCount.toNat)]

def retryJob (config : JobManagerConfig) (job : GatewayJobRecord) (error : String) :
    Action Unit := do
  let backoff := boundedBackoff (nextRetryCount job.retryCount)
  let nextRunAt ← timestampAfter backoff
  let retry ← Effect.lift (retryJobUpsert job error nextRunAt)
  let updated ← upsertGatewayJob retry
  appendJobLifecycleEvent "missive.gateway.job.retrying" updated
    (retryPayload config updated error backoff nextRunAt) config

def exhaustedOutput (job : GatewayJobRecord) (error : String) : JobExecutionOutput where
  resultJson := .object [("error", .string error), ("max_attempts", .nat job.maxAttempts.toNat),
    ("retry_count", .nat (min (nextRetryCount job.retryCount) job.maxAttempts).toNat),
    ("status", .string "failed")]
  agentAlias := job.agentAlias
  contextId := job.contextId
  taskId := job.taskId
  groupName := job.groupName
  message := error

def finishRetryOrFail (config : JobManagerConfig) (job : GatewayJobRecord) (error : String) :
    Action Unit :=
  if nextRetryCount job.retryCount < job.maxAttempts then retryJob config job error
  else finishTerminalJob config job .failed (exhaustedOutput job error) "missive.gateway.job.failed"

def cancelledWhileRunning (config : JobManagerConfig) (job : GatewayJobRecord) : Json :=
  .object [("job_id", .string job.gatewayJobId.text), ("kind", .string job.kind),
    ("profile", .string config.profile), ("reason", .string "cancelled_while_running")]

def finishJob (config : JobManagerConfig) (job : GatewayJobRecord) (result : JobAttemptResult) :
    Action Unit :=
  if job.state = .cancelled then
    appendJobLifecycleEvent "missive.gateway.job.cancelled" job (cancelledWhileRunning config job)
      config
  else
    match result with
    | .succeeded output =>
        finishTerminalJob config job .succeeded output "missive.gateway.job.succeeded"
    | .cancelled output =>
        finishTerminalJob config job .cancelled output "missive.gateway.job.cancelled"
    | .failedPermanent output _ =>
        finishTerminalJob config job .failed output "missive.gateway.job.failed"
    | .retriableError error => finishRetryOrFail config job error

def finishJobAttempt (config : JobManagerConfig) (attempt : JobAttempt) : Action Unit := do
  let found ← getGatewayJob attempt.jobId
  match found with
  | none => pure ()
  | some job => finishJob config job attempt.result

/-! `job cancel`. The request to the remote agent may write the agent's card cache
and fail; it does not touch `gateway_jobs`. -/

structure RemoteCancel where
  run : GatewayJobRecord → Action Json
  keepsJobs : ∀ job world, (run job world).2.store.gatewayJobs = world.store.gatewayJobs

structure JobCancelArgs where
  jobId : String
  remote : Bool

def getExistingBackgroundJob (id : GatewayJobId) : Action GatewayJobRecord := do
  let found ← getGatewayJob id
  match found with
  | none => Effect.raise (MissiveError.validation s!"background job {debug id.text} is not known locally")
  | some job =>
      if isBackgroundJobKind job.kind then pure job
      else Effect.raise (MissiveError.validation
        s!"gateway job {debug id.text} has kind {debug job.kind}, which is not managed by 'missive job'")

def cancelRemotely (remote : RemoteCancel) (requested : Bool) (job : GatewayJobRecord) :
    Action (Option Json) :=
  if requested then do
    let result ← remote.run job
    pure (some result)
  else pure none

def cancelledJobUpsert (job : GatewayJobRecord) (remoteRequested : Bool)
    (remoteResult : Option Json) (completedAt : MissiveTimestamp) :
    Except MissiveError GatewayJobUpsert := do
  let metadata ← insertStr job.metadata "gateway.job.cancelled_by" "cli"
  .ok { jobToUpsert job with
    state := .cancelled
    lockedBy := none
    lockedUntil := none
    nextRunAt := none
    completedAt := some completedAt
    resultJson := some (.object [("cancelled_by", .string "cli"),
      ("remote_requested", .bool remoteRequested), ("remote_result", .ofOption id remoteResult),
      ("status", .string "cancelled")])
    metadata := metadata }

def appendCliJobEvent (eventType : String) (job : GatewayJobRecord) (payload : Json)
    (parameters : ServiceParameters) : Action Unit := do
  let event ← newCliEvent eventType payload
  let service ← Effect.lift parameters.toMetadata
  let metadata ← Effect.lift (recordProtocolVersion service parameters.protocolVersion)
  let _ ← appendEvent (linkedEvent event job metadata)
  pure ()

def cancelledPayload (job : GatewayJobRecord) (remoteRequested : Bool) (remoteResult : Option Json) :
    Json :=
  .object [("job_id", .string job.gatewayJobId.text), ("kind", .string job.kind),
    ("remote_requested", .bool remoteRequested), ("remote_result", .ofOption id remoteResult),
    ("state", .string job.state.asStr)]

def remoteOnCancel (job : GatewayJobRecord) : Bool :=
  ((job.requestJson.get "cancel_remote_on_cancel").bind Json.asBool).getD false

def cancelExistingJob (remote : RemoteCancel) (requested : Bool) (job : GatewayJobRecord)
    (parameters : ServiceParameters) : Action GatewayJobRecord := do
  let remoteResult ← cancelRemotely remote requested job
  let completedAt ← nowUtc
  let upsert ← Effect.lift (cancelledJobUpsert job requested remoteResult completedAt)
  let cancelled ← upsertGatewayJob upsert
  appendCliJobEvent "missive.job.cancelled" cancelled
    (cancelledPayload cancelled requested remoteResult) parameters
  pure cancelled

def cancelJob (remote : RemoteCancel) (args : JobCancelArgs) (parameters : ServiceParameters) :
    Action GatewayJobRecord := do
  let jobId ← Effect.lift (Id.new .gatewayJobId args.jobId)
  let job ← getExistingBackgroundJob jobId
  cancelExistingJob remote (args.remote || remoteOnCancel job) job parameters

/-! `job start`. The message of a send or stream job is prepared, and the durations of
a wait job are parsed, before the store is touched. -/

def jobSchema : String := "missive.job.v1"

structure JobStartOptions where
  maxAttempts : UInt32
  cancelRemoteOnCancel : Bool

structure PreparedSend where
  request : Json
  requestMessageId : MessageId
  requestedContextId : Option ContextId
  requestedTaskId : Option TaskId
  acceptedOutputModes : List String
  partSummaries : List Json
  localInputBytes : Nat
  requestBytes : Nat

structure TaskWaitArgs where
  taskId : String
  agent : Option String
  localOnly : Bool
  historyLength : Option Int
  intervalMs : Nat
  timeoutMs : Nat

structure ReduceArgs where
  group : String
  context : String
  strategy : String

inductive JobStart where
  | send (agent : String) (prepared : PreparedSend)
  | stream (agent : String) (force : Bool) (prepared : PreparedSend)
  | wait (args : TaskWaitArgs)
  | reduce (args : ReduceArgs)

def validateJobStartOptions (options : JobStartOptions) : Except MissiveError Unit :=
  if options.maxAttempts = 0 then .error (MissiveError.validation "--max-attempts must be at least 1")
  else .ok ()

def safeIdentifierFragment (value : String) (maxChars : Nat) : String :=
  let fragment := (value.toList.filter fun c =>
    RustText.isAsciiAlphanumeric c || c == '-' || c == '_' || c == '.').take maxChars
  if fragment.isEmpty then "job" else String.ofList fragment

def jobMetadata (kind : String) (parameters : ServiceParameters) : Except MissiveError Metadata := do
  let service ← parameters.toMetadata
  let kinded ← insertStr service "gateway.job.kind" kind
  insertStr kinded "gateway.job.schema" jobSchema

def sendRequestJson (kind agent : String) (prepared : PreparedSend) (options : JobStartOptions)
    (force : Option Bool) : Json :=
  .object ([("accepted_output_modes", .array (prepared.acceptedOutputModes.map .string)),
    ("agent", .string agent), ("cancel_remote_on_cancel", .bool options.cancelRemoteOnCancel)] ++
    (force.toList.map fun force => ("force", .bool force)) ++
    [("local_input_bytes", .nat prepared.localInputBytes), ("operation", .string kind),
    ("part_count", .nat prepared.partSummaries.length), ("parts", .array prepared.partSummaries),
    ("request", prepared.request), ("request_bytes", .nat prepared.requestBytes),
    ("request_message_id", .string prepared.requestMessageId.text),
    ("requested_context_id", linkJson prepared.requestedContextId),
    ("requested_task_id", linkJson prepared.requestedTaskId), ("schema", .string jobSchema)])

def sendOrStreamJobUpsert (kind agent : String) (prepared : PreparedSend)
    (options : JobStartOptions) (force : Option Bool) (parameters : ServiceParameters) :
    Except MissiveError GatewayJobUpsert := do
  validateJobStartOptions options
  let jobId ← Id.new .gatewayJobId
    s!"job/{kind}/{safeIdentifierFragment prepared.requestMessageId.text 64}"
  let agentAlias ← Id.new .agentAlias agent
  let metadata ← jobMetadata kind parameters
  .ok { GatewayJobUpsert.new jobId kind (sendRequestJson kind agent prepared options force) with
    agentAlias := some agentAlias
    contextId := prepared.requestedContextId
    taskId := prepared.requestedTaskId
    maxAttempts := options.maxAttempts
    metadata := metadata }

def intJson (value : Int) : Json :=
  if 0 ≤ value then .number (.posInt value.toNat) else .number (.negInt value)

def parseOptionalAlias (agent : Option String) : Except MissiveError (Option AgentAlias) :=
  match agent with
  | none => .ok none
  | some agent => do
      let name ← Id.new .agentAlias agent
      .ok (some name)

def waitJobUpsert (args : TaskWaitArgs) (options : JobStartOptions)
    (parameters : ServiceParameters) : Action GatewayJobUpsert := do
  Effect.lift (validateJobStartOptions options)
  let taskId ← Effect.lift (Id.new .taskId args.taskId)
  let agentAlias ← Effect.lift (parseOptionalAlias args.agent)
  let messageId ← newMessageId
  let taskFragment := safeIdentifierFragment taskId.text 48
  let jobId ← Effect.lift (Id.new .gatewayJobId
    s!"job/wait/{taskFragment}-{safeIdentifierFragment messageId 32}")
  let metadata ← Effect.lift (jobMetadata "wait" parameters)
  let request := Json.object [("agent", linkJson agentAlias),
    ("cancel_remote_on_cancel", .bool options.cancelRemoteOnCancel),
    ("history_length", .ofOption intJson args.historyLength),
    ("interval_ms", .nat args.intervalMs), ("local", .bool args.localOnly),
    ("operation", .string "wait"), ("schema", .string jobSchema),
    ("task_id", .string taskId.text), ("timeout_ms", .nat args.timeoutMs)]
  pure { GatewayJobUpsert.new jobId "wait" request with
    agentAlias := agentAlias
    taskId := some taskId
    maxAttempts := options.maxAttempts
    metadata := metadata }

def normalizeReduceStrategy (value : String) : Except MissiveError String :=
  let trimmed := ((value.toList.dropWhile RustText.isWhitespace).reverse.dropWhile
    RustText.isWhitespace).reverse
  let normalized := String.ofList (trimmed.map RustText.toAsciiLowercase)
  if ["summarise", "summarize", "merge", "rank", "vote"].contains normalized then .ok normalized
  else .error ((MissiveError.validation
    s!"--strategy value {debug value} is not supported for background reduce jobs").withHelp
    "Use summarise, summarize, merge, rank, or vote.")

def reduceJobUpsert (args : ReduceArgs) (options : JobStartOptions)
    (parameters : ServiceParameters) : Action GatewayJobUpsert := do
  Effect.lift (validateJobStartOptions options)
  let groupName ← Effect.lift (Id.new .groupName args.group)
  let contextId ← Effect.lift (Id.new .contextId args.context)
  let strategy ← Effect.lift (normalizeReduceStrategy args.strategy)
  let messageId ← newMessageId
  let groupFragment := safeIdentifierFragment groupName.text 48
  let jobId ← Effect.lift (Id.new .gatewayJobId
    s!"job/reduce/{groupFragment}-{safeIdentifierFragment messageId 32}")
  let metadata ← Effect.lift (jobMetadata "reduce" parameters)
  let request := Json.object
    [("cancel_remote_on_cancel", .bool options.cancelRemoteOnCancel),
    ("context_id", .string contextId.text), ("group", .string groupName.text),
    ("operation", .string "reduce"), ("schema", .string jobSchema), ("strategy", .string strategy)]
  pure { GatewayJobUpsert.new jobId "reduce" request with
    groupName := some groupName
    contextId := some contextId
    maxAttempts := options.maxAttempts
    metadata := metadata }

def ensureGroupKnown (group : String) : Action Unit := do
  let groupName ← Effect.lift (Id.new .groupName group)
  let known ← readStore fun store => (store.groups.find? groupName).isSome
  if known then pure ()
  else Effect.raise ((MissiveError.validation
    s!"group {debug groupName.text} is not known locally").withHelp
    "Create the group with 'missive group create' before enqueuing a reduce job.")

def ensureAgentKnown (agent : String) : Action Unit := do
  let name ← Effect.lift (Id.new .agentAlias agent)
  let _ ← getExistingAgent name
  pure ()

def startUpsert (start : JobStart) (options : JobStartOptions) (parameters : ServiceParameters) :
    Action GatewayJobUpsert :=
  match start with
  | .send agent prepared => do
      ensureAgentKnown agent
      Effect.lift (sendOrStreamJobUpsert "send" agent prepared options none parameters)
  | .stream agent force prepared => do
      ensureAgentKnown agent
      Effect.lift (sendOrStreamJobUpsert "stream" agent prepared options (some force) parameters)
  | .wait args => waitJobUpsert args options parameters
  | .reduce args => do
      ensureGroupKnown args.group
      reduceJobUpsert args options parameters

def ensureContextLink (job : GatewayJobUpsert) : Action Unit :=
  match job.contextId with
  | none => pure ()
  | some contextId => do
      let known ← getContext contextId
      match known with
      | some _ => pure ()
      | none => do
          let _ ← upsertContext { ContextUpsert.new contextId with agentAlias := job.agentAlias }
          pure ()

def submittedTask (taskId : TaskId) (agentAlias : AgentAlias) (job : GatewayJobUpsert)
    (parameters : ServiceParameters) : Except MissiveError TaskUpsert := do
  let metadata ← recordProtocolVersion .new parameters.protocolVersion
  .ok { TaskUpsert.new taskId agentAlias .submitted with
    source := .gateway
    contextId := job.contextId
    protocolVersion := some parameters.protocolVersion
    metadata := metadata }

def ensureTaskLink (job : GatewayJobUpsert) (parameters : ServiceParameters) : Action Unit :=
  match job.taskId with
  | none => pure ()
  | some taskId => do
      let known ← getTask taskId
      match known, job.agentAlias with
      | some _, _ => pure ()
      | none, some agentAlias => do
          let task ← Effect.lift (submittedTask taskId agentAlias job parameters)
          let _ ← upsertTask task
          pure ()
      | none, none =>
          Effect.raise ((MissiveError.validation
            s!"background job {job.gatewayJobId.text} references task {taskId.text} but no --agent was supplied and the task is not known locally").withHelp
            "Pass --agent for a new background wait job, or create/fetch the task locally first.")

def enqueuedPayload (job : GatewayJobRecord) : Json :=
  .object [("agent", linkJson job.agentAlias), ("context_id", linkJson job.contextId),
    ("group", linkJson job.groupName), ("job_id", .string job.gatewayJobId.text),
    ("kind", .string job.kind), ("max_attempts", .nat job.maxAttempts.toNat),
    ("state", .string job.state.asStr), ("task_id", linkJson job.taskId)]

def startJob (start : JobStart) (options : JobStartOptions) (parameters : ServiceParameters) :
    Action GatewayJobRecord := do
  let upsert ← startUpsert start options parameters
  ensureContextLink upsert
  ensureTaskLink upsert parameters
  let job ← upsertGatewayJob upsert
  appendCliJobEvent "missive.job.enqueued" job (enqueuedPayload job) parameters
  pure job

end Missive.BackgroundJobs
