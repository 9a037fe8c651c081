import Missive.BackgroundJobs

/-! Workers. What the agent answered and what the other tables held reaches a worker
as a report; from it the worker builds the result of its attempt. -/
namespace Missive.JobWorkers

open JsonValue Missive.Core Schema BackgroundJobs

inductive InterfaceSource where
  | agentCard
  | registryOverride
  | baseUrlFallback

def InterfaceSource.asStr : InterfaceSource → String
  | .agentCard => "agent_card"
  | .registryOverride => "registry_override"
  | .baseUrlFallback => "base_url_fallback"

structure NegotiatedInterface where
  binding : String
  protocolBinding : String
  url : String
  tenant : Option String
  protocolVersion : String
  source : InterfaceSource

def interfaceJson (interface : NegotiatedInterface) : Json :=
  .object [("binding", .string interface.binding),
    ("protocol_binding", .string interface.protocolBinding),
    ("protocol_version", .string interface.protocolVersion),
    ("source", .string interface.source.asStr), ("tenant", .ofOption .string interface.tenant),
    ("url", .string interface.url)]

def textOf {kind : IdKind} (id : Id kind) : Json := .string id.text

/-! Send and stream. -/

inductive ResponseShape where
  | message
  | task

def ResponseShape.asStr : ResponseShape → String
  | .message => "message"
  | .task => "task"

structure SendReport where
  agent : AgentAlias
  shape : ResponseShape
  messageId : Option String
  text : Option String
  url : String
  httpStatus : Nat
  interface : NegotiatedInterface
  rawJson : Json
  contextId : Option ContextId
  taskId : Option TaskId

def sendResultJson (report : SendReport) : Json :=
  .object [("context_id", linkJson report.contextId), ("http_status", .nat report.httpStatus),
    ("message_id", .ofOption .string report.messageId), ("operation", .string "send"),
    ("raw", report.rawJson), ("selected_interface", interfaceJson report.interface),
    ("shape", .string report.shape.asStr), ("status", .string "succeeded"),
    ("task_id", linkJson report.taskId), ("text", .ofOption .string report.text),
    ("url", .string report.url)]

def executeSendJob (job : GatewayJobRecord) (report : SendReport) : JobExecutionOutput where
  resultJson := sendResultJson report
  agentAlias := some report.agent
  contextId := report.contextId
  taskId := report.taskId
  groupName := none
  message := s!"Background send job {job.gatewayJobId.text} completed for agent {report.agent.text}"

structure StreamReport where
  agent : AgentAlias
  eventCount : Nat
  transportEventCount : Nat
  url : String
  httpStatus : Nat
  interface : NegotiatedInterface
  contextId : Option ContextId
  taskId : Option TaskId

def executeStreamJob (job : GatewayJobRecord) (report : StreamReport) : JobExecutionOutput where
  resultJson := .object [("context_id", linkJson report.contextId),
    ("event_count", .nat report.eventCount), ("http_status", .nat report.httpStatus),
    ("operation", .string "stream"), ("selected_interface", interfaceJson report.interface),
    ("status", .string "succeeded"), ("task_id", linkJson report.taskId),
    ("transport_event_count", .nat report.transportEventCount), ("url", .string report.url)]
  agentAlias := some report.agent
  contextId := report.contextId
  taskId := report.taskId
  groupName := none
  message :=
    s!"Background stream job {job.gatewayJobId.text} completed with {report.eventCount} event(s)"

/-! Wait. The loop reads the task until its state is decisive or the time is over. -/

def waitStateIsDecisive : TaskState → Bool
  | .completed | .failed | .cancelled | .inputRequired => true
  | _ => false

-- Times passed since the start, in nanoseconds: at the check, and when it is reported.
structure Poll where
  cancelled : Except MissiveError Bool
  record : Except MissiveError TaskRecord
  elapsed : Nat
  reported : Nat

structure WaitWork where
  taskId : TaskId
  timeoutMs : Nat
  remote : Option AgentAlias
  polls : List Poll

def durationMillis (nanos : Nat) : Nat := min (nanos / 1000000) (2 ^ 64 - 1)

def waitCancelled (job : GatewayJobRecord) (work : WaitWork) (attempts : Nat) :
    JobExecutionOutput where
  resultJson := .object [("attempts", .nat attempts), ("operation", .string "wait"),
    ("status", .string "cancelled"), ("task_id", textOf work.taskId)]
  agentAlias := work.remote
  contextId := none
  taskId := some work.taskId
  groupName := none
  message := s!"Background wait job {job.gatewayJobId.text} was cancelled"

def waitOutput (record : TaskRecord) (result : Json) (message : String) : JobExecutionOutput where
  resultJson := result
  agentAlias := some record.agentAlias
  contextId := record.contextId
  taskId := some record.taskId
  groupName := none
  message := message

def waitSucceeded (job : GatewayJobRecord) (work : WaitWork) (attempts reported : Nat)
    (record : TaskRecord) : JobExecutionOutput :=
  waitOutput record
    (.object [("agent", textOf record.agentAlias), ("attempts", .nat attempts),
      ("context_id", linkJson record.contextId), ("elapsed_ms", .nat (durationMillis reported)),
      ("operation", .string "wait"), ("status", .string "succeeded"),
      ("task_id", textOf record.taskId), ("task_state", .string record.state.asStr),
      ("timed_out", .bool false)])
    s!"Background wait job {job.gatewayJobId.text} observed task {work.taskId.text} in state {record.state.asStr}"

def waitTimeoutError (job : GatewayJobRecord) (work : WaitWork) : String :=
  s!"background wait job {job.gatewayJobId.text} timed out before task {work.taskId.text} reached a decisive state"

def waitTimedOut (job : GatewayJobRecord) (work : WaitWork) (attempts reported : Nat)
    (record : TaskRecord) : JobExecutionOutput :=
  waitOutput record
    (.object [("agent", textOf record.agentAlias), ("attempts", .nat attempts),
      ("context_id", linkJson record.contextId), ("elapsed_ms", .nat (durationMillis reported)),
      ("operation", .string "wait"), ("reason", .string "timeout"), ("status", .string "failed"),
      ("task_id", textOf record.taskId), ("task_state", .string record.state.asStr),
      ("timed_out", .bool true), ("timeout_ms", .nat (max work.timeoutMs 1))])
    (waitTimeoutError job work)

/-- The polling loop, over the rounds seen so far; nothing while the task is still open. -/
def waitLoop (job : GatewayJobRecord) (work : WaitWork) (attempts : Nat) :
    List Poll → Option (Except MissiveError JobAttemptResult)
  | [] => none
  | poll :: rest =>
      match poll.cancelled, poll.record with
      | .error error, _ => some (.error error)
      | .ok true, _ => some (.ok (.cancelled (waitCancelled job work attempts)))
      | .ok false, .error error => some (.error error)
      | .ok false, .ok record =>
          let counted := min (attempts + 1) (2 ^ 64 - 1)
          if waitStateIsDecisive record.state then
            some (.ok (.succeeded (waitSucceeded job work counted poll.reported record)))
          else if max work.timeoutMs 1 * 1000000 ≤ poll.elapsed then
            some (.ok (.failedPermanent (waitTimedOut job work counted poll.reported record)
              (waitTimeoutError job work)))
          else waitLoop job work counted rest

/-! Reduce. -/

structure ReduceReport where
  groupName : GroupName
  contextId : ContextId
  strategy : String
  output : String
  sources : List Json

def executeReduceJob (job : GatewayJobRecord) (report : ReduceReport) : JobExecutionOutput where
  resultJson := .object [("context_id", textOf report.contextId), ("group", textOf report.groupName),
    ("operation", .string "reduce"), ("output", .string report.output),
    ("source_count", .nat report.sources.length), ("sources", .array report.sources),
    ("status", .string "succeeded"), ("strategy", .string report.strategy)]
  agentAlias := none
  contextId := some report.contextId
  taskId := none
  groupName := some report.groupName
  message :=
    s!"Background reduce job {job.gatewayJobId.text} reduced group {report.groupName.text} in context {report.contextId.text}"

/-! One attempt. -/

/-- What each of the four operations would report; an error is that of any step before the
report. -/
structure Work where
  cancelled : Except MissiveError Bool
  send : Except MissiveError SendReport
  stream : Except MissiveError StreamReport
  wait : Except MissiveError WaitWork
  reduce : Except MissiveError ReduceReport

def jobOutput (job : GatewayJobRecord) (result : Json) (message : String) : JobExecutionOutput where
  resultJson := result
  agentAlias := job.agentAlias
  contextId := job.contextId
  taskId := job.taskId
  groupName := job.groupName
  message := message

def executeWaitJob (job : GatewayJobRecord) (prepared : Except MissiveError WaitWork) :
    Option (Except MissiveError JobAttemptResult) :=
  match prepared with
  | .error error => some (.error error)
  | .ok work => waitLoop job work 0 work.polls

def executeJobInner (job : GatewayJobRecord) (work : Work) :
    Option (Except MissiveError JobAttemptResult) :=
  match work.cancelled with
  | .error error => some (.error error)
  | .ok true => some (.ok (.cancelled (jobOutput job
      (.object [("reason", .string "cancelled_before_start"), ("status", .string "cancelled")])
      s!"Background job {job.gatewayJobId.text} was cancelled before execution")))
  | .ok false =>
      if job.kind = "send" then
        some (work.send.map fun report => .succeeded (executeSendJob job report))
      else if job.kind = "stream" then
        some (work.stream.map fun report => .succeeded (executeStreamJob job report))
      else if job.kind = "wait" then executeWaitJob job work.wait
      else if job.kind = "reduce" then
        some (work.reduce.map fun report => .succeeded (executeReduceJob job report))
      else
        some (.ok (.failedPermanent (jobOutput job
          (.object [("kind", .string job.kind), ("reason", .string "unsupported_job_kind"),
            ("status", .string "failed")])
          s!"Unsupported background job kind {job.kind}")
          s!"unsupported background job kind {debug job.kind}"))

def executeJobBlocking (job : GatewayJobRecord) (work : Work) : Option JobAttemptResult :=
  match executeJobInner job work with
  | none => none
  | some (.ok result) => some result
  | some (.error error) => some (.retriableError error.detail)

-- A worker that panicked reports no work.
def runJobAttempt (job : GatewayJobRecord) (joined : Option Work) : Option JobAttempt :=
  match joined with
  | none => some ⟨job.gatewayJobId, job.kind, .retriableError "joining gateway background job worker"⟩
  | some work =>
      (executeJobBlocking job work).map fun result => ⟨job.gatewayJobId, job.kind, result⟩

/-! No worker writes a retry count into its result. -/

def Uncounted (output : JobExecutionOutput) : Prop := output.resultJson.get "retry_count" = none

inductive Produced : JobAttemptResult → Prop
  | succeeded (output : JobExecutionOutput) (uncounted : Uncounted output) :
      Produced (.succeeded output)
  | cancelled (output : JobExecutionOutput) (uncounted : Uncounted output) :
      Produced (.cancelled output)
  | failed (output : JobExecutionOutput) (error : String) (uncounted : Uncounted output) :
      Produced (.failedPermanent output error)
  | retriable (error : String) : Produced (.retriableError error)

theorem waitLoop_produced (job : GatewayJobRecord) (work : WaitWork) (polls : List Poll)
    (attempts : Nat) (result : JobAttemptResult)
    (ran : waitLoop job work attempts polls = some (.ok result)) : Produced result := by
  induction polls generalizing attempts with
  | nil => cases ran
  | cons poll rest ih =>
      unfold waitLoop at ran
      split at ran
      · cases ran
      · cases ran
        exact .cancelled _ rfl
      · cases ran
      · split at ran
        · cases ran
          exact .succeeded _ rfl
        · split at ran
          · cases ran
            exact .failed _ _ rfl
          · exact ih _ ran

theorem map_produced {Report : Type} (report : Except MissiveError Report)
    (output : Report → JobExecutionOutput) (uncounted : ∀ report, Uncounted (output report))
    (result : JobAttemptResult)
    (ran : some (report.map fun report => JobAttemptResult.succeeded (output report)) =
      some (.ok result)) : Produced result := by
  cases report with
  | error error => cases ran
  | ok report =>
      cases ran
      exact .succeeded _ (uncounted report)

theorem executeJobInner_produced (job : GatewayJobRecord) (work : Work) (result : JobAttemptResult)
    (ran : executeJobInner job work = some (.ok result)) : Produced result := by
  unfold executeJobInner at ran
  split at ran
  · cases ran
  · cases ran
    exact .cancelled _ rfl
  · split at ran
    · exact map_produced work.send (executeSendJob job) (fun _ => rfl) result ran
    · split at ran
      · exact map_produced work.stream (executeStreamJob job) (fun _ => rfl) result ran
      · split at ran
        · unfold executeWaitJob at ran
          split at ran
          · cases ran
          · exact waitLoop_produced job _ _ 0 result ran
        · split at ran
          · exact map_produced work.reduce (executeReduceJob job) (fun _ => rfl) result ran
          · cases ran
            exact .failed _ _ rfl

theorem runJobAttempt_produced (job : GatewayJobRecord) (joined : Option Work) (attempt : JobAttempt)
    (ran : runJobAttempt job joined = some attempt) :
    attempt.jobId = job.gatewayJobId ∧ Produced attempt.result := by
  cases joined with
  | none =>
      cases ran
      exact ⟨rfl, .retriable _⟩
  | some work =>
      unfold runJobAttempt executeJobBlocking at ran
      cases shown : executeJobInner job work with
      | none =>
          simp only [shown] at ran
          cases ran
      | some outcome =>
          simp only [shown] at ran
          cases outcome with
          | error error =>
              cases ran
              exact ⟨rfl, .retriable _⟩
          | ok result =>
              cases ran
              exact ⟨rfl, executeJobInner_produced job work result shown⟩

end Missive.JobWorkers
