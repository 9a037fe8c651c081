import Missive.AgentRename
import Missive.Collectives
import Missive.JobWorkers
import Missive.TaskPersistence

/-! `missive bcast`, from the prepared request to its summary. What the agents answer, the cards
they hand out and the readings of the clock come from outside, member by member. -/
namespace Missive.Broadcast

open JsonValue KeyedTable Missive.Core Schema Effects Repository Protocol BackgroundJobs
open TaskPersistence Collectives
open JobWorkers (NegotiatedInterface)

inductive BcastExecution where
  | sequential
  | concurrent
  deriving DecidableEq

def BcastExecution.asStr : BcastExecution → String
  | .sequential => "sequential"
  | .concurrent => "concurrent"

inductive BcastFailurePolicy where
  | stop
  | continue
  deriving DecidableEq

def BcastFailurePolicy.asStr : BcastFailurePolicy → String
  | .stop => "stop"
  | .continue => "continue"

inductive MemberStatus where
  | succeeded
  | failed
  | timeout
  deriving DecidableEq

def MemberStatus.asStr : MemberStatus → String
  | .succeeded => "succeeded"
  | .failed => "failed"
  | .timeout => "timeout"

structure BcastMemberView where
  agent : String
  rank : String
  status : MemberStatus
  duration : Nat
  requestMessageId : Option String
  selectedInterface : Option NegotiatedInterface
  responseShape : Option String
  responseMessageId : Option String
  taskId : Option String
  contextId : Option String
  state : Option String
  error : Option MissiveError

/-! The operation. -/

-- What `prepare_bcast_operation` builds; the template names the context and no task.
structure BcastRequest where
  operationId : String
  groupName : GroupName
  contextId : ContextId
  template : PreparedMessage
  serviceParameters : ServiceParameters
  deadline : Option Nat
  timeout : Option Nat
  execution : BcastExecution
  failurePolicy : BcastFailurePolicy
  shared : template.requestedContextId = some contextId
  untasked : template.requestedTaskId = none

structure BcastOperation extends BcastRequest where
  group : GroupRecord
  members : List GroupMemberRecord
  contextCreated : Bool

structure PlannedMember where
  member : GroupMemberRecord
  agent : AgentRecord
  selectedInterface : NegotiatedInterface
  prepared : PreparedMessage

structure FetchedCard where
  interface : NegotiatedInterface
  rawJson : Json
  etag : Option String
  lastModified : Option String

/-- What the broadcast finds outside when a member's turn comes: the clock before the member and
after its send (where the send was waited for), its credentials, its interface, and its answer. -/
structure MemberVisit where
  started : Nat
  authHeaders : Store → AgentRecord → Except MissiveError Unit
  cachedInterface : AgentRecord → Json → Except MissiveError NegotiatedInterface
  fetchCard : AgentRecord → Except MissiveError FetchedCard
  requestBytes : Message → Except MissiveError Nat
  send : PlannedMember → Except MissiveError SendMessageOutcome
  returned : Nat
  duration : Nat

structure Outside where
  visit : Nat → MemberVisit
  finished : Nat
  elapsed : Nat

def passed (deadline : Option Nat) (now : Nat) : Bool := deadline.any fun deadline => deadline ≤ now

def ensureBcastContext (contextId : ContextId) (group : GroupRecord) : Action Bool := do
  let known ← getContext contextId
  match known with
  | some _ => pure false
  | none => do
      let collective ← Effect.lift (insertStr .new "missive.collective" "bcast")
      let metadata ← Effect.lift (insertStr collective "missive.group" group.groupName.text)
      let _ ← upsertContext { ContextUpsert.new contextId with
        summary := some s!"Broadcast collective for group {group.groupName.text}"
        metadata := metadata }
      pure true

def loadBcastGroup (request : BcastRequest) : Action BcastOperation := do
  let found ← getGroup request.groupName
  match found with
  | none => Effect.raise ((MissiveError.validation
      s!"group {debug request.groupName.text} does not exist").withHelp
      "Run 'missive group list' to see locally known groups.")
  | some group => do
      let members ← readStore fun store => listGroupMembers store group.groupName
      if members.isEmpty then
        Effect.raise ((MissiveError.validation
          s!"group {debug group.groupName.text} has no members to broadcast to").withHelp
          "Add members with 'missive group add <group> <agent> --rank <rank>' before running bcast.")
      else do
        let created ← ensureBcastContext request.contextId group
        pure { request with group, members, contextCreated := created }

/-! Planning a member: its agent, its interface, and its own copy of the message. -/

def resolveSendInterface (visit : MemberVisit) (agent : AgentRecord) :
    Action (AgentRecord × NegotiatedInterface) :=
  match agent.agentCardJson with
  | some rawCard => do
      let selected ← Effect.lift (visit.cachedInterface agent rawCard)
      pure (agent, selected)
  | none => do
      let fetched ← Effect.lift (visit.fetchCard agent)
      let fetchedAt ← nowUtc
      let updated ← upsertAgent { AgentRename.agentUpsertFromRecord agent agent.aliasName with
        agentCardJson := some fetched.rawJson
        agentCardEtag := fetched.etag
        agentCardLastModified := fetched.lastModified
        agentCardFetchedAt := some fetchedAt }
      pure (updated, fetched.interface)

def updateField (name : String) (change : Json → Json) : Json → Json
  | .object rows => .object (rows.map fun (field, value) =>
      if field = name then (field, change value) else (field, value))
  | other => other

def clonePreparedWithNewMessageId (visit : MemberVisit) (template : PreparedMessage) :
    Action PreparedMessage := do
  let text ← newMessageId
  let messageId ← Effect.lift (Id.new .messageId text)
  let message := { template.message with messageId := messageId.text }
  let requestBytes ← Effect.lift (visit.requestBytes message)
  pure { template with
    request := updateField "message" (updateField "messageId" fun _ => .string messageId.text)
      template.request
    requestMessageId := messageId
    message
    requestBytes }

def planMemberSend (operation : BcastOperation) (visit : MemberVisit) (member : GroupMemberRecord) :
    Action PlannedMember := do
  let agent ← getExistingAgent member.agentAlias
  let headers ← readStore fun store => visit.authHeaders store agent
  Effect.lift headers
  let (agent, selectedInterface) ← resolveSendInterface visit agent
  let prepared ← clonePreparedWithNewMessageId visit operation.template
  pure ⟨member, agent, selectedInterface, prepared⟩

/-! What the summary says of a member. -/

structure ResponseSummary where
  shape : String
  messageId : Option String
  taskId : Option String
  contextId : Option String
  state : Option String

def responseSummary : SendMessageResponse → ResponseSummary
  | .message message => ⟨"message", some message.messageId, message.taskId, message.contextId, none⟩
  | .task task =>
      ⟨"task", task.status.message.map Message.messageId, some task.id, some task.contextId,
        some (storeTaskState task.status.state).asStr⟩

-- The outcome carries the interface that the send was planned with.
def successMemberView (plan : PlannedMember) (outcome : SendMessageOutcome)
    (persisted : Send.PersistedSend) (duration : Nat) : BcastMemberView :=
  let response := responseSummary outcome.response
  { agent := plan.member.agentAlias.text
    rank := plan.member.rankName.text
    status := .succeeded
    duration
    requestMessageId := some plan.prepared.requestMessageId.text
    selectedInterface := some plan.selectedInterface
    responseShape := some response.shape
    responseMessageId := response.messageId
    taskId := (persisted.taskId.map Id.text).or response.taskId
    contextId := (persisted.contextId.map Id.text).or response.contextId
    state := response.state
    error := none }

def failedMemberView (member : GroupMemberRecord) (duration : Nat) (error : MissiveError)
    (timedOut : Bool) : BcastMemberView where
  agent := member.agentAlias.text
  rank := member.rankName.text
  status := if timedOut then .timeout else .failed
  duration
  requestMessageId := none
  selectedInterface := none
  responseShape := none
  responseMessageId := none
  taskId := none
  contextId := none
  state := none
  error := some error

def timeoutMemberBeforeStart (member : GroupMemberRecord) (deadline : Option Nat) (now : Nat) :
    Option BcastMemberView :=
  if passed deadline now then
    some (failedMemberView member 0
      ((MissiveError.orchestration "broadcast timeout reached before member send started").withHelp
        "Increase --timeout or reduce group size.") true)
  else none

/-! The report of an error, without the chain of its sources. -/

def categoryName : ErrorCategory → String
  | .io => "io"
  | .config => "config"
  | .protocol => "protocol"
  | .transport => "transport"
  | .storage => "storage"
  | .auth => "auth"
  | .validation => "validation"
  | .orchestration => "orchestration"

def humanLabel : ErrorCategory → String
  | .io => "I/O"
  | .config => "configuration"
  | .protocol => "A2A protocol"
  | .auth => "authentication"
  | category => categoryName category

def exitCode : ErrorCategory → Nat
  | .validation => 64
  | .transport => 69
  | .orchestration => 70
  | .io => 74
  | .storage => 75
  | .protocol => 76
  | .auth => 77
  | .config => 78

-- A field with `skip_serializing_if = "Option::is_none"`.
def present (name : String) (value : Option Json) : List (String × Json) :=
  value.toList.map fun value => (name, value)

def reportJson (error : MissiveError) : Json :=
  .object ([("category", .string (categoryName error.category)),
    ("code", .string s!"missive::{categoryName error.category}"),
    ("exit_code", .nat (exitCode error.category))] ++
    present "help" (error.help.map .string) ++
    [("message", .string s!"{humanLabel error.category} error: {error.detail}")])

def interfaceViewJson (interface : NegotiatedInterface) : Json :=
  .object ([("binding", .string interface.binding),
    ("protocol_binding", .string interface.protocolBinding),
    ("protocol_version", .string interface.protocolVersion),
    ("source", .string interface.source.asStr)] ++ present "tenant" (interface.tenant.map .string) ++
    [("url", .string interface.url)])

def memberJson (view : BcastMemberView) : Json :=
  .object ([("agent", .string view.agent)] ++
    present "context_id" (view.contextId.map .string) ++ [("duration_ms", .nat view.duration)] ++
    present "error" (view.error.map reportJson) ++ [("rank", .string view.rank)] ++
    present "request_message_id" (view.requestMessageId.map .string) ++
    present "response_message_id" (view.responseMessageId.map .string) ++
    present "response_shape" (view.responseShape.map .string) ++
    present "selected_interface" (view.selectedInterface.map interfaceViewJson) ++
    present "state" (view.state.map .string) ++ [("status", .string view.status.asStr)] ++
    present "task_id" (view.taskId.map .string))

/-! The events of the broadcast. -/

def requestView (template : PreparedMessage) : List (String × Json) :=
  [("accepted_output_modes", .array (template.acceptedOutputModes.map .string)),
    ("local_input_bytes", .nat template.localInputBytes),
    ("metadata", template.localMetadata.toJson),
    ("part_count", .nat template.message.parts.length), ("parts", .array template.partSummaries),
    ("request_bytes", .nat template.requestBytes)]

def appendBcastStartEvent (operation : BcastOperation) : Action Unit := do
  let event ← newCliEvent "missive.bcast.started" (.object [
    ("context_id", .string operation.contextId.text),
    ("execution", .string operation.execution.asStr),
    ("failure_policy", .string operation.failurePolicy.asStr),
    ("group", .string operation.group.groupName.text),
    ("member_count", .nat operation.members.length),
    ("operation_id", .string operation.operationId),
    ("request", .object (requestView operation.template))])
  let _ ← appendVersioned { event with
    groupName := some operation.group.groupName
    contextId := some operation.contextId
    metadata := operation.template.localMetadata } operation.serviceParameters.protocolVersion
  pure ()

def memberEventType : MemberStatus → String
  | .succeeded => "missive.bcast.member.succeeded"
  | .timeout => "missive.bcast.member.timeout"
  | .failed => "missive.bcast.member.failed"

def appendBcastMemberEvent (operation : BcastOperation) (view : BcastMemberView) : Action Unit := do
  let event ← newCliEvent (memberEventType view.status) (memberJson view)
  let agentAlias ← Effect.lift (Id.new .agentAlias view.agent)
  let taskId ← Effect.lift (parseOptional .taskId view.taskId)
  let _ ← appendEvent { event with
    groupName := some operation.group.groupName
    contextId := some operation.contextId
    agentAlias := some agentAlias
    taskId }
  pure ()

/-! The members' turns. -/

variable (codec : Codec)

def persistMemberResult (operation : BcastOperation) (visit : MemberVisit) (plan : PlannedMember) :
    Action BcastMemberView :=
  match visit.send plan with
  | .ok outcome => do
      let persisted ← Send.persistSend codec plan.agent plan.prepared outcome
        operation.serviceParameters
      pure (successMemberView plan outcome persisted visit.duration)
  | .error error => pure (failedMemberView plan.member visit.duration error
      (passed operation.deadline visit.returned))

/-- Either the member is planned, or it has its result before anything is sent. -/
def prepareMember (operation : BcastOperation) (visit : MemberVisit) (member : GroupMemberRecord) :
    Action (Except BcastMemberView PlannedMember) :=
  match timeoutMemberBeforeStart member operation.deadline visit.started with
  | some timeout => pure (.error timeout)
  | none => do
      let planned ← Effect.attempt (planMemberSend operation visit member)
      match planned with
      | .ok plan => pure (.ok plan)
      | .error error => pure (.error (failedMemberView member 0 error false))

def memberResult (operation : BcastOperation) (visit : MemberVisit) :
    Except BcastMemberView PlannedMember → Action BcastMemberView
  | .ok plan => persistMemberResult codec operation visit plan
  | .error early => pure early

-- The rest of a member's turn, once it is planned or has its result.
def finishMember (operation : BcastOperation) (visit : MemberVisit)
    (prepared : Except BcastMemberView PlannedMember) : Action BcastMemberView := do
  let view ← memberResult codec operation visit prepared
  appendBcastMemberEvent operation view
  pure view

def sendMember (operation : BcastOperation) (visit : MemberVisit) (member : GroupMemberRecord) :
    Action BcastMemberView := do
  let prepared ← prepareMember operation visit member
  finishMember codec operation visit prepared

def runBcastSequential (operation : BcastOperation) (outside : Outside) :
    Nat → List GroupMemberRecord → Action (List BcastMemberView)
  | _, [] => pure []
  | index, member :: rest => do
      let view ← sendMember codec operation (outside.visit index) member
      if view.status ≠ .succeeded ∧ operation.failurePolicy = .stop then pure [view]
      else do
        let views ← runBcastSequential operation outside (index + 1) rest
        pure (view :: views)

structure Planning where
  planned : List (Nat × PlannedMember)
  early : List (Nat × BcastMemberView)

def planMembers (operation : BcastOperation) (outside : Outside) :
    Nat → List GroupMemberRecord → Action Planning
  | _, [] => pure ⟨[], []⟩
  | index, member :: rest => do
      let prepared ← prepareMember operation (outside.visit index) member
      match prepared with
      | .ok plan => do
          let planning ← planMembers operation outside (index + 1) rest
          pure { planning with planned := (index, plan) :: planning.planned }
      | .error early => do
          let early ← finishMember codec operation (outside.visit index) (.error early)
          let planning ← planMembers operation outside (index + 1) rest
          pure { planning with early := (index, early) :: planning.early }

-- The workers are joined in the order in which they were started, whenever each of them ended.
def joinWorkers (operation : BcastOperation) (outside : Outside) :
    List (Nat × PlannedMember) → Action (List (Nat × BcastMemberView))
  | [] => pure []
  | (index, plan) :: rest => do
      let view ← finishMember codec operation (outside.visit index) (.ok plan)
      let views ← joinWorkers operation outside rest
      pure ((index, view) :: views)

def runBcastConcurrent (operation : BcastOperation) (outside : Outside) :
    Action (List BcastMemberView) := do
  let planning ← planMembers codec operation outside 0 operation.members
  let joined ← joinWorkers codec operation outside planning.planned
  pure (((planning.early ++ joined).mergeSort fun first last => first.1 ≤ last.1).map Prod.snd)

/-! The summary. -/

def markFailure : List BcastMemberView → List BcastMemberView
  | [] => []
  | view :: rest =>
      if view.status = .failed then { view with status := .timeout } :: rest
      else view :: markFailure rest

def markLastFailureAsTimeout (views : List BcastMemberView) : List BcastMemberView :=
  (markFailure views.reverse).reverse

/-- The deadline passed, and the views do not say so yet. -/
def deadlineUnreported (deadline : Option Nat) (finished : Nat) (views : List BcastMemberView) : Bool :=
  passed deadline finished && !(views.any fun view => view.status = .timeout) &&
    views.any fun view => view.status ≠ .succeeded

def reviseStatuses (deadline : Option Nat) (finished : Nat) (views : List BcastMemberView) :
    List BcastMemberView :=
  if deadlineUnreported deadline finished views then markLastFailureAsTimeout views else views

-- The request and the profile are copied to the output as they are, and are left out.
structure BcastOutput where
  operationId : String
  group : GroupName
  contextId : ContextId
  execution : BcastExecution
  failurePolicy : BcastFailurePolicy
  status : String
  memberCount : Nat
  successCount : Nat
  failureCount : Nat
  timeout : Option Nat
  elapsed : Nat
  members : List BcastMemberView
  message : String

def successCount (views : List BcastMemberView) : Nat :=
  views.countP fun view => view.status = .succeeded

def outputStatus (operation : BcastOperation) (views : List BcastMemberView) : String :=
  if views.any fun view => view.status = .timeout then "timeout"
  else if views.length - successCount views = 0 ∧ views.length = operation.members.length then
    "succeeded"
  else if 0 < successCount views then "partial_failure"
  else "failed"

def outputMessage (operation : BcastOperation) (views : List BcastMemberView) : String :=
  let status := outputStatus operation views
  let group := operation.group.groupName.text
  let failures := views.length - successCount views
  if status = "succeeded" then
    s!"Broadcast to group '{group}' succeeded for {successCount views} member(s)"
  else if status = "partial_failure" then
    s!"Broadcast to group '{group}' reached {successCount views} member(s) with {failures} failure(s)"
  else if status = "timeout" then
    s!"Broadcast to group '{group}' timed out after reaching {successCount views} member(s)"
  else s!"Broadcast to group '{group}' failed for {failures} member(s)"

def finalizeBcastOutput (operation : BcastOperation) (elapsed : Nat) (views : List BcastMemberView) :
    BcastOutput where
  operationId := operation.operationId
  group := operation.group.groupName
  contextId := operation.contextId
  execution := operation.execution
  failurePolicy := operation.failurePolicy
  status := outputStatus operation views
  memberCount := operation.members.length
  successCount := successCount views
  failureCount := views.length - successCount views
  timeout := operation.timeout
  elapsed
  members := views
  message := outputMessage operation views

def completedPayload (output : BcastOutput) : Json :=
  .object [("context_id", .string output.contextId.text), ("elapsed_ms", .nat output.elapsed),
    ("execution", .string output.execution.asStr), ("failure_count", .nat output.failureCount),
    ("failure_policy", .string output.failurePolicy.asStr), ("group", .string output.group.text),
    ("member_count", .nat output.memberCount),
    ("members", .array (output.members.map memberJson)),
    ("operation_id", .string output.operationId), ("status", .string output.status),
    ("success_count", .nat output.successCount), ("timeout_ms", .ofOption .nat output.timeout)]

def appendBcastCompletedEvent (output : BcastOutput) : Action Unit := do
  let event ← newCliEvent "missive.bcast.completed" (completedPayload output)
  let _ ← appendEvent { event with
    groupName := some output.group
    contextId := some output.contextId }
  pure ()

def runMembers (operation : BcastOperation) (outside : Outside) : Action (List BcastMemberView) :=
  match operation.execution with
  | .sequential => runBcastSequential codec operation outside 0 operation.members
  | .concurrent => runBcastConcurrent codec operation outside

structure BcastRun where
  operation : BcastOperation
  views : List BcastMemberView

def startBcast (request : BcastRequest) : Action BcastOperation := do
  let operation ← loadBcastGroup request
  appendBcastStartEvent operation
  pure operation

-- The command up to the last member's turn, and from there on.
def runBcast (request : BcastRequest) (outside : Outside) : Action BcastRun := do
  let operation ← startBcast request
  let views ← runMembers codec operation outside
  pure ⟨operation, views⟩

def completeBcast (outside : Outside) (run : BcastRun) : Action BcastOutput := do
  let revised := reviseStatuses run.operation.deadline outside.finished run.views
  let output := finalizeBcastOutput run.operation outside.elapsed revised
  appendBcastCompletedEvent output
  pure output

/-- `execute_bcast_command` from the opened registry to the output that it prints. -/
def executeBcast (request : BcastRequest) (outside : Outside) : Action BcastOutput := do
  let run ← runBcast codec request outside
  completeBcast outside run

end Missive.Broadcast
