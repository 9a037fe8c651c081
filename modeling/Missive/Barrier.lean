import Missive.Collectives
import Missive.JobWorkers
import Missive.TaskPersistence

/-! `missive barrier`. A poll reads the stored task of every member that is not settled, and
without `--local` asks its agent for it; how that request reaches the agent comes from
outside, and so does the time that each round reads from the clock. -/
namespace Missive.Barrier

open JsonValue KeyedTable Missive.Core Schema Effects Repository Protocol BackgroundJobs
open TaskPersistence Collectives
open JobWorkers (NegotiatedInterface)

inductive BarrierFailurePolicy where
  | stop
  | continue
  deriving DecidableEq

structure BcastReference where
  group : Option String
  contextId : Option String
  taskIdsByAgent : List (String × String)

structure BarrierTargets where
  explicit : Bool
  targetStates : List TaskState
  successStates : List TaskState

-- The first of each state is kept; the names by which the source compares them differ.
def BarrierTargets.fromArgs (states : List TaskState) : BarrierTargets :=
  let explicitStates := states.eraseDups
  if explicitStates.isEmpty then ⟨false, [.completed, .failed, .cancelled], [.completed]⟩
  else ⟨true, explicitStates, explicitStates⟩

def BarrierTargets.isSuccess (targets : BarrierTargets) (state : TaskState) : Bool :=
  targets.successStates.contains state

def BarrierTargets.isRequested (targets : BarrierTargets) (state : TaskState) : Bool :=
  targets.targetStates.contains state

inductive MemberBarrierStatus where
  | satisfied
  | pending
  | failed
  | cancelled
  | missing
  | error
  | terminalUnmatched
  deriving DecidableEq

namespace MemberBarrierStatus

def asStr : MemberBarrierStatus → String
  | satisfied => "satisfied"
  | pending => "pending"
  | failed => "failed"
  | cancelled => "cancelled"
  | missing => "missing"
  | error => "error"
  | terminalUnmatched => "terminal_unmatched"

def isSuccess : MemberBarrierStatus → Bool
  | satisfied => true
  | _ => false

def isFailure : MemberBarrierStatus → Bool
  | failed | error | terminalUnmatched => true
  | _ => false

def isCancellation : MemberBarrierStatus → Bool
  | cancelled => true
  | _ => false

def isPending : MemberBarrierStatus → Bool
  | pending | missing => true
  | _ => false

def isDisqualified : MemberBarrierStatus → Bool
  | failed | cancelled | error | terminalUnmatched => true
  | _ => false

end MemberBarrierStatus

def classifyRecordState (state : TaskState) (targets : BarrierTargets) : MemberBarrierStatus :=
  if targets.isSuccess state then .satisfied
  else if !targets.explicit then
    match state with
    | .failed => .failed
    | .cancelled => .cancelled
    | _ => .pending
  else if isTerminalTaskState state && !targets.isRequested state then .terminalUnmatched
  else
    match state with
    | .failed => if !targets.isRequested .failed then .failed else .pending
    | .cancelled => if !targets.isRequested .cancelled then .cancelled else .pending
    | _ => .pending

structure BarrierMemberState where
  member : GroupMemberRecord
  taskId : Option TaskId
  contextId : Option ContextId
  state : Option TaskState
  source : Option TaskSource
  updatedAt : Option MilliTime
  status : MemberBarrierStatus
  attempts : Nat
  selectedInterface : Option NegotiatedInterface
  error : Option MissiveError

namespace BarrierMemberState

def new (member : GroupMemberRecord) (taskId : Option TaskId) : BarrierMemberState :=
  ⟨member, taskId, none, none, none, none, .pending, 0, none, none⟩

def applyRecord (member : BarrierMemberState) (record : TaskRecord) (targets : BarrierTargets) :
    BarrierMemberState :=
  { member with
    taskId := some record.taskId
    contextId := record.contextId
    state := some record.state
    source := some record.source
    updatedAt := some record.updatedAt
    error := none
    status := classifyRecordState record.state targets }

def markMissing (member : BarrierMemberState) : BarrierMemberState :=
  { member with state := none, source := none, updatedAt := none, status := .missing, error := none }

def markError (member : BarrierMemberState) (error : MissiveError) : BarrierMemberState :=
  { member with status := .error, error := some error }

-- A member that later polls leave alone.
def settled (member : BarrierMemberState) : Bool :=
  member.status.isSuccess || member.status.isDisqualified

end BarrierMemberState

-- Durations in milliseconds; `prepare_barrier_operation` checks the quorum.
structure BarrierOperation where
  operationId : String
  group : GroupRecord
  members : List GroupMemberRecord
  contextId : ContextId
  targets : BarrierTargets
  required : Nat
  timeout : Nat
  interval : Nat
  failurePolicy : BarrierFailurePolicy
  isLocal : Bool
  fromBcast : Bool
  historyLength : Option Int
  serviceParameters : ServiceParameters
  positive : 0 < required
  attainable : required ≤ members.length

structure BarrierArgs where
  group : String
  context : Option String
  states : List TaskState
  required : Option Nat
  failurePolicy : BarrierFailurePolicy
  isLocal : Bool
  interval : Option Nat
  historyLength : Option Int

def validateNonNegativeI32 (flag : String) (value : Option Int) : Except MissiveError Unit :=
  if value.any fun value => value < 0 then
    .error (MissiveError.validation s!"{flag} must be greater than or equal to zero")
  else .ok ()

def sameGroup (args : BarrierArgs) (reference : Option BcastReference) : Except MissiveError Unit :=
  match reference.bind BcastReference.group with
  | none => .ok ()
  | some group =>
      if group ≠ args.group then
        .error (MissiveError.validation
          s!"--from-bcast result is for group {debug group}, not {debug args.group}")
      else .ok ()

def contextValue (args : BarrierArgs) (reference : Option BcastReference) :
    Except MissiveError String :=
  match args.context, reference.bind BcastReference.contextId with
  | some explicit, some fromBcast =>
      if explicit ≠ fromBcast then
        .error ((MissiveError.validation
          s!"--context {debug explicit} does not match --from-bcast context {debug fromBcast}").withHelp
          "Use the same context id as the broadcast result, or omit --context when using --from-bcast.")
      else .ok explicit
  | some explicit, none => .ok explicit
  | none, some fromBcast => .ok fromBcast
  | none, none => .error (MissiveError.validation
      "missive barrier requires --context <id> unless --from-bcast provides one")

/-- `prepare_barrier_operation`, with `--timeout` and `--interval` already read as durations. -/
def prepareBarrierOperation (args : BarrierArgs) (timeout : Option Nat)
    (reference : Option BcastReference) (serviceParameters : ServiceParameters) :
    Action BarrierOperation := do
  Effect.lift (validateNonNegativeI32 "--history-length" args.historyLength)
  Effect.lift (sameGroup args reference)
  let context ← Effect.lift (contextValue args reference)
  let contextId ← Effect.lift (Id.new .contextId context)
  let groupName ← Effect.lift (Id.new .groupName args.group)
  let found ← getGroup groupName
  let group ← match found with
    | some group => pure group
    | none => Effect.raise ((MissiveError.validation
        s!"group {debug groupName.text} does not exist").withHelp
        "Run 'missive group list' to see locally known groups.")
  let members ← readStore fun store => listGroupMembers store group.groupName
  if members.isEmpty then
    Effect.raise ((MissiveError.validation
      s!"group {debug group.groupName.text} has no members for barrier synchronization").withHelp
      "Add members with 'missive group add <group> <agent> --rank <rank>' before running barrier.")
  else
    let required := args.required.getD members.length
    if refused : required = 0 ∨ members.length < required then
      Effect.raise (MissiveError.validation
        s!"--required must be between 1 and the group member count ({members.length})")
    else
      let messageId ← newMessageId
      pure {
        operationId := s!"barrier/{messageId}"
        group
        members
        contextId
        targets := .fromArgs args.states
        required
        timeout := timeout.getD 30000
        interval := min (args.interval.getD 1000) 5000
        failurePolicy := args.failurePolicy
        isLocal := args.isLocal
        fromBcast := reference.isSome
        historyLength := args.historyLength
        serviceParameters
        positive := Nat.pos_of_ne_zero (not_or.mp refused).1
        attainable := Nat.not_lt.mp (not_or.mp refused).2 }

-- What one member of a broadcast result adds; a later one for the same agent is found first.
def referenceMember (taskIds : List (String × String)) (member : Json) : List (String × String) :=
  match (member.get "agent").bind Json.asStr, (member.get "task_id").bind Json.asStr with
  | some agent, some taskId => (agent, taskId) :: taskIds
  | _, _ => taskIds

/-- `parse_bcast_reference`, from the JSON value that `serde_json` reads off the text. -/
def parseBcastReference (value : Json) : Except MissiveError BcastReference :=
  let data := (value.get "data").getD value
  let requested := (data.get "request").bind fun request => request.get "context_id"
  let contextId := (requested <|> data.get "context_id").bind Json.asStr
  let members := match data.get "members" with
    | some (.array members) => members
    | _ => []
  let taskIdsByAgent := members.foldl referenceMember []
  if contextId.isNone && taskIdsByAgent.isEmpty then
    .error ((MissiveError.validation
      "--from-bcast JSON did not contain data.request.context_id or member task ids").withHelp
      "Pass a complete 'missive bcast --json' output document.")
  else .ok ⟨(data.get "group").bind Json.asStr, contextId, taskIdsByAgent⟩

/-! The members and their polls. -/

def referencedTaskId (reference : Option BcastReference) (agentAlias : AgentAlias) :
    Option String :=
  reference.bind fun reference => reference.taskIdsByAgent.lookup agentAlias.text

def buildMemberState (store : Store) (operation : BarrierOperation)
    (reference : Option BcastReference) (member : GroupMemberRecord) :
    Except MissiveError BarrierMemberState := do
  let referenced ← parseOptional .taskId (referencedTaskId reference member.agentAlias)
  let latest := latestMemberTask store member.agentAlias operation.contextId
  .ok (.new member (referenced <|> latest.map TaskRecord.taskId))

def buildMemberStates (store : Store) (operation : BarrierOperation)
    (reference : Option BcastReference) : Except MissiveError (List BarrierMemberState) :=
  operation.members.mapM (buildMemberState store operation reference)

-- The agent that `resolve_send_interface` returns: its card may be new, its alias is not.
structure ResolvedAgent (agent : AgentRecord) where
  record : AgentRecord
  same : record.aliasName = agent.aliasName

/-- What one round of polls finds outside: what other processes do before a member is polled,
how `GetTask` requests end, and the time since the barrier started when the round is over. A
request may change the store, as a refreshed agent card does. -/
structure PollRound where
  meanwhile : AgentAlias → World → World
  getTask : (agent : AgentRecord) → TaskId →
    Action (ResolvedAgent agent × NegotiatedInterface × RemoteTask)
  elapsed : Nat

variable (codec : Codec)

-- The stored row that a poll looks at first.
def knownRecord (store : Store) (operation : BarrierOperation) (member : BarrierMemberState) :
    Option TaskRecord :=
  match member.taskId with
  | some taskId => store.tasks.find? taskId
  | none => latestMemberTask store member.member.agentAlias operation.contextId

def refreshLocalMember (operation : BarrierOperation) (store : Store)
    (member : BarrierMemberState) : BarrierMemberState :=
  match knownRecord store operation member with
  | some record => member.applyRecord record operation.targets
  | none => member.markMissing

-- `GetTask`, and the transaction that persists its answer.
def fetchRemoteTask (operation : BarrierOperation) (round : PollRound) (agentAlias : AgentAlias)
    (taskId : TaskId) : Action (NegotiatedInterface × TaskRecord) := do
  let agent ← getExistingAgent agentAlias
  let (resolved, selectedInterface, task) ← round.getTask agent taskId
  let record ← Refresh.persistBarrierRemoteTask codec resolved.record task
    operation.serviceParameters
  pure (selectedInterface, record)

def requestRemoteMember (operation : BarrierOperation) (round : PollRound)
    (member : BarrierMemberState) (world : World) : BarrierMemberState × World :=
  match member.taskId with
  | none => (member.markMissing, world)
  | some taskId =>
      match fetchRemoteTask codec operation round member.member.agentAlias taskId world with
      | (.error error, after) => (member.markError error, after)
      | (.ok (selectedInterface, record), after) =>
          ({ member with selectedInterface := some selectedInterface }.applyRecord record
            operation.targets, after)

def refreshRemoteMember (operation : BarrierOperation) (round : PollRound)
    (member : BarrierMemberState) (world : World) : BarrierMemberState × World :=
  match knownRecord world.store operation member with
  | some record =>
      let known := member.applyRecord record operation.targets
      if known.settled then (known, world)
      else requestRemoteMember codec operation round known world
  | none => requestRemoteMember codec operation round member world

-- The attempts saturate at the greatest `u64`.
def refreshBarrierMember (operation : BarrierOperation) (round : PollRound)
    (member : BarrierMemberState) (world : World) : BarrierMemberState × World :=
  let member := { member with attempts := min (member.attempts + 1) (2 ^ 64 - 1) }
  if member.settled then (member, world)
  else if operation.isLocal then (refreshLocalMember operation world.store member, world)
  else refreshRemoteMember codec operation round member world

def refreshMembers (operation : BarrierOperation) (round : PollRound) :
    List BarrierMemberState → World → List BarrierMemberState × World
  | [], world => ([], world)
  | member :: rest, world =>
      let found := round.meanwhile member.member.agentAlias world
      let (refreshed, middle) := refreshBarrierMember codec operation round member found
      let (others, after) := refreshMembers operation round rest middle
      (refreshed :: others, after)

/-! The verdict. -/

inductive BarrierDecision where
  | continue
  | succeeded
  | failed
  | cancelled
  | timeout
  deriving DecidableEq

section Counts

variable (members : List BarrierMemberState)

def reachedCount : Nat := members.countP fun member => member.status.isSuccess

def failureCount : Nat := members.countP fun member => member.status.isFailure

def cancellationCount : Nat := members.countP fun member => member.status.isCancellation

def pendingCount : Nat := members.countP fun member => member.status.isPending

def disqualifiedCount : Nat := members.countP fun member => member.status.isDisqualified

end Counts

def evaluateBarrier (operation : BarrierOperation) (elapsed : Nat)
    (members : List BarrierMemberState) : BarrierDecision :=
  if operation.required ≤ reachedCount members then .succeeded
  else if operation.failurePolicy = .stop ∧ 0 < failureCount members then .failed
  else if operation.failurePolicy = .stop ∧ 0 < cancellationCount members then .cancelled
  else if members.length - disqualifiedCount members < operation.required then
    if 0 < cancellationCount members ∧ failureCount members = 0 then .cancelled else .failed
  else if operation.timeout ≤ elapsed then .timeout
  else .continue

structure BarrierPoll where
  members : List BarrierMemberState
  attempts : Nat
  world : World

def pollRound (operation : BarrierOperation) (round : PollRound) (poll : BarrierPoll) :
    BarrierPoll :=
  let (members, world) := refreshMembers codec operation round poll.members poll.world
  ⟨members, poll.attempts + 1, world⟩

/-- The loop of `execute_barrier_command`. It has no result while the barrier is still polling
after the rounds given. -/
def pollBarrier (operation : BarrierOperation) :
    List PollRound → BarrierPoll → Option (BarrierDecision × BarrierPoll)
  | [], _ => none
  | round :: rest, poll =>
      let polled := pollRound codec operation round poll
      let decision := evaluateBarrier operation round.elapsed polled.members
      if decision ≠ .continue then some (decision, polled) else pollBarrier operation rest polled

-- The polls of some rounds, whatever they decide.
def pollRounds (operation : BarrierOperation) (rounds : List PollRound) (poll : BarrierPoll) :
    BarrierPoll :=
  rounds.foldl (fun poll round => pollRound codec operation round poll) poll

structure BarrierOutput where
  operationId : String
  group : GroupName
  contextId : ContextId
  status : String
  attempts : Nat
  memberCount : Nat
  required : Nat
  reachedCount : Nat
  failureCount : Nat
  cancellationCount : Nat
  pendingCount : Nat
  targetStates : List String
  successStates : List String
  members : List BarrierMemberState
  message : String

def BarrierDecision.asStr : BarrierDecision → String
  | .succeeded => "succeeded"
  | .failed => "failed"
  | .cancelled => "cancelled"
  | .timeout => "timeout"
  | .continue => "continue"

def outputMessage (operation : BarrierOperation) (poll : BarrierPoll) : BarrierDecision → String
  | .succeeded =>
      s!"Barrier for group '{operation.group.groupName.text}' reached quorum {reachedCount poll.members}/{operation.required} in context '{operation.contextId.text}'"
  | .cancelled =>
      s!"Barrier for group '{operation.group.groupName.text}' observed {cancellationCount poll.members} cancelled member task(s)"
  | .timeout =>
      s!"Barrier for group '{operation.group.groupName.text}' timed out after {poll.attempts} attempt(s)"
  | _ =>
      s!"Barrier for group '{operation.group.groupName.text}' failed with {failureCount poll.members} failed member task(s)"

-- The fields that are copied from the operation or read from the clock are left out.
def finalizeBarrierOutput (operation : BarrierOperation) (decision : BarrierDecision)
    (poll : BarrierPoll) : BarrierOutput where
  operationId := operation.operationId
  group := operation.group.groupName
  contextId := operation.contextId
  status := decision.asStr
  attempts := poll.attempts
  memberCount := poll.members.length
  required := operation.required
  reachedCount := reachedCount poll.members
  failureCount := failureCount poll.members
  cancellationCount := cancellationCount poll.members
  pendingCount := pendingCount poll.members
  targetStates := operation.targets.targetStates.map TaskState.asStr
  successStates := operation.targets.successStates.map TaskState.asStr
  members := poll.members
  message := outputMessage operation poll decision

end Missive.Barrier
