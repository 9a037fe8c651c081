import Mathlib.Data.Prod.Lex
import Missive.Core

/-! The tables of the SQLite schema, migrations 1 and 2, with the columns the
repository reads and writes. A row holds decoded columns: identifiers are valid,
JSON columns hold values, a REAL column holds its bits, and a time column keeps
the precision with which it was written. -/
namespace Missive.Schema

open JsonValue KeyedTable Missive.Core

inductive AuthRefKind where
  | env
  | keyring
  | external
  deriving DecidableEq

inductive AuthSecretStorage where
  | external
  | env
  | keyring
  deriving DecidableEq

inductive AgentSource where
  | local
  | configSeed
  | discovered
  deriving DecidableEq

def AgentSource.asStr : AgentSource → String
  | .local => "local"
  | .configSeed => "config_seed"
  | .discovered => "discovered"

inductive ContextState where
  | open
  | closed
  | archived
  deriving DecidableEq

inductive TaskState where
  | submitted
  | working
  | inputRequired
  | completed
  | failed
  | cancelled
  | unknown
  deriving DecidableEq

def TaskState.asStr : TaskState → String
  | .submitted => "submitted"
  | .working => "working"
  | .inputRequired => "input_required"
  | .completed => "completed"
  | .failed => "failed"
  | .cancelled => "cancelled"
  | .unknown => "unknown"

inductive TaskSource where
  | remote
  | local
  | gateway
  deriving DecidableEq

def TaskSource.asStr : TaskSource → String
  | .remote => "remote"
  | .local => "local"
  | .gateway => "gateway"

inductive ArtifactKind where
  | text
  | json
  | file
  | bytes
  | unknown
  deriving DecidableEq

inductive MessageDirection where
  | request
  | response
  | streamEvent
  | push
  | local
  deriving DecidableEq

inductive MessageRole where
  | user
  | agent
  | system
  | tool
  | unknown
  deriving DecidableEq

inductive GatewayJobState where
  | queued
  | running
  | succeeded
  | failed
  | cancelled
  | retrying
  deriving DecidableEq

def GatewayJobState.asStr : GatewayJobState → String
  | .queued => "queued"
  | .running => "running"
  | .succeeded => "succeeded"
  | .failed => "failed"
  | .cancelled => "cancelled"
  | .retrying => "retrying"

inductive GatewaySessionResetMode where
  | none
  | daily
  | idle
  | both
  deriving DecidableEq

structure AuthRefRecord where
  name : String
  kind : AuthRefKind
  headerName : String
  scheme : Option String
  envVar : Option String
  keyringService : Option String
  keyringAccount : Option String
  secretStorage : AuthSecretStorage
  metadata : Metadata
  createdAt : MilliTime
  updatedAt : MilliTime

structure AgentRecord where
  aliasName : AgentAlias
  source : AgentSource
  baseUrl : String
  interfaceUrls : List (TransportName × String)
  bindingPreference : List TransportName
  authRefName : Option String
  tags : List String
  notes : Option String
  metadata : Metadata
  agentCardJson : Option Json
  agentCardEtag : Option String
  agentCardLastModified : Option String
  agentCardFetchedAt : Option SecondTime
  readOnly : Bool
  createdAt : MilliTime
  updatedAt : MilliTime

structure ContextRecord where
  contextId : ContextId
  agentAlias : Option AgentAlias
  name : Option String
  parentContextId : Option ContextId
  state : ContextState
  summary : Option String
  metadata : Metadata
  createdAt : MilliTime
  updatedAt : MilliTime
  closedAt : Option SecondTime

structure TaskRecord where
  taskId : TaskId
  agentAlias : AgentAlias
  contextId : Option ContextId
  state : TaskState
  source : TaskSource
  protocolVersion : Option String
  remoteTaskJson : Option Json
  lastMessageId : Option MessageId
  metadata : Metadata
  createdAt : MilliTime
  updatedAt : MilliTime
  completedAt : Option SecondTime

structure MessageRecord where
  messageId : MessageId
  agentAlias : Option AgentAlias
  contextId : Option ContextId
  taskId : Option TaskId
  direction : MessageDirection
  role : Option MessageRole
  ordinal : UInt64
  protocolMessageId : Option String
  contentJson : Json
  metadata : Metadata
  createdAt : MilliTime

structure ArtifactRecord where
  artifactId : ArtifactId
  taskId : TaskId
  contextId : Option ContextId
  name : Option String
  mimeType : Option String
  kind : ArtifactKind
  version : UInt64
  contentJson : Option Json
  bytesPath : Option String
  metadata : Metadata
  createdAt : MilliTime
  updatedAt : MilliTime

structure GroupRecord where
  groupName : GroupName
  routingPolicy : String
  notes : Option String
  metadata : Metadata
  createdAt : MilliTime
  updatedAt : MilliTime

structure GroupMemberRecord where
  groupName : GroupName
  agentAlias : AgentAlias
  rankName : RankName
  tags : List String
  weight : UInt64
  routingMetadata : Metadata
  createdAt : MilliTime

structure AdapterBindingRecord where
  adapterBindingId : AdapterBindingId
  name : String
  kind : String
  profile : String
  enabled : Bool
  sourceIdentity : Option String
  settings : Json
  metadata : Metadata
  createdAt : MilliTime
  updatedAt : MilliTime

structure GatewayJobRecord where
  gatewayJobId : GatewayJobId
  kind : String
  state : GatewayJobState
  agentAlias : Option AgentAlias
  contextId : Option ContextId
  taskId : Option TaskId
  groupName : Option GroupName
  adapterBindingId : Option AdapterBindingId
  requestJson : Json
  resultJson : Option Json
  metadata : Metadata
  retryCount : UInt32
  maxAttempts : UInt32
  nextRunAt : Option SecondTime
  lockedBy : Option String
  lockedUntil : Option SecondTime
  createdAt : MilliTime
  updatedAt : MilliTime
  completedAt : Option SecondTime

-- A column that holds the caller's time or, without one, SQLite's: `events.timestamp`, and
-- `push_configs.deleted_at` after an upsert or a deletion.
inductive EventTime where
  | given (time : SecondTime)
  | filled (time : MilliTime)
  deriving DecidableEq

structure PushConfigRecord where
  pushConfigId : PushConfigId
  agentAlias : AgentAlias
  taskId : Option TaskId
  callbackUrl : String
  authRefName : Option String
  remoteConfigJson : Option Json
  metadata : Metadata
  createdAt : MilliTime
  updatedAt : MilliTime
  deletedAt : Option EventTime

structure EventRecord where
  sequence : Nat
  eventId : EventId
  timestamp : EventTime
  source : String
  eventType : String
  agentAlias : Option AgentAlias
  contextId : Option ContextId
  taskId : Option TaskId
  groupName : Option GroupName
  gatewayJobId : Option GatewayJobId
  adapterBindingId : Option AdapterBindingId
  payloadJson : Json
  metadata : Metadata
  redacted : Bool

structure GatewaySessionRecord where
  gatewaySessionId : GatewaySessionId
  sourceKind : String
  sourceId : String
  agentAlias : AgentAlias
  resumeName : String
  contextId : ContextId
  resetMode : GatewaySessionResetMode
  dailyResetHour : UInt8
  idleTimeoutSeconds : Option UInt64
  lastActiveAt : SecondTime
  lastResetAt : Option SecondTime
  resetCount : UInt64
  metadata : Metadata
  createdAt : MilliTime
  updatedAt : MilliTime

instance : Keyed AuthRefRecord String := ⟨AuthRefRecord.name⟩
instance : Keyed AgentRecord AgentAlias := ⟨AgentRecord.aliasName⟩
instance : Keyed ContextRecord ContextId := ⟨ContextRecord.contextId⟩
instance : Keyed TaskRecord TaskId := ⟨TaskRecord.taskId⟩
instance : Keyed MessageRecord MessageId := ⟨MessageRecord.messageId⟩
instance : Keyed ArtifactRecord ArtifactId := ⟨ArtifactRecord.artifactId⟩
instance : Keyed GroupRecord GroupName := ⟨GroupRecord.groupName⟩
instance : Keyed GroupMemberRecord (Lex (GroupName × AgentAlias)) :=
  ⟨fun member => toLex (member.groupName, member.agentAlias)⟩
instance : Keyed AdapterBindingRecord AdapterBindingId := ⟨AdapterBindingRecord.adapterBindingId⟩
instance : Keyed GatewayJobRecord GatewayJobId := ⟨GatewayJobRecord.gatewayJobId⟩
instance : Keyed PushConfigRecord PushConfigId := ⟨PushConfigRecord.pushConfigId⟩
instance : Keyed EventRecord Nat := ⟨EventRecord.sequence⟩
instance : Keyed GatewaySessionRecord GatewaySessionId := ⟨GatewaySessionRecord.gatewaySessionId⟩

structure Store where
  authRefs : Table AuthRefRecord
  agents : Table AgentRecord
  contexts : Table ContextRecord
  tasks : Table TaskRecord
  messages : Table MessageRecord
  artifacts : Table ArtifactRecord
  groups : Table GroupRecord
  groupMembers : Table GroupMemberRecord
  adapterBindings : Table AdapterBindingRecord
  gatewayJobs : Table GatewayJobRecord
  pushConfigs : Table PushConfigRecord
  events : Table EventRecord
  gatewaySessions : Table GatewaySessionRecord
  -- the `AUTOINCREMENT` counter of `events`
  nextSequence : Nat
  unused : ∀ row ∈ events.rows, row.sequence < nextSequence

def Store.empty : Store where
  authRefs := .empty
  agents := .empty
  contexts := .empty
  tasks := .empty
  messages := .empty
  artifacts := .empty
  groups := .empty
  groupMembers := .empty
  adapterBindings := .empty
  gatewayJobs := .empty
  pushConfigs := .empty
  events := .empty
  gatewaySessions := .empty
  nextSequence := 1
  unused := by simp [Table.empty]

/-! A reference column is accepted when it is null or names a row. -/

section References

variable (store : Store)

def Store.hasAuthRef (name : Option String) : Bool :=
  name.all fun name => (store.authRefs.find? name).isSome

def Store.hasAgent (name : Option AgentAlias) : Bool :=
  name.all fun name => (store.agents.find? name).isSome

def Store.hasContext (id : Option ContextId) : Bool :=
  id.all fun id => (store.contexts.find? id).isSome

def Store.hasTask (id : Option TaskId) : Bool := id.all fun id => (store.tasks.find? id).isSome

def Store.hasGroup (name : Option GroupName) : Bool :=
  name.all fun name => (store.groups.find? name).isSome

def Store.hasAdapterBinding (id : Option AdapterBindingId) : Bool :=
  id.all fun id => (store.adapterBindings.find? id).isSome

def Store.hasGatewayJob (id : Option GatewayJobId) : Bool :=
  id.all fun id => (store.gatewayJobs.find? id).isSome

end References

end Missive.Schema
