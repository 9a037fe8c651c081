import Missive.Effects
import Missive.JsonRedaction
import Missive.Schema

/-! The repository functions of `missive-store` over the modelled database.
Every statement checks the references it writes, as SQLite does with foreign
keys enabled, and a statement that fails changes nothing. The clock and the
generated message ids come from the surroundings, one reading after another. -/
namespace Missive.Repository

open JsonValue KeyedTable Missive.Core Schema Effects

structure World where
  store : Store
  clock : Nat → MissiveTimestamp
  messageIds : Nat → String
  drawn : Nat

abbrev Action (Result : Type) := Effect World MissiveError Result

def nowUtc : Action MissiveTimestamp := fun world =>
  (.ok (world.clock world.drawn), { world with drawn := world.drawn + 1 })

def newMessageId : Action String := fun world =>
  (.ok (world.messageIds world.drawn), { world with drawn := world.drawn + 1 })

-- `strftime('%Y-%m-%dT%H:%M:%fZ', 'now')` of one statement.
def sqlNow : Action MilliTime := do
  let time ← nowUtc
  pure time.toMillis

def readStore (query : Store → Result) : Action Result := fun world =>
  (.ok (query world.store), world)

def storageError (action error : String) : MissiveError :=
  (MissiveError.storage s!"{action}: {error}").withHelp
    "Inspect the SQLite database path, migrations, and profile state permissions."

def missingAfterWrite (kind identifier : String) : MissiveError :=
  (MissiveError.storage s!"{kind} {debug identifier} was written but could not be read back").withHelp
    "Inspect the SQLite database and repository write transaction."

def foreignKeyFailed : String := "FOREIGN KEY constraint failed"

-- One writing statement: either all of it takes place or the error it meets is reported.
def execute (action : String) (refused : Store → Option String) (write : Store → Store) :
    Action Unit := fun world =>
  match refused world.store with
  | some error => (.error (storageError action error), world)
  | none => (.ok (), { world with store := write world.store })

def refuseUnless (accepted : Bool) (error : String) : Option String :=
  if accepted then none else some error

def readBack (kind identifier : String) (query : Store → Option Result) : Action Result := do
  let found ← readStore query
  match found with
  | some row => pure row
  | none => Effect.raise (missingAfterWrite kind identifier)

def validateNonEmpty (label value : String) : Except MissiveError Unit :=
  if value.isEmpty then .error (MissiveError.validation s!"{label} cannot be empty") else .ok ()

def validateLen (label value : String) (maxBytes : Nat) : Except MissiveError Unit := do
  validateNonEmpty label value
  if value.utf8ByteSize > maxBytes then
    .error (MissiveError.validation
      s!"{label} is {value.utf8ByteSize} bytes, but the maximum is {maxBytes}")
  else .ok ()

def validateOptionLen (label : String) (value : Option String) (maxBytes : Nat) :
    Except MissiveError Unit :=
  match value with
  | some value => validateLen label value maxBytes
  | none => .ok ()

/-! Every upsert is one statement `INSERT .. ON CONFLICT .. DO UPDATE` followed by
a read of the row it wrote. -/

structure StoreTable (Row : Type) {Key : Type} [Keyed Row Key] [LinearOrder Key] where
  rows : Store → Table Row
  withRows : Store → Table Row → Store
  rows_withRows : ∀ store table, rows (withRows store table) = table

def agentsTable : StoreTable AgentRecord :=
  ⟨Store.agents, fun store table => { store with agents := table }, fun _ _ => rfl⟩

def contextsTable : StoreTable ContextRecord :=
  ⟨Store.contexts, fun store table => { store with contexts := table }, fun _ _ => rfl⟩

def tasksTable : StoreTable TaskRecord :=
  ⟨Store.tasks, fun store table => { store with tasks := table }, fun _ _ => rfl⟩

def artifactsTable : StoreTable ArtifactRecord :=
  ⟨Store.artifacts, fun store table => { store with artifacts := table }, fun _ _ => rfl⟩

def gatewayJobsTable : StoreTable GatewayJobRecord :=
  ⟨Store.gatewayJobs, fun store table => { store with gatewayJobs := table }, fun _ _ => rfl⟩

def messagesTable : StoreTable MessageRecord :=
  ⟨Store.messages, fun store table => { store with messages := table }, fun _ _ => rfl⟩

-- One draw from the surroundings later.
def World.later (world : World) : World := { world with drawn := world.drawn + 1 }

def World.withStore (world : World) (store : Store) : World := { world with store }

@[simp] theorem World.later_store (world : World) : world.later.store = world.store := rfl

@[simp] theorem World.withStore_store (world : World) (store : Store) :
    (world.withStore store).store = store := rfl

section Upsert

variable {Row Key : Type} [Keyed Row Key] [LinearOrder Key]

def StoreTable.written (table : StoreTable Row) (wanted : Key)
    (record : MilliTime → Option Row → Row) (world : World) : Row :=
  record (world.clock world.drawn).toMillis ((table.rows world.store).find? wanted)

def upsertRow (table : StoreTable Row) (checked : Except MissiveError Unit)
    (action kind identifier : String) (wanted : Key) (refused : Store → Option String)
    (record : MilliTime → Option Row → Row) : Action Row := do
  Effect.lift checked
  let time ← sqlNow
  execute action refused fun store =>
    table.withRows store ((table.rows store).put (record time ((table.rows store).find? wanted)))
  readBack kind identifier fun store => (table.rows store).find? wanted

variable (table : StoreTable Row) (checked : Except MissiveError Unit)
  (action kind identifier : String) (wanted : Key) (refused : Store → Option String)
  (record : MilliTime → Option Row → Row)

theorem upsertRow_invalid (error : MissiveError) (world : World) :
    upsertRow table (.error error) action kind identifier wanted refused record world =
      (.error error, world) := rfl

theorem upsertRow_refused (passed : checked = .ok ()) (error : String) (world : World)
    (failed : refused world.store = some error) :
    upsertRow table checked action kind identifier wanted refused record world =
      (.error (storageError action error), world.later) := by
  subst passed
  have drawn : sqlNow world = (.ok (world.clock world.drawn).toMillis, world.later) := rfl
  unfold upsertRow
  rw [Effect.bind_ok _ _ _ _ _ (Effect.lift_run (.ok ()) world), Effect.bind_ok _ _ _ _ _ drawn]
  apply Effect.bind_error
  simp only [execute, World.later_store, failed]

/-- An accepted upsert writes its row and returns it. -/
theorem upsertRow_accepted (keyed : ∀ time existing, key (record time existing) = wanted)
    (passed : checked = .ok ()) (world : World) (accepted : refused world.store = none) :
    upsertRow table checked action kind identifier wanted refused record world =
      (.ok (table.written wanted record world),
        world.later.withStore (table.withRows world.store
          ((table.rows world.store).put (table.written wanted record world)))) := by
  subst passed
  have executed : execute action refused (fun store => table.withRows store
        ((table.rows store).put
          (record (world.clock world.drawn).toMillis ((table.rows store).find? wanted))))
      world.later =
      (.ok (), world.later.withStore (table.withRows world.store
        ((table.rows world.store).put (table.written wanted record world)))) := by
    simp only [execute, World.later_store, accepted]
    rfl
  have found : ((table.rows world.store).put (table.written wanted record world)).find? wanted =
      some (table.written wanted record world) := by
    have self := Table.find?_put_self (table.rows world.store) (table.written wanted record world)
    rwa [show key (table.written wanted record world) = wanted from keyed _ _] at self
  have drawn : sqlNow world = (.ok (world.clock world.drawn).toMillis, world.later) := rfl
  unfold upsertRow
  rw [Effect.bind_ok _ _ _ _ _ (Effect.lift_run (.ok ()) world), Effect.bind_ok _ _ _ _ _ drawn,
    Effect.bind_ok _ _ _ _ _ executed]
  simp only [readBack, Effect.bind_run, readStore, World.withStore_store, table.rows_withRows,
    found, Effect.pure_run]

/-- Whatever an upsert meets: it fails and leaves the store, or it is accepted. -/
theorem upsertRow_cases (keyed : ∀ time existing, key (record time existing) = wanted)
    (world : World) :
    (∃ error after,
      upsertRow table checked action kind identifier wanted refused record world =
        (.error error, after) ∧ after.store = world.store) ∨
    (checked = .ok () ∧ refused world.store = none ∧
      upsertRow table checked action kind identifier wanted refused record world =
        (.ok (table.written wanted record world),
          world.later.withStore (table.withRows world.store
            ((table.rows world.store).put (table.written wanted record world))))) := by
  cases shown : checked with
  | error error => exact Or.inl ⟨error, world, upsertRow_invalid .., rfl⟩
  | ok _ =>
      cases outcome : refused world.store with
      | some error =>
          exact Or.inl ⟨_, world.later, upsertRow_refused table (.ok ()) action kind identifier wanted
            refused record rfl error world outcome, rfl⟩
      | none =>
          exact Or.inr ⟨rfl, rfl, upsertRow_accepted table (.ok ()) action kind identifier wanted
            refused record keyed rfl world outcome⟩

theorem upsertRow_returned (keyed : ∀ time existing, key (record time existing) = wanted)
    {world after : World} {row : Row}
    (ran : upsertRow table checked action kind identifier wanted refused record world =
      (.ok row, after)) :
    row = table.written wanted record world ∧ after = world.later.withStore
      (table.withRows world.store ((table.rows world.store).put row)) := by
  rcases upsertRow_cases table checked action kind identifier wanted refused record keyed world with
    ⟨error, left, failed, _⟩ | ⟨_, _, wrote⟩
  · rw [failed] at ran
    cases ran
  · rw [wrote] at ran
    cases ran
    exact ⟨rfl, rfl⟩

end Upsert

/-! Agents. -/

structure AgentUpsert where
  aliasName : AgentAlias
  source : AgentSource
  baseUrl : String
  interfaceUrls : List (TransportName × String)
  bindingPreference : List TransportName
  authRefName : Option String
  tags : List String
  notes : Option String
  metadata : Metadata
  agentCardJson : Option Json
  agentCardEtag : Option String
  agentCardLastModified : Option String
  agentCardFetchedAt : Option MissiveTimestamp
  readOnly : Bool

def defaultBindingPreference : List TransportName :=
  [⟨"http+json", by decide⟩, ⟨"json-rpc", by decide⟩]

def AgentUpsert.new (aliasName : AgentAlias) (baseUrl : String) : AgentUpsert where
  aliasName := aliasName
  source := .local
  baseUrl := baseUrl
  interfaceUrls := []
  bindingPreference := defaultBindingPreference
  authRefName := none
  tags := []
  notes := none
  metadata := .new
  agentCardJson := none
  agentCardEtag := none
  agentCardLastModified := none
  agentCardFetchedAt := none
  readOnly := false

-- The row an upsert leaves: a new one is created now, an old one keeps its creation time.
def AgentUpsert.toRecord (input : AgentUpsert) (time : MilliTime) (existing : Option AgentRecord) :
    AgentRecord where
  aliasName := input.aliasName
  source := input.source
  baseUrl := input.baseUrl
  interfaceUrls := input.interfaceUrls
  bindingPreference := input.bindingPreference
  authRefName := input.authRefName
  tags := input.tags
  notes := input.notes
  metadata := input.metadata
  agentCardJson := input.agentCardJson
  agentCardEtag := input.agentCardEtag
  agentCardLastModified := input.agentCardLastModified
  agentCardFetchedAt := input.agentCardFetchedAt.map MissiveTimestamp.toRfc3339
  readOnly := input.readOnly
  createdAt := existing.elim time AgentRecord.createdAt
  updatedAt := time

def upsertAgent (input : AgentUpsert) : Action AgentRecord :=
  upsertRow agentsTable (validateNonEmpty "agent base_url" input.baseUrl) "upserting agent" "agent"
    input.aliasName.text input.aliasName
    (fun store => refuseUnless (store.hasAuthRef input.authRefName) foreignKeyFailed) input.toRecord

theorem upsertAgent_returned {input : AgentUpsert} {world after : World} {row : AgentRecord}
    (ran : upsertAgent input world = (.ok row, after)) :
    row = input.toRecord (world.clock world.drawn).toMillis (world.store.agents.find? input.aliasName) ∧
      after.store = { world.store with agents := world.store.agents.put row } := by
  obtain ⟨shown, moved⟩ := upsertRow_returned agentsTable _ _ _ _ input.aliasName _ input.toRecord
    (fun _ _ => rfl) ran
  rw [moved]
  exact ⟨shown, rfl⟩

def getAgent (name : AgentAlias) : Action (Option AgentRecord) :=
  readStore fun store => store.agents.find? name

-- `ON DELETE SET NULL` of one reference.
def clearAlias (name : AgentAlias) (reference : Option AgentAlias) : Option AgentAlias :=
  if reference = some name then none else reference

/-- The foreign-key actions of a deleted agent, table by table. -/
def withoutAgent (store : Store) (name : AgentAlias) : Store :=
  { store with
    agents := store.agents.filter fun row => row.aliasName ≠ name
    contexts := store.contexts.mapRows
      (fun row => { row with agentAlias := clearAlias name row.agentAlias }) fun _ => rfl
    messages := store.messages.mapRows
      (fun row => { row with agentAlias := clearAlias name row.agentAlias }) fun _ => rfl
    groupMembers := store.groupMembers.filter fun row => row.agentAlias ≠ name
    gatewayJobs := store.gatewayJobs.mapRows
      (fun row => { row with agentAlias := clearAlias name row.agentAlias }) fun _ => rfl
    pushConfigs := store.pushConfigs.filter fun row => row.agentAlias ≠ name
    events := store.events.mapRows
      (fun row => { row with agentAlias := clearAlias name row.agentAlias }) fun _ => rfl
    gatewaySessions := store.gatewaySessions.filter fun row => row.agentAlias ≠ name
    unused := by
      intro row member
      obtain ⟨old, stored, rfl⟩ := List.mem_map.mp member
      exact store.unused old stored }

-- `tasks.agent_alias` is `ON DELETE RESTRICT`.
def deleteAgent (name : AgentAlias) : Action Bool := do
  let found ← getAgent name
  execute "deleting agent"
    (fun store => refuseUnless
      (found.isNone || store.tasks.rows.all fun row => row.agentAlias ≠ name) foreignKeyFailed)
    fun store => if found.isSome then withoutAgent store name else store
  pure found.isSome

/-! Contexts and tasks. -/

structure ContextUpsert where
  contextId : ContextId
  agentAlias : Option AgentAlias
  name : Option String
  parentContextId : Option ContextId
  state : ContextState
  summary : Option String
  metadata : Metadata
  closedAt : Option MissiveTimestamp

def ContextUpsert.new (contextId : ContextId) : ContextUpsert :=
  ⟨contextId, none, none, none, .open, none, .new, none⟩

def ContextUpsert.toRecord (input : ContextUpsert) (time : MilliTime)
    (existing : Option ContextRecord) : ContextRecord where
  contextId := input.contextId
  agentAlias := input.agentAlias
  name := input.name
  parentContextId := input.parentContextId
  state := input.state
  summary := input.summary
  metadata := input.metadata
  createdAt := existing.elim time ContextRecord.createdAt
  updatedAt := time
  closedAt := input.closedAt.map MissiveTimestamp.toRfc3339

def upsertContext (input : ContextUpsert) : Action ContextRecord :=
  upsertRow contextsTable (.ok ()) "upserting context" "context" input.contextId.text input.contextId
    (fun store =>
      if input.parentContextId = some input.contextId then
        some "CHECK constraint failed: parent_context_id IS NULL OR parent_context_id <> context_id"
      else refuseUnless (store.hasAgent input.agentAlias && store.hasContext input.parentContextId)
        foreignKeyFailed)
    input.toRecord

structure TaskUpsert where
  taskId : TaskId
  agentAlias : AgentAlias
  contextId : Option ContextId
  state : TaskState
  source : TaskSource
  protocolVersion : Option String
  remoteTaskJson : Option Json
  lastMessageId : Option MessageId
  metadata : Metadata
  completedAt : Option MissiveTimestamp

def TaskUpsert.new (taskId : TaskId) (agentAlias : AgentAlias) (state : TaskState) : TaskUpsert :=
  ⟨taskId, agentAlias, none, state, .remote, none, none, none, .new, none⟩

def TaskUpsert.toRecord (input : TaskUpsert) (time : MilliTime) (existing : Option TaskRecord) :
    TaskRecord where
  taskId := input.taskId
  agentAlias := input.agentAlias
  contextId := input.contextId
  state := input.state
  source := input.source
  protocolVersion := input.protocolVersion
  remoteTaskJson := input.remoteTaskJson
  lastMessageId := input.lastMessageId
  metadata := input.metadata
  createdAt := existing.elim time TaskRecord.createdAt
  updatedAt := time
  completedAt := input.completedAt.map MissiveTimestamp.toRfc3339

def upsertTask (input : TaskUpsert) : Action TaskRecord :=
  upsertRow tasksTable (.ok ()) "upserting task" "task" input.taskId.text input.taskId
    (fun store => refuseUnless
      (store.hasAgent (some input.agentAlias) && store.hasContext input.contextId) foreignKeyFailed)
    input.toRecord

def getContext (id : ContextId) : Action (Option ContextRecord) :=
  readStore fun store => store.contexts.find? id

def getTask (id : TaskId) : Action (Option TaskRecord) :=
  readStore fun store => store.tasks.find? id

-- `ORDER BY task_id`
def listTasks : Action (List TaskRecord) := readStore fun store => store.tasks.rows

/-! Artifacts. -/

structure ArtifactUpsert where
  artifactId : ArtifactId
  taskId : TaskId
  contextId : Option ContextId
  name : Option String
  mimeType : Option String
  kind : ArtifactKind
  version : UInt64
  contentJson : Option Json
  bytesPath : Option String
  metadata : Metadata

def ArtifactUpsert.new (artifactId : ArtifactId) (taskId : TaskId) : ArtifactUpsert :=
  ⟨artifactId, taskId, none, none, none, .unknown, 1, none, none, .new⟩

def ArtifactUpsert.toRecord (input : ArtifactUpsert) (time : MilliTime)
    (existing : Option ArtifactRecord) : ArtifactRecord where
  artifactId := input.artifactId
  taskId := input.taskId
  contextId := input.contextId
  name := input.name
  mimeType := input.mimeType
  kind := input.kind
  version := input.version
  contentJson := input.contentJson
  bytesPath := input.bytesPath
  metadata := input.metadata
  createdAt := existing.elim time ArtifactRecord.createdAt
  updatedAt := time

def ArtifactUpsert.check (input : ArtifactUpsert) : Except MissiveError Unit := do
  validateOptionLen "artifact name" input.name 512
  validateOptionLen "artifact mime_type" input.mimeType 255
  validateOptionLen "artifact bytes_path" input.bytesPath 4096
  if input.version.toNat < 2 ^ 63 then .ok ()
  else .error (MissiveError.validation "artifact version is too large to store in SQLite")

def ArtifactUpsert.refused (input : ArtifactUpsert) (store : Store) : Option String :=
  if input.version < 1 then some "CHECK constraint failed: version >= 1"
  else refuseUnless (store.hasTask (some input.taskId) && store.hasContext input.contextId)
    foreignKeyFailed

def upsertArtifact (input : ArtifactUpsert) : Action ArtifactRecord :=
  upsertRow artifactsTable input.check "upserting artifact" "artifact" input.artifactId.text
    input.artifactId input.refused input.toRecord

def getArtifact (id : ArtifactId) : Action (Option ArtifactRecord) :=
  readStore fun store => store.artifacts.find? id

/-! Gateway jobs. -/

structure GatewayJobUpsert where
  gatewayJobId : GatewayJobId
  kind : String
  state : GatewayJobState
  agentAlias : Option AgentAlias
  contextId : Option ContextId
  taskId : Option TaskId
  groupName : Option GroupName
  adapterBindingId : Option AdapterBindingId
  requestJson : Json
  resultJson : Option Json
  metadata : Metadata
  retryCount : UInt32
  maxAttempts : UInt32
  nextRunAt : Option MissiveTimestamp
  lockedBy : Option String
  lockedUntil : Option MissiveTimestamp
  completedAt : Option MissiveTimestamp

def GatewayJobUpsert.new (gatewayJobId : GatewayJobId) (kind : String) (requestJson : Json) :
    GatewayJobUpsert where
  gatewayJobId := gatewayJobId
  kind := kind
  state := .queued
  agentAlias := none
  contextId := none
  taskId := none
  groupName := none
  adapterBindingId := none
  requestJson := requestJson
  resultJson := none
  metadata := .new
  retryCount := 0
  maxAttempts := 1
  nextRunAt := none
  lockedBy := none
  lockedUntil := none
  completedAt := none

def GatewayJobUpsert.toRecord (input : GatewayJobUpsert) (time : MilliTime)
    (existing : Option GatewayJobRecord) : GatewayJobRecord where
  gatewayJobId := input.gatewayJobId
  kind := input.kind
  state := input.state
  agentAlias := input.agentAlias
  contextId := input.contextId
  taskId := input.taskId
  groupName := input.groupName
  adapterBindingId := input.adapterBindingId
  requestJson := input.requestJson
  resultJson := input.resultJson
  metadata := input.metadata
  retryCount := input.retryCount
  maxAttempts := input.maxAttempts
  nextRunAt := input.nextRunAt.map MissiveTimestamp.toRfc3339
  lockedBy := input.lockedBy
  lockedUntil := input.lockedUntil.map MissiveTimestamp.toRfc3339
  createdAt := existing.elim time GatewayJobRecord.createdAt
  updatedAt := time
  completedAt := input.completedAt.map MissiveTimestamp.toRfc3339

def validateGatewayAttempts (retryCount maxAttempts : UInt32) : Except MissiveError Unit :=
  if maxAttempts = 0 then
    .error (MissiveError.validation "gateway job max_attempts must be at least 1")
  else if maxAttempts < retryCount then
    .error (MissiveError.validation
      s!"gateway job retry_count {retryCount.toNat} cannot exceed max_attempts {maxAttempts.toNat}")
  else .ok ()

def GatewayJobUpsert.check (input : GatewayJobUpsert) : Except MissiveError Unit := do
  validateLen "gateway job kind" input.kind 63
  validateGatewayAttempts input.retryCount input.maxAttempts

def GatewayJobUpsert.refused (input : GatewayJobUpsert) (store : Store) : Option String :=
  refuseUnless (store.hasAgent input.agentAlias && store.hasContext input.contextId &&
    store.hasTask input.taskId && store.hasGroup input.groupName &&
    store.hasAdapterBinding input.adapterBindingId) foreignKeyFailed

def upsertGatewayJob (input : GatewayJobUpsert) : Action GatewayJobRecord :=
  upsertRow gatewayJobsTable input.check "upserting gateway job" "gateway job"
    input.gatewayJobId.text input.gatewayJobId input.refused input.toRecord

def getGatewayJob (id : GatewayJobId) : Action (Option GatewayJobRecord) :=
  readStore fun store => store.gatewayJobs.find? id

-- `ORDER BY gateway_job_id`
def listGatewayJobs : Action (List GatewayJobRecord) :=
  readStore fun store => store.gatewayJobs.rows

-- `ON DELETE SET NULL` of `events.gateway_job_id`.
def withoutGatewayJob (store : Store) (id : GatewayJobId) : Store :=
  { store with
    gatewayJobs := store.gatewayJobs.filter fun row => row.gatewayJobId ≠ id
    events := store.events.mapRows
      (fun row => { row with
        gatewayJobId := if row.gatewayJobId = some id then none else row.gatewayJobId }) fun _ => rfl
    unused := by
      intro row member
      obtain ⟨old, stored, rfl⟩ := List.mem_map.mp member
      exact store.unused old stored }

def deleteGatewayJob (id : GatewayJobId) : Action Bool := do
  let found ← getGatewayJob id
  execute "deleting gateway job" (fun _ => none) fun store => withoutGatewayJob store id
  pure found.isSome

/-! Messages. A message row is inserted, never updated. -/

structure MessageInsert where
  messageId : MessageId
  agentAlias : Option AgentAlias
  contextId : Option ContextId
  taskId : Option TaskId
  direction : MessageDirection
  role : Option MessageRole
  ordinal : UInt64
  protocolMessageId : Option String
  contentJson : Json
  metadata : Metadata

def MessageInsert.new (messageId : MessageId) (direction : MessageDirection) (contentJson : Json) :
    MessageInsert :=
  ⟨messageId, none, none, none, direction, none, 0, none, contentJson, .new⟩

def MessageInsert.toRecord (input : MessageInsert) (time : MilliTime) (_ : Option MessageRecord) :
    MessageRecord where
  messageId := input.messageId
  agentAlias := input.agentAlias
  contextId := input.contextId
  taskId := input.taskId
  direction := input.direction
  role := input.role
  ordinal := input.ordinal
  protocolMessageId := input.protocolMessageId
  contentJson := input.contentJson
  metadata := input.metadata
  createdAt := time

def MessageInsert.check (input : MessageInsert) : Except MissiveError Unit := do
  validateOptionLen "message protocol_message_id" input.protocolMessageId 256
  if input.ordinal.toNat < 2 ^ 63 then .ok ()
  else .error (MissiveError.validation "message ordinal is too large to store in SQLite")

def MessageInsert.refused (input : MessageInsert) (store : Store) : Option String :=
  if (store.messages.find? input.messageId).isSome then
    some "UNIQUE constraint failed: messages.message_id"
  else refuseUnless (store.hasAgent input.agentAlias && store.hasContext input.contextId &&
    store.hasTask input.taskId) foreignKeyFailed

def insertMessage (input : MessageInsert) : Action MessageRecord :=
  upsertRow messagesTable input.check "inserting message" "message" input.messageId.text
    input.messageId input.refused input.toRecord

/-! Events. -/

structure EventInsert where
  eventId : EventId
  timestamp : Option MissiveTimestamp
  source : String
  eventType : String
  agentAlias : Option AgentAlias
  contextId : Option ContextId
  taskId : Option TaskId
  groupName : Option GroupName
  gatewayJobId : Option GatewayJobId
  adapterBindingId : Option AdapterBindingId
  payloadJson : Json
  metadata : Metadata
  redacted : Bool

def EventInsert.new (eventId : EventId) (source eventType : String) (payloadJson : Json) :
    EventInsert where
  eventId := eventId
  timestamp := none
  source := source
  eventType := eventType
  agentAlias := none
  contextId := none
  taskId := none
  groupName := none
  gatewayJobId := none
  adapterBindingId := none
  payloadJson := payloadJson
  metadata := .new
  redacted := true

def EventInsert.toRecord (input : EventInsert) (time : MilliTime) (sequence : Nat) :
    EventRecord where
  sequence := sequence
  eventId := input.eventId
  timestamp := input.timestamp.elim (.filled time) fun given => .given given.toRfc3339
  source := input.source
  eventType := input.eventType
  agentAlias := input.agentAlias
  contextId := input.contextId
  taskId := input.taskId
  groupName := input.groupName
  gatewayJobId := input.gatewayJobId
  adapterBindingId := input.adapterBindingId
  payloadJson := input.payloadJson
  metadata := input.metadata
  redacted := input.redacted

def EventInsert.check (input : EventInsert) : Except MissiveError Unit := do
  validateLen "event source" input.source 128
  validateLen "event type" input.eventType 128

def EventInsert.refused (input : EventInsert) (store : Store) : Option String :=
  if store.events.rows.any fun row => row.eventId = input.eventId then
    some "UNIQUE constraint failed: events.event_id"
  else refuseUnless (store.hasAgent input.agentAlias && store.hasContext input.contextId &&
    store.hasTask input.taskId && store.hasGroup input.groupName &&
    store.hasGatewayJob input.gatewayJobId && store.hasAdapterBinding input.adapterBindingId)
    foreignKeyFailed

def withEvent (store : Store) (input : EventInsert) (time : MilliTime) : Store :=
  { store with
    events := store.events.put (input.toRecord time store.nextSequence)
    nextSequence := store.nextSequence + 1
    unused := by
      intro row member
      rcases (store.events.mem_put _ row).mp member with rfl | ⟨old, _⟩
      · exact Nat.lt_succ_self store.nextSequence
      · exact Nat.lt_succ_of_lt (store.unused row old) }

theorem withEvent_rows (store : Store) (input : EventInsert) (time : MilliTime) :
    (withEvent store input time).events.rows =
      store.events.rows ++ [input.toRecord time store.nextSequence] :=
  putRow_greatest _ _ fun other member => store.unused other member

def findEvent (id : EventId) (store : Store) : Option EventRecord :=
  store.events.rows.find? fun row => row.eventId = id

def appendEvent (input : EventInsert) : Action EventRecord := do
  Effect.lift input.check
  let time ← sqlNow
  execute "appending event" input.refused fun store => withEvent store input time
  readBack "event" input.eventId.text (findEvent input.eventId)

theorem findEvent_withEvent (store : Store) (input : EventInsert) (time : MilliTime)
    (accepted : input.refused store = none) :
    findEvent input.eventId (withEvent store input time) =
      some (input.toRecord time store.nextSequence) := by
  have fresh : ∀ row ∈ store.events.rows, row.eventId ≠ input.eventId := by
    intro row member same
    have present : (store.events.rows.any fun row => row.eventId = input.eventId) = true :=
      List.any_eq_true.mpr ⟨row, member, by simpa using same⟩
    simp [EventInsert.refused, present] at accepted
  have found : ((withEvent store input time).events.rows.find?
      fun row => row.eventId = input.eventId).isSome := by
    rw [List.find?_isSome]
    exact ⟨_, (store.events.mem_put _ _).mpr (Or.inl rfl), by simp [EventInsert.toRecord]⟩
  obtain ⟨row, shown⟩ := Option.isSome_iff_exists.mp found
  have named : row.eventId = input.eventId := by simpa using List.find?_some shown
  rcases (store.events.mem_put _ row).mp (List.mem_of_find?_eq_some shown) with rfl | ⟨old, _⟩
  · exact shown
  · exact absurd named (fresh row old)

/-- An event that cannot be appended changes nothing; otherwise it is the last row. -/
theorem appendEvent_cases (input : EventInsert) (world : World) :
    (∃ error after, appendEvent input world = (.error error, after) ∧ after.store = world.store) ∨
    (input.refused world.store = none ∧
      appendEvent input world =
        (.ok (input.toRecord (world.clock world.drawn).toMillis world.store.nextSequence),
          world.later.withStore
            (withEvent world.store input (world.clock world.drawn).toMillis))) := by
  have drawn : sqlNow world = (.ok (world.clock world.drawn).toMillis, world.later) := rfl
  unfold appendEvent
  cases checked : input.check with
  | error error => exact Or.inl ⟨error, world, rfl, rfl⟩
  | ok _ =>
      rw [Effect.bind_ok _ _ _ _ _ (Effect.lift_run (.ok _) world),
        Effect.bind_ok _ _ _ _ _ drawn]
      cases outcome : input.refused world.store with
      | some error =>
          refine Or.inl ⟨storageError "appending event" error, world.later, ?_, rfl⟩
          apply Effect.bind_error
          simp only [execute, World.later_store, outcome]
      | none =>
          refine Or.inr ⟨rfl, ?_⟩
          have executed : execute "appending event" input.refused (fun store =>
                withEvent store input (world.clock world.drawn).toMillis) world.later =
              (.ok (), world.later.withStore
                (withEvent world.store input (world.clock world.drawn).toMillis)) := by
            simp only [execute, World.later_store, outcome]
            rfl
          rw [Effect.bind_ok _ _ _ _ _ executed]
          simp only [readBack, Effect.bind_run, readStore, World.withStore_store,
            findEvent_withEvent world.store input _ outcome, Effect.pure_run]

/-! What the subcommands of the command line share: looking up an agent, and events with
a generated id and a redacted payload. -/

def getExistingAgent (name : AgentAlias) : Action AgentRecord := do
  let found ← getAgent name
  match found with
  | some record => pure record
  | none =>
      Effect.raise ((MissiveError.validation s!"agent {debug name.text} is not registered").withHelp
        "Run 'missive agent list' to see registered aliases.")

theorem getExistingAgent_returned {name : AgentAlias} {record : AgentRecord} {world after : World}
    (ran : getExistingAgent name world = (.ok record, after)) :
    world.store.agents.find? name = some record ∧ after = world := by
  cases shown : world.store.agents.find? name with
  | none =>
      simp only [getExistingAgent, getAgent, readStore, Effect.bind_run, shown] at ran
      cases ran
  | some row =>
      simp only [getExistingAgent, getAgent, readStore, Effect.bind_run, shown] at ran
      cases ran
      exact ⟨rfl, rfl⟩

def newEventId (start : String) : Action EventId := do
  let messageId ← newMessageId
  Effect.lift (Id.new .eventId s!"evt/{start}/{messageId}")

def newCliEvent (eventType : String) (payload : Json) : Action EventInsert := do
  let eventId ← newEventId eventType
  pure (EventInsert.new eventId "cli" eventType (JsonRedaction.outputRedactJson payload))

-- `Store::transaction`: a failure rolls the store back, not the clock.
def transaction {Result : Type} (body : Action Result) : Action Result :=
  Effect.transaction (fun before after => after.withStore before.store) body

theorem appendEvent_returned {input : EventInsert} {world after : World} {row : EventRecord}
    (ran : appendEvent input world = (.ok row, after)) :
    after.store = withEvent world.store input (world.clock world.drawn).toMillis := by
  rcases appendEvent_cases input world with ⟨error, left, failed, _⟩ | ⟨_, appended⟩
  · rw [failed] at ran
    cases ran
  · rw [appended] at ran
    cases ran
    rfl

end Missive.Repository
