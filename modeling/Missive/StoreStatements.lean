import Missive.TableConstraints
import Missive.GroupTables
import Missive.PushConfigs
import Missive.SchemaChecks

/-! The other statements of the repository: the deletions by key, with the actions of the foreign
keys that refer to the deleted row, and the upsert of a gateway session. -/
namespace Missive.StoreStatements

open JsonValue KeyedTable Missive.Core Schema Effects Repository RecordUpserts TableConstraints

-- `delete_by_key`
def deleteByKey (action : String) (found : Store → Bool) (refused : Store → Option String)
    (write : Store → Store) : Action Bool := do
  let affected ← readStore found
  execute action refused write
  pure affected

def withoutAuthRef (store : Store) (name : String) : Store :=
  { store with
    authRefs := without store.authRefs name
    agents := store.agents.mapRows
      (fun row => { row with authRefName := clear name row.authRefName }) fun _ => rfl
    pushConfigs := store.pushConfigs.mapRows
      (fun row => { row with authRefName := clear name row.authRefName }) fun _ => rfl }

def deleteAuthRef (name : String) : Action Bool :=
  deleteByKey "deleting auth ref" (fun store => (store.authRefs.find? name).isSome)
    (fun _ => none) fun store => withoutAuthRef store name

def withoutContext (store : Store) (id : ContextId) : Store :=
  { store with
    contexts := (without store.contexts id).mapRows
      (fun row => { row with parentContextId := clear id row.parentContextId }) fun _ => rfl
    tasks := store.tasks.mapRows
      (fun row => { row with contextId := clear id row.contextId }) fun _ => rfl
    messages := store.messages.mapRows
      (fun row => { row with contextId := clear id row.contextId }) fun _ => rfl
    artifacts := store.artifacts.mapRows
      (fun row => { row with contextId := clear id row.contextId }) fun _ => rfl
    gatewayJobs := store.gatewayJobs.mapRows
      (fun row => { row with contextId := clear id row.contextId }) fun _ => rfl
    events := store.events.mapRows
      (fun row => { row with contextId := clear id row.contextId }) fun _ => rfl
    unused := by
      intro row member
      obtain ⟨stored, known, rfl⟩ := List.mem_map.mp member
      exact store.unused stored known }

-- `gateway_sessions.context_id` is `ON DELETE RESTRICT`.
def deleteContext (id : ContextId) : Action Bool :=
  deleteByKey "deleting context" (fun store => (store.contexts.find? id).isSome)
    (fun store => refuseUnless
      ((store.contexts.find? id).isNone || store.gatewaySessions.rows.all fun row =>
        row.contextId ≠ id) foreignKeyFailed)
    fun store => withoutContext store id

def withoutTask (store : Store) (id : TaskId) : Store :=
  { store with
    tasks := without store.tasks id
    messages := store.messages.mapRows
      (fun row => { row with taskId := clear id row.taskId }) fun _ => rfl
    artifacts := store.artifacts.filter fun row => row.taskId ≠ id
    gatewayJobs := store.gatewayJobs.mapRows
      (fun row => { row with taskId := clear id row.taskId }) fun _ => rfl
    pushConfigs := store.pushConfigs.filter fun row => row.taskId ≠ some id
    events := store.events.mapRows
      (fun row => { row with taskId := clear id row.taskId }) fun _ => rfl
    unused := by
      intro row member
      obtain ⟨stored, known, rfl⟩ := List.mem_map.mp member
      exact store.unused stored known }

def deleteTask (id : TaskId) : Action Bool :=
  deleteByKey "deleting task" (fun store => (store.tasks.find? id).isSome) (fun _ => none)
    fun store => withoutTask store id

def deleteArtifact (id : ArtifactId) : Action Bool :=
  deleteByKey "deleting artifact" (fun store => (store.artifacts.find? id).isSome) (fun _ => none)
    fun store => { store with artifacts := without store.artifacts id }

def deleteMessage (id : MessageId) : Action Bool :=
  deleteByKey "deleting message" (fun store => (store.messages.find? id).isSome) (fun _ => none)
    fun store => { store with messages := without store.messages id }

def withoutEvent (store : Store) (id : EventId) : Store :=
  { store with
    events := store.events.filter fun row => row.eventId ≠ id
    unused := fun row member => store.unused row (List.mem_of_mem_filter member) }

def deleteEvent (id : EventId) : Action Bool :=
  deleteByKey "deleting event" (fun store => (findEvent id store).isSome) (fun _ => none)
    fun store => withoutEvent store id

/-! Gateway sessions. -/

def gatewaySessionsTable : StoreTable GatewaySessionRecord :=
  ⟨Store.gatewaySessions, fun store table => { store with gatewaySessions := table },
    fun _ _ => rfl⟩

def GatewaySessionUpsert.toRecord (input : GatewaySessionUpsert) (time : MilliTime)
    (existing : Option GatewaySessionRecord) : GatewaySessionRecord where
  gatewaySessionId := input.gatewaySessionId
  sourceKind := input.sourceKind
  sourceId := input.sourceId
  agentAlias := input.agentAlias
  resumeName := input.resumeName
  contextId := input.contextId
  resetMode := input.resetMode
  dailyResetHour := input.dailyResetHour
  idleTimeoutSeconds := input.idleTimeoutSeconds
  lastActiveAt := input.lastActiveAt.toRfc3339
  lastResetAt := input.lastResetAt.map MissiveTimestamp.toRfc3339
  resetCount := input.resetCount
  metadata := input.metadata
  createdAt := existing.elim time GatewaySessionRecord.createdAt
  updatedAt := time

-- The texts of the constraints, in the order of the table's definition.
def gatewaySessionsConstraints : List String :=
  ["reset_mode IN ('none', 'daily', 'idle', 'both')", "daily_reset_hour BETWEEN 0 AND 23",
    "idle_timeout_seconds IS NULL OR idle_timeout_seconds > 0", "reset_count >= 0",
    "json_valid(metadata_json)", "length(gateway_session_id) BETWEEN 1 AND 256",
    "length(source_kind) BETWEEN 1 AND 63", "length(source_id) BETWEEN 1 AND 256",
    "length(resume_name) BETWEEN 1 AND 128",
    "(reset_mode IN ('idle', 'both') AND idle_timeout_seconds IS NOT NULL) OR " ++
      "(reset_mode IN ('none', 'daily') AND idle_timeout_seconds IS NULL)"]

-- `UNIQUE (source_kind, source_id, agent_alias, resume_name)`
def sessionTaken (store : Store) (input : GatewaySessionUpsert) : Bool :=
  store.gatewaySessions.rows.any fun row =>
    row.sourceKind = input.sourceKind && row.sourceId = input.sourceId &&
      row.agentAlias = input.agentAlias && row.resumeName = input.resumeName &&
      row.gatewaySessionId ≠ input.gatewaySessionId

def GatewaySessionUpsert.refused (jsonValid : Json → Bool) (input : GatewaySessionUpsert)
    (store : Store) : Option String :=
  match ((SchemaChecks.gatewaySessionsChecks jsonValid input).zip gatewaySessionsConstraints).find?
      fun check => !check.1 with
  | some failed => some ("CHECK constraint failed: " ++ failed.2)
  | none =>
      if sessionTaken store input then
        some ("UNIQUE constraint failed: gateway_sessions.source_kind, " ++
          "gateway_sessions.source_id, gateway_sessions.agent_alias, gateway_sessions.resume_name")
      else refuseUnless (store.hasAgent (some input.agentAlias) &&
        store.hasContext (some input.contextId)) foreignKeyFailed

def upsertGatewaySession (jsonValid : Json → Bool) (input : GatewaySessionUpsert) :
    Action GatewaySessionRecord :=
  upsertRow gatewaySessionsTable input.check "upserting gateway session" "gateway session"
    input.gatewaySessionId.text input.gatewaySessionId
    (GatewaySessionUpsert.refused jsonValid input) (GatewaySessionUpsert.toRecord input)

def deleteGatewaySession (id : GatewaySessionId) : Action Bool :=
  deleteByKey "deleting gateway session" (fun store => (store.gatewaySessions.find? id).isSome)
    (fun _ => none) fun store => { store with gatewaySessions := without store.gatewaySessions id }

end Missive.StoreStatements
