import Missive.RecordUpserts
import Missive.ReportMoves
import Missive.TaskIsolation

/-! Push configs as `missive push` persists them. The protocol makes a config id unique for its
task, and the remote agent chooses it; the row is stored under the id alone. -/
namespace Missive.PushConfigs

open JsonValue KeyedTable Missive.Core Schema Effects Repository BackgroundJobs Protocol
open RecordUpserts Frames

/-! The rows. -/

def pushConfigsTable : StoreTable PushConfigRecord :=
  ⟨Store.pushConfigs, fun store table => { store with pushConfigs := table }, fun _ _ => rfl⟩

def PushConfigUpsert.new (pushConfigId : PushConfigId) (agentAlias : AgentAlias)
    (callbackUrl : String) : PushConfigUpsert :=
  ⟨pushConfigId, agentAlias, none, callbackUrl, none, none, .new, none⟩

def PushConfigUpsert.toRecord (input : PushConfigUpsert) (time : MilliTime)
    (existing : Option PushConfigRecord) : PushConfigRecord where
  pushConfigId := input.pushConfigId
  agentAlias := input.agentAlias
  taskId := input.taskId
  callbackUrl := input.callbackUrl
  authRefName := input.authRefName
  remoteConfigJson := input.remoteConfigJson
  metadata := input.metadata
  createdAt := existing.elim time PushConfigRecord.createdAt
  updatedAt := time
  deletedAt := input.deletedAt.map fun time => .given time.toRfc3339

def upsertPushConfig (input : PushConfigUpsert) : Action PushConfigRecord :=
  upsertRow pushConfigsTable input.check "upserting push config" "push config"
    input.pushConfigId.text input.pushConfigId
    (fun store => refuseUnless
      (store.hasAgent (some input.agentAlias) && store.hasTask input.taskId &&
        store.hasAuthRef input.authRefName) foreignKeyFailed)
    (PushConfigUpsert.toRecord input)

def getPushConfig (id : PushConfigId) : Action (Option PushConfigRecord) :=
  readStore fun store => store.pushConfigs.find? id

-- The row that the deletion of an active config leaves.
def stamped (time : MilliTime) (row : PushConfigRecord) : PushConfigRecord :=
  { row with deletedAt := some (.filled time), updatedAt := time }

def withoutConfig (time : MilliTime) (id : PushConfigId) (store : Store) : Store :=
  match store.pushConfigs.find? id with
  | some row =>
      if row.deletedAt.isNone then
        { store with pushConfigs := store.pushConfigs.put (stamped time row) }
      else store
  | none => store

def deletePushConfig (id : PushConfigId) : Action Bool := do
  let found ← getPushConfig id
  let time ← sqlNow
  execute "deleting push config" (fun _ => none) (withoutConfig time id)
  pure (found.any fun row => row.deletedAt.isNone)

/-! What the command line persists of an answer. -/

structure AuthenticationInfo where
  scheme : String
  credentials : Option String

structure TaskPushNotificationConfig where
  url : String
  id : Option String
  taskId : String
  token : Option String
  authentication : Option AuthenticationInfo
  tenant : Option String

-- `ServiceParameters::record_metadata`
def recordMetadata (parameters : ServiceParameters) (metadata : Metadata) :
    Except MissiveError Metadata := do
  let versioned ← insertStr metadata "a2a.protocol_version" parameters.protocolVersion
  let extended ← insertUnless parameters.extensions.isEmpty versioned "a2a.extensions"
    (.array (parameters.extensions.map .string))
  insertUnless parameters.extra.isEmpty extended "a2a.service_parameters"
    (.object (parameters.extra.map fun entry => (entry.1, .string entry.2)))

def ensureTaskPlaceholder (agent : AgentRecord) (taskId : TaskId) (parameters : ServiceParameters) :
    Action Unit := do
  let known ← getTask taskId
  match known with
  | some _ => pure ()
  | none => do
      let task ← Effect.lift (TaskUpsert.recordProtocolVersion
        (TaskUpsert.new taskId agent.aliasName .unknown) parameters.protocolVersion)
      let _ ← upsertTask task
      pure ()

-- `id.trim().is_empty()`
def isBlank (text : String) : Bool := (JsonRedaction.trim text.toList).isEmpty

def chosenId (config : TaskPushNotificationConfig) : Option String :=
  config.id.filter fun id => !isBlank id

def candidateId (taskId : TaskId) (config : TaskPushNotificationConfig) : String :=
  s!"{taskId.text}/{config.url}"

def pushConfigIdFromRemote (config : TaskPushNotificationConfig) (taskId : TaskId) :
    Action PushConfigId :=
  match chosenId config with
  | some id => Effect.lift (Id.new .pushConfigId id)
  | none =>
      match Id.new .pushConfigId (candidateId taskId config) with
      | .ok id => pure id
      | .error _ => do
          let messageId ← newMessageId
          Effect.lift (Id.new .pushConfigId s!"push/{messageId}")

section Answers

-- `serde_json::to_value` at the config.
variable (encodeConfig : TaskPushNotificationConfig → Option Json)
  (agent : AgentRecord) (taskId : TaskId) (parameters : ServiceParameters)

def upsertPushConfigRecord (config : TaskPushNotificationConfig) (metadata : Metadata) :
    Action PushConfigRecord := do
  let pushConfigId ← pushConfigIdFromRemote config taskId
  let rawConfig ← Effect.lift
    (encode (encodeConfig config) "encoding A2A push config for local persistence")
  let existing ← getPushConfig pushConfigId
  let combined ← Effect.lift (recordMetadata parameters
    ((existing.elim .new PushConfigRecord.metadata).merge metadata))
  upsertPushConfig
    { PushConfigUpsert.new pushConfigId agent.aliasName config.url with
      taskId := some taskId
      remoteConfigJson := some (JsonRedaction.outputRedactJson rawConfig)
      metadata := combined }

-- `insert_str("missive.push_config_id", ..)`, where the event has a config.
def recordConfigId (metadata : Metadata) (pushConfigId : Option PushConfigId) :
    Except MissiveError Metadata :=
  match pushConfigId with
  | some id => insertStr metadata "missive.push_config_id" id.text
  | none => .ok metadata

def appendPushEvent (eventType : String) (pushConfigId : Option PushConfigId) (payload : Json) :
    Action Unit := do
  let event ← newCliEvent eventType payload
  let versioned ← Effect.lift (recordProtocolVersion event.metadata parameters.protocolVersion)
  let metadata ← Effect.lift (recordConfigId versioned pushConfigId)
  let _ ← appendEvent { event with
    agentAlias := some agent.aliasName
    taskId := some taskId
    metadata := metadata }
  pure ()

def persistRemotePushConfig (config : TaskPushNotificationConfig) (metadata : Metadata)
    (eventType : String) (rawJson : Json) : Action PushConfigRecord := transaction do
  ensureTaskPlaceholder agent taskId parameters
  let record ← upsertPushConfigRecord encodeConfig agent taskId parameters config metadata
  appendPushEvent agent taskId parameters eventType (some record.pushConfigId)
    (.object [("agent", .string agent.aliasName.text), ("config", rawJson),
      ("config_id", .string record.pushConfigId.text), ("task_id", .string taskId.text)])
  pure record

def persistConfigList (configs : List TaskPushNotificationConfig) (rawJson : Json) :
    Action (List PushConfigRecord) := transaction do
  ensureTaskPlaceholder agent taskId parameters
  let records ← Effect.fold (fun records config => do
    let record ← upsertPushConfigRecord encodeConfig agent taskId parameters config .new
    pure (records ++ [record])) [] configs
  appendPushEvent agent taskId parameters "a2a.push.list" none
    (.object [("agent", .string agent.aliasName.text), ("count", .nat records.length),
      ("response", rawJson), ("task_id", .string taskId.text)])
  pure records

def persistDeletion (configId : PushConfigId) (rawJson : Json) : Action Bool := transaction do
  ensureTaskPlaceholder agent taskId parameters
  let deleted ← deletePushConfig configId
  appendPushEvent agent taskId parameters "a2a.push.delete" (some configId)
    (.object [("agent", .string agent.aliasName.text), ("config_id", .string configId.text),
      ("response", rawJson), ("task_id", .string taskId.text)])
  pure deleted

/-- A subcommand of `missive push` for one agent and task, from the answer of the agent on. -/
inductive PushOperation where
  | create (config : TaskPushNotificationConfig) (metadata : Metadata) (rawJson : Json)
  | get (config : TaskPushNotificationConfig) (rawJson : Json)
  | list (configs : List TaskPushNotificationConfig) (rawJson : Json)
  | delete (configId : PushConfigId) (rawJson : Json)

def PushOperation.run : PushOperation → Action Unit
  | .create config metadata rawJson => TaskReports.ignoreResult
      (persistRemotePushConfig encodeConfig agent taskId parameters config metadata
        "a2a.push.create" rawJson)
  | .get config rawJson => TaskReports.ignoreResult
      (persistRemotePushConfig encodeConfig agent taskId parameters config .new "a2a.push.get"
        rawJson)
  | .list configs rawJson => TaskReports.ignoreResult
      (persistConfigList encodeConfig agent taskId parameters configs rawJson)
  | .delete configId rawJson => TaskReports.ignoreResult
      (persistDeletion agent taskId parameters configId rawJson)

end Answers

/-! What an operation may touch. -/

/-- The id that a config is stored under: the chosen one, the candidate, or a generated one. -/
def NamedBy (generated : Nat → String) (taskId : TaskId) (config : TaskPushNotificationConfig)
    (id : PushConfigId) : Prop :=
  match chosenId config with
  | some chosen => id.text = chosen
  | none => id.text = candidateId taskId config ∨ ∃ n, id.text = s!"push/{generated n}"

def PushOperation.touches (generated : Nat → String) (taskId : TaskId) :
    PushOperation → PushConfigRecord → Prop
  | .create config _ _, row | .get config _, row =>
      NamedBy generated taskId config row.pushConfigId
  | .list configs _, row => ∃ config ∈ configs, NamedBy generated taskId config row.pushConfigId
  | .delete configId _, row => row.pushConfigId = configId ∧ row.deletedAt = none

/-! The generator of message ids is the same all along. -/

def Steady (generated : Nat → String) (before after : World) : Prop :=
  before.messageIds = generated → after.messageIds = generated

section Steady

variable {Result Other : Type} {generated : Nat → String}

theorem steady_trans (first middle last : World) (before : Steady generated first middle)
    (after : Steady generated middle last) : Steady generated first last := after ∘ before

theorem steady_bind {first : Action Result} {next : Result → Action Other}
    (head : Effect.Moves (Steady generated) first)
    (tail : ∀ result, Effect.Moves (Steady generated) (next result)) :
    Effect.Moves (Steady generated) (first >>= next) := Effect.moves_bind steady_trans head tail

theorem steady_lift (result : Except MissiveError Result) :
    Effect.Moves (Steady generated) (Effect.lift result) := fun _ => id

theorem steady_readStore (query : Store → Result) :
    Effect.Moves (Steady generated) (readStore query) := fun _ => id

theorem steady_newMessageId : Effect.Moves (Steady generated) newMessageId := fun _ => id

theorem steady_sqlNow : Effect.Moves (Steady generated) sqlNow := fun _ => id

theorem steady_execute (action : String) (refused : Store → Option String) (write : Store → Store) :
    Effect.Moves (Steady generated) (execute action refused write) := by
  intro world
  unfold execute
  cases refused world.store <;> exact id

theorem steady_readBack (kind identifier : String) (query : Store → Option Result) :
    Effect.Moves (Steady generated) (readBack kind identifier query) := by
  apply steady_bind (steady_readStore _)
  intro found
  cases found <;> exact fun _ => id

theorem steady_upsertRow {Row Key : Type} [Keyed Row Key] [LinearOrder Key]
    (table : StoreTable Row) (checked : Except MissiveError Unit) (action kind identifier : String)
    (wanted : Key) (refused : Store → Option String) (record : MilliTime → Option Row → Row) :
    Effect.Moves (Steady generated)
      (upsertRow table checked action kind identifier wanted refused record) := by
  apply steady_bind (steady_lift _)
  intro _
  apply steady_bind steady_sqlNow
  intro time
  exact steady_bind (steady_execute _ _ _) fun _ => steady_readBack _ _ _

theorem steady_appendEvent (input : EventInsert) :
    Effect.Moves (Steady generated) (appendEvent input) := by
  apply steady_bind (steady_lift _)
  intro _
  apply steady_bind steady_sqlNow
  intro time
  exact steady_bind (steady_execute _ _ _) fun _ => steady_readBack _ _ _

end Steady

/-- The generator stays the same, and the rows that are not touched stay as they are. -/
def Spares (generated : Nat → String) (touched : PushConfigRecord → Prop) (before after : World) :
    Prop :=
  before.messageIds = generated → after.messageIds = generated ∧
    ∀ row ∈ before.store.pushConfigs.rows, ¬ touched row → row ∈ after.store.pushConfigs.rows

section Spares

variable {Result Other : Type} {generated : Nat → String} {touched : PushConfigRecord → Prop}

theorem spares_refl (world : World) : Spares generated touched world world :=
  fun same => ⟨same, fun _ member _ => member⟩

theorem spares_trans (first middle last : World) (before : Spares generated touched first middle)
    (after : Spares generated touched middle last) : Spares generated touched first last := by
  intro same
  obtain ⟨kept, stays⟩ := before same
  obtain ⟨still, remains⟩ := after kept
  exact ⟨still, fun row member apart => remains row (stays row member apart) apart⟩

-- An action that leaves the push configs alone.
theorem spares_apart {action : Action Result} (steady : Effect.Moves (Steady generated) action)
    (configs : Keeps Store.pushConfigs action) :
    Effect.Moves (Spares generated touched) action := by
  intro world same
  refine ⟨steady world same, ?_⟩
  intro row member _
  rwa [show (action world).2.store.pushConfigs = world.store.pushConfigs from configs world]

theorem spares_pure (result : Result) :
    Effect.Moves (Spares generated touched) (pure result : Action Result) :=
  Effect.moves_pure spares_refl result

theorem spares_lift (result : Except MissiveError Result) :
    Effect.Moves (Spares generated touched) (Effect.lift result) :=
  Effect.moves_lift spares_refl result

theorem spares_bind {first : Action Result} {next : Result → Action Other}
    (head : Effect.Moves (Spares generated touched) first)
    (tail : ∀ result, Effect.Moves (Spares generated touched) (next result)) :
    Effect.Moves (Spares generated touched) (first >>= next) :=
  Effect.moves_bind spares_trans head tail

theorem spares_transaction {body : Action Result}
    (inner : Effect.Moves (Spares generated touched) body) :
    Effect.Moves (Spares generated touched) (transaction body) := by
  apply Effect.moves_transaction ?_ inner
  intro before after moved same
  exact ⟨(moved same).1, fun _ member _ => member⟩

theorem spares_ensureTaskPlaceholder (agent : AgentRecord) (taskId : TaskId)
    (parameters : ServiceParameters) :
    Effect.Moves (Spares generated touched) (ensureTaskPlaceholder agent taskId parameters) := by
  apply spares_bind fun _ => spares_refl _
  intro known
  cases known with
  | some _ => exact spares_pure ()
  | none =>
      apply spares_bind (spares_lift _)
      intro task
      apply spares_bind ?_ fun _ => spares_pure ()
      exact spares_apart (steady_upsertRow _ _ _ _ _ _ _ _) (keeps_upsertTask (fun _ _ => rfl) task)

theorem spares_appendPushEvent (agent : AgentRecord) (taskId : TaskId)
    (parameters : ServiceParameters) (eventType : String) (pushConfigId : Option PushConfigId)
    (payload : Json) :
    Effect.Moves (Spares generated touched)
      (appendPushEvent agent taskId parameters eventType pushConfigId payload) := by
  have drawn : Effect.Moves (Steady generated) (newCliEvent eventType payload) := by
    apply steady_bind
    · exact steady_bind steady_newMessageId fun _ => steady_lift _
    · exact fun _ _ => id
  apply spares_bind (spares_apart drawn (keeps_newCliEvent _ _))
  intro event
  apply spares_bind (spares_lift _)
  intro versioned
  apply spares_bind (spares_lift _)
  intro metadata
  apply spares_bind ?_ fun _ => spares_pure ()
  exact spares_apart (steady_appendEvent _) (keeps_appendEvent (fun _ _ _ => rfl) _)

theorem pushConfigId_named {config : TaskPushNotificationConfig} {taskId : TaskId}
    {id : PushConfigId} {world after : World}
    (ran : pushConfigIdFromRemote config taskId world = (.ok id, after)) :
    NamedBy world.messageIds taskId config id ∧ after.store = world.store := by
  unfold pushConfigIdFromRemote at ran
  unfold NamedBy
  cases chosen : chosenId config with
  | some text =>
      simp only [chosen] at ran
      obtain ⟨made, same⟩ := Prod.mk.inj ran
      exact ⟨Id.text_of_new made, by rw [← same]⟩
  | none =>
      simp only [chosen] at ran
      cases candidate : Id.new .pushConfigId (candidateId taskId config) with
      | ok made =>
          simp only [candidate] at ran
          cases ran
          exact ⟨Or.inl (Id.text_of_new candidate), rfl⟩
      | error error =>
          simp only [candidate] at ran
          obtain ⟨messageId, middle, drew, rest⟩ := Effect.bind_returned ran
          obtain ⟨made, same⟩ := Prod.mk.inj rest
          cases drew
          exact ⟨Or.inr ⟨world.drawn, Id.text_of_new made⟩, by rw [← same]⟩

theorem spares_pushConfigId (config : TaskPushNotificationConfig) (taskId : TaskId) :
    Effect.Moves (Spares generated touched) (pushConfigIdFromRemote config taskId) := by
  unfold pushConfigIdFromRemote
  cases chosenId config with
  | some text => exact spares_lift _
  | none =>
      cases Id.new .pushConfigId (candidateId taskId config) with
      | ok id => exact spares_pure id
      | error error =>
          apply spares_bind (spares_apart steady_newMessageId keeps_newMessageId)
          exact fun messageId => spares_lift _

theorem spares_upsertPushConfig (input : PushConfigUpsert)
    (named : ∀ row : PushConfigRecord, row.pushConfigId = input.pushConfigId → touched row) :
    Effect.Moves (Spares generated touched) (upsertPushConfig input) := by
  intro world same
  refine ⟨steady_upsertRow _ _ _ _ _ _ _ _ world same, ?_⟩
  intro row member apart
  have other : row.pushConfigId ≠ input.pushConfigId := fun equal => apart (named row equal)
  unfold upsertPushConfig
  rcases upsertRow_cases pushConfigsTable input.check _ _ _ input.pushConfigId _
      (PushConfigUpsert.toRecord input) (fun _ _ => rfl) world with
    ⟨error, after, failed, kept⟩ | ⟨_, _, wrote⟩
  · rw [failed]
    change row ∈ after.store.pushConfigs.rows
    rwa [kept]
  · rw [wrote]
    exact (world.store.pushConfigs.mem_put _ row).mpr (Or.inr ⟨member, other⟩)

section Answers

variable {encodeConfig : TaskPushNotificationConfig → Option Json} {agent : AgentRecord}
  {taskId : TaskId} {parameters : ServiceParameters}

theorem spares_upsertPushConfigRecord (config : TaskPushNotificationConfig) (metadata : Metadata)
    (named : ∀ row : PushConfigRecord, NamedBy generated taskId config row.pushConfigId → touched row) :
    Effect.Moves (Spares generated touched)
      (upsertPushConfigRecord encodeConfig agent taskId parameters config metadata) := by
  intro world same
  have names : Effect.Moves (Spares generated touched) (pushConfigIdFromRemote config taskId) :=
    spares_pushConfigId config taskId
  have began := names world same
  unfold upsertPushConfigRecord
  rw [Effect.bind_run]
  cases ran : pushConfigIdFromRemote config taskId world with
  | mk outcome middle =>
      rw [ran] at began
      cases outcome with
      | error error => exact began
      | ok id =>
          obtain ⟨chosen, _⟩ := pushConfigId_named ran
          rw [same] at chosen
          refine spares_trans world middle _ (fun _ => began) ?_ same
          refine spares_bind (spares_lift _) (fun rawConfig => ?_) middle
          apply spares_bind fun _ => spares_refl _
          intro existing
          apply spares_bind (spares_lift _)
          intro combined
          apply spares_upsertPushConfig
          intro row keyed
          exact named row (by rw [keyed]; exact chosen)

theorem spares_deletePushConfig (configId : PushConfigId) :
    Effect.Moves (Spares generated fun row => row.pushConfigId = configId ∧ row.deletedAt = none)
      (deletePushConfig configId) := by
  intro world same
  refine ⟨same, ?_⟩
  intro row member apart
  change row ∈ (withoutConfig _ configId world.store).pushConfigs.rows
  unfold withoutConfig
  cases found : world.store.pushConfigs.find? configId with
  | none => exact member
  | some held =>
      obtain ⟨stored, keyed⟩ := (world.store.pushConfigs.find?_eq_some configId held).mp found
      by_cases active : held.deletedAt.isNone = true
      · simp only [active, if_true]
        refine (world.store.pushConfigs.mem_put _ row).mpr (Or.inr ⟨member, ?_⟩)
        intro equal
        have alone : row = held := world.store.pushConfigs.unique member stored equal
        subst alone
        exact apart ⟨keyed, by simpa using active⟩
      · simp only [active]
        exact member

theorem spares_persistRemotePushConfig (config : TaskPushNotificationConfig) (metadata : Metadata)
    (eventType : String) (rawJson : Json)
    (named : ∀ row : PushConfigRecord, NamedBy generated taskId config row.pushConfigId → touched row) :
    Effect.Moves (Spares generated touched)
      (persistRemotePushConfig encodeConfig agent taskId parameters config metadata eventType
        rawJson) := by
  apply spares_transaction
  apply spares_bind (spares_ensureTaskPlaceholder _ _ _)
  intro _
  apply spares_bind (spares_upsertPushConfigRecord config metadata named)
  intro record
  exact spares_bind (spares_appendPushEvent _ _ _ _ _ _) fun _ => spares_pure _

theorem spares_persistConfigList (configs : List TaskPushNotificationConfig) (rawJson : Json)
    (named : ∀ config ∈ configs, ∀ row : PushConfigRecord,
      NamedBy generated taskId config row.pushConfigId → touched row) :
    Effect.Moves (Spares generated touched)
      (persistConfigList encodeConfig agent taskId parameters configs rawJson) := by
  have each (records : List PushConfigRecord) :
      Effect.Moves (Spares generated touched) (Effect.fold (fun records config => do
        let record ← upsertPushConfigRecord encodeConfig agent taskId parameters config Metadata.new
        pure (records ++ [record])) records configs) := by
    induction configs generalizing records with
    | nil => exact spares_pure records
    | cons config rest ih =>
        apply spares_bind
        · apply spares_bind
            (spares_upsertPushConfigRecord config _ (named config List.mem_cons_self))
          exact fun record => spares_pure _
        · exact ih fun config later => named config (List.mem_cons_of_mem _ later)
  apply spares_transaction
  apply spares_bind (spares_ensureTaskPlaceholder _ _ _)
  intro _
  apply spares_bind (each [])
  intro records
  exact spares_bind (spares_appendPushEvent _ _ _ _ _ _) fun _ => spares_pure _

theorem spares_persistDeletion (configId : PushConfigId) (rawJson : Json) :
    Effect.Moves (Spares generated fun row => row.pushConfigId = configId ∧ row.deletedAt = none)
      (persistDeletion agent taskId parameters configId rawJson) := by
  apply spares_transaction
  apply spares_bind (spares_ensureTaskPlaceholder _ _ _)
  intro _
  apply spares_bind (spares_deletePushConfig configId)
  intro deleted
  exact spares_bind (spares_appendPushEvent _ _ _ _ _ _) fun _ => spares_pure _

theorem spares_ignoreResult {action : Action Result}
    (inner : Effect.Moves (Spares generated touched) action) :
    Effect.Moves (Spares generated touched) (TaskReports.ignoreResult action) :=
  spares_bind inner fun _ => spares_pure ()

/-- Whatever the answer, an operation leaves every row that it does not touch. -/
theorem spares_run (operation : PushOperation) :
    Effect.Moves (Spares generated (operation.touches generated taskId))
      (operation.run encodeConfig agent taskId parameters) := by
  cases operation with
  | create config metadata rawJson =>
      exact spares_ignoreResult (spares_persistRemotePushConfig config metadata _ rawJson fun _ => id)
  | get config rawJson =>
      exact spares_ignoreResult (spares_persistRemotePushConfig config _ _ rawJson fun _ => id)
  | list configs rawJson =>
      apply spares_ignoreResult
      apply spares_persistConfigList configs rawJson
      intro config member row named
      exact ⟨config, member, named⟩
  | delete configId rawJson => exact spares_ignoreResult (spares_persistDeletion configId rawJson)

end Answers

end Spares

/-! Sequences of operations for one agent and task, and the rows of another pair. -/

structure Pair where
  agentAlias : AgentAlias
  taskId : TaskId
  deriving DecidableEq

def OwnedBy (pair : Pair) (row : PushConfigRecord) : Prop :=
  row.agentAlias = pair.agentAlias ∧ row.taskId = some pair.taskId

def OwnedKept (pair : Pair) (before after : World) : Prop :=
  ∀ row ∈ before.store.pushConfigs.rows, OwnedBy pair row → row ∈ after.store.pushConfigs.rows

/-- The operation names no row of the other pair. -/
def Clear (own other : Pair) (operation : PushOperation) (world : World) : Prop :=
  ∀ row ∈ world.store.pushConfigs.rows, OwnedBy other row →
    ¬ operation.touches world.messageIds own.taskId row

/-- One operation after another for a pair, whatever the agent's record and answers. -/
inductive PushRun (encodeConfig : TaskPushNotificationConfig → Option Json) (own : Pair)
    (allowed : PushOperation → World → Prop) : World → World → Prop
  | here (world : World) : PushRun encodeConfig own allowed world world
  | next (first world : World) (before : PushRun encodeConfig own allowed first world)
      (agent : AgentRecord) (named : agent.aliasName = own.agentAlias)
      (parameters : ServiceParameters) (operation : PushOperation) (fits : allowed operation world) :
      PushRun encodeConfig own allowed first
        (operation.run encodeConfig agent own.taskId parameters world).2

/-- In every run whose operations name no row of the other pair, none of its rows changes. -/
theorem clear_runs_keep_configs (encodeConfig : TaskPushNotificationConfig → Option Json)
    (own other : Pair) (first last : World)
    (run : PushRun encodeConfig own (Clear own other) first last) : OwnedKept other first last := by
  induction run with
  | here => exact fun row member _ => member
  | next world before agent named parameters operation clear ih =>
      intro row member owned
      have stored := ih row member owned
      exact (spares_run operation world rfl).2 row stored (clear row stored owned)

/-! Two agents whose configs have the same id. -/

open TaskIsolation Artifacts

def ownPair : Pair := ⟨echoAgent, firstTask⟩

def rivalPair : Pair := ⟨rivalAgent, secondTask⟩

def callback (id : String) : TaskPushNotificationConfig :=
  ⟨"https://hooks.example", some id, firstTask.text, none, none, none⟩

def encodeCallback (config : TaskPushNotificationConfig) : Option Json :=
  some (.object [("id", .ofOption .string config.id), ("taskId", .string config.taskId),
    ("url", .string config.url)])

theorem hook_valid : IdKind.pushConfigId.reason "hook" = none := by decide

def hookId : PushConfigId := ⟨"hook", hook_valid⟩

def rivalRecord : AgentRecord :=
  (AgentUpsert.new rivalAgent "http://127.0.0.1").toRecord ⟨0⟩ none

-- The rival's config is stored first.
def hookedWorld : World :=
  ((PushOperation.create (callback "hook") .new .null).run encodeCallback rivalRecord secondTask
    plainParameters rivalsWorld).2

def fetching (id : String) : PushOperation := .get (callback id) .null

theorem hookedWorld_owner :
    hookedWorld.store.pushConfigs.rows.map (fun row =>
      (row.pushConfigId.text, row.agentAlias.text, row.taskId.map Id.text)) =
    [("hook", rivalAgent.text, some secondTask.text)] := by
  decide

theorem hookedWorld_id {row : PushConfigRecord} (member : row ∈ hookedWorld.store.pushConfigs.rows) :
    (row.pushConfigId.text, row.agentAlias.text, row.taskId.map Id.text) =
      ("hook", rivalAgent.text, some secondTask.text) := by
  have listed := List.mem_map_of_mem (f := fun row : PushConfigRecord =>
    (row.pushConfigId.text, row.agentAlias.text, row.taskId.map Id.text)) member
  rw [hookedWorld_owner] at listed
  exact List.mem_singleton.mp listed

theorem other_id_keeps_config :
    OwnedKept rivalPair hookedWorld
      ((fetching "other").run encodeCallback echoRecord firstTask plainParameters hookedWorld).2 := by
  apply clear_runs_keep_configs encodeCallback ownPair rivalPair hookedWorld
  apply PushRun.next hookedWorld hookedWorld (.here _) echoRecord rfl plainParameters
  intro row member _ named
  have chosen : chosenId (callback "other") = some "other" := by decide
  simp only [fetching, PushOperation.touches, NamedBy, chosen] at named
  have stored := (Prod.mk.inj (hookedWorld_id member)).1
  rw [named] at stored
  exact absurd stored (by decide)

theorem same_id_takes_config :
    ¬ ∀ (encodeConfig : TaskPushNotificationConfig → Option Json) (own other : Pair)
      (first last : World), own ≠ other →
      PushRun encodeConfig own (fun _ _ => True) first last → OwnedKept other first last := by
  intro isolated
  have kept := isolated encodeCallback ownPair rivalPair hookedWorld _ (by decide)
    (.next hookedWorld hookedWorld (.here _) echoRecord rfl plainParameters (fetching "hook") trivial)
  have taken : (((fetching "hook").run encodeCallback echoRecord firstTask plainParameters
      hookedWorld).2.store.pushConfigs.rows.map PushConfigRecord.agentAlias) = [echoAgent] := by
    decide
  have some_ : hookedWorld.store.pushConfigs.rows ≠ [] := by
    intro none_
    have listed := hookedWorld_owner
    rw [none_] at listed
    contradiction
  obtain ⟨row, member⟩ := List.exists_mem_of_ne_nil _ some_
  obtain ⟨_, rest⟩ := Prod.mk.inj (hookedWorld_id member)
  obtain ⟨agentOf, taskOf⟩ := Prod.mk.inj rest
  obtain ⟨task, named, same⟩ := Option.map_eq_some_iff.mp taskOf
  have stays := kept row member ⟨Id.ext_text agentOf, named.trans (congrArg some (Id.ext_text same))⟩
  have listed := List.mem_map_of_mem (f := PushConfigRecord.agentAlias) stays
  rw [show ownPair.taskId = firstTask from rfl, taken] at listed
  have own : row.agentAlias = echoAgent := List.mem_singleton.mp listed
  rw [own] at agentOf
  exact absurd agentOf (by decide)

end Missive.PushConfigs
