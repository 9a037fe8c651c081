import Missive.Protocol

/-! What an action leaves alone. A part of the store that ignores the tables an
action writes is the same after the action, whether it returned or failed. -/
namespace Missive.Frames

open JsonValue KeyedTable Missive.Core Schema Effects Repository Artifacts BackgroundJobs Protocol

variable {Part Result Other Item Row Key : Type} [Keyed Row Key] [LinearOrder Key]
  {part : Store → Part}

def Same (part : Store → Part) (before after : World) : Prop := part after.store = part before.store

def Keeps (part : Store → Part) (action : Action Result) : Prop := Effect.Moves (Same part) action

theorem same_refl (world : World) : Same part world world := rfl

theorem same_trans (first middle last : World) (before : Same part first middle)
    (after : Same part middle last) : Same part first last := Eq.trans after before

def Ignores (part : Store → Part) (table : StoreTable Row) : Prop :=
  ∀ store rows, part (table.withRows store rows) = part store

def IgnoresEvents (part : Store → Part) : Prop :=
  ∀ store input time, part (withEvent store input time) = part store

theorem keeps_pure (result : Result) : Keeps part (pure result : Action Result) :=
  Effect.moves_pure same_refl result

theorem keeps_lift (result : Except MissiveError Result) : Keeps part (Effect.lift result) :=
  Effect.moves_lift same_refl result

theorem keeps_raise (error : MissiveError) : Keeps part (Effect.raise error : Action Result) :=
  Effect.moves_raise same_refl error

theorem keeps_bind {first : Action Result} {next : Result → Action Other} (head : Keeps part first)
    (tail : ∀ result, Keeps part (next result)) : Keeps part (first >>= next) :=
  Effect.moves_bind same_trans head tail

theorem keeps_fold {step : Result → Item → Action Result}
    (each : ∀ result item, Keeps part (step result item)) (start : Result) (items : List Item) :
    Keeps part (Effect.fold step start items) :=
  Effect.moves_fold same_refl same_trans each start items

theorem keeps_readStore (query : Store → Result) : Keeps part (readStore query) := fun _ => rfl

theorem keeps_nowUtc : Keeps part nowUtc := fun _ => rfl

theorem keeps_newMessageId : Keeps part newMessageId := fun _ => rfl

-- The part a returned action kept.
theorem Keeps.returned {action : Action Result} (keeps : Keeps part action) {world after : World}
    {result : Result} (ran : action world = (.ok result, after)) :
    part after.store = part world.store := by
  have kept := keeps world
  rwa [ran] at kept

section Upsert

variable {table : StoreTable Row} {checked : Except MissiveError Unit}
  {action kind identifier : String} {wanted : Key} {refused : Store → Option String}
  {record : MilliTime → Option Row → Row}

theorem keeps_upsertRow (keyed : ∀ time existing, key (record time existing) = wanted)
    (ignores : Ignores part table) :
    Keeps part (upsertRow table checked action kind identifier wanted refused record) := by
  intro world
  rcases upsertRow_cases table checked action kind identifier wanted refused record keyed world with
    ⟨error, after, failed, same⟩ | ⟨_, _, wrote⟩
  · rw [failed]
    exact congrArg part same
  · rw [wrote]
    exact ignores _ _

end Upsert

theorem keeps_upsertContext (ignores : Ignores part contextsTable) (input : ContextUpsert) :
    Keeps part (upsertContext input) := keeps_upsertRow (fun _ _ => rfl) ignores

theorem keeps_upsertTask (ignores : Ignores part tasksTable) (input : TaskUpsert) :
    Keeps part (upsertTask input) := keeps_upsertRow (fun _ _ => rfl) ignores

theorem keeps_upsertGatewayJob (ignores : Ignores part gatewayJobsTable) (input : GatewayJobUpsert) :
    Keeps part (upsertGatewayJob input) := keeps_upsertRow (fun _ _ => rfl) ignores

theorem keeps_insertMessage (ignores : Ignores part messagesTable) (input : MessageInsert) :
    Keeps part (insertMessage input) := keeps_upsertRow (fun _ _ => rfl) ignores

theorem keeps_appendEvent (ignores : IgnoresEvents part) (input : EventInsert) :
    Keeps part (appendEvent input) := by
  intro world
  rcases appendEvent_cases input world with ⟨error, after, failed, same⟩ | ⟨_, appended⟩
  · rw [failed]
    exact congrArg part same
  · rw [appended]
    exact ignores _ _ _

theorem keeps_appendVersioned (ignores : IgnoresEvents part) (event : EventInsert)
    (version : String) : Keeps part (appendVersioned event version) :=
  keeps_bind (keeps_lift _) fun _ => keeps_appendEvent ignores _

theorem keeps_newCliEvent (eventType : String) (payload : Json) :
    Keeps part (newCliEvent eventType payload) := by
  apply keeps_bind
  · exact keeps_bind keeps_newMessageId fun _ => keeps_lift _
  · exact fun _ => keeps_pure _

theorem keeps_ensureContext (ignores : Ignores part contextsTable) (agent : AgentRecord)
    (contextId : ContextId) : Keeps part (ensureContext agent contextId) := by
  apply keeps_bind (keeps_readStore _)
  intro known
  cases known with
  | some _ => exact keeps_pure ()
  | none => exact keeps_bind (keeps_upsertContext ignores _) fun _ => keeps_pure ()

theorem keeps_ensureOptionalContext (ignores : Ignores part contextsTable) (agent : AgentRecord)
    (contextId : Option ContextId) : Keeps part (ensureOptionalContext agent contextId) := by
  cases contextId with
  | some contextId => exact keeps_ensureContext ignores agent contextId
  | none => exact keeps_pure ()

theorem keeps_completedAtFor (state : TaskState) (otherwise : Option MissiveTimestamp) :
    Keeps part (completedAtFor state otherwise) := by
  unfold completedAtFor
  split
  · exact keeps_bind keeps_nowUtc fun _ => keeps_pure _
  · exact keeps_pure _

section Artifacts

variable (codec : ArtifactCodec)

theorem keeps_writeArtifact (ignores : Ignores part artifactsTable) (id : ArtifactId)
    (build : Option ArtifactRecord → Except MissiveError ArtifactUpsert) :
    Keeps part (writeArtifact id build) := by
  apply keeps_bind (keeps_readStore _)
  intro existing
  apply keeps_bind (keeps_lift _)
  intro upsert
  exact keeps_upsertRow (fun _ _ => rfl) ignores

theorem keeps_persistTaskArtifacts (ignores : Ignores part artifactsTable) (task : Task) :
    Keeps part (persistTaskArtifacts codec task) := by
  unfold persistTaskArtifacts
  split
  · exact keeps_pure []
  · apply keeps_bind (keeps_lift _)
    intro taskId
    apply keeps_bind (keeps_lift _)
    intro contextId
    apply keeps_fold
    intro stored artifact
    apply keeps_bind (keeps_lift _)
    intro artifactId
    exact keeps_bind (keeps_writeArtifact ignores _ _) fun _ => keeps_pure _

theorem keeps_persistArtifactUpdate (ignores : Ignores part artifactsTable)
    (update : TaskArtifactUpdateEvent) : Keeps part (persistArtifactUpdate codec update) := by
  apply keeps_bind (keeps_lift _)
  intro taskId
  apply keeps_bind (keeps_lift _)
  intro contextId
  apply keeps_bind (keeps_lift _)
  intro artifactId
  exact keeps_writeArtifact ignores _ _

end Artifacts

theorem keeps_transaction {body : Action Result} (inner : Keeps part body) :
    Keeps part (transaction body) := by
  have undone (before after : World) (_ : Same part before after) :
      Same part before (after.withStore before.store) := rfl
  exact Effect.moves_transaction undone inner

theorem transaction_returned {body : Action Result} {world after : World} {result : Result}
    (ran : transaction body world = (.ok result, after)) : body world = (.ok result, after) :=
  Effect.transaction_returned ran

-- A transaction that fails leaves the store as it was.
theorem transaction_failed {body : Action Result} {world after : World} {error : MissiveError}
    (ran : transaction body world = (.error error, after)) : after.store = world.store := by
  unfold transaction Effect.transaction at ran
  split at ran
  · cases ran
  · cases ran
    rfl

end Missive.Frames
