import Missive.Repository

/-! Persistence of A2A artifacts. A task payload replaces each artifact it embeds;
an `artifactUpdate` event replaces one artifact or appends to it. The row written
depends on the one row found under the artifact id. -/
namespace Missive.Artifacts

open JsonValue KeyedTable Missive.Core Schema Effects Repository

abbrev FieldMap := Table (String × Json)

inductive PartContent where
  | text (text : String)
  | raw (bytes : List UInt8)
  | url (url : String)
  | data (value : Json)

structure Part where
  content : PartContent
  filename : Option String
  mediaType : Option String
  metadata : Option FieldMap

structure Artifact where
  artifactId : String
  name : Option String
  description : Option String
  parts : List Part
  metadata : Option FieldMap
  extensions : Option (List String)

structure Task where
  id : String
  contextId : String
  artifacts : Option (List Artifact)

structure TaskArtifactUpdateEvent where
  taskId : String
  contextId : String
  artifact : Artifact
  append : Option Bool
  lastChunk : Option Bool
  metadata : Option FieldMap

/-- `serde_json::to_value` and `serde_json::from_value` at the A2A artifact type. -/
structure ArtifactCodec where
  toValue : Artifact → Option Json
  fromValue : Json → Option Artifact

def ArtifactCodec.RoundTrips (codec : ArtifactCodec) : Prop :=
  ∀ artifact value, codec.toValue artifact = some value → codec.fromValue value = some artifact

variable (codec : ArtifactCodec)

def primaryMimeType (parts : List Part) : Option String := parts.findSome? Part.mediaType

def PartContent.isRaw : PartContent → Bool
  | .raw _ => true
  | _ => false

def PartContent.isUrl : PartContent → Bool
  | .url _ => true
  | _ => false

def PartContent.isData : PartContent → Bool
  | .data _ => true
  | _ => false

def PartContent.isText : PartContent → Bool
  | .text _ => true
  | _ => false

def inferArtifactKind (parts : List Part) : ArtifactKind :=
  if parts.any fun part => part.content.isRaw then .bytes
  else if parts.any fun part => part.content.isUrl then .file
  else if parts.any fun part => part.content.isData then .json
  else if parts.any fun part => part.content.isText then .text
  else .unknown

def insertSome (metadata : Metadata) (name : String) (value : Option Json) :
    Except MissiveError Metadata :=
  match value with
  | some value => metadata.insert name value
  | none => .ok metadata

def fieldsJson (fields : FieldMap) : Json := .object fields.rows

def artifactMetadata (artifact : Artifact) : Except MissiveError Metadata := do
  let described ← insertSome .new "a2a.description" (artifact.description.map .string)
  let extended ← insertSome described "a2a.extensions"
    (artifact.extensions.map fun names => .array (names.map .string))
  insertSome extended "a2a.metadata" (artifact.metadata.map fieldsJson)

def encodeArtifact (artifact : Artifact) : Except MissiveError Json :=
  match codec.toValue artifact with
  | some value => .ok value
  | none => .error (MissiveError.protocol "encoding A2A artifact for local persistence")

def artifactUpsertFromProtocol (taskId : TaskId) (contextId : Option ContextId)
    (artifact : Artifact) (version : UInt64) : Except MissiveError ArtifactUpsert := do
  let artifactId ← Id.new .artifactId artifact.artifactId
  let value ← encodeArtifact codec artifact
  let metadata ← artifactMetadata artifact
  .ok { ArtifactUpsert.new artifactId taskId with
    contextId := contextId
    name := artifact.name
    mimeType := primaryMimeType artifact.parts
    kind := inferArtifactKind artifact.parts
    version := max version 1
    contentJson := some value
    metadata := metadata }

def artifactFromRecord (record : ArtifactRecord) : Except MissiveError Artifact :=
  match record.contentJson with
  | none =>
      .error ((MissiveError.validation
        s!"artifact {debug record.artifactId.text} does not contain inline content JSON").withHelp
        "Only artifacts persisted from A2A Task or artifactUpdate payloads can be shown or saved by the current CLI.")
  | some value =>
      match codec.fromValue value with
      | some artifact => .ok artifact
      | none => .error (MissiveError.protocol
          s!"stored artifact {debug record.artifactId.text} is not valid A2A artifact JSON")

def extendArtifact (stored update : Artifact) : Artifact where
  artifactId := stored.artifactId
  name := update.name.or stored.name
  description := update.description.or stored.description
  parts := stored.parts ++ update.parts
  metadata := update.metadata.or stored.metadata
  extensions := update.extensions.or stored.extensions

def mergeIncrementalArtifact (existing : Option ArtifactRecord) (update : Artifact) :
    Except MissiveError Artifact :=
  match existing with
  | none => .ok update
  | some existing => do
      let stored ← artifactFromRecord codec existing
      .ok (extendArtifact stored update)

-- `saturating_add(1)`
def saturatingSucc (version : UInt64) : UInt64 :=
  if version.toNat + 1 < 2 ^ 64 then version + 1 else version

def nextVersion (existing : Option ArtifactRecord) : UInt64 :=
  existing.elim 1 fun record => saturatingSucc record.version

theorem saturatingSucc_toNat (version : UInt64) (small : version.toNat + 1 < 2 ^ 64) :
    (saturatingSucc version).toNat = version.toNat + 1 := by
  rw [saturatingSucc, if_pos small, UInt64.toNat_add]
  simpa using Nat.mod_eq_of_lt small

theorem max_one (version : UInt64) (positive : 1 ≤ version.toNat) : max version 1 = version := by
  show (if version ≤ 1 then 1 else version) = version
  split
  · rename_i below
    apply UInt64.toNat_inj.mp
    have least : version.toNat ≤ 1 := UInt64.le_iff_toNat_le.mp below
    exact Nat.le_antisymm positive least
  · rfl

/-! Both paths read the row under one artifact id and write the row they build from it. -/

def writeArtifact (id : ArtifactId)
    (build : Option ArtifactRecord → Except MissiveError ArtifactUpsert) : Action ArtifactRecord := do
  let existing ← getArtifact id
  let upsert ← Effect.lift (build existing)
  upsertArtifact upsert

def persistTaskArtifact (taskId : TaskId) (contextId : ContextId) (stored : List ArtifactRecord)
    (artifact : Artifact) : Action (List ArtifactRecord) := do
  let artifactId ← Effect.lift (Id.new .artifactId artifact.artifactId)
  let record ← writeArtifact artifactId fun existing =>
    artifactUpsertFromProtocol codec taskId (some contextId) artifact (nextVersion existing)
  pure (stored ++ [record])

def persistTaskArtifacts (task : Task) : Action (List ArtifactRecord) :=
  match task.artifacts with
  | none => pure []
  | some artifacts => do
      let taskId ← Effect.lift (Id.new .taskId task.id)
      let contextId ← Effect.lift (Id.new .contextId task.contextId)
      Effect.fold (persistTaskArtifact codec taskId contextId) [] artifacts

def TaskArtifactUpdateEvent.appends (update : TaskArtifactUpdateEvent) : Bool :=
  update.append.getD false

def updateMetadata (update : TaskArtifactUpdateEvent) (metadata : Metadata) :
    Except MissiveError Metadata := do
  let marked ← metadata.insert "a2a.update.append" (.bool update.appends)
  let chunked ← insertSome marked "a2a.update.last_chunk" (update.lastChunk.map .bool)
  insertSome chunked "a2a.update.metadata" (update.metadata.map fieldsJson)

-- The artifact an update stands for, given the row under its id.
def updatedArtifact (update : TaskArtifactUpdateEvent) (existing : Option ArtifactRecord) :
    Except MissiveError Artifact :=
  if update.appends then mergeIncrementalArtifact codec existing update.artifact
  else .ok update.artifact

def updateUpsert (taskId : TaskId) (contextId : ContextId) (update : TaskArtifactUpdateEvent)
    (existing : Option ArtifactRecord) : Except MissiveError ArtifactUpsert := do
  let artifact ← updatedArtifact codec update existing
  let upsert ← artifactUpsertFromProtocol codec taskId (some contextId) artifact (nextVersion existing)
  let metadata ← updateMetadata update upsert.metadata
  .ok { upsert with metadata := metadata }

def persistArtifactUpdate (update : TaskArtifactUpdateEvent) : Action ArtifactRecord := do
  let taskId ← Effect.lift (Id.new .taskId update.taskId)
  let contextId ← Effect.lift (Id.new .contextId update.contextId)
  let artifactId ← Effect.lift (Id.new .artifactId update.artifact.artifactId)
  writeArtifact artifactId (updateUpsert codec taskId contextId update)

/-! What a written row takes from the artifact it was built from. -/

structure BuiltFrom (taskId : TaskId) (artifact : Artifact) (version : UInt64)
    (upsert : ArtifactUpsert) : Prop where
  named : upsert.artifactId.text = artifact.artifactId
  owned : upsert.taskId = taskId
  titled : upsert.name = artifact.name
  versioned : upsert.version = max version 1
  encoded : ∃ value, codec.toValue artifact = some value ∧ upsert.contentJson = some value
  described : artifactMetadata artifact = .ok upsert.metadata

theorem artifactUpsertFromProtocol_built {taskId : TaskId} {contextId : Option ContextId}
    {artifact : Artifact} {version : UInt64} {upsert : ArtifactUpsert}
    (built : artifactUpsertFromProtocol codec taskId contextId artifact version = .ok upsert) :
    BuiltFrom codec taskId artifact version upsert := by
  obtain ⟨artifactId, made, rest⟩ := except_bind_returned built
  obtain ⟨value, encoded, last⟩ := except_bind_returned rest
  obtain ⟨metadata, described, same⟩ := except_bind_returned last
  cases same
  refine ⟨Id.text_of_new made, rfl, rfl, rfl, ⟨value, ?_, rfl⟩, described⟩
  unfold encodeArtifact at encoded
  split at encoded
  · cases encoded
    assumption
  · contradiction

theorem updateUpsert_built {taskId : TaskId} {contextId : ContextId}
    {update : TaskArtifactUpdateEvent} {existing : Option ArtifactRecord} {upsert : ArtifactUpsert}
    (built : updateUpsert codec taskId contextId update existing = .ok upsert) :
    ∃ artifact plain, updatedArtifact codec update existing = .ok artifact ∧
      BuiltFrom codec taskId artifact (nextVersion existing) plain ∧
      updateMetadata update plain.metadata = .ok upsert.metadata ∧
      upsert = { plain with metadata := upsert.metadata } := by
  obtain ⟨artifact, merged, rest⟩ := except_bind_returned built
  obtain ⟨plain, made, last⟩ := except_bind_returned rest
  obtain ⟨metadata, marked, same⟩ := except_bind_returned last
  cases same
  exact ⟨artifact, plain, merged, artifactUpsertFromProtocol_built codec made, marked, rfl⟩

/-- What one write can do: fail and leave the store, or put the row it built. -/
theorem writeArtifact_cases (id : ArtifactId)
    (build : Option ArtifactRecord → Except MissiveError ArtifactUpsert) (world : World) :
    (∃ error after, writeArtifact id build world = (.error error, after) ∧
      after.store = world.store) ∨
    (∃ upsert, build (world.store.artifacts.find? id) = .ok upsert ∧ upsert.check = .ok () ∧
      upsert.refused world.store = none ∧
      writeArtifact id build world =
        (.ok (artifactsTable.written upsert.artifactId upsert.toRecord world),
          world.later.withStore { world.store with
            artifacts := world.store.artifacts.put
              (artifactsTable.written upsert.artifactId upsert.toRecord world) })) := by
  have opened : writeArtifact id build world =
      (Effect.lift (build (world.store.artifacts.find? id)) >>= upsertArtifact) world := rfl
  rw [opened]
  cases shown : build (world.store.artifacts.find? id) with
  | error error => exact Or.inl ⟨error, world, rfl, rfl⟩
  | ok upsert =>
      rw [Effect.bind_ok _ _ _ _ _ (Effect.lift_run (.ok upsert) world)]
      rcases upsertRow_cases artifactsTable upsert.check "upserting artifact" "artifact"
          upsert.artifactId.text upsert.artifactId upsert.refused upsert.toRecord
          (fun _ _ => rfl) world with failed | ⟨checked, accepted, ran⟩
      · exact Or.inl failed
      · exact Or.inr ⟨upsert, rfl, checked, accepted, ran⟩

theorem writeArtifact_returned {id : ArtifactId}
    {build : Option ArtifactRecord → Except MissiveError ArtifactUpsert} {world after : World}
    {record : ArtifactRecord} (ran : writeArtifact id build world = (.ok record, after)) :
    ∃ upsert, build (world.store.artifacts.find? id) = .ok upsert ∧ upsert.check = .ok () ∧
      record = artifactsTable.written upsert.artifactId upsert.toRecord world ∧
      after.store = { world.store with artifacts := world.store.artifacts.put record } := by
  rcases writeArtifact_cases id build world with ⟨error, left, failed, _⟩ | ⟨upsert, built, checked, _, wrote⟩
  · rw [failed] at ran
    cases ran
  · rw [wrote] at ran
    cases ran
    exact ⟨upsert, built, checked, rfl, rfl⟩

/-- What an accepted update leaves behind. -/
structure UpdateStored (update : TaskArtifactUpdateEvent) (world after : World)
    (record : ArtifactRecord) (id : ArtifactId) (artifact : Artifact) : Prop where
  named : id.text = update.artifact.artifactId
  updated : updatedArtifact codec update (world.store.artifacts.find? id) = .ok artifact
  target : record.artifactId.text = artifact.artifactId
  owned : record.taskId.text = update.taskId
  titled : record.name = artifact.name
  versioned : record.version = max (nextVersion (world.store.artifacts.find? id)) 1
  storable : record.version.toNat < 2 ^ 63
  encoded : ∃ value, codec.toValue artifact = some value ∧ record.contentJson = some value
  described : ∃ plain, artifactMetadata artifact = .ok plain ∧
    updateMetadata update plain = .ok record.metadata
  written : after.store = { world.store with artifacts := world.store.artifacts.put record }

theorem check_storable {upsert : ArtifactUpsert} (checked : upsert.check = .ok ()) :
    upsert.version.toNat < 2 ^ 63 := by
  obtain ⟨_, _, rest⟩ := except_bind_returned checked
  obtain ⟨_, _, rest⟩ := except_bind_returned rest
  obtain ⟨_, _, rest⟩ := except_bind_returned rest
  split at rest
  · assumption
  · contradiction

theorem persistArtifactUpdate_stored {update : TaskArtifactUpdateEvent} {world after : World}
    {record : ArtifactRecord}
    (ran : persistArtifactUpdate codec update world = (.ok record, after)) :
    ∃ id artifact, UpdateStored codec update world after record id artifact := by
  obtain ⟨taskId, taskOf, rest⟩ := Effect.lift_bind_returned ran
  obtain ⟨contextId, _, rest⟩ := Effect.lift_bind_returned rest
  obtain ⟨artifactId, known, rest⟩ := Effect.lift_bind_returned rest
  obtain ⟨upsert, built, checked, shown, written⟩ := writeArtifact_returned rest
  obtain ⟨artifact, plain, updated, from_, marked, copied⟩ := updateUpsert_built codec built
  have versions : upsert.version = plain.version := by rw [copied]
  refine ⟨artifactId, artifact, ⟨Id.text_of_new known, updated, ?_, ?_, ?_, ?_, ?_, ?_, ?_, written⟩⟩
  · rw [shown, copied]
    exact from_.named
  · rw [shown, copied]
    exact (congrArg Id.text from_.owned).trans (Id.text_of_new taskOf)
  · rw [shown, copied]
    exact from_.titled
  · rw [shown]
    exact versions.trans from_.versioned
  · rw [shown]
    exact check_storable checked
  · obtain ⟨value, encoded, content⟩ := from_.encoded
    refine ⟨value, encoded, ?_⟩
    rw [shown, copied]
    exact content
  · refine ⟨plain.metadata, from_.described, ?_⟩
    rw [shown]
    exact marked

theorem updatedArtifact_none (update : TaskArtifactUpdateEvent) :
    updatedArtifact codec update none = .ok update.artifact := by
  unfold updatedArtifact
  split <;> rfl

/-! A codec for artifacts that hold only text, as `serde_json` writes those. -/

def optionalField (name : String) (text : Option String) : List (String × Json) :=
  text.toList.map fun text => (name, .string text)

def encodeTextPart : Part → Option Json
  | ⟨.text text, none, mediaType, none⟩ =>
      some (.object (optionalField "mediaType" mediaType ++ [("text", .string text)]))
  | _ => none

def decodeTextPart (value : Json) : Option Part := do
  let text ← (value.get "text").bind Json.asStr
  pure ⟨.text text, none, (value.get "mediaType").bind Json.asStr, none⟩

def encodeTextArtifact : Artifact → Option Json
  | ⟨artifactId, name, description, parts, none, none⟩ => do
      let items ← parts.mapM encodeTextPart
      pure (.object ([("artifactId", .string artifactId)] ++ optionalField "description" description ++
        optionalField "name" name ++ [("parts", .array items)]))
  | _ => none

def decodeTextArtifact (value : Json) : Option Artifact := do
  let artifactId ← (value.get "artifactId").bind Json.asStr
  let items ← match value.get "parts" with
    | some (.array items) => some items
    | _ => none
  let parts ← items.mapM decodeTextPart
  pure ⟨artifactId, (value.get "name").bind Json.asStr, (value.get "description").bind Json.asStr,
    parts, none, none⟩

def textCodec : ArtifactCodec := ⟨encodeTextArtifact, decodeTextArtifact⟩

theorem decodeTextPart_encode {part : Part} {value : Json} (encoded : encodeTextPart part = some value) :
    decodeTextPart value = some part := by
  unfold encodeTextPart at encoded
  split at encoded
  · rename_i text mediaType
    cases encoded
    cases mediaType <;> rfl
  · contradiction

theorem decodeTextParts_encode {parts : List Part} {items : List Json}
    (encoded : parts.mapM encodeTextPart = some items) : items.mapM decodeTextPart = some parts := by
  induction parts generalizing items with
  | nil =>
      cases encoded
      rfl
  | cons part rest ih =>
      simp only [List.mapM_cons, Option.bind_eq_bind, Option.bind_eq_some_iff] at encoded
      obtain ⟨value, first, values, others, same⟩ := encoded
      cases same
      simp [decodeTextPart_encode first, ih others]

theorem textCodec_roundTrips : textCodec.RoundTrips := by
  intro artifact value encoded
  simp only [textCodec, encodeTextArtifact] at encoded
  split at encoded
  · rename_i artifactId name description parts
    simp only [Option.bind_eq_bind, Option.bind_eq_some_iff] at encoded
    obtain ⟨items, inner, same⟩ := encoded
    cases same
    have parsed := decodeTextParts_encode inner
    cases name <;> cases description <;>
      simp [textCodec, decodeTextArtifact, optionalField, Json.get, Json.asStr, List.lookup_cons, parsed]
  · contradiction

/-! Two tasks of one agent, the second of which already stored an artifact. -/

theorem echo_valid : IdKind.agentAlias.reason "echo" = none := by decide
theorem context_valid : IdKind.contextId.reason "ctx-1" = none := by decide

def echoAgent : AgentAlias := ⟨"echo", echo_valid⟩
def sharedContext : ContextId := ⟨"ctx-1", context_valid⟩
def firstTask : TaskId := ⟨"task-a", by decide⟩
def secondTask : TaskId := ⟨"task-b", by decide⟩

def textArtifact (id : String) (name : Option String) (text : String) : Artifact :=
  ⟨id, name, none, [⟨.text text, none, some "text/plain", none⟩], none, none⟩

def textUpdate (task : TaskId) (id : String) (name : Option String) (text : String) (append : Bool) :
    TaskArtifactUpdateEvent :=
  ⟨task.text, sharedContext.text, textArtifact id name text, some append, none, none⟩

def seedTasks : Action Unit := do
  let _ ← upsertAgent (.new echoAgent "http://127.0.0.1")
  let _ ← upsertContext (.new sharedContext)
  let _ ← upsertTask (.new firstTask echoAgent .working)
  let _ ← upsertTask (.new secondTask echoAgent .working)

def seededWorld : World := (seedTasks ⟨Store.empty, fun _ => ⟨0⟩, fun _ => "message", 0⟩).2

def secondTaskWorld : World :=
  (persistArtifactUpdate textCodec
    (textUpdate secondTask "answer" (some "notes.txt") "private" false) seededWorld).2

end Missive.Artifacts
