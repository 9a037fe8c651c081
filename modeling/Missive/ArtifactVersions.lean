import Missive.Totality

/-! Storing the artifacts of a task payload. Each of them replaces the row under
its id and counts the version up, so an id that occurs several times is counted
several times and the last occurrence stays. -/
namespace Missive.ArtifactVersions

open JsonValue KeyedTable Missive.Core Schema Effects Repository Artifacts Protocol Totality

variable {codec : ArtifactCodec} {taskId : TaskId} {contextId : ContextId}

/-! Lengths. -/

def lengthFits (maxBytes : Nat) (value : Option String) : Bool :=
  value.all fun text => !text.isEmpty && text.utf8ByteSize ≤ maxBytes

theorem validateLen_iff (label value : String) (maxBytes : Nat) :
    validateLen label value maxBytes = .ok () ↔
      (!value.isEmpty && value.utf8ByteSize ≤ maxBytes) = true := by
  constructor
  · intro passed
    unfold validateLen validateNonEmpty at passed
    split at passed
    · contradiction
    · rename_i filled
      change (if value.utf8ByteSize > maxBytes then _ else _) = _ at passed
      split at passed
      · contradiction
      · rename_i short
        simp only [Bool.not_eq_true] at filled
        simp only [filled, Bool.not_false, Bool.true_and, decide_eq_true_eq]
        omega
  · exact validateLen_valid label value

theorem validateOptionLen_iff (label : String) (value : Option String) (maxBytes : Nat) :
    validateOptionLen label value maxBytes = .ok () ↔ lengthFits maxBytes value = true := by
  cases value with
  | none => exact ⟨fun _ => rfl, fun _ => rfl⟩
  | some text => exact validateLen_iff label text maxBytes

/-- The columns of an artifact that the store bounds. -/
def ArtifactFits (artifact : Artifact) : Prop :=
  lengthFits 512 artifact.name = true ∧ lengthFits 255 (primaryMimeType artifact.parts) = true

theorem artifactCheck_iff (upsert : ArtifactUpsert) :
    upsert.check = .ok () ↔ lengthFits 512 upsert.name = true ∧
      lengthFits 255 upsert.mimeType = true ∧ lengthFits 4096 upsert.bytesPath = true ∧
      upsert.version.toNat < 2 ^ 63 := by
  rw [← validateOptionLen_iff "artifact name", ← validateOptionLen_iff "artifact mime_type",
    ← validateOptionLen_iff "artifact bytes_path"]
  unfold ArtifactUpsert.check
  cases validateOptionLen "artifact name" upsert.name 512 with
  | error error => simp [Bind.bind, Except.bind]
  | ok named =>
      cases validateOptionLen "artifact mime_type" upsert.mimeType 255 with
      | error error => simp [Bind.bind, Except.bind]
      | ok typed =>
          cases validateOptionLen "artifact bytes_path" upsert.bytesPath 4096 with
          | error error => simp [Bind.bind, Except.bind]
          | ok placed => simp [Bind.bind, Except.bind]

/-! One artifact. -/

-- The row a task payload leaves for an artifact.
def artifactRow (taskId : TaskId) (contextId : ContextId) (artifact : Artifact) (id : ArtifactId)
    (value : Json) (metadata : Metadata) (version : UInt64) (created updated : MilliTime) :
    ArtifactRecord where
  artifactId := id
  taskId := taskId
  contextId := some contextId
  name := artifact.name
  mimeType := primaryMimeType artifact.parts
  kind := inferArtifactKind artifact.parts
  version := version
  contentJson := some value
  bytesPath := none
  metadata := metadata
  createdAt := created
  updatedAt := updated

theorem artifactMetadata_returns (artifact : Artifact) :
    ∃ metadata, artifactMetadata artifact = .ok metadata := by
  obtain ⟨described, first⟩ := insertSome_returns .new "a2a.description"
    (artifact.description.map .string) (by decide)
  obtain ⟨extended, second⟩ := insertSome_returns described "a2a.extensions"
    (artifact.extensions.map fun names => .array (names.map .string)) (by decide)
  obtain ⟨metadata, last⟩ := insertSome_returns extended "a2a.metadata"
    (artifact.metadata.map fieldsJson) (by decide)
  refine ⟨metadata, ?_⟩
  unfold artifactMetadata
  rw [first]
  simp only [Bind.bind, Except.bind]
  rw [second]
  exact last

def versionOf (existing : Option ArtifactRecord) : Nat :=
  existing.elim 0 fun row => row.version.toNat

def storedVersion (table : Table ArtifactRecord) (id : ArtifactId) : Nat := versionOf (table.find? id)

theorem nextVersion_toNat (existing : Option ArtifactRecord) (small : versionOf existing + 1 < 2 ^ 64) :
    (max (nextVersion existing) 1).toNat = versionOf existing + 1 := by
  cases existing with
  | none => rfl
  | some row =>
      have succ : (nextVersion (some row)).toNat = row.version.toNat + 1 :=
        saturatingSucc_toNat row.version small
      rw [max_one _ (by omega), succ]
      rfl

theorem nextVersion_stuck (existing : Option ArtifactRecord)
    (large : ¬ versionOf existing + 1 < 2 ^ 64) :
    2 ^ 63 ≤ (max (nextVersion existing) 1).toNat := by
  cases existing with
  | none => exact absurd (by decide : 0 + 1 < 2 ^ 64) large
  | some row =>
      change ¬ row.version.toNat + 1 < 2 ^ 64 at large
      have stuck : nextVersion (some row) = row.version := if_neg large
      rw [stuck, max_one _ (by omega)]
      omega

theorem nextVersion_positive (existing : Option ArtifactRecord) :
    ¬ max (nextVersion existing) 1 < (1 : UInt64) := by
  intro below
  have small : (max (nextVersion existing) 1).toNat < 1 := UInt64.lt_iff_toNat_lt.mp below
  by_cases fits : versionOf existing + 1 < 2 ^ 64
  · rw [nextVersion_toNat existing fits] at small
    omega
  · have large := nextVersion_stuck existing fits
    omega

-- A version that can be stored is the next one.
theorem nextVersion_storable (existing : Option ArtifactRecord) :
    (max (nextVersion existing) 1).toNat < 2 ^ 63 ↔ versionOf existing + 1 < 2 ^ 63 := by
  by_cases small : versionOf existing + 1 < 2 ^ 64
  · rw [nextVersion_toNat existing small]
  · have stuck := nextVersion_stuck existing small
    constructor
    · intro storable
      omega
    · intro storable
      omega

-- `artifactUpsertFromProtocol`, once its parts are known.
def protocolArtifact (taskId : TaskId) (contextId : ContextId) (artifact : Artifact) (id : ArtifactId)
    (value : Json) (metadata : Metadata) (version : UInt64) : ArtifactUpsert :=
  { ArtifactUpsert.new id taskId with
    contextId := some contextId
    name := artifact.name
    mimeType := primaryMimeType artifact.parts
    kind := inferArtifactKind artifact.parts
    version := max version 1
    contentJson := some value
    metadata := metadata }

theorem artifactUpsert_valid {artifact : Artifact} {id : ArtifactId} {value : Json}
    {metadata : Metadata} (named : id.text = artifact.artifactId)
    (encoded : codec.toValue artifact = some value)
    (described : artifactMetadata artifact = .ok metadata) (version : UInt64) :
    artifactUpsertFromProtocol codec taskId (some contextId) artifact version =
      .ok (protocolArtifact taskId contextId artifact id value metadata version) := by
  unfold artifactUpsertFromProtocol encodeArtifact
  rw [← named, Id.new_text, encoded, described]
  rfl

-- The columns fit, and SQLite can store the next version.
def Storable (artifact : Artifact) (table : Table ArtifactRecord) (id : ArtifactId) : Prop :=
  ArtifactFits artifact ∧ storedVersion table id + 1 < 2 ^ 63

section One

variable {artifact : Artifact} {id : ArtifactId} {value : Json} {metadata : Metadata} {world : World}
  (stored : List ArtifactRecord)

-- The row written over the one found under the id.
def writtenRow (taskId : TaskId) (contextId : ContextId) (artifact : Artifact) (id : ArtifactId)
    (value : Json) (metadata : Metadata) (world : World) : ArtifactRecord :=
  let existing := world.store.artifacts.find? id
  let time := (world.clock world.drawn).toMillis
  artifactRow taskId contextId artifact id value metadata (max (nextVersion existing) 1)
    (existing.elim time ArtifactRecord.createdAt) time

theorem persistTaskArtifact_opened (named : id.text = artifact.artifactId)
    (encoded : codec.toValue artifact = some value)
    (described : artifactMetadata artifact = .ok metadata) :
    persistTaskArtifact codec taskId contextId stored artifact world =
      (upsertArtifact (protocolArtifact taskId contextId artifact id value metadata
        (nextVersion (world.store.artifacts.find? id))) >>= fun record =>
          pure (stored ++ [record])) world := by
  unfold persistTaskArtifact
  rw [← named, Id.new_text, Effect.bind_ok _ _ _ _ _ (Effect.lift_run (.ok id) world)]
  have opened : writeArtifact id (fun existing => artifactUpsertFromProtocol codec taskId
        (some contextId) artifact (nextVersion existing)) world =
      upsertArtifact (protocolArtifact taskId contextId artifact id value metadata
        (nextVersion (world.store.artifacts.find? id))) world := by
    show (Effect.lift (artifactUpsertFromProtocol codec taskId (some contextId) artifact
      (nextVersion (world.store.artifacts.find? id))) >>= upsertArtifact) world = _
    rw [artifactUpsert_valid named encoded described]
    rfl
  rw [Effect.bind_run, Effect.bind_run, opened]

/-- One artifact is stored exactly when its columns fit and its version can grow. -/
theorem persistTaskArtifact_cases (named : id.text = artifact.artifactId)
    (encoded : codec.toValue artifact = some value)
    (described : artifactMetadata artifact = .ok metadata)
    (taskStored : world.store.hasTask (some taskId) = true)
    (contextStored : world.store.hasContext (some contextId) = true) :
    (Storable artifact world.store.artifacts id ∧
      persistTaskArtifact codec taskId contextId stored artifact world =
        (.ok (stored ++ [writtenRow taskId contextId artifact id value metadata world]),
          world.later.withStore { world.store with
            artifacts := world.store.artifacts.put
              (writtenRow taskId contextId artifact id value metadata world) })) ∨
    (¬ Storable artifact world.store.artifacts id ∧
      ∃ error after, persistTaskArtifact codec taskId contextId stored artifact world =
        (.error error, after)) := by
  rw [persistTaskArtifact_opened stored named encoded described]
  generalize built : protocolArtifact taskId contextId artifact id value metadata
    (nextVersion (world.store.artifacts.find? id)) = upsert
  have checks : upsert.check = .ok () ↔ Storable artifact world.store.artifacts id := by
    rw [artifactCheck_iff, ← built]
    simp only [protocolArtifact, nextVersion_storable, Storable, ArtifactFits, storedVersion]
    exact ⟨fun ⟨name, mime, _, room⟩ => ⟨⟨name, mime⟩, room⟩,
      fun ⟨⟨name, mime⟩, room⟩ => ⟨name, mime, rfl, room⟩⟩
  cases outcome : upsert.check with
  | error error =>
      refine Or.inr ⟨?_, error, world, ?_⟩
      · rw [← checks, outcome]
        simp
      · apply Effect.bind_error
        unfold upsertArtifact
        rw [outcome]
        exact upsertRow_invalid ..
  | ok _ =>
      have accepted : upsert.refused world.store = none := by
        have positive : ¬ upsert.version < 1 := by
          rw [← built]
          exact nextVersion_positive _
        rw [ArtifactUpsert.refused, if_neg positive, ← built]
        simp [protocolArtifact, ArtifactUpsert.new, refuseUnless, taskStored, contextStored]
      refine Or.inl ⟨checks.mp outcome, ?_⟩
      have wrote : upsertArtifact upsert world = _ := upsertRow_accepted artifactsTable upsert.check "upserting artifact" "artifact"
        upsert.artifactId.text upsert.artifactId upsert.refused upsert.toRecord (fun _ _ => rfl)
        outcome world accepted
      rw [Effect.bind_ok _ _ _ _ _ wrote, ← built]
      rfl

theorem storedVersion_written (taskId : TaskId) (contextId : ContextId) (artifact : Artifact)
    (value : Json) (metadata : Metadata) (room : storedVersion world.store.artifacts id + 1 < 2 ^ 63)
    (wanted : ArtifactId) :
    storedVersion (world.store.artifacts.put
        (writtenRow taskId contextId artifact id value metadata world)) wanted =
      storedVersion world.store.artifacts wanted + if wanted = id then 1 else 0 := by
  unfold storedVersion
  rw [Table.find?_put]
  by_cases same : wanted = id
  · subst same
    rw [if_pos (show wanted = key (writtenRow ..) from rfl), if_pos rfl]
    exact nextVersion_toNat _ (lt_trans room (by decide))
  · rw [if_neg (show wanted ≠ key (writtenRow ..) from same), if_neg same]
    rfl

end One

/-! A whole payload. -/

def occurrences (artifacts : List Artifact) (id : ArtifactId) : Nat :=
  artifacts.countP fun artifact => artifact.artifactId = id.text

/-- The artifacts of a payload can be stored over the rows of a table. -/
structure PayloadStorable (artifacts : List Artifact) (table : Table ArtifactRecord) : Prop where
  fit : ∀ artifact ∈ artifacts, ArtifactFits artifact
  room : ∀ id, occurrences artifacts id ≠ 0 → storedVersion table id + occurrences artifacts id < 2 ^ 63

def lastNamed (id : ArtifactId) : List Artifact → Option Artifact
  | [] => none
  | artifact :: rest =>
      (lastNamed id rest).or (if artifact.artifactId = id.text then some artifact else none)

theorem occurrences_cons (artifact : Artifact) (rest : List Artifact) (id : ArtifactId) :
    occurrences (artifact :: rest) id =
      occurrences rest id + if artifact.artifactId = id.text then 1 else 0 := by
  unfold occurrences
  rw [List.countP_cons]
  simp

theorem lastNamed_none_iff (id : ArtifactId) (artifacts : List Artifact) :
    lastNamed id artifacts = none ↔ occurrences artifacts id = 0 := by
  induction artifacts with
  | nil => exact ⟨fun _ => rfl, fun _ => rfl⟩
  | cons artifact rest ih =>
      rw [lastNamed, occurrences_cons, Option.or_eq_none_iff, ih]
      by_cases named : artifact.artifactId = id.text
      · simp [named]
      · simp [named]

theorem names_iff {artifact : Artifact} {id : ArtifactId} (named : id.text = artifact.artifactId)
    (wanted : ArtifactId) : artifact.artifactId = wanted.text ↔ wanted = id := by
  rw [← named]
  exact ⟨fun same => (Id.ext_text same).symm, fun same => congrArg Id.text same.symm⟩

theorem payloadStorable_nil (table : Table ArtifactRecord) : PayloadStorable [] table :=
  ⟨nofun, fun _ named => absurd rfl named⟩

theorem payloadStorable_head {artifact : Artifact} {rest : List Artifact}
    {table : Table ArtifactRecord} {id : ArtifactId} (named : id.text = artifact.artifactId)
    (storable : PayloadStorable (artifact :: rest) table) : Storable artifact table id := by
  refine ⟨storable.fit artifact List.mem_cons_self, ?_⟩
  have own := storable.room id
  rw [occurrences_cons, if_pos named.symm] at own
  have bound := own (by omega)
  omega

theorem payloadStorable_cons {artifact : Artifact} {rest : List Artifact}
    {before middle : Table ArtifactRecord} {id : ArtifactId} (named : id.text = artifact.artifactId)
    (counted : ∀ wanted, storedVersion middle wanted =
      storedVersion before wanted + if wanted = id then 1 else 0) :
    PayloadStorable (artifact :: rest) before ↔
      Storable artifact before id ∧ PayloadStorable rest middle := by
  have here := names_iff named
  constructor
  · intro storable
    refine ⟨payloadStorable_head named storable, ⟨?_, ?_⟩⟩
    · exact fun other member => storable.fit other (List.mem_cons_of_mem _ member)
    · intro wanted occurs
      have total := storable.room wanted
      rw [occurrences_cons] at total
      rw [counted wanted]
      by_cases same : wanted = id
      · rw [if_pos ((here wanted).mpr same)] at total
        rw [if_pos same]
        have bound := total (by omega)
        omega
      · rw [if_neg (fun equal => same ((here wanted).mp equal))] at total
        rw [if_neg same]
        exact total occurs
  · rintro ⟨⟨fits, first⟩, ⟨fit, room⟩⟩
    refine ⟨?_, ?_⟩
    · intro other member
      rcases List.mem_cons.mp member with rfl | inside
      · exact fits
      · exact fit other inside
    · intro wanted occurs
      have later := room wanted
      rw [counted wanted] at later
      rw [occurrences_cons] at occurs ⊢
      by_cases same : wanted = id
      · rw [if_pos same] at later
        rw [if_pos ((here wanted).mpr same)]
        by_cases again : occurrences rest wanted = 0
        · rw [again, same]
          omega
        · have bound := later again
          omega
      · rw [if_neg same] at later
        rw [if_neg (fun equal => same ((here wanted).mp equal))] at occurs ⊢
        exact later occurs

/-- What a stored payload leaves: under an id it names the row of the last artifact with
that id, its version counted up once for each of them. -/
structure Replaced (codec : ArtifactCodec) (taskId : TaskId) (contextId : ContextId)
    (artifacts : List Artifact) (before after : Table ArtifactRecord) : Prop where
  kept : ∀ id, lastNamed id artifacts = none → after.find? id = before.find? id
  stored : ∀ id artifact, lastNamed id artifacts = some artifact →
    ∃ value metadata version created updated, codec.toValue artifact = some value ∧
      artifactMetadata artifact = .ok metadata ∧
      after.find? id = some
        (artifactRow taskId contextId artifact id value metadata version created updated) ∧
      version.toNat = storedVersion before id + occurrences artifacts id ∧
      ∀ row, before.find? id = some row → created = row.createdAt

theorem replaced_nil (table : Table ArtifactRecord) :
    Replaced codec taskId contextId [] table table :=
  ⟨fun _ _ => rfl, nofun⟩

theorem replaced_cons {artifact : Artifact} {rest : List Artifact} {id : ArtifactId} {value : Json}
    {metadata : Metadata} {world : World} {after : Table ArtifactRecord}
    (named : id.text = artifact.artifactId) (encoded : codec.toValue artifact = some value)
    (described : artifactMetadata artifact = .ok metadata)
    (room : storedVersion world.store.artifacts id + 1 < 2 ^ 63)
    (others : Replaced codec taskId contextId rest (world.store.artifacts.put
      (writtenRow taskId contextId artifact id value metadata world)) after) :
    Replaced codec taskId contextId (artifact :: rest) world.store.artifacts after := by
  have counted := storedVersion_written taskId contextId artifact value metadata room
  have here := names_iff named
  constructor
  · intro wanted absent
    rw [lastNamed, Option.or_eq_none_iff] at absent
    have apart : wanted ≠ id := by
      intro same
      simp [(here wanted).mpr same] at absent
    rw [others.kept wanted absent.1]
    exact world.store.artifacts.find?_put_other _ _ apart
  · intro wanted last found
    rw [lastNamed] at found
    cases later : lastNamed wanted rest with
    | some other =>
        rw [later, Option.some_or] at found
        cases found
        obtain ⟨value', metadata', version, created, updated, encoded', described', row, counts, born⟩ :=
          others.stored wanted last later
        refine ⟨value', metadata', version, created, updated, encoded', described', row, ?_, ?_⟩
        · rw [counts, counted wanted, occurrences_cons]
          by_cases same : wanted = id
          · rw [if_pos same, if_pos ((here wanted).mpr same)]
            omega
          · rw [if_neg same, if_neg (fun equal => same ((here wanted).mp equal))]
            omega
        · intro old stored
          by_cases same : wanted = id
          · subst same
            have written := born _ (world.store.artifacts.find?_put_self
              (writtenRow taskId contextId artifact wanted value metadata world))
            rw [written]
            show (world.store.artifacts.find? wanted).elim _ _ = _
            rw [stored]
            rfl
          · apply born
            rw [← stored]
            exact world.store.artifacts.find?_put_other _ _ same
    | none =>
        rw [later, Option.none_or] at found
        by_cases same : wanted = id
        · subst same
          rw [if_pos named.symm] at found
          cases found
          let row := writtenRow taskId contextId artifact wanted value metadata world
          refine ⟨value, metadata, row.version, row.createdAt, row.updatedAt, encoded, described,
            ?_, ?_, ?_⟩
          · rw [others.kept wanted later]
            exact world.store.artifacts.find?_put_self _
          · have none := (lastNamed_none_iff wanted rest).mp later
            rw [occurrences_cons, none, if_pos named.symm]
            exact nextVersion_toNat _ (lt_trans room (by decide))
          · intro old stored
            show (world.store.artifacts.find? wanted).elim _ _ = _
            rw [stored]
            rfl
        · rw [if_neg (fun equal => same ((here wanted).mp equal))] at found
          cases found

theorem replaced_counted {artifacts : List Artifact} {before after : Table ArtifactRecord}
    (replaced : Replaced codec taskId contextId artifacts before after) (id : ArtifactId) :
    storedVersion after id = storedVersion before id + occurrences artifacts id := by
  cases last : lastNamed id artifacts with
  | none =>
      rw [(lastNamed_none_iff id artifacts).mp last, storedVersion, replaced.kept id last]
      rfl
  | some artifact =>
      obtain ⟨_, _, version, _, _, _, _, found, counts, _⟩ := replaced.stored id artifact last
      rw [storedVersion, found, ← counts]
      rfl

theorem occurrences_append (first last : List Artifact) (id : ArtifactId) :
    occurrences (first ++ last) id = occurrences first id + occurrences last id :=
  List.countP_append

-- The first part of a payload that can be stored, and the rest after it.
theorem payloadStorable_left {first last : List Artifact} {table : Table ArtifactRecord}
    (storable : PayloadStorable (first ++ last) table) : PayloadStorable first table := by
  refine ⟨fun artifact member => storable.fit artifact (List.mem_append_left _ member), ?_⟩
  intro id occurs
  have total := storable.room id
  rw [occurrences_append] at total
  have bound := total (by omega)
  omega

theorem payloadStorable_append {first last : List Artifact} {before middle : Table ArtifactRecord}
    (counted : ∀ id, storedVersion middle id = storedVersion before id + occurrences first id) :
    PayloadStorable (first ++ last) before ↔
      PayloadStorable first before ∧ PayloadStorable last middle := by
  constructor
  · intro storable
    refine ⟨payloadStorable_left storable, ?_⟩
    refine ⟨fun artifact member => storable.fit artifact (List.mem_append_right _ member), ?_⟩
    intro id occurs
    have total := storable.room id
    rw [occurrences_append] at total
    rw [counted id]
    have bound := total (by omega)
    omega
  · rintro ⟨here, rest⟩
    constructor
    · intro artifact member
      rcases List.mem_append.mp member with early | late
      · exact here.fit artifact early
      · exact rest.fit artifact late
    · intro id occurs
      rw [occurrences_append] at occurs ⊢
      by_cases late : occurrences last id = 0
      · have bound := here.room id (by omega)
        omega
      · have bound := rest.room id late
        rw [counted id] at bound
        omega

section Run

variable {artifacts : List Artifact} {world : World}

/-- What the run over a payload does, with the draws it uses up. -/
structure PayloadStored (codec : ArtifactCodec) (taskId : TaskId) (contextId : ContextId)
    (artifacts : List Artifact) (world after : World) : Prop where
  elsewhere : after.store = { world.store with artifacts := after.store.artifacts }
  replaced : Replaced codec taskId contextId artifacts world.store.artifacts after.store.artifacts
  ready : ∀ reserved budget, Ready reserved (budget + artifacts.length) world → Ready reserved budget after

/-- A payload is stored exactly when every artifact fits and every version can grow. -/
theorem decides_persistArtifacts (start : List ArtifactRecord)
    (valid : ∀ artifact ∈ artifacts, IdKind.artifactId.reason artifact.artifactId = none)
    (encodes : ∀ artifact ∈ artifacts, (codec.toValue artifact).isSome = true)
    (taskStored : world.store.hasTask (some taskId) = true)
    (contextStored : world.store.hasContext (some contextId) = true) :
    Effect.Decides (Effect.fold (persistTaskArtifact codec taskId contextId) start artifacts) world
      (PayloadStorable artifacts world.store.artifacts) fun _ after =>
        PayloadStored codec taskId contextId artifacts world after := by
  induction artifacts generalizing world start with
  | nil =>
      refine Or.inl ⟨payloadStorable_nil _, ⟨start, world, rfl, rfl, replaced_nil _, ?_⟩⟩
      exact fun _ _ ready => ready
  | cons artifact rest ih =>
      obtain ⟨value, encoded⟩ := Option.isSome_iff_exists.mp (encodes artifact List.mem_cons_self)
      obtain ⟨metadata, described⟩ := artifactMetadata_returns artifact
      let id : ArtifactId := ⟨artifact.artifactId, valid artifact List.mem_cons_self⟩
      have named : id.text = artifact.artifactId := rfl
      rcases persistTaskArtifact_cases start named encoded described taskStored contextStored with
        ⟨storable, wrote⟩ | ⟨stuck, error, after, failed⟩
      · have counted := storedVersion_written taskId contextId artifact value metadata storable.2
        apply Effect.decides_congr (payloadStorable_cons named counted)
        let middle := world.later.withStore { world.store with
          artifacts := world.store.artifacts.put
            (writtenRow taskId contextId artifact id value metadata world) }
        have taskNext : middle.store.hasTask (some taskId) = true := taskStored
        have contextNext : middle.store.hasContext (some contextId) = true := contextStored
        rcases ih (start ++ [writtenRow taskId contextId artifact id value metadata world])
            (fun other member => valid other (List.mem_cons_of_mem _ member))
            (fun other member => encodes other (List.mem_cons_of_mem _ member))
            taskNext contextNext with ⟨others, ran⟩ | ⟨stuck, error, after, failed⟩
        · refine Or.inl ⟨⟨storable, others⟩, ?_⟩
          apply Effect.succeeds_bind
          refine ⟨_, _, wrote, Effect.succeeds_mono ran ?_⟩
          rintro records after ⟨elsewhere, replaced, ready⟩
          refine ⟨elsewhere, replaced_cons named encoded described storable.2 replaced, ?_⟩
          intro reserved budget enough
          apply ready
          exact Ready.withStore (Ready.later enough) rfl rfl
        · refine Or.inr ⟨fun both => stuck both.2, error, after, ?_⟩
          exact (Effect.bind_ok _ _ _ _ _ wrote).trans failed
      · refine Or.inr ⟨fun all => stuck (payloadStorable_head named all), error, after, ?_⟩
        exact Effect.bind_error _ _ _ _ _ failed

def payload (task : Task) : List Artifact := task.artifacts.getD []

theorem decides_persistTaskArtifacts {task : Task} (taskOf : Id.new .taskId task.id = .ok taskId)
    (contextOf : Id.new .contextId task.contextId = .ok contextId)
    (valid : ∀ artifact ∈ payload task, IdKind.artifactId.reason artifact.artifactId = none)
    (encodes : ∀ artifact ∈ payload task, (codec.toValue artifact).isSome = true)
    (taskStored : world.store.hasTask (some taskId) = true)
    (contextStored : world.store.hasContext (some contextId) = true) :
    Effect.Decides (persistTaskArtifacts codec task) world
      (PayloadStorable (payload task) world.store.artifacts) fun _ after =>
        PayloadStored codec taskId contextId (payload task) world after := by
  unfold payload at valid encodes ⊢
  unfold persistTaskArtifacts
  cases held : task.artifacts with
  | none =>
      exact Or.inl ⟨payloadStorable_nil _,
        ⟨[], world, rfl, rfl, replaced_nil _, fun _ _ ready => ready⟩⟩
  | some artifacts =>
      rw [held] at valid encodes
      rw [taskOf, contextOf]
      exact decides_persistArtifacts [] valid encodes taskStored contextStored

end Run

end Missive.ArtifactVersions
