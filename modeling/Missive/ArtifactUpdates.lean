import Mathlib.Data.List.Induction
import Missive.Artifacts

/-! The artifact that a sequence of `artifactUpdate` events builds up. Between two
events the artifact goes through its stored JSON, so the induction carries the
row, the artifact it decodes to and the events that still count: those since the
last one that replaced the artifact. -/
namespace Missive.ArtifactUpdates

open JsonValue KeyedTable Missive.Core Schema Effects Repository Artifacts

variable (codec : ArtifactCodec)

/-- The events from the last one that does not append, or all of them. -/
def sinceReplaced : List TaskArtifactUpdateEvent → List TaskArtifactUpdateEvent
  | [] => []
  | event :: rest =>
      if rest.all TaskArtifactUpdateEvent.appends then event :: rest else sinceReplaced rest

def lastSupplied {Value : Type} (field : Artifact → Option Value)
    (events : List TaskArtifactUpdateEvent) : Option Value :=
  (events.filterMap fun event => field event.artifact).getLast?

theorem sinceReplaced_append (events : List TaskArtifactUpdateEvent)
    (event : TaskArtifactUpdateEvent) :
    sinceReplaced (events ++ [event]) =
      if event.appends then sinceReplaced events ++ [event] else [event] := by
  induction events with
  | nil => simp [sinceReplaced]
  | cons first rest ih =>
      cases appends : event.appends with
      | true =>
          cases all : rest.all TaskArtifactUpdateEvent.appends with
          | true => simp [sinceReplaced, appends, all]
          | false => simpa [sinceReplaced, appends, all] using ih
      | false => simpa [sinceReplaced, appends] using ih

theorem lastSupplied_append {Value : Type} (field : Artifact → Option Value)
    (events : List TaskArtifactUpdateEvent) (event : TaskArtifactUpdateEvent) :
    lastSupplied field (events ++ [event]) =
      (field event.artifact).or (lastSupplied field events) := by
  unfold lastSupplied
  cases supplied : field event.artifact with
  | none => simp [supplied]
  | some value => simp [supplied]

@[simp] theorem lastSupplied_single {Value : Type} (field : Artifact → Option Value)
    (event : TaskArtifactUpdateEvent) : lastSupplied field [event] = field event.artifact := by
  cases supplied : field event.artifact <;> simp [lastSupplied, supplied]

/-- The updates of one artifact in the order they were accepted, from no stored row;
in between, anything may happen that leaves the row alone. -/
inductive Accepted (task : TaskId) (id : ArtifactId) :
    List TaskArtifactUpdateEvent → World → Prop
  | start (world : World) (absent : world.store.artifacts.find? id = none) :
      Accepted task id [] world
  | update (events : List TaskArtifactUpdateEvent) (event : TaskArtifactUpdateEvent)
      (world after : World) (record : ArtifactRecord) (before : Accepted task id events world)
      (ofTask : event.taskId = task.text) (ofArtifact : event.artifact.artifactId = id.text)
      (ran : persistArtifactUpdate codec event world = (.ok record, after)) :
      Accepted task id (events ++ [event]) after
  | elsewhere (events : List TaskArtifactUpdateEvent) (world after : World)
      (before : Accepted task id events world)
      (kept : after.store.artifacts.find? id = world.store.artifacts.find? id) :
      Accepted task id events after

/-- The row that stands for the events so far. -/
structure Represents (task : TaskId) (id : ArtifactId) (events : List TaskArtifactUpdateEvent)
    (record : ArtifactRecord) (artifact : Artifact) : Prop where
  decoded : artifactFromRecord codec record = .ok artifact
  named : artifact.artifactId = id.text
  owned : record.taskId = task
  parts : artifact.parts = (sinceReplaced events).flatMap fun event => event.artifact.parts
  version : record.version.toNat = events.length
  name : artifact.name = lastSupplied Artifact.name (sinceReplaced events)
  nameColumn : record.name = artifact.name
  description : artifact.description = lastSupplied Artifact.description (sinceReplaced events)
  descriptionEntry : record.metadata.get "a2a.description" = artifact.description.map .string

theorem insertSome_get {metadata after : Metadata} {name : String} {value : Option Json}
    (inserted : insertSome metadata name value = .ok after) (wanted : String) :
    after.get wanted = if wanted = name then value.or (metadata.get wanted) else metadata.get wanted := by
  cases value with
  | none =>
      cases inserted
      simp
  | some value => simpa using Metadata.get_insert inserted wanted

theorem artifactMetadata_description {artifact : Artifact} {metadata : Metadata}
    (made : artifactMetadata artifact = .ok metadata) :
    metadata.get "a2a.description" = artifact.description.map .string := by
  obtain ⟨described, first, rest⟩ := except_bind_returned made
  obtain ⟨extended, second, last⟩ := except_bind_returned rest
  rw [insertSome_get last, insertSome_get second, insertSome_get first]
  have empty : Metadata.new.get "a2a.description" = none := rfl
  simp [empty]

theorem updateMetadata_description {update : TaskArtifactUpdateEvent} {before after : Metadata}
    (made : updateMetadata update before = .ok after) :
    after.get "a2a.description" = before.get "a2a.description" := by
  obtain ⟨marked, first, rest⟩ := except_bind_returned made
  obtain ⟨chunked, second, last⟩ := except_bind_returned rest
  rw [insertSome_get last, insertSome_get second, Metadata.get_insert first]
  simp

theorem decoded_of_encoded (roundTrips : codec.RoundTrips) {artifact : Artifact}
    {record : ArtifactRecord}
    (encoded : ∃ value, codec.toValue artifact = some value ∧ record.contentJson = some value) :
    artifactFromRecord codec record = .ok artifact := by
  obtain ⟨value, made, content⟩ := encoded
  unfold artifactFromRecord
  simp only [content, roundTrips artifact value made]

-- The columns an accepted update fills, once the artifact and the version are known.
theorem represents_of_stored (roundTrips : codec.RoundTrips) {task : TaskId} {id : ArtifactId}
    {events : List TaskArtifactUpdateEvent} {update : TaskArtifactUpdateEvent} {world after : World}
    {record : ArtifactRecord} {own : ArtifactId} {artifact : Artifact}
    (stored : UpdateStored codec update world after record own artifact)
    (ofTask : update.taskId = task.text) (named : artifact.artifactId = id.text)
    (parts : artifact.parts = (sinceReplaced events).flatMap fun event => event.artifact.parts)
    (version : record.version.toNat = events.length)
    (name : artifact.name = lastSupplied Artifact.name (sinceReplaced events))
    (description : artifact.description = lastSupplied Artifact.description (sinceReplaced events)) :
    Represents codec task id events record artifact := by
  refine ⟨decoded_of_encoded codec roundTrips stored.encoded, named, ?_, parts, version, name,
    stored.titled, description, ?_⟩
  · exact Id.ext_text (stored.owned.trans ofTask)
  · obtain ⟨plain, made, marked⟩ := stored.described
    rw [updateMetadata_description marked, artifactMetadata_description made]

theorem find?_stored {update : TaskArtifactUpdateEvent} {world after : World}
    {record : ArtifactRecord} {own id : ArtifactId} {artifact : Artifact}
    (stored : UpdateStored codec update world after record own artifact)
    (named : artifact.artifactId = id.text) : after.store.artifacts.find? id = some record := by
  have keyed : key record = id := Id.ext_text (stored.target.trans named)
  have self := world.store.artifacts.find?_put_self record
  rw [keyed] at self
  rw [stored.written]
  exact self

-- A replacing event, and the first event of all, stand for themselves.
theorem replaced_represents (roundTrips : codec.RoundTrips) {task : TaskId} {id : ArtifactId}
    {events : List TaskArtifactUpdateEvent} {event : TaskArtifactUpdateEvent} {world after : World}
    {record : ArtifactRecord} (stored : UpdateStored codec event world after record id event.artifact)
    (ofTask : event.taskId = task.text) (since : sinceReplaced events = [event])
    (version : record.version.toNat = events.length) :
    Represents codec task id events record event.artifact := by
  apply represents_of_stored codec roundTrips stored ofTask stored.named.symm
  · simp [since]
  · exact version
  · simp [since]
  · simp [since]

theorem extended_represents (roundTrips : codec.RoundTrips) {task : TaskId} {id : ArtifactId}
    {events : List TaskArtifactUpdateEvent} {event : TaskArtifactUpdateEvent} {world after : World}
    {record previous : ArtifactRecord} {base : Artifact}
    (before : Represents codec task id events previous base)
    (stored : UpdateStored codec event world after record id (extendArtifact base event.artifact))
    (ofTask : event.taskId = task.text) (appends : event.appends = true)
    (version : record.version.toNat = (events ++ [event]).length) :
    Represents codec task id (events ++ [event]) record (extendArtifact base event.artifact) := by
  have since : sinceReplaced (events ++ [event]) = sinceReplaced events ++ [event] := by
    rw [sinceReplaced_append, if_pos appends]
  apply represents_of_stored codec roundTrips stored ofTask
  · exact before.named
  · rw [since, List.flatMap_append, ← before.parts]
    simp [extendArtifact]
  · exact version
  · rw [since, lastSupplied_append, ← before.name]
    rfl
  · rw [since, lastSupplied_append, ← before.description]
    rfl

-- The version counts on as long as SQLite can store it.
theorem version_counts {events : List TaskArtifactUpdateEvent} {event : TaskArtifactUpdateEvent}
    {world after : World} {record previous : ArtifactRecord} {id : ArtifactId} {artifact : Artifact}
    (stored : UpdateStored codec event world after record id artifact)
    (found : world.store.artifacts.find? id = some previous)
    (count : previous.version.toNat = events.length) :
    record.version.toNat = (events ++ [event]).length := by
  have versioned := stored.versioned
  have storable := stored.storable
  rw [found] at versioned
  have next : nextVersion (some previous) = saturatingSucc previous.version := rfl
  rw [next] at versioned
  by_cases small : previous.version.toNat + 1 < 2 ^ 64
  · have succ := saturatingSucc_toNat previous.version small
    have positive : 1 ≤ (saturatingSucc previous.version).toNat := by omega
    rw [versioned, max_one _ positive, succ, count, List.length_append]
    rfl
  · have stuck : saturatingSucc previous.version = previous.version := by
      rw [saturatingSucc, if_neg small]
    have large : 1 ≤ previous.version.toNat := by omega
    rw [versioned, stuck, max_one _ large] at storable
    omega

theorem step_represents (roundTrips : codec.RoundTrips) {task : TaskId} {id : ArtifactId}
    {events : List TaskArtifactUpdateEvent} {event : TaskArtifactUpdateEvent} {world after : World}
    {record previous : ArtifactRecord} {base artifact : Artifact}
    (before : Represents codec task id events previous base)
    (found : world.store.artifacts.find? id = some previous)
    (stored : UpdateStored codec event world after record id artifact)
    (ofTask : event.taskId = task.text) :
    Represents codec task id (events ++ [event]) record artifact := by
  have version := version_counts codec stored found before.version
  have updated := stored.updated
  rw [found, updatedArtifact] at updated
  cases appends : event.appends with
  | true =>
      rw [if_pos appends] at updated
      obtain ⟨decoded, shown, same⟩ := except_bind_returned updated
      rw [before.decoded] at shown
      cases shown
      cases same
      exact extended_represents codec roundTrips before stored ofTask appends version
  | false =>
      rw [appends] at updated
      cases updated
      apply replaced_represents codec roundTrips stored ofTask _ version
      rw [sinceReplaced_append, appends]
      rfl

theorem accepted_represents (roundTrips : codec.RoundTrips) {task : TaskId} {id : ArtifactId}
    {events : List TaskArtifactUpdateEvent} {world : World}
    (accepted : Accepted codec task id events world) :
    (events = [] ∧ world.store.artifacts.find? id = none) ∨
      ∃ record artifact, world.store.artifacts.find? id = some record ∧
        Represents codec task id events record artifact := by
  induction accepted with
  | start world absent => exact Or.inl ⟨rfl, absent⟩
  | elsewhere events world after before kept ih =>
      rw [kept]
      exact ih
  | update events event world after record before ofTask ofArtifact ran ih =>
      obtain ⟨own, artifact, stored⟩ := persistArtifactUpdate_stored codec ran
      have same : own = id := Id.ext_text (stored.named.trans ofArtifact)
      subst same
      rcases ih with ⟨rfl, absent⟩ | ⟨previous, base, found, represents⟩
      · have updated := stored.updated
        have versioned := stored.versioned
        rw [absent] at updated versioned
        rw [updatedArtifact_none] at updated
        cases updated
        have whole := replaced_represents codec roundTrips stored ofTask
          (show sinceReplaced [event] = [event] from rfl) (by rw [versioned]; rfl)
        exact Or.inr ⟨record, _, find?_stored codec stored whole.named, whole⟩
      · have whole := step_represents codec roundTrips represents found stored ofTask
        exact Or.inr ⟨record, artifact, find?_stored codec stored whole.named, whole⟩

/-- The incremental artifact law: the row under the id decodes to the parts of the
events since the last replacement, in order, counts every accepted event as a version,
and has the name and the description supplied last. -/
theorem accepted_updates_accumulate (roundTrips : codec.RoundTrips) (task : TaskId)
    (id : ArtifactId) (events : List TaskArtifactUpdateEvent) (world : World)
    (accepted : Accepted codec task id events world) (nonempty : events ≠ []) :
    ∃ record artifact, world.store.artifacts.find? id = some record ∧
      record.taskId = task ∧ record.version.toNat = events.length ∧
      artifactFromRecord codec record = .ok artifact ∧
      artifact.parts = (sinceReplaced events).flatMap (fun event => event.artifact.parts) ∧
      artifact.name = lastSupplied Artifact.name (sinceReplaced events) ∧
      record.name = artifact.name ∧
      artifact.description = lastSupplied Artifact.description (sinceReplaced events) ∧
      record.metadata.get "a2a.description" = artifact.description.map .string := by
  rcases accepted_represents codec roundTrips accepted with ⟨none_, _⟩ | ⟨record, artifact, found, holds⟩
  · exact absurd none_ nonempty
  · exact ⟨record, artifact, found, holds.owned, holds.version, holds.decoded, holds.parts,
      holds.name, holds.nameColumn, holds.description, holds.descriptionEntry⟩

def answer : ArtifactId := ⟨"answer", by decide⟩

def firstChunk : TaskArtifactUpdateEvent :=
  textUpdate firstTask "answer" (some "answer.txt") "hello " false

def secondChunk : TaskArtifactUpdateEvent := textUpdate firstTask "answer" none "world" true

def oneChunkWorld : World := (persistArtifactUpdate textCodec firstChunk seededWorld).2

def twoChunkWorld : World := (persistArtifactUpdate textCodec secondChunk oneChunkWorld).2

theorem two_chunks_accumulate :
    ∃ record artifact, twoChunkWorld.store.artifacts.find? answer = some record ∧
      record.version.toNat = 2 ∧ artifactFromRecord textCodec record = .ok artifact ∧
      artifact.parts = firstChunk.artifact.parts ++ secondChunk.artifact.parts ∧
      artifact.name = some "answer.txt" := by
  have first : Accepted textCodec firstTask answer [firstChunk] oneChunkWorld :=
    .update [] firstChunk seededWorld oneChunkWorld _ (.start seededWorld rfl) rfl rfl rfl
  have both : Accepted textCodec firstTask answer [firstChunk, secondChunk] twoChunkWorld :=
    .update [firstChunk] secondChunk oneChunkWorld twoChunkWorld _ first rfl rfl rfl
  obtain ⟨record, artifact, found, _, version, decoded, parts, name, _⟩ :=
    accepted_updates_accumulate textCodec textCodec_roundTrips firstTask answer
      [firstChunk, secondChunk] twoChunkWorld both (by simp)
  exact ⟨record, artifact, found, version, decoded, parts, name⟩

end Missive.ArtifactUpdates
