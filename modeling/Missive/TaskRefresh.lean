import Missive.ArtifactVersions

/-! Refreshing a task again. `task` and `barrier` persist what the agent reports each
time they ask. A report that was persisted before finds its context and its task as
it left them and appends no event; only the versions of the artifacts count on. -/
namespace Missive.TaskRefresh

open JsonValue KeyedTable Missive.Core Schema Effects Repository Artifacts BackgroundJobs Protocol
open TaskPersistence TaskReports TaskIsolation Frames Totality ArtifactVersions

/-! The commands that refresh. -/

inductive Route where
  | task
  | barrier

def Route.persist (codec : Codec) (route : Route) (agent : AgentRecord) (task : RemoteTask)
    (parameters : ServiceParameters) : Action TaskRecord :=
  match route with
  | .task => Refresh.persistRemoteTask codec agent task parameters
  | .barrier => Refresh.persistBarrierRemoteTask codec agent task parameters

def Route.detail : Route → String
  | .task => "encoding A2A task for local persistence"
  | .barrier => "encoding A2A task for barrier persistence"

def Route.observed : Route → List (String × Json)
  | .task => []
  | .barrier => [("observed_by", .string "barrier")]

section Refresh

variable {codec : Codec} {agent : AgentRecord} {task : RemoteTask} {parameters : ServiceParameters}

theorem Route.persist_eq (route : Route) :
    route.persist codec agent task parameters = transaction (Refresh.refreshTask codec route.detail
      route.observed agent task parameters) := by
  cases route <;> rfl

/-! What a refresh leaves. -/

theorem persistArtifacts_encoded {taskId : TaskId} {contextId : ContextId} {artifacts : List Artifact}
    {start stored : List ArtifactRecord} {world after : World}
    (ran : Effect.fold (persistTaskArtifact codec.toArtifactCodec taskId contextId) start artifacts
      world = (.ok stored, after)) :
    ∀ artifact ∈ artifacts, IdKind.artifactId.reason artifact.artifactId = none ∧
      (codec.toValue artifact).isSome = true := by
  induction artifacts generalizing start world with
  | nil => exact nofun
  | cons artifact rest ih =>
      obtain ⟨next, middle, first, others⟩ := Effect.bind_returned ran
      intro wanted member
      rcases List.mem_cons.mp member with rfl | later
      · obtain ⟨id, named, wrote⟩ := Effect.lift_bind_returned first
        obtain ⟨record, _, written, _⟩ := Effect.bind_returned wrote
        obtain ⟨existing, _, _, built⟩ := Effect.bind_returned written
        obtain ⟨upsert, known, _⟩ := Effect.lift_bind_returned built
        obtain ⟨_, _, encoded⟩ := except_bind_returned known
        obtain ⟨value, held, _⟩ := except_bind_returned encoded
        constructor
        · rw [← Id.text_of_new named]
          exact id.valid
        · unfold encodeArtifact at held
          split at held
          · rename_i shown
            rw [shown]
            rfl
          · contradiction
      · exact ih others wanted later

theorem persistTaskArtifacts_encoded {plain : Task} {stored : List ArtifactRecord}
    {world after : World}
    (ran : persistTaskArtifacts codec.toArtifactCodec plain world = (.ok stored, after)) :
    ∀ artifact ∈ payload plain, IdKind.artifactId.reason artifact.artifactId = none ∧
      (codec.toValue artifact).isSome = true := by
  unfold persistTaskArtifacts at ran
  unfold payload
  cases held : plain.artifacts with
  | none => exact nofun
  | some artifacts =>
      rw [held] at ran
      obtain ⟨taskId, _, rest⟩ := Effect.lift_bind_returned ran
      obtain ⟨contextId, _, folded⟩ := Effect.lift_bind_returned rest
      exact persistArtifacts_encoded folded

-- What the report says, once its ids are checked and its columns are built.
structure Readable (codec : Codec) (agent : AgentRecord) (task : RemoteTask)
    (parameters : ServiceParameters) (taskId : TaskId) (contextId : ContextId) (value : Json)
    (upsert : TaskUpsert) : Prop where
  taskOf : Id.new .taskId task.id = .ok taskId
  contextOf : Id.new .contextId task.contextId = .ok contextId
  encoded : codec.taskToValue task = some value
  built : Refresh.refreshedUpsert agent task taskId contextId value parameters = .ok upsert
  artifactIds : ∀ artifact ∈ payload task.toTask, IdKind.artifactId.reason artifact.artifactId = none
  artifacts : ∀ artifact ∈ payload task.toTask, (codec.toValue artifact).isSome = true

-- A row that an upsert wrote, whenever that was.
def WrittenBy (upsert : TaskUpsert) (row : TaskRecord) : Prop :=
  ∃ completedAt time existing,
    row = TaskUpsert.toRecord { upsert with completedAt := completedAt } time existing ∧
    (completionOf upsert.state none).Fits (completedAt.map MissiveTimestamp.toRfc3339)

/-- The rows that a refresh wrote. -/
structure Refreshed (codec : Codec) (agent : AgentRecord) (task : RemoteTask) (taskId : TaskId)
    (contextId : ContextId) (upsert : TaskUpsert) (store : Store) : Prop where
  agentStored : store.hasAgent (some agent.aliasName) = true
  contextStored : store.hasContext (some contextId) = true
  row : ∃ row, store.tasks.find? taskId = some row ∧ WrittenBy upsert row
  artifacts : ∀ id artifact, lastNamed id (payload task.toTask) = some artifact →
    ∃ value metadata version created updated, codec.toValue artifact = some value ∧
      artifactMetadata artifact = .ok metadata ∧ store.artifacts.find? id =
        some (artifactRow taskId contextId artifact id value metadata version created updated)

variable {taskId : TaskId} {contextId : ContextId} {value : Json} {upsert : TaskUpsert}

theorem refreshedUpsert_returned
    (built : Refresh.refreshedUpsert agent task taskId contextId value parameters = .ok upsert) :
    upsert.taskId = taskId ∧ upsert.agentAlias = agent.aliasName ∧
      upsert.contextId = some contextId ∧ upsert.state = storeTaskState task.status.state ∧
      upsert.remoteTaskJson = some value := by
  obtain ⟨messageId, _, recorded⟩ := except_bind_returned built
  cases taskVersion_returned recorded
  exact ⟨rfl, rfl, rfl, rfl, rfl⟩

theorem upsertTask_linked {input : TaskUpsert} {row : TaskRecord} {world after : World}
    (ran : upsertTask input world = (.ok row, after)) :
    world.store.hasAgent (some input.agentAlias) = true ∧
      world.store.hasContext input.contextId = true := by
  rcases upsertRow_cases tasksTable (.ok ()) "upserting task" "task" input.taskId.text input.taskId
      (fun store => refuseUnless
        (store.hasAgent (some input.agentAlias) && store.hasContext input.contextId) foreignKeyFailed)
      input.toRecord (fun _ _ => rfl) world with ⟨error, left, failed, _⟩ | ⟨_, accepted, _⟩
  · cases failed.symm.trans ran
  · unfold refuseUnless at accepted
    split at accepted
    · rename_i linked
      exact (Bool.and_eq_true _ _).mp linked
    · cases accepted

theorem refresh_leaves {detail : String} {observed : List (String × Json)} {record : TaskRecord}
    {world after : World}
    (ran : Refresh.refreshTask codec detail observed agent task parameters world =
      (.ok record, after)) :
    ∃ taskId contextId value upsert, Readable codec agent task parameters taskId contextId value upsert ∧
      Refreshed codec agent task taskId contextId upsert after.store := by
  obtain ⟨taskId, taskOf, rest⟩ := Effect.lift_bind_returned ran
  obtain ⟨contextId, contextOf, rest⟩ := Effect.lift_bind_returned rest
  obtain ⟨_, first, ensured, rest⟩ := Effect.bind_returned rest
  obtain ⟨value, encoded, rest⟩ := Effect.lift_bind_returned rest
  obtain ⟨existing, second, read, rest⟩ := Effect.bind_returned rest
  cases read
  obtain ⟨upsert, built, rest⟩ := Effect.lift_bind_returned rest
  obtain ⟨completedAt, third, stamped, rest⟩ := Effect.bind_returned rest
  obtain ⟨row, fourth, wrote, rest⟩ := Effect.bind_returned rest
  obtain ⟨records, fifth, stored, rest⟩ := Effect.bind_returned rest
  obtain ⟨_, sixth, noted, done⟩ := Effect.bind_returned rest
  cases done
  have valid := persistTaskArtifacts_encoded stored
  have readable : Readable codec agent task parameters taskId contextId value upsert :=
    ⟨taskOf, contextOf, encode_returned encoded, built, fun artifact member => (valid artifact member).1,
      fun artifact member => (valid artifact member).2⟩
  refine ⟨taskId, contextId, value, upsert, readable, ?_⟩
  obtain ⟨own, owner, within, _, _⟩ := refreshedUpsert_returned built
  obtain ⟨_, fits⟩ := completedAtFor_returned stamped
  obtain ⟨agentThird, contextThird⟩ := upsertTask_linked wrote
  obtain ⟨shown, moved⟩ := upsertTask_returned wrote
  change third.store.hasAgent (some upsert.agentAlias) = true at agentThird
  change third.store.hasContext upsert.contextId = true at contextThird
  rw [owner] at agentThird
  rw [within] at contextThird
  have keyed : record.taskId = taskId := by
    rw [shown]
    exact own
  have found : fourth.store.tasks.find? taskId = some record := by
    rw [moved, ← keyed]
    exact third.store.tasks.find?_put_self record
  have taskFourth : fourth.store.hasTask (some taskId) = true := by
    simp [Store.hasTask, found]
  have contextFourth : fourth.store.hasContext (some contextId) = true := by
    rw [moved]
    exact contextThird
  have agentFourth : fourth.store.hasAgent (some agent.aliasName) = true := by
    rw [moved]
    exact agentThird
  obtain ⟨_, elsewhere, replaced, _⟩ := Effect.decides_returned (decides_persistTaskArtifacts taskOf
    contextOf readable.artifactIds readable.artifacts taskFourth contextFourth) stored
  -- the event touches none of the rows
  have kept := (keeps_appendWhenChanged
    (show IgnoresEvents fun store => (store.agents, store.contexts, store.tasks, store.artifacts) from
      fun _ _ _ => rfl) _ _ _ _).returned noted
  obtain ⟨agents, contexts, tasks, artifacts⟩ : _ ∧ _ ∧ _ ∧ _ := by
    simpa only [Prod.mk.injEq] using kept
  constructor
  · rw [Store.hasAgent, agents, elsewhere]
    exact agentFourth
  · rw [Store.hasContext, contexts, elsewhere]
    exact contextFourth
  · refine ⟨record, ?_, completedAt, _, _, shown, fits⟩
    rw [tasks, elsewhere]
    exact found
  · intro id artifact last
    obtain ⟨value, metadata, version, created, updated, encoded, described, found, _⟩ :=
      replaced.stored id artifact last
    exact ⟨value, metadata, version, created, updated, encoded, described, artifacts ▸ found⟩

/-! The same report again. -/

-- The completion time of a finished task is not compared.
structure SameTask (before after : TaskRecord) : Prop where
  columns : after = { before with updatedAt := after.updatedAt, completedAt := after.completedAt }
  unfinished : isTerminalTaskState before.state = false → after.completedAt = before.completedAt

structure CountedOn (times : Nat) (before after : ArtifactRecord) : Prop where
  columns : after = { before with version := after.version, updatedAt := after.updatedAt }
  version : after.version.toNat = before.version.toNat + times

/-- What the second of two refreshes with one report changes. -/
structure Repeated (task : RemoteTask) (once twice : Store) : Prop where
  elsewhere : twice = { once with tasks := twice.tasks, artifacts := twice.artifacts }
  tasks : ∀ id, Option.Rel SameTask (once.tasks.find? id) (twice.tasks.find? id)
  artifacts : ∀ id, Option.Rel (CountedOn (occurrences (payload task.toTask) id))
    (once.artifacts.find? id) (twice.artifacts.find? id)

theorem sameTask_refl (row : TaskRecord) : SameTask row row := ⟨rfl, fun _ => rfl⟩

theorem option_rel_refl {Row : Type} {relation : Row → Row → Prop} (refl : ∀ row, relation row row)
    (found : Option Row) : Option.Rel relation found found := by
  cases found with
  | none => exact .none
  | some row => exact .some (refl row)

theorem sameTask_written {before after : TaskRecord} (first : WrittenBy upsert before)
    (second : WrittenBy upsert after) (born : after.createdAt = before.createdAt) :
    SameTask before after := by
  obtain ⟨completedBefore, timeBefore, existingBefore, rfl, fitsBefore⟩ := first
  obtain ⟨completedAfter, timeAfter, existingAfter, rfl, fitsAfter⟩ := second
  constructor
  · rw [TaskUpsert.toRecord, TaskUpsert.toRecord, TaskRecord.mk.injEq]
    exact ⟨rfl, rfl, rfl, rfl, rfl, rfl, rfl, rfl, rfl, born, rfl, rfl⟩
  · intro unfinished
    change isTerminalTaskState upsert.state = false at unfinished
    rw [completionOf, unfinished] at fitsBefore fitsAfter
    exact Eq.trans fitsAfter fitsBefore.symm

theorem tasks_repeated {once : Store} {row again : TaskRecord}
    (found : once.tasks.find? taskId = some row) (keyed : again.taskId = taskId)
    (same : SameTask row again) (id : TaskId) :
    Option.Rel SameTask (once.tasks.find? id) ((once.tasks.put again).find? id) := by
  rw [Table.find?_put]
  change key again = taskId at keyed
  by_cases here : id = taskId
  · rw [keyed, if_pos here, here, found]
    exact .some same
  · rw [keyed, if_neg here]
    exact option_rel_refl sameTask_refl _

theorem artifacts_repeated {before after : Table ArtifactRecord}
    (stored : ∀ id artifact, lastNamed id (payload task.toTask) = some artifact →
      ∃ value metadata version created updated, codec.toValue artifact = some value ∧
        artifactMetadata artifact = .ok metadata ∧ before.find? id =
          some (artifactRow taskId contextId artifact id value metadata version created updated))
    (replaced : Replaced codec.toArtifactCodec taskId contextId (payload task.toTask) before after)
    (id : ArtifactId) :
    Option.Rel (CountedOn (occurrences (payload task.toTask) id)) (before.find? id)
      (after.find? id) := by
  cases last : lastNamed id (payload task.toTask) with
  | none =>
      rw [replaced.kept id last, (lastNamed_none_iff id _).mp last]
      exact option_rel_refl (fun _ => ⟨rfl, rfl⟩) _
  | some artifact =>
      obtain ⟨value, metadata, version, created, updated, encoded, described, found⟩ :=
        stored id artifact last
      obtain ⟨value', metadata', version', created', updated', encoded', described', found', counts,
        born⟩ := replaced.stored id artifact last
      cases encoded.symm.trans encoded'
      cases described.symm.trans described'
      cases born _ found
      rw [storedVersion, found] at counts
      rw [found, found']
      exact .some ⟨rfl, counts⟩

theorem changed_again {row : TaskRecord}
    (built : Refresh.refreshedUpsert agent task taskId contextId value parameters = .ok upsert)
    (written : WrittenBy upsert row) :
    Refresh.changed (some row) (storeTaskState task.status.state) value = false := by
  obtain ⟨_, _, _, state, json⟩ := refreshedUpsert_returned built
  obtain ⟨completedAt, time, existing, rfl, _⟩ := written
  simp [Refresh.changed, TaskUpsert.toRecord, state, json]

theorem ensureContext_found {world : World} (stored : world.store.hasContext (some contextId) = true) :
    ensureContext agent contextId world = (.ok (), world) := by
  obtain ⟨row, found⟩ := Option.isSome_iff_exists.mp
    (show (world.store.contexts.find? contextId).isSome = true from stored)
  have read : getContext contextId world = (.ok (some row), world) := by
    rw [← found]
    rfl
  exact Effect.bind_ok _ _ _ _ _ read

theorem completedAtFor_runs (state : TaskState) (otherwise : Option MissiveTimestamp) (world : World) :
    Effect.Succeeds (completedAtFor state otherwise) world fun completedAt after =>
      after.store = world.store ∧ (completionOf state (otherwise.map MissiveTimestamp.toRfc3339)).Fits
        (completedAt.map MissiveTimestamp.toRfc3339) := by
  cases ran : completedAtFor state otherwise world with
  | mk outcome after =>
      cases outcome with
      | ok completedAt => exact ⟨completedAt, after, ran, completedAtFor_returned ran⟩
      | error error =>
          unfold completedAtFor at ran
          split at ran
          · cases ran
          · cases ran

theorem upsertTask_runs (input : TaskUpsert) {world : World}
    (agentStored : world.store.hasAgent (some input.agentAlias) = true)
    (contextStored : world.store.hasContext input.contextId = true) :
    Effect.Succeeds (upsertTask input) world fun row after =>
      row = input.toRecord (world.clock world.drawn).toMillis (world.store.tasks.find? input.taskId) ∧
        after.store = { world.store with tasks := world.store.tasks.put row } := by
  refine ⟨_, _, upsertRow_accepted tasksTable (.ok ()) _ _ _ input.taskId _ input.toRecord
    (fun _ _ => rfl) rfl world ?_, rfl, rfl⟩
  simp [agentStored, contextStored, refuseUnless]

/-- A report that was persisted is persisted again exactly when its artifacts can count on. -/
theorem decides_refreshAgain {detail : String} {observed : List (String × Json)} {world : World}
    (readable : Readable codec agent task parameters taskId contextId value upsert)
    (refreshed : Refreshed codec agent task taskId contextId upsert world.store) :
    Effect.Decides (Refresh.refreshTask codec detail observed agent task parameters) world
      (PayloadStorable (payload task.toTask) world.store.artifacts) fun _ after =>
        Repeated task world.store after.store := by
  obtain ⟨own, owner, within, _, _⟩ := refreshedUpsert_returned readable.built
  obtain ⟨row, found, written⟩ := refreshed.row
  apply Effect.lift_decides_bind readable.taskOf
  apply Effect.lift_decides_bind readable.contextOf
  apply Effect.succeeds_decides_bind
  refine ⟨(), world, ensureContext_found refreshed.contextStored, ?_⟩
  apply Effect.lift_decides_bind (show encode (codec.taskToValue task) detail = .ok value by
    rw [readable.encoded]; rfl)
  apply Effect.succeeds_decides_bind
  refine ⟨some row, world, by rw [← found]; rfl, ?_⟩
  apply Effect.lift_decides_bind readable.built
  rw [changed_again readable.built written]
  apply Effect.succeeds_decides_bind
  apply Effect.succeeds_mono (completedAtFor_runs upsert.state none world)
  rintro completedAt stamped ⟨same, fits⟩
  apply Effect.succeeds_decides_bind
  have agentStored : stamped.store.hasAgent (some upsert.agentAlias) = true := by
    rw [same, owner]
    exact refreshed.agentStored
  have contextStored : stamped.store.hasContext upsert.contextId = true := by
    rw [same, within]
    exact refreshed.contextStored
  apply Effect.succeeds_mono
    (upsertTask_runs { upsert with completedAt := completedAt } agentStored contextStored)
  rintro record wrote ⟨shown, put⟩
  rw [same] at shown put
  have keyed : record.taskId = taskId := by
    rw [shown]
    exact own
  have taskWrote : wrote.store.hasTask (some taskId) = true := by
    rw [put, ← keyed]
    exact congrArg Option.isSome (world.store.tasks.find?_put_self record)
  have contextWrote : wrote.store.hasContext (some contextId) = true := by
    rw [put]
    exact refreshed.contextStored
  have table : wrote.store.artifacts = world.store.artifacts := by rw [put]
  rw [← table]
  apply Effect.decides_succeeds_bind
  apply Effect.decides_mono (decides_persistTaskArtifacts readable.taskOf readable.contextOf
    readable.artifactIds readable.artifacts taskWrote contextWrote)
  rintro records last ⟨elsewhere, replaced, _⟩
  refine ⟨record, last, rfl, ?_, ?_, ?_⟩
  · rw [elsewhere, put]
  · have again : SameTask row record := by
      refine sameTask_written written ⟨completedAt, _, _, shown, fits⟩ ?_
      rw [shown]
      show (world.store.tasks.find? upsert.taskId).elim _ _ = _
      rw [own, found]
      rfl
    intro id
    rw [elsewhere, put]
    exact tasks_repeated found keyed again id
  · rw [table] at replaced
    exact artifacts_repeated refreshed.artifacts replaced

/-- A refresh that fails changes nothing. After one that succeeded, the same report leaves the tasks,
the contexts and the journal as they are and counts the versions of its artifacts on, where they can
be counted on; where not, it changes nothing. -/
theorem refresh_repeated (codec : Codec) (agent : AgentRecord) (task : RemoteTask)
    (parameters : ServiceParameters) (first second : Route) (world : World) :
    (∀ error once, first.persist codec agent task parameters world = (.error error, once) →
      once.store = world.store) ∧
    ∀ record once again, first.persist codec agent task parameters world = (.ok record, once) →
      again.store = once.store →
      (PayloadStorable (payload task.toTask) once.store.artifacts ∧
        ∃ record twice, second.persist codec agent task parameters again = (.ok record, twice) ∧
          Repeated task once.store twice.store) ∨
      (¬ PayloadStorable (payload task.toTask) once.store.artifacts ∧
        ∃ error twice, second.persist codec agent task parameters again = (.error error, twice) ∧
          twice.store = once.store) := by
  rw [first.persist_eq, second.persist_eq]
  constructor
  · intro error once failed
    exact Frames.transaction_failed failed
  · intro record once again ran same
    obtain ⟨taskId, contextId, value, upsert, readable, refreshed⟩ :=
      refresh_leaves (Frames.transaction_returned ran)
    rw [← same] at refreshed ⊢
    have decides : Effect.Decides (transaction (Refresh.refreshTask codec second.detail second.observed
        agent task parameters)) again _ _ :=
      Effect.decides_transaction (decides_refreshAgain readable refreshed)
    rcases decides with ⟨storable, record, twice, returned, repeated⟩ | ⟨stuck, error, twice, failed⟩
    · exact Or.inl ⟨storable, record, twice, returned, repeated⟩
    · exact Or.inr ⟨stuck, error, twice, failed, Frames.transaction_failed failed⟩

end Refresh

/-! A task with an artifact that two commands ask for. -/

def askingWorld : World := (upsertAgent (.new echoAgent "http://127.0.0.1") countingWorld).2

theorem answer_valid : IdKind.artifactId.reason "artifact-1" = none := by decide

def answerId : ArtifactId := ⟨"artifact-1", answer_valid⟩

def answeringTask : RemoteTask :=
  { plainTask firstTask .working with
    artifacts := some [⟨answerId.text, some "report", none, [], none, none⟩] }

def askedOnce : World :=
  (Route.task.persist plainCodec echoRecord answeringTask plainParameters askingWorld).2

def askedTwice : World :=
  (Route.barrier.persist plainCodec echoRecord answeringTask plainParameters askedOnce).2

theorem answering_task_repeated :
    (Route.task.persist plainCodec echoRecord answeringTask plainParameters askingWorld).1.isOk = true ∧
      Repeated answeringTask askedOnce.store askedTwice.store := by
  have began : (Route.task.persist plainCodec echoRecord answeringTask plainParameters
      askingWorld).1.isOk = true := by decide
  have ended : (Route.barrier.persist plainCodec echoRecord answeringTask plainParameters
      askedOnce).1.isOk = true := by decide
  refine ⟨began, ?_⟩
  cases shown : Route.task.persist plainCodec echoRecord answeringTask plainParameters askingWorld with
  | mk outcome once =>
      cases outcome with
      | error error =>
          rw [shown] at began
          cases began
      | ok record =>
          have same : askedOnce = once := congrArg Prod.snd shown
          rcases (refresh_repeated plainCodec echoRecord answeringTask plainParameters .task .barrier
            askingWorld).2 record once askedOnce shown (congrArg World.store same) with
            ⟨_, record', twice, returned, repeated⟩ | ⟨_, error, twice, failed, _⟩
          · rw [same, show askedTwice = twice from congrArg Prod.snd returned]
            exact repeated
          · rw [failed] at ended
            cases ended

theorem answer_version_counts_on :
    (Route.task.persist plainCodec echoRecord answeringTask plainParameters askingWorld).1.isOk = true ∧
    (Route.barrier.persist plainCodec echoRecord answeringTask plainParameters askedOnce).1.isOk = true ∧
    (askedOnce.store.artifacts.find? answerId).map ArtifactRecord.version = some 1 ∧
    (askedTwice.store.artifacts.find? answerId).map ArtifactRecord.version = some 2 :=
  ⟨by decide, by decide, by decide, by decide⟩

end Missive.TaskRefresh
