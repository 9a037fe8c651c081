import Missive.TaskReports

/-! Tasks of other agents. A row is stored under the task id alone, which the
remote agents choose, so an outcome of one agent takes over the row another agent
has under the same id. -/
namespace Missive.TaskIsolation

open JsonValue KeyedTable Missive.Core Schema Effects Repository Artifacts BackgroundJobs Protocol
open TaskReports

def namedTask : StreamResponse → Option String
  | .task task => some task.id
  | .message message => message.taskId
  | .statusUpdate update => some update.taskId
  | .artifactUpdate update => some update.taskId

def heldTask : SendMessageResponse → Option String
  | .task task => some task.id
  | .message _ => none

-- A background job leaves the tasks alone unless the event reports a state.
def reportedTask : StreamResponse → Option String
  | .task task => some task.id
  | .statusUpdate update => some update.taskId
  | .message _ | .artifactUpdate _ => none

/-- The id whose row an operation writes over, where there is one. -/
def rewrites : Operation → Option String
  | .streamRequest _ prepared => prepared.requestedTaskId.map Id.text
  | .streamEvent _ event _ | .subscription _ _ _ _ event => namedTask event.event
  | .send _ _ outcome | .jobSend _ _ _ outcome => heldTask outcome.response
  | .refresh _ task | .barrier _ task => some task.id
  | .jobStream _ _ event => reportedTask event.event
  | .jobWait _ _ outcome => some outcome.task.id

/-- A write that takes over whatever row it finds. -/
def TakesOver (agent : AgentAlias) (target : Option String) (write : TaskWrite) : Prop :=
  target = some write.taskId.text ∧
    ∀ existing, ∃ columns, write.columns existing = some columns ∧ columns.agentAlias = agent

/-- A write that leaves every row it finds. -/
def LeavesAlone (target : Option String) (write : TaskWrite) : Prop :=
  target = none ∧ ∀ row, write.columns (some row) = none

def Described (agent : AgentAlias) (target : Option String) (write : Option TaskWrite) : Prop :=
  match write with
  | none => target = none
  | some write => TakesOver agent target write ∨ LeavesAlone target write

section Described

variable {codec : Codec} {agent : AgentAlias} {version : String} {write : Option TaskWrite}

theorem freshWrite_described {task : RemoteTask} {state : TaskState}
    (parsed : freshWrite codec agent version task state = .ok write) :
    Described agent (some task.id) write := by
  obtain ⟨taskId, taskOf, rest⟩ := except_bind_returned parsed
  obtain ⟨contextId, _, same⟩ := except_bind_returned rest
  cases same
  exact Or.inl ⟨by rw [Id.text_of_new taskOf], fun _ => ⟨_, rfl, rfl⟩⟩

theorem parseOptional_text {kind : IdKind} {value : Option String} {id : Option (Id kind)}
    (parsed : parseOptional kind value = .ok id) : value = id.map Id.text := by
  cases value with
  | none =>
      cases parsed
      rfl
  | some text =>
      obtain ⟨made, known, same⟩ := except_bind_returned parsed
      cases same
      rw [Option.map_some, Id.text_of_new known]

theorem requiredIds_text {taskId contextId : String} {ids : EventIds}
    (parsed : requiredIds taskId contextId = .ok ids) :
    some taskId = ids.taskId.map Id.text ∧ some contextId = ids.contextId.map Id.text := by
  obtain ⟨task, taskOf, rest⟩ := except_bind_returned parsed
  obtain ⟨context, contextOf, same⟩ := except_bind_returned rest
  cases same
  constructor
  · rw [Option.map_some, Id.text_of_new taskOf]
  · rw [Option.map_some, Id.text_of_new contextOf]

theorem eventIds_task {event : StreamResponse} {ids : EventIds} (parsed : eventIds event = .ok ids) :
    namedTask event = ids.taskId.map Id.text := by
  cases event with
  | task task => exact (requiredIds_text parsed).1
  | message message =>
      obtain ⟨task, taskOf, rest⟩ := except_bind_returned parsed
      obtain ⟨context, _, same⟩ := except_bind_returned rest
      cases same
      exact parseOptional_text taskOf
  | statusUpdate update => exact (requiredIds_text parsed).1
  | artifactUpdate update => exact (requiredIds_text parsed).1

theorem described_map {taskId : Option TaskId} {target : Option String}
    {columns : Option TaskRecord → TaskColumns} (named : target = taskId.map Id.text)
    (owned : ∀ existing, (columns existing).agentAlias = agent) :
    Described agent target (taskId.map fun taskId => ⟨taskId, fun existing => some (columns existing)⟩) := by
  cases taskId with
  | none => exact named
  | some taskId => exact Or.inl ⟨named, fun existing => ⟨_, rfl, owned existing⟩⟩

theorem streamWrite_described {event : StreamResponse}
    (parsed : streamWrite codec agent version event = .ok write) :
    Described agent (namedTask event) write := by
  obtain ⟨ids, known, same⟩ := except_bind_returned parsed
  cases same
  apply described_map (eventIds_task known)
  intro existing
  cases event <;> rfl

theorem subscriptionWrite_described {event : StreamResponse}
    (parsed : subscriptionWrite codec agent version event = .ok write) :
    Described agent (namedTask event) write := by
  obtain ⟨ids, known, same⟩ := except_bind_returned parsed
  cases same
  exact described_map (eventIds_task known) fun _ => rfl

theorem sendWrite_described {prepared : PreparedMessage} {response : SendMessageResponse}
    (parsed : sendWrite codec agent version prepared response = .ok write) :
    Described agent (heldTask response) write := by
  cases response with
  | task task => exact freshWrite_described parsed
  | message message =>
      obtain ⟨contextId, _, rest⟩ := except_bind_returned parsed
      obtain ⟨taskId, _, same⟩ := except_bind_returned rest
      cases same
      cases taskId.or prepared.requestedTaskId with
      | none => rfl
      | some taskId => exact Or.inr ⟨rfl, fun _ => rfl⟩

theorem jobSendWrite_described {response : SendMessageResponse}
    (parsed : jobSendWrite codec agent version response = .ok write) :
    Described agent (heldTask response) write := by
  cases response with
  | task task => exact freshWrite_described parsed
  | message message =>
      cases parsed
      rfl

theorem jobStreamWrite_described {event : StreamResponse}
    (parsed : jobStreamWrite codec agent version event = .ok write) :
    Described agent (reportedTask event) write := by
  cases event with
  | task task => exact freshWrite_described parsed
  | statusUpdate update =>
      obtain ⟨taskId, taskOf, rest⟩ := except_bind_returned parsed
      obtain ⟨contextId, _, same⟩ := except_bind_returned rest
      cases same
      exact Or.inl ⟨congrArg some (Id.text_of_new taskOf).symm, fun _ => ⟨_, rfl, rfl⟩⟩
  | message message =>
      cases parsed
      rfl
  | artifactUpdate update =>
      cases parsed
      rfl

end Described

theorem write_described (codec : Codec) (agent : AgentAlias) (operation : Operation)
    {write : Option TaskWrite} (parsed : operation.write codec agent = .ok write) :
    Described agent (rewrites operation) write := by
  cases operation with
  | streamRequest parameters prepared =>
      cases parsed
      exact described_map rfl fun _ => rfl
  | streamEvent parameters event base => exact streamWrite_described parsed
  | send parameters prepared outcome => exact sendWrite_described parsed
  | refresh parameters task => exact freshWrite_described parsed
  | barrier parameters task => exact freshWrite_described parsed
  | jobSend config job request outcome => exact jobSendWrite_described parsed
  | jobStream config job event => exact jobStreamWrite_described parsed
  | jobWait config job outcome => exact freshWrite_described parsed
  | subscription config task job interface event => exact subscriptionWrite_described parsed

/-- The rows of the owner that are stored now are stored unchanged afterwards. -/
def OwnedKept (owner : AgentAlias) (before after : Table TaskRecord) : Prop :=
  ∀ row ∈ before.rows, row.agentAlias = owner → row ∈ after.rows

/-- No row of the owner has the id. -/
def OwnedApart (owner : AgentAlias) (target : Option String) (before : Table TaskRecord) : Prop :=
  ∀ row ∈ before.rows, row.agentAlias = owner → target ≠ some row.taskId.text

section Frame

variable {agent owner : AgentAlias} {target : Option String} {before after : Table TaskRecord}

theorem ownedKept_put {row : TaskRecord}
    (apart : ∀ old ∈ before.rows, old.agentAlias = owner → old.taskId ≠ row.taskId) :
    OwnedKept owner before (before.put row) := by
  intro old member owned
  exact (before.mem_put row old).mpr (Or.inr ⟨member, apart old member owned⟩)

theorem takenOver_iff {write : TaskWrite} (different : agent ≠ owner)
    (takes : TakesOver agent target write) (applied : Applied (some write) before after) :
    OwnedKept owner before after ↔ OwnedApart owner target before := by
  obtain ⟨named, columns⟩ := takes
  obtain ⟨found, shown, owned⟩ := columns (before.find? write.taskId)
  simp only [Applied, shown] at applied
  obtain ⟨row, put, keyed, fits⟩ := applied
  subst put
  constructor
  · intro kept old member own same
    have textual : write.taskId.text = old.taskId.text := Option.some.inj (named.symm.trans same)
    have stored := kept old member own
    have equal : old = row := (before.put row).unique stored
      ((before.mem_put row row).mpr (Or.inl rfl)) ((keyed.trans (Id.ext_text textual)).symm)
    exact different (owned.symm.trans (fits.agentAlias.symm.trans (equal ▸ own)))
  · intro apart
    apply ownedKept_put
    intro old member own same
    apply apart old member own
    rw [named, ← keyed, same]

theorem leftAlone_kept {write : TaskWrite} (leaves : LeavesAlone target write)
    (applied : Applied (some write) before after) : OwnedKept owner before after := by
  obtain ⟨_, alone⟩ := leaves
  cases found : before.find? write.taskId with
  | some row =>
      simp only [Applied, found, alone row] at applied
      intro old member _
      rw [applied]
      exact member
  | none =>
      simp only [Applied, found] at applied
      split at applied
      · intro old member _
        rw [applied]
        exact member
      · obtain ⟨row, put, keyed, _⟩ := applied
        subst put
        apply ownedKept_put
        intro old member _ same
        have stored := before.find?_self old member
        rw [show key old = write.taskId from same.trans keyed, found] at stored
        contradiction

theorem described_iff {write : Option TaskWrite} (different : agent ≠ owner)
    (described : Described agent target write) (applied : Applied write before after) :
    OwnedKept owner before after ↔ OwnedApart owner target before := by
  have untouched (unnamed : target = none) : OwnedApart owner target before := by
    intro row _ _ same
    rw [unnamed] at same
    contradiction
  cases write with
  | none =>
      have same : after = before := applied
      subst same
      exact ⟨fun _ => untouched described, fun _ _ member _ => member⟩
  | some write =>
      rcases described with takes | leaves
      · exact takenOver_iff different takes applied
      · exact ⟨fun _ => untouched leaves.1, fun _ => leftAlone_kept leaves applied⟩

end Frame

/-- The rows of another agent stay as they are exactly when none of them is stored under the
id that the outcome rewrites; an outcome that cannot be persisted changes no row. -/
theorem other_agents_tasks_kept_iff (codec : Codec) (agent : AgentRecord) (owner : AgentAlias)
    (different : agent.aliasName ≠ owner) (operation : Operation) (world : World) :
    (∀ after, operation.run codec agent world = (.ok (), after) →
      (OwnedKept owner world.store.tasks after.store.tasks ↔
        OwnedApart owner (rewrites operation) world.store.tasks)) ∧
    (∀ error after, operation.run codec agent world = (.error error, after) →
      after.store.tasks = world.store.tasks) := by
  constructor
  · intro after ran
    obtain ⟨write, parsed, applied⟩ := run_applied codec agent operation ran
    exact described_iff different (write_described codec agent.aliasName operation parsed) applied
  · intro error after ran
    rw [run_failed codec agent operation ran]

/-! Two agents with one task each; the first of them reports on both ids. -/

theorem rival_valid : IdKind.agentAlias.reason "rival" = none := by decide

def rivalAgent : AgentAlias := ⟨"rival", rival_valid⟩

def seedRivals : Action AgentRecord := do
  let agent ← upsertAgent (.new echoAgent "http://127.0.0.1")
  let _ ← upsertAgent (.new rivalAgent "http://127.0.0.1")
  let _ ← upsertContext (.new sharedContext)
  let _ ← upsertTask (.new firstTask echoAgent .working)
  let _ ← upsertTask (.new secondTask rivalAgent .working)
  pure agent

def blankWorld : World := ⟨Store.empty, fun _ => ⟨0⟩, fun _ => "message", 0⟩

def rivalsWorld : World := (seedRivals blankWorld).2

def echoRecord : AgentRecord :=
  (AgentUpsert.new echoAgent "http://127.0.0.1").toRecord ⟨0⟩ none

def plainParameters : ServiceParameters := ⟨"1.0", [], []⟩

def plainTask (task : TaskId) (state : ProtocolTaskState) : RemoteTask :=
  ⟨⟨task.text, sharedContext.text, none⟩, ⟨state, none, none⟩, none, none⟩

def reportingOwn : Operation := .refresh plainParameters (plainTask firstTask .completed)

theorem rival_task_kept :
    echoRecord.aliasName ≠ rivalAgent ∧
      OwnedKept rivalAgent rivalsWorld.store.tasks
        (reportingOwn.run plainCodec echoRecord rivalsWorld).2.store.tasks := by
  have different : echoRecord.aliasName ≠ rivalAgent := by decide
  have apart : OwnedApart rivalAgent (rewrites reportingOwn) rivalsWorld.store.tasks := by
    unfold OwnedApart
    decide
  have ran : reportingOwn.run plainCodec echoRecord rivalsWorld =
      (.ok (), (reportingOwn.run plainCodec echoRecord rivalsWorld).2) :=
    Prod.ext (by decide) rfl
  refine ⟨different, ?_⟩
  exact ((other_agents_tasks_kept_iff plainCodec echoRecord rivalAgent different reportingOwn
    rivalsWorld).1 _ ran).mpr apart

def takingOver : Operation := .refresh plainParameters (plainTask secondTask .completed)

def takenOverWorld : World := (takingOver.run plainCodec echoRecord rivalsWorld).2

theorem takingOver_ran :
    takingOver.run plainCodec echoRecord rivalsWorld = (.ok (), takenOverWorld) :=
  Prod.ext (by decide) rfl

theorem rival_task_taken_over :
    echoRecord.aliasName ≠ rivalAgent ∧
      takingOver.run plainCodec echoRecord rivalsWorld = (.ok (), takenOverWorld) ∧
      ¬ OwnedKept rivalAgent rivalsWorld.store.tasks takenOverWorld.store.tasks := by
  have owned : (rivalsWorld.store.tasks.find? secondTask).map TaskRecord.agentAlias =
      some rivalAgent := by decide
  have taken : (takenOverWorld.store.tasks.find? secondTask).map TaskRecord.agentAlias =
      some echoAgent := by decide
  refine ⟨by decide, takingOver_ran, ?_⟩
  intro kept
  obtain ⟨row, found, own⟩ := Option.map_eq_some_iff.mp owned
  obtain ⟨member, keyed⟩ := (rivalsWorld.store.tasks.find?_eq_some secondTask row).mp found
  have stored := kept row member own
  rw [(takenOverWorld.store.tasks.find?_eq_some secondTask row).mpr ⟨stored, keyed⟩,
    Option.map_some, own] at taken
  exact absurd taken (by decide)

end Missive.TaskIsolation
