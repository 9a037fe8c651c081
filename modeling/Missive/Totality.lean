import Missive.TaskIsolation

/-! When the repository accepts what is written to it. A write can fail for the
references it makes and for the ids it generates; generated ids are UUIDs, so the
next few of them are well formed, distinct and new to the store. The rules below
say how many draws an action needs and what it leaves for the next one. -/
namespace Missive.Totality

open JsonValue KeyedTable Missive.Core Schema Effects Repository Artifacts BackgroundJobs Protocol
open TaskPersistence GatewayPersistence TaskReports TaskIsolation

/-! Generated ids. -/

-- What `Uuid::new_v4` prints.
structure GeneratedId (text : String) : Prop where
  passes : opaqueReason text = none
  characters : text.toList.length = 36
  bytes : text.utf8ByteSize = 36

instance (text : String) : Decidable (GeneratedId text) :=
  decidable_of_iff (opaqueReason text = none ∧ text.toList.length = 36 ∧ text.utf8ByteSize = 36)
    ⟨fun ⟨passes, characters, bytes⟩ => ⟨passes, characters, bytes⟩,
      fun generated => ⟨generated.passes, generated.characters, generated.bytes⟩⟩

-- A start that leaves room for a generated id.
def plainStart (start : String) : Bool :=
  start.utf8ByteSize ≤ 220 && !start.toList.any RustText.isWhitespace &&
    !start.toList.any RustText.isControl

theorem opaque_iff (value : String) :
    opaqueReason value = none ↔ value.isEmpty = false ∧ value.utf8ByteSize ≤ 256 ∧
      value.toList.any RustText.isWhitespace = false ∧ value.toList.any RustText.isControl = false := by
  unfold opaqueReason
  split
  · simp_all
  · split
    · simp_all
    · split
      · simp_all
      · split
        · simp_all
        · simp_all

theorem opaque_appended {start text : String} (plain : plainStart start = true)
    (generated : GeneratedId text) : opaqueReason (start ++ text) = none := by
  simp only [plainStart, Bool.and_eq_true, decide_eq_true_eq, Bool.not_eq_true'] at plain
  obtain ⟨⟨short, solid⟩, printed⟩ := plain
  obtain ⟨_, _, spaced, controlled⟩ := (opaque_iff text).mp generated.passes
  have bytes := generated.bytes
  refine (opaque_iff (start ++ text)).mpr ⟨?_, ?_, ?_, ?_⟩
  · have long : (start ++ text).utf8ByteSize ≠ 0 := by
      rw [String.utf8ByteSize_append]
      omega
    simpa [String.isEmpty_iff_utf8ByteSize_eq_zero] using long
  · rw [String.utf8ByteSize_append]
    omega
  · rw [String.toList_append, List.any_append, solid, spaced, Bool.false_or]
  · rw [String.toList_append, List.any_append, printed, controlled, Bool.false_or]

theorem Id.new_valid {kind : IdKind} {value : String} (passes : kind.reason value = none) :
    Id.new kind value = .ok ⟨value, passes⟩ := Id.new_text ⟨value, passes⟩

/-- The next draws are ids that nothing was written with and that are not reserved. -/
structure Ready (reserved : List String) (budget : Nat) (world : World) : Prop where
  generated : ∀ n < budget, GeneratedId (world.messageIds (world.drawn + n))
  distinct : ∀ n < budget, ∀ m < n,
    world.messageIds (world.drawn + m) ≠ world.messageIds (world.drawn + n)
  message : ∀ n < budget, ∀ row ∈ world.store.messages.rows,
    row.messageId.text ≠ world.messageIds (world.drawn + n)
  event : ∀ n < budget, ∀ row ∈ world.store.events.rows, ∀ start,
    row.eventId.text ≠ start ++ world.messageIds (world.drawn + n)
  unreserved : ∀ n < budget, ∀ text ∈ reserved, text ≠ world.messageIds (world.drawn + n)

/-- An id that was drawn and is not used yet. -/
structure Drawn (reserved : List String) (budget : Nat) (text : String) (world : World) : Prop where
  ready : Ready reserved budget world
  generated : GeneratedId text
  apart : ∀ n < budget, text ≠ world.messageIds (world.drawn + n)
  message : ∀ row ∈ world.store.messages.rows, row.messageId.text ≠ text
  event : ∀ row ∈ world.store.events.rows, ∀ start, row.eventId.text ≠ start ++ text

section Budget

variable {reserved : List String} {budget : Nat} {world : World} {text : String}

theorem Ready.mono {smaller : Nat} (ready : Ready reserved budget world) (less : smaller ≤ budget) :
    Ready reserved smaller world :=
  ⟨fun n below => ready.generated n (by omega), fun n below => ready.distinct n (by omega),
    fun n below => ready.message n (by omega), fun n below => ready.event n (by omega),
    fun n below => ready.unreserved n (by omega)⟩

theorem later_draw (world : World) (n : Nat) :
    world.later.messageIds (world.later.drawn + n) = world.messageIds (world.drawn + (n + 1)) := by
  show world.messageIds (world.drawn + 1 + n) = _
  rw [Nat.add_assoc, Nat.add_comm 1 n]

theorem Ready.later (ready : Ready reserved (budget + 1) world) : Ready reserved budget world.later := by
  constructor
  · intro n below
    rw [later_draw]
    exact ready.generated (n + 1) (by omega)
  · intro n below m less
    rw [later_draw, later_draw]
    exact ready.distinct (n + 1) (by omega) (m + 1) (by omega)
  · intro n below
    rw [later_draw]
    exact ready.message (n + 1) (by omega)
  · intro n below
    rw [later_draw]
    exact ready.event (n + 1) (by omega)
  · intro n below
    rw [later_draw]
    exact ready.unreserved (n + 1) (by omega)

theorem Drawn.later (drawn : Drawn reserved (budget + 1) text world) : Drawn reserved budget text world.later := by
  refine ⟨drawn.ready.later, drawn.generated, ?_, drawn.message, drawn.event⟩
  intro n below
  rw [later_draw]
  exact drawn.apart (n + 1) (by omega)

theorem Ready.withStore {store : Store} (ready : Ready reserved budget world)
    (messages : store.messages = world.store.messages) (events : store.events = world.store.events) :
    Ready reserved budget (world.withStore store) := by
  refine ⟨ready.generated, ready.distinct, ?_, ?_, ready.unreserved⟩
  · intro n below row member
    rw [World.withStore_store, messages] at member
    exact ready.message n below row member
  · intro n below row member
    rw [World.withStore_store, events] at member
    exact ready.event n below row member

-- Ids that came from elsewhere, or were drawn before, can be reserved.
theorem Ready.reserve {more : List String} (ready : Ready reserved budget world)
    (inside : ∀ text ∈ more, text ∈ reserved) : Ready more budget world :=
  ⟨ready.generated, ready.distinct, ready.message, ready.event,
    fun n below text member => ready.unreserved n below text (inside text member)⟩

theorem Drawn.reserve (drawn : Drawn reserved budget text world) :
    Ready (text :: reserved) budget world := by
  refine ⟨drawn.ready.generated, drawn.ready.distinct, drawn.ready.message, drawn.ready.event, ?_⟩
  intro n below other member
  rcases List.mem_cons.mp member with rfl | old
  · exact drawn.apart n below
  · exact drawn.ready.unreserved n below other old

-- A generated id ends no text that another generated id ends.
theorem Drawn.ends_apart (drawn : Drawn reserved budget text world) {n : Nat} (below : n < budget)
    (first last : String) : first ++ text ≠ last ++ world.messageIds (world.drawn + n) := by
  intro same
  have lists := congrArg String.toList same
  rw [String.toList_append, String.toList_append] at lists
  have lengths : text.toList.length = (world.messageIds (world.drawn + n)).toList.length := by
    rw [drawn.generated.characters, (drawn.ready.generated n below).characters]
  exact drawn.apart n below (String.toList_inj.mp (List.append_inj_right' lists lengths))

end Budget

/-! Metadata. Every key of the source is a constant that passes the check. -/

theorem insert_returns (metadata : Metadata) (name : String) (value : Json)
    (passes : metadataKeyReason name = none) : ∃ after, metadata.insert name value = .ok after :=
  ⟨_, Metadata.insert_valid metadata name value passes⟩

theorem insertSome_returns (metadata : Metadata) (name : String) (value : Option Json)
    (passes : metadataKeyReason name = none) : ∃ after, insertSome metadata name value = .ok after := by
  cases value with
  | none => exact ⟨metadata, rfl⟩
  | some value => exact insert_returns metadata name value passes

theorem insertUnless_returns (empty : Bool) (metadata : Metadata) (name : String) (value : Json)
    (passes : metadataKeyReason name = none) :
    ∃ after, insertUnless empty metadata name value = .ok after := by
  unfold insertUnless
  split
  · exact ⟨metadata, rfl⟩
  · exact insert_returns metadata name value passes

theorem toMetadata_returns (parameters : ServiceParameters) :
    ∃ metadata, parameters.toMetadata = .ok metadata := by
  obtain ⟨versioned, first⟩ := insert_returns .new "a2a.protocol_version"
    (.string parameters.protocolVersion) protocolVersionKey_valid
  obtain ⟨extended, second⟩ := insertUnless_returns parameters.extensions.isEmpty versioned
    "a2a.extensions" (.array (parameters.extensions.map .string)) (by decide)
  obtain ⟨metadata, last⟩ := insertUnless_returns parameters.extra.isEmpty extended
    "a2a.service_parameters"
    (.object (parameters.extra.map fun entry => (entry.1, .string entry.2))) (by decide)
  refine ⟨metadata, ?_⟩
  unfold ServiceParameters.toMetadata insertStr
  rw [first]
  simp only [Bind.bind, Except.bind]
  rw [second]
  exact last

/-! Identifiers that arrive. -/

def Valid (kind : IdKind) (value : Option String) : Prop :=
  ∀ text, value = some text → kind.reason text = none

def namedContext : StreamResponse → Option String
  | .task task => some task.contextId
  | .message message => message.contextId
  | .statusUpdate update => some update.contextId
  | .artifactUpdate update => some update.contextId

def statusMessage : StreamResponse → Option Message
  | .task task => task.status.message
  | .statusUpdate update => update.status.message
  | .message _ | .artifactUpdate _ => none

structure ValidEvent (event : StreamResponse) : Prop where
  task : Valid .taskId (namedTask event)
  context : Valid .contextId (namedContext event)
  status : Valid .messageId ((statusMessage event).map Message.messageId)

theorem new_valid {kind : IdKind} {text : String} (valid : Valid kind (some text)) :
    ∃ id, Id.new kind text = .ok id :=
  ⟨_, Id.new_valid (valid text rfl)⟩

theorem parseOptional_valid {kind : IdKind} {value : Option String} (valid : Valid kind value) :
    ∃ id, parseOptional kind value = .ok id := by
  cases value with
  | none => exact ⟨none, rfl⟩
  | some text =>
      obtain ⟨id, made⟩ := new_valid valid
      exact ⟨some id, by rw [parseOptional, made]; rfl⟩

theorem requiredIds_valid {taskId contextId : String} (task : Valid .taskId (some taskId))
    (context : Valid .contextId (some contextId)) : ∃ ids, requiredIds taskId contextId = .ok ids := by
  obtain ⟨task, taskOf⟩ := new_valid task
  obtain ⟨context, contextOf⟩ := new_valid context
  exact ⟨⟨some task, some context⟩, by rw [requiredIds, taskOf, contextOf]; rfl⟩

theorem eventIds_valid {event : StreamResponse} (valid : ValidEvent event) :
    ∃ ids, eventIds event = .ok ids := by
  cases event with
  | message message =>
      obtain ⟨task, taskOf⟩ := parseOptional_valid valid.task
      obtain ⟨context, contextOf⟩ := parseOptional_valid valid.context
      refine ⟨⟨task, context⟩, ?_⟩
      change parseOptional .taskId message.taskId = _ at taskOf
      change parseOptional .contextId message.contextId = _ at contextOf
      rw [eventIds, taskOf, contextOf]
      rfl
  | task task => exact requiredIds_valid valid.task valid.context
  | statusUpdate update => exact requiredIds_valid valid.task valid.context
  | artifactUpdate update => exact requiredIds_valid valid.task valid.context

/-! Tasks that arrive whole. -/

def heldRemoteTask : SendMessageResponse → Option RemoteTask
  | .task task => some task
  | .message _ => none

def streamedRemoteTask : StreamResponse → Option RemoteTask
  | .task task => some task
  | .message _ | .statusUpdate _ | .artifactUpdate _ => none

def Encodes (codec : Codec) (task : Option RemoteTask) : Prop :=
  ∀ task', task = some task' → (codec.taskToValue task').isSome = true

/-! References. -/

/-- Agents and jobs are as before, and no context or task went away. -/
structure Extends (before after : Store) : Prop where
  agents : after.agents = before.agents
  jobs : after.gatewayJobs = before.gatewayJobs
  contexts : ∀ id, before.hasContext id = true → after.hasContext id = true
  tasks : ∀ id, before.hasTask id = true → after.hasTask id = true

theorem Extends.refl (store : Store) : Extends store store :=
  ⟨rfl, rfl, fun _ => id, fun _ => id⟩

theorem Extends.trans {first middle last : Store} (before : Extends first middle)
    (after : Extends middle last) : Extends first last :=
  ⟨after.agents.trans before.agents, after.jobs.trans before.jobs,
    fun id known => after.contexts id (before.contexts id known),
    fun id known => after.tasks id (before.tasks id known)⟩

section References

variable {before after : Store}

theorem Extends.hasAgent (extends_ : Extends before after) {name : Option AgentAlias}
    (known : before.hasAgent name = true) : after.hasAgent name = true := by
  rwa [Store.hasAgent, extends_.agents]

theorem Extends.hasGatewayJob (extends_ : Extends before after) {id : Option GatewayJobId}
    (known : before.hasGatewayJob id = true) : after.hasGatewayJob id = true := by
  rwa [Store.hasGatewayJob, extends_.jobs]

end References

theorem put_isSome {Row Key : Type} [Keyed Row Key] [LinearOrder Key] (table : Table Row) (row : Row)
    {wanted : Key} (known : (table.find? wanted).isSome = true) :
    ((table.put row).find? wanted).isSome = true := by
  rw [table.find?_put]
  split
  · rfl
  · exact known

theorem hasContext_put (store : Store) (row : ContextRecord) (id : Option ContextId)
    (known : store.hasContext id = true) :
    ({ store with contexts := store.contexts.put row } : Store).hasContext id = true := by
  cases id with
  | none => rfl
  | some id => exact put_isSome store.contexts row known

theorem hasTask_put (store : Store) (row : TaskRecord) (id : Option TaskId)
    (known : store.hasTask id = true) :
    ({ store with tasks := store.tasks.put row } : Store).hasTask id = true := by
  cases id with
  | none => rfl
  | some id => exact put_isSome store.tasks row known

/-- What a successful action leaves for the next one. -/
structure Advanced (reserved : List String) (budget : Nat) (before after : World) : Prop where
  ready : Ready reserved budget after
  extends_ : Extends before.store after.store

theorem Advanced.trans {reserved : List String} {budget more : Nat} {first middle last : World}
    (before : Advanced reserved more first middle) (after : Advanced reserved budget middle last) :
    Advanced reserved budget first last :=
  ⟨after.ready, before.extends_.trans after.extends_⟩

section Rules

variable {reserved : List String} {budget : Nat} {world : World} {agent : AgentRecord}

theorem succeeds_read {Found Result : Type} {query : Store → Found} {found : Found}
    {next : Found → Action Result} {meets : Result → World → Prop} (read : query world.store = found)
    (rest : Effect.Succeeds (next found) world meets) :
    Effect.Succeeds (readStore query >>= next) world meets :=
  Effect.succeeds_bind ⟨found, world, by rw [readStore, read], rest⟩

theorem succeeds_newMessageId (ready : Ready reserved (budget + 1) world) :
    Effect.Succeeds newMessageId world fun text after =>
      Drawn reserved budget text after ∧ after.store = world.store := by
  refine ⟨_, world.later, rfl, ⟨ready.later, ready.generated 0 (by omega), ?_, ?_, ?_⟩, rfl⟩
  · intro n below
    rw [later_draw]
    exact ready.distinct (n + 1) (by omega) 0 (by omega)
  · exact ready.message 0 (by omega)
  · exact ready.event 0 (by omega)

theorem succeeds_completedAtFor (state : TaskState) (otherwise : Option MissiveTimestamp)
    (ready : Ready reserved (budget + 1) world) :
    Effect.Succeeds (completedAtFor state otherwise) world fun _ after =>
      Ready reserved budget after ∧ after.store = world.store := by
  unfold completedAtFor
  split
  · exact ⟨_, world.later, rfl, ready.later, rfl⟩
  · exact ⟨_, world, rfl, ready.mono (by omega), rfl⟩

theorem succeeds_upsertContext {input : ContextUpsert} (ready : Ready reserved (budget + 1) world)
    (root : input.parentContextId = none)
    (agentStored : world.store.hasAgent input.agentAlias = true) :
    Effect.Succeeds (upsertContext input) world fun _ after =>
      Advanced reserved budget world after ∧ after.store.hasContext (some input.contextId) = true := by
  refine ⟨_, _, upsertRow_accepted contextsTable (.ok ()) _ _ _ input.contextId _ input.toRecord
    (fun _ _ => rfl) rfl world ?_, ⟨ready.later.withStore rfl rfl, rfl, rfl, ?_, fun _ => id⟩, ?_⟩
  · simp [root, agentStored, Store.hasContext, refuseUnless]
  · exact hasContext_put world.store _
  · exact congrArg Option.isSome (world.store.contexts.find?_put_self
      (contextsTable.written input.contextId input.toRecord world))

theorem succeeds_upsertTask (input : TaskUpsert) (ready : Ready reserved (budget + 1) world)
    (agentStored : world.store.hasAgent (some input.agentAlias) = true)
    (contextStored : world.store.hasContext input.contextId = true) :
    Effect.Succeeds (upsertTask input) world fun _ after =>
      Advanced reserved budget world after ∧ after.store.hasTask (some input.taskId) = true := by
  refine ⟨_, _, upsertRow_accepted tasksTable (.ok ()) _ _ _ input.taskId _ input.toRecord
    (fun _ _ => rfl) rfl world ?_, ⟨ready.later.withStore rfl rfl, rfl, rfl, fun _ => id, ?_⟩, ?_⟩
  · simp [agentStored, contextStored, refuseUnless]
  · exact hasTask_put world.store _
  · exact congrArg Option.isSome (world.store.tasks.find?_put_self
      (tasksTable.written input.taskId input.toRecord world))

theorem succeeds_ensureContext (contextId : ContextId) (ready : Ready reserved (budget + 1) world)
    (agentStored : world.store.hasAgent (some agent.aliasName) = true) :
    Effect.Succeeds (ensureContext agent contextId) world fun _ after =>
      Advanced reserved budget world after ∧ after.store.hasContext (some contextId) = true := by
  unfold ensureContext
  cases known : world.store.contexts.find? contextId with
  | some row =>
      refine succeeds_read known ⟨(), world, rfl, ⟨ready.mono (by omega), Extends.refl _⟩, ?_⟩
      simp [Store.hasContext, known]
  | none =>
      apply succeeds_read known
      apply Effect.succeeds_bind
      apply Effect.succeeds_mono (succeeds_upsertContext ready rfl agentStored)
      intro _ after met
      exact Effect.succeeds_pure met

theorem succeeds_ensureOptionalContext (contextId : Option ContextId)
    (ready : Ready reserved (budget + 1) world)
    (agentStored : world.store.hasAgent (some agent.aliasName) = true) :
    Effect.Succeeds (ensureOptionalContext agent contextId) world fun _ after =>
      Advanced reserved budget world after ∧ after.store.hasContext contextId = true := by
  cases contextId with
  | some contextId => exact succeeds_ensureContext contextId ready agentStored
  | none => exact ⟨(), world, rfl, ⟨ready.mono (by omega), Extends.refl world.store⟩, rfl⟩

/-! Messages. -/

theorem succeeds_newLocalMessageId (ready : Ready reserved (budget + 1) world) :
    Effect.Succeeds newLocalMessageId world fun id after =>
      Drawn reserved budget id.text after ∧ id.text ∉ reserved ∧ after.store = world.store := by
  apply Effect.succeeds_bind
  apply Effect.succeeds_mono (Effect.succeeds_ran (succeeds_newMessageId ready))
  rintro text after ⟨⟨drawn, same⟩, ran⟩
  have passes : IdKind.messageId.reason text = none := drawn.generated.passes
  refine Effect.succeeds_lift (Id.new_valid passes) ⟨drawn, ?_, same⟩
  cases ran
  exact fun inside => ready.unreserved 0 (by omega) _ inside rfl

/-- A message is inserted exactly when its id is new. -/
theorem decides_insertMessage (input : MessageInsert) (ready : Ready reserved (budget + 1) world)
    (checked : input.check = .ok ()) (agentStored : world.store.hasAgent input.agentAlias = true)
    (contextStored : world.store.hasContext input.contextId = true)
    (taskStored : world.store.hasTask input.taskId = true)
    (known : input.messageId.text ∈ reserved) :
    Effect.Decides (insertMessage input) world (world.store.messages.find? input.messageId = none)
      fun row after => Advanced reserved budget world after ∧ row.messageId = input.messageId ∧
        after.store.messages = world.store.messages.put row := by
  have refused : input.refused world.store =
      if (world.store.messages.find? input.messageId).isSome then
        some "UNIQUE constraint failed: messages.message_id" else none := by
    simp [MessageInsert.refused, refuseUnless, agentStored, contextStored, taskStored]
  cases stored : world.store.messages.find? input.messageId with
  | some row =>
      rw [stored] at refused
      exact Or.inr ⟨nofun, _, _, upsertRow_refused messagesTable input.check _ _ _ input.messageId
        input.refused input.toRecord checked _ world refused⟩
  | none =>
      rw [stored] at refused
      have wrote : insertMessage input world = _ := upsertRow_accepted messagesTable input.check _ _ _
        input.messageId input.refused input.toRecord (fun _ _ => rfl) checked world refused
      refine Or.inl ⟨rfl, _, _, wrote, ⟨?_, rfl, rfl, fun _ => id, fun _ => id⟩, rfl, rfl⟩
      have later := ready.later
      refine ⟨later.generated, later.distinct, ?_, later.event, later.unreserved⟩
      intro n below row member
      rcases (world.store.messages.mem_put _ row).mp member with rfl | ⟨old, _⟩
      · exact later.unreserved n below _ known
      · exact later.message n below row old

/-! Events. -/

theorem validateLen_valid (label value : String) {maxBytes : Nat}
    (fits : (!value.isEmpty && value.utf8ByteSize ≤ maxBytes) = true) :
    validateLen label value maxBytes = .ok () := by
  simp only [Bool.and_eq_true, Bool.not_eq_true', decide_eq_true_eq] at fits
  obtain ⟨filled, short⟩ := fits
  unfold validateLen validateNonEmpty
  rw [filled, if_neg (by decide)]
  exact if_neg (by omega)

theorem event_checked {event : EventInsert}
    (source : (!event.source.isEmpty && event.source.utf8ByteSize ≤ 128) = true)
    (eventType : (!event.eventType.isEmpty && event.eventType.utf8ByteSize ≤ 128) = true) :
    event.check = .ok () := by
  unfold EventInsert.check
  rw [validateLen_valid _ _ source]
  exact validateLen_valid _ _ eventType

-- Every event id is a constant text that ends in a generated id.
theorem succeeds_eventId {start : String} {make : String → Except MissiveError EventId}
    (plain : plainStart start = true) (shape : ∀ text, make text = Id.new .eventId (start ++ text))
    (ready : Ready reserved (budget + 1) world) :
    Effect.Succeeds (newMessageId >>= fun text => Effect.lift (make text)) world fun id after =>
      (∃ text, Drawn reserved budget text after ∧ id.text = start ++ text) ∧ after.store = world.store := by
  apply Effect.succeeds_bind
  apply Effect.succeeds_mono (succeeds_newMessageId ready)
  rintro text after ⟨drawn, same⟩
  have passes : IdKind.eventId.reason (start ++ text) = none := opaque_appended plain drawn.generated
  exact Effect.succeeds_lift ((shape text).trans (Id.new_valid passes)) ⟨⟨text, drawn, rfl⟩, same⟩

theorem recordProtocolVersion_valid (metadata : Metadata) {version : String}
    (valid : opaqueReason version = none) :
    BackgroundJobs.recordProtocolVersion metadata version = .ok (versioned metadata version) := by
  unfold BackgroundJobs.recordProtocolVersion validateStoreIdentifier
  rw [valid]
  exact Metadata.insert_valid metadata _ _ protocolVersionKey_valid

theorem taskVersion_valid (input : TaskUpsert) {version : String}
    (valid : opaqueReason version = none) :
    TaskUpsert.recordProtocolVersion input version = .ok { input with
      protocolVersion := some version, metadata := versioned input.metadata version } := by
  unfold TaskUpsert.recordProtocolVersion
  rw [recordProtocolVersion_valid input.metadata valid]
  rfl

-- What an event refers to is there, apart from its task; no event names an adapter.
structure Referable (event : EventInsert) (store : Store) : Prop where
  agent : store.hasAgent event.agentAlias = true
  context : store.hasContext event.contextId = true
  job : store.hasGatewayJob event.gatewayJobId = true
  group : store.hasGroup event.groupName = true
  binding : event.adapterBindingId = none

theorem event_refused {event : EventInsert} {text start : String}
    (drawn : Drawn reserved budget text world) (named : event.eventId.text = start ++ text)
    (referable : Referable event world.store) :
    event.refused world.store = refuseUnless (world.store.hasTask event.taskId) foreignKeyFailed := by
  have fresh : (world.store.events.rows.any fun row => row.eventId = event.eventId) = false := by
    rw [List.any_eq_false]
    intro row member same
    have texts := congrArg Id.text (of_decide_eq_true same)
    exact drawn.event row member start (texts.trans named)
  simp [EventInsert.refused, fresh, referable.agent, referable.context, referable.job,
    referable.group, referable.binding, Store.hasAdapterBinding]

/-- An event is appended exactly when the task it refers to is stored. -/
theorem decides_appendEvent (event : EventInsert) {text start : String}
    (drawn : Drawn reserved (budget + 1) text world) (named : event.eventId.text = start ++ text)
    (checked : event.check = .ok ()) (referable : Referable event world.store) :
    Effect.Decides (appendEvent event) world (world.store.hasTask event.taskId = true)
      fun _ after => Advanced reserved budget world after := by
  have refused := event_refused drawn named referable
  have drew : sqlNow world = (.ok (world.clock world.drawn).toMillis, world.later) := rfl
  have opened : appendEvent event world = _ :=
    (Effect.bind_ok _ _ _ _ _ (by rw [checked]; rfl)).trans (Effect.bind_ok _ _ _ _ _ drew)
  cases stored : world.store.hasTask event.taskId with
  | false =>
      rw [stored] at refused
      refine Or.inr ⟨Bool.false_ne_true, storageError "appending event" foreignKeyFailed, world.later, ?_⟩
      rw [opened]
      apply Effect.bind_error
      simp [execute, refused, refuseUnless]
  | true =>
      rw [stored] at refused
      refine Or.inl ⟨rfl, ?_⟩
      rcases appendEvent_cases event world with ⟨error, after, failed, _⟩ | ⟨_, appended⟩
      · rw [opened] at failed
        simp [execute, refused, refuseUnless, Effect.bind_run, readBack, readStore,
          findEvent_withEvent world.store event _ refused] at failed
      · refine ⟨_, _, appended, ⟨?_, rfl, rfl, fun _ => id, fun _ => id⟩⟩
        have later := drawn.later
        refine ⟨later.ready.generated, later.ready.distinct, later.ready.message, ?_,
          later.ready.unreserved⟩
        intro n below row member
        rcases (world.store.events.mem_put _ row).mp member with rfl | ⟨old, _⟩
        · intro last
          show event.eventId.text ≠ _
          rw [named]
          exact later.ends_apart below start last
        · exact later.ready.event n below row old

theorem decides_appendVersioned {event : EventInsert} {version text start : String}
    (drawn : Drawn reserved (budget + 1) text world) (valid : opaqueReason version = none)
    (named : event.eventId.text = start ++ text) (checked : event.check = .ok ())
    (referable : Referable event world.store) :
    Effect.Decides (appendVersioned event version) world (world.store.hasTask event.taskId = true)
      fun _ after => Advanced reserved budget world after := by
  apply Effect.lift_decides_bind (recordProtocolVersion_valid event.metadata valid)
  exact decides_appendEvent { event with metadata := versioned event.metadata version } drawn named
    checked ⟨referable.agent, referable.context, referable.job, referable.group, referable.binding⟩

theorem cliSource_short : (!"cli".isEmpty && "cli".utf8ByteSize ≤ 128) = true := by decide

-- The events of the command line, whatever columns they fill in.
theorem succeeds_appendCliEvent {eventType version : String} {payload : Json}
    {fill : EventInsert → EventInsert} (plain : plainStart ("evt/" ++ eventType ++ "/") = true)
    (short : (!eventType.isEmpty && eventType.utf8ByteSize ≤ 128) = true)
    (valid : opaqueReason version = none) (ready : Ready reserved (budget + 2) world)
    (named : ∀ event, (fill event).eventId = event.eventId)
    (sourced : ∀ event, (fill event).source = event.source)
    (typed : ∀ event, (fill event).eventType = event.eventType)
    (referable : ∀ id json, Referable (fill (.new id "cli" eventType json)) world.store)
    (taskStored : ∀ id json,
      world.store.hasTask (fill (.new id "cli" eventType json)).taskId = true) :
    Effect.Succeeds (newCliEvent eventType payload >>= fun event =>
        appendVersioned (fill event) version >>= fun _ => pure ()) world
      fun _ after => Advanced reserved budget world after := by
  have shape (text : String) : Id.new .eventId s!"evt/{eventType}/{text}" =
      Id.new .eventId ("evt/" ++ eventType ++ "/" ++ text) := rfl
  apply Effect.succeeds_bind
  apply Effect.succeeds_bind
  apply Effect.succeeds_mono (succeeds_eventId plain shape ready)
  rintro id middle ⟨⟨text, drawn, ends⟩, same⟩
  apply Effect.succeeds_pure
  apply Effect.succeeds_bind
  rw [← same] at referable taskStored
  have idOf := congrArg Id.text (named (.new id "cli" eventType (JsonRedaction.outputRedactJson payload)))
  have checked : (fill (.new id "cli" eventType
      (JsonRedaction.outputRedactJson payload))).check = .ok () := by
    apply event_checked
    · rw [sourced]
      exact cliSource_short
    · rw [typed]
      exact short
  have decides := decides_appendVersioned drawn valid (idOf.trans ends) checked (referable id _)
  apply Effect.succeeds_mono (decides.returns_iff.mpr (taskStored id _))
  intro row after advanced
  exact Effect.succeeds_pure ⟨advanced.ready, same ▸ advanced.extends_⟩

end Rules

/-! Generated ids that count the draws. -/

theorem digit_codes {c : Char} (digit : c.isDigit = true) : 48 ≤ c.toNat ∧ c.toNat ≤ 57 := by
  simpa [Char.isDigit, UInt32.le_iff_toNat_le] using digit

theorem digits_bytes {text : List Char} (digits : ∀ c ∈ text, c.isDigit = true) :
    (String.ofList text).utf8ByteSize = text.length := by
  induction text with
  | nil => rfl
  | cons c rest ih =>
      have one : c.utf8Size = 1 := by
        have codes := digit_codes (digits c List.mem_cons_self)
        have small : c.val ≤ 0x7f := by
          rw [UInt32.le_iff_toNat_le]
          exact codes.2.trans (by decide)
        simp [Char.utf8Size, small]
      have split : String.ofList (c :: rest) = String.singleton c ++ String.ofList rest := by
        rw [String.singleton_eq_ofList, ← String.ofList_append]
        rfl
      rw [split, String.utf8ByteSize_append, ih fun d member => digits d (List.mem_cons_of_mem _ member),
        String.utf8ByteSize_singleton, one, List.length_cons, Nat.add_comm]

theorem zeroPadded_value {width n : Nat} :
    Nat.ofDigitChars 10 (zeroPadded width n).toList 0 = n := by
  simp [zeroPadded, Nat.ofDigitChars_append]

theorem zeroPadded_digits {width n : Nat} : ∀ c ∈ (zeroPadded width n).toList, c.isDigit = true := by
  intro c member
  rw [zeroPadded, String.toList_ofList] at member
  rcases List.mem_append.mp member with zero | digit
  · rw [List.eq_of_mem_replicate zero]
    rfl
  · exact Nat.isDigit_of_mem_toDigits (by decide) (by decide) digit

theorem zeroPadded_length {width n : Nat} (positive : 0 < width) (small : n < 10 ^ width) :
    (zeroPadded width n).toList.length = width := by
  have short := (Nat.length_toDigits_le_iff (by decide) positive).mpr small
  rw [zeroPadded, String.toList_ofList, List.length_append, List.length_replicate]
  omega

theorem zeroPadded_generated {n : Nat} (small : n < 10 ^ 36) : GeneratedId (zeroPadded 36 n) := by
  have long := zeroPadded_length (by decide) small
  have bytes : (zeroPadded 36 n).utf8ByteSize = 36 := by
    have digits : ∀ c ∈ (zeroPadded 36 n).toList, c.isDigit = true := zeroPadded_digits
    have counted := digits_bytes digits
    rwa [String.ofList_toList, long] at counted
  refine ⟨(opaque_iff _).mpr ⟨?_, ?_, ?_, ?_⟩, long, bytes⟩
  · have filled : (zeroPadded 36 n).utf8ByteSize ≠ 0 := by omega
    simpa [String.isEmpty_iff_utf8ByteSize_eq_zero] using filled
  · omega
  · rw [List.any_eq_false]
    intro c member
    have codes := digit_codes (zeroPadded_digits c member)
    simp [RustText.isWhitespace]
    omega
  · rw [List.any_eq_false]
    intro c member
    have codes := digit_codes (zeroPadded_digits c member)
    simp [RustText.isControl]
    omega

def countingWorld : World := ⟨Store.empty, fun _ => ⟨0⟩, zeroPadded 36, 0⟩

-- Nothing was written yet, and what is reserved was not generated.
theorem ready_counting {reserved : List String} {budget : Nat} {world : World}
    (counting : world.messageIds = zeroPadded 36) (small : world.drawn + budget ≤ 10 ^ 36)
    (messages : world.store.messages.rows = []) (events : world.store.events.rows = [])
    (unreserved : ∀ text ∈ reserved, text.toList.length ≠ 36) : Ready reserved budget world := by
  have below (n : Nat) (less : n < budget) : world.drawn + n < 10 ^ 36 := by omega
  constructor
  · intro n less
    rw [counting]
    exact zeroPadded_generated (below n less)
  · intro n less m before same
    have values := congrArg (fun text : String => Nat.ofDigitChars 10 text.toList 0) same
    simp only [counting, zeroPadded_value] at values
    omega
  · intro n less row member
    rw [messages] at member
    cases member
  · intro n less row member
    rw [events] at member
    cases member
  · intro n less text member same
    rw [counting] at same
    apply unreserved text member
    rw [same]
    exact zeroPadded_length (by decide) (below n less)

end Missive.Totality
