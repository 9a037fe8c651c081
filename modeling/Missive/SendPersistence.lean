import Missive.ArtifactVersions
import Missive.RequestRecording

/-! Recording a foreground `send`. The request and the response are plain inserts
under ids of their own: the one of the request is generated here, the one of the
response is chosen by the remote agent. -/
namespace Missive.SendPersistence

open JsonValue KeyedTable Missive.Core Schema Effects Repository Artifacts BackgroundJobs Protocol
open TaskPersistence TaskReports TaskIsolation Totality ArtifactVersions

/-! What a response carries. -/

def answerMessage : SendMessageResponse → Option Message
  | .message message => some message
  | .task task => task.status.message

def receivedId (response : SendMessageResponse) : Option String :=
  (answerMessage response).map Message.messageId

def answerTask : SendMessageResponse → Option String
  | .message message => message.taskId
  | .task task => some task.id

def answerContext : SendMessageResponse → Option String
  | .message message => message.contextId
  | .task task => some task.contextId

def heldArtifacts : SendMessageResponse → List Artifact
  | .message _ => []
  | .task task => payload task.toTask

structure ValidAnswer (response : SendMessageResponse) : Prop where
  task : Valid .taskId (answerTask response)
  context : Valid .contextId (answerContext response)
  message : Valid .messageId (receivedId response)
  artifacts : ∀ artifact ∈ heldArtifacts response,
    IdKind.artifactId.reason artifact.artifactId = none

structure EncodesExchange (codec : Codec) (request : Message) (response : SendMessageResponse) :
    Prop where
  request : (codec.messageToValue request).isSome = true
  message : ∀ message, answerMessage response = some message →
    (codec.messageToValue message).isSome = true
  task : Encodes codec (heldRemoteTask response)
  artifacts : ∀ artifact ∈ heldArtifacts response, (codec.toValue artifact).isSome = true

section Send

variable {codec : Codec} {agent : AgentRecord} {prepared : PreparedMessage}
  {parameters : ServiceParameters} {reserved : List String} {budget : Nat} {world : World}

/-- The ids a response stands under: its own message id, or one that is drawn for it. -/
structure Identified (response : SendMessageResponse) (reserved : List String) (store : Store)
    (ids : Send.ResponseIds) : Prop where
  context : ids.contextId.map Id.text = answerContext response
  task : ids.taskId.map Id.text = answerTask response
  received : ∀ text, receivedId response = some text → ids.responseMessageId.text = text
  drawn : receivedId response = none → ids.responseMessageId.text ∉ reserved ∧
    ∀ row ∈ store.messages.rows, row.messageId.text ≠ ids.responseMessageId.text

theorem succeeds_responseIds {response : SendMessageResponse} (valid : ValidAnswer response)
    (inside : ∀ text, receivedId response = some text → text ∈ reserved)
    (ready : Ready reserved (budget + 1) world) :
    Effect.Succeeds (Send.responseIds response) world fun ids after =>
      Identified response reserved world.store ids ∧
      Ready (ids.responseMessageId.text :: reserved) budget after ∧ after.store = world.store := by
  -- an id that arrived is reserved already
  have reserve {text : String} (member : text ∈ reserved) : Ready (text :: reserved) budget world := by
    apply (ready.mono (Nat.le_succ budget)).reserve
    intro other among
    rcases List.mem_cons.mp among with rfl | old
    · exact member
    · exact old
  cases response with
  | message message =>
      obtain ⟨contextId, contextOf⟩ := parseOptional_valid valid.context
      obtain ⟨taskId, taskOf⟩ := parseOptional_valid valid.task
      obtain ⟨messageId, messageOf⟩ := new_valid valid.message
      have named := Id.text_of_new messageOf
      apply Effect.succeeds_lift_bind contextOf
      apply Effect.succeeds_lift_bind taskOf
      apply Effect.succeeds_lift_bind messageOf
      refine Effect.succeeds_pure ⟨⟨(parseOptional_text contextOf).symm,
        (parseOptional_text taskOf).symm, ?_, nofun⟩, ?_, rfl⟩
      · intro text same
        cases same
        exact named
      · apply reserve
        rw [named]
        exact inside _ rfl
  | task task =>
      obtain ⟨status, statusOf⟩ := parseOptional_valid valid.message
      obtain ⟨contextId, contextOf⟩ := new_valid valid.context
      obtain ⟨taskId, taskOf⟩ := new_valid valid.task
      have arrived := parseOptional_text statusOf
      apply Effect.succeeds_lift_bind statusOf
      apply Effect.succeeds_lift_bind contextOf
      apply Effect.succeeds_lift_bind taskOf
      have contexts : (some contextId).map Id.text = some task.contextId :=
        congrArg some (Id.text_of_new contextOf)
      have tasks : (some taskId).map Id.text = some task.id := congrArg some (Id.text_of_new taskOf)
      cases status with
      | some messageId =>
          refine Effect.succeeds_pure ⟨⟨contexts, tasks, ?_, ?_⟩, ?_, rfl⟩
          · intro text same
            exact Option.some.inj (arrived.symm.trans same)
          · intro absent
            cases absent.symm.trans arrived
          · exact reserve (inside _ arrived)
      | none =>
          apply Effect.succeeds_bind
          apply Effect.succeeds_mono (succeeds_newLocalMessageId ready)
          rintro messageId middle ⟨drawn, free, same⟩
          refine Effect.succeeds_pure ⟨⟨contexts, tasks, ?_, ?_⟩, drawn.reserve, same⟩
          · intro text known
            cases known.symm.trans arrived
          · refine fun _ => ⟨free, ?_⟩
            rw [← same]
            exact drawn.message

theorem succeeds_kept {Part Result : Type} (part : Store → Part) {action : Action Result}
    {meets : Result → World → Prop} (keeps : Frames.Keeps part action)
    (succeeds : Effect.Succeeds action world meets) :
    Effect.Succeeds action world fun result after =>
      meets result after ∧ part after.store = part world.store := by
  apply Effect.succeeds_mono (Effect.succeeds_ran succeeds)
  rintro result after ⟨met, ran⟩
  exact ⟨met, keeps.returned ran⟩

theorem succeeds_ensureTaskPlaceholder (taskId : TaskId) {contextId : Option ContextId}
    (version : opaqueReason parameters.protocolVersion = none)
    (ready : Ready reserved (budget + 1) world)
    (agentStored : world.store.hasAgent (some agent.aliasName) = true)
    (contextStored : world.store.hasContext contextId = true) :
    Effect.Succeeds (Send.ensureTaskPlaceholder agent taskId contextId parameters) world
      fun _ after => Advanced reserved budget world after ∧
        after.store.messages = world.store.messages ∧ after.store.hasTask (some taskId) = true := by
  unfold Send.ensureTaskPlaceholder
  cases known : world.store.tasks.find? taskId with
  | some row =>
      refine succeeds_read known ⟨(), world, rfl, ⟨ready.mono (by omega), Extends.refl _⟩, rfl, ?_⟩
      simp [Store.hasTask, known]
  | none =>
      apply succeeds_read known
      apply Effect.succeeds_lift_bind (taskVersion_valid _ version)
      apply Effect.succeeds_bind
      apply Effect.succeeds_mono (succeeds_kept Store.messages
        (Frames.keeps_upsertTask (fun _ _ => rfl) _)
        (succeeds_upsertTask _ ready agentStored contextStored))
      rintro _ after ⟨⟨advanced, stored⟩, messages⟩
      exact Effect.succeeds_pure ⟨advanced, messages, stored⟩

-- The tables that recording a task leaves to others until its artifacts.
def rowsApart (store : Store) : Table MessageRecord × Table ArtifactRecord :=
  (store.messages, store.artifacts)

theorem decides_upsertRemoteTask {task : RemoteTask} {lastMessageId : MessageId}
    (version : opaqueReason parameters.protocolVersion = none)
    (ready : Ready reserved (budget + 3 + (payload task.toTask).length) world)
    (agentStored : world.store.hasAgent (some agent.aliasName) = true)
    (valid : ValidAnswer (.task task)) (encodes : (codec.taskToValue task).isSome = true)
    (artifacts : ∀ artifact ∈ payload task.toTask, (codec.toValue artifact).isSome = true) :
    Effect.Decides (Send.upsertRemoteTask codec agent task lastMessageId parameters) world
      (PayloadStorable (payload task.toTask) world.store.artifacts) fun _ after =>
        Advanced reserved budget world after ∧ after.store.messages = world.store.messages ∧
        ∀ taskId : TaskId, taskId.text = task.id → after.store.hasTask (some taskId) = true := by
  obtain ⟨taskId, taskOf⟩ := new_valid valid.task
  obtain ⟨contextId, contextOf⟩ := new_valid valid.context
  obtain ⟨value, encoded⟩ := Option.isSome_iff_exists.mp encodes
  have ready' : Ready reserved (budget + (payload task.toTask).length + 2 + 1) world := by
    rwa [Nat.add_right_comm budget 3] at ready
  apply Effect.lift_decides_bind taskOf
  apply Effect.lift_decides_bind contextOf
  apply Effect.succeeds_decides_bind
  apply Effect.succeeds_mono (succeeds_kept rowsApart
    (Frames.keeps_ensureContext (fun _ _ => rfl) agent contextId)
    (succeeds_ensureContext contextId ready' agentStored))
  rintro _ first ⟨⟨ensured, contextStored⟩, apart⟩
  apply Effect.lift_decides_bind (show encode (codec.taskToValue task) _ = .ok value by
    rw [encoded]; rfl)
  apply Effect.lift_decides_bind (taskVersion_valid _ version)
  apply Effect.succeeds_decides_bind
  apply Effect.succeeds_mono (succeeds_completedAtFor _ _ ensured.ready)
  rintro completedAt second ⟨timed, same⟩
  have agentNext : second.store.hasAgent (some agent.aliasName) = true := by
    rw [same]
    exact ensured.extends_.hasAgent agentStored
  have contextNext : second.store.hasContext (some contextId) = true := by
    rwa [same]
  apply Effect.succeeds_decides_bind
  apply Effect.succeeds_mono (succeeds_kept rowsApart
    (Frames.keeps_upsertTask (fun _ _ => rfl) _)
    (succeeds_upsertTask _ timed agentNext contextNext))
  rintro row third ⟨⟨wrote, taskStored⟩, untouched⟩
  have before : rowsApart third.store = rowsApart world.store := by
    rw [untouched, same, apart]
  obtain ⟨messages, table⟩ := Prod.mk.inj before
  have grown : Extends world.store third.store := ensured.extends_.trans (same ▸ wrote.extends_)
  apply Effect.decides_succeeds_bind
  rw [← table]
  apply Effect.decides_mono (decides_persistTaskArtifacts taskOf contextOf valid.artifacts artifacts
    taskStored (wrote.extends_.contexts _ contextNext))
  rintro records last ⟨elsewhere, _, left⟩
  refine Effect.succeeds_pure ⟨⟨left _ _ wrote.ready, ?_⟩, ?_, ?_⟩
  · rw [elsewhere]
    exact ⟨grown.agents, grown.jobs, grown.contexts, grown.tasks⟩
  · rw [elsewhere]
    exact messages
  · intro wanted text
    have known : wanted = taskId := Id.ext_text (text.trans (Id.text_of_new taskOf).symm)
    rw [known, elsewhere]
    exact taskStored

def recordDraws (response : SendMessageResponse) : Nat := 3 + (heldArtifacts response).length

theorem decides_recordTask {response : SendMessageResponse} {contextId : Option ContextId}
    {taskId : Option TaskId} {lastMessageId : MessageId}
    (version : opaqueReason parameters.protocolVersion = none)
    (ready : Ready reserved (budget + recordDraws response) world)
    (agentStored : world.store.hasAgent (some agent.aliasName) = true)
    (contextStored : world.store.hasContext contextId = true)
    (valid : ValidAnswer response) (encodes : Encodes codec (heldRemoteTask response))
    (artifacts : ∀ artifact ∈ heldArtifacts response, (codec.toValue artifact).isSome = true)
    (named : ∀ task, heldRemoteTask response = some task → taskId.map Id.text = some task.id) :
    Effect.Decides (Send.recordTask codec agent response contextId taskId lastMessageId parameters)
      world (PayloadStorable (heldArtifacts response) world.store.artifacts) fun _ after =>
        Advanced reserved budget world after ∧ after.store.messages = world.store.messages ∧
        after.store.hasTask taskId = true := by
  cases response with
  | task task =>
      have ready' : Ready reserved (budget + 3 + (payload task.toTask).length) world := by
        rwa [Nat.add_assoc]
      apply Effect.decides_mono (decides_upsertRemoteTask version ready' agentStored valid
        (encodes task rfl) artifacts)
      rintro _ after ⟨advanced, messages, stored⟩
      refine ⟨advanced, messages, ?_⟩
      cases taskId with
      | none => rfl
      | some taskId => exact stored taskId (Option.some.inj (named task rfl))
  | message message =>
      refine Or.inl ⟨payloadStorable_nil _, ?_⟩
      cases taskId with
      | none => exact ⟨(), world, rfl, ⟨ready.mono (by omega), Extends.refl _⟩, rfl, rfl⟩
      | some taskId =>
          have ready' : Ready reserved (budget + 1) world := by
            apply ready.mono
            unfold recordDraws
            omega
          exact succeeds_ensureTaskPlaceholder taskId version ready' agentStored contextStored

/-! The two messages. -/

theorem message_checked {input : MessageInsert}
    (named : lengthFits 256 input.protocolMessageId = true) (small : input.ordinal.toNat < 2 ^ 63) :
    input.check = .ok () := by
  unfold MessageInsert.check
  rw [(validateOptionLen_iff "message protocol_message_id" input.protocolMessageId 256).mpr named]
  exact if_pos small

theorem valid_lengthFits {value : Option String} (valid : Valid .messageId value) :
    lengthFits 256 value = true := by
  cases value with
  | none => rfl
  | some text =>
      obtain ⟨filled, short, _, _⟩ := (opaque_iff text).mp (valid text rfl)
      simp [lengthFits, filled, short]

/-- What a message that was inserted leaves. -/
structure Inserted (reserved : List String) (budget : Nat) (id : MessageId) (world : World)
    (row : MessageRecord) (after : World) : Prop where
  advanced : Advanced reserved budget world after
  named : row.messageId = id
  messages : after.store.messages = world.store.messages.put row

theorem decides_insertRequestMessage {detail : String} {contextId : Option ContextId}
    {taskId : Option TaskId} (ready : Ready reserved (budget + 1) world)
    (known : prepared.requestMessageId.text ∈ reserved)
    (own : prepared.message.messageId = prepared.requestMessageId.text)
    (encodes : (codec.messageToValue prepared.message).isSome = true)
    (agentStored : world.store.hasAgent (some agent.aliasName) = true)
    (contextStored : world.store.hasContext contextId = true)
    (taskStored : world.store.hasTask taskId = true) :
    Effect.Decides (insertRequestMessage codec detail agent prepared contextId taskId) world
      (world.store.messages.find? prepared.requestMessageId = none)
      fun row after => Inserted reserved budget prepared.requestMessageId world row after := by
  obtain ⟨value, encoded⟩ := Option.isSome_iff_exists.mp encodes
  have fits : lengthFits 256 (some prepared.message.messageId) = true := by
    apply valid_lengthFits
    intro text same
    cases same
    rw [own]
    exact prepared.requestMessageId.valid
  have zeroth : (0 : UInt64).toNat < 2 ^ 63 := by decide
  apply Effect.lift_decides_bind (show encode (codec.messageToValue prepared.message) detail =
    .ok value by rw [encoded]; rfl)
  refine Effect.decides_mono (decides_insertMessage _ ready (message_checked fits zeroth)
    agentStored contextStored taskStored known) ?_
  rintro row after ⟨advanced, named, messages⟩
  exact ⟨advanced, named, messages⟩

theorem messageContent_valid {message : Message} (detail : String)
    (encodes : (codec.messageToValue message).isSome = true) :
    ∃ content, Stream.messageContent codec detail message = .ok content ∧
      content.protocolMessageId = some message.messageId := by
  obtain ⟨value, encoded⟩ := Option.isSome_iff_exists.mp encodes
  unfold Stream.messageContent
  rw [encoded]
  exact ⟨_, rfl, rfl⟩

theorem responseContent_valid {outcome : SendMessageOutcome}
    (encodes : ∀ message, answerMessage outcome.response = some message →
      (codec.messageToValue message).isSome = true) :
    ∃ content, Send.responseContent codec outcome = .ok content ∧
      content.protocolMessageId = receivedId outcome.response := by
  unfold Send.responseContent receivedId
  cases shown : outcome.response with
  | message message =>
      rw [shown] at encodes
      exact messageContent_valid _ (encodes message rfl)
  | task task =>
      rw [shown] at encodes
      cases held : task.status.message with
      | some message =>
          simp only [answerMessage, held, Option.map_some]
          exact messageContent_valid _ (encodes message held)
      | none =>
          simp only [answerMessage, held, Option.map_none]
          exact ⟨_, rfl, rfl⟩

theorem decides_insertResponseMessage {outcome : SendMessageOutcome} {contextId : Option ContextId}
    {taskId : Option TaskId} {messageId : MessageId} {metadata : Metadata}
    (ready : Ready reserved (budget + 1) world) (known : messageId.text ∈ reserved)
    (valid : Valid .messageId (receivedId outcome.response))
    (encodes : ∀ message, answerMessage outcome.response = some message →
      (codec.messageToValue message).isSome = true)
    (agentStored : world.store.hasAgent (some agent.aliasName) = true)
    (contextStored : world.store.hasContext contextId = true)
    (taskStored : world.store.hasTask taskId = true) :
    Effect.Decides (Send.insertResponseMessage codec agent outcome contextId taskId messageId metadata)
      world (world.store.messages.find? messageId = none)
      fun row after => Inserted reserved budget messageId world row after := by
  obtain ⟨content, made, own⟩ := responseContent_valid encodes
  have fits : lengthFits 256 content.protocolMessageId = true := by
    rw [own]
    exact valid_lengthFits valid
  have first : (1 : UInt64).toNat < 2 ^ 63 := by decide
  apply Effect.lift_decides_bind made
  refine Effect.decides_mono (decides_insertMessage _ ready (message_checked fits first)
    agentStored contextStored taskStored known) ?_
  rintro row after ⟨advanced, named, messages⟩
  exact ⟨advanced, named, messages⟩

/-! The three events. -/

theorem succeeds_appendRequestEvent {eventType : String} {contextId : Option ContextId}
    {taskId : Option TaskId} (plain : plainStart ("evt/" ++ eventType ++ "/") = true)
    (short : (!eventType.isEmpty && eventType.utf8ByteSize ≤ 128) = true)
    (version : opaqueReason parameters.protocolVersion = none)
    (ready : Ready reserved (budget + 2) world)
    (agentStored : world.store.hasAgent (some agent.aliasName) = true)
    (contextStored : world.store.hasContext contextId = true)
    (taskStored : world.store.hasTask taskId = true) :
    Effect.Succeeds (appendRequestEvent codec eventType agent prepared contextId taskId parameters)
      world fun _ after => Advanced reserved budget world after :=
  succeeds_appendCliEvent plain short version ready (fun _ => rfl) (fun _ => rfl) (fun _ => rfl)
    (fun _ _ => ⟨agentStored, contextStored, rfl, rfl, rfl⟩) fun _ _ => taskStored

theorem succeeds_appendSendResponseEvent {outcome : SendMessageOutcome} {message : MessageRecord}
    {contextId : Option ContextId} {taskId : Option TaskId}
    (version : opaqueReason parameters.protocolVersion = none)
    (ready : Ready reserved (budget + 2) world)
    (agentStored : world.store.hasAgent (some agent.aliasName) = true)
    (contextStored : world.store.hasContext contextId = true)
    (taskStored : world.store.hasTask taskId = true) :
    Effect.Succeeds (Send.appendSendResponseEvent codec agent outcome message contextId taskId
      parameters) world fun _ after => Advanced reserved budget world after :=
  succeeds_appendCliEvent (by decide) (by decide) version ready (fun _ => rfl)
    (fun _ => rfl) (fun _ => rfl) (fun _ _ => ⟨agentStored, contextStored, rfl, rfl, rfl⟩)
    fun _ _ => taskStored

theorem succeeds_appendHeldTaskEvent {response : SendMessageResponse}
    (version : opaqueReason parameters.protocolVersion = none)
    (ready : Ready reserved (budget + 2) world)
    (agentStored : world.store.hasAgent (some agent.aliasName) = true)
    (contextStored : ∀ id : ContextId, answerContext response = some id.text →
      world.store.hasContext (some id) = true)
    (taskStored : ∀ id : TaskId, answerTask response = some id.text →
      world.store.hasTask (some id) = true) (valid : ValidAnswer response) :
    Effect.Succeeds (Send.appendHeldTaskEvent codec agent response parameters) world
      fun _ after => Advanced reserved budget world after := by
  cases response with
  | message message => exact ⟨(), world, rfl, ⟨ready.mono (by omega), Extends.refl _⟩⟩
  | task task =>
      obtain ⟨taskId, taskOf⟩ := new_valid valid.task
      obtain ⟨contextId, contextOf⟩ := new_valid valid.context
      apply Effect.succeeds_lift_bind taskOf
      apply Effect.succeeds_lift_bind contextOf
      refine succeeds_appendCliEvent (by decide) (by decide) version ready
        (fun _ => rfl) (fun _ => rfl) (fun _ => rfl) (fun _ _ => ⟨agentStored, ?_, rfl, rfl, rfl⟩) ?_
      · exact contextStored contextId (congrArg some (Id.text_of_new contextOf).symm)
      · exact fun _ _ => taskStored taskId (congrArg some (Id.text_of_new taskOf).symm)

/-! The exchange. -/

-- The ids that the exchange brings, of which no generated id is one.
def exchangeIds (prepared : PreparedMessage) (response : SendMessageResponse) : List String :=
  prepared.requestMessageId.text :: (receivedId response).toList

def sendDraws (response : SendMessageResponse) : Nat :=
  0 + 2 + 2 + 2 + 1 + 1 + recordDraws response + 1 + 1

/-- The ids of the two messages are new, and the artifacts can be stored. -/
structure Recordable (prepared : PreparedMessage) (response : SendMessageResponse) (store : Store) :
    Prop where
  artifacts : PayloadStorable (heldArtifacts response) store.artifacts
  request : store.messages.find? prepared.requestMessageId = none
  answer : ∀ text, receivedId response = some text →
    text ≠ prepared.requestMessageId.text ∧ ∀ row ∈ store.messages.rows, row.messageId.text ≠ text

/-- Both messages are stored as the exchange had them. -/
structure Recorded (prepared : PreparedMessage) (response : SendMessageResponse)
    (persisted : Send.PersistedSend) (store : Store) : Prop where
  request : store.messages.find? prepared.requestMessageId = some persisted.requestMessage
  answer : store.messages.find? persisted.responseMessage.messageId = some persisted.responseMessage
  received : ∀ text, receivedId response = some text →
    persisted.responseMessage.messageId.text = text

theorem unstored_iff (table : Table MessageRecord) (id : MessageId) :
    table.find? id = none ↔ ∀ row ∈ table.rows, row.messageId.text ≠ id.text := by
  constructor
  · intro absent row member same
    have found := (table.find?_eq_some id row).mpr ⟨member, Id.ext_text same⟩
    rw [absent] at found
    cases found
  · intro apart
    cases found : table.find? id with
    | none => rfl
    | some row =>
        obtain ⟨member, keyed⟩ := (table.find?_eq_some id row).mp found
        exact absurd (congrArg Id.text keyed) (apart row member)

theorem recordable_iff {response : SendMessageResponse} {store : Store} {ids : Send.ResponseIds}
    (identified : Identified response (exchangeIds prepared response) store ids) :
    Recordable prepared response store ↔
      PayloadStorable (heldArtifacts response) store.artifacts ∧
      store.messages.find? prepared.requestMessageId = none ∧
      ids.responseMessageId ≠ prepared.requestMessageId ∧
      store.messages.find? ids.responseMessageId = none := by
  rw [unstored_iff store.messages ids.responseMessageId]
  constructor
  · rintro ⟨artifacts, request, answer⟩
    refine ⟨artifacts, request, ?_⟩
    cases shown : receivedId response with
    | some text =>
        obtain ⟨apart, unstored⟩ := answer text shown
        have named := identified.received text shown
        exact ⟨fun same => apart (named.symm.trans (congrArg Id.text same)), named ▸ unstored⟩
    | none =>
        obtain ⟨free, unstored⟩ := identified.drawn shown
        exact ⟨fun same => free (same ▸ List.mem_cons_self), unstored⟩
  · rintro ⟨artifacts, request, apart, unstored⟩
    refine ⟨artifacts, request, ?_⟩
    intro text shown
    have named := identified.received text shown
    rw [← named]
    exact ⟨fun same => apart (Id.ext_text same), unstored⟩

-- The response did not take the place of the request.
theorem recorded_of_inserted {response : SendMessageResponse} {ids : Send.ResponseIds}
    {request answer : MessageRecord} {taskId : Option TaskId} {contextId : Option ContextId}
    {before middle after : World} {more less : Nat}
    (inserted : Inserted reserved more prepared.requestMessageId before request middle)
    (answered : Inserted reserved less ids.responseMessageId middle answer after)
    (unstored : middle.store.messages.find? ids.responseMessageId = none)
    (received : ∀ text, receivedId response = some text → ids.responseMessageId.text = text) :
    Recorded prepared response ⟨request, answer, taskId, contextId⟩ after.store := by
  have stored : middle.store.messages.find? prepared.requestMessageId = some request := by
    rw [inserted.messages, ← inserted.named]
    exact before.store.messages.find?_put_self request
  constructor
  · rw [answered.messages, Table.find?_put_other _ _ _ ?apart]
    · exact stored
    · intro same
      rw [same, show key answer = ids.responseMessageId from answered.named, unstored] at stored
      cases stored
  · rw [answered.messages]
    exact middle.store.messages.find?_put_self answer
  · intro text known
    rw [answered.named]
    exact received text known

theorem linked_of_text {kind : IdKind} {own requested : Option (Id kind)} {text : Option String}
    (named : own.map Id.text = text) (id : Id kind) (known : text = some id.text) :
    own.or requested = some id := by
  cases own with
  | none => cases named.trans known
  | some other =>
      rw [Option.some_or, Id.ext_text (Option.some.inj (named.trans known))]

theorem Identified.reserve {response : SendMessageResponse} {fewer : List String} {store : Store}
    {ids : Send.ResponseIds} (identified : Identified response reserved store ids)
    (inside : ∀ text ∈ fewer, text ∈ reserved) : Identified response fewer store ids := by
  refine ⟨identified.context, identified.task, identified.received, fun absent => ?_⟩
  obtain ⟨free, unstored⟩ := identified.drawn absent
  exact ⟨fun member => free (inside _ member), unstored⟩

/-- What a persisted exchange leaves for the next one. -/
structure Exchanged (prepared : PreparedMessage) (response : SendMessageResponse)
    (reserved : List String) (budget : Nat) (before : World) (persisted : Send.PersistedSend)
    (after : World) : Prop where
  recorded : Recorded prepared response persisted after.store
  advanced : Advanced reserved budget before after
  task : after.store.hasTask persisted.taskId = true
  linked : persisted.taskId = none → answerTask response = none

/-- `persistSend` returns exactly when the exchange is recordable, and then it is recorded. -/
theorem decides_persistSend {outcome : SendMessageOutcome}
    (inside : ∀ text ∈ exchangeIds prepared outcome.response, text ∈ reserved)
    (ready : Ready reserved (budget + sendDraws outcome.response) world)
    (version : opaqueReason parameters.protocolVersion = none)
    (agentStored : world.store.hasAgent (some agent.aliasName) = true)
    (own : prepared.message.messageId = prepared.requestMessageId.text)
    (valid : ValidAnswer outcome.response)
    (encodes : EncodesExchange codec prepared.message outcome.response) :
    Effect.Decides (Send.persistSend codec agent prepared outcome parameters) world
      (Recordable prepared outcome.response world.store)
      fun persisted after =>
        Exchanged prepared outcome.response reserved budget world persisted after := by
  have enough : Ready reserved
      (budget + 2 + 2 + 2 + 1 + 1 + recordDraws outcome.response + 1 + 1) world := by
    apply ready.mono
    unfold sendDraws
    omega
  apply Effect.decides_transaction
  apply Effect.succeeds_decides_bind
  apply Effect.succeeds_mono (succeeds_responseIds valid (fun text shown =>
    inside _ (List.mem_cons_of_mem _ (Option.mem_toList.mpr shown))) enough)
  rintro ids start ⟨identified, drew, same⟩
  apply Effect.decides_congr (recordable_iff (identified.reserve inside))
  rw [← same] at agentStored ⊢
  apply Effect.succeeds_decides_bind
  apply Effect.succeeds_mono (succeeds_kept rowsApart
    (Frames.keeps_ensureOptionalContext (fun _ _ => rfl) agent _)
    (succeeds_ensureOptionalContext _ drew agentStored))
  rintro _ first ⟨⟨ensured, contextStored⟩, apart⟩
  obtain ⟨messages, table⟩ := Prod.mk.inj apart
  rw [← messages, ← table]
  have agentFirst := ensured.extends_.hasAgent agentStored
  apply Effect.decides_bind
  apply Effect.decides_mono (decides_recordTask version ensured.ready agentFirst contextStored valid
    encodes.task encodes.artifacts ?held)
  case held =>
    intro task held
    have named : answerTask outcome.response = some task.id := by
      cases shown : outcome.response with
      | message message =>
          rw [shown] at held
          cases held
      | task other =>
          rw [shown] at held
          cases held
          rfl
    have own := identified.task.trans named
    cases known : ids.taskId with
    | none =>
        rw [known] at own
        cases own
    | some taskId =>
        rw [known] at own
        exact own
  rintro _ second ⟨recorded, kept, taskStored⟩
  have agentSecond := recorded.extends_.hasAgent agentFirst
  have contextSecond := recorded.extends_.contexts _ contextStored
  rw [← kept]
  apply Effect.decides_bind
  apply Effect.decides_mono (decides_insertRequestMessage recorded.ready
    (List.mem_cons_of_mem _ (inside _ List.mem_cons_self)) own encodes.request agentSecond contextSecond
    taskStored)
  rintro request third inserted
  have agentThird := inserted.advanced.extends_.hasAgent agentSecond
  have contextThird := inserted.advanced.extends_.contexts _ contextSecond
  have taskThird := inserted.advanced.extends_.tasks _ taskStored
  have free : (ids.responseMessageId ≠ prepared.requestMessageId ∧
      second.store.messages.find? ids.responseMessageId = none) ↔
      third.store.messages.find? ids.responseMessageId = none := by
    rw [inserted.messages, Table.find?_put, show key request = prepared.requestMessageId from
      inserted.named]
    by_cases equal : ids.responseMessageId = prepared.requestMessageId
    · simp [equal]
    · simp [equal]
  apply Effect.decides_congr free
  apply Effect.decides_succeeds_bind
  apply Effect.decides_mono (Effect.decides_holding (decides_insertResponseMessage
    inserted.advanced.ready List.mem_cons_self valid.message encodes.message agentThird contextThird
    taskThird))
  rintro answer fourth ⟨answered, unstored⟩
  have agentFourth := answered.advanced.extends_.hasAgent agentThird
  have contextFourth := answered.advanced.extends_.contexts _ contextThird
  have taskFourth := answered.advanced.extends_.tasks _ taskThird
  have both : Recorded prepared outcome.response
      ⟨request, answer, ids.taskId.or prepared.requestedTaskId,
        ids.contextId.or prepared.requestedContextId⟩ fourth.store :=
    recorded_of_inserted inserted answered unstored identified.received
  apply Effect.succeeds_bind
  apply Effect.succeeds_mono (succeeds_kept Store.messages
    (keeps_appendRequestEvent (fun _ _ _ => rfl) _ _ _ _)
    (succeeds_appendRequestEvent (by decide) (by decide) version
      answered.advanced.ready agentFourth contextFourth taskFourth))
  rintro _ fifth ⟨requested, keptFifth⟩
  have agentFifth := requested.extends_.hasAgent agentFourth
  have contextFifth := requested.extends_.contexts _ contextFourth
  have taskFifth := requested.extends_.tasks _ taskFourth
  apply Effect.succeeds_bind
  apply Effect.succeeds_mono (succeeds_kept Store.messages
    (keeps_appendSendResponseEvent (fun _ _ _ => rfl) _ _ _ _)
    (succeeds_appendSendResponseEvent version requested.ready agentFifth contextFifth taskFifth))
  rintro _ sixth ⟨told, keptSixth⟩
  have agentSixth := told.extends_.hasAgent agentFifth
  have contextSixth := told.extends_.contexts _ contextFifth
  have taskSixth := told.extends_.tasks _ taskFifth
  apply Effect.succeeds_bind
  apply Effect.succeeds_mono (succeeds_kept Store.messages
    (keeps_appendHeldTaskEvent (fun _ _ _ => rfl) outcome.response)
    (succeeds_appendHeldTaskEvent version told.ready agentSixth ?contexts ?tasks valid))
  case contexts =>
    intro id known
    rwa [linked_of_text identified.context id known] at contextSixth
  case tasks =>
    intro id known
    rwa [linked_of_text identified.task id known] at taskSixth
  rintro _ last ⟨finished, keptLast⟩
  apply Effect.succeeds_pure
  have messages : last.store.messages = fourth.store.messages := by
    rw [keptLast, keptSixth, keptFifth]
  have whole := ensured.extends_.trans (recorded.extends_.trans (inserted.advanced.extends_.trans
    (answered.advanced.extends_.trans (requested.extends_.trans (told.extends_.trans
      finished.extends_)))))
  refine ⟨⟨messages ▸ both.request, messages ▸ both.answer, both.received⟩,
    ⟨finished.ready.reserve fun text member => List.mem_cons_of_mem _ member, same ▸ whole⟩,
    finished.extends_.tasks _ taskSixth, ?_⟩
  intro unlinked
  rw [← identified.task, (Option.or_eq_none_iff.mp unlinked).1]
  rfl

end Send

def sendWorld : World := (upsertAgent (.new echoAgent "http://127.0.0.1") countingWorld).2

def messageAnswer : SendMessageOutcome :=
  ⟨"http://127.0.0.1/message:send", 200,
    .message (ContextLinks.plainMessage "remote-1" none (some firstTask)), .null⟩

theorem messageAnswer_valid : ValidAnswer messageAnswer.response := by
  constructor
  · intro text same
    cases same
    decide
  · intro text same
    cases same
  · intro text same
    cases same
    decide
  · intro artifact member
    cases member

theorem messageAnswer_encodes (request : Message)
    (encodes : (plainCodec.messageToValue request).isSome = true) :
    EncodesExchange plainCodec request messageAnswer.response := by
  refine ⟨encodes, ?_, ?_, ?_⟩
  · intro message same
    cases same
    rfl
  · intro task same
    cases same
  · intro artifact member
    cases member

theorem plainVersion_valid : opaqueReason plainParameters.protocolVersion = none := by
  decide

def answeredWorld : World :=
  (Send.persistSend plainCodec echoRecord RequestRecording.preparedRequest messageAnswer
    plainParameters sendWorld).2

def nextRequestId : MessageId := ⟨"request-2", by decide⟩

def nextRequest : PreparedMessage :=
  { RequestRecording.preparedRequest with
    requestMessageId := nextRequestId
    message := { RequestRecording.preparedRequest.message with messageId := nextRequestId.text } }

end Missive.SendPersistence
