import Missive.Collectives
import Missive.OrderedLists
import Missive.Protocol

/-! What `gather` and `reduce` read of a member: its latest task in a context, and the text of that
task's output. The two commands have the same text for it. -/
namespace Missive.MemberOutputs

open JsonValue KeyedTable Missive.Core Schema Repository Artifacts Protocol Collectives
open OrderedLists (sortByKey)

/-- `serde_json::from_value` at the A2A types that rows hold. -/
structure Reader extends Codec where
  messageFromValue : Json → Option Message
  taskFromValue : Json → Option RemoteTask

/-! Lists of the repository. -/

-- `COALESCE(id, '')`
def linkText {kind : IdKind} (id : Option (Id kind)) : String := id.elim "" Id.text

abbrev MessageOrder : Type := Lex (String × Lex (String × Lex (Nat × Lex (Int × MessageId))))

-- `ORDER BY COALESCE(context_id, ''), COALESCE(task_id, ''), ordinal, created_at, message_id`
def messageOrder (record : MessageRecord) : MessageOrder :=
  toLex (linkText record.contextId, toLex (linkText record.taskId,
    toLex (record.ordinal.toNat, toLex (record.createdAt.millis, record.messageId))))

def listMessages (store : Store) : List MessageRecord := sortByKey messageOrder store.messages.rows

-- `ORDER BY version, artifact_id`
def artifactOrder (record : ArtifactRecord) : Lex (Nat × ArtifactId) :=
  toLex (record.version.toNat, record.artifactId)

def listArtifactsForTask (store : Store) (taskId : TaskId) : List ArtifactRecord :=
  sortByKey artifactOrder (store.artifacts.rows.filter fun record => record.taskId = taskId)

/-! The member. -/

structure MemberState where
  member : GroupMemberRecord
  task : Option TaskRecord
  messages : List MessageRecord
  artifacts : List ArtifactRecord

def outputMessagesForTask (store : Store) (member : GroupMemberRecord) (contextId : ContextId)
    (taskId : TaskId) : List MessageRecord :=
  ((((listMessages store).filter fun record => record.agentAlias = some member.agentAlias).filter
    fun record => record.contextId = some contextId).filter
    fun record => record.taskId = some taskId).filter fun record => record.direction ≠ .request

def collectMember (store : Store) (contextId : ContextId) (member : GroupMemberRecord) : MemberState :=
  match latestMemberTask store member.agentAlias contextId with
  | some task => ⟨member, some task, outputMessagesForTask store member contextId task.taskId,
      listArtifactsForTask store task.taskId⟩
  | none => ⟨member, none, [], []⟩

def collectMembers (store : Store) (group : GroupName) (contextId : ContextId) : List MemberState :=
  (listGroupMembers store group).map (collectMember store contextId)

section Texts

variable (reader : Reader)

def messageText (record : MessageRecord) : Option String :=
  (reader.messageFromValue record.contentJson).bind reader.text

def taskStatusText (record : TaskRecord) : Option String := do
  let raw ← record.remoteTaskJson
  let task ← reader.taskFromValue raw
  let message ← task.status.message
  reader.text message

def artifactFromRecord (record : ArtifactRecord) : Option Artifact :=
  record.contentJson.bind reader.fromValue

def firstArtifactText (artifact : Artifact) : Option String := artifact.parts.findSome? partText

def artifactText (record : ArtifactRecord) : Option String :=
  (artifactFromRecord reader record).bind firstArtifactText

def firstArtifactTextFromRecords (artifacts : List ArtifactRecord) : Option String :=
  artifacts.findSome? (artifactText reader)

def latestMemberText (state : MemberState) : Option String :=
  (state.messages.reverse.findSome? (messageText reader)).or
    ((state.task.bind (taskStatusText reader)).or (firstArtifactTextFromRecords reader state.artifacts))

end Texts

/-! The reader of messages and tasks that hold only text. -/

def roleNamed (name : String) : Option Role :=
  [Role.unspecified, .user, .agent].find? fun role => roleName role = name

def stateNamed (name : String) : Option ProtocolTaskState :=
  [ProtocolTaskState.unspecified, .submitted, .working, .completed, .failed, .canceled,
    .inputRequired, .rejected, .authRequired].find? fun state => stateName state = name

def optionalText (value : Json) (field : String) : Option String := (value.get field).bind Json.asStr

def decodeTextMessage (value : Json) : Option Message := do
  let messageId ← optionalText value "messageId"
  let role ← (optionalText value "role").bind roleNamed
  let parts ← match value.get "parts" with
    | some (.array items) => items.mapM decodeTextPart
    | _ => none
  pure ⟨messageId, optionalText value "contextId", optionalText value "taskId", role, parts, none,
    none, none⟩

def decodeTextStatus (value : Json) : Option TaskStatus := do
  let state ← (optionalText value "state").bind stateNamed
  pure ⟨state, (value.get "message").bind decodeTextMessage, none⟩

def decodeTextTask (value : Json) : Option RemoteTask := do
  let id ← optionalText value "id"
  let contextId ← optionalText value "contextId"
  let artifacts ← match value.get "artifacts" with
    | some (.array items) => (items.mapM decodeTextArtifact).map some
    | _ => some none
  let status ← (value.get "status").bind decodeTextStatus
  pure ⟨⟨id, contextId, artifacts⟩, status, none, none⟩

def plainReader : Reader :=
  { plainCodec with
    messageFromValue := decodeTextMessage
    taskFromValue := decodeTextTask }

/-! What is listed, row by row. -/

section Rows

variable {store : Store} {member : GroupMemberRecord} {contextId : ContextId} {taskId : TaskId}
  {reader : Reader} {text : String}

theorem messageOrder_injective {first last : MessageRecord}
    (same : messageOrder first = messageOrder last) : first.messageId = last.messageId :=
  congrArg (fun order : MessageOrder => (ofLex (ofLex (ofLex (ofLex order).2).2).2).2) same

theorem keys_distinct {Row Key Order : Type} [Keyed Row Key] [LinearOrder Key] (table : Table Row)
    {order : Row → Order} (injective : ∀ {first last}, order first = order last → key first = key last) :
    (table.rows.map order).Nodup := by
  apply List.pairwise_map.mpr
  apply table.sorted.imp
  intro first last below same
  exact absurd (injective same) (ne_of_lt below)

theorem listMessages_sorted (store : Store) :
    (listMessages store).Pairwise fun first last => messageOrder first < messageOrder last :=
  OrderedLists.sortByKey_strict _ _ (keys_distinct store.messages messageOrder_injective)

/-- A message of the task that is not a request. -/
structure Reply (store : Store) (taskId : TaskId) (record : MessageRecord) : Prop where
  stored : record ∈ store.messages.rows
  task : record.taskId = some taskId
  unasked : record.direction ≠ .request

/-- A reply that is also linked to the agent and the context. -/
structure Output (store : Store) (agentAlias : AgentAlias) (contextId : ContextId) (taskId : TaskId)
    (record : MessageRecord) : Prop extends Reply store taskId record where
  agent : record.agentAlias = some agentAlias
  context : record.contextId = some contextId

theorem mem_outputMessages {record : MessageRecord} :
    record ∈ outputMessagesForTask store member contextId taskId ↔
      Output store member.agentAlias contextId taskId record := by
  simp only [outputMessagesForTask, List.mem_filter, decide_eq_true_eq, listMessages,
    OrderedLists.mem_sortByKey]
  constructor
  · rintro ⟨⟨⟨⟨stored, agent⟩, context⟩, task⟩, unasked⟩
    exact ⟨⟨stored, task, unasked⟩, agent, context⟩
  · rintro ⟨⟨stored, task, unasked⟩, agent, context⟩
    exact ⟨⟨⟨⟨stored, agent⟩, context⟩, task⟩, unasked⟩

theorem outputMessages_sorted :
    (outputMessagesForTask store member contextId taskId).Pairwise
      fun first last => messageOrder first < messageOrder last :=
  ((((listMessages_sorted store).filter _).filter _).filter _).filter _

/-- The row that a text is read from: none ahead of it has any. -/
structure ReadFrom {Row : Type} (rows : Row → Prop) (ahead : Row → Row → Prop)
    (read : Row → Option String) (text : String) (row : Row) : Prop where
  among : rows row
  reads : read row = some text
  first : ∀ other, rows other → ahead other row → read other = none

-- The later messages are looked at first, the earlier artifacts.
def After (other record : MessageRecord) : Prop := messageOrder record < messageOrder other

def Before (other record : ArtifactRecord) : Prop := artifactOrder other < artifactOrder record

theorem outputText_iff :
    (outputMessagesForTask store member contextId taskId).reverse.findSome? (messageText reader) =
      some text ↔
    ∃ record, ReadFrom (Output store member.agentAlias contextId taskId) After (messageText reader)
      text record := by
  rw [OrderedLists.findSome?_last outputMessages_sorted]
  simp only [mem_outputMessages]
  constructor
  · rintro ⟨record, among, reads, last⟩
    exact ⟨record, among, reads, last⟩
  · rintro ⟨record, among, reads, last⟩
    exact ⟨record, among, reads, last⟩

theorem artifactOrder_injective {first last : ArtifactRecord}
    (same : artifactOrder first = artifactOrder last) : first.artifactId = last.artifactId :=
  congrArg (fun order : Lex (Nat × ArtifactId) => (ofLex order).2) same

theorem listArtifacts_sorted (store : Store) (taskId : TaskId) :
    (listArtifactsForTask store taskId).Pairwise fun first last =>
      artifactOrder first < artifactOrder last :=
  OrderedLists.sortByKey_strict _ _
    (keys_distinct (store.artifacts.filter fun record => record.taskId = taskId) artifactOrder_injective)

def OfTask (store : Store) (taskId : TaskId) (record : ArtifactRecord) : Prop :=
  record ∈ store.artifacts.rows ∧ record.taskId = taskId

theorem artifactText_iff :
    firstArtifactTextFromRecords reader (listArtifactsForTask store taskId) = some text ↔
      ∃ record, ReadFrom (OfTask store taskId) Before (artifactText reader) text record := by
  unfold firstArtifactTextFromRecords
  rw [OrderedLists.findSome?_first (listArtifacts_sorted store taskId)]
  simp only [listArtifactsForTask, OrderedLists.mem_sortByKey, List.mem_filter, decide_eq_true_eq]
  constructor
  · rintro ⟨record, among, reads, first⟩
    exact ⟨record, among, reads, first⟩
  · rintro ⟨record, among, reads, first⟩
    exact ⟨record, among, reads, first⟩

end Rows

end Missive.MemberOutputs
