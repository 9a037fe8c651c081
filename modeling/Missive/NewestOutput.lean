import Missive.BroadcastJournal
import Missive.MemberOutputs
import Missive.TaskFrames

/-! Runs of `send` and `stream`, and the newest text that they leave of a task. The lists that
`gather` reads are ordered by a number that every send and every stream starts afresh. -/
namespace Missive.NewestOutput

open JsonValue KeyedTable Missive.Core Schema Effects Repository Artifacts BackgroundJobs Protocol
open TaskPersistence TaskReports TaskFrames Frames Collectives MemberOutputs

/-- What `send` and `stream` persist in one transaction. -/
inductive Command where
  | send (parameters : ServiceParameters) (prepared : PreparedMessage) (outcome : SendMessageOutcome)
  | streamRequest (parameters : ServiceParameters) (prepared : PreparedMessage)
  | streamEvent (parameters : ServiceParameters) (event : StreamMessageEvent) (base : Metadata)

-- The message that is not the request, where there is one.
def Command.run (codec : Codec) (agent : AgentRecord) : Command → Action (Option MessageRecord)
  | .send parameters prepared outcome => do
      let persisted ← Send.persistSend codec agent prepared outcome parameters
      pure (some persisted.responseMessage)
  | .streamRequest parameters prepared => do
      let _ ← Stream.persistStreamRequest codec agent prepared parameters
      pure none
  | .streamEvent parameters event base => do
      let persisted ← Stream.persistStreamEvent codec agent event base parameters
      pure (some persisted.message)

def Command.operation : Command → Operation
  | .send parameters prepared outcome => .send parameters prepared outcome
  | .streamRequest parameters prepared => .streamRequest parameters prepared
  | .streamEvent parameters event base => .streamEvent parameters event base

-- The number of the message that is not the request.
def Command.ordinal : Command → UInt64
  | .send .. => 1
  | .streamRequest .. => 0
  | .streamEvent _ event _ => event.sequence + 1

/-! The messages. -/

section Messages

variable {codec : Codec} {agent : AgentRecord} {parameters : ServiceParameters}
  {prepared : PreparedMessage} {world after : World}

/-- The messages after a transaction: besides requests, those before it and the one it persisted. -/
structure Told (output : Option MessageRecord) (before after : Table MessageRecord) : Prop where
  unasked : ∀ record, output = some record → record.direction ≠ .request
  stored : ∀ record, record.direction ≠ .request →
    (record ∈ after.rows ↔ output = some record ∨ record ∈ before.rows)

theorem told_behind {output : Option MessageRecord} {before middle after : Table MessageRecord}
    (asked : Told none before middle) (told : Told output middle after) : Told output before after where
  unasked := told.unasked
  stored record unasked := by
    rw [told.stored record unasked, asked.stored record unasked]
    simp

theorem insertMessage_stored {input : MessageInsert} {row : MessageRecord}
    (ran : insertMessage input world = (.ok row, after)) :
    (∃ time, row = input.toRecord time none) ∧
      ∀ record, record ∈ after.store.messages.rows ↔ record = row ∨ record ∈ world.store.messages.rows := by
  rcases upsertRow_cases messagesTable input.check "inserting message" "message" input.messageId.text
      input.messageId input.refused input.toRecord (fun _ _ => rfl) world with
    ⟨error, left, failed, _⟩ | ⟨_, accepted, wrote⟩
  · rw [show insertMessage input world = _ from failed] at ran
    cases ran
  · rw [show insertMessage input world = _ from wrote] at ran
    cases ran
    constructor
    · exact ⟨_, rfl⟩
    · intro record
      rw [show (world.later.withStore _).store.messages.rows = (world.store.messages.put _).rows from rfl,
        Table.mem_put]
      constructor
      · rintro (same | ⟨stored, _⟩)
        · exact Or.inl same
        · exact Or.inr stored
      · rintro (same | stored)
        · exact Or.inl same
        · refine Or.inr ⟨stored, fun same => ?_⟩
          have found := world.store.messages.find?_self record stored
          rw [same] at found
          have present : (world.store.messages.find? input.messageId).isSome = true :=
            Option.isSome_of_eq_some found
          simp [MessageInsert.refused, present] at accepted

theorem told_output {input : MessageInsert} {row : MessageRecord} (unasked : input.direction ≠ .request)
    (ran : insertMessage input world = (.ok row, after)) :
    Told (some row) world.store.messages after.store.messages := by
  obtain ⟨⟨time, shown⟩, stored⟩ := insertMessage_stored ran
  constructor
  · rintro record ⟨⟩
    rw [shown]
    exact unasked
  · intro record _
    rw [stored, Option.some.injEq, eq_comm]

theorem told_request {detail : String} {contextId : Option ContextId} {taskId : Option TaskId}
    {row : MessageRecord}
    (ran : insertRequestMessage codec detail agent prepared contextId taskId world = (.ok row, after)) :
    Told none world.store.messages after.store.messages := by
  obtain ⟨value, _, wrote⟩ := Effect.lift_bind_returned ran
  obtain ⟨⟨time, shown⟩, stored⟩ := insertMessage_stored wrote
  constructor
  · intro record absent
    cases absent
  · intro record unasked
    rw [stored]
    constructor
    · rintro (rfl | kept)
      · exact absurd (congrArg MessageRecord.direction shown) unasked
      · exact Or.inr kept
    · rintro (asked | kept)
      · cases asked
      · exact Or.inr kept

end Messages

/-! One transaction. -/

section Transactions

variable {codec : Codec} {agent : AgentRecord} {parameters : ServiceParameters}
  {prepared : PreparedMessage} {world after : World}

/-- What a transaction that came through has changed: one task, and its messages. -/
structure Persisted (ordinal : UInt64) (write : Option TaskWrite) (output : Option MessageRecord)
    (before after : Store) : Prop where
  tasks : Applied write before.tasks after.tasks
  messages : Told output before.messages after.messages
  task : ∀ record, output = some record → record.taskId = write.map TaskWrite.taskId
  ordinal : ∀ record, output = some record → record.ordinal = ordinal

theorem rows_apart : IgnoresTaskRows Store.messages := ⟨fun _ _ => rfl, fun _ _ => rfl, fun _ _ => rfl⟩

theorem events_apart : IgnoresEvents Store.messages := fun _ _ _ => rfl

theorem streamRequest_persisted {request : MessageRecord}
    (ran : Stream.persistStreamRequest codec agent prepared parameters world = (.ok request, after)) :
    Persisted 0 (requestWrite agent.aliasName parameters.protocolVersion prepared) none world.store
      after.store := by
  have opened := transaction_returned ran
  obtain ⟨_, first, ensured, rest⟩ := Effect.bind_returned opened
  obtain ⟨_, second, named, rest⟩ := Effect.bind_returned rest
  obtain ⟨stored, third, asked, rest⟩ := Effect.bind_returned rest
  obtain ⟨_, fourth, journaled, done⟩ := Effect.bind_returned rest
  cases done
  have before : second.store.messages = world.store.messages :=
    ((keeps_ensureRequestedTask rows_apart prepared).returned named).trans
      ((keeps_ensureOptionalContext rows_apart.contexts agent _).returned ensured)
  have behind := (keeps_appendRequestEvent events_apart _ _ _ _).returned journaled
  have told := told_request asked
  rw [before, ← behind] at told
  refine ⟨streamRequest_applied ran, told, ?_, ?_⟩
  · intro record absent
    cases absent
  · intro record absent
    cases absent

theorem streamEvent_persisted {event : StreamMessageEvent} {base : Metadata}
    {persisted : Stream.PersistedStreamEvent}
    (ran : Stream.persistStreamEvent codec agent event base parameters world =
      (.ok persisted, after)) :
    ∃ write, streamWrite codec agent.aliasName parameters.protocolVersion event.event = .ok write ∧
      Persisted (event.sequence + 1) write (some persisted.message) world.store after.store := by
  obtain ⟨write, written, applied⟩ := streamEvent_applied ran
  have opened := transaction_returned ran
  obtain ⟨ids, parsed, rest⟩ := Effect.lift_bind_returned opened
  obtain ⟨_, first, ensured, rest⟩ := Effect.bind_returned rest
  obtain ⟨_, second, placed, rest⟩ := Effect.bind_returned rest
  obtain ⟨message, third, inserted, rest⟩ := Effect.bind_returned rest
  obtain ⟨_, fourth, stated, rest⟩ := Effect.bind_returned rest
  obtain ⟨journal, last, appended, done⟩ := Effect.bind_returned rest
  cases done
  have before : second.store.messages = world.store.messages :=
    ((keeps_placeholder rows_apart ids).returned placed).trans
      ((keeps_ensureOptionalContext rows_apart.contexts agent _).returned ensured)
  have behind : after.store.messages = third.store.messages :=
    ((keeps_appendStreamEvent events_apart _ _ _).returned appended).trans
      ((keeps_persistTaskState rows_apart _ _ _).returned stated)
  obtain ⟨content, encoded, rest⟩ := Effect.lift_bind_returned inserted
  obtain ⟨messageId, drawn, numbered, rest⟩ := Effect.bind_returned rest
  obtain ⟨metadata, described, wrote⟩ := Effect.lift_bind_returned rest
  have kept : drawn.store.messages = second.store.messages :=
    (keeps_bind keeps_newMessageId fun _ => keeps_lift _).returned numbered
  have told := told_output MessageDirection.noConfusion wrote
  obtain ⟨⟨time, shown⟩, _⟩ := insertMessage_stored wrote
  rw [kept, before, ← behind] at told
  rw [streamWrite, parsed] at written
  cases written
  refine ⟨_, by rw [streamWrite, parsed]; rfl, applied, told, ?_, ?_⟩
  · rintro record ⟨⟩
    rw [shown]
    cases ids.taskId <;> rfl
  · rintro record ⟨⟩
    rw [shown]
    rfl

-- The task that an answer concerns is the one whose row is written.
theorem responseIds_written {response : SendMessageResponse} {version : String}
    {ids : Send.ResponseIds} {write : Option TaskWrite}
    (parsed : Send.responseIds response world = (.ok ids, after))
    (written : sendWrite codec agent.aliasName version prepared response = .ok write) :
    ids.taskId.or prepared.requestedTaskId = write.map TaskWrite.taskId := by
  cases response with
  | message message =>
      obtain ⟨contextOf, taskOf, _, _⟩ := messageIds_returned parsed
      rw [sendWrite, contextOf, taskOf] at written
      cases written
      cases ids.taskId.or prepared.requestedTaskId <;> rfl
  | task task =>
      obtain ⟨status, _, rest⟩ := Effect.lift_bind_returned parsed
      obtain ⟨contextId, contextOf, rest⟩ := Effect.lift_bind_returned rest
      obtain ⟨taskId, taskOf, rest⟩ := Effect.lift_bind_returned rest
      rw [sendWrite, freshWrite_parsed _ _ _ taskOf contextOf] at written
      cases written
      cases status with
      | some messageId =>
          cases rest
          rfl
      | none =>
          obtain ⟨messageId, middle, _, done⟩ := Effect.bind_returned rest
          cases done
          rfl

theorem send_persisted {outcome : SendMessageOutcome} {persisted : Send.PersistedSend}
    (ran : Send.persistSend codec agent prepared outcome parameters world =
      (.ok persisted, after)) :
    ∃ write, sendWrite codec agent.aliasName parameters.protocolVersion prepared outcome.response =
        .ok write ∧
      Persisted 1 write (some persisted.responseMessage) world.store after.store := by
  obtain ⟨write, written, applied⟩ := send_applied ran
  have opened := transaction_returned ran
  obtain ⟨ids, start, parsed, rest⟩ := Effect.bind_returned opened
  obtain ⟨_, first, ensured, rest⟩ := Effect.bind_returned rest
  obtain ⟨_, second, recorded, rest⟩ := Effect.bind_returned rest
  obtain ⟨request, third, asked, rest⟩ := Effect.bind_returned rest
  obtain ⟨response, fourth, answered, rest⟩ := Effect.bind_returned rest
  obtain ⟨_, fifth, journaled, rest⟩ := Effect.bind_returned rest
  obtain ⟨_, sixth, viewed, rest⟩ := Effect.bind_returned rest
  obtain ⟨_, seventh, held, done⟩ := Effect.bind_returned rest
  cases done
  have before : second.store.messages = world.store.messages :=
    calc
      second.store.messages = first.store.messages :=
        (keeps_recordTask rows_apart _ _ _ _).returned recorded
      _ = start.store.messages :=
        (keeps_ensureOptionalContext rows_apart.contexts agent _).returned ensured
      _ = world.store.messages := (keeps_responseIds outcome.response).returned parsed
  have behind : after.store.messages = fourth.store.messages :=
    calc
      after.store.messages = sixth.store.messages :=
        (keeps_appendHeldTaskEvent events_apart _).returned held
      _ = fifth.store.messages :=
        (keeps_appendSendResponseEvent events_apart _ _ _ _).returned viewed
      _ = fourth.store.messages := (keeps_appendRequestEvent events_apart _ _ _ _).returned journaled
  obtain ⟨content, encoded, wrote⟩ := Effect.lift_bind_returned answered
  have told := told_behind (told_request asked) (told_output MessageDirection.noConfusion wrote)
  obtain ⟨⟨time, shown⟩, _⟩ := insertMessage_stored wrote
  rw [before, ← behind] at told
  refine ⟨write, written, applied, told, ?_, ?_⟩
  · rintro record ⟨⟩
    rw [shown]
    exact responseIds_written parsed written
  · rintro record ⟨⟩
    rw [shown]
    rfl

end Transactions

theorem run_persisted {codec : Codec} {agent : AgentRecord} {command : Command}
    {output : Option MessageRecord} {world after : World}
    (ran : command.run codec agent world = (.ok output, after)) :
    ∃ write, command.operation.write codec agent.aliasName = .ok write ∧
      Persisted command.ordinal write output world.store after.store := by
  cases command with
  | send parameters prepared outcome =>
      obtain ⟨persisted, middle, exchanged, done⟩ := Effect.bind_returned ran
      cases done
      exact send_persisted exchanged
  | streamRequest parameters prepared =>
      obtain ⟨request, middle, asked, done⟩ := Effect.bind_returned ran
      cases done
      exact ⟨_, rfl, streamRequest_persisted asked⟩
  | streamEvent parameters event base =>
      obtain ⟨persisted, middle, streamed, done⟩ := Effect.bind_returned ran
      cases done
      exact streamEvent_persisted streamed

theorem run_undone {codec : Codec} {agent : AgentRecord} {command : Command} {error : MissiveError}
    {world after : World} (ran : command.run codec agent world = (.error error, after)) :
    after.store = world.store := by
  have undone {Result : Type} {body : Action Result} {next : Result → Action (Option MessageRecord)}
      (ends : ∀ result, ∃ output, next result = pure output)
      (ran : (transaction body >>= next) world = (.error error, after)) :
      after.store = world.store := by
    cases shown : transaction body world with
    | mk outcome middle =>
        rw [Effect.bind_run, shown] at ran
        cases outcome with
        | ok result =>
            obtain ⟨output, last⟩ := ends result
            change next result middle = _ at ran
            rw [last] at ran
            cases ran
        | error refused =>
            cases ran
            exact transaction_failed shown
  cases command with
  | send parameters prepared outcome => exact undone (fun _ => ⟨_, rfl⟩) ran
  | streamRequest parameters prepared => exact undone (fun _ => ⟨_, rfl⟩) ran
  | streamEvent parameters event base => exact undone (fun _ => ⟨_, rfl⟩) ran

/-! The link of a task to an agent and a context. -/

def taskLink (record : TaskRecord) : AgentAlias × Option ContextId := (record.agentAlias, record.contextId)

-- The link that a write leaves.
def linkLeft (write : TaskWrite) (tasks : Table TaskRecord) : Option (AgentAlias × Option ContextId) :=
  match write.columns (tasks.find? write.taskId) with
  | some columns => some (columns.agentAlias, columns.contextId)
  | none => (tasks.find? write.taskId).map taskLink

theorem applied_link {write : TaskWrite} {before after : Table TaskRecord}
    (applied : Applied (some write) before after) :
    (after.find? write.taskId).map taskLink = linkLeft write before := by
  unfold Applied linkLeft at *
  cases shown : write.columns (before.find? write.taskId) with
  | none =>
      simp only [shown] at applied ⊢
      rw [applied]
  | some columns =>
      simp only [shown] at applied ⊢
      obtain ⟨row, put, keyed, fits⟩ := applied
      have found := before.find?_put_self row
      rw [← put, show key row = write.taskId from keyed] at found
      rw [found, Option.map_some, taskLink, fits.agentAlias, fits.contextId]

/-! Runs. -/

section Runs

variable (reader : Reader)

-- An output of the task that has text.
def texted (taskId : TaskId) (record : MessageRecord) : Bool :=
  record.taskId = some taskId && (messageText reader record).isSome

-- The outputs are held newest first.
def newestOutput (taskId : TaskId) (outputs : List MessageRecord) : Option MessageRecord :=
  outputs.find? (texted reader taskId)

def persisted : Except MissiveError (Option MessageRecord) → List MessageRecord
  | .ok output => output.toList
  | .error _ => []

/-- What a transaction finds, and what it persists. -/
structure Turn where
  agent : AgentRecord
  command : Command
  outputs : List MessageRecord
  before : Store
  output : Option MessageRecord

/-- Runs from a store without messages: transactions of `send` and `stream` in any order, and
whatever else leaves the tasks and the messages alone. -/
inductive Ran (meets : Turn → Prop) : List MessageRecord → World → Prop where
  | start (world : World) (empty : world.store.messages.rows = []) : Ran meets [] world
  | apart {outputs : List MessageRecord} {before after : World} (ran : Ran meets outputs before)
      (tasks : after.store.tasks = before.store.tasks)
      (messages : after.store.messages = before.store.messages) : Ran meets outputs after
  | turn {outputs : List MessageRecord} {before after : World} {agent : AgentRecord}
      {command : Command} {result : Except MissiveError (Option MessageRecord)}
      (ran : Ran meets outputs before)
      (turned : command.run reader.toCodec agent before = (result, after))
      (met : ∀ output, result = .ok output → meets ⟨agent, command, outputs, before.store, output⟩) :
      Ran meets (persisted result ++ outputs) after

/-- Of every member, the text that is read is the one persisted last. -/
def NewestGathered (outputs : List MessageRecord) (store : Store) : Prop :=
  ∀ group contextId, ∀ state ∈ collectMembers store group contextId, ∀ task newest,
    state.task = some task → newestOutput reader task.taskId outputs = some newest →
    latestMemberText reader state = messageText reader newest

-- Where a message stands among those of its agent, context and task.
def place (ordinal : UInt64) (record : MessageRecord) : Lex (Nat × Lex (Int × MessageId)) :=
  toLex (ordinal.toNat, toLex (record.createdAt.millis, record.messageId))

/-- The transaction leaves its task with the agent and the context of the newest text, and lists
a text of its own behind the earlier ones that have its agent, context and task. -/
structure Orderly (turn : Turn) : Prop where
  linked : ∀ write owner contextId newest,
    turn.command.operation.write reader.toCodec turn.agent.aliasName = .ok (some write) →
    linkLeft write turn.before.tasks = some (owner, some contextId) →
    newestOutput reader write.taskId (turn.output.toList ++ turn.outputs) = some newest →
    newest.agentAlias = some owner ∧ newest.contextId = some contextId
  behind : ∀ record taskId, turn.output = some record → texted reader taskId record = true →
    ∀ other ∈ turn.outputs, texted reader taskId other = true →
      other.agentAlias = record.agentAlias → other.contextId = record.contextId →
      place other.ordinal other < place turn.command.ordinal record

end Runs

/-! What runs keep. -/

section Invariant

variable {reader : Reader} {outputs : List MessageRecord} {output : Option MessageRecord}
  {taskId : TaskId} {record other newest : MessageRecord}

theorem texted_iff :
    texted reader taskId record = true ↔
      record.taskId = some taskId ∧ (messageText reader record).isSome = true := by
  simp [texted]

theorem newest_texted (found : newestOutput reader taskId outputs = some newest) :
    newest ∈ outputs ∧ texted reader taskId newest = true :=
  ⟨List.mem_of_find?_eq_some found, List.find?_some found⟩

theorem newest_apart (apart : ∀ record, output = some record → record.taskId ≠ some taskId) :
    newestOutput reader taskId (output.toList ++ outputs) = newestOutput reader taskId outputs := by
  cases output with
  | none => rfl
  | some record =>
      have other : texted reader taskId record = false := by simp [texted, apart record rfl]
      simp [newestOutput, other]

theorem order_of_place (context : other.contextId = record.contextId)
    (task : other.taskId = record.taskId) (below : place other.ordinal other < place record.ordinal record) :
    messageOrder other < messageOrder record := by
  have shown (message : MessageRecord) : messageOrder message = toLex (linkText message.contextId,
      toLex (linkText message.taskId, place message.ordinal message)) := rfl
  rw [shown other, shown record, context, task, Prod.Lex.toLex_lt_toLex]
  refine Or.inr ⟨rfl, ?_⟩
  rw [Prod.Lex.toLex_lt_toLex]
  exact Or.inr ⟨rfl, below⟩

variable (reader) in
/-- The outputs are the stored messages that are no requests; the newest text of a task has the
task's agent and context, and none of its agent, context and task is listed behind it. -/
structure Kept (outputs : List MessageRecord) (store : Store) : Prop where
  stored : ∀ record, record ∈ outputs ↔ record ∈ store.messages.rows ∧ record.direction ≠ .request
  linked : ∀ taskId task contextId newest, store.tasks.find? taskId = some task →
    task.contextId = some contextId → newestOutput reader taskId outputs = some newest →
    newest.agentAlias = some task.agentAlias ∧ newest.contextId = some contextId
  last : ∀ taskId newest, newestOutput reader taskId outputs = some newest →
    ∀ other ∈ outputs, texted reader taskId other = true → other.agentAlias = newest.agentAlias →
      other.contextId = newest.contextId → messageOrder other ≤ messageOrder newest

theorem kept_start {store : Store} (empty : store.messages.rows = []) : Kept reader [] store where
  stored record := by simp [empty]
  linked _ _ _ _ _ _ found := by cases found
  last _ _ found := by cases found

theorem kept_apart {before after : Store} (kept : Kept reader outputs before)
    (tasks : after.tasks = before.tasks) (messages : after.messages = before.messages) :
    Kept reader outputs after where
  stored record := by rw [messages, kept.stored]
  linked taskId task contextId newest found := kept.linked taskId task contextId newest (tasks ▸ found)
  last := kept.last

theorem stored_turn {before after : Table MessageRecord} (told : Told output before after)
    (stored : ∀ record, record ∈ outputs ↔ record ∈ before.rows ∧ record.direction ≠ .request)
    (record : MessageRecord) :
    record ∈ output.toList ++ outputs ↔ record ∈ after.rows ∧ record.direction ≠ .request := by
  rw [List.mem_append, Option.mem_toList, stored]
  constructor
  · rintro (answered | ⟨kept, unasked⟩)
    · have unasked := told.unasked record answered
      exact ⟨(told.stored record unasked).mpr (Or.inl answered), unasked⟩
    · exact ⟨(told.stored record unasked).mpr (Or.inr kept), unasked⟩
  · rintro ⟨listed, unasked⟩
    rcases (told.stored record unasked).mp listed with answered | kept
    · exact Or.inl answered
    · exact Or.inr ⟨kept, unasked⟩

theorem last_turn {before : Store} {agent : AgentRecord} {command : Command}
    (numbered : ∀ record, output = some record → record.ordinal = command.ordinal)
    (orderly : Orderly reader ⟨agent, command, outputs, before, output⟩) (kept : Kept reader outputs before)
    (found : newestOutput reader taskId (output.toList ++ outputs) = some newest)
    (member : other ∈ output.toList ++ outputs) (texts : texted reader taskId other = true)
    (owner : other.agentAlias = newest.agentAlias) (context : other.contextId = newest.contextId) :
    messageOrder other ≤ messageOrder newest := by
  cases output with
  | none => exact kept.last taskId newest found other member texts owner context
  | some record =>
      by_cases shown : texted reader taskId record = true
      · have same : newest = record := by
          simpa [newestOutput, shown, eq_comm] using found
        subst same
        rcases List.mem_cons.mp member with rfl | earlier
        · exact le_rfl
        · have below := orderly.behind newest taskId rfl shown other earlier texts owner context
          have task := (texted_iff.mp texts).1.trans (texted_iff.mp shown).1.symm
          rw [← numbered newest rfl] at below
          exact le_of_lt (order_of_place context task below)
      · have skipped : newestOutput reader taskId outputs = some newest := by
          simpa [newestOutput, shown] using found
        rcases List.mem_cons.mp member with rfl | earlier
        · exact absurd texts shown
        · exact kept.last taskId newest skipped other earlier texts owner context

theorem kept_turn {agent : AgentRecord} {command : Command} {before after : World}
    (kept : Kept reader outputs before.store)
    (ran : command.run reader.toCodec agent before = (.ok output, after))
    (orderly : Orderly reader ⟨agent, command, outputs, before.store, output⟩) :
    Kept reader (output.toList ++ outputs) after.store := by
  obtain ⟨write, written, done⟩ := run_persisted ran
  constructor
  · exact stored_turn done.messages kept.stored
  · intro taskId task contextId newest found shown newer
    by_cases named : write.map TaskWrite.taskId = some taskId
    · obtain ⟨write, rfl, rfl⟩ := Option.map_eq_some_iff.mp named
      have link := applied_link done.tasks
      rw [found, Option.map_some, taskLink, shown] at link
      exact orderly.linked write task.agentAlias contextId newest written link.symm newer
    · rw [applied_apart done.tasks named] at found
      have apart : ∀ record, output = some record → record.taskId ≠ some taskId := by
        intro record answered
        rw [done.task record answered]
        exact named
      rw [newest_apart apart] at newer
      exact kept.linked taskId task contextId newest found shown newer
  · intro taskId newest found other
    exact last_turn done.ordinal orderly kept found

theorem ran_kept {world : World} (ran : Ran reader (Orderly reader) outputs world) :
    Kept reader outputs world.store := by
  induction ran with
  | start world empty => exact kept_start empty
  | apart _ tasks messages ih => exact kept_apart ih tasks messages
  | @turn outputs before after agent command result _ turned met ih =>
      cases result with
      | ok output => exact kept_turn ih turned (met output rfl)
      | error error =>
          have same := run_undone turned
          exact kept_apart ih (congrArg Store.tasks same) (congrArg Store.messages same)

theorem kept_gathered {store : Store} (kept : Kept reader outputs store) :
    NewestGathered reader outputs store := by
  intro group contextId state among task newest selected newer
  obtain ⟨member, -, rfl⟩ := List.mem_map.mp among
  cases latest : latestMemberTask store member.agentAlias contextId with
  | none => simp [collectMember, latest] at selected
  | some found =>
      simp only [collectMember, latest, Option.some.injEq] at selected
      subst selected
      obtain ⟨stored, owner, linked⟩ := latestMemberTask_own latest
      obtain ⟨agent, context⟩ := kept.linked found.taskId found contextId newest stored linked newer
      obtain ⟨listed, texts⟩ := newest_texted newer
      obtain ⟨task, reads⟩ := texted_iff.mp texts
      obtain ⟨text, read⟩ := Option.isSome_iff_exists.mp reads
      obtain ⟨row, unasked⟩ := (kept.stored newest).mp listed
      have first : ∀ other, Output store member.agentAlias contextId found.taskId other →
          After other newest → messageText reader other = none := by
        intro other output later
        by_contra reads
        have written : texted reader found.taskId other = true :=
          texted_iff.mpr ⟨output.task, Option.isSome_iff_ne_none.mpr reads⟩
        have below := kept.last found.taskId newest newer other
          ((kept.stored other).mpr ⟨output.stored, output.unasked⟩) written
          (output.agent.trans (owner ▸ agent.symm)) (output.context.trans context.symm)
        exact absurd later (not_lt_of_ge below)
      have said := outputText_iff.mpr ⟨newest, ⟨⟨row, task, unasked⟩, owner ▸ agent, context⟩, read, first⟩
      simp only [latestMemberText, collectMember, latest, said, read, Option.some_or]

/-- Where every send and every event of a stream finds its place behind the earlier ones of its
task, `gather` reads the newest text of every member. -/
theorem newest_gathered {world : World} (ran : Ran reader (Orderly reader) outputs world) :
    NewestGathered reader outputs world.store := kept_gathered (ran_kept ran)

end Invariant

/-! A stream that says two things, and a send that is answered with a third. -/

def execute (codec : Codec) (agent : AgentRecord) :
    List Command → List MessageRecord → World → List MessageRecord × World
  | [], outputs, world => (outputs, world)
  | command :: rest, outputs, world =>
      let turned := command.run codec agent world
      execute codec agent rest (persisted turned.1 ++ outputs) turned.2

theorem execute_ran {reader : Reader} {meets : Turn → Prop} {agent : AgentRecord}
    {commands : List Command} {outputs : List MessageRecord} {world : World}
    (ran : Ran reader meets outputs world) (always : ∀ turn, meets turn) :
    Ran reader meets (execute reader.toCodec agent commands outputs world).1
      (execute reader.toCodec agent commands outputs world).2 := by
  induction commands generalizing outputs world with
  | nil => exact ran
  | cons command rest ih => exact ih (.turn ran rfl fun _ _ => always _)

def saying (messageId text : String) : Message :=
  { ContextLinks.plainMessage messageId (some sharedContext) (some firstTask) with
    parts := [⟨.text text, none, none, none⟩] }

def streamed (sequence : UInt64) (messageId text : String) : Command :=
  .streamEvent TaskIsolation.plainParameters
    { ContextLinks.messageEvent (saying messageId text) with sequence }
    RequestRecording.preparedRequest.localMetadata

def answered (messageId text : String) : Command :=
  .send TaskIsolation.plainParameters RequestRecording.preparedRequest
    ⟨"http://127.0.0.1", 200, .message (saying messageId text), .null⟩

theorem first_words_orderly (output : Option MessageRecord)
    (said : ((streamed 0 "remote-1" "thinking").run plainCodec TaskIsolation.echoRecord
      BroadcastJournal.teamWorld).1 = .ok output) :
    Orderly plainReader ⟨TaskIsolation.echoRecord, streamed 0 "remote-1" "thinking", [],
      BroadcastJournal.teamWorld.store, output⟩ := by
  constructor
  · intro write owner contextId newest written left newer
    have linked : ((streamed 0 "remote-1" "thinking").operation.write plainCodec
        TaskIsolation.echoRecord.aliasName).toOption.join.bind
        (fun write => linkLeft write BroadcastJournal.teamWorld.store.tasks) =
          some (echoAgent, some sharedContext) := by
      decide
    rw [show (streamed 0 "remote-1" "thinking").operation.write plainCodec
      TaskIsolation.echoRecord.aliasName = _ from written] at linked
    obtain ⟨rfl, same⟩ := Prod.mk.inj (Option.some.inj (left.symm.trans linked))
    cases same
    have own : ((streamed 0 "remote-1" "thinking").run plainCodec TaskIsolation.echoRecord
        BroadcastJournal.teamWorld).1.toOption.join.map
        (fun record => (record.agentAlias, record.contextId)) =
          some (some echoAgent, some sharedContext) := by
      decide
    rw [said] at own
    obtain ⟨record, rfl, shown⟩ := Option.map_eq_some_iff.mp own
    have member := (newest_texted newer).1
    rw [List.append_nil] at member
    cases List.mem_singleton.mp member
    exact ⟨congrArg Prod.fst shown, congrArg Prod.snd shown⟩
  · intro record taskId _ _ other earlier
    exact absurd earlier List.not_mem_nil

def firstWords : List MessageRecord × World :=
  execute plainCodec TaskIsolation.echoRecord [streamed 0 "remote-1" "thinking"] []
    BroadcastJournal.teamWorld

theorem first_words_gathered :
    Ran plainReader (Orderly plainReader) firstWords.1 firstWords.2 ∧
      NewestGathered plainReader firstWords.1 firstWords.2.store := by
  have ran : Ran plainReader (Orderly plainReader) firstWords.1 firstWords.2 :=
    .turn (.start BroadcastJournal.teamWorld rfl) rfl first_words_orderly
  exact ⟨ran, newest_gathered ran⟩

def talk : List MessageRecord × World :=
  execute plainCodec TaskIsolation.echoRecord
    [streamed 0 "remote-1" "thinking", streamed 1 "remote-2" "still working",
      answered "remote-3" "done"] [] BroadcastJournal.teamWorld

-- One evaluation of the talk shows what it leaves.
theorem talk_shown :
    (newestOutput plainReader firstTask talk.1).bind (messageText plainReader) = some "done" ∧
    (latestMemberTask talk.2.store echoAgent sharedContext).map TaskRecord.taskId =
      some firstTask ∧
    (∀ record ∈ talk.2.store.messages.rows,
      messageText plainReader record = some "done" → record.ordinal = 1) ∧
    ((some echoAgent, some sharedContext, some firstTask, MessageDirection.streamEvent,
        (2 : UInt64), some "still working") ∈ talk.2.store.messages.rows.map fun record =>
      (record.agentAlias, record.contextId, record.taskId, record.direction, record.ordinal,
        messageText plainReader record)) ∧
    (listGroupMembers talk.2.store teamGroup.groupName).map GroupMemberRecord.agentAlias =
      [echoAgent] := by
  decide +kernel

theorem done_unread :
    ¬ ∀ reader outputs world, Ran reader (fun _ => True) outputs world →
      NewestGathered reader outputs world.store := by
  intro gathered
  have ran : Ran plainReader (fun _ => True) talk.1 talk.2 :=
    execute_ran (.start BroadcastJournal.teamWorld rfl) fun _ => trivial
  obtain ⟨newestSaid, latestTask, ordered, spoken, team⟩ := talk_shown
  obtain ⟨task, latest, named⟩ := Option.map_eq_some_iff.mp latestTask
  obtain ⟨newest, newer, words⟩ := Option.bind_eq_some_iff.mp newestSaid
  obtain ⟨member, others, listed, owner, -⟩ := List.map_eq_cons_iff.mp team
  have among : collectMember talk.2.store sharedContext member ∈
      collectMembers talk.2.store teamGroup.groupName sharedContext :=
    List.mem_map.mpr ⟨member, listed ▸ List.mem_cons_self, rfl⟩
  rw [← owner] at latest
  have read := gathered plainReader talk.1 talk.2 ran teamGroup.groupName sharedContext _ among task newest
    (by simp only [collectMember, latest]) (named ▸ newer)
  simp only [words, latestMemberText, collectMember, latest, named] at read
  obtain ⟨later, stored, columns⟩ := List.mem_map.mp spoken
  simp only [Prod.mk.injEq] at columns
  obtain ⟨agent, context, about, direction, ordinal, text⟩ := columns
  have output : Output talk.2.store member.agentAlias sharedContext firstTask later :=
    ⟨⟨stored, about, by simp [direction]⟩, owner ▸ agent, context⟩
  rcases Option.or_eq_some_iff.mp read with said | ⟨silent, -⟩
  · obtain ⟨record, first⟩ := outputText_iff.mp said
    have numbered := ordered record first.among.stored first.reads
    have below : place record.ordinal record < place later.ordinal later := by
      have fewer : (1 : UInt64).toNat < (2 : UInt64).toNat := by decide
      rw [numbered, ordinal]
      exact Prod.Lex.toLex_lt_toLex.mpr (Or.inl fewer)
    have behind := order_of_place (first.among.context.trans context.symm)
      (first.among.task.trans about.symm) below
    rw [first.first later output behind] at text
    cases text
  · have unread := List.findSome?_eq_none_iff.mp silent later
      (List.mem_reverse.mpr (mem_outputMessages.mpr output))
    rw [unread] at text
    cases text

end Missive.NewestOutput
