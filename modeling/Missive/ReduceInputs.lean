import Missive.BroadcastJournal
import Missive.JobPersistence
import Missive.MemberOutputs

/-! The background `reduce` job of the gateway. It reads the members of a group with functions of
its own: the status message before the other messages, one message only, and no artifacts. -/
namespace Missive.ReduceInputs

open JsonValue KeyedTable Missive.Core Schema Effects Repository Artifacts Protocol TaskPersistence
open Collectives MemberOutputs

structure ReduceSource where
  rank : RankName
  agent : AgentAlias
  taskId : Option TaskId
  state : Option TaskState
  text : Option String
  status : String

section Gateway

variable (reader : Reader)

def textFromTaskRecord (task : TaskRecord) : Option String := do
  let raw ← task.remoteTaskJson
  let task ← reader.taskFromValue raw
  let message ← task.status.message
  reader.text message

def newestMessage (task : TaskRecord) (messages : List MessageRecord) : Option MessageRecord :=
  LastMax.maxByKey (fun message : MessageRecord => message.createdAt.millis)
    ((messages.filter fun message => message.taskId = some task.taskId).filter
      fun message => message.direction ≠ .request)

def textFromLatestMessage (task : TaskRecord) (messages : List MessageRecord) : Option String := do
  let message ← newestMessage task messages
  let message ← reader.messageFromValue message.contentJson
  reader.text message

def reduceSourceForMember (member : GroupMemberRecord) (contextId : ContextId)
    (tasks : List TaskRecord) (messages : List MessageRecord) : ReduceSource :=
  let latestTask := LastMax.maxByKey (fun task : TaskRecord => task.updatedAt.millis)
    ((tasks.filter fun task => task.agentAlias = member.agentAlias).filter
      fun task => task.contextId = some contextId)
  { rank := member.rankName
    agent := member.agentAlias
    taskId := latestTask.map TaskRecord.taskId
    state := latestTask.map TaskRecord.state
    text := (latestTask.bind (textFromTaskRecord reader)).or
      (latestTask.bind fun task => textFromLatestMessage reader task messages)
    status := if latestTask.isSome then "ok" else "missing_task" }

def reduceSources (store : Store) (group : GroupName) (contextId : ContextId) : List ReduceSource :=
  (listGroupMembers store group).map fun member =>
    reduceSourceForMember reader member contextId store.tasks.rows (listMessages store)

/-! The output that the job makes of its sources. -/

def reduceSummaryOutput (sources : List ReduceSource) : String :=
  "\n".intercalate ("# Background reduce summary" :: sources.map fun source =>
    s!"- {source.rank.text} ({source.agent.text}): " ++
      source.text.getD "No local output available.")

def reduceMergeOutput (sources : List ReduceSource) : String :=
  "\n\n".intercalate (sources.filterMap ReduceSource.text)

def reduceRankOutput (sources : List ReduceSource) : String :=
  "\n".intercalate (sources.mapIdx fun index source =>
    s!"{index + 1}. {source.rank.text} ({source.agent.text})")

def reduceVoteOutput (sources : List ReduceSource) : String :=
  s!"{sources.countP fun source => source.text.isSome}/{sources.length} source(s) produced local output"

def reduceOutput (strategy : String) (sources : List ReduceSource) : String :=
  match strategy with
  | "vote" => reduceVoteOutput sources
  | "rank" => reduceRankOutput sources
  | "merge" => reduceMergeOutput sources
  | _ => reduceSummaryOutput sources

def reduceLocally (store : Store) (group : GroupName) (contextId : ContextId) (strategy : String) :
    Except MissiveError (List ReduceSource × String) :=
  if (store.groups.find? group).isNone then
    .error (MissiveError.validation s!"group {debug group.text} is not known locally")
  else
    let sources := reduceSources reader store group contextId
    .ok (sources, reduceOutput strategy sources)

end Gateway

/-! The task. -/

section Readings

variable {reader : Reader} {store : Store} {member : GroupMemberRecord} {contextId : ContextId}
  {task : TaskRecord} {text : String}

theorem memberTasks_sorted (store : Store) (agentAlias : AgentAlias) (contextId : ContextId) :
    (memberTasks store agentAlias contextId).Pairwise fun first last => first.taskId < last.taskId :=
  (store.tasks.sorted.filter _).filter _

-- The gateway compares the times only, of tasks that are listed by their ids.
theorem latestTask_same (store : Store) (agentAlias : AgentAlias) (contextId : ContextId) :
    LastMax.maxByKey (fun task : TaskRecord => task.updatedAt.millis)
      (memberTasks store agentAlias contextId) = latestMemberTask store agentAlias contextId :=
  LastMax.maxByKey_sorted (memberTasks_sorted store agentAlias contextId)

/-! The newest message. -/

/-- A reply that none was created after; of those created together, the last one listed. -/
structure Newest (store : Store) (taskId : TaskId) (record : MessageRecord) : Prop
    extends Reply store taskId record where
  newest : ∀ other, Reply store taskId other →
    toLex (other.createdAt.millis, messageOrder other) ≤
      toLex (record.createdAt.millis, messageOrder record)

theorem mem_replies {taskId : TaskId} {record : MessageRecord} :
    record ∈ ((listMessages store).filter fun message => message.taskId = some taskId).filter
      (fun message => message.direction ≠ .request) ↔ Reply store taskId record := by
  simp only [List.mem_filter, decide_eq_true_eq, listMessages, OrderedLists.mem_sortByKey]
  constructor
  · rintro ⟨⟨stored, own⟩, unasked⟩
    exact ⟨stored, own, unasked⟩
  · rintro ⟨stored, own, unasked⟩
    exact ⟨⟨stored, own⟩, unasked⟩

theorem newestMessage_iff {record : MessageRecord} :
    newestMessage task (listMessages store) = some record ↔ Newest store task.taskId record := by
  have sorted := ((listMessages_sorted store).filter
    fun message => message.taskId = some task.taskId).filter fun message => message.direction ≠ .request
  unfold newestMessage
  rw [LastMax.maxByKey_sorted sorted]
  constructor
  · intro found
    refine ⟨mem_replies.mp (LastMax.maxByKey_mem found), ?_⟩
    intro other among
    exact LastMax.maxByKey_le found other (mem_replies.mpr among)
  · rintro ⟨among, newest⟩
    have listed := mem_replies.mpr among
    cases found : LastMax.maxByKey (fun message : MessageRecord =>
        toLex (message.createdAt.millis, messageOrder message)) _ with
    | none =>
        rw [LastMax.maxByKey_eq_none.mp found] at listed
        cases listed
    | some winner =>
        have won := mem_replies.mp (LastMax.maxByKey_mem found)
        have same := le_antisymm (newest winner won) (LastMax.maxByKey_le found record listed)
        have ids := messageOrder_injective (congrArg Prod.snd (toLex.injective same))
        exact congrArg some (store.messages.unique won.stored among.stored ids)

theorem newestText_iff :
    textFromLatestMessage reader task (listMessages store) = some text ↔
      ∃ record, Newest store task.taskId record ∧ messageText reader record = some text := by
  have reads : textFromLatestMessage reader task (listMessages store) =
      (newestMessage task (listMessages store)).bind (messageText reader) := rfl
  rw [reads, Option.bind_eq_some_iff]
  simp only [newestMessage_iff]

theorem outputText_none :
    (outputMessagesForTask store member contextId task.taskId).reverse.findSome? (messageText reader) =
      none ↔
    ∀ record, Output store member.agentAlias contextId task.taskId record →
      messageText reader record = none := by
  rw [List.findSome?_eq_none_iff]
  simp only [List.mem_reverse, mem_outputMessages]

/-! The two readings. -/

-- The first of two answers, of which one side looks at the second before the third.
theorem readings_agree_iff {Text : Type} (output status artifact newest : Option Text) :
    output.or (status.or artifact) = status.or newest ↔
      (∀ reported, status = some reported → ∀ text, output = some text → text = reported) ∧
        (status = none → ∀ text, newest = some text ↔
          output = some text ∨ (output = none ∧ artifact = some text)) := by
  cases status with
  | some reported => cases output <;> simp
  | none =>
      cases output with
      | some said =>
          constructor
          · intro same
            exact ⟨by simp, fun _ text => by rw [← show some said = newest from same]; simp⟩
          · rintro ⟨-, agrees⟩
            exact ((agrees rfl said).mpr (.inl rfl)).symm
      | none =>
          constructor
          · intro same
            exact ⟨by simp, fun _ text => by rw [show artifact = newest from same]; simp⟩
          · rintro ⟨-, agrees⟩
            exact Option.ext fun text => by simpa using (agrees rfl text).symm

/-- What the rows of a task have to say for both commands to read the same text. -/
structure SameWords (reader : Reader) (store : Store) (agentAlias : AgentAlias)
    (contextId : ContextId) (task : TaskRecord) : Prop where
  reported : ∀ reported, taskStatusText reader task = some reported → ∀ text record,
    ReadFrom (Output store agentAlias contextId task.taskId) After (messageText reader) text record →
    text = reported
  unreported : taskStatusText reader task = none → ∀ text,
    (∃ record, Newest store task.taskId record ∧ messageText reader record = some text) ↔
      (∃ record, ReadFrom (Output store agentAlias contextId task.taskId) After (messageText reader)
        text record) ∨
      ((∀ record, Output store agentAlias contextId task.taskId record →
          messageText reader record = none) ∧
        ∃ record, ReadFrom (OfTask store task.taskId) Before (artifactText reader) text record)

theorem texts_agree_iff (reader : Reader) (store : Store) (member : GroupMemberRecord)
    (contextId : ContextId) (task : TaskRecord) :
    ((outputMessagesForTask store member contextId task.taskId).reverse.findSome?
        (messageText reader)).or
        ((taskStatusText reader task).or
          (firstArtifactTextFromRecords reader (listArtifactsForTask store task.taskId))) =
      (textFromTaskRecord reader task).or (textFromLatestMessage reader task (listMessages store)) ↔
    SameWords reader store member.agentAlias contextId task := by
  rw [show textFromTaskRecord reader task = taskStatusText reader task from rfl, readings_agree_iff]
  simp only [newestText_iff, outputText_none, outputText_iff, artifactText_iff]
  constructor
  · rintro ⟨reported, unreported⟩
    exact ⟨fun status shown text record read => reported status shown text ⟨record, read⟩, unreported⟩
  · rintro ⟨reported, unreported⟩
    exact ⟨fun status shown text ⟨record, read⟩ => reported status shown text record read, unreported⟩

-- What a command selected of a member: its task and its text.
structure Selection where
  taskId : Option TaskId
  text : Option String

def foregroundSelection (reader : Reader) (state : MemberState) : Selection :=
  ⟨state.task.map TaskRecord.taskId, latestMemberText reader state⟩

def backgroundSelection (source : ReduceSource) : Selection := ⟨source.taskId, source.text⟩

theorem selections_agree_iff (reader : Reader) (store : Store) (contextId : ContextId)
    (member : GroupMemberRecord) :
    foregroundSelection reader (collectMember store contextId member) =
      backgroundSelection (reduceSourceForMember reader member contextId store.tasks.rows
        (listMessages store)) ↔
    ∀ task, latestMemberTask store member.agentAlias contextId = some task →
      SameWords reader store member.agentAlias contextId task := by
  have latest := latestTask_same store member.agentAlias contextId
  unfold memberTasks at latest
  unfold foregroundSelection backgroundSelection reduceSourceForMember collectMember
  rw [latest]
  cases found : latestMemberTask store member.agentAlias contextId with
  | none => simp [latestMemberText, firstArtifactTextFromRecords]
  | some task =>
      have agree := texts_agree_iff reader store member contextId task
      simpa [latestMemberText] using agree

/-- The two commands select the same of every member just where its rows say the same. -/
theorem reduce_inputs_agree_iff (reader : Reader) (store : Store) (group : GroupName)
    (contextId : ContextId) :
    (collectMembers store group contextId).map (foregroundSelection reader) =
      (reduceSources reader store group contextId).map backgroundSelection ↔
    ∀ member ∈ listGroupMembers store group, ∀ task,
      latestMemberTask store member.agentAlias contextId = some task →
      SameWords reader store member.agentAlias contextId task := by
  unfold collectMembers reduceSources
  rw [List.map_map, List.map_map, List.map_inj_left]
  simp only [Function.comp_apply, selections_agree_iff]

end Readings

/-! A stream that reports a status message and then has more to say. -/

def statusMessage : Message :=
  { ContextLinks.plainMessage "remote-1" (some sharedContext) (some firstTask) with
    parts := [⟨.text "thinking", none, none, none⟩] }

def thinkingTask : RemoteTask :=
  { TaskIsolation.plainTask firstTask .working with status := ⟨.working, some statusMessage, none⟩ }

def laterMessage : StreamMessageEvent :=
  { ContextLinks.messageEvent
      (ContextLinks.plainMessage "remote-2" (some sharedContext) (some firstTask)) with sequence := 1 }

def streamThinking : Action Unit := do
  let base := RequestRecording.preparedRequest.localMetadata
  let _ ← Stream.persistStreamEvent plainCodec TaskIsolation.echoRecord
    (JobPersistence.taskEvent thinkingTask) base TaskIsolation.plainParameters
  let _ ← Stream.persistStreamEvent plainCodec TaskIsolation.echoRecord laterMessage base
    TaskIsolation.plainParameters

def thinkingStore : Store := (streamThinking BroadcastJournal.teamWorld).2.store

theorem thinking_read :
    (latestMemberTask thinkingStore echoAgent sharedContext).map
      (fun task => (task.taskId, taskStatusText plainReader task)) = some (firstTask, some "thinking") := by
  decide

theorem later_words_stored :
    thinkingStore.messages.rows.map (fun record => (record.agentAlias, record.contextId, record.taskId,
      record.direction, messageText plainReader record)) =
      [(some echoAgent, some sharedContext, some firstTask, .streamEvent, none),
        (some echoAgent, some sharedContext, some firstTask, .streamEvent, some "still working")] := by
  decide

theorem later_words_last : ∃ record,
    ReadFrom (Output thinkingStore echoAgent sharedContext firstTask) After (messageText plainReader)
      "still working" record := by
  obtain ⟨first, rest, rows, unread, others⟩ := List.map_eq_cons_iff.mp later_words_stored
  obtain ⟨last, none, two, words, nothing⟩ := List.map_eq_cons_iff.mp others
  cases List.map_eq_nil_iff.mp nothing
  cases two
  simp only [Prod.mk.injEq] at unread words
  obtain ⟨agent, context, task, direction, text⟩ := words
  refine ⟨last, ⟨⟨⟨rows ▸ by simp, task, by simp [direction]⟩, agent, context⟩, text, ?_⟩⟩
  intro other output later
  have listed := output.stored
  rw [rows] at listed
  rcases List.mem_pair.mp listed with rfl | rfl
  · exact unread.2.2.2.2
  · exact absurd later (lt_irrefl _)

theorem thinking_unagreed :
    (collectMembers thinkingStore Collectives.teamGroup.groupName sharedContext).map
        (foregroundSelection plainReader) ≠
      (reduceSources plainReader thinkingStore Collectives.teamGroup.groupName sharedContext).map
        backgroundSelection := by
  intro same
  unfold collectMembers reduceSources at same
  rw [List.map_map, List.map_map, List.map_inj_left] at same
  have team : (listGroupMembers thinkingStore Collectives.teamGroup.groupName).map
      GroupMemberRecord.agentAlias = [echoAgent] := by
    decide +kernel
  obtain ⟨member, others, listed, named, -⟩ := List.map_eq_cons_iff.mp team
  obtain ⟨task, latest, told⟩ := Option.map_eq_some_iff.mp thinking_read
  simp only [Prod.mk.injEq] at told
  have agree := same member (listed ▸ List.mem_cons_self)
  simp only [Function.comp_apply] at agree
  rw [selections_agree_iff, named] at agree
  obtain ⟨record, read⟩ := later_words_last
  have words := (agree task latest).reported "thinking" told.2 "still working" record (told.1 ▸ read)
  exact absurd words (by decide)

end Missive.ReduceInputs
