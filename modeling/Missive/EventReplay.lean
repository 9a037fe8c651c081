import Mathlib.Data.Finset.Insert
import Missive.Schema
import Missive.JsonRedaction

/-! Summaries of contexts and tasks, reconstructed from the event journal. The reader looks up
the state of a context and of a task on fixed paths of the payload, whatever the event's type. -/
namespace Missive.EventReplay

open RustText JsonValue KeyedTable Missive.Core Schema

/-! Reading a payload. -/

def atPath : Json → List String → Option Json
  | value, [] => some value
  | value, key :: rest => (value.get key).bind fun held => atPath held rest

def stringAtPaths (payload : Json) (paths : List (List String)) : Option String :=
  paths.findSome? fun path => (atPath payload path).bind Json.asStr

def statePaths : List (List String) :=
  [["state"], ["task", "state"], ["task", "status", "state"], ["status", "state"],
    ["response", "state"], ["response", "task", "status", "state"]]

def stateFromPayload (payload : Json) : Option String := stringAtPaths payload statePaths

def contextStatePaths : List (List String) := [["context", "state"], ["context_state"], ["state"]]

def contextNamePaths : List (List String) := [["context", "name"], ["name"]]

def taskContextPaths : List (List String) :=
  [["context_id"], ["contextId"], ["task", "context_id"], ["task", "contextId"]]

-- `str::strip_prefix`
def stripPrefix (pattern text : Text) : Option Text :=
  if pattern.isPrefixOf text then some (text.drop pattern.length) else none

def normalizeState (value : String) : String :=
  let trimmed := JsonRedaction.trim value.toList
  let bare := ((stripPrefix "TASK_STATE_".toList trimmed).or
    (stripPrefix "task_state_".toList trimmed)).getD trimmed
  String.ofList ((lowercase bare).map fun c => if c = '-' then '_' else c)

/-! The summaries. -/

structure ReplayContext where
  contextId : String
  agent : Option String
  state : Option String
  name : Option String
  taskIds : Finset String
  eventCount : Nat
  firstSequence : Nat
  lastSequence : Nat
  firstTimestamp : EventTime
  lastTimestamp : EventTime
  lastEventType : String

structure ReplayTask where
  taskId : String
  agent : Option String
  contextId : Option String
  state : Option String
  eventCount : Nat
  firstSequence : Nat
  lastSequence : Nat
  firstTimestamp : EventTime
  lastTimestamp : EventTime
  lastEventType : String

structure EventTypeCount where
  eventType : String
  count : Nat

instance : Keyed ReplayContext String := ⟨ReplayContext.contextId⟩
instance : Keyed ReplayTask String := ⟨ReplayTask.taskId⟩
instance : Keyed EventTypeCount String := ⟨EventTypeCount.eventType⟩

def ReplayContext.new (record : EventRecord) (contextId : String) : ReplayContext where
  contextId := contextId
  agent := record.agentAlias.map Id.text
  state := none
  name := none
  taskIds := ∅
  eventCount := 0
  firstSequence := record.sequence
  lastSequence := record.sequence
  firstTimestamp := record.timestamp
  lastTimestamp := record.timestamp
  lastEventType := record.eventType

def ReplayContext.observe (context : ReplayContext) (record : EventRecord) : ReplayContext :=
  { context with
    eventCount := context.eventCount + 1
    lastSequence := record.sequence
    lastTimestamp := record.timestamp
    lastEventType := record.eventType }

def ReplayTask.new (record : EventRecord) (taskId : String) : ReplayTask where
  taskId := taskId
  agent := record.agentAlias.map Id.text
  contextId := record.contextId.map Id.text
  state := none
  eventCount := 0
  firstSequence := record.sequence
  lastSequence := record.sequence
  firstTimestamp := record.timestamp
  lastTimestamp := record.timestamp
  lastEventType := record.eventType

def ReplayTask.observe (task : ReplayTask) (record : EventRecord) : ReplayTask :=
  { task with
    eventCount := task.eventCount + 1
    lastSequence := record.sequence
    lastTimestamp := record.timestamp
    lastEventType := record.eventType }

def contextEntry (contexts : Table ReplayContext) (record : EventRecord) (contextId : String) :
    ReplayContext :=
  (contexts.find? contextId).getD (.new record contextId)

def taskEntry (tasks : Table ReplayTask) (record : EventRecord) (taskId : String) : ReplayTask :=
  (tasks.find? taskId).getD (.new record taskId)

/-! One event. -/

def contextOf (contexts : Table ReplayContext) (record : EventRecord) (contextId : String) :
    ReplayContext :=
  let context := (contextEntry contexts record contextId).observe record
  { context with
    agent := context.agent.or (record.agentAlias.map Id.text)
    state := (stringAtPaths record.payloadJson contextStatePaths).or context.state
    name := (stringAtPaths record.payloadJson contextNamePaths).or context.name }

def applyContextReplay (record : EventRecord) (contexts : Table ReplayContext) :
    Table ReplayContext :=
  match record.contextId with
  | none => contexts
  | some contextId => contexts.put (contextOf contexts record contextId.text)

def taskOf (tasks : Table ReplayTask) (record : EventRecord) (taskId : String) : ReplayTask :=
  let task := (taskEntry tasks record taskId).observe record
  { task with
    agent := task.agent.or (record.agentAlias.map Id.text)
    contextId := (task.contextId.or (record.contextId.map Id.text)).or
      (stringAtPaths record.payloadJson taskContextPaths)
    state := ((stateFromPayload record.payloadJson).map normalizeState).or task.state }

-- The context of the task, which the event need not be linked to.
def taskContext (contexts : Table ReplayContext) (record : EventRecord) (taskId contextId : String) :
    ReplayContext :=
  let context := (contextEntry contexts record contextId).observe record
  { context with
    taskIds := insert taskId context.taskIds
    agent := context.agent.or (record.agentAlias.map Id.text) }

def linkTask (record : EventRecord) (task : ReplayTask) (contexts : Table ReplayContext) :
    Table ReplayContext :=
  match task.contextId with
  | none => contexts
  | some contextId => contexts.put (taskContext contexts record task.taskId contextId)

def countEventType (eventTypes : Table EventTypeCount) (eventType : String) : Table EventTypeCount :=
  eventTypes.put ⟨eventType, ((eventTypes.find? eventType).elim 0 EventTypeCount.count) + 1⟩

-- The filters, the counts and the message of the output are copied or counted from these.
structure Replay where
  eventTypes : Table EventTypeCount
  contexts : Table ReplayContext
  tasks : Table ReplayTask

def Replay.empty : Replay := ⟨.empty, .empty, .empty⟩

def Replay.apply (replay : Replay) (record : EventRecord) : Replay :=
  let eventTypes := countEventType replay.eventTypes record.eventType
  let contexts := applyContextReplay record replay.contexts
  match record.taskId with
  | none => ⟨eventTypes, contexts, replay.tasks⟩
  | some taskId =>
      let task := taskOf replay.tasks record taskId.text
      ⟨eventTypes, linkTask record task contexts, replay.tasks.put task⟩

def replayRecords (records : List EventRecord) : Replay :=
  records.foldl Replay.apply .empty

/-! What the replay says of a task is what its last event that shows a state says. -/

theorem replayRecords_concat (records : List EventRecord) (last : EventRecord) :
    replayRecords (records ++ [last]) = (replayRecords records).apply last := by
  rw [replayRecords, List.foldl_append]
  rfl

theorem apply_tasks (replay : Replay) (record : EventRecord) :
    (replay.apply record).tasks = match record.taskId with
      | none => replay.tasks
      | some taskId => replay.tasks.put (taskOf replay.tasks record taskId.text) := by
  unfold Replay.apply
  cases record.taskId <;> rfl

theorem taskOf_taskId (tasks : Table ReplayTask) (record : EventRecord) (taskId : String) :
    (taskOf tasks record taskId).taskId = taskId := by
  change (taskEntry tasks record taskId).taskId = taskId
  unfold taskEntry
  cases found : tasks.find? taskId with
  | none => rfl
  | some task => exact tasks.find?_key found

def replayedState (replay : Replay) (taskId : TaskId) : Option String :=
  (replay.tasks.find? taskId.text).bind ReplayTask.state

theorem apply_shown {replay : Replay} {record : EventRecord} {taskId : TaskId} {state : String}
    (linked : record.taskId = some taskId)
    (shown : stateFromPayload record.payloadJson = some state) :
    replayedState (replay.apply record) taskId = some (normalizeState state) := by
  have put : (replay.apply record).tasks.find? taskId.text =
      some (taskOf replay.tasks record taskId.text) := by
    rw [apply_tasks, linked]
    have found := replay.tasks.find?_put_self (taskOf replay.tasks record taskId.text)
    rwa [show key (taskOf replay.tasks record taskId.text) = taskId.text from
      taskOf_taskId _ _ _] at found
  rw [replayedState, put, Option.bind_some]
  simp only [taskOf, shown, Option.map_some, Option.some_or]

theorem apply_apart {replay : Replay} {record : EventRecord} {taskId : TaskId}
    (apart : record.taskId ≠ some taskId) :
    replayedState (replay.apply record) taskId = replayedState replay taskId := by
  rw [replayedState, apply_tasks]
  cases linked : record.taskId with
  | none => rfl
  | some other =>
      have different : taskId.text ≠ other.text := by
        intro same
        exact apart (linked.trans (congrArg some (Id.ext_text same.symm)))
      have kept := replay.tasks.find?_put_other (taskOf replay.tasks record other.text) taskId.text
        (by rwa [show key (taskOf replay.tasks record other.text) = other.text from
          taskOf_taskId _ _ _])
      exact congrArg (Option.bind · ReplayTask.state) kept

def lastOf (taskId : TaskId) (records : List EventRecord) : Option EventRecord :=
  (records.filter fun record => record.taskId = some taskId).getLast?

theorem lastOf_append (taskId : TaskId) (before added : List EventRecord) :
    lastOf taskId (before ++ added) = (lastOf taskId added).or (lastOf taskId before) := by
  rw [lastOf, List.filter_append, List.getLast?_append]
  rfl

theorem lastOf_linked {taskId : TaskId} {records : List EventRecord} {record : EventRecord}
    (last : lastOf taskId records = some record) : record ∈ records ∧ record.taskId = some taskId := by
  simpa using List.mem_filter.mp (List.mem_of_getLast? last)

/-- Where the last event of a task shows a state, the replay reports it. -/
theorem replayedState_last {records : List EventRecord} {taskId : TaskId} {last : EventRecord}
    {state : String} (found : lastOf taskId records = some last)
    (shown : stateFromPayload last.payloadJson = some state) :
    replayedState (replayRecords records) taskId = some (normalizeState state) := by
  induction records using List.reverseRecOn with
  | nil => contradiction
  | append_singleton records record ih =>
      rw [replayRecords_concat]
      rw [lastOf_append] at found
      by_cases linked : record.taskId = some taskId
      · have alone : lastOf taskId [record] = some record := by simp [lastOf, linked]
        rw [alone, Option.some_or, Option.some.injEq] at found
        rw [← found] at shown
        exact apply_shown linked shown
      · have none_ : lastOf taskId [record] = none := by simp [lastOf, linked]
        rw [none_, Option.none_or] at found
        rw [apply_apart linked]
        exact ih found

/-! Payloads are redacted before they are stored. The replay sees what the redactor leaves. -/

/-- The redactor keeps what is under the keys, and `shown` is what it makes of a text. -/
structure Transparent (keys : List String) (shown : String → String) (redact : Json → Json) :
    Prop where
  get : ∀ key ∈ keys, ∀ value, (redact value).get key = (value.get key).map redact
  asStr : ∀ value, (redact value).asStr = value.asStr.map shown

section Redacted

variable {keys : List String} {shown : String → String} {redact : Json → Json}

theorem atPath_redacted (transparent : Transparent keys shown redact) (path : List String)
    (listed : ∀ key ∈ path, key ∈ keys) (value : Json) :
    atPath (redact value) path = (atPath value path).map redact := by
  induction path generalizing value with
  | nil => rfl
  | cons key rest ih =>
      rw [atPath, atPath, transparent.get key (listed key List.mem_cons_self)]
      cases value.get key with
      | none => rfl
      | some held => exact ih (fun key later => listed key (List.mem_cons_of_mem _ later)) held

theorem stringAtPaths_redacted (transparent : Transparent keys shown redact)
    (paths : List (List String)) (listed : ∀ path ∈ paths, ∀ key ∈ path, key ∈ keys)
    (payload : Json) :
    stringAtPaths (redact payload) paths = (stringAtPaths payload paths).map shown := by
  induction paths with
  | nil => rfl
  | cons path rest ih =>
      have later := ih fun path member => listed path (List.mem_cons_of_mem _ member)
      unfold stringAtPaths at later ⊢
      rw [List.findSome?_cons, List.findSome?_cons, later,
        atPath_redacted transparent path (listed path List.mem_cons_self)]
      cases atPath payload path with
      | none => rfl
      | some held =>
          simp only [Option.map_some, Option.bind_some, transparent.asStr]
          cases held.asStr <;> rfl

end Redacted

theorem plain_transparent {keys : List String} {secret : String → Bool}
    (clear : ∀ key ∈ keys, secret key = false) :
    Transparent keys id (JsonRedaction.redactPlain secret .string) where
  get := by
    intro key member value
    cases value with
    | object fields =>
        simp only [JsonRedaction.redactPlain, get_object, JsonRedaction.redact_fields_map]
        rw [lookup_map_values fields fun name value =>
          if secret name then JsonRedaction.marker else JsonRedaction.redactPlain secret .string value]
        simp [clear key member]
    | _ => rfl
  asStr value := by cases value <;> rfl

theorem deep_lookup {secret : String → Bool} {text header : String → Json} {key : String}
    (clear : secret key = false) (apart : JsonRedaction.namesHeaders key = false)
    (fields : List (String × Json)) :
    (JsonRedaction.redactObject secret text header fields).lookup key =
      (fields.lookup key).map (JsonRedaction.redactDeep secret text header) := by
  induction fields with
  | nil => rfl
  | cons field rest ih =>
      obtain ⟨name, value⟩ := field
      rw [JsonRedaction.redactObject, List.lookup_cons, List.lookup_cons, ih]
      by_cases same : key = name
      · subst same
        simp [clear, apart]
      · have other : (key == name) = false := by simpa using same
        simp only [other]

theorem deep_transparent {keys : List String} {secret : String → Bool}
    {redactText header : RustText.Text → RustText.Text}
    (clear : ∀ key ∈ keys, secret key = false ∧ JsonRedaction.namesHeaders key = false) :
    Transparent keys (fun text => String.ofList (redactText text.toList))
      (JsonRedaction.redactDeep secret (JsonRedaction.onText redactText)
        (JsonRedaction.onText header)) where
  get := by
    intro key member value
    cases value with
    | object fields =>
        rw [JsonRedaction.redactDeep, get_object, get_object]
        exact deep_lookup (clear key member).1 (clear key member).2 fields
    | _ => rfl
  asStr value := by cases value <;> rfl

-- The keys on the paths to a state.
def stateKeys : List String :=
  ["context", "context_state", "response", "state", "status", "statusUpdate", "task"]

def outputShown (text : String) : String :=
  String.ofList (TextRedaction.outputRedactText text.toList)

theorem output_transparent : Transparent stateKeys outputShown JsonRedaction.outputRedactJson :=
  deep_transparent (by decide)

theorem jobs_transparent : Transparent stateKeys id JsonRedaction.jobsRedactJson :=
  plain_transparent (by decide)

theorem subscription_transparent : Transparent stateKeys id JsonRedaction.subscriptionRedactJson :=
  plain_transparent (by decide)

end Missive.EventReplay
