import Missive.EventReplay
import Missive.TableSums

/-! The counts of `missive events replay`. An event reaches the summary of a context when it is
linked to the context, and again when the context is known by then to be that of its task. -/
namespace Missive.ReplayCounts

open KeyedTable Missive.Core Schema EventReplay

-- The profile and the filters of the output are copied from the command.
structure EventReplayOutput where
  eventCount : Nat
  contextCount : Nat
  taskCount : Nat
  eventTypes : Table EventTypeCount
  contexts : Table ReplayContext
  tasks : Table ReplayTask
  message : String

def replayOutput (records : List EventRecord) : EventReplayOutput :=
  let replay := replayRecords records
  { eventCount := records.length
    contextCount := replay.contexts.rows.length
    taskCount := replay.tasks.rows.length
    eventTypes := replay.eventTypes
    contexts := replay.contexts
    tasks := replay.tasks
    message := s!"Replayed {records.length} event(s) into " ++
      s!"{replay.contexts.rows.length} context summary(s) and " ++
      s!"{replay.tasks.rows.length} task summary(s)" }

/-! How many events there are, and the sequences of the first and of the last. -/

structure Tally where
  count : Nat
  first : Nat
  last : Nat

def tally (records : List EventRecord) : Option Tally :=
  match records.head?, records.getLast? with
  | some first, some last => some ⟨records.length, first.sequence, last.sequence⟩
  | _, _ => none

def grown (held : Option Tally) (record : EventRecord) : Tally :=
  match held with
  | none => ⟨1, record.sequence, record.sequence⟩
  | some held => ⟨held.count + 1, held.first, record.sequence⟩

theorem tally_concat (records : List EventRecord) (record : EventRecord) :
    tally (records ++ [record]) = some (grown (tally records) record) := by
  cases records with
  | nil => rfl
  | cons first rest =>
      have last := List.getLast?_eq_some_getLast (List.cons_ne_nil first rest)
      have newest : ((first :: rest) ++ [record]).getLast? = some record := List.getLast?_concat
      rw [List.cons_append] at newest
      simp [tally, grown, last, newest]

theorem tally_none {records : List EventRecord} : tally records = none ↔ records = [] := by
  cases records with
  | nil => simp [tally]
  | cons first rest =>
      have last := List.getLast?_eq_some_getLast (List.cons_ne_nil first rest)
      simp [tally, last]

def contextTally (context : ReplayContext) : Tally :=
  ⟨context.eventCount, context.firstSequence, context.lastSequence⟩

def taskTally (task : ReplayTask) : Tally :=
  ⟨task.eventCount, task.firstSequence, task.lastSequence⟩

theorem contextEntry_tally (contexts : Table ReplayContext) (record : EventRecord)
    (contextId : String) :
    contextTally ((contextEntry contexts record contextId).observe record) =
      grown ((contexts.find? contextId).map contextTally) record := by
  unfold contextEntry
  cases contexts.find? contextId <;> rfl

theorem taskEntry_tally (tasks : Table ReplayTask) (record : EventRecord) (taskId : String) :
    taskTally ((taskEntry tasks record taskId).observe record) =
      grown ((tasks.find? taskId).map taskTally) record := by
  unfold taskEntry
  cases tasks.find? taskId <;> rfl

/-! The event types. -/

def counted (eventTypes : Table EventTypeCount) : Nat :=
  (eventTypes.rows.map EventTypeCount.count).sum

theorem countEventType_counted (eventTypes : Table EventTypeCount) (eventType : String) :
    counted (countEventType eventTypes eventType) = counted eventTypes + 1 := by
  have sum := eventTypes.sum_put EventTypeCount.count
    ⟨eventType, (eventTypes.find? eventType).elim 0 EventTypeCount.count + 1⟩
  change _ + (eventTypes.find? eventType).elim 0 EventTypeCount.count = _ at sum
  unfold counted countEventType
  change ((eventTypes.put _).rows.map EventTypeCount.count).sum = _
  dsimp only at sum
  omega

theorem apply_eventTypes (replay : Replay) (record : EventRecord) :
    (replay.apply record).eventTypes = countEventType replay.eventTypes record.eventType := by
  unfold Replay.apply
  cases record.taskId <;> rfl

theorem replayRecords_counted (records : List EventRecord) :
    counted (replayRecords records).eventTypes = records.length := by
  induction records using List.reverseRecOn with
  | nil => rfl
  | append_singleton records record ih =>
      rw [replayRecords_concat, apply_eventTypes, countEventType_counted, ih, List.length_append]
      rfl

/-! The tasks. -/

def ofTask (taskId : String) (record : EventRecord) : Bool :=
  record.taskId.map Id.text = some taskId

theorem taskOf_tally (tasks : Table ReplayTask) (record : EventRecord) (taskId : String) :
    taskTally (taskOf tasks record taskId) =
      grown ((tasks.find? taskId).map taskTally) record :=
  taskEntry_tally tasks record taskId

theorem find_task (tasks : Table ReplayTask) (record : EventRecord) (taskId wanted : String) :
    (tasks.put (taskOf tasks record taskId)).find? wanted =
      if wanted = taskId then some (taskOf tasks record taskId) else tasks.find? wanted := by
  rw [tasks.find?_put]
  change (if wanted = (taskOf tasks record taskId).taskId then _ else _) = _
  rw [taskOf_taskId]

theorem replayRecords_task (records : List EventRecord) (taskId : String) :
    ((replayRecords records).tasks.find? taskId).map taskTally =
      tally (records.filter (ofTask taskId)) := by
  induction records using List.reverseRecOn with
  | nil => rfl
  | append_singleton records record ih =>
      rw [replayRecords_concat, apply_tasks, List.filter_append]
      cases linked : record.taskId with
      | none =>
          have apart : ofTask taskId record = false := by simp [ofTask, linked]
          simp only [List.filter_cons, apart, Bool.false_eq_true, if_false, List.filter_nil,
            List.append_nil]
          exact ih
      | some other =>
          dsimp only
          rw [find_task]
          by_cases same : taskId = other.text
          · have here : ofTask taskId record = true := by simp [ofTask, linked, same]
            simp only [List.filter_cons, here, if_true, List.filter_nil]
            rw [if_pos same, Option.map_some, taskOf_tally, ← same, ih, tally_concat]
          · have apart : ofTask taskId record = false := by simp [ofTask, linked, Ne.symm same]
            simp only [List.filter_cons, apart, Bool.false_eq_true, if_false, List.filter_nil,
              List.append_nil]
            rw [if_neg same]
            exact ih

/-! The context of a task is the one that its first event with any shows. -/

def shownContext (record : EventRecord) : Option String :=
  (record.contextId.map Id.text).or (stringAtPaths record.payloadJson taskContextPaths)

def taskContextIn (records : List EventRecord) (taskId : String) : Option String :=
  (records.filter (ofTask taskId)).findSome? shownContext

theorem taskOf_contextId (tasks : Table ReplayTask) (record : EventRecord) (taskId : String) :
    (taskOf tasks record taskId).contextId =
      ((tasks.find? taskId).bind ReplayTask.contextId).or (shownContext record) := by
  change ((taskEntry tasks record taskId).contextId.or _).or _ = _
  unfold taskEntry shownContext
  cases tasks.find? taskId with
  | none =>
      change ((record.contextId.map Id.text).or (record.contextId.map Id.text)).or _ = _
      rw [Option.or_self]
      rfl
  | some task => exact Option.or_assoc

theorem taskContextIn_concat (records : List EventRecord) (record : EventRecord) (taskId : String) :
    taskContextIn (records ++ [record]) taskId =
      if ofTask taskId record then (taskContextIn records taskId).or (shownContext record)
      else taskContextIn records taskId := by
  unfold taskContextIn
  rw [List.filter_append, List.findSome?_append]
  by_cases here : ofTask taskId record = true
  · simp [here]
  · simp [here]

theorem replayRecords_taskContext (records : List EventRecord) (taskId : String) :
    ((replayRecords records).tasks.find? taskId).bind ReplayTask.contextId =
      taskContextIn records taskId := by
  induction records using List.reverseRecOn with
  | nil => rfl
  | append_singleton records record ih =>
      rw [replayRecords_concat, apply_tasks, taskContextIn_concat]
      cases linked : record.taskId with
      | none =>
          have apart : ¬ofTask taskId record = true := by simp [ofTask, linked]
          rw [if_neg apart]
          exact ih
      | some other =>
          dsimp only
          rw [find_task]
          by_cases same : taskId = other.text
          · have here : ofTask taskId record = true := by simp [ofTask, linked, same]
            rw [if_pos same, if_pos here, Option.bind_some, taskOf_contextId, ← same, ih]
          · have apart : ¬ofTask taskId record = true := by simp [ofTask, linked, Ne.symm same]
            rw [if_neg same, if_neg apart]
            exact ih

/-! The contexts. -/

def ownContext (record : EventRecord) : Option String := record.contextId.map Id.text

-- The context that some records show for the task of one of them.
def knownContext (records : List EventRecord) (record : EventRecord) : Option String :=
  record.taskId.bind fun taskId => taskContextIn records taskId.text

-- The records, each with the context of its task as it is known once the record is read.
def placedAfter (before : List EventRecord) : List EventRecord → List (EventRecord × Option String)
  | [] => []
  | record :: rest =>
      (record, knownContext (before ++ [record]) record) :: placedAfter (before ++ [record]) rest

def placed (records : List EventRecord) : List (EventRecord × Option String) := placedAfter [] records

def reaching (contextId : String) (item : EventRecord × Option String) : List EventRecord :=
  (if ownContext item.1 = some contextId then [item.1] else []) ++
    (if item.2 = some contextId then [item.1] else [])

-- The records that reach the summary of a context, each as often as it does.
def reached (records : List EventRecord) (contextId : String) : List EventRecord :=
  (placed records).flatMap (reaching contextId)

theorem placedAfter_concat (before records : List EventRecord) (record : EventRecord) :
    placedAfter before (records ++ [record]) =
      placedAfter before records ++ [(record, knownContext (before ++ records ++ [record]) record)] := by
  induction records generalizing before with
  | nil => simp [placedAfter]
  | cons head rest ih => simp [placedAfter, ih]

theorem placed_concat (records : List EventRecord) (record : EventRecord) :
    placed (records ++ [record]) =
      placed records ++ [(record, knownContext (records ++ [record]) record)] := by
  unfold placed
  rw [placedAfter_concat, List.nil_append]

theorem reached_concat (records : List EventRecord) (record : EventRecord) (contextId : String) :
    reached (records ++ [record]) contextId = reached records contextId ++
      reaching contextId (record, knownContext (records ++ [record]) record) := by
  rw [reached, placed_concat, List.flatMap_append]
  simp [reached]

theorem contextOf_tally (contexts : Table ReplayContext) (record : EventRecord) (contextId : String) :
    contextTally (contextOf contexts record contextId) =
      grown ((contexts.find? contextId).map contextTally) record :=
  contextEntry_tally contexts record contextId

theorem taskContext_tally (contexts : Table ReplayContext) (record : EventRecord)
    (taskId contextId : String) :
    contextTally (taskContext contexts record taskId contextId) =
      grown ((contexts.find? contextId).map contextTally) record :=
  contextEntry_tally contexts record contextId

theorem contextEntry_named (contexts : Table ReplayContext) (record : EventRecord)
    (contextId : String) : (contextEntry contexts record contextId).contextId = contextId := by
  unfold contextEntry
  cases found : contexts.find? contextId with
  | none => rfl
  | some context => exact contexts.find?_key found

/-- An observed context has grown by the event, and the others are as they were. -/
theorem put_tally (contexts : Table ReplayContext) {context : ReplayContext} {contextId : String}
    {record : EventRecord} (named : context.contextId = contextId)
    (observed : contextTally context =
      grown ((contexts.find? contextId).map contextTally) record) (wanted : String) :
    ((contexts.put context).find? wanted).map contextTally =
      if contextId = wanted then some (grown ((contexts.find? wanted).map contextTally) record)
      else (contexts.find? wanted).map contextTally := by
  rw [contexts.find?_put]
  change Option.map contextTally (if wanted = context.contextId then _ else _) = _
  rw [named]
  by_cases same : contextId = wanted
  · rw [if_pos same.symm, if_pos same, Option.map_some, observed, same]
  · rw [if_neg (Ne.symm same), if_neg same]

theorem applyContextReplay_tally (record : EventRecord) (contexts : Table ReplayContext)
    (wanted : String) :
    ((applyContextReplay record contexts).find? wanted).map contextTally =
      if ownContext record = some wanted then
        some (grown ((contexts.find? wanted).map contextTally) record)
      else (contexts.find? wanted).map contextTally := by
  unfold applyContextReplay ownContext
  cases record.contextId with
  | none => simp
  | some contextId =>
      have named : (contextOf contexts record contextId.text).contextId = contextId.text :=
        contextEntry_named contexts record contextId.text
      simp only [Option.map_some, Option.some.injEq]
      exact put_tally contexts named (contextOf_tally contexts record contextId.text) wanted

theorem linkTask_tally (record : EventRecord) (task : ReplayTask) (contexts : Table ReplayContext)
    (wanted : String) :
    ((linkTask record task contexts).find? wanted).map contextTally =
      if task.contextId = some wanted then
        some (grown ((contexts.find? wanted).map contextTally) record)
      else (contexts.find? wanted).map contextTally := by
  unfold linkTask
  cases task.contextId with
  | none => simp
  | some contextId =>
      have named : (taskContext contexts record task.taskId contextId).contextId = contextId :=
        contextEntry_named contexts record contextId
      simp only [Option.some.injEq]
      exact put_tally contexts named (taskContext_tally contexts record task.taskId contextId) wanted

/-- What one event adds to the summary of a context. -/
theorem apply_tally (records : List EventRecord) (record : EventRecord) (wanted : String) :
    ((replayRecords (records ++ [record])).contexts.find? wanted).map contextTally =
      let direct := if ownContext record = some wanted then
          some (grown (((replayRecords records).contexts.find? wanted).map contextTally) record)
        else ((replayRecords records).contexts.find? wanted).map contextTally
      if knownContext (records ++ [record]) record = some wanted then some (grown direct record)
      else direct := by
  rw [replayRecords_concat]
  unfold Replay.apply knownContext
  cases linked : record.taskId with
  | none => simp [applyContextReplay_tally]
  | some taskId =>
      have here : ofTask taskId.text record = true := by simp [ofTask, linked]
      have known : (taskOf (replayRecords records).tasks record taskId.text).contextId =
          taskContextIn (records ++ [record]) taskId.text := by
        rw [taskOf_contextId, replayRecords_taskContext, taskContextIn_concat, if_pos here]
      simp only [Option.bind_some, linkTask_tally, known, applyContextReplay_tally]

theorem replayRecords_context (records : List EventRecord) (contextId : String) :
    ((replayRecords records).contexts.find? contextId).map contextTally =
      tally (reached records contextId) := by
  induction records using List.reverseRecOn with
  | nil => rfl
  | append_singleton records record ih =>
      rw [apply_tally, reached_concat, ih]
      unfold reaching
      by_cases direct : ownContext record = some contextId
      · by_cases known : knownContext (records ++ [record]) record = some contextId
        · simp only [direct, known, if_true, ← List.append_assoc, tally_concat]
        · simp only [direct, known, if_true, if_false, List.append_nil, tally_concat]
      · by_cases known : knownContext (records ++ [record]) record = some contextId
        · simp only [direct, known, if_true, if_false, List.nil_append, tally_concat]
        · simp only [direct, known, if_false, List.append_nil]

/-! The records that are linked to a context, by their own context or by that of their task. -/

def isLinked (records : List EventRecord) (contextId : String) (record : EventRecord) : Bool :=
  ownContext record = some contextId || knownContext records record = some contextId

def linked (records : List EventRecord) (contextId : String) : List EventRecord :=
  records.filter (isLinked records contextId)

-- The records that reach the summary twice, and those that do not reach it.
def doubled (records : List EventRecord) (contextId : String) : List (EventRecord × Option String) :=
  (placed records).filter fun item =>
    ownContext item.1 = some contextId && item.2 = some contextId

def early (records : List EventRecord) (contextId : String) : List (EventRecord × Option String) :=
  (placed records).filter fun item =>
    isLinked records contextId item.1 && !(ownContext item.1 = some contextId) &&
      !(item.2 = some contextId)

theorem placed_records (records : List EventRecord) : (placed records).map Prod.fst = records := by
  induction records using List.reverseRecOn with
  | nil => rfl
  | append_singleton records record ih => rw [placed_concat, List.map_append, ih]; rfl

theorem taskContextIn_grows {records : List EventRecord} {taskId contextId : String}
    (found : taskContextIn records taskId = some contextId) (record : EventRecord) :
    taskContextIn (records ++ [record]) taskId = some contextId := by
  rw [taskContextIn_concat, found]
  simp

theorem knownContext_grows {records : List EventRecord} {record : EventRecord} {contextId : String}
    (found : knownContext records record = some contextId) (added : EventRecord) :
    knownContext (records ++ [added]) record = some contextId := by
  obtain ⟨taskId, named, known⟩ := Option.bind_eq_some_iff.mp found
  exact Option.bind_eq_some_iff.mpr ⟨taskId, named, taskContextIn_grows known added⟩

theorem placed_known {records : List EventRecord} {item : EventRecord × Option String}
    (member : item ∈ placed records) {contextId : String} (known : item.2 = some contextId) :
    knownContext records item.1 = some contextId := by
  induction records using List.reverseRecOn with
  | nil => contradiction
  | append_singleton records record ih =>
      rw [placed_concat, List.mem_append, List.mem_singleton] at member
      rcases member with before | rfl
      · exact knownContext_grows (ih before) record
      · exact known

/-- A record that does not reach a context does not link another to it. -/
theorem isLinked_apart {records : List EventRecord} {record : EventRecord} {contextId : String}
    (apart : knownContext (records ++ [record]) record ≠ some contextId) (other : EventRecord) :
    isLinked (records ++ [record]) contextId other = isLinked records contextId other := by
  have same : knownContext (records ++ [record]) other = some contextId ↔
      knownContext records other = some contextId := by
    refine ⟨?_, fun found => knownContext_grows found record⟩
    intro found
    obtain ⟨taskId, named, known⟩ := Option.bind_eq_some_iff.mp found
    refine Option.bind_eq_some_iff.mpr ⟨taskId, named, ?_⟩
    by_cases here : ofTask taskId.text record = true
    · exfalso
      apply apart
      obtain ⟨own, linked, text⟩ : ∃ own, record.taskId = some own ∧ own.text = taskId.text := by
        simpa [ofTask] using here
      exact Option.bind_eq_some_iff.mpr ⟨own, linked, by rw [text]; exact known⟩
    · rw [taskContextIn_concat, if_neg here] at known
      exact known
  unfold isLinked
  simp only [same]

/-- The last record that is linked to a context reaches it. -/
theorem reached_last (records : List EventRecord) (contextId : String) :
    (reached records contextId).getLast? = (linked records contextId).getLast? := by
  induction records using List.reverseRecOn with
  | nil => rfl
  | append_singleton records record ih =>
      rw [reached_concat, linked, List.filter_append]
      by_cases known : knownContext (records ++ [record]) record = some contextId
      · have here : isLinked (records ++ [record]) contextId record = true := by
          simp [isLinked, known]
        simp [reaching, known, here]
      · have kept : records.filter (isLinked (records ++ [record]) contextId) =
            linked records contextId :=
          List.filter_congr fun other _ => isLinked_apart known other
        by_cases direct : ownContext record = some contextId
        · have here : isLinked (records ++ [record]) contextId record = true := by
            simp [isLinked, direct]
          simp [reaching, known, direct, here]
        · have apart : isLinked (records ++ [record]) contextId record = false := by
            simp [isLinked, direct, known]
          simp [reaching, known, direct, apart, kept, ih]

theorem count_balance {Item Shown : Type} (items : List Item) (show_ : Item → List Shown)
    (isLinked isDoubled isEarly : Item → Bool)
    (each : ∀ item ∈ items, (show_ item).length + (isEarly item).toNat =
      (isLinked item).toNat + (isDoubled item).toNat) :
    (items.flatMap show_).length + (items.filter isEarly).length =
      (items.filter isLinked).length + (items.filter isDoubled).length := by
  induction items with
  | nil => rfl
  | cons item rest ih =>
      have here := each item List.mem_cons_self
      have later := ih fun other member => each other (List.mem_cons_of_mem _ member)
      simp only [List.flatMap_cons, List.length_append, List.filter_cons]
      cases linkedHere : isLinked item <;> cases doubledHere : isDoubled item <;>
        cases earlyHere : isEarly item <;>
        simp only [linkedHere, doubledHere, earlyHere, Bool.toNat_true, Bool.toNat_false,
          Bool.false_eq_true, if_true, if_false, List.length_cons] at here ⊢ <;> omega

theorem linked_placed (records : List EventRecord) (contextId : String) :
    linked records contextId =
      ((placed records).filter fun item => isLinked records contextId item.1).map Prod.fst := by
  have whole : linked records contextId =
      ((placed records).map Prod.fst).filter (isLinked records contextId) := by
    rw [placed_records]
    rfl
  rw [whole, List.filter_map]
  rfl

/-- Records counted twice are what the count has too much, and early records what it lacks. -/
theorem reached_balance (records : List EventRecord) (contextId : String) :
    (reached records contextId).length + (early records contextId).length =
      (linked records contextId).length + (doubled records contextId).length := by
  rw [linked_placed, List.length_map]
  apply count_balance
  intro item member
  by_cases direct : ownContext item.1 = some contextId
  · by_cases known : item.2 = some contextId
    · simp [reaching, isLinked, direct, known]
    · simp [reaching, isLinked, direct, known]
  · by_cases known : item.2 = some contextId
    · simp [reaching, isLinked, direct, known, placed_known member known]
    · simp [reaching, direct, known]

theorem tally_eq {first last : List EventRecord} (ends : first.getLast? = last.getLast?) :
    tally first = tally last ↔ first.length = last.length ∧
      first.head?.map EventRecord.sequence = last.head?.map EventRecord.sequence := by
  cases first with
  | nil =>
      have none_ : last = [] := List.getLast?_eq_none_iff.mp ends.symm
      simp [none_]
  | cons early rest =>
      cases last with
      | nil => simp at ends
      | cons other others =>
          have shown := List.getLast?_eq_some_getLast (List.cons_ne_nil early rest)
          have same := ends.symm.trans shown
          simp [tally, shown, same]

/-- Every record counts once in every summary that it belongs to. -/
structure CountsOnce (records : List EventRecord) (output : EventReplayOutput) : Prop where
  events : output.eventCount = records.length
  eventTypes : counted output.eventTypes = records.length
  tasks : ∀ task ∈ output.tasks.rows, some (taskTally task) = tally (records.filter (ofTask task.taskId))
  contexts : ∀ context ∈ output.contexts.rows,
    some (contextTally context) = tally (linked records context.contextId)

theorem contexts_counted (records : List EventRecord) :
    (∀ context ∈ (replayRecords records).contexts.rows,
      some (contextTally context) = tally (linked records context.contextId)) ↔
    ∀ contextId, tally (reached records contextId) = tally (linked records contextId) := by
  constructor
  · intro each contextId
    have summary := replayRecords_context records contextId
    cases found : (replayRecords records).contexts.find? contextId with
    | none =>
        rw [found] at summary
        have none_ : reached records contextId = [] := tally_none.mp summary.symm
        have ends := reached_last records contextId
        rw [none_] at ends
        rw [none_, List.getLast?_eq_none_iff.mp ends.symm]
    | some context =>
        obtain ⟨member, named⟩ := (Table.find?_eq_some _ _ _).mp found
        rw [found] at summary
        rw [← summary]
        have once := each context member
        rwa [show context.contextId = contextId from named] at once
  · intro each context member
    have found := Table.find?_self _ context member
    have summary := replayRecords_context records context.contextId
    rw [show (replayRecords records).contexts.find? context.contextId = some context from found]
      at summary
    exact summary.trans (each context.contextId)

/-- The replay counts each record once exactly when, for every context, as many records reach its
summary twice as do not reach it, and the first record linked to it has the sequence of the first
that reaches it. -/
theorem replay_counts_once_iff (records : List EventRecord) :
    CountsOnce records (replayOutput records) ↔ ∀ contextId,
      (doubled records contextId).length = (early records contextId).length ∧
      (reached records contextId).head?.map EventRecord.sequence =
        (linked records contextId).head?.map EventRecord.sequence := by
  have contexts : (∀ contextId, tally (reached records contextId) = tally (linked records contextId)) ↔
      ∀ contextId, (doubled records contextId).length = (early records contextId).length ∧
        (reached records contextId).head?.map EventRecord.sequence =
          (linked records contextId).head?.map EventRecord.sequence := by
    apply forall_congr'
    intro contextId
    rw [tally_eq (reached_last records contextId)]
    have balance := reached_balance records contextId
    have counts : (reached records contextId).length = (linked records contextId).length ↔
        (doubled records contextId).length = (early records contextId).length := by omega
    rw [counts]
  rw [← contexts, ← contexts_counted]
  constructor
  · exact CountsOnce.contexts
  · intro each
    refine ⟨rfl, replayRecords_counted records, ?_, each⟩
    intro task member
    have found := Table.find?_self _ task member
    have summary := replayRecords_task records task.taskId
    rw [show (replayRecords records).tasks.find? task.taskId = some task from found] at summary
    exact summary

section TaskEvents

def taskEvent (sequence : Nat) (contextId : Option ContextId) (payload : JsonValue.Json) :
    EventRecord where
  sequence := sequence
  eventId := ⟨"evt", by decide⟩
  timestamp := .filled ⟨0⟩
  source := "cli"
  eventType := "a2a.task.updated"
  agentAlias := none
  contextId := contextId
  taskId := some ⟨"task", by decide⟩
  groupName := none
  gatewayJobId := none
  adapterBindingId := none
  payloadJson := payload
  metadata := .new
  redacted := true

def linkedTwice : List EventRecord := [taskEvent 1 (some ⟨"ctx", by decide⟩) .null]

def learnedLate : List EventRecord :=
  [taskEvent 1 none .null, taskEvent 2 none (.object [("context_id", .string "ctx")])]

/-- An event of a task and of its context counts twice, and one from before the context of the
task is known does not count. -/
theorem contexts_miscounted :
    ¬CountsOnce linkedTwice (replayOutput linkedTwice) ∧
    ¬CountsOnce learnedLate (replayOutput learnedLate) := by
  constructor
  · intro once
    have shown := once.contexts _ (List.mem_singleton.mpr rfl)
    exact absurd (congrArg (Option.map Tally.count) shown) (by decide)
  · intro once
    have shown := once.contexts _ (List.mem_singleton.mpr rfl)
    exact absurd (congrArg (Option.map Tally.count) shown) (by decide)

end TaskEvents

end Missive.ReplayCounts
