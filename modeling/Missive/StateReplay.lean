import Missive.EventReplay
import Missive.ReportJournals
import Missive.TaskCompletion

/-! The replay of the event journal against the `tasks` table. Streamed events are journaled as
they came: each under its own member, with the protocol's names for states. The replay knows
the members `task` and `response`, and of a name it only takes off the protocol's start. -/
namespace Missive.StateReplay

open JsonValue KeyedTable Missive.Core Schema Effects Repository Artifacts BackgroundJobs Protocol
open TaskPersistence GatewayPersistence TaskReports EventReplay ReportJournals

/-- The states whose protocol name, without its start, is the local name. -/
def sharedSpelling : ProtocolTaskState → Bool
  | .submitted | .working | .completed | .failed | .inputRequired => true
  | .canceled | .rejected | .authRequired | .unspecified => false

theorem normalizeState_iff (state : ProtocolTaskState) :
    normalizeState (stateName state) = (storeTaskState state).asStr ↔
      sharedSpelling state = true := by
  cases state <;> decide

theorem normalizeState_local (state : TaskState) : normalizeState state.asStr = state.asStr := by
  cases state <;> decide

-- No name of a state has a separator or a space, so there is nothing in it to redact.
theorem outputShown_names : (∀ state : TaskState, outputShown state.asStr = state.asStr) ∧
    ∀ state : ProtocolTaskState, outputShown (stateName state) = stateName state := by
  constructor
  · intro state
    cases state <;> decide +kernel
  · intro state
    cases state <;> decide +kernel

/-! The wire. -/

/-- `serde_json::from_value` at the two unions of the protocol. -/
structure Wire where
  streamOf : Json → Option StreamResponse
  replyOf : Json → Option SendMessageResponse

def memberNames : List String := ["artifactUpdate", "message", "statusUpdate", "task"]

def memberName : StreamResponse → String
  | .task _ => "task"
  | .message _ => "message"
  | .statusUpdate _ => "statusUpdate"
  | .artifactUpdate _ => "artifactUpdate"

def replyName : SendMessageResponse → String
  | .task _ => "task"
  | .message _ => "message"

def taskStatePath : List String := ["task", "status", "state"]

/-- A union has exactly one of its members, and a task has its state by the protocol's name. -/
structure Wire.Documented (wire : Wire) : Prop where
  oneMember : ∀ raw event, wire.streamOf raw = some event →
    ∀ name ∈ memberNames, name ≠ memberName event → raw.get name = none
  taskState : ∀ raw task, wire.streamOf raw = some (.task task) →
    atPath raw taskStatePath = some (.string (stateName task.status.state))
  oneReply : ∀ raw reply, wire.replyOf raw = some reply →
    ∀ name ∈ memberNames, name ≠ replyName reply → raw.get name = none
  replyState : ∀ raw task, wire.replyOf raw = some (.task task) →
    atPath raw taskStatePath = some (.string (stateName task.status.state))

-- What a job or a stream persists was read from the JSON that it journals.
def Wire.Received (wire : Wire) : Operation → Prop
  | .streamEvent _ event _ | .jobStream _ _ event | .subscription _ _ _ _ event =>
      wire.streamOf event.rawJson = some event.event
  | .jobSend _ _ _ outcome => wire.replyOf outcome.rawJson = some outcome.response
  | _ => True

/-! What an event says of a state. -/

def carriedPaths : List (List String) := statePaths ++ [["statusUpdate", "status", "state"]]

/-- The payload has a state, where the replay or where the protocol places one. -/
def carriesState (payload : Json) : Bool := (stringAtPaths payload carriedPaths).isSome

def shownState (payload : Json) : Option String := (stateFromPayload payload).map normalizeState

def ShowsRow (payload : Json) (row : Option TaskRecord) : Prop :=
  ∃ state, row.map TaskRecord.state = some state ∧ shownState payload = some state.asStr

section Payloads

variable {shown : String → String} {redact : Json → Json} {wire : Wire}

theorem carriesState_redacted (transparent : Transparent stateKeys shown redact) (payload : Json) :
    carriesState (redact payload) = carriesState payload := by
  unfold carriesState
  rw [stringAtPaths_redacted transparent carriedPaths (by decide), Option.isSome_map]

theorem shownState_redacted (transparent : Transparent stateKeys shown redact) (payload : Json) :
    shownState (redact payload) =
      (stateFromPayload payload).map fun state => normalizeState (shown state) := by
  unfold shownState stateFromPayload
  rw [stringAtPaths_redacted transparent statePaths (by decide), Option.map_map]
  rfl

/-- The JSON has nothing else where the replay looks for a state, and it is no status update. -/
def Readable (event : StreamMessageEvent) : Prop :=
  (∀ key ∈ ["state", "status", "response"], event.rawJson.get key = none) ∧
    match event.event with
    | .task task =>
        atPath event.rawJson ["task", "state"] = none ∧ sharedSpelling task.status.state = true
    | .statusUpdate _ => False
    | .message _ | .artifactUpdate _ => True

def ReadableReply (outcome : SendMessageOutcome) : Prop :=
  outcome.rawJson.get "state" = none ∧
    match outcome.response with
    | .task task => sharedSpelling task.status.state = true
    | .message _ => True

theorem atPath_absent {value : Json} {key : String} (absent : value.get key = none)
    (rest : List String) : atPath value (key :: rest) = none := by
  rw [atPath, absent]
  rfl

theorem atPath_present {value held : Json} {key : String} (present : value.get key = some held)
    (rest : List String) : atPath value (key :: rest) = atPath held rest := by
  rw [atPath, present]
  rfl

theorem task_told {event : StreamMessageEvent} {task : RemoteTask} (documented : wire.Documented)
    (received : wire.streamOf event.rawJson = some event.event) (readable : Readable event)
    (held : event.event = .task task) :
    stateFromPayload event.rawJson = some (stateName task.status.state) ∧
      sharedSpelling task.status.state = true := by
  rw [held] at received
  unfold Readable at readable
  rw [held] at readable
  obtain ⟨bare, unshadowed, shared⟩ := readable
  have own := documented.taskState _ _ received
  have top := atPath_absent (bare "state" (by simp)) []
  refine ⟨?_, shared⟩
  unfold taskStatePath at own
  simp [stateFromPayload, stringAtPaths, statePaths, top, unshadowed, own, Json.asStr]

theorem stateless_told {event : StreamMessageEvent} (documented : wire.Documented)
    (received : wire.streamOf event.rawJson = some event.event) (readable : Readable event)
    (silent : memberName event.event ≠ "task") : carriesState event.rawJson = false := by
  have alone := documented.oneMember _ _ received
  have untold : memberName event.event ≠ "statusUpdate" := by
    intro same
    unfold Readable at readable
    cases shown : event.event with
    | statusUpdate update =>
        rw [shown] at readable
        exact readable.2
    | _ => simp [shown, memberName] at same
  have task := alone "task" (by decide) silent.symm
  have update := alone "statusUpdate" (by decide) untold.symm
  have bare := readable.1
  simp [carriesState, carriedPaths, stringAtPaths, statePaths, atPath_absent task,
    atPath_absent update, atPath_absent (bare "state" (by simp)),
    atPath_absent (bare "status" (by simp)), atPath_absent (bare "response" (by simp))]

theorem local_told {payload : Json} {state : TaskState}
    (own : payload.get "state" = some (.string state.asStr)) :
    stateFromPayload payload = some state.asStr := by
  simp [stateFromPayload, stringAtPaths, statePaths, atPath, own, Json.asStr]

theorem output_told {payload : Json} {state : TaskState}
    (own : payload.get "state" = some (.string state.asStr)) :
    shownState (JsonRedaction.outputRedactJson payload) = some state.asStr := by
  rw [shownState_redacted output_transparent, local_told own, Option.map_some, outputShown_names.1,
    normalizeState_local]

theorem jobs_told {payload : Json} {state : ProtocolTaskState}
    (own : stateFromPayload payload = some (stateName state)) (shared : sharedSpelling state = true) :
    shownState (JsonRedaction.jobsRedactJson payload) = some (storeTaskState state).asStr := by
  rw [shownState_redacted jobs_transparent, own]
  exact congrArg some ((normalizeState_iff state).mpr shared)

theorem request_silent (codec : Codec) (prepared : PreparedMessage) (contextId : Option ContextId)
    (taskId : Option TaskId) :
    carriesState (JsonRedaction.outputRedactJson (requestPayload codec prepared contextId taskId)) =
      false := by
  rw [carriesState_redacted output_transparent]
  simp [carriesState, carriedPaths, stringAtPaths, statePaths, atPath, requestPayload,
    List.lookup_cons, List.lookup_nil]

theorem answer_silent (codec : Codec) (outcome : SendMessageOutcome) (message : MessageRecord)
    (contextId : Option ContextId) (taskId : Option TaskId) {answer : Message}
    (answered : outcome.response = .message answer) :
    carriesState (JsonRedaction.outputRedactJson
      (Send.responsePayload codec outcome message contextId taskId)) = false := by
  rw [carriesState_redacted output_transparent]
  simp [carriesState, carriedPaths, stringAtPaths, statePaths, atPath, Send.responsePayload,
    List.lookup_cons, List.lookup_nil, answered, Send.responseView, Json.ofOption, Json.asStr]

end Payloads

/-! One operation. -/

/-- A task of which nothing is journaled keeps its state, and an entry with a state shows the row. -/
structure Settled (entries : List JournalEntry) (before after : Table TaskRecord) : Prop where
  apart : ∀ taskId, (∀ entry ∈ entries, entry.taskId ≠ some taskId) →
    (after.find? taskId).map TaskRecord.state = (before.find? taskId).map TaskRecord.state
  told : ∀ entry ∈ entries, ∀ taskId, entry.taskId = some taskId →
    carriesState entry.payload = true → ShowsRow entry.payload (after.find? taskId)

section Operations

variable {wire : Wire} {codec : Codec} {agent : AgentRecord} {entries : List JournalEntry}
  {before after : Table TaskRecord}

theorem settled_silent (applied : Applied none before after)
    (silent : ∀ entry ∈ entries, carriesState entry.payload = false) :
    Settled entries before after where
  apart taskId _ := by rw [show after = before from applied]
  told entry member _ _ carries := by
    rw [silent entry member] at carries
    contradiction

theorem settled_write {one : TaskWrite} (journaled : entries ≠ [])
    (linked : ∀ entry ∈ entries, entry.taskId = some one.taskId)
    (told : ∀ entry ∈ entries, carriesState entry.payload = true →
      ∃ state, shownState entry.payload = some state.asStr ∧
        ∀ existing, ∃ columns, one.columns existing = some columns ∧ columns.state = state)
    (applied : Applied (some one) before after) : Settled entries before after where
  apart taskId unlinked := by
    have apart : (some one).map TaskWrite.taskId ≠ some taskId := by
      obtain ⟨head, member⟩ := List.exists_mem_of_ne_nil entries journaled
      intro same
      exact unlinked head member ((linked head member).trans same)
    rw [applied_apart applied apart]
  told entry member taskId named carries := by
    obtain ⟨state, shown, leaves⟩ := told entry member carries
    obtain ⟨columns, written, same⟩ := leaves (before.find? one.taskId)
    unfold Applied at applied
    simp only [written] at applied
    obtain ⟨row, put, keyed, fits⟩ := applied
    have own : taskId = one.taskId := Option.some.inj (named.symm.trans (linked entry member))
    refine ⟨state, ?_, shown⟩
    rw [put, Table.find?_put, if_pos (show taskId = key row from own.trans keyed.symm),
      Option.map_some, fits.state, same]

theorem event_told {shown : String → String} {redact : Json → Json} {event : StreamMessageEvent}
    (documented : wire.Documented) (received : wire.streamOf event.rawJson = some event.event)
    (readable : Readable event) (transparent : Transparent stateKeys shown redact)
    (faithful : ∀ state, shown (stateName state) = stateName state)
    (carries : carriesState (redact event.rawJson) = true) :
    ∃ task, event.event = .task task ∧
      shownState (redact event.rawJson) = some (storeTaskState task.status.state).asStr := by
  by_cases held : memberName event.event = "task"
  · cases kind : event.event with
    | task task =>
        obtain ⟨own, shared⟩ := task_told documented received readable kind
        refine ⟨task, rfl, ?_⟩
        rw [shownState_redacted transparent, own, Option.map_some, faithful]
        exact congrArg some ((normalizeState_iff _).mpr shared)
    | _ => simp [kind, memberName] at held
  · rw [carriesState_redacted transparent, stateless_told documented received readable held] at carries
    contradiction

/-- The write is to the task of the event, and leaves the state of a task that is streamed. -/
structure WritesEvent (event : StreamResponse) (ids : EventIds) (write : Option TaskWrite) :
    Prop where
  linked : ∀ one, write = some one → ids.taskId = some one.taskId
  state : ∀ task, event = .task task → ∃ one, write = some one ∧
    ∀ existing, ∃ columns, one.columns existing = some columns ∧
      columns.state = storeTaskState task.status.state

theorem event_settled {shown : String → String} {redact : Json → Json} {event : StreamMessageEvent}
    {ids : EventIds} {write : Option TaskWrite} (documented : wire.Documented)
    (received : wire.streamOf event.rawJson = some event.event) (readable : Readable event)
    (transparent : Transparent stateKeys shown redact)
    (faithful : ∀ state, shown (stateName state) = stateName state)
    (writes : WritesEvent event.event ids write) (applied : Applied write before after) :
    Settled [⟨ids.contextId, ids.taskId, redact event.rawJson⟩] before after := by
  have told := event_told documented received readable transparent faithful
  cases write with
  | none =>
      apply settled_silent applied
      intro entry member
      cases List.mem_singleton.mp member
      by_contra carries
      obtain ⟨task, held, _⟩ := told (by simpa using carries)
      obtain ⟨_, none_, _⟩ := writes.state task held
      contradiction
  | some one =>
      apply settled_write (List.cons_ne_nil _ _) ?_ ?_ applied
      · intro entry member
        cases List.mem_singleton.mp member
        exact writes.linked one rfl
      · intro entry member carries
        cases List.mem_singleton.mp member
        obtain ⟨task, held, shows⟩ := told carries
        obtain ⟨_, same, leaves⟩ := writes.state task held
        cases same
        exact ⟨_, shows, leaves⟩

-- `stream` and the subscriptions write whatever task the event names.
theorem named_writes {event : StreamResponse} {ids : EventIds}
    {columns : Option TaskRecord → TaskColumns} (parsed : eventIds event = .ok ids)
    (state : ∀ task existing, event = .task task →
      (columns existing).state = storeTaskState task.status.state) :
    WritesEvent event ids
      (ids.taskId.map fun taskId => ⟨taskId, fun existing => some (columns existing)⟩) where
  linked one made := by
    obtain ⟨taskId, named, rfl⟩ := Option.map_eq_some_iff.mp made
    exact named
  state task held := by
    subst held
    obtain ⟨taskId, _, rest⟩ := except_bind_returned parsed
    obtain ⟨contextId, _, same⟩ := except_bind_returned rest
    cases same
    exact ⟨_, rfl, fun existing => ⟨_, rfl, state task existing rfl⟩⟩

theorem streamWrite_writes {version : String} {event : StreamResponse} {ids : EventIds}
    {write : Option TaskWrite} (parsed : eventIds event = .ok ids)
    (written : streamWrite codec agent.aliasName version event = .ok write) :
    WritesEvent event ids write := by
  obtain ⟨_, known, same⟩ := except_bind_returned written
  rw [parsed] at known
  cases known
  cases same
  apply named_writes parsed
  rintro task existing rfl
  rfl

theorem subscriptionWrite_writes {version : String} {event : StreamResponse} {ids : EventIds}
    {write : Option TaskWrite} (parsed : eventIds event = .ok ids)
    (written : subscriptionWrite codec agent.aliasName version event = .ok write) :
    WritesEvent event ids write := by
  obtain ⟨_, known, same⟩ := except_bind_returned written
  rw [parsed] at known
  cases known
  cases same
  apply named_writes parsed
  rintro task existing rfl
  exact mapProtocolTaskState_eq _

theorem freshWrite_returned {version : String} {task : RemoteTask} {state : TaskState}
    {write : Option TaskWrite} {taskId : TaskId} (named : Id.new .taskId task.id = .ok taskId)
    (written : freshWrite codec agent.aliasName version task state = .ok write) :
    ∃ one, write = some one ∧ one.taskId = taskId ∧
      ∀ existing, ∃ columns, one.columns existing = some columns ∧ columns.state = state := by
  obtain ⟨_, known, rest⟩ := except_bind_returned written
  rw [named] at known
  cases known
  obtain ⟨contextId, _, same⟩ := except_bind_returned rest
  cases same
  exact ⟨_, rfl, rfl, fun existing => ⟨_, rfl, rfl⟩⟩

theorem jobStreamWrite_writes {version : String} {event : StreamResponse} {ids : EventIds}
    {write : Option TaskWrite} (parsed : eventIds event = .ok ids)
    (written : jobStreamWrite codec agent.aliasName version event = .ok write) :
    WritesEvent event ids write := by
  cases event with
  | task task =>
      obtain ⟨taskId, named, rest⟩ := except_bind_returned parsed
      obtain ⟨contextId, _, same⟩ := except_bind_returned rest
      cases same
      obtain ⟨one, rfl, own, leaves⟩ := freshWrite_returned named written
      constructor
      · intro other same
        cases same
        exact congrArg some own.symm
      · intro other same
        cases same
        rw [mapProtocolTaskState_eq] at leaves
        exact ⟨one, rfl, leaves⟩
  | statusUpdate update =>
      obtain ⟨taskId, named, rest⟩ := except_bind_returned parsed
      obtain ⟨contextId, _, same⟩ := except_bind_returned rest
      cases same
      obtain ⟨_, known, rest⟩ := except_bind_returned written
      rw [named] at known
      cases known
      obtain ⟨_, _, same⟩ := except_bind_returned rest
      cases same
      constructor
      · intro one same
        cases same
        rfl
      · intro task same
        cases same
  | message message =>
      cases written
      constructor
      · intro one none_
        cases none_
      · intro task other
        cases other
  | artifactUpdate update =>
      cases written
      constructor
      · intro one none_
        cases none_
      · intro task other
        cases other

/-- What is asked of the JSON that a step journals: a streamed event, or the answer to a job. -/
def Legible : Operation → Prop
  | .streamEvent _ event _ | .jobStream _ _ event | .subscription _ _ _ _ event => Readable event
  | .jobSend _ _ _ outcome => ReadableReply outcome
  | _ => True

theorem send_settled {parameters : ServiceParameters} {prepared : PreparedMessage}
    {outcome : SendMessageOutcome} {write : Option TaskWrite}
    (written : sendWrite codec agent.aliasName parameters.protocolVersion prepared outcome.response =
      .ok write)
    (journaled : Journaled codec agent before (.send parameters prepared outcome) entries)
    (applied : Applied write before after) : Settled entries before after := by
  cases journaled with
  | sendTask _ _ _ task taskId contextId message held taskOf =>
      rw [held] at written
      obtain ⟨one, rfl, own, leaves⟩ := freshWrite_returned taskOf written
      apply settled_write (by simp [responseEntries]) ?_ ?_ applied
      · intro entry member
        rw [own]
        simp only [responseEntries, List.cons_append, List.nil_append, List.mem_cons,
          List.not_mem_nil, or_false] at member
        rcases member with rfl | rfl | rfl <;> rfl
      · intro entry member carries
        refine ⟨storeTaskState task.status.state, ?_, leaves⟩
        simp only [responseEntries, List.cons_append, List.nil_append, List.mem_cons,
          List.not_mem_nil, or_false] at member
        rcases member with rfl | rfl | rfl
        · rw [request_silent] at carries
          contradiction
        · apply output_told
          rw [Send.responsePayload, held]
          rfl
        · exact output_told rfl
  | sendMessage _ _ _ answer message answered contextId taskId taskOf =>
      have silent : ∀ entry ∈ responseEntries codec prepared outcome message contextId
          (taskId.or prepared.requestedTaskId), carriesState entry.payload = false := by
        intro entry member
        simp only [responseEntries, List.mem_cons, List.not_mem_nil, or_false] at member
        rcases member with rfl | rfl
        · exact request_silent codec prepared _ _
        · exact answer_silent codec outcome message _ _ answered
      rw [answered] at written
      obtain ⟨_, _, written⟩ := except_bind_returned written
      obtain ⟨_, known, same⟩ := except_bind_returned written
      rw [taskOf] at known
      cases known
      cases same
      cases named : taskId.or prepared.requestedTaskId with
      | none =>
          rw [named] at applied silent
          exact settled_silent applied silent
      | some own =>
          rw [named] at applied silent
          apply settled_write (by simp [responseEntries]) ?_ ?_ applied
          · intro entry member
            simp only [responseEntries, List.mem_cons, List.not_mem_nil, or_false] at member
            rcases member with rfl | rfl <;> rfl
          · intro entry member carries
            have quiet := silent entry member
            rw [quiet] at carries
            contradiction

theorem settled_single {one : TaskWrite} {entry : JournalEntry}
    (linked : entry.taskId = some one.taskId) {state : TaskState}
    (told : carriesState entry.payload = true → shownState entry.payload = some state.asStr)
    (leaves : ∀ existing, ∃ columns, one.columns existing = some columns ∧ columns.state = state)
    (applied : Applied (some one) before after) : Settled [entry] before after := by
  apply settled_write (by simp) ?_ ?_ applied
  · intro other member
    cases List.mem_singleton.mp member
    exact linked
  · intro other member carries
    cases List.mem_singleton.mp member
    exact ⟨state, told carries, leaves⟩

-- A refresh that journals nothing has found the state it writes.
theorem refresh_settled {version : String} {observed : List (String × Json)} {task : RemoteTask}
    {write : Option TaskWrite}
    (written : freshWrite codec agent.aliasName version task (storeTaskState task.status.state) =
      .ok write)
    (noted : RefreshJournaled codec agent before observed task entries)
    (inert : observed.lookup "state" = none) (applied : Applied write before after) :
    Settled entries before after := by
  cases noted with
  | changed record value reports encoded differs =>
      obtain ⟨one, rfl, own, leaves⟩ := freshWrite_returned reports.named written
      refine settled_single (congrArg some own.symm) (fun _ => ?_) leaves applied
      rw [← reports.state]
      apply output_told
      simp [Refresh.updatedPayload, List.lookup_cons, List.lookup_append, inert]
  | unchanged taskId value named same =>
      obtain ⟨one, rfl, own, leaves⟩ := freshWrite_returned named written
      constructor
      · intro other _
        by_cases kept : other = taskId
        · obtain ⟨columns, shown, state⟩ := leaves (before.find? one.taskId)
          simp only [Applied, shown] at applied
          obtain ⟨row, put, keyed, fits⟩ := applied
          obtain ⟨old, found, stale⟩ : ∃ old, before.find? taskId = some old ∧
              old.state = storeTaskState task.status.state := by
            cases found : before.find? taskId with
            | none => simp [Refresh.changed, found] at same
            | some old =>
                refine ⟨old, rfl, ?_⟩
                by_contra differs
                simp [Refresh.changed, found, differs] at same
          rw [put, Table.find?_put,
            if_pos (show other = key row from (kept.trans own.symm).trans keyed.symm), kept, found,
            Option.map_some, Option.map_some, fits.state, state, stale]
        · rw [applied_apart applied fun equal => kept ((Option.some.inj equal).symm.trans own)]
      · intro entry none_
        cases none_

-- Under `response`, a payload of a job holds the answer as it came.
theorem reply_told {raw : Json} {task : RemoteTask} {payload : Json} (documented : wire.Documented)
    (received : wire.replyOf raw = some (.task task)) (bare : raw.get "state" = none)
    (held : payload.get "response" = some raw)
    (apart : ∀ key ∈ ["state", "status", "task"], payload.get key = none) :
    stateFromPayload payload = some (stateName task.status.state) := by
  have own := documented.replyState _ _ received
  unfold taskStatePath at own
  simp [stateFromPayload, stringAtPaths, statePaths, atPath_present held, own,
    atPath_absent bare, atPath_absent (apart "state" (by simp)),
    atPath_absent (apart "status" (by simp)), atPath_absent (apart "task" (by simp)), Json.asStr]

theorem answered_silent {raw : Json} {answer : Message} {payload : Json} (documented : wire.Documented)
    (received : wire.replyOf raw = some (.message answer)) (bare : raw.get "state" = none)
    (held : payload.get "response" = some raw)
    (apart : ∀ key ∈ ["state", "status", "statusUpdate", "task"], payload.get key = none) :
    carriesState payload = false := by
  have task := documented.oneReply _ _ received "task" (by decide) (by simp [replyName])
  simp [carriesState, carriedPaths, stringAtPaths, statePaths, atPath_present held,
    atPath_absent bare, atPath_absent task, atPath_absent (apart "state" (by simp)),
    atPath_absent (apart "status" (by simp)), atPath_absent (apart "statusUpdate" (by simp)),
    atPath_absent (apart "task" (by simp))]

theorem jobSend_settled {config : JobManagerConfig} {job : GatewayJobRecord} {request : Message}
    {outcome : SendMessageOutcome} {links : Jobs.JobLinks} {version : String}
    {write : Option TaskWrite} (documented : wire.Documented)
    (received : wire.replyOf outcome.rawJson = some outcome.response)
    (readable : ReadableReply outcome)
    (parsed : Jobs.linksFromSendResponse request outcome.response = .ok links)
    (written : jobSendWrite codec agent.aliasName version outcome.response = .ok write)
    (applied : Applied write before after) :
    Settled [⟨links.contextId, links.taskId, JsonRedaction.jobsRedactJson
      (Jobs.sendResponsePayload config job agent outcome)⟩] before after := by
  obtain ⟨bare, spelled⟩ := readable
  have held : (Jobs.sendResponsePayload config job agent outcome).get "response" =
      some outcome.rawJson := by simp [Jobs.sendResponsePayload, List.lookup_cons]
  have apart : ∀ key ∈ ["state", "status", "statusUpdate", "task"],
      (Jobs.sendResponsePayload config job agent outcome).get key = none := by
    simp [Jobs.sendResponsePayload, List.lookup_cons, List.lookup_nil]
  cases answered : outcome.response with
  | task task =>
      rw [answered] at received spelled parsed written
      obtain ⟨contextId, _, rest⟩ := except_bind_returned parsed
      obtain ⟨taskId, named, same⟩ := except_bind_returned rest
      cases same
      obtain ⟨one, rfl, own, leaves⟩ := freshWrite_returned named written
      refine settled_single (congrArg some own.symm) (fun _ => ?_) leaves applied
      rw [mapProtocolTaskState_eq]
      apply jobs_told _ spelled
      apply reply_told documented received bare held
      intro key member
      exact apart key (by simp at member ⊢; tauto)
  | message answer =>
      rw [answered] at received written
      cases written
      apply settled_silent applied
      intro entry member
      cases List.mem_singleton.mp member
      rw [carriesState_redacted jobs_transparent]
      exact answered_silent documented received bare held apart

theorem jobWait_settled {config : JobManagerConfig} {job : GatewayJobRecord}
    {outcome : GetTaskOutcome} {record : TaskRecord} {version : String} {write : Option TaskWrite}
    (reports : Reports outcome.task record)
    (written : freshWrite codec agent.aliasName version outcome.task
      (mapProtocolTaskState outcome.task.status.state) = .ok write)
    (applied : Applied write before after) :
    Settled [⟨record.contextId, some record.taskId, JsonRedaction.jobsRedactJson
      (Jobs.waitRefreshPayload config job agent record outcome)⟩] before after := by
  obtain ⟨one, rfl, own, leaves⟩ := freshWrite_returned reports.named written
  refine settled_single (congrArg some own.symm) (fun _ => ?_) leaves applied
  have told : stateFromPayload (Jobs.waitRefreshPayload config job agent record outcome) =
      some record.state.asStr :=
    local_told (by simp [Jobs.waitRefreshPayload, List.lookup_cons])
  rw [shownState_redacted jobs_transparent, told, mapProtocolTaskState_eq, ← reports.state]
  exact congrArg some (normalizeState_local record.state)

theorem streamRequest_settled {version : String} {prepared : PreparedMessage}
    (applied : Applied (requestWrite agent.aliasName version prepared) before after) :
    Settled [⟨prepared.requestedContextId, prepared.requestedTaskId, JsonRedaction.outputRedactJson
      (requestPayload codec prepared prepared.requestedContextId prepared.requestedTaskId)⟩]
      before after := by
  have silent := request_silent codec prepared prepared.requestedContextId prepared.requestedTaskId
  unfold requestWrite at applied
  cases named : prepared.requestedTaskId with
  | none =>
      rw [named] at applied silent
      apply settled_silent applied
      intro entry member
      cases List.mem_singleton.mp member
      exact silent
  | some taskId =>
      rw [named] at applied silent
      apply settled_single rfl ?_
        (fun existing => ⟨mergedColumns _ _ .submitted _ existing, rfl, rfl⟩) applied
      intro carries
      rw [silent] at carries
      contradiction

/-- What an operation journals of a task's state is the state that it leaves in the row. -/
theorem operation_settled {operation : Operation} {write : Option TaskWrite}
    (documented : wire.Documented) (received : wire.Received operation) (legible : Legible operation)
    (written : operation.write codec agent.aliasName = .ok write)
    (journaled : Journaled codec agent before operation entries)
    (applied : Applied write before after) : Settled entries before after := by
  cases journaled with
  | streamRequest parameters prepared =>
      cases written
      exact streamRequest_settled applied
  | streamEvent parameters event base ids parsed =>
      exact event_settled documented received legible output_transparent outputShown_names.2
        (streamWrite_writes parsed written) applied
  | sendTask parameters prepared outcome task taskId contextId message held taskOf =>
      exact send_settled written (.sendTask _ _ _ task taskId contextId message held taskOf) applied
  | sendMessage parameters prepared outcome answer message answered contextId taskId taskOf =>
      exact send_settled written
        (.sendMessage _ _ _ answer message answered contextId taskId taskOf) applied
  | refresh parameters task _ noted => exact refresh_settled written noted (by rfl) applied
  | barrier parameters task _ noted => exact refresh_settled written noted (by rfl) applied
  | jobSend config job request outcome links parsed =>
      exact jobSend_settled documented received legible parsed written applied
  | jobStream config job event ids parsed =>
      exact event_settled documented received legible jobs_transparent (fun _ => rfl)
        (jobStreamWrite_writes parsed written) applied
  | jobWait config job outcome record reports => exact jobWait_settled reports written applied
  | subscription config task job interface event ids parsed =>
      exact event_settled documented received legible subscription_transparent (fun _ => rfl)
        (subscriptionWrite_writes parsed written) applied

end Operations

/-! Runs. -/

/-- Where the last event of a task has a state, it shows the state of the row. -/
def Agrees (store : Store) : Prop :=
  ∀ taskId last, lastOf taskId store.events.rows = some last →
    carriesState last.payloadJson = true → ShowsRow last.payloadJson (store.tasks.find? taskId)

/-- Where the last event of a task has a state, the replay reports the state of the row. -/
def Replays (store : Store) : Prop :=
  ∀ taskId last, lastOf taskId store.events.rows = some last → carriesState last.payloadJson = true →
    ∃ row, store.tasks.find? taskId = some row ∧
      replayedState (replayRecords store.events.rows) taskId = some row.state.asStr

theorem agrees_replays {store : Store} (agrees : Agrees store) : Replays store := by
  intro taskId last found carries
  obtain ⟨state, held, shown⟩ := agrees taskId last found carries
  obtain ⟨row, stored, same⟩ := Option.map_eq_some_iff.mp held
  obtain ⟨text, read, normal⟩ := Option.map_eq_some_iff.mp shown
  refine ⟨row, stored, ?_⟩
  rw [replayedState_last found read, normal, same]

theorem settled_agrees {entries : List JournalEntry} {before after : Store} (agrees : Agrees before)
    (added : Added entries before after) (settled : Settled entries before.tasks after.tasks) :
    Agrees after := by
  obtain ⟨records, grown, listed⟩ := added
  intro taskId last found carries
  rw [grown, lastOf_append] at found
  cases newest : lastOf taskId records with
  | some record =>
      rw [newest, Option.some_or] at found
      cases found
      obtain ⟨member, linked⟩ := lastOf_linked newest
      have entry : entryOf last ∈ entries := listed ▸ List.mem_map_of_mem member
      exact settled.told (entryOf last) entry taskId linked carries
  | none =>
      rw [newest, Option.none_or] at found
      obtain ⟨state, held, shown⟩ := agrees taskId last found carries
      have unlinked : ∀ entry ∈ entries, entry.taskId ≠ some taskId := by
        intro entry member linked
        obtain ⟨record, recorded, rfl⟩ := List.mem_map.mp (listed ▸ member)
        have kept : record ∈ records.filter fun record => record.taskId = some taskId :=
          List.mem_filter.mpr ⟨recorded, by simpa [entryOf] using linked⟩
        rw [List.getLast?_eq_none_iff.mp newest] at kept
        contradiction
      exact ⟨state, (settled.apart taskId unlinked).trans held, shown⟩

/-- An operation that persists a task, for any agent, or anything that leaves the tasks alone and
journals nothing of a task. -/
inductive Step (wire : Wire) (codec : Codec) (allowed : Operation → Prop) : World → World → Prop
  | operation (agent : AgentRecord) (operation : Operation) (world : World)
      (received : wire.Received operation) (fits : allowed operation) :
      Step wire codec allowed world (operation.run codec agent world).2
  | elsewhere (world after : World) (entries : List JournalEntry)
      (added : Added entries world.store after.store)
      (unlinked : ∀ entry ∈ entries, entry.taskId = none)
      (kept : after.store.tasks = world.store.tasks) : Step wire codec allowed world after

/-- The worlds that a sequence of steps reaches from an empty store. -/
inductive Reached (step : World → World → Prop) : World → Prop
  | start (world : World) (blank : world.store = .empty) : Reached step world
  | next (world after : World) (before : Reached step world) (moved : step world after) :
      Reached step after

section Runs

variable {wire : Wire} {codec : Codec} {world after : World}

theorem step_agrees (documented : wire.Documented) (agrees : Agrees world.store)
    (moved : Step wire codec Legible world after) : Agrees after.store := by
  cases moved with
  | operation agent operation _ received legible =>
      cases ran : operation.run codec agent world with
      | mk outcome last =>
          cases outcome with
          | error error =>
              rw [run_failed codec agent operation ran]
              exact agrees
          | ok _ =>
              obtain ⟨entries, added, journaled⟩ := run_journaled codec agent operation ran
              obtain ⟨write, written, applied⟩ := run_applied codec agent operation ran
              exact settled_agrees agrees added
                (operation_settled documented received legible written journaled applied)
  | elsewhere _ _ entries added unlinked kept =>
      apply settled_agrees agrees added
      constructor
      · intro taskId _
        rw [kept]
      · intro entry member taskId linked
        rw [unlinked entry member] at linked
        contradiction

theorem reached_agrees (documented : wire.Documented)
    (reached : Reached (Step wire codec Legible) world) : Agrees world.store := by
  induction reached with
  | start world blank =>
      intro taskId last found
      rw [blank] at found
      contradiction
  | next world after _ moved ih => exact step_agrees documented ih moved

end Runs

/-- In every run whose streamed events are no status updates, and whose streamed tasks and answers
to jobs are in states that both vocabularies spell alike, the replay reports the states of the
rows. -/
theorem legible_runs_replay (wire : Wire) (documented : wire.Documented) (codec : Codec)
    (world : World) (reached : Reached (Step wire codec Legible) world) : Replays world.store :=
  agrees_replays (reached_agrees documented reached)

/-! A task that is streamed as canceled, and one that is streamed at work. -/

def stateNamed (name : String) : Option ProtocolTaskState :=
  [.unspecified, .submitted, .working, .completed, .failed, .canceled, .inputRequired, .rejected,
    .authRequired].find? fun state => stateName state = name

def plainTaskOf (raw : Json) : Option RemoteTask := do
  let id ← (raw.get "id").bind Json.asStr
  let contextId ← (raw.get "contextId").bind Json.asStr
  let name ← (atPath raw ["status", "state"]).bind Json.asStr
  let state ← stateNamed name
  some ⟨⟨id, contextId, none⟩, ⟨state, none, none⟩, none, none⟩

def plainMember (raw : Json) : Option RemoteTask :=
  if ["artifactUpdate", "message", "statusUpdate"].all fun name => (raw.get name).isNone then
    (raw.get "task").bind plainTaskOf
  else none

-- It reads the tasks that hold nothing but a state.
def plainWire : Wire where
  streamOf raw := (plainMember raw).map .task
  replyOf raw := (plainMember raw).map .task

theorem stateNamed_name {name : String} {state : ProtocolTaskState}
    (found : stateNamed name = some state) : stateName state = name := by
  simpa using List.find?_some found

theorem plainMember_alone {raw : Json} {task : RemoteTask} (read : plainMember raw = some task)
    (name : String) (listed : name ∈ memberNames) (other : name ≠ "task") : raw.get name = none := by
  unfold plainMember at read
  split at read
  · rename_i alone
    simp only [List.all_cons, List.all_nil, Bool.and_true, Bool.and_eq_true,
      Option.isNone_iff_eq_none] at alone
    simp only [memberNames, List.mem_cons, List.not_mem_nil, or_false] at listed
    rcases listed with rfl | rfl | rfl | rfl
    · exact alone.1
    · exact alone.2.1
    · exact alone.2.2
    · exact absurd rfl other
  · contradiction

theorem plainMember_state {raw : Json} {task : RemoteTask} (read : plainMember raw = some task) :
    atPath raw taskStatePath = some (.string (stateName task.status.state)) := by
  unfold plainMember at read
  split at read
  · obtain ⟨held, present, parsed⟩ := Option.bind_eq_some_iff.mp read
    obtain ⟨id, _, parsed⟩ := Option.bind_eq_some_iff.mp parsed
    obtain ⟨contextId, _, parsed⟩ := Option.bind_eq_some_iff.mp parsed
    obtain ⟨name, placed, parsed⟩ := Option.bind_eq_some_iff.mp parsed
    obtain ⟨state, known, same⟩ := Option.bind_eq_some_iff.mp parsed
    cases same
    obtain ⟨value, found, text⟩ := Option.bind_eq_some_iff.mp placed
    rw [taskStatePath, atPath_present present, found, stateNamed_name known]
    cases value <;> simp_all [Json.asStr]
  · contradiction

theorem plainWire_documented : plainWire.Documented where
  oneMember raw event read name listed other := by
    obtain ⟨task, parsed, rfl⟩ := Option.map_eq_some_iff.mp read
    exact plainMember_alone parsed name listed other
  taskState raw task read := by
    obtain ⟨_, parsed, same⟩ := Option.map_eq_some_iff.mp read
    cases same
    exact plainMember_state parsed
  oneReply raw reply read name listed other := by
    obtain ⟨task, parsed, rfl⟩ := Option.map_eq_some_iff.mp read
    exact plainMember_alone parsed name listed other
  replyState raw task read := by
    obtain ⟨_, parsed, same⟩ := Option.map_eq_some_iff.mp read
    cases same
    exact plainMember_state parsed

open TaskIsolation TaskCompletion in
def streamedTask (state : ProtocolTaskState) : Operation :=
  .streamEvent plainParameters ⟨0, none, .task (plainTask firstTask state),
    .object [("task", .object [("contextId", .string sharedContext.text),
      ("id", .string firstTask.text),
      ("status", .object [("state", .string (stateName state))])])]⟩ .new

def streamedWorld (state : ProtocolTaskState) : World :=
  ((streamedTask state).run plainCodec TaskIsolation.echoRecord TaskCompletion.agentWorld).2

theorem streamedWorld_reached (allowed : Operation → Prop) (state : ProtocolTaskState)
    (received : plainWire.Received (streamedTask state)) (fits : allowed (streamedTask state)) :
    Reached (Step plainWire plainCodec allowed) (streamedWorld state) := by
  apply Reached.next TaskCompletion.agentWorld
  · apply Reached.next TaskIsolation.blankWorld
    · exact .start _ (by rfl)
    · exact .elsewhere _ _ [] (Added.of_same (by rfl)) (by simp) (by rfl)
  · exact .operation _ _ _ received fits

theorem working_task_replayed :
    (lastOf firstTask (streamedWorld .working).store.events.rows).map
        (fun last => carriesState last.payloadJson) = some true ∧
      Replays (streamedWorld .working).store := by
  refine ⟨by decide, ?_⟩
  apply legible_runs_replay plainWire plainWire_documented plainCodec
  apply streamedWorld_reached
  · rfl
  · exact ⟨by decide, by rfl, by rfl⟩

theorem canceled_task_shown :
    (lastOf firstTask (streamedWorld .canceled).store.events.rows).map
        (fun last => carriesState last.payloadJson) = some true ∧
    ((streamedWorld .canceled).store.tasks.find? firstTask).map TaskRecord.state =
      some .cancelled ∧
    replayedState (replayRecords (streamedWorld .canceled).store.events.rows) firstTask =
      some "canceled" := by
  decide +kernel

theorem canceled_task_misread :
    ¬ ∀ (wire : Wire) (codec : Codec) (world : World), wire.Documented →
      Reached (Step wire codec fun _ => True) world → Replays world.store := by
  intro replays
  have reached := streamedWorld_reached (fun _ => True) .canceled (by rfl) trivial
  obtain ⟨carried, stored, replayed⟩ := canceled_task_shown
  obtain ⟨last, found, carries⟩ := Option.map_eq_some_iff.mp carried
  obtain ⟨row, held, same⟩ := replays _ _ _ plainWire_documented reached firstTask last found carries
  rw [held, Option.map_some, Option.some.injEq] at stored
  rw [replayed, stored] at same
  exact absurd same (by decide)

end Missive.StateReplay
